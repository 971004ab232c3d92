import P4xos.Bmv2.PaxosLearner

/-!
# The replica: in-order delivery and recovery of gaps

`Learner` of `bmv2/scripts/paxoscore/learner.py`: the loop around `PaxosLearner` that turns
decisions into calls of the application's handler, in the order of their instances, and that asks
for the votes of an instance it misses by sending a 1A.

Python's control flow is kept: each method returns the state after it, what it did to the outside
(`Out`), and its result or the exception that left it. The application behind `addDeliver` and
`json.loads` are a parameter (`Application`); a handler may or may not call its `Deferred` back, and
may raise. `sendMsg` repeats a message on every interface of the host, which is one `Out.sendMsg`
here.

`deliverInstance` calls itself once for each instance it passes, downwards and upwards, and nothing
in the repository raises CPython's limit on the depth of the stack. How deep its calls can be nested
is therefore a parameter too (`Application.depth`): a call at that depth has room for everything it
calls itself, and a deeper one raises a `RuntimeError`, which no `except` clause on the way catches.
That the frames below and above the recursion always take the same share of the stack is an
idealisation.

* `deliverInstance_of_le`: the recursion downwards ends at `minUncommitedIndex`, with as much of the
  stack used as there are instances between; `deliverInstance_too_deep`: or there is no room for it.
* `deliverInstance_catches_up`: from there everything up to the first gap is delivered.
* `InOrder` is the invariant of in-order delivery. As long as no call has raised, what is logged
  ahead of a gap is near enough for the recursion upwards (`Roomy`), so that only the one downwards
  can fail.
* `delivers_in_order_iff`: over any sequence of decisions, every call returns and the handler has
  been called on instances `1, …, k` in this order, where `k + 1` is the first instance not decided,
  exactly if no decision comes too far ahead of the first instance not decided before it (`Near`).
-/

namespace P4xos.Bmv2

open P4xos.Lib

/-- What a replica runs with, and on: `json.loads`; the handler with its state, the result it calls
the `Deferred` back with, if it does, and the exception it raises, if it does; and the interpreter,
by the number of calls of `deliverInstance` that can be nested below the first one. -/
structure Application (σ Cmd : Type*) where
  loads : Bytes → Except PyExc Cmd
  deliver : σ → Cmd → σ × Option PyText × Option PyExc
  depth : ℕ

/-- What a replica does to the outside. -/
inductive Out (Cmd : Type*)
  /-- The handler is called with the command of an instance. -/
  | deliver (inst : ℕ) (cmd : Cmd)
  /-- A datagram is sent to a group address. -/
  | sendMsg (msg : Bytes) (dst : String) (dport : ℕ)
  /-- The result of a request is sent to the client. -/
  | respond (data : Bytes) (dst : String) (sport dport : ℕ)
  deriving DecidableEq

/-- The replica's state; `app` is the state of the object whose method is the handler.
Source: `bmv2/scripts/paxoscore/learner.py` `Learner` -/
structure Learner (σ : Type*) where
  learner : PaxosLearner Bytes
  learner_addr : String
  learner_port : ℕ
  minUncommitedIndex : ℕ
  maxInstance : ℕ
  app : σ

/-- The layers of a sniffed packet that are looked at. -/
structure Pkt where
  /-- `proto` and `src` of the IP layer. -/
  ip : Option (ℕ × String)
  /-- `sport` and `dport` of the UDP layer. -/
  udp : Option (ℕ × ℕ)
  /-- `load` of the Raw layer. -/
  raw : Option Bytes

namespace Learner

variable {σ Cmd : Type*}

/-- Source: `bmv2/scripts/paxoscore/learner.py` `Learner.__init__` -/
def new (num_acceptors : ℕ) (learner_addr : String) (learner_port : ℕ) (app : σ) : Learner σ where
  learner := PaxosLearner.new num_acceptors
  learner_addr := learner_addr
  learner_port := learner_port
  minUncommitedIndex := 1
  maxInstance := 1
  app := app

/-- The reply to the client, which runs as a callback of the `Deferred`; `str(result)` raises if the
result has a character outside ASCII.
Source: `bmv2/scripts/paxoscore/learner.py` `respond` -/
def respond (result : PyText) (req_id : ℕ) (dst : String) (sport dport : ℕ) :
    Except PyExc (Out Cmd) :=
  match result.str with
  | .error e => .error e
  | .ok text => .ok (.respond (beEncode 1 req_id ++ padTo VALUE_SIZE text) dst sport dport)

/-- Source: `bmv2/scripts/paxoscore/learner.py` `make_paxos`; packing `None` as a string is an error
of `struct` -/
def make_paxos (typ i rnd vrnd : ℕ) (val : Option Bytes) : Except PyExc Bytes :=
  let request_id := 10
  let acceptor_id := 10
  match val with
  | none => .error .StructError
  | some val => pack { typ := typ, inst := i, rnd := rnd, vrnd := vrnd,
                       acceptor_id := acceptor_id, req_id := request_id, value := val }

/-- Ask the acceptors for their votes, always in round 1.
Source: `bmv2/scripts/paxoscore/learner.py` `retryInstance` -/
def retryInstance (L : Learner σ) (inst : ℕ) : Except PyExc (Out Cmd) :=
  match make_paxos PHASE_1A inst 1 0 (some []) with
  | .error e => .error e
  | .ok msg1a => .ok (.sendMsg msg1a L.learner_addr L.learner_port)

/-- The bytes of `"Retry"`. -/
def retryText : Bytes := [82, 101, 116, 114, 121]

/-- What is sent when a `Deferred` with this result gets `respond` as its callback: an exception
that leaves a callback stays in the `Deferred`.
Source: `bmv2/scripts/paxoscore/learner.py` `handle_pkt`, `d.addCallback(self.respond, …)` -/
def addCallback (result : Option PyText) (req_id : ℕ) (dst : String) (sport dport : ℕ) :
    List (Out Cmd) :=
  (result.bind fun result => (respond result req_id dst sport dport).toOption).toList

/-- The `except` clauses of `deliverInstance`: a `KeyError`, wherever it comes from, is taken for a
gap; anything else is raised again. `d` is the local `Deferred` at this point.
Source: `bmv2/scripts/paxoscore/learner.py` `deliverInstance` -/
def catchKeyError (inst : ℕ) (L : Learner σ) (outs : List (Out Cmd)) (d : Deferred PyText)
    (r : Except PyExc (Option (Deferred PyText))) :
    Learner σ × List (Out Cmd) × Except PyExc (Option (Deferred PyText)) :=
  match r with
  | .error .KeyError =>
      match L.retryInstance inst with
      | .error e => (L, outs, .error e)
      | .ok msg1a =>
          if d.result.isSome then (L, outs ++ [msg1a], .error .AlreadyCalledError)
          else (L, outs ++ [msg1a], .ok (some ⟨some (.bytes retryText)⟩))
  | r => (L, outs, r)

/-- Deliver the instance if it is the next one, and then the ones after it; otherwise try the one
before it. An instance already delivered gives `None`. The first argument is the number of calls
that the stack has room for, this one included.
Source: `bmv2/scripts/paxoscore/learner.py` `deliverInstance` -/
def deliverInstance (app : Application σ Cmd) : ℕ → Learner σ → ℕ →
    Learner σ × List (Out Cmd) × Except PyExc (Option (Deferred PyText))
  | 0, L, _ => (L, [], .error .RuntimeError)
  | room + 1, L, inst =>
      if inst = L.minUncommitedIndex then
        match L.learner.logs inst with
        | none => catchKeyError inst L [] ⟨none⟩ (.error .KeyError)
        | some cmd =>
            match app.loads cmd with
            | .error e => catchKeyError inst L [] ⟨none⟩ (.error e)
            | .ok cmd_in_dict =>
                let outs := [Out.deliver inst cmd_in_dict]
                match app.deliver L.app cmd_in_dict with
                | (a, result, some e) =>
                    catchKeyError inst { L with app := a } outs ⟨result⟩ (.error e)
                | (a, result, none) =>
                    let L' := { L with app := a, minUncommitedIndex := L.minUncommitedIndex + 1 }
                    if inst < L.maxInstance then
                      match deliverInstance app room L' (inst + 1) with
                      | (L'', outs', .error e) =>
                          catchKeyError inst L'' (outs ++ outs') ⟨result⟩ (.error e)
                      | (L'', outs', .ok _) => (L'', outs ++ outs', .ok (some ⟨result⟩))
                    else (L', outs, .ok (some ⟨result⟩))
      else if L.minUncommitedIndex < inst then
        match deliverInstance app room L (inst - 1) with
        | (L', outs, r) => catchKeyError inst L' outs ⟨none⟩ r
      else (L, [], .ok none)

/-- The `except` clause of `handle_pkt`: an `IndexError` is logged and forgotten.
Source: `bmv2/scripts/paxoscore/learner.py` `handle_pkt` -/
def catchIndexError (L : Learner σ) (outs : List (Out Cmd)) (e : PyExc) :
    Learner σ × List (Out Cmd) × Except PyExc Unit :=
  if e = .IndexError then (L, outs, .ok ()) else (L, outs, .error e)

/-- What follows a returned decision.
Source: `bmv2/scripts/paxoscore/learner.py` `handle_pkt`, the lines under `if res is not None` of
the 2B branch -/
def deliverDecision (app : Application σ Cmd) (L : Learner σ) (inst req_id : ℕ) (src : String)
    (udp : Option (ℕ × ℕ)) : Learner σ × List (Out Cmd) × Except PyExc Unit :=
  let L := if L.maxInstance < inst then { L with maxInstance := inst } else L
  match deliverInstance app (app.depth + 1) L inst with
  | (L, outs, .error e) => catchIndexError L outs e
  | (L, outs, .ok none) => (L, outs, .error .AttributeError)
  | (L, outs, .ok (some d)) =>
      match udp with
      | none => catchIndexError L outs .IndexError
      | some (sport, dport) =>
          (L, outs ++ addCallback d.result req_id src dport sport, .ok ())

/-- Source: `bmv2/scripts/paxoscore/learner.py` `handle_pkt` -/
def handle_pkt (app : Application σ Cmd) (L : Learner σ) (pkt : Pkt) :
    Learner σ × List (Out Cmd) × Except PyExc Unit :=
  match pkt.ip with
  | none => catchIndexError L [] .IndexError
  | some (proto, src) =>
    if proto ≠ 0x11 then (L, [], .ok ())
    else match pkt.raw with
    | none => catchIndexError L [] .IndexError
    | some datagram =>
      match unpack (datagram.take P4v14.PAXOS_LEN) with
      | .error e => catchIndexError L [] e
      | .ok f =>
        let msg : PaxosMessage Bytes :=
          { nid := f.acceptor_id, inst := f.inst, crnd := f.rnd, vrnd := f.vrnd,
            val := rstrip stripChars f.value }
        if f.typ = PHASE_2B then
          match L.learner.handle_p2b msg with
          | .error e => catchIndexError L [] e
          | .ok (learner, none) => ({ L with learner := learner }, [], .ok ())
          | .ok (learner, some (inst, _)) =>
              deliverDecision app { L with learner := learner } inst f.req_id src pkt.udp
        else if f.typ = PHASE_1B then
          match L.learner.handle_p1b msg with
          | (learner, none) => ({ L with learner := learner }, [], .ok ())
          | (learner, some res) =>
              match make_paxos PHASE_2A res.inst res.crnd res.vrnd res.val with
              | .error e => catchIndexError { L with learner := learner } [] e
              | .ok msg2a =>
                  ({ L with learner := learner },
                    [.sendMsg msg2a L.learner_addr L.learner_port], .ok ())
        else (L, [], .ok ())

/-! ## The recursion -/

/-- The 1A for an instance, as it is sent. -/
def request1a (inst : ℕ) : Fields where
  typ := PHASE_1A
  inst := inst
  rnd := 1
  vrnd := 0
  acceptor_id := 10
  req_id := 10
  value := []

variable (Cmd) in
/-- Asking for an instance sends its 1A, unless the number does not fit the header. All other fields
of the 1A are constants that fit. -/
lemma retryInstance_cases (L : Learner σ) (inst : ℕ) :
    (65536 ≤ inst ∧ (L.retryInstance inst : Except PyExc (Out Cmd)) = .error .StructError) ∨
    (inst < 65536 ∧ ∃ msg, pack (request1a inst) = .ok msg ∧
      (L.retryInstance inst : Except PyExc (Out Cmd)) =
        .ok (.sendMsg msg L.learner_addr L.learner_port)) := by
  have hfits : (request1a inst).Fits ↔ inst < 65536 := by
    simp [Fields.Fits, request1a, PHASE_1A]
  have hmake : make_paxos PHASE_1A inst 1 0 (some []) = pack (request1a inst) := rfl
  unfold retryInstance
  rw [hmake]
  by_cases h : inst < 65536
  · right
    obtain ⟨msg, hmsg⟩ : ∃ msg, pack (request1a inst) = .ok msg := by
      unfold pack
      rw [if_pos (hfits.mpr h)]
      exact ⟨_, rfl⟩
    rw [hmsg]
    exact ⟨h, msg, rfl, rfl⟩
  · left
    rw [pack, if_neg fun hf => h (hfits.mp hf)]
    exact ⟨Nat.le_of_not_lt h, rfl⟩

/-- No `KeyError` leaves the `except` clauses. -/
lemma catchKeyError_ne_keyError (inst : ℕ) (L : Learner σ) (outs : List (Out Cmd))
    (d : Deferred PyText)
    (r : Except PyExc (Option (Deferred PyText))) :
    (catchKeyError inst L outs d r).2.2 ≠ .error .KeyError := by
  unfold catchKeyError
  split
  · rcases retryInstance_cases Cmd L inst with ⟨-, h⟩ | ⟨-, msg, -, h⟩ <;> rw [h]
    · simp
    · dsimp only
      split_ifs <;> simp
  · rename_i hne
    exact hne

/-- Without a `KeyError` the `except` clauses do nothing. -/
lemma catchKeyError_of_ne {inst : ℕ} {L : Learner σ} {outs : List (Out Cmd)} {d : Deferred PyText}
    {r : Except PyExc (Option (Deferred PyText))} (h : r ≠ .error .KeyError) :
    catchKeyError inst L outs d r = (L, outs, r) := by
  unfold catchKeyError
  split
  · exact absurd rfl h
  · rfl

/-- No `KeyError` leaves `deliverInstance`. -/
lemma deliverInstance_ne_keyError (app : Application σ Cmd) (room : ℕ) (L : Learner σ)
    (inst : ℕ) : (deliverInstance app room L inst).2.2 ≠ .error .KeyError := by
  fun_cases deliverInstance app room L inst
  all_goals first | exact catchKeyError_ne_keyError _ _ _ _ _ | simp

/-- What a recursion leaves alone, and what it can send: the promises, votes and log of the learner,
the address, and the highest instance stay; only 1A messages are sent. -/
structure Frame (L L' : Learner σ) (outs : List (Out Cmd)) : Prop where
  learner : L'.learner = L.learner
  learner_addr : L'.learner_addr = L.learner_addr
  learner_port : L'.learner_port = L.learner_port
  outs : ∀ o ∈ outs, (∃ i c, o = .deliver i c) ∨
    ∃ i msg, pack (request1a i) = .ok msg ∧ o = .sendMsg msg L.learner_addr L.learner_port

/-- Nothing has happened. -/
lemma Frame.refl (L : Learner σ) : Frame L L ([] : List (Out Cmd)) := ⟨rfl, rfl, rfl, by simp⟩

/-- One recursion after another. -/
lemma Frame.trans {L L' L'' : Learner σ} {outs outs' : List (Out Cmd)} (h : Frame L L' outs)
    (h' : Frame L' L'' outs') : Frame L L'' (outs ++ outs') where
  learner := h'.learner.trans h.learner
  learner_addr := h'.learner_addr.trans h.learner_addr
  learner_port := h'.learner_port.trans h.learner_port
  outs o ho := by
    rcases List.mem_append.mp ho with ho | ho
    · exact h.outs o ho
    · rw [← h.learner_addr, ← h.learner_port]
      exact h'.outs o ho

/-- The `except` clauses keep the frame. A 1A is added to what was sent, whether or not the
`Deferred` had been called back. -/
lemma Frame.catchKeyError {L L' : Learner σ} {outs : List (Out Cmd)} (h : Frame L L' outs)
    (inst : ℕ) (d : Deferred PyText) (r : Except PyExc (Option (Deferred PyText))) :
    Frame L (catchKeyError inst L' outs d r).1 (catchKeyError inst L' outs d r).2.1 := by
  unfold Learner.catchKeyError
  split
  · rcases retryInstance_cases Cmd L' inst with ⟨-, he⟩ | ⟨-, msg, hmsg, he⟩ <;> rw [he]
    · exact h
    · have hsent : Frame L' L'
          ([.sendMsg msg L'.learner_addr L'.learner_port] : List (Out Cmd)) := by
        refine ⟨rfl, rfl, rfl, fun o ho => .inr ⟨inst, msg, hmsg, ?_⟩⟩
        simpa using ho
      dsimp only
      split_ifs <;> exact h.trans hsent
  · exact h

/-- Calling the handler is in the frame. -/
lemma Frame.deliver (L : Learner σ) (a : σ) (m inst : ℕ) (c : Cmd) :
    Frame L { L with app := a, minUncommitedIndex := m } [Out.deliver inst c] := by
  refine ⟨rfl, rfl, rfl, fun o ho => .inl ⟨inst, c, ?_⟩⟩
  simpa using ho

/-- **The frame of the recursion.** The cases are those of the recursion: what the call itself does
is kept by `Frame.deliver`, what the nested call does by the induction hypothesis, and the `except`
clauses come last. -/
lemma deliverInstance_frame (app : Application σ Cmd) (room : ℕ) (L : Learner σ) (inst : ℕ) :
    Frame L (deliverInstance app room L inst).1 (deliverInstance app room L inst).2.1 := by
  fun_induction deliverInstance app room L inst with
  | case1 L => exact Frame.refl L
  | case2 room L _ => exact (Frame.refl L).catchKeyError _ _ _
  | case3 room L => exact (Frame.refl L).catchKeyError _ _ _
  | case4 room L => exact (Frame.deliver L _ _ _ _).catchKeyError _ _ _
  | case5 room L cmd c _ a result _ L' L'' outs' e _ outs _ heq ih =>
      rw [heq] at ih
      exact ((Frame.deliver L _ _ _ _).trans ih).catchKeyError _ _ _
  | case6 room L cmd c _ a result _ L' L'' outs' d _ outs _ heq ih =>
      rw [heq] at ih
      exact (Frame.deliver L _ _ _ _).trans ih
  | case7 room L => exact Frame.deliver L _ _ _ _
  | case8 room L inst _ _ L' outs r heq ih =>
      rw [heq] at ih
      exact ih.catchKeyError _ _ _
  | case9 room L => exact Frame.refl L

/-- The highest instance after a decision. -/
lemma ite_maxInstance (L : Learner σ) (inst : ℕ) :
    (if L.maxInstance < inst then { L with maxInstance := inst } else L) =
      { L with maxInstance := max L.maxInstance inst } := by
  by_cases h : L.maxInstance < inst
  · rw [if_pos h, max_eq_right h.le]
  · rw [if_neg h, max_eq_left (Nat.le_of_not_lt h)]

/-- A callback sends at most one message, to the client. It sends none if there is no result, or if
`str` fails on it. -/
lemma mem_addCallback {result : Option PyText} {req_id : ℕ} {dst : String} {sport dport : ℕ}
    {o : Out Cmd} (h : o ∈ addCallback result req_id dst sport dport) :
    ∃ data, o = .respond data dst sport dport := by
  unfold addCallback respond at h
  rcases result with _ | result
  · simp at h
  · rcases hstr : result.str with e | text
    · simp [hstr, Except.toOption] at h
    · exact ⟨beEncode 1 req_id ++ padTo VALUE_SIZE text, by
        simpa [hstr, Except.toOption] using h⟩

/-- What follows a decision leaves the promises, votes and log of the learner alone, and sends only
1A messages. The recursion does (`deliverInstance_frame`), and a callback sends a reply, which is no
1A. -/
lemma deliverDecision_frame (app : Application σ Cmd) (L : Learner σ) (inst req_id : ℕ)
    (src : String) (udp : Option (ℕ × ℕ)) :
    (deliverDecision app L inst req_id src udp).1.learner = L.learner ∧
      ∀ msg dst dport, Out.sendMsg msg dst dport ∈
        (deliverDecision app L inst req_id src udp).2.1 → ∃ i, pack (request1a i) = .ok msg := by
  have hsent : ∀ {L₁ : Learner σ} {outs : List (Out Cmd)},
      Frame { L with maxInstance := max L.maxInstance inst } L₁ outs →
      L₁.learner = L.learner ∧ ∀ msg dst dport, Out.sendMsg msg dst dport ∈ outs →
        ∃ i, pack (request1a i) = .ok msg := by
    intro L₁ outs h
    refine ⟨h.learner, fun msg dst dport hmem => ?_⟩
    rcases h.outs _ hmem with ⟨i, c, heq⟩ | ⟨i, msg', hmsg, heq⟩ <;> cases heq
    exact ⟨i, hmsg⟩
  have hf := deliverInstance_frame app (app.depth + 1)
    { L with maxInstance := max L.maxInstance inst } inst
  unfold deliverDecision
  rw [ite_maxInstance]
  dsimp only
  rcases he : deliverInstance app (app.depth + 1) { L with maxInstance := max L.maxInstance inst }
    inst with ⟨L₁, outs, e | d⟩ <;> rw [he] at hf
  · unfold catchIndexError
    dsimp only
    split_ifs <;> exact hsent hf
  · rcases d with _ | d <;> rcases udp with _ | ⟨sport, dport⟩ <;> try exact hsent hf
    refine ⟨(hsent hf).1, fun msg dst dport' hmem => ?_⟩
    rcases List.mem_append.mp hmem with hmem | hmem
    · exact (hsent hf).2 msg dst dport' hmem
    · obtain ⟨data, hdata⟩ := mem_addCallback hmem
      cases hdata

/-- **The recursion downwards** ends at the first instance not delivered, with one call less to go
for each instance passed. -/
lemma deliverInstance_of_le (app : Application σ Cmd) {L : Learner σ} {inst : ℕ}
    (h : L.minUncommitedIndex ≤ inst) (room : ℕ) :
    deliverInstance app (room + (inst - L.minUncommitedIndex)) L inst =
      deliverInstance app room L L.minUncommitedIndex := by
  induction inst, h using Nat.le_induction with
  | base => rw [Nat.sub_self, Nat.add_zero]
  | succ n hn ih =>
      rw [Nat.succ_sub hn, Nat.add_succ, deliverInstance, if_neg (by omega), if_pos (by omega),
        Nat.add_sub_cancel, ih]
      exact catchKeyError_of_ne (deliverInstance_ne_keyError app _ L _)

/-- **There is no room for the recursion downwards**: nothing is called or sent. -/
lemma deliverInstance_too_deep (app : Application σ Cmd) {L : Learner σ} {room inst : ℕ}
    (h : L.minUncommitedIndex + room ≤ inst) :
    deliverInstance app room L inst = (L, [], .error .RuntimeError) := by
  induction room generalizing inst with
  | zero => rfl
  | succ room ih =>
      rw [deliverInstance, if_neg (by omega), if_pos (by omega), ih (by omega)]
      exact catchKeyError_of_ne (by simp)

/-- The room that is left at the first instance not delivered, if it can be reached. -/
lemma deliverInstance_of_near (app : Application σ Cmd) {L : Learner σ} {inst : ℕ}
    (h : L.minUncommitedIndex ≤ inst) (hnear : inst ≤ L.minUncommitedIndex + app.depth) :
    deliverInstance app (app.depth + 1) L inst =
      deliverInstance app (app.depth - (inst - L.minUncommitedIndex) + 1) L
        L.minUncommitedIndex := by
  rw [← deliverInstance_of_le app h]
  congr 1
  omega

/-- A decision that comes too far ahead makes the call raise. -/
lemma deliverDecision_too_far (app : Application σ Cmd) {L : Learner σ} {inst : ℕ}
    (h : L.minUncommitedIndex + app.depth < inst) (req_id : ℕ) (src : String)
    (udp : Option (ℕ × ℕ)) :
    deliverDecision app L inst req_id src udp =
      ({ L with maxInstance := max L.maxInstance inst }, [], .error .RuntimeError) := by
  have hdeep : deliverInstance app (app.depth + 1) { L with maxInstance := max L.maxInstance inst }
      inst = ({ L with maxInstance := max L.maxInstance inst }, [], .error .RuntimeError) :=
    deliverInstance_too_deep app h
  unfold deliverDecision
  rw [ite_maxInstance]
  dsimp only
  rw [hdeep]
  rfl

/-! ## Catching up -/

/-- The calls of the handler, in order. -/
def deliveries (outs : List (Out Cmd)) : List (ℕ × Cmd) :=
  outs.filterMap fun
    | .deliver inst cmd => some (inst, cmd)
    | _ => none

/-- Nothing was done. -/
@[simp] lemma deliveries_nil : deliveries ([] : List (Out Cmd)) = [] := rfl

/-- What is done later is called later. -/
@[simp] lemma deliveries_append (outs outs' : List (Out Cmd)) :
    deliveries (outs ++ outs') = deliveries outs ++ deliveries outs' := List.filterMap_append

/-- Two neighbouring ranges of instances. -/
lemma range'_append_range' {a b c : ℕ} (hab : a ≤ b) (hbc : b ≤ c) :
    List.range' a (b - a) ++ List.range' b (c - b) = List.range' a (c - a) := by
  have happ := List.range'_append_1 (s := a) (m := b - a) (n := c - b)
  rwa [show a + (b - a) = b by omega, show b - a + (c - b) = c - a by omega] at happ

/-- The handler is called on the logged command. -/
def Logged (app : Application σ Cmd) (L : Learner σ) (p : ℕ × Cmd) : Prop :=
  ∃ v, L.learner.logs p.1 = some v ∧ app.loads v = .ok p.2

/-- The 1A for an instance has been sent to the learner's group. -/
def Requested (L : Learner σ) (inst : ℕ) (outs : List (Out Cmd)) : Prop :=
  ∃ msg, pack (request1a inst) = .ok msg ∧
    Out.sendMsg msg L.learner_addr L.learner_port ∈ outs

/-- A gap at the first instance not delivered: its 1A is sent, and nothing else happens. -/
lemma deliverInstance_gap (app : Application σ Cmd) {L : Learner σ}
    (hlog : L.learner.logs L.minUncommitedIndex = none) (hlt : L.minUncommitedIndex < 65536)
    (room : ℕ) : ∃ msg, pack (request1a L.minUncommitedIndex) = .ok msg ∧
      deliverInstance app (room + 1) L L.minUncommitedIndex =
        (L, [.sendMsg msg L.learner_addr L.learner_port],
          .ok (some ⟨some (.bytes retryText)⟩)) := by
  rcases retryInstance_cases Cmd L L.minUncommitedIndex with ⟨h, -⟩ | ⟨-, msg, hmsg, he⟩
  · omega
  · refine ⟨msg, hmsg, ?_⟩
    rw [deliverInstance, if_pos rfl, hlog]
    simp [catchKeyError, he]

/-- The next instance is logged, and the handler accepts its command. The nested call for the
instance behind it is left as it is, since an exception from there passes the `except` clauses of
this call as well. -/
lemma deliverInstance_next {app : Application σ Cmd} {L : Learner σ} {v : Bytes} {c : Cmd} {a : σ}
    {result : Option PyText} (hlog : L.learner.logs L.minUncommitedIndex = some v)
    (hloads : app.loads v = .ok c) (hdel : app.deliver L.app c = (a, result, none)) (room : ℕ) :
    deliverInstance app (room + 1) L L.minUncommitedIndex =
      if L.minUncommitedIndex < L.maxInstance then
        match deliverInstance app room
          { L with app := a, minUncommitedIndex := L.minUncommitedIndex + 1 }
          (L.minUncommitedIndex + 1) with
        | (L', outs, .error e) =>
            catchKeyError L.minUncommitedIndex L' (.deliver L.minUncommitedIndex c :: outs)
              ⟨result⟩ (.error e)
        | (L', outs, .ok _) =>
            (L', .deliver L.minUncommitedIndex c :: outs, .ok (some ⟨result⟩))
      else ({ L with app := a, minUncommitedIndex := L.minUncommitedIndex + 1 },
        [.deliver L.minUncommitedIndex c], .ok (some ⟨result⟩)) := by
  rw [deliverInstance, if_pos rfl, hlog]
  simp only [hloads, hdel]
  rfl

/-- What a call has done when the next instance to deliver is `n` after it: everything from the
first instance not delivered up to `n` was logged and has been delivered in order, and if `n` is a
gap below the highest instance, it has been asked for. The calls are on logged commands. -/
structure CaughtUp (app : Application σ Cmd) (L : Learner σ) (n : ℕ) (outs : List (Out Cmd)) :
    Prop where
  le : L.minUncommitedIndex ≤ n
  le_max : n ≤ L.maxInstance + 1
  logged : ∀ j, L.minUncommitedIndex ≤ j → j < n → (L.learner.logs j).isSome
  gap : n ≤ L.maxInstance → L.learner.logs n = none ∧ Requested L n outs
  order : (deliveries outs).map Prod.fst =
    List.range' L.minUncommitedIndex (n - L.minUncommitedIndex)
  commands : ∀ p ∈ deliveries outs, Logged app L p

/-- Nothing is left to deliver. -/
lemma CaughtUp.done (app : Application σ Cmd) {L : Learner σ}
    (h : L.minUncommitedIndex = L.maxInstance + 1) : CaughtUp app L L.minUncommitedIndex [] where
  le := le_rfl
  le_max := h.le
  logged j hj hlt := by omega
  gap hle := by omega
  order := by simp
  commands p hp := by simp at hp

/-- The next instance is a gap, and its 1A is all that happens. -/
lemma CaughtUp.of_gap (app : Application σ Cmd) {L : Learner σ} {msg : Bytes}
    (hlog : L.learner.logs L.minUncommitedIndex = none)
    (hle : L.minUncommitedIndex ≤ L.maxInstance + 1)
    (hmsg : pack (request1a L.minUncommitedIndex) = .ok msg) :
    CaughtUp app L L.minUncommitedIndex [.sendMsg msg L.learner_addr L.learner_port] where
  le := le_rfl
  le_max := hle
  logged j hj hlt := by omega
  gap _ := ⟨hlog, msg, hmsg, List.mem_singleton.mpr rfl⟩
  order := by simp [deliveries]
  commands p hp := by simp [deliveries] at hp

/-- One delivery before catching up. The instance delivered first continues the range at its lower
end. -/
lemma CaughtUp.cons {app : Application σ Cmd} {L : Learner σ} {a : σ} {v : Bytes} {c : Cmd} {n : ℕ}
    {outs : List (Out Cmd)} (hlog : L.learner.logs L.minUncommitedIndex = some v)
    (hloads : app.loads v = .ok c)
    (h : CaughtUp app { L with app := a, minUncommitedIndex := L.minUncommitedIndex + 1 } n outs) :
    CaughtUp app L n (.deliver L.minUncommitedIndex c :: outs) where
  le := Nat.le_of_succ_le h.le
  le_max := h.le_max
  logged j hj hjn := by
    rcases hj.eq_or_lt with rfl | hlt
    · rw [hlog]
      rfl
    · exact h.logged j hlt hjn
  gap hn := by
    obtain ⟨hnone, msg, hmsg, hmem⟩ := h.gap hn
    exact ⟨hnone, msg, hmsg, List.mem_cons_of_mem _ hmem⟩
  order := by
    have hle : L.minUncommitedIndex + 1 ≤ n := h.le
    obtain ⟨k, rfl⟩ := Nat.exists_eq_add_of_le hle
    have horder : (deliveries outs).map Prod.fst = List.range' (L.minUncommitedIndex + 1) k := by
      have := h.order
      dsimp only at this
      rwa [Nat.add_sub_cancel_left] at this
    rw [show L.minUncommitedIndex + 1 + k - L.minUncommitedIndex = k + 1 by omega,
      List.range'_succ, ← horder]
    rfl
  commands p hp := by
    rcases List.mem_cons.mp hp with rfl | hp
    · exact ⟨v, hlog, hloads⟩
    · exact h.commands p hp

/-- The message parses, and the handler does not raise on its command. -/
def Accepts (app : Application σ Cmd) (v : Bytes) : Prop :=
  ∃ c, app.loads v = .ok c ∧ ∀ a, (app.deliver a c).2.2 = none

/-- A handler that never raises accepts what parses. -/
lemma accepts_of_loads {app : Application σ Cmd} (hdel : ∀ a c, (app.deliver a c).2.2 = none)
    {v : Bytes} (hloads : ∃ c, app.loads v = .ok c) : Accepts app v := by
  obtain ⟨c, hc⟩ := hloads
  exact ⟨c, hc, fun a => hdel a c⟩

/-- A handler that does not raise returns, in any state. -/
lemma Accepts.returns {app : Application σ Cmd} {v : Bytes} (h : Accepts app v) (a : σ) :
    ∃ c a' result, app.loads v = .ok c ∧ app.deliver a c = (a', result, none) := by
  obtain ⟨c, hc, hdel⟩ := h
  exact ⟨c, _, _, hc, by rw [← hdel a]⟩

/-- What is logged without a gap from the first instance not delivered on is accepted. -/
def AcceptsNext (app : Application σ Cmd) (L : Learner σ) : Prop :=
  ∀ j v, L.minUncommitedIndex ≤ j →
    (∀ k, L.minUncommitedIndex ≤ k → k < j → (L.learner.logs k).isSome) →
    L.learner.logs j = some v → Accepts app v

/-- One delivery later what follows is still accepted. -/
lemma AcceptsNext.succ {app : Application σ Cmd} {L : Learner σ} {v : Bytes}
    (h : AcceptsNext app L) (hlog : L.learner.logs L.minUncommitedIndex = some v) (a : σ) :
    AcceptsNext app { L with app := a, minUncommitedIndex := L.minUncommitedIndex + 1 } := by
  intro j w hj hlogged hw
  refine h j w (Nat.le_of_succ_le hj) (fun k hk hkj => ?_) hw
  rcases hk.eq_or_lt with rfl | hlt
  · rw [hlog]
    rfl
  · exact hlogged k hlt hkj

/-- **The recursion upwards** delivers everything up to the first gap, if there is room for it. The
induction is on the room: each call delivers the next instance, or requests it if it is missing, and
the highest instance seen is not further away than there is room. -/
lemma deliverInstance_catches_up {app : Application σ Cmd} {L : Learner σ} {room : ℕ}
    (hok : AcceptsNext app L) (hle : L.minUncommitedIndex ≤ L.maxInstance)
    (hmax : L.maxInstance < 65536) (hroom : L.maxInstance ≤ L.minUncommitedIndex + room) :
    ∃ n a outs d, deliverInstance app (room + 1) L L.minUncommitedIndex =
        ({ L with app := a, minUncommitedIndex := n }, outs, .ok (some d)) ∧
      CaughtUp app L n outs := by
  induction room generalizing L with
  | zero =>
      cases hlog : L.learner.logs L.minUncommitedIndex with
      | none =>
          obtain ⟨msg, hmsg, he⟩ := deliverInstance_gap app hlog (by omega) 0
          exact ⟨_, L.app, _, _, he, .of_gap app hlog (by omega) hmsg⟩
      | some v =>
          obtain ⟨c, a, result, hc, hd⟩ := (hok _ v le_rfl (by omega) hlog).returns L.app
          rw [deliverInstance_next hlog hc hd, if_neg (by omega)]
          exact ⟨_, a, _, _, rfl, .cons (a := a) hlog hc (.done app (by dsimp only; omega))⟩
  | succ room ih =>
      cases hlog : L.learner.logs L.minUncommitedIndex with
      | none =>
          obtain ⟨msg, hmsg, he⟩ := deliverInstance_gap app hlog (by omega) (room + 1)
          exact ⟨_, L.app, _, _, he, .of_gap app hlog (by omega) hmsg⟩
      | some v =>
          obtain ⟨c, a, result, hc, hd⟩ := (hok _ v le_rfl (by omega) hlog).returns L.app
          rw [deliverInstance_next hlog hc hd]
          by_cases hlt : L.minUncommitedIndex < L.maxInstance
          · obtain ⟨n, a', outs, d, he, hup⟩ := ih
              (L := { L with app := a, minUncommitedIndex := L.minUncommitedIndex + 1 })
              (hok.succ hlog a) hlt hmax (by dsimp only; omega)
            rw [if_pos hlt, he]
            exact ⟨n, a', _, _, rfl, hup.cons hlog hc⟩
          · rw [if_neg hlt]
            exact ⟨_, a, _, _, rfl, .cons (a := a) hlog hc (.done app (by dsimp only; omega))⟩

/-- **After a decision** that is near enough: at the next instance to deliver the recursion catches
up, and for a later one it ends at the gap. -/
lemma deliverInstance_decided {app : Application σ Cmd} {K : Learner σ} {inst : ℕ}
    (hok : AcceptsNext app K) (hle : K.minUncommitedIndex ≤ inst) (hinst : inst ≤ K.maxInstance)
    (hmax : K.maxInstance < 65536) (hroom : K.maxInstance ≤ K.minUncommitedIndex + app.depth)
    (hgap : inst ≠ K.minUncommitedIndex → K.learner.logs K.minUncommitedIndex = none) :
    ∃ n a outs d, deliverInstance app (app.depth + 1) K inst =
        ({ K with app := a, minUncommitedIndex := n }, outs, .ok (some d)) ∧
      CaughtUp app K n outs := by
  by_cases hturn : inst = K.minUncommitedIndex
  · subst hturn
    exact deliverInstance_catches_up hok hinst hmax hroom
  · obtain ⟨msg, hmsg, he⟩ := deliverInstance_gap app (hgap hturn) (by omega)
      (app.depth - (inst - K.minUncommitedIndex))
    rw [deliverInstance_of_near app hle (by omega), he]
    exact ⟨_, K.app, _, _, rfl, .of_gap app (hgap hturn) (by omega) hmsg⟩

/-! ## Sequences of decisions -/

/-- A decision that `handle_p2b` returned, with what `handle_pkt` takes from the packet that
completed it. -/
structure Decision where
  inst : ℕ
  val : Bytes
  req_id : ℕ
  src : String
  udp : Option (ℕ × ℕ)

/-- The replica after a decision: `handle_p2b` has put it into the log, `handle_pkt` delivers it.
Source: `bmv2/scripts/paxoscore/learner.py` `handle_p2b`, `handle_pkt` -/
def decided (app : Application σ Cmd) (L : Learner σ) (d : Decision) :
    Learner σ × List (Out Cmd) × Except PyExc Unit :=
  deliverDecision app
    { L with learner :=
        { L.learner with logs := Function.update L.learner.logs d.inst (some d.val) } }
    d.inst d.req_id d.src d.udp

/-- A decision that comes too far ahead makes the call raise. -/
lemma decided_too_far (app : Application σ Cmd) {L : Learner σ} {d : Decision}
    (h : L.minUncommitedIndex + app.depth < d.inst) :
    (decided app L d).2.2 = .error .RuntimeError := by
  have hfar := deliverDecision_too_far app
    (L := { L with learner :=
      { L.learner with logs := Function.update L.learner.logs d.inst (some d.val) } })
    h d.req_id d.src d.udp
  unfold decided
  rw [hfar]

/-- The replica after a sequence of decisions, with everything it has done; an exception ends the
run. -/
def decidedAll (app : Application σ Cmd) (L : Learner σ) :
    List Decision → Learner σ × List (Out Cmd) × Except PyExc Unit
  | [] => (L, [], .ok ())
  | d :: ds =>
      match decided app L d with
      | (L, outs, .error e) => (L, outs, .error e)
      | (L, outs, .ok ()) =>
          let (L, outs', r) := decidedAll app L ds
          (L, outs ++ outs', r)

/-- One more decision. An induction on the decisions before it, none of which raises. -/
lemma decidedAll_concat {app : Application σ Cmd} {L L₁ : Learner σ} {ds : List Decision}
    {outs : List (Out Cmd)} (h : decidedAll app L ds = (L₁, outs, .ok ())) (d : Decision) :
    decidedAll app L (ds ++ [d]) =
      ((decided app L₁ d).1, outs ++ (decided app L₁ d).2.1, (decided app L₁ d).2.2) := by
  induction ds generalizing L outs with
  | nil =>
      obtain ⟨rfl, rfl⟩ : L = L₁ ∧ outs = [] := by simpa [decidedAll] using h
      rw [List.nil_append, decidedAll]
      rcases decided app L d with ⟨L₂, outs, e | _⟩
      · rfl
      · simp [decidedAll]
  | cons e ds ih =>
      rw [decidedAll] at h
      rw [List.cons_append, decidedAll]
      rcases he : decided app L e with ⟨L₂, outs₂, e' | _⟩ <;> rw [he] at h
      · cases h
      · rcases hrest : decidedAll app L₂ ds with ⟨L₃, outs₃, r⟩
        simp only [hrest, Prod.mk.injEq] at h
        obtain ⟨rfl, rfl, rfl⟩ := h
        dsimp only
        rw [ih hrest]
        simp

/-- **The invariant of in-order delivery**, of a replica that has done `outs`: instances from 1 up
to the first one not delivered are logged and were delivered in order, and that one is not
logged. -/
structure InOrder (app : Application σ Cmd) (L : Learner σ) (outs : List (Out Cmd)) : Prop where
  min_pos : 1 ≤ L.minUncommitedIndex
  max_pos : 1 ≤ L.maxInstance
  max_bound : L.maxInstance < 65536
  bound : ∀ i v, L.learner.logs i = some v → 1 ≤ i ∧ i ≤ L.maxInstance
  loads : ∀ i v, L.learner.logs i = some v → ∃ c, app.loads v = .ok c
  logged : ∀ j, 1 ≤ j → j < L.minUncommitedIndex → (L.learner.logs j).isSome
  gap : L.learner.logs L.minUncommitedIndex = none
  order : (deliveries outs).map Prod.fst = List.range' 1 (L.minUncommitedIndex - 1)
  commands : ∀ p ∈ deliveries outs, Logged app L p

/-- The stack has room for going from the next instance to deliver to the highest one. -/
def Roomy (app : Application σ Cmd) (L : Learner σ) : Prop :=
  L.maxInstance ≤ L.minUncommitedIndex + app.depth

/-- A new replica has instance 1 to deliver. -/
lemma roomy_new (app : Application σ Cmd) (n : ℕ) (addr : String) (port : ℕ) (a : σ) :
    Roomy app (new n addr port a) := Nat.le_add_right 1 app.depth

/-- A new replica has delivered nothing, and nothing is logged. -/
lemma inOrder_new (app : Application σ Cmd) (n : ℕ) (addr : String) (port : ℕ) (a : σ) :
    InOrder app (new n addr port a) [] where
  min_pos := le_rfl
  max_pos := le_rfl
  max_bound := by simp [new]
  bound i v h := by simp [new, PaxosLearner.new] at h
  loads i v h := by simp [new, PaxosLearner.new] at h
  logged j hj hlt := absurd hlt (Nat.not_lt.mpr hj)
  gap := rfl
  order := rfl
  commands p hp := by simp at hp

/-- The log is all the invariant needs of the collected messages. -/
lemma InOrder.with_learner {app : Application σ Cmd} {L : Learner σ} {outs : List (Out Cmd)}
    (h : InOrder app L outs) {learner : PaxosLearner Bytes}
    (hlogs : learner.logs = L.learner.logs) : InOrder app { L with learner := learner } outs := by
  obtain ⟨h₁, h₂, h₃, h₄, h₅, h₆, h₇, h₈, h₉⟩ := h
  unfold Logged at h₉
  rw [← hlogs] at h₄ h₅ h₆ h₇ h₉
  exact ⟨h₁, h₂, h₃, h₄, h₅, h₆, h₇, h₈, h₉⟩

/-- The answer to the client, if there is one, is no call of the handler. A packet without a UDP
layer gets none: the `IndexError` of `pkt[UDP]` is caught. -/
lemma deliverDecision_of_returns {app : Application σ Cmd} {L L' : Learner σ} {inst : ℕ}
    {outs : List (Out Cmd)} {d : Deferred PyText}
    (h : deliverInstance app (app.depth + 1) { L with maxInstance := max L.maxInstance inst } inst =
      (L', outs, .ok (some d))) (req_id : ℕ) (src : String) (udp : Option (ℕ × ℕ)) :
    ∃ outs', deliverDecision app L inst req_id src udp = (L', outs ++ outs', .ok ()) ∧
      ∀ o ∈ outs', ∃ data sport dport, o = .respond data src sport dport := by
  unfold deliverDecision
  rw [ite_maxInstance]
  dsimp only
  rw [h]
  rcases udp with _ | ⟨sport, dport⟩
  · exact ⟨[], by simp [catchIndexError], by simp⟩
  · refine ⟨addCallback d.result req_id src dport sport, rfl, fun o ho => ?_⟩
    obtain ⟨data, rfl⟩ := mem_addCallback ho
    exact ⟨data, dport, sport, rfl⟩

/-- Replies to clients are no calls of the handler. -/
lemma deliveries_eq_nil {outs : List (Out Cmd)} {src : String}
    (h : ∀ o ∈ outs, ∃ data sport dport, o = Out.respond data src sport dport) :
    deliveries outs = [] := by
  unfold deliveries
  refine List.filterMap_eq_nil_iff.mpr fun o ho => ?_
  obtain ⟨data, sport, dport, rfl⟩ := h o ho
  rfl

/-- The log after a decision of a new instance. These are the facts about a log that the recursion
needs: no instance beyond `maxInstance`, commands that parse, and nothing forgotten. -/
lemma InOrder.logs_decided {app : Application σ Cmd} {L : Learner σ} {outs : List (Out Cmd)}
    (h : InOrder app L outs) {logs : ℕ → Option Bytes} {inst : ℕ} {v : Bytes}
    (hlogs : logs = Function.update L.learner.logs inst (some v)) (hpos : 1 ≤ inst)
    (hnew : L.learner.logs inst = none) (hloads : ∃ c, app.loads v = .ok c) :
    (∀ i w, logs i = some w → 1 ≤ i ∧ i ≤ max L.maxInstance inst) ∧
      (∀ i w, logs i = some w → ∃ c, app.loads w = .ok c) ∧
      ∀ i w, L.learner.logs i = some w → logs i = some w := by
  subst hlogs
  refine ⟨fun i w hw => ?_, fun i w hw => ?_, fun i w hw => ?_⟩ <;> by_cases hi : i = inst
  · subst hi
    exact ⟨hpos, le_max_right _ _⟩
  · rw [Function.update_of_ne hi] at hw
    exact ⟨(h.bound i w hw).1, (h.bound i w hw).2.trans (le_max_left _ _)⟩
  · subst hi
    rw [Function.update_self, Option.some.injEq] at hw
    exact hw ▸ hloads
  · rw [Function.update_of_ne hi] at hw
    exact h.loads i w hw
  · subst hi
    rw [hnew] at hw
    cases hw
  · rw [Function.update_of_ne hi]
    exact hw

/-- Catching up after a decision restores the invariant. What is delivered now continues what was
delivered before, since the next instance was where the range ended. -/
lemma InOrder.catch_up {app : Application σ Cmd} {L K : Learner σ}
    {outs outs₁ outs₂ : List (Out Cmd)} {n : ℕ} (h : InOrder app L outs)
    (hmin : K.minUncommitedIndex = L.minUncommitedIndex) (hmax : L.maxInstance ≤ K.maxInstance)
    (hlt : K.maxInstance < 65536)
    (hbound : ∀ i w, K.learner.logs i = some w → 1 ≤ i ∧ i ≤ K.maxInstance)
    (hloads : ∀ i w, K.learner.logs i = some w → ∃ c, app.loads w = .ok c)
    (hkeep : ∀ i w, L.learner.logs i = some w → K.learner.logs i = some w)
    (hup : CaughtUp app K n outs₁) (hreply : deliveries outs₂ = []) (a : σ) :
    InOrder app { K with app := a, minUncommitedIndex := n } (outs ++ (outs₁ ++ outs₂)) := by
  have hle : L.minUncommitedIndex ≤ n := hmin ▸ hup.le
  have hdeliv : deliveries (outs ++ (outs₁ ++ outs₂)) = deliveries outs ++ deliveries outs₁ := by
    rw [deliveries_append, deliveries_append, hreply, List.append_nil]
  refine ⟨h.min_pos.trans hle, h.max_pos.trans hmax, hlt, hbound, hloads, ?_, ?_, ?_, ?_⟩
  · intro j hj hjn
    by_cases hjm : j < L.minUncommitedIndex
    · obtain ⟨w, hw⟩ := Option.isSome_iff_exists.mp (h.logged j hj hjm)
      exact Option.isSome_iff_exists.mpr ⟨w, hkeep j w hw⟩
    · exact hup.logged j (hmin ▸ Nat.le_of_not_lt hjm) hjn
  · by_cases hn : n ≤ K.maxInstance
    · exact (hup.gap hn).1
    · cases hw : K.learner.logs n with
      | none => rfl
      | some w => exact absurd (hbound n w hw).2 hn
  · -- `1, …, min - 1` were delivered before, `min, …, n - 1` are delivered now
    rw [hdeliv, List.map_append, h.order, hup.order, hmin]
    exact range'_append_range' h.min_pos hle
  · intro p hp
    rw [hdeliv] at hp
    rcases List.mem_append.mp hp with hp | hp
    · obtain ⟨w, hw, hc⟩ := h.commands p hp
      exact ⟨w, hkeep p.1 w hw, hc⟩
    · exact hup.commands p hp

/-- A new instance is not before the next one to deliver. -/
lemma InOrder.min_le_of_new {app : Application σ Cmd} {L : Learner σ} {outs : List (Out Cmd)}
    (h : InOrder app L outs) {inst : ℕ} (hpos : 1 ≤ inst) (hnew : L.learner.logs inst = none) :
    L.minUncommitedIndex ≤ inst := by
  by_contra hlt
  have hsome := h.logged inst hpos (by omega)
  rw [hnew] at hsome
  cases hsome

/-- **A decision that comes too far ahead** keeps the invariant as well, although the call raises.
The log has the instance, which waits. -/
lemma InOrder.too_far {app : Application σ Cmd} {L : Learner σ} {outs : List (Out Cmd)}
    (h : InOrder app L outs) (learner : PaxosLearner Bytes) {inst : ℕ} {v : Bytes}
    (hlogs : learner.logs = Function.update L.learner.logs inst (some v)) (hlt : inst < 65536)
    (hnew : L.learner.logs inst = none) (hloads : ∃ c, app.loads v = .ok c)
    (hfar : L.minUncommitedIndex + app.depth < inst) :
    InOrder app { L with learner := learner, maxInstance := max L.maxInstance inst } outs := by
  have hpos : 1 ≤ inst := h.min_pos.trans (by omega)
  obtain ⟨hbound, hload, hkeep⟩ := h.logs_decided hlogs hpos hnew hloads
  refine ⟨h.min_pos, h.max_pos.trans (le_max_left _ _), max_lt h.max_bound hlt, hbound, hload, ?_, ?_,
    h.order, fun p hp => ?_⟩
  · intro j hj hjm
    obtain ⟨w, hw⟩ := Option.isSome_iff_exists.mp (h.logged j hj hjm)
    exact Option.isSome_iff_exists.mpr ⟨w, hkeep j w hw⟩
  · show learner.logs L.minUncommitedIndex = none
    rw [hlogs, Function.update_of_ne (by omega)]
    exact h.gap
  · obtain ⟨w, hw, hc⟩ := h.commands p hp
    exact ⟨w, hkeep p.1 w hw, hc⟩

/-- **One decision** of a new instance that is near enough keeps the invariant and leaves room; the
call returns, and if there is a gap below the highest instance then, it has asked for it. -/
lemma InOrder.deliverDecision {app : Application σ Cmd} {L : Learner σ} {outs : List (Out Cmd)}
    (h : InOrder app L outs) (hroomy : Roomy app L) (learner : PaxosLearner Bytes) {inst : ℕ}
    {v : Bytes}
    (hlogs : learner.logs = Function.update L.learner.logs inst (some v))
    (hok : ∀ i w, learner.logs i = some w → Accepts app w)
    (hinst : 1 ≤ inst ∧ inst < 65536) (hnew : L.learner.logs inst = none)
    (hnear : inst ≤ L.minUncommitedIndex + app.depth)
    (req_id : ℕ) (src : String) (udp : Option (ℕ × ℕ)) :
    ∃ L' outs', deliverDecision app { L with learner := learner } inst req_id src udp =
        (L', outs', .ok ()) ∧ L'.learner = learner ∧ L'.learner_addr = L.learner_addr ∧
      L'.learner_port = L.learner_port ∧ (InOrder app L' (outs ++ outs') ∧ Roomy app L') ∧
      (L'.minUncommitedIndex ≤ L'.maxInstance → Requested L' L'.minUncommitedIndex outs') := by
  have hmin : L.minUncommitedIndex ≤ inst := h.min_le_of_new hinst.1 hnew
  have hloads : ∃ c, app.loads v = .ok c := by
    obtain ⟨c, hc, -⟩ := hok inst v (by rw [hlogs, Function.update_self])
    exact ⟨c, hc⟩
  obtain ⟨hbound, hload, hkeep⟩ := h.logs_decided hlogs hinst.1 hnew hloads
  have hlt : max L.maxInstance inst < 65536 := max_lt h.max_bound hinst.2
  let L₁ : Learner σ := { L with learner := learner, maxInstance := max L.maxInstance inst }
  have hroom : L₁.maxInstance ≤ L₁.minUncommitedIndex + app.depth := max_le hroomy hnear
  obtain ⟨n, a, outs₁, d, he, hup⟩ := deliverInstance_decided (K := L₁)
    (fun j w _ _ hw => hok j w hw) hmin (le_max_right _ _) hlt hroom fun hturn => by
      rw [hlogs, Function.update_of_ne (Ne.symm hturn)]
      exact h.gap
  obtain ⟨outs₂, he₂, hreply⟩ := deliverDecision_of_returns (L := { L with learner := learner })
    he req_id src udp
  refine ⟨_, _, he₂, rfl, rfl, rfl, ⟨?_, ?_⟩, fun hn => ?_⟩
  · exact h.catch_up (K := L₁) rfl (le_max_left _ _) hlt hbound hload hkeep hup
      (deliveries_eq_nil hreply) a
  · exact hroom.trans (Nat.add_le_add_right hup.le _)
  · obtain ⟨-, msg, hmsg, hmem⟩ := hup.gap hn
    exact ⟨msg, hmsg, List.mem_append_left _ hmem⟩

/-- **The condition on a sequence of decisions**: when an instance is decided, every one that is
more than `depth` before it has been decided. -/
def Near (depth : ℕ) (ds : List Decision) : Prop :=
  ∀ before d after, ds = before ++ d :: after →
    ∀ j, 1 ≤ j → j + depth < d.inst → ∃ e ∈ before, e.inst = j

/-- The condition on an initial part. -/
lemma Near.of_append {depth : ℕ} {ds ds' : List Decision} (h : Near depth (ds ++ ds')) :
    Near depth ds := by
  rintro before d after rfl
  exact h before d (after ++ ds') (by simp)

/-- The first instance not delivered is near, if what is far has been decided. -/
lemma InOrder.near {app : Application σ Cmd} {L : Learner σ} {outs : List (Out Cmd)}
    (h : InOrder app L outs) {inst : ℕ}
    (hfar : ∀ j, 1 ≤ j → j + app.depth < inst → (L.learner.logs j).isSome) :
    inst ≤ L.minUncommitedIndex + app.depth := by
  by_contra hlt
  have hsome := hfar L.minUncommitedIndex h.min_pos (Nat.lt_of_not_le hlt)
  rw [h.gap] at hsome
  cases hsome

/-- A sequence of decisions that are near enough keeps the invariant: every call returns, the log
holds the decisions, and a gap below the highest instance has been asked for. -/
lemma InOrder.decidedAll {app : Application σ Cmd} (hdel : ∀ a c, (app.deliver a c).2.2 = none)
    {L : Learner σ} {outs : List (Out Cmd)} (h : InOrder app L outs) (hroomy : Roomy app L)
    (ds : List Decision)
    (hinst : ∀ d ∈ ds, 1 ≤ d.inst ∧ d.inst < 65536) (hnodup : (ds.map Decision.inst).Nodup)
    (hnew : ∀ d ∈ ds, L.learner.logs d.inst = none)
    (hloads : ∀ d ∈ ds, ∃ c, app.loads d.val = .ok c)
    (hnear : ∀ before d after, ds = before ++ d :: after → ∀ j, 1 ≤ j → j + app.depth < d.inst →
      (L.learner.logs j).isSome ∨ ∃ e ∈ before, e.inst = j) :
    ∃ L' outs', Learner.decidedAll app L ds = (L', outs', .ok ()) ∧
      InOrder app L' (outs ++ outs') ∧ L'.learner_addr = L.learner_addr ∧
      L'.learner_port = L.learner_port ∧
      (∀ i v, L'.learner.logs i = some v ↔
        L.learner.logs i = some v ∨ ∃ d ∈ ds, d.inst = i ∧ d.val = v) ∧
      (ds ≠ [] → L'.minUncommitedIndex ≤ L'.maxInstance →
        Requested L' L'.minUncommitedIndex outs') := by
  induction ds generalizing L outs with
  | nil => exact ⟨L, [], rfl, by simpa using h, rfl, rfl, by simp, fun hne => absurd rfl hne⟩
  | cons d ds ih =>
      obtain ⟨hd, hrest⟩ := List.forall_mem_cons.mp hinst
      rw [List.map_cons, List.nodup_cons] at hnodup
      have hfresh : ∀ e ∈ ds, e.inst ≠ d.inst := fun e he heq =>
        hnodup.1 (List.mem_map.mpr ⟨e, he, heq⟩)
      have hdnew : L.learner.logs d.inst = none := hnew d List.mem_cons_self
      obtain ⟨-, hload, -⟩ := h.logs_decided rfl hd.1 hdnew (hloads d List.mem_cons_self)
      have hdnear : d.inst ≤ L.minUncommitedIndex + app.depth := by
        refine h.near fun j hj hlt => ?_
        simpa using hnear [] d ds rfl j hj hlt
      obtain ⟨L₁, outs₁, he₁, hlearner, haddr, hport, ⟨hin₁, hroomy₁⟩, hreq₁⟩ :=
        h.deliverDecision hroomy
        { L.learner with logs := Function.update L.learner.logs d.inst (some d.val) }
        rfl (fun i w hw => accepts_of_loads hdel (hload i w hw)) hd hdnew hdnear d.req_id d.src d.udp
      obtain ⟨L₂, outs₂, he₂, hin₂, haddr₂, hport₂, hlogs₂, hreq₂⟩ := ih hin₁ hroomy₁ hrest hnodup.2
        (fun e he => by
          rw [hlearner]
          dsimp only
          rw [Function.update_of_ne (hfresh e he)]
          exact hnew e (List.mem_cons_of_mem _ he))
        (fun e he => hloads e (List.mem_cons_of_mem _ he))
        (fun before e after hds j hj hlt => by
          rw [hlearner]
          rcases hnear (d :: before) e after (by rw [hds]; rfl) j hj hlt with hlog | ⟨e', he', hj'⟩
          · refine .inl ?_
            by_cases hjd : j = d.inst
            · simp [hjd]
            · simpa [Function.update_of_ne hjd] using hlog
          · rcases List.mem_cons.mp he' with rfl | he'
            · exact .inl (by simp [hj'])
            · exact .inr ⟨e', he', hj'⟩)
      refine ⟨L₂, outs₁ ++ outs₂, ?_, ?_, haddr₂.trans haddr, hport₂.trans hport, ?_, ?_⟩
      · unfold Learner.decidedAll decided
        rw [he₁]
        dsimp only
        rw [he₂]
      · rw [← List.append_assoc]
        exact hin₂
      · intro i v
        rw [hlogs₂, hlearner]
        by_cases hi : i = d.inst
        · subst hi
          simp [hdnew]
        · simp [Function.update_of_ne hi, Ne.symm hi]
      · intro _ hle
        cases ds with
        | nil =>
            cases he₂
            obtain ⟨msg, hmsg, hmem⟩ := hreq₁ hle
            exact ⟨msg, hmsg, List.mem_append_left _ hmem⟩
        | cons e ds =>
            obtain ⟨msg, hmsg, hmem⟩ := hreq₂ (by simp) hle
            exact ⟨msg, hmsg, List.mem_append_right _ hmem⟩

/-- **In-order, exactly-once delivery** after the decisions `ds`, by a replica that has done `outs`:
the log holds exactly the decisions, and with `k` the largest number such that `1, …, k` are all
logged, the handler has been called on `1, …, k` in this order, on the logged commands; `k + 1` is
the next instance to deliver, and if it is not above the highest instance decided, a 1A for it has
been sent. -/
structure Delivered (app : Application σ Cmd) (addr : String) (port : ℕ) (ds : List Decision)
    (L : Learner σ) (outs : List (Out Cmd)) (k : ℕ) : Prop where
  logs : ∀ i v, L.learner.logs i = some v ↔ ∃ d ∈ ds, d.inst = i ∧ d.val = v
  highest : IsGreatest {k | ∀ j, 1 ≤ j → j ≤ k → (L.learner.logs j).isSome} k
  calls : (deliveries outs).map Prod.fst = List.range' 1 k
  commands : ∀ p ∈ deliveries outs, ∃ v, L.learner.logs p.1 = some v ∧ app.loads v = .ok p.2
  next : L.minUncommitedIndex = k + 1
  requested : ds ≠ [] → k < L.maxInstance → ∃ msg, pack (request1a (k + 1)) = .ok msg ∧
    .sendMsg msg addr port ∈ outs

/-- Decisions that are near enough are delivered. The `k` of the claim is the instance before the
next one to deliver: the log has what is below it, and not the next one. -/
lemma delivered_of_near (app : Application σ Cmd) (hdel : ∀ a c, (app.deliver a c).2.2 = none)
    (num_acceptors : ℕ) (addr : String) (port : ℕ) (a : σ) (ds : List Decision)
    (hinst : ∀ d ∈ ds, 1 ≤ d.inst ∧ d.inst < 65536) (hnodup : (ds.map Decision.inst).Nodup)
    (hloads : ∀ d ∈ ds, ∃ c, app.loads d.val = .ok c) (hnear : Near app.depth ds) :
    ∃ L outs k, decidedAll app (new num_acceptors addr port a) ds = (L, outs, .ok ()) ∧
      Delivered app addr port ds L outs k := by
  obtain ⟨L, outs, he, hin, haddr, hport, hlogs, hreq⟩ :=
    (inOrder_new app num_acceptors addr port a).decidedAll hdel
      (roomy_new app num_acceptors addr port a) ds hinst hnodup
      (fun _ _ => rfl) hloads
      (fun before d after hds j hj hlt => .inr (hnear before d after hds j hj hlt))
  rw [List.nil_append] at hin
  have hmin : L.minUncommitedIndex - 1 + 1 = L.minUncommitedIndex := Nat.sub_add_cancel hin.min_pos
  refine ⟨L, outs, L.minUncommitedIndex - 1, he, ?_, ⟨?_, ?_⟩, hin.order, hin.commands,
    hmin.symm, ?_⟩
  · intro i v
    rw [hlogs]
    simp [new, PaxosLearner.new]
  · intro j hj hjk
    exact hin.logged j hj (by omega)
  · intro k hk
    by_contra hlt
    have hsome := hk L.minUncommitedIndex hin.min_pos (by omega)
    rw [hin.gap] at hsome
    cases hsome
  · intro hne hlt
    rw [hmin]
    obtain ⟨msg, hmsg, hmem⟩ := hreq hne (by omega)
    rw [haddr, hport] at hmem
    exact ⟨msg, hmsg, hmem⟩

/-- A decision that is too far ahead of what has been delivered raises. The missing instance is
above `k`, so that the recursion downwards would have to pass it. -/
lemma Delivered.raises {app : Application σ Cmd} {addr : String} {port : ℕ} {ds : List Decision}
    {L : Learner σ} {outs : List (Out Cmd)} {k : ℕ} (h : Delivered app addr port ds L outs k)
    {d : Decision} {j : ℕ}
    (hj : 1 ≤ j) (hfar : j + app.depth < d.inst) (hmissing : ∀ e ∈ ds, e.inst ≠ j) :
    (decided app L d).2.2 = .error .RuntimeError := by
  have hkj : k < j := by
    by_contra hle
    obtain ⟨v, hv⟩ := Option.isSome_iff_exists.mp (h.highest.1 j hj (Nat.le_of_not_lt hle))
    obtain ⟨e, he, hinst, -⟩ := (h.logs j v).mp hv
    exact hmissing e he hinst
  have hdeep : L.minUncommitedIndex + app.depth < d.inst := by
    rw [h.next]
    omega
  exact decided_too_far app hdeep

/-- **In-order, exactly-once delivery**, after each of a sequence of decisions of distinct instances
of the header's 16 bits, from 1 on, in any order, with commands that parse and a handler that does
not raise: every call returns and `Delivered` holds after it, exactly if no decision comes when an
instance more than the interpreter's depth before it is still undecided. -/
theorem delivers_in_order_iff (app : Application σ Cmd) (hdel : ∀ a c, (app.deliver a c).2.2 = none)
    (num_acceptors : ℕ) (addr : String) (port : ℕ) (a : σ) (ds : List Decision)
    (hinst : ∀ d ∈ ds, 1 ≤ d.inst ∧ d.inst < 65536) (hnodup : (ds.map Decision.inst).Nodup)
    (hloads : ∀ d ∈ ds, ∃ c, app.loads d.val = .ok c) :
    (∀ before after, ds = before ++ after → ∃ L outs k,
      decidedAll app (new num_acceptors addr port a) before = (L, outs, .ok ()) ∧
        Delivered app addr port before L outs k) ↔
      Near app.depth ds := by
  constructor
  · rintro h before d after rfl j hj hfar
    by_contra hmissing
    push Not at hmissing
    obtain ⟨L, outs, k, he, hdelivered⟩ := h before (d :: after) rfl
    obtain ⟨L', outs', k', he', -⟩ := h (before ++ [d]) after (by simp)
    have hraises := hdelivered.raises hj hfar hmissing
    rw [decidedAll_concat he, hraises] at he'
    cases he'
  · rintro hnear before after rfl
    rw [List.map_append, List.nodup_append] at hnodup
    exact delivered_of_near app hdel num_acceptors addr port a before
      (fun d hd => hinst d (List.mem_append_left _ hd)) hnodup.1
      (fun d hd => hloads d (List.mem_append_left _ hd)) hnear.of_append

end Learner

/-- CPython's limit on the depth of its stack, which nothing in the repository raises: no more calls
than these can be nested. -/
def recursionLimit : ℕ := 1000

/-- An application whose commands are numbers, and that keeps the list of those it was given. Its
`loads` does what `json.loads` does with texts of at most one byte. -/
def numbers : Application (List ℕ) ℕ where
  loads
    | [b] => if 48 ≤ b ∧ b ≤ 57 then .ok (b.toNat - 48) else .error .ValueError
    | _ => .error .ValueError
  deliver log n := (log ++ [n], some (.bytes []), none)
  depth := recursionLimit

namespace Learner

/-- Instances 3, 1, 2 are decided in this order. Instance 3 waits for the other two, and is near
enough. -/
theorem delivers_three : ∃ L outs k,
    decidedAll numbers (new 3 "224.3.29.72" 34952 [])
      [⟨3, [51], 1, "10.0.0.1", none⟩, ⟨1, [49], 2, "10.0.0.1", none⟩,
        ⟨2, [50], 3, "10.0.0.1", none⟩] = (L, outs, .ok ()) ∧
      Delivered numbers "224.3.29.72" 34952 [⟨3, [51], 1, "10.0.0.1", none⟩,
        ⟨1, [49], 2, "10.0.0.1", none⟩, ⟨2, [50], 3, "10.0.0.1", none⟩] L outs k := by
  refine (delivers_in_order_iff numbers (fun _ _ => rfl) 3 "224.3.29.72" 34952 []
    [⟨3, [51], 1, "10.0.0.1", none⟩, ⟨1, [49], 2, "10.0.0.1", none⟩,
      ⟨2, [50], 3, "10.0.0.1", none⟩] (by decide) (by decide) ?_).mpr ?_ _ [] (by simp)
  · intro d hd
    fin_cases hd <;> exact ⟨_, rfl⟩
  · intro before d after hds j hj hfar
    have hd : d ∈ [(⟨3, [51], 1, "10.0.0.1", none⟩ : Decision), ⟨1, [49], 2, "10.0.0.1", none⟩,
        ⟨2, [50], 3, "10.0.0.1", none⟩] := by
      rw [hds]
      simp
    have hlow : d.inst ≤ 3 := by
      fin_cases hd <;> simp
    have hdepth : numbers.depth = 1000 := rfl
    omega

/-- Instance 1500 is decided first: the recursion downwards raises, and nothing is sent. The list of
one decision contradicts the statement for all lists. -/
theorem far_decision_raises : ¬ ∀ (ds : List Decision),
    (∀ d ∈ ds, 1 ≤ d.inst ∧ d.inst < 65536) → (ds.map Decision.inst).Nodup →
    (∀ d ∈ ds, ∃ c, numbers.loads d.val = .ok c) → ∃ L outs k,
      decidedAll numbers (new 3 "224.3.29.72" 34952 []) ds = (L, outs, .ok ()) ∧
        Delivered numbers "224.3.29.72" 34952 ds L outs k := by
  intro h
  obtain ⟨L, outs, k, he, -⟩ := h [⟨1500, [49], 1, "10.0.0.1", none⟩] (by simp) (by simp) (by
    intro d hd
    rw [List.mem_singleton.mp hd]
    exact ⟨1, rfl⟩)
  have hfar : (new 3 "224.3.29.72" 34952 ([] : List ℕ)).minUncommitedIndex + numbers.depth < 1500 := by
    show 1 + recursionLimit < 1500
    decide
  have hraises := decided_too_far numbers (d := ⟨1500, [49], 1, "10.0.0.1", none⟩) hfar
  have hstart : decidedAll numbers (new 3 "224.3.29.72" 34952 []) [] =
      (new 3 "224.3.29.72" 34952 [], [], .ok ()) := rfl
  have hcall := decidedAll_concat hstart ⟨1500, [49], 1, "10.0.0.1", none⟩
  rw [hraises, List.nil_append, he] at hcall
  have hresult : (.ok () : Except PyExc Unit) = .error .RuntimeError :=
    congrArg (fun call => call.2.2) hcall
  cases hresult

end Learner

end P4xos.Bmv2
