import P4xos.Bmv2.Convergence

/-!
# Requests and their answers

Which request gets which answer. `handle_pkt` answers the request whose vote completes a quorum,
with the result of the `Deferred` that `deliverInstance` returns to it. A request that is decided
before its turn gets the text `Retry`, and is executed in the recursion of a later call, where
nobody waits for its `Deferred`.

The answer has 64 bytes for the result, so a longer text is cut; and `str` fails on a unicode string
with a character outside ASCII. The exception stays in the `Deferred`, so that nothing is sent.

* `Reply.Carries`: a datagram answers a request with a text: its id, the text, and zero bytes.
  `Request.carries_answer_iff`: an answer carries the texts that fit and give its bytes.
* `InTurn`: the instance is the next one to deliver when its quorum is completed, and the call
  raises nothing: in particular the stack has room for catching up (`Quiet`).
* `Fed.in_turn` and `Fed.out_of_turn` say what one call sends to the client: the result, if it has a
  text, or `Retry`.
* `answers_eq`: what is sent to a client over a whole run is what the call that completes the quorum
  sends. Calls before it and after it send nothing (`Fed.answers_eq_nil`).
* `executed_answered_iff`: a request decided in turn is answered with its result, as far as `str`
  gives one; if the application accepts all commands, the answer carries the result exactly if it
  has a text, not longer than the answer, and is decided in turn, except that it may be the text
  `Retry` itself.
-/

namespace P4xos.Bmv2

open P4xos.Lib PaxosLearner

/-- A request under its number: the round and the message of its votes, and the client. -/
structure Request where
  rnd : ℕ
  value : Bytes
  req_id : ℕ
  src : String
  sport : ℕ
  dport : ℕ

/-- The vote is for the request of its instance. -/
structure Vote2b.IsFor (R : ℕ → Request) (v : Vote2b) : Prop where
  rnd : v.fields.rnd = (R v.fields.inst).rnd
  value : v.message.val = (R v.fields.inst).value
  req_id : v.fields.req_id = (R v.fields.inst).req_id
  src : v.src = (R v.fields.inst).src
  udp : v.udp = some ((R v.fields.inst).sport, (R v.fields.inst).dport)

/-- Votes for requests are for one round and one value in each instance. -/
lemma oneBallot_of_isFor {R : ℕ → Request} {vs : List Vote2b} (h : ∀ v ∈ vs, v.IsFor R) :
    OneBallot (vs.map Vote2b.message) := by
  intro m hm m' hm' hi
  obtain ⟨v, hv, rfl⟩ := List.mem_map.mp hm
  obtain ⟨v', hv', rfl⟩ := List.mem_map.mp hm'
  have hinst : v.fields.inst = v'.fields.inst := hi
  refine ⟨?_, ?_⟩
  · exact (h v hv).rnd.trans (by rw [hinst]; exact (h v' hv').rnd.symm)
  · rw [(h v hv).value, (h v' hv').value, hinst]

/-- A datagram to a client. -/
structure Reply where
  data : Bytes
  dst : String
  sport : ℕ
  dport : ℕ
  deriving DecidableEq

/-- The answer to a request: its id and the result, cut or filled with zero bytes, from the port it
was sent to, to the port it was sent from. -/
def Request.answer (q : Request) (result : Bytes) : Reply where
  data := beEncode 1 q.req_id ++ padTo VALUE_SIZE result
  dst := q.src
  sport := q.dport
  dport := q.sport

/-- The datagram answers the request with the text: it goes back to the client from the port the
request was sent to, and has the id of the request, the whole text, and zero bytes only after it. -/
structure Reply.Carries (r : Reply) (q : Request) (text : Bytes) : Prop where
  dst : r.dst = q.src
  sport : r.sport = q.dport
  dport : r.dport = q.sport
  data : ∃ k, r.data = beEncode 1 q.req_id ++ (text ++ List.replicate k 0)

/-- **What an answer carries**: the texts that fit, and give these bytes. A carried text is followed
by zeros up to 64 bytes, so it is no longer than that, and padding it gives the data of the answer.
-/
lemma Request.carries_answer_iff {q : Request} {text text' : Bytes} :
    (q.answer text').Carries q text ↔
      text.length ≤ VALUE_SIZE ∧ padTo VALUE_SIZE text' = padTo VALUE_SIZE text := by
  have hpad : text.length ≤ VALUE_SIZE → padTo VALUE_SIZE text =
      text ++ List.replicate (VALUE_SIZE - text.length) 0 := by
    intro hlen
    rw [padTo, List.take_of_length_le hlen]
  constructor
  · rintro ⟨-, -, -, k, hdata⟩
    have htext : padTo VALUE_SIZE text' = text ++ List.replicate k 0 :=
      List.append_cancel_left hdata
    have hlen := congrArg List.length htext
    rw [length_padTo, List.length_append, List.length_replicate] at hlen
    refine ⟨by omega, ?_⟩
    rw [htext, hpad (by omega), hlen, Nat.add_sub_cancel_left]
  · rintro ⟨hlen, htext⟩
    refine ⟨rfl, rfl, rfl, VALUE_SIZE - text.length, ?_⟩
    rw [← hpad hlen, ← htext]
    rfl

namespace Learner

variable {σ Cmd : Type*}

/-- What is sent to clients. -/
def replies (outs : List (Out Cmd)) : List Reply :=
  outs.filterMap fun
    | .respond data dst sport dport => some ⟨data, dst, sport, dport⟩
    | _ => none

/-- Those of two sequences, one after the other. -/
@[simp] lemma replies_append (outs outs' : List (Out Cmd)) :
    replies (outs ++ outs') = replies outs ++ replies outs' := List.filterMap_append

/-- What is sent to the client of instance `i`, by the calls for its votes. -/
def answers (i : ℕ) (vs : List Vote2b) (trace : List (List (Out Cmd))) : List Reply :=
  ((vs.zip trace).filter fun call => call.1.fields.inst = i).flatMap fun call => replies call.2

/-- Catching up from instance `i` in state `a`, over `k` instances at most and with room for so many
calls, raises nothing: up to the next gap each command is read and executed, or stops with a
`KeyError` before it calls back, which is taken for a gap. -/
def Quiet (app : Application σ Cmd) (logs : ℕ → Option Bytes) : ℕ → ℕ → σ → ℕ → Prop
  | _, 0, _, _ => True
  | 0, _ + 1, _, _ => False
  | room + 1, k + 1, a, i => ∀ v, logs i = some v →
      match app.loads v with
      | .error e => e = .KeyError
      | .ok c =>
          match app.deliver a c with
          | (a, _, none) => Quiet app logs room k a (i + 1)
          | (_, result, some e) => e = .KeyError ∧ result = none

/-- **In turn.** When the quorum of the instance is completed, it is the next one to deliver, its
command is executed, and catching up with what is logged behind it raises nothing. -/
def InTurn (app : Application σ Cmd) (n : ℕ) (L₀ : Learner σ) (pkts : List Pkt) (vs : List Vote2b)
    (i : ℕ) : Prop :=
  ∃ before v after, vs = before ++ v :: after ∧ v.fields.inst = i ∧
    Completes n (before.map Vote2b.message) v.message ∧
    ∃ L trace, handleAll app L₀ (pkts.take before.length) = (L, trace, .ok ()) ∧
      L.minUncommitedIndex = i ∧
      ∃ c a result, app.loads v.message.val = .ok c ∧ app.deliver L.app c = (a, result, none) ∧
        Quiet app ((PaxosLearner.new n).run2b (before.map Vote2b.message ++ [v.message])).logs
          app.depth (max L.maxInstance i - i) a (i + 1)

/-! ## One call -/

variable {app : Application σ Cmd}

/-- The call of the handler is the first one. -/
lemma deliveries_cons_deliver (inst : ℕ) (c : Cmd) (outs : List (Out Cmd)) :
    deliveries (.deliver inst c :: outs) = (inst, c) :: deliveries outs := rfl

/-- The recursion sends nothing to clients. -/
lemma replies_eq_nil {L L' : Learner σ} {outs : List (Out Cmd)} (h : Frame L L' outs) :
    replies outs = [] := by
  refine List.filterMap_eq_nil_iff.mpr fun o ho => ?_
  rcases h.outs o ho with ⟨i, c, rfl⟩ | ⟨i, msg, -, rfl⟩ <;> rfl

/-- A `KeyError` before the call back is taken for a gap. -/
lemma catchKeyError_gap {inst : ℕ} (h : inst < 65536) (L : Learner σ) (outs : List (Out Cmd)) :
    ∃ outs', catchKeyError inst L outs ⟨none⟩ (.error .KeyError) =
      (L, outs', .ok (some ⟨some (.bytes retryText)⟩)) := by
  rcases retryInstance_cases Cmd L inst with ⟨hle, -⟩ | ⟨-, msg, -, he⟩
  · omega
  · refine ⟨outs ++ [.sendMsg msg L.learner_addr L.learner_port], ?_⟩
    simp [catchKeyError, he]

/-- The next instance is executed, and what follows raises nothing: its `Deferred` is returned. What
the nested call returns is dropped; that is how the `Deferred` of an instance delivered there gets
lost. -/
lemma deliverInstance_first {L : Learner σ} {v : Bytes} {c : Cmd} {a : σ} {result : Option PyText}
    (room : ℕ) (hlog : L.learner.logs L.minUncommitedIndex = some v) (hload : app.loads v = .ok c)
    (hdel : app.deliver L.app c = (a, result, none))
    (hnext : L.minUncommitedIndex < L.maxInstance → ∃ L' outs d, deliverInstance app room
      { L with app := a, minUncommitedIndex := L.minUncommitedIndex + 1 }
      (L.minUncommitedIndex + 1) = (L', outs, .ok d)) :
    ∃ L' outs, deliverInstance app (room + 1) L L.minUncommitedIndex =
      (L', .deliver L.minUncommitedIndex c :: outs, .ok (some ⟨result⟩)) := by
  rw [deliverInstance_next hlog hload hdel]
  by_cases hlt : L.minUncommitedIndex < L.maxInstance
  · obtain ⟨L', outs, d, he⟩ := hnext hlt
    rw [if_pos hlt, he]
    exact ⟨L', outs, rfl⟩
  · rw [if_neg hlt]
    exact ⟨_, [], rfl⟩

/-- Catching up returns. The induction is on the room on the stack, which `Quiet` counts down in the
same way: a level ends at a gap, at an exception that is caught, or goes on with the next instance.
-/
lemma deliverInstance_quiet {L : Learner σ} {room : ℕ} (hmax : L.maxInstance < 65536)
    (hle : L.minUncommitedIndex ≤ L.maxInstance)
    (hq : Quiet app L.learner.logs room (L.maxInstance + 1 - L.minUncommitedIndex) L.app
      L.minUncommitedIndex) :
    ∃ L' outs d, deliverInstance app room L L.minUncommitedIndex = (L', outs, .ok d) := by
  induction room generalizing L with
  | zero =>
      rw [Nat.succ_sub hle] at hq
      exact hq.elim
  | succ room ih =>
      have hfits : L.minUncommitedIndex < 65536 := hle.trans_lt hmax
      rw [Nat.succ_sub hle] at hq
      cases hlog : L.learner.logs L.minUncommitedIndex with
      | none =>
          obtain ⟨msg, -, he⟩ := deliverInstance_gap app hlog hfits room
          exact ⟨_, _, _, he⟩
      | some v =>
          have hnow := hq v hlog
          rcases hload : app.loads v with e | c <;> simp only [hload] at hnow
          · obtain rfl := hnow
            obtain ⟨outs, he⟩ := catchKeyError_gap hfits L ([] : List (Out Cmd))
            refine ⟨L, outs, some ⟨some (.bytes retryText)⟩, ?_⟩
            rw [deliverInstance, if_pos rfl, hlog]
            simp only [hload, he]
          · rcases hdel : app.deliver L.app c with ⟨a, result, _ | e⟩ <;> simp only [hdel] at hnow
            · obtain ⟨L', outs, he⟩ := deliverInstance_first room hlog hload hdel fun hlt =>
                ih (L := { L with app := a, minUncommitedIndex := L.minUncommitedIndex + 1 })
                  hmax hlt (by
                    dsimp only
                    rwa [Nat.add_sub_add_right])
              exact ⟨L', _, _, he⟩
            · obtain ⟨rfl, rfl⟩ := hnow
              obtain ⟨outs, he⟩ := catchKeyError_gap hfits { L with app := a }
                [.deliver L.minUncommitedIndex c]
              refine ⟨{ L with app := a }, outs, some ⟨some (.bytes retryText)⟩, ?_⟩
              rw [deliverInstance, if_pos rfl, hlog]
              simp only [hload, hdel]
              exact he

/-- What is sent to the client is what the callback makes of the result of the returned `Deferred`.
-/
lemma deliverDecision_of_ok {L L' : Learner σ} {inst : ℕ} {outs : List (Out Cmd)}
    {d : Deferred PyText}
    (h : deliverInstance app (app.depth + 1) { L with maxInstance := max L.maxInstance inst } inst =
      (L', outs, .ok (some d))) (req_id : ℕ) (src : String) (sport dport : ℕ) :
    deliverDecision app L inst req_id src (some (sport, dport)) =
      (L', outs ++ addCallback d.result req_id src dport sport, .ok ()) := by
  unfold deliverDecision
  rw [ite_maxInstance]
  dsimp only
  rw [h]

/-- The bytes of a result, as far as `str` gives some. -/
def resultText (result : Option PyText) : Option Bytes :=
  result.bind fun result => result.str.toOption

/-- A text of bytes is sent as it is. -/
@[simp] lemma resultText_bytes (text : Bytes) : resultText (some (.bytes text)) = some text := rfl

/-- A text that is sent is that of a result. -/
lemma resultText_eq_some {result : Option PyText} {text : Bytes} :
    resultText result = some text ↔ ∃ res, result = some res ∧ res.str = .ok text := by
  unfold resultText
  rw [Option.bind_eq_some_iff]
  refine exists_congr fun res => and_congr_right fun _ => ?_
  rcases res.str with e | text' <;> simp [Except.toOption]

variable (Cmd) in
/-- The reply to a request, as it is sent. -/
def reply (q : Request) (text : Bytes) : Out Cmd :=
  .respond (q.answer text).data (q.answer text).dst (q.answer text).sport (q.answer text).dport

/-- What the callback does for a request: one reply if `str` gives the bytes of the result, and
nothing otherwise. -/
lemma addCallback_eq (q : Request) (result : Option PyText) :
    addCallback result q.req_id q.src q.dport q.sport =
      ((resultText result).map (reply Cmd q)).toList := by
  unfold addCallback respond resultText
  rcases result with _ | result
  · rfl
  · rcases hstr : result.str with e | text
    · simp [hstr, Except.toOption]
    · simp [hstr, Except.toOption, reply, Request.answer]

/-- What a callback sends to the client of a request. -/
lemma replies_addCallback (q : Request) (result : Option PyText) :
    replies (addCallback result q.req_id q.src q.dport q.sport : List (Out Cmd)) =
      ((resultText result).map q.answer).toList := by
  rw [addCallback_eq]
  rcases resultText result with _ | text
  · rfl
  · rfl

variable {n : ℕ} {a₀ : σ} {ms : List (PaxosMessage Bytes)} {L : Learner σ} {outs : List (Out Cmd)}

/-- **Decided in turn**: the request is executed by the call and answered with its result, if `str`
gives one. The call for the instance itself executes it, and what catching up does behind it returns
and sends no replies. The `Deferred` of this outermost call is the one whose callback replies. -/
lemma Fed.in_turn (h : Fed app n a₀ ms L outs) {v : Vote2b} (hone : OneBallot (ms ++ [v.message]))
    (hlt : v.fields.inst < 65536) (hc : Completes n ms v.message)
    (hturn : L.minUncommitedIndex = v.fields.inst) {c : Cmd} {a : σ} {result : Option PyText}
    (hload : app.loads v.message.val = .ok c) (hdel : app.deliver L.app c = (a, result, none))
    (hq : Quiet app ((PaxosLearner.new n).run2b (ms ++ [v.message])).logs app.depth
      (max L.maxInstance v.fields.inst - v.fields.inst) a (v.fields.inst + 1))
    {R : ℕ → Request} (hv : v.IsFor R) :
    (v.fields.inst, result) ∈ executed app L.app (deliveries (Learner.handle_2b app L v).2.1) ∧
      replies (Learner.handle_2b app L v).2.1 =
        ((resultText result).map (R v.fields.inst).answer).toList := by
  let K : Learner σ := { L with learner := (PaxosLearner.new n).run2b (ms ++ [v.message]),
                                maxInstance := max L.maxInstance v.fields.inst }
  have hlog : K.learner.logs K.minUncommitedIndex = some v.message.val := by
    rw [show K.minUncommitedIndex = v.message.inst from hturn]
    exact (congrFun (h.logs_of_completes hone hc) _).trans (Function.update_self _ _ _)
  have hmax : K.maxInstance < 65536 := max_lt h.max_bound hlt
  obtain ⟨L', outs', he⟩ := deliverInstance_first app.depth hlog hload hdel fun hnext =>
    deliverInstance_quiet (L := { K with app := a, minUncommitedIndex := K.minUncommitedIndex + 1 })
      hmax hnext (by
        dsimp only
        rw [Nat.add_sub_add_right, show K.minUncommitedIndex = v.fields.inst from hturn]
        exact hq)
  have hframe := deliverInstance_frame app (app.depth + 1) K K.minUncommitedIndex
  rw [he] at hframe
  rw [show K.minUncommitedIndex = v.fields.inst from hturn] at he hframe
  have hdecision := deliverDecision_of_ok
    (L := { L with learner := (PaxosLearner.new n).run2b (ms ++ [v.message]) }) he
    v.fields.req_id v.src (R v.fields.inst).sport (R v.fields.inst).dport
  rw [h.handle_2b_eq hone, if_pos hc, hv.udp, Vote2b.inst_message, hdecision]
  refine ⟨?_, ?_⟩
  · rw [List.cons_append, deliveries_cons_deliver, executed, hdel]
    exact List.mem_cons_self
  · rw [replies_append, replies_eq_nil hframe, hv.req_id, hv.src, List.nil_append]
    exact replies_addCallback (R v.fields.inst) result

/-- **Decided before its turn**: the request is answered with `Retry`, or the call raises. The
instance before it that is missing is where the recursion downwards ends, if the stack is deep
enough. There the text `Retry` is called back with, and nothing is executed. -/
lemma Fed.out_of_turn (h : Fed app n a₀ ms L outs) (hin : InOrder app L outs) {v : Vote2b}
    (hone : OneBallot (ms ++ [v.message])) (hinst : 1 ≤ v.fields.inst ∧ v.fields.inst < 65536)
    (hc : Completes n ms v.message) (hturn : L.minUncommitedIndex ≠ v.fields.inst)
    {R : ℕ → Request} (hv : v.IsFor R) :
    ((Learner.handle_2b app L v).2.2 = .error .RuntimeError ∧
      deliveries (Learner.handle_2b app L v).2.1 = []) ∨
      replies (Learner.handle_2b app L v).2.1 = [(R v.fields.inst).answer retryText] := by
  let K : Learner σ := { L with learner := (PaxosLearner.new n).run2b (ms ++ [v.message]),
                                maxInstance := max L.maxInstance v.fields.inst }
  have hmin : K.minUncommitedIndex < v.fields.inst := by
    refine lt_of_le_of_ne (Nat.le_of_not_lt fun hlt => ?_) hturn
    have hsome := hin.logged v.fields.inst hinst.1 hlt
    rw [← Vote2b.inst_message, h.logs_eq_none hc.1] at hsome
    cases hsome
  rw [h.handle_2b_eq hone, if_pos hc]
  by_cases hnear : v.fields.inst ≤ L.minUncommitedIndex + app.depth
  · right
    have hgap : K.learner.logs K.minUncommitedIndex = none :=
      ((congrFun (h.logs_of_completes hone hc) _).trans (Function.update_of_ne hmin.ne _ _)).trans
        hin.gap
    obtain ⟨msg, -, he⟩ := deliverInstance_gap app hgap (hmin.trans hinst.2)
      (app.depth - (v.fields.inst - K.minUncommitedIndex))
    rw [← deliverInstance_of_near app hmin.le hnear] at he
    have hdecision := deliverDecision_of_ok
      (L := { L with learner := (PaxosLearner.new n).run2b (ms ++ [v.message]) }) he
      v.fields.req_id v.src (R v.fields.inst).sport (R v.fields.inst).dport
    rw [hv.udp, Vote2b.inst_message, hdecision, hv.req_id, hv.src]
    exact replies_addCallback (R v.fields.inst) (some (.bytes retryText))
  · left
    rw [Vote2b.inst_message, deliverDecision_too_far app
      (L := { L with learner := (PaxosLearner.new n).run2b (ms ++ [v.message]) })
      (Nat.lt_of_not_le hnear)]
    exact ⟨rfl, rfl⟩

/-! ## Whole runs -/

/-- A run over two sequences of packets. An induction on the packets of the first, none of which
raises. -/
lemma handleAll_append {L L₁ : Learner σ} {before : List Pkt} {trace₁ : List (List (Out Cmd))}
    (h : handleAll app L before = (L₁, trace₁, .ok ())) (after : List Pkt) :
    handleAll app L (before ++ after) =
      ((handleAll app L₁ after).1, trace₁ ++ (handleAll app L₁ after).2.1,
        (handleAll app L₁ after).2.2) := by
  induction before generalizing L trace₁ with
  | nil =>
      cases h
      rfl
  | cons pkt before ih =>
      rw [handleAll] at h
      rw [List.cons_append, handleAll]
      rcases hp : handle_pkt app L pkt with ⟨L', outs, e | _⟩ <;> rw [hp] at h
      · cases h
      · rcases hrest : handleAll app L' before with ⟨L₂, trace₂, r₂⟩
        simp only [hrest] at h
        cases h
        simp [ih hrest]

/-- A run that returns has done something for every packet. An induction on the packets. -/
lemma length_trace {L L₁ : Learner σ} {pkts : List Pkt} {trace : List (List (Out Cmd))}
    (h : handleAll app L pkts = (L₁, trace, .ok ())) : trace.length = pkts.length := by
  induction pkts generalizing L trace with
  | nil =>
      cases h
      rfl
  | cons pkt pkts ih =>
      rw [handleAll] at h
      rcases hp : handle_pkt app L pkt with ⟨L', outs, e | _⟩ <;> rw [hp] at h
      · cases h
      · rcases hrest : handleAll app L' pkts with ⟨L₂, trace₂, r₂⟩
        simp only [hrest] at h
        cases h
        simp [ih hrest]

/-- The call for the first vote answers first. -/
lemma answers_cons (i : ℕ) (v : Vote2b) (vs : List Vote2b) (outs : List (Out Cmd))
    (trace : List (List (Out Cmd))) :
    answers i (v :: vs) (outs :: trace) =
      (if v.fields.inst = i then replies outs else []) ++ answers i vs trace := by
  unfold answers
  by_cases h : v.fields.inst = i <;> simp [h]

/-- The answers of two runs, one after the other. -/
lemma answers_append (i : ℕ) {before : List Vote2b} {trace₁ : List (List (Out Cmd))}
    (h : before.length = trace₁.length) (after : List Vote2b) (trace₂ : List (List (Out Cmd))) :
    answers i (before ++ after) (trace₁ ++ trace₂) =
      answers i before trace₁ ++ answers i after trace₂ := by
  unfold answers
  rw [List.zip_append h, List.filter_append, List.flatMap_append]

/-- Nothing is sent to a client as long as the quorum is not completed, and after that. By induction
on the votes: a reply to the client can only come from a call for a vote of its instance, and such a
call replies only when it completes the quorum. -/
lemma Fed.answers_eq_nil (h : Fed app n a₀ ms L outs) {pkts : List Pkt} {vs : List Vote2b}
    (hpkts : pkts.map read2b = vs.map some) (hone : OneBallot (ms ++ vs.map Vote2b.message))
    {i : ℕ} (hq : Quorate ((n + 1) / 2) i ms ∨
      ¬ Quorate ((n + 1) / 2) i (ms ++ vs.map Vote2b.message)) :
    answers i vs (Learner.handleAll app L pkts).2.1 = [] := by
  induction vs generalizing pkts ms L outs with
  | nil => simp [answers]
  | cons v vs ih =>
      obtain ⟨pkt, pkts, rfl, hpkt, hpkts⟩ := List.map_eq_cons_iff.mp hpkts
      rw [List.map_cons, List.append_cons] at hone hq
      have hfirst : (if v.fields.inst = i then replies (Learner.handle_2b app L v).2.1 else []) =
          [] := by
        split_ifs with hi
        · have hc : ¬ Completes n ms v.message := by
            rintro ⟨hbefore, hafter⟩
            rw [Vote2b.inst_message, hi] at hbefore hafter
            rcases hq with hq | hq
            · exact hbefore hq
            · exact hq (hafter.append _)
          rw [h.handle_2b_eq hone.of_append_left, if_neg hc]
          rfl
        · rfl
      have hfed := h.handle_2b hone.of_append_left (inst_lt_of_read2b hpkt)
      have hrest := ih hfed hpkts hone (hq.imp (fun hq => hq.concat _) id)
      rw [Learner.handleAll, handle_pkt_of_read2b app L hpkt]
      rcases he : Learner.handle_2b app L v with ⟨L₁, outs₁, e | _⟩ <;> rw [he] at hfirst hrest
      · rw [answers_cons, hfirst]
        simp [answers]
      · rw [answers_cons, hfirst]
        exact hrest

/-- An instance that is logged in the end had its quorum completed by a vote, and all calls before
it returned. By induction on the votes: as long as none completes the quorum the instance is not
logged, and after a call that raised nothing more is logged. -/
lemma Fed.exists_completes (h : Fed app n a₀ ms L outs) {pkts : List Pkt} {vs : List Vote2b}
    (hpkts : pkts.map read2b = vs.map some) (hone : OneBallot (ms ++ vs.map Vote2b.message))
    {i : ℕ} (hq : ¬ Quorate ((n + 1) / 2) i ms)
    (hlog : ((Learner.handleAll app L pkts).1.learner.logs i).isSome) :
    ∃ before v after, vs = before ++ v :: after ∧ v.fields.inst = i ∧
      Completes n (ms ++ before.map Vote2b.message) v.message ∧
      ∃ L₁ trace₁, Learner.handleAll app L (pkts.take before.length) = (L₁, trace₁, .ok ()) := by
  induction vs generalizing pkts ms L outs with
  | nil =>
      obtain rfl : pkts = [] := by simpa using hpkts
      rw [Learner.handleAll, h.logs_eq_none hq] at hlog
      cases hlog
  | cons v vs ih =>
      obtain ⟨pkt, pkts, rfl, hpkt, hpkts⟩ := List.map_eq_cons_iff.mp hpkts
      rw [List.map_cons, List.append_cons] at hone
      by_cases hc : v.fields.inst = i ∧ Completes n ms v.message
      · exact ⟨[], v, vs, rfl, hc.1, by simpa using hc.2, L, [], rfl⟩
      · have hq' : ¬ Quorate ((n + 1) / 2) i (ms ++ [v.message]) := by
          by_cases hi : v.message.inst = i
          · subst hi
            exact fun hq' => hc ⟨rfl, hq, hq'⟩
          · rwa [quorate_concat_of_ne hi]
        have hfed := h.handle_2b hone.of_append_left (inst_lt_of_read2b hpkt)
        rw [Learner.handleAll, handle_pkt_of_read2b app L hpkt] at hlog
        rcases he : Learner.handle_2b app L v with ⟨L₁, outs₁, e | _⟩ <;> rw [he] at hfed hlog
        · rw [hfed.logs_eq_none hq'] at hlog
          cases hlog
        · obtain ⟨before, w, after, rfl, hi, hcomp, L₂, trace₂, hrun⟩ :=
            ih hfed hpkts hone hq' hlog
          refine ⟨v :: before, w, after, rfl, hi, ?_, L₂, outs₁ :: trace₂, ?_⟩
          · rwa [List.map_cons, List.append_cons]
          · rw [List.length_cons, List.take_succ_cons, Learner.handleAll,
              handle_pkt_of_read2b app L hpkt, he]
            dsimp only
            rw [hrun]

/-- **What a client is sent** over a whole run is what the call that completes the quorum of its
instance sends. The run is split at the vote. Before it the quorum is not complete and after it it
is, and in both parts nothing is sent to the client. -/
lemma Fed.answers_eq (h : Fed app n a₀ ms L outs) {pkts : List Pkt} {before after : List Vote2b}
    {v : Vote2b} (hpkts : pkts.map read2b = (before ++ v :: after).map some)
    (hone : OneBallot (ms ++ (before ++ v :: after).map Vote2b.message))
    (hc : Completes n (ms ++ before.map Vote2b.message) v.message) {L₁ : Learner σ}
    {trace₁ : List (List (Out Cmd))}
    (hrun : Learner.handleAll app L (pkts.take before.length) = (L₁, trace₁, .ok ())) :
    Fed app n a₀ (ms ++ before.map Vote2b.message) L₁ (outs ++ trace₁.flatten) ∧
      (∃ trace₂, (Learner.handleAll app L pkts).2.1 =
          trace₁ ++ (Learner.handle_2b app L₁ v).2.1 :: trace₂ ∧
        ((Learner.handle_2b app L₁ v).2.2 ≠ .ok () → trace₂ = [])) ∧
      answers v.fields.inst (before ++ v :: after) (Learner.handleAll app L pkts).2.1 =
        replies (Learner.handle_2b app L₁ v).2.1 := by
  rw [List.map_append, List.map_cons] at hpkts hone
  obtain ⟨pkts₁, rest, rfl, hpkts₁, hrest⟩ := List.map_eq_append_iff.mp hpkts
  obtain ⟨pkt, pkts₂, rfl, hpkt, hpkts₂⟩ := List.map_eq_cons_iff.mp hrest
  have hlen : pkts₁.length = before.length := by
    simpa using congrArg List.length hpkts₁
  rw [List.take_left' hlen] at hrun
  rw [← List.append_assoc] at hone
  obtain ⟨fed, -, hall, hfed⟩ := h.handleAll hpkts₁ hone.of_append_left hrun
  obtain rfl := hall rfl
  have hbefore := h.answers_eq_nil hpkts₁ hone.of_append_left (i := v.fields.inst) (.inr hc.1)
  rw [hrun] at hbefore
  have hzip : before.length = trace₁.length := hlen.symm.trans (length_trace hrun).symm
  rw [List.append_cons] at hone
  have hfed₁ := hfed.handle_2b hone.of_append_left (inst_lt_of_read2b hpkt)
  have hafter := hfed₁.answers_eq_nil hpkts₂ hone (i := v.fields.inst) (.inl hc.2)
  refine ⟨hfed, ?_⟩
  rw [handleAll_append hrun, Learner.handleAll, handle_pkt_of_read2b app L₁ hpkt]
  rcases he : Learner.handle_2b app L₁ v with ⟨L₂, outs₂, e | _⟩ <;> rw [he] at hafter
  · refine ⟨⟨[], rfl, fun _ => rfl⟩, ?_⟩
    rw [answers_append _ hzip, hbefore, answers_cons, if_pos rfl]
    simp [answers]
  · refine ⟨⟨_, rfl, fun hne => absurd rfl hne⟩, ?_⟩
    rw [answers_append _ hzip, hbefore, answers_cons, if_pos rfl, hafter]
    simp

/-! ## Executed requests -/

/-- It was called. -/
lemma mem_of_mem_executed {a : σ} {calls : List (ℕ × Cmd)} {i : ℕ} {result : Option PyText}
    (h : (i, result) ∈ executed app a calls) : ∃ c, (i, c) ∈ calls := by
  induction calls generalizing a with
  | nil => simp [executed] at h
  | cons call calls ih =>
      obtain ⟨inst, c⟩ := call
      rw [executed] at h
      rcases hdel : app.deliver a c with ⟨a', result', _ | e⟩ <;> rw [hdel] at h
      · rcases List.mem_cons.mp h with heq | h
        · cases heq
          exact ⟨c, List.mem_cons_self⟩
        · exact (ih h).imp fun _ hc => List.mem_cons_of_mem _ hc
      · exact (ih h).imp fun _ hc => List.mem_cons_of_mem _ hc

/-- An instance is executed once. -/
lemma Fed.executed_inj (h : Fed app n a₀ ms L outs) {i : ℕ} {result result' : Option PyText}
    (h₁ : (i, result) ∈ executed app a₀ (deliveries outs))
    (h₂ : (i, result') ∈ executed app a₀ (deliveries outs)) : result = result' := by
  have hnodup : ((executed app a₀ (deliveries outs)).map Prod.fst).Nodup := by
    rw [h.passed]
    exact List.nodup_range'
  have heq := List.inj_on_of_nodup_map hnodup h₁ h₂ rfl
  exact congrArg Prod.snd heq

/-- Executed instances are logged, and their numbers start at 1. -/
lemma Fed.logged_of_executed (h : Fed app n a₀ ms L outs) {i : ℕ} {result : Option PyText}
    (hexec : (i, result) ∈ executed app a₀ (deliveries outs)) :
    1 ≤ i ∧ (L.learner.logs i).isSome := by
  have hrange : i ∈ (executed app a₀ (deliveries outs)).map Prod.fst :=
    List.mem_map_of_mem (f := Prod.fst) hexec
  rw [h.passed] at hrange
  obtain ⟨c, hc⟩ := mem_of_mem_executed hexec
  obtain ⟨w, hw, -⟩ := h.logged _ hc
  exact ⟨(List.mem_range'_1.mp hrange).1, Option.isSome_iff_exists.mpr ⟨w, hw⟩⟩

/-- Commands the application accepts raise nothing, if there is room for them. An induction on the
calls that are left: each instance of the log takes one of them. -/
lemma quiet_of_accepts {logs : ℕ → Option Bytes} (h : ∀ i w, logs i = some w → Accepts app w)
    {room k : ℕ} (hk : k ≤ room) (a : σ) (i : ℕ) : Quiet app logs room k a i := by
  induction room generalizing k a i with
  | zero =>
      obtain rfl : k = 0 := Nat.le_zero.mp hk
      simp [Quiet]
  | succ room ih =>
      cases k with
      | zero => simp [Quiet]
      | succ k =>
          intro w hw
          obtain ⟨c, a', result, hload, hdel⟩ := (h i w hw).returns a
          rw [hload]
          simp only [hdel]
          exact ih (Nat.le_of_succ_le_succ hk) a' (i + 1)

section requests

variable {R : ℕ → Request} {addr : String} {port : ℕ} {pkts : List Pkt} {before after : List Vote2b}
  {v : Vote2b} {L₁ : Learner σ} {trace₁ : List (List (Out Cmd))}

/-- The state in which a vote completes the quorum of its instance, and what the call for it means
for the whole run. -/
lemma decided_call (hpkts : pkts.map read2b = (before ++ v :: after).map some)
    (hR : ∀ w ∈ before ++ v :: after, w.IsFor R)
    (hc : Completes n (before.map Vote2b.message) v.message)
    (hrun : handleAll app (new n addr port a₀) (pkts.take before.length) =
      (L₁, trace₁, .ok ())) :
    Fed app n a₀ (before.map Vote2b.message) L₁ trace₁.flatten ∧
      OneBallot (before.map Vote2b.message ++ [v.message]) ∧ v.fields.inst < 65536 ∧
      (∃ trace₂, (handleAll app (new n addr port a₀) pkts).2.1 =
          trace₁ ++ (Learner.handle_2b app L₁ v).2.1 :: trace₂ ∧
        ((Learner.handle_2b app L₁ v).2.2 ≠ .ok () → trace₂ = [])) ∧
      answers v.fields.inst (before ++ v :: after)
          (handleAll app (new n addr port a₀) pkts).2.1 =
        replies (Learner.handle_2b app L₁ v).2.1 := by
  have hone := oneBallot_of_isFor hR
  obtain ⟨hfed, htrace, hans⟩ := (fed_new app n addr port a₀).answers_eq hpkts hone hc hrun
  rw [List.map_append, List.map_cons, List.append_cons] at hone
  obtain ⟨pkt, -, hpkt⟩ : ∃ pkt ∈ pkts, read2b pkt = some v :=
    List.mem_map.mp (by rw [hpkts]; simp)
  exact ⟨by simpa using hfed, hone.of_append_left, inst_lt_of_read2b hpkt, htrace, hans⟩

/-- **In turn**: a request that is executed is answered with its result, if there is one and `str`
gives its bytes. -/
lemma answers_of_inTurn {vs : List Vote2b} (hpkts : pkts.map read2b = vs.map some)
    (hR : ∀ w ∈ vs, w.IsFor R) {i : ℕ} {result : Option PyText}
    (hexec : (i, result) ∈ executed app a₀
      (deliveries (handleAll app (new n addr port a₀) pkts).2.1.flatten))
    (hturn : InTurn app n (new n addr port a₀) pkts vs i) :
    answers i vs (handleAll app (new n addr port a₀) pkts).2.1 =
      ((resultText result).map (R i).answer).toList := by
  obtain ⟨fed, -, -, hfed⟩ := (fed_new app n addr port a₀).handleAll hpkts
    (oneBallot_of_isFor hR) rfl
  obtain ⟨before, v, after, rfl, rfl, hc, L₁, trace₁, hrun, hmin, c, a, result', hload, hdel, hq⟩ :=
    hturn
  have hv : v.IsFor R := hR v (by simp)
  obtain ⟨hfed₁, hone, hlt, ⟨trace₂, htrace, -⟩, hans⟩ := decided_call hpkts hR hc hrun
  obtain ⟨hmem, hreply⟩ := hfed₁.in_turn hone hlt hc hmin hload hdel hq hv
  -- the instance is executed once, so the result is that of this call
  have hresult : result = result' := by
    rw [List.nil_append, List.nil_append] at hfed
    refine hfed.executed_inj hexec ?_
    rw [htrace, List.flatten_append, List.flatten_cons, deliveries_append, executed_append,
      ← hfed₁.state, deliveries_append, executed_append]
    exact List.mem_append_right _ (List.mem_append_left _ hmem)
  rw [hans, hreply, hresult]

/-- **Accepted commands**: a request that is executed was decided in turn, or is answered with
`Retry`. The call that completed its quorum was for the next instance, and then catching up is
quiet, since accepted commands raise nothing and there is room for them; or it was not, and then it
has replied with `Retry`, since a call that raises is the last one and executes nothing. -/
lemma inTurn_or_retry {vs : List Vote2b} (hpkts : pkts.map read2b = vs.map some)
    (hR : ∀ w ∈ vs, w.IsFor R) {i : ℕ} {result : Option PyText}
    (hexec : (i, result) ∈ executed app a₀
      (deliveries (handleAll app (new n addr port a₀) pkts).2.1.flatten))
    (hok : ∀ w ∈ vs, Accepts app w.message.val) :
    InTurn app n (new n addr port a₀) pkts vs i ∨
      answers i vs (handleAll app (new n addr port a₀) pkts).2.1 = [(R i).answer retryText] := by
  obtain ⟨fed, -, -, hfed⟩ := (fed_new app n addr port a₀).handleAll hpkts
    (oneBallot_of_isFor hR) rfl
  rw [List.nil_append, List.nil_append] at hfed
  obtain ⟨hpos, hlog⟩ := hfed.logged_of_executed hexec
  obtain ⟨before, v, after, rfl, rfl, hc, L₁, trace₁, hrun⟩ :=
    (fed_new app n addr port a₀).exists_completes hpkts (oneBallot_of_isFor hR)
      (by simp [Quorate, senders]) hlog
  have hv : v.IsFor R := hR v (by simp)
  obtain ⟨hfed₁, hone, hlt, ⟨trace₂, htrace, hlast⟩, hans⟩ := decided_call hpkts hR hc hrun
  have hbefore : ∀ m ∈ before.map Vote2b.message, Accepts app m.val := by
    intro m hm
    obtain ⟨w, hw, rfl⟩ := List.mem_map.mp hm
    exact hok w (List.mem_append_left _ hw)
  have hpkts₁ : (pkts.take before.length).map read2b = before.map some := by
    rw [List.map_take, hpkts, List.map_append, List.take_left' (List.length_map ..)]
  have hin₁ : InOrder app L₁ trace₁.flatten ∧ Roomy app L₁ := by
    obtain ⟨L', trace', r, he, hin, -⟩ := (fed_new app n addr port a₀).settles
      (inOrder_new app n addr port a₀) (roomy_new app n addr port a₀) hpkts₁
      (by simpa using hone.of_append_left)
      (by simpa using hbefore)
    rw [hrun] at he
    cases he
    exact hin rfl
  by_cases hmin : L₁.minUncommitedIndex = v.fields.inst
  · left
    obtain ⟨c, a, result', hload, hdel⟩ := (hok v (by simp)).returns L₁.app
    refine ⟨before, v, after, rfl, rfl, hc, L₁, trace₁, hrun, hmin, c, a, result', hload, hdel, ?_⟩
    have hok₁ : ∀ m ∈ before.map Vote2b.message ++ [v.message], Accepts app m.val := by
      intro m hm
      rcases List.mem_append.mp hm with hm | hm
      · exact hbefore m hm
      · rw [List.mem_singleton.mp hm]
        exact hok v (by simp)
    have hroom : max L₁.maxInstance v.fields.inst - v.fields.inst ≤ app.depth := by
      have hle : L₁.maxInstance ≤ L₁.minUncommitedIndex + app.depth := hin₁.2
      omega
    exact quiet_of_accepts (accepts_of_logged hone hok₁) hroom a _
  · right
    rw [hans]
    refine (hfed₁.out_of_turn hin₁.1 hone ⟨hpos, hlt⟩ hc hmin hv).resolve_left fun hraised => ?_
    -- a call that raises is the last one, and the instance was not executed before
    obtain ⟨hraised, hnone⟩ := hraised
    rw [htrace, hlast (by simp [hraised]), List.flatten_append, List.flatten_cons, List.flatten_nil,
      List.append_nil, deliveries_append, hnone, List.append_nil] at hexec
    obtain ⟨-, hlogged⟩ := hfed₁.logged_of_executed hexec
    rw [← Vote2b.inst_message, hfed₁.logs_eq_none hc.1] at hlogged
    cases hlogged

end requests

/-- **Executed requests and their answers**, in a run of a fresh replica over the 2B packets of any
requests, in any order and with any repetitions, whatever the application does. A request that is
executed, and whose quorum was completed in turn, is answered with the text of its result if there
is one, and with nothing otherwise. If the application accepts the commands, a request that is
executed is answered exactly once, with a datagram that carries its result, exactly when there is a
result on which `str` does not raise, whose text is not longer than the 64 bytes of the answer, and
the quorum was completed in turn; out of turn the answer is `Retry`, and is right only if this is
the result. -/
theorem executed_answered_iff (app : Application σ Cmd) (n : ℕ) (addr : String) (port : ℕ) (a₀ : σ)
    (R : ℕ → Request) (pkts : List Pkt) (vs : List Vote2b) (hpkts : pkts.map read2b = vs.map some)
    (hR : ∀ v ∈ vs, v.IsFor R) (i : ℕ) (result : Option PyText)
    (hexec : (i, result) ∈ executed app a₀
      (deliveries (handleAll app (new n addr port a₀) pkts).2.1.flatten)) :
    (InTurn app n (new n addr port a₀) pkts vs i →
      answers i vs (handleAll app (new n addr port a₀) pkts).2.1 =
        ((resultText result).map (R i).answer).toList) ∧
    ((∀ v ∈ vs, Accepts app v.message.val) →
      ((∃ res text reply, result = some res ∧ res.str = .ok text ∧
          answers i vs (handleAll app (new n addr port a₀) pkts).2.1 = [reply] ∧
          reply.Carries (R i) text) ↔
        ∃ res text, result = some res ∧ res.str = .ok text ∧ text.length ≤ VALUE_SIZE ∧
          (InTurn app n (new n addr port a₀) pkts vs i ∨
            padTo VALUE_SIZE retryText = padTo VALUE_SIZE text))) := by
  have hturn := answers_of_inTurn hpkts hR hexec
  have hown : ∀ {res : PyText} {text : Bytes}, result = some res → res.str = .ok text →
      resultText result = some text := by
    intro res text hres hstr
    exact resultText_eq_some.mpr ⟨res, hres, hstr⟩
  refine ⟨hturn, fun hok => ?_⟩
  rcases inTurn_or_retry hpkts hR hexec hok with h | h
  · rw [hturn h]
    constructor
    · rintro ⟨res, text, reply, hres, hstr, hans, hcarries⟩
      rw [hown hres hstr] at hans
      obtain rfl : (R i).answer text = reply := by simpa using hans
      exact ⟨res, text, hres, hstr, (Request.carries_answer_iff.mp hcarries).1, .inl h⟩
    · rintro ⟨res, text, hres, hstr, hlen, -⟩
      rw [hown hres hstr]
      exact ⟨res, text, _, hres, hstr, rfl, Request.carries_answer_iff.mpr ⟨hlen, rfl⟩⟩
  · constructor
    · rintro ⟨res, text, reply, hres, hstr, hans, hcarries⟩
      rw [h] at hans
      obtain rfl : (R i).answer retryText = reply := by simpa using hans
      obtain ⟨hlen, hpad⟩ := Request.carries_answer_iff.mp hcarries
      exact ⟨res, text, hres, hstr, hlen, .inr hpad⟩
    · rintro ⟨res, text, hres, hstr, hlen, hin | hpad⟩
      · refine ⟨res, text, (R i).answer text, hres, hstr, ?_,
          Request.carries_answer_iff.mpr ⟨hlen, rfl⟩⟩
        rw [hturn hin, hown hres hstr]
        rfl
      · exact ⟨res, text, _, hres, hstr, h, Request.carries_answer_iff.mpr ⟨hlen, hpad⟩⟩

end Learner

/-- The requests of the two texts. -/
def putThenGet : ℕ → Request
  | 1 => ⟨0, putText, 1, "10.0.0.1", 34951, 34952⟩
  | _ => ⟨0, getText, 1, "10.0.0.1", 34951, 34952⟩

/-- The result of the get: `u'v\n'`. -/
def gotText : PyText := .unicode "v\n"

/-- `str` of it is `'v\n'`. -/
lemma str_gotText : gotText.str = .ok [118, 10] := by simp [gotText, PyText.str]

/-- The two requests come in turn: the second one is answered with its result. The vote for instance
2 comes when instance 1 has been delivered, and the log holds nothing behind it. -/
theorem executed_answered_two : ∃ res text reply, some gotText = some res ∧ res.str = .ok text ∧
    Learner.answers 2 [voteFor 1 0 putText, voteFor 2 0 getText]
      (oneAcceptor [voteFor 1 0 putText, voteFor 2 0 getText]).2.1 = [reply] ∧
    reply.Carries (putThenGet 2) text := by
  obtain ⟨-, hiff⟩ := Learner.executed_answered_iff
    (simpleDatabase loadsTexts noneText recursionLimit) 1 "224.3.29.73" 34952 SimpleDatabase.new
    putThenGet ([voteFor 1 0 putText, voteFor 2 0 getText].map Vote2b.pkt)
    [voteFor 1 0 putText, voteFor 2 0 getText] (by decide +kernel) (by
      intro v hv
      fin_cases hv <;> exact ⟨rfl, by decide +kernel, rfl, rfl, rfl⟩)
    2 (some gotText) (by decide +kernel)
  have hok : ∀ v ∈ [voteFor 1 0 putText, voteFor 2 0 getText],
      Learner.Accepts (simpleDatabase loadsTexts noneText recursionLimit) v.message.val := by
    intro v hv
    fin_cases hv
    all_goals exact accepts_of_executes ⟨_, rfl, rfl⟩
  refine (hiff hok).mpr ⟨gotText, [118, 10], rfl, str_gotText, by decide, .inl ?_⟩
  refine ⟨[voteFor 1 0 putText], voteFor 2 0 getText, [], rfl, rfl, by decide +kernel,
    (oneAcceptor [voteFor 1 0 putText]).1, (oneAcceptor [voteFor 1 0 putText]).2.1, ?_,
    by decide +kernel, .obj [("action", .str "get"), ("key", .arr [.str "k"])],
    (oneAcceptor [voteFor 1 0 putText]).1.app, some gotText, ?_, rfl, ?_⟩
  · have hreturns : (oneAcceptor [voteFor 1 0 putText]).2.2 = .ok () := by decide +kernel
    exact Prod.ext rfl (Prod.ext rfl hreturns)
  · have htext : (voteFor 2 0 getText).message.val = getText := by decide +kernel
    rw [htext]
    rfl
  · have hnothing : max (oneAcceptor [voteFor 1 0 putText]).1.maxInstance 2 - 2 = 0 := by
      decide +kernel
    rw [hnothing]
    simp [Learner.Quiet]

/-- The second request is decided first: it is answered with `Retry`, executed after the first one,
and never answered with its result. -/
theorem executed_answered_retry :
    (2, some gotText) ∈ Learner.executed (simpleDatabase loadsTexts noneText recursionLimit)
      SimpleDatabase.new
      (Learner.deliveries (oneAcceptor [voteFor 2 0 getText, voteFor 1 0 putText]).2.1.flatten) ∧
    Learner.answers 2 [voteFor 2 0 getText, voteFor 1 0 putText]
        (oneAcceptor [voteFor 2 0 getText, voteFor 1 0 putText]).2.1 =
      [(putThenGet 2).answer Learner.retryText] ∧
    gotText.str = .ok [118, 10] ∧
    ¬ ((putThenGet 2).answer Learner.retryText).Carries (putThenGet 2) [118, 10] := by
  refine ⟨by decide +kernel, by decide +kernel, str_gotText, ?_⟩
  rw [Request.carries_answer_iff]
  decide +kernel

end P4xos.Bmv2
