import P4xos.Bmv2.Convergence

/-!
# Runs of a replica over any packets

Nothing is assumed of the packets here: of any protocol, length and type, from anybody, in any
order.

* A packet without a vote leaves the votes, the log and the application alone (`Untouched`,
  `handle_pkt_of_not_read2b`); `handle_2b_cases` says everything a vote can do: raise, be counted or
  ignored, or decide.
* `Sound` is the invariant of every run: the votes and promises counted are sound, and no instance
  decided is past the highest one known. `Sound.handle_pkt` is the step, `sound_handleAll` the run.
* `handleAll_invariant`: what every packet keeps, a run keeps, up to the packet whose call raised.
* `deliverInstance_stops` says why the recursion of `deliverInstance` ends where it ends: everything
  is delivered, the next instance is missing, its command fails, or the stack has no room for
  another call. `deliverDecision_stops` says the same of a decision.
-/

namespace P4xos.Bmv2

open P4xos.Lib PaxosLearner

namespace Learner

variable {σ Cmd : Type*} {app : Application σ Cmd}

/-! ## Packets without a vote -/

/-- A packet touched at most the promises. -/
structure Untouched (L L' : Learner σ) (outs : List (Out Cmd)) : Prop where
  logs : L'.learner.logs = L.learner.logs
  states : L'.learner.states = L.learner.states
  majority : L'.learner.majority = L.learner.majority
  minUncommitedIndex : L'.minUncommitedIndex = L.minUncommitedIndex
  maxInstance : L'.maxInstance = L.maxInstance
  app : L'.app = L.app
  outs : deliveries outs = []
  promises : PromiseInv (fun _ => True) L.learner → PromiseInv (fun _ => True) L'.learner

/-- Nothing happened. -/
lemma Untouched.refl (L : Learner σ) : Untouched L L ([] : List (Out Cmd)) :=
  ⟨rfl, rfl, rfl, rfl, rfl, rfl, rfl, id⟩

/-- An exception is caught or raised again. -/
lemma Untouched.catchIndexError (L : Learner σ) (e : PyExc) :
    Untouched L (catchIndexError L ([] : List (Out Cmd)) e).1
      (catchIndexError L ([] : List (Out Cmd)) e).2.1 := by
  unfold Learner.catchIndexError
  split_ifs <;> exact .refl L

/-- What follows a promise sends at most one message. -/
lemma Untouched.promise (L : Learner σ) (msg : PaxosMessage Bytes) {outs : List (Out Cmd)}
    (h : deliveries outs = []) :
    Untouched L { L with learner := (L.learner.handle_p1b msg).1 } outs := by
  obtain ⟨hlogs, hstates, hmaj⟩ := handle_p1b_frame L.learner msg
  exact ⟨hlogs, hstates, hmaj, rfl, rfl, rfl, h, fun hp => hp.handle_p1b trivial⟩

/-- **A packet without a vote** touches at most the promises. It has no IP layer or no payload, or
is not UDP, or does not unpack, or is of another type; a promise is the only one of these that
writes something. -/
lemma handle_pkt_of_not_read2b (app : Application σ Cmd) (L : Learner σ) {pkt : Pkt}
    (h : read2b pkt = none) :
    Untouched L (handle_pkt app L pkt).1 (handle_pkt app L pkt).2.1 := by
  unfold handle_pkt
  rcases hip : pkt.ip with _ | ⟨proto, src⟩
  · exact .catchIndexError L _
  · dsimp only
    split_ifs with hproto
    · exact .refl L
    · rcases hraw : pkt.raw with _ | datagram
      · exact .catchIndexError L _
      · dsimp only
        rcases hf : unpack (datagram.take P4v14.PAXOS_LEN) with e | f
        · exact .catchIndexError L e
        · have h2b : f.typ ≠ PHASE_2B := by
            intro htyp
            simp [read2b, hip, hraw, hf, not_not.mp hproto, htyp] at h
          dsimp only
          rw [if_neg h2b]
          split_ifs with h1b
          · set msg : PaxosMessage Bytes := ⟨f.acceptor_id, f.inst, f.rnd, f.vrnd,
              rstrip stripChars f.value⟩
            have hfst : ∀ learner res, L.learner.handle_p1b msg = (learner, res) →
                learner = (L.learner.handle_p1b msg).1 := by
              intro learner res he
              rw [he]
            rcases he : L.learner.handle_p1b msg with ⟨learner, _ | res⟩
            · obtain rfl := hfst _ _ he
              exact .promise L msg rfl
            · obtain rfl := hfst _ _ he
              dsimp only
              rcases make_paxos PHASE_2A res.inst res.crnd res.vrnd res.val with e | msg2a
              · dsimp only
                unfold Learner.catchIndexError
                split_ifs <;> exact .promise L msg rfl
              · exact .promise L msg rfl
          · exact .refl L

/-! ## Votes -/

/-- The vote completes the majority of its instance. -/
def CompletesMajority (L : PaxosLearner Bytes) (msg : PaxosMessage Bytes) : Prop :=
  L.CountsVote msg ∧ (L.voted msg).finished = true

/-- A vote is looked at. -/
instance (L : PaxosLearner Bytes) (msg : PaxosMessage Bytes) :
    Decidable (CompletesMajority L msg) := inferInstanceAs (Decidable (_ ∧ _))

/-- A call that returns does not raise. -/
lemma not_raises_of_ok {L learner : PaxosLearner Bytes} {msg : PaxosMessage Bytes}
    {res : Option (ℕ × Bytes)} (h : L.handle_p2b msg = .ok (learner, res)) : ¬ L.Raises msg := by
  intro hr
  have hresult := handle_p2b_result L msg
  rw [if_pos hr, h] at hresult
  cases hresult

/-- **Everything a vote can do**: raise a `NameError`, be counted or ignored, or decide. The four
cases of `handle_p2b`, with the two that return nothing put together. -/
lemma handle_2b_cases (app : Application σ Cmd) (L : Learner σ) (v : Vote2b) :
    (L.learner.Raises v.message ∧ handle_2b app L v = (L, [], .error .NameError)) ∨
    (¬ L.learner.Raises v.message ∧ ¬ CompletesMajority L.learner v.message ∧
      ∃ learner, L.learner.handle_p2b v.message = .ok (learner, none) ∧
        handle_2b app L v = ({ L with learner := learner }, [], .ok ())) ∨
    (¬ L.learner.Raises v.message ∧ CompletesMajority L.learner v.message ∧
      ∃ learner, L.learner.handle_p2b v.message = .ok (learner,
          some (v.fields.inst, (L.learner.votes v.message).val.getD v.message.val)) ∧
        handle_2b app L v = deliverDecision app { L with learner := learner } v.fields.inst
          v.fields.req_id v.src v.udp) := by
  unfold handle_2b
  rcases handle_p2b_cases L.learner v.message with
    ⟨he, hr⟩ | ⟨hc, he⟩ | ⟨-, hfin, he⟩ | ⟨hc, hfin, he⟩
  · rw [he]
    exact .inl ⟨hr, rfl⟩
  · refine .inr (.inl ⟨not_raises_of_ok he, fun h => hc h.1, _, he, ?_⟩)
    rw [he]
  · refine .inr (.inl ⟨not_raises_of_ok he, fun h => ?_, _, he, ?_⟩)
    · rw [h.2] at hfin
      cases hfin
    · rw [he]
  · refine .inr (.inr ⟨not_raises_of_ok he, ⟨hc, hfin⟩, _, he, ?_⟩)
    rw [he]
    rfl

/-- A logged instance is not decided again. -/
lemma logs_eq_none_of_decides {L learner : PaxosLearner Bytes} {msg : PaxosMessage Bytes} {i : ℕ}
    {w : Bytes} (hinv : Inv (fun _ => True) L)
    (hcall : L.handle_p2b msg = .ok (learner, some (i, w))) : L.logs i = none := by
  rw [Option.eq_none_iff_forall_ne_some]
  intro v hv
  obtain ⟨st, hst, hfin⟩ := hinv.logged i v hv
  exact (handle_p2b_finished hst hfin hcall).2.2 w rfl

/-! ## The invariant of every run -/

/-- The invariant of every run. -/
structure Sound (L : Learner σ) : Prop where
  votes : Inv (fun _ => True) L.learner
  promises : PromiseInv (fun _ => True) L.learner
  max_bound : L.maxInstance < 65536
  bound : ∀ i v, L.learner.logs i = some v → i ≤ L.maxInstance

/-- A new replica knows no instance but the first. -/
lemma sound_new (n : ℕ) (addr : String) (port : ℕ) (a : σ) : Sound (new n addr port a) where
  votes := inv_new _ _
  promises := promiseInv_new _ _
  max_bound := by simp [new]
  bound i v h := by simp [new, PaxosLearner.new] at h

/-- None of it is touched. -/
lemma Sound.untouched {L L' : Learner σ} {outs : List (Out Cmd)} (h : Sound L)
    (hu : Untouched L L' outs) : Sound L' where
  votes := h.votes.congr hu.logs hu.states hu.majority
  promises := hu.promises h.promises
  max_bound := hu.maxInstance.trans_lt h.max_bound
  bound i v hv := by
    rw [hu.logs] at hv
    rw [hu.maxInstance]
    exact h.bound i v hv

/-- A vote that decides nothing. -/
lemma Sound.counted {L : Learner σ} (h : Sound L) {learner : PaxosLearner Bytes}
    {msg : PaxosMessage Bytes} (hcall : L.learner.handle_p2b msg = .ok (learner, none)) :
    Sound { L with learner := learner } where
  votes := h.votes.handle_p2b trivial hcall
  promises := h.promises.congr (handle_p2b_frame hcall).1 (handle_p2b_frame hcall).2
  max_bound := h.max_bound
  bound i v hv := h.bound i v (by rwa [← handle_p2b_logs_of_none hcall])

/-- After a vote that decides, no instance decided is past the larger of `maxInstance` and its
own. -/
lemma Sound.le_max_of_decides {L : Learner σ} (h : Sound L) {learner : PaxosLearner Bytes}
    {msg : PaxosMessage Bytes} {inst : ℕ} {w : Bytes}
    (hcall : L.learner.handle_p2b msg = .ok (learner, some (inst, w))) {i : ℕ} {v : Bytes}
    (hv : learner.logs i = some v) : i ≤ max L.maxInstance inst := by
  rw [(handle_p2b_decides hcall).2.1] at hv
  by_cases hi : i = inst
  · exact hi.trans_le (le_max_right _ _)
  · rw [Function.update_of_ne hi] at hv
    exact (h.bound i v hv).trans (le_max_left _ _)

/-- A vote that decides, and whatever the recursion does then. The recursion does not touch the
votes, the promises and the log, and `maxInstance` covers the new instance. -/
lemma Sound.decided {L L' : Learner σ} (h : Sound L) {learner : PaxosLearner Bytes} {w : Bytes}
    {v : Vote2b} (hlt : v.fields.inst < 65536)
    (hcall : L.learner.handle_p2b v.message = .ok (learner, some (v.fields.inst, w)))
    {outs : List (Out Cmd)} (hr : Replays app
      { L with learner := learner, maxInstance := max L.maxInstance v.fields.inst } L' outs) :
    Sound L' where
  votes := by
    rw [hr.learner]
    exact h.votes.handle_p2b trivial hcall
  promises := by
    rw [hr.learner]
    exact h.promises.congr (handle_p2b_frame hcall).1 (handle_p2b_frame hcall).2
  max_bound := hr.maxInstance.trans_lt (max_lt h.max_bound hlt)
  bound i u hu := by
    rw [hr.learner] at hu
    rw [hr.maxInstance]
    exact h.le_max_of_decides hcall hu

/-- **One packet** of any kind. A packet without a vote leaves all of this alone; a vote is refused,
counted, or decides. -/
lemma Sound.handle_pkt {L : Learner σ} (h : Sound L) (pkt : Pkt) :
    Sound (handle_pkt app L pkt).1 := by
  cases hv : read2b pkt with
  | none => exact h.untouched (handle_pkt_of_not_read2b app L hv)
  | some v =>
      rw [handle_pkt_of_read2b app L hv]
      rcases handle_2b_cases app L v with
        ⟨-, he⟩ | ⟨-, -, learner, hcall, he⟩ | ⟨-, -, learner, hcall, he⟩
      · rw [he]
        exact h
      · rw [he]
        exact h.counted hcall
      · rw [he]
        exact h.decided (inst_lt_of_read2b hv) hcall
          (deliverDecision_replays app { L with learner := learner } _ _ _ _)

/-- What every packet of a run keeps, the run keeps, up to the packet that made it end. The
invariant may speak of the result of the last call: it is used before a packet only where that call
returned. -/
lemma handleAll_invariant (app : Application σ Cmd)
    {I : Learner σ → List (Out Cmd) → Except PyExc Unit → Prop} {L : Learner σ}
    (outs : List (Out Cmd)) (pkts : List Pkt) (hinit : I L outs (.ok ()))
    (hstep : ∀ L outs, ∀ pkt ∈ pkts, I L outs (.ok ()) → I (handle_pkt app L pkt).1
      (outs ++ (handle_pkt app L pkt).2.1) (handle_pkt app L pkt).2.2) :
    I (handleAll app L pkts).1 (outs ++ (handleAll app L pkts).2.1.flatten)
      (handleAll app L pkts).2.2 := by
  induction pkts generalizing L outs with
  | nil => simpa [handleAll] using hinit
  | cons pkt pkts ih =>
      have hone := hstep L outs pkt List.mem_cons_self hinit
      rw [handleAll]
      rcases he : Learner.handle_pkt app L pkt with ⟨L₁, outs₁, e | _⟩ <;> rw [he] at hone
      · simpa using hone
      · have hrest := ih _ hone fun L outs p hp => hstep L outs p (List.mem_cons_of_mem _ hp)
        simpa using hrest

/-- **The invariant holds in every run.** -/
lemma sound_handleAll (app : Application σ Cmd) (n : ℕ) (addr : String) (port : ℕ) (a : σ)
    (pkts : List Pkt) : Sound (handleAll app (new n addr port a) pkts).1 :=
  handleAll_invariant app (I := fun L _ _ => Sound L) [] pkts (sound_new n addr port a)
    fun _ _ pkt _ h => h.handle_pkt pkt

/-! ## Where the recursion ends -/

/-- Delivering the message fails with an exception: it does not parse, or the handler raises. -/
def Fails (app : Application σ Cmd) (v : Bytes) (e : PyExc) : Prop :=
  app.loads v = .error e ∨ ∃ c a, app.loads v = .ok c ∧ (app.deliver a c).2.2 = some e

/-- The recursion has ended at the next instance to deliver: nothing is left, the instance is
missing, or it fails with an exception that is `good`. -/
def StopsAt (app : Application σ Cmd) (L : Learner σ) (good : PyExc → Prop) : Prop :=
  L.maxInstance < L.minUncommitedIndex ∨ L.learner.logs L.minUncommitedIndex = none ∨
    ∃ v e, L.learner.logs L.minUncommitedIndex = some v ∧ Fails app v e ∧ good e

/-- A weaker condition on the exception. -/
lemma StopsAt.mono {L : Learner σ} {good good' : PyExc → Prop} (h : StopsAt app L good)
    (hgood : ∀ e, good e → good' e) : StopsAt app L good' := by
  rcases h with hmax | hnone | ⟨v, e, hv, hfail, he⟩
  · exact .inl hmax
  · exact .inr (.inl hnone)
  · exact .inr (.inr ⟨v, e, hv, hfail, hgood e he⟩)

/-- The `except` clauses change what stops the recursion in nothing that it looks at. -/
lemma catchKeyError_fst (inst : ℕ) (L : Learner σ) (outs : List (Out Cmd)) (d : Deferred PyText)
    (r : Except PyExc (Option (Deferred PyText))) : (catchKeyError inst L outs d r).1 = L := by
  unfold catchKeyError
  split
  · rcases retryInstance_cases Cmd L inst with ⟨-, he⟩ | ⟨-, msg, -, he⟩ <;> rw [he]
    dsimp only
    split_ifs <;> rfl
  · rfl

/-- **Where the recursion ends**: an exception that ends it is a `KeyError`, or is raised again; and
the stack may have no room for another call. -/
lemma deliverInstance_stops (app : Application σ Cmd) (room : ℕ) (L : Learner σ) (inst : ℕ)
    (h : L.minUncommitedIndex ≤ inst) :
    (deliverInstance app room L inst).2.2 = .error .RuntimeError ∨
      StopsAt app (deliverInstance app room L inst).1 fun e =>
        (deliverInstance app room L inst).2.2 = .error e ∨ e = .KeyError := by
  -- a failure at the instance itself, seen through the `except` clauses
  have hcatch : ∀ (inst : ℕ) (L : Learner σ) (outs : List (Out Cmd)) (d : Deferred PyText) (v : Bytes)
      (e : PyExc), L.learner.logs L.minUncommitedIndex = some v → Fails app v e →
      StopsAt app (catchKeyError inst L outs d (.error e)).1 fun e' =>
        (catchKeyError inst L outs d (.error e)).2.2 = .error e' ∨ e' = .KeyError := by
    intro inst L outs d v e hlog hfail
    rw [catchKeyError_fst]
    refine .inr (.inr ⟨v, e, hlog, hfail, ?_⟩)
    by_cases he : e = .KeyError
    · exact .inr he
    · rw [catchKeyError_of_ne (by simpa using he)]
      exact .inl rfl
  fun_induction deliverInstance app room L inst with
  | case1 L => exact .inl rfl
  | case2 room L hlog =>
      right
      rw [catchKeyError_fst]
      exact .inr (.inl hlog)
  | case3 room L cmd e hload hlog => exact .inr (hcatch _ _ _ _ cmd e hlog (.inl hload))
  | case4 room L cmd c hload a result e hdel hlog =>
      exact .inr (hcatch _ _ _ _ cmd e hlog (.inr ⟨c, L.app, hload, by rw [hdel]⟩))
  | case5 room L cmd c hload a result hdel L' L'' outs' e hlog outs hlt heq ih =>
      have hne := deliverInstance_ne_keyError app room L' (L.minUncommitedIndex + 1)
      have hstop := ih le_rfl
      rw [heq] at hne hstop
      rw [catchKeyError_of_ne (fun he => hne (by rw [Except.error.inj he]))]
      rcases hstop with hdeep | hstop
      · exact .inl (congrArg Except.error (Except.error.inj hdeep))
      · exact .inr (hstop.mono fun e' he' => he'.imp (fun he => by rw [← Except.error.inj he]) id)
  | case6 room L cmd c hload a result hdel L' L'' outs' d hlog outs hlt heq ih =>
      have hstop := ih le_rfl
      rw [heq] at hstop
      rcases hstop with hdeep | hstop
      · cases hdeep
      · refine .inr (hstop.mono fun e' he' => .inr ?_)
        rcases he' with he | he
        · cases he
        · exact he
  | case7 room L cmd c hload a result hdel L' hlog outs hlt =>
      exact .inr (.inl (Nat.lt_succ_of_le (Nat.le_of_not_lt hlt)))
  | case8 room L inst hne hlt L' outs r heq ih =>
      have hnek := deliverInstance_ne_keyError app room L (inst - 1)
      have hstop := ih (by omega)
      rw [heq] at hnek hstop
      rw [catchKeyError_of_ne hnek]
      exact hstop
  | case9 room L inst hne hlt => exact absurd (lt_of_le_of_ne h (Ne.symm hne)) hlt

/-- What follows a decision is the recursion, and at most an answer. Every branch returns the
learner of the recursion; an answer is no delivery. -/
lemma deliverDecision_view (app : Application σ Cmd) (L : Learner σ) (inst req_id : ℕ)
    (src : String) (udp : Option (ℕ × ℕ)) :
    (deliverDecision app L inst req_id src udp).1 = (deliverInstance app (app.depth + 1)
        { L with maxInstance := max L.maxInstance inst } inst).1 ∧
      deliveries (deliverDecision app L inst req_id src udp).2.1 =
        deliveries (deliverInstance app (app.depth + 1)
          { L with maxInstance := max L.maxInstance inst } inst).2.1 := by
  unfold deliverDecision
  rw [ite_maxInstance]
  dsimp only
  rcases deliverInstance app (app.depth + 1) { L with maxInstance := max L.maxInstance inst } inst with
    ⟨L₁, outs, e | _ | d⟩
  · unfold catchIndexError
    dsimp only
    split_ifs <;> exact ⟨rfl, rfl⟩
  · exact ⟨rfl, rfl⟩
  · rcases udp with _ | ⟨sport, dport⟩
    · exact ⟨rfl, rfl⟩
    · refine ⟨rfl, ?_⟩
      dsimp only
      rw [deliveries_append, deliveries_addCallback, List.append_nil]

/-- Where a decision leads: the exceptions that do not leave `handle_pkt` are `KeyError` and
`IndexError`. By what the recursion returns (`deliverInstance_stops`): an `IndexError` is caught
around the decision, and every other exception leaves it as it is. -/
lemma deliverDecision_stops (app : Application σ Cmd) {L : Learner σ} {inst : ℕ}
    (h : L.minUncommitedIndex ≤ inst) (req_id : ℕ) (src : String) (udp : Option (ℕ × ℕ)) :
    (deliverDecision app L inst req_id src udp).2.2 = .error .RuntimeError ∨
      StopsAt app (deliverDecision app L inst req_id src udp).1 fun e =>
        (deliverDecision app L inst req_id src udp).2.2 = .error e ∨ e = .KeyError ∨
          e = .IndexError := by
  have hstop := deliverInstance_stops app (app.depth + 1)
    { L with maxInstance := max L.maxInstance inst } inst h
  unfold deliverDecision
  rw [ite_maxInstance]
  dsimp only
  rcases he : deliverInstance app (app.depth + 1) { L with maxInstance := max L.maxInstance inst }
    inst with ⟨L₁, outs, e | d⟩ <;> rw [he] at hstop
  · unfold catchIndexError
    dsimp only
    rcases hstop with hdeep | hstop
    · rw [Except.error.inj hdeep, if_neg (by simp)]
      exact .inl rfl
    · right
      split_ifs with hindex
      · refine hstop.mono fun e' he' => ?_
        rcases he' with he' | he'
        · exact .inr (.inr (by rw [← Except.error.inj he', hindex]))
        · exact .inr (.inl he')
      · exact hstop.mono fun e' he' => he'.imp (fun he => by rw [Except.error.inj he]) .inl
  · rcases hstop with hdeep | hstop
    · cases hdeep
    · have hkey : StopsAt app L₁ fun e => e = .KeyError := by
        refine hstop.mono fun e' he' => ?_
        rcases he' with he' | he'
        · cases he'
        · exact he'
      right
      unfold catchIndexError
      rcases d with _ | d <;> rcases udp with _ | ⟨sport, dport⟩ <;>
        exact hkey.mono fun e he => .inr (.inl he)

end Learner

end P4xos.Bmv2
