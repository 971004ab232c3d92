import P4xos.Dpdk.Backup
import Mathlib.Data.List.Perm.Subperm

/-!
# The client values that the DPDK backup proposes

The backup keeps the values of the clients on a stack. When the learner reports a quorum of promises
of which none carries a value, the value on top is popped, freed, and then proposed. What the memory
holds by then is up to the allocator (`Event.left`).

1. `values_step`, `step_of_valueless`: an event pushes the value of a client, pops one and proposes
what its memory holds, or leaves the stack alone. 2. `perm_buffered`: the values buffered are those
proposed and those on the stack, as long as what is proposed is what was popped (`Intact`). This is
the invariant of a run. 3. `proposedOnce_of_intact`: so what a run proposes is buffered, intact and
once, as long as the memory of every value popped still holds the value. One event more keeps it
exactly if a value of the stack is found there (`Substitute`).

A value that is proposed because a promise carried it is not one of the client values here.
-/

namespace P4xos.Dpdk.Backup

open P4xos.Lib

variable {L : Type*} {lib : LibLearner L} {dl : Backup L} {e : Event}

/-- The learner reports a quorum of promises, and none of them carries a value. -/
def Valueless (lib : LibLearner L) (dl : Backup L) : Event → Prop
  | .flush _ => False
  | .rx x d =>
      (Event.rx x d).msgtype = some PaxosMessageType.PAXOS_PROMISE.code ∧
        ∃ accept ∈ (lib.learner_receive_promise dl.paxos_learner
          (read_promise lib.paxos_value_new x.pkt.frame)).2, accept.value = []

/-- The reports of the library are looked at. -/
instance (lib : LibLearner L) (dl : Backup L) : DecidablePred (Valueless lib dl)
  | .flush _ => inferInstanceAs (Decidable False)
  | .rx _ _ => inferInstanceAs (Decidable (_ ∧ ∃ accept ∈ (_ : Option PaxosAccept), _))

/-- The value that an event puts on the stack. -/
def pushed (lib : LibLearner L) (dl : Backup L) : Event → List Bytes
  | .flush _ => []
  | .rx x d =>
      if (Event.rx x d).msgtype = some PaxosMessageType.PAXOS_ACCEPT.code ∧
          0 < (vsize x.pkt.frame).toInt ∧ dl.values.length < NB_VALUE_BUFFER then
        [read_value lib.paxos_value_new x.pkt.frame]
      else []

/-- The value that is proposed where no promise carried one. -/
def proposed (lib : LibLearner L) (dl : Backup L) (e : Event) : List Bytes :=
  if Valueless lib dl e then (step lib dl e).2.map fun t => t.pm.accept.value else []

/-- The memory of the value that is popped, if one is, after the value is freed. -/
def Event.left (v : Bytes) : Event → Bytes
  | .flush d => d.freed.read 0 v.length
  | .rx _ d => d.freed.read 0 v.length

/-! ## What one event does to the stack -/

/-- The prepares take no value. -/
@[simp] lemma start_recovery_values (lib : LibLearner L) (dl : Backup L) (d : Driver) :
    (start_recovery lib dl d).1.values = dl.values := by
  unfold start_recovery
  split_ifs
  · rfl
  · simp

/-- On a quorum with a value, or none, the stack stays. The value is taken from the stack when the
accept has none, which is excluded here. -/
lemma rx_promise_values (d : Driver) (pkt : Mbuf)
    (h : ∀ accept ∈ (lib.learner_receive_promise dl.paxos_learner
      (read_promise lib.paxos_value_new pkt.frame)).2, accept.value ≠ []) :
    (rx_promise lib dl d pkt).1.values = dl.values := by
  unfold rx_promise
  simp only
  rcases hrecv : lib.learner_receive_promise dl.paxos_learner
    (read_promise lib.paxos_value_new pkt.frame) with ⟨l, _ | accept⟩
  · rfl
  · rw [hrecv] at h
    simp only
    split
    · next hvalue _ => exact absurd hvalue (h accept rfl)
    · simp

/-- The branch for promises, on a quorum without a value. With an empty stack the accept goes out
without a value; otherwise the top is taken off, its memory freed, and that memory is what the
accept's value points to. -/
lemma rx_promise_of_valueless (d : Driver) (pkt : Mbuf) {accept : PaxosAccept}
    (haccept : accept ∈ (lib.learner_receive_promise dl.paxos_learner
      (read_promise lib.paxos_value_new pkt.frame)).2) (hvalue : accept.value = []) :
    (dl.values = [] ∧ (rx_promise lib dl d pkt).1.values = [] ∧
      (rx_promise lib dl d pkt).2.map (fun t => t.pm.accept.value) = [[]]) ∨
    ∃ v vs, dl.values = v :: vs ∧ (rx_promise lib dl d pkt).1.values = vs ∧
      (rx_promise lib dl d pkt).2.map (fun t => t.pm.accept.value) =
        [d.freed.read 0 v.length] := by
  unfold rx_promise
  simp only
  rcases hrecv : lib.learner_receive_promise dl.paxos_learner
    (read_promise lib.paxos_value_new pkt.frame) with ⟨l, o⟩
  rw [hrecv] at haccept
  obtain rfl : o = some accept := haccept
  simp only [hvalue]
  rcases hvalues : dl.values with _ | ⟨v, vs⟩
  · left
    simp [hvalue]
  · right
    exact ⟨v, vs, rfl, by simp, by simp⟩

/-- The branch for accepts keeps the value, if there is one and room for it. What recovery does
after that keeps the stack, as `start_recovery_values` says. -/
lemma rx_accept_values (d : Driver) (pkt : Mbuf) :
    (rx_accept lib dl d pkt).1.values =
      if 0 < (vsize pkt.frame).toInt ∧ dl.values.length < NB_VALUE_BUFFER then
        read_value lib.paxos_value_new pkt.frame :: dl.values
      else dl.values := by
  have hrec : ∀ dl₁ : Backup L, (if dl₁.primary_alive then
      ({ (start_recovery lib dl₁ d).1 with primary_alive := false }, (start_recovery lib dl₁ d).2)
      else (dl₁, [])).1.values = dl₁.values := by
    intro dl₁
    split_ifs
    · exact start_recovery_values lib dl₁ d
    · rfl
  apply (hrec _).trans
  split_ifs <;> rfl

/-- Nor does an accepted message change the stack. -/
lemma rx_accepted_values (d : Driver) (pkt : Mbuf) :
    (rx_accepted lib dl d pkt).1.values = dl.values := by
  unfold rx_accepted
  simp only
  rcases lib.learner_receive_accepted dl.paxos_learner
    (read_accepted lib.paxos_value_new pkt.frame) with ⟨l, _ | _⟩
  · rfl
  · simp only [tx_buffer_values]
    split_ifs <;> rfl

/-- Only an accept brings a value. -/
lemma pushed_eq_nil (h : e.msgtype ≠ some PaxosMessageType.PAXOS_ACCEPT.code) :
    pushed lib dl e = [] := by
  cases e with
  | flush d => rfl
  | rx x d => exact if_neg fun hboth => h hboth.1

/-- On other events the value that the event brings is put on the stack. One case per branch of
`paxos_rx_process`; only the one for accepts pushes. -/
lemma values_step (h : ¬ Valueless lib dl e) :
    (step lib dl e).1.values = pushed lib dl e ++ dl.values := by
  cases e with
  | flush d => exact tx_buffer_values dl d
  | rx x d =>
      unfold step
      simp only
      split_ifs with h₁ h₂ h₃
      · rw [pushed_eq_nil fun htype => by cases msgtype_unique h₁ htype]
        apply rx_promise_values
        intro accept haccept hvalue
        exact h ⟨h₁, accept, haccept, hvalue⟩
      · rw [rx_accept_values, pushed]
        by_cases hroom : 0 < (vsize x.pkt.frame).toInt ∧ dl.values.length < NB_VALUE_BUFFER
        · rw [if_pos hroom, if_pos ⟨h₂, hroom⟩]
          rfl
        · rw [if_neg hroom, if_neg fun hboth => hroom hboth.2]
          rfl
      · rw [pushed_eq_nil h₂]
        exact rx_accepted_values d x.pkt
      · rw [pushed_eq_nil h₂]
        rfl

/-- On a quorum without a value, the value on top of the stack is popped, and what its memory holds
then is proposed. -/
lemma step_of_valueless (h : Valueless lib dl e) :
    pushed lib dl e = [] ∧
      ((dl.values = [] ∧ (step lib dl e).1.values = [] ∧ proposed lib dl e = [[]]) ∨
        ∃ v vs, dl.values = v :: vs ∧ (step lib dl e).1.values = vs ∧
          proposed lib dl e = [e.left v]) := by
  rw [proposed, if_pos h]
  cases e with
  | flush d => cases h
  | rx x d =>
      obtain ⟨htype, accept, haccept, hvalue⟩ := h
      refine ⟨pushed_eq_nil fun htype' => ?_, ?_⟩
      · cases msgtype_unique htype htype'
      · have hstep : step lib dl (.rx x d) = rx_promise lib dl d x.pkt := by
          unfold step
          simp only
          rw [if_pos htype]
        rw [hstep]
        exact rx_promise_of_valueless d x.pkt haccept hvalue

/-! ## Runs -/

/-- The values that a run puts on the stack. -/
def buffered (lib : LibLearner L) (dl : Backup L) (es : List Event) : List Bytes :=
  collect (step lib) (pushed lib) dl es

/-- The values that a run proposes where no promise carried one. -/
def proposals (lib : LibLearner L) (dl : Backup L) (es : List Event) : List Bytes :=
  collect (step lib) (proposed lib) dl es

/-- One event more puts its value on the stack. -/
lemma buffered_concat (lib : LibLearner L) (dl : Backup L) (es : List Event) (e : Event) :
    buffered lib dl (es ++ [e]) = buffered lib dl es ++ pushed lib (after (step lib) dl es) e :=
  collect_concat _ _ _ _

/-- And proposes what it proposes. -/
lemma proposals_concat (lib : LibLearner L) (dl : Backup L) (es : List Event) (e : Event) :
    proposals lib dl (es ++ [e]) = proposals lib dl es ++ proposed lib (after (step lib) dl es) e :=
  collect_concat _ _ _ _

/-- At all times, every value proposed is one that was buffered, and none is proposed twice. -/
def ProposedOnce (lib : LibLearner L) (dl : Backup L) (es : List Event) : Prop :=
  ∀ pre post, es = pre ++ post → (proposals lib dl pre).Subperm (buffered lib dl pre)

/-- The memory of a value that is popped holds the value when it is proposed. -/
def Intact (lib : LibLearner L) (dl : Backup L) (e : Event) : Prop :=
  Valueless lib dl e → ∃ v vs, dl.values = v :: vs ∧ e.left v = v

/-- The memory of a value that is popped holds a value of the stack when it is proposed. -/
def Substitute (lib : LibLearner L) (dl : Backup L) (e : Event) : Prop :=
  Valueless lib dl e → ∃ v vs, dl.values = v :: vs ∧ e.left v ∈ v :: vs

/-- **The values buffered are those proposed and those on the stack.** By induction on the events:
one that buffers a value pushes it, and one that proposes pops the top, whose memory still holds it
(`Intact`). -/
lemma perm_buffered (h₀ : dl.values = []) {es : List Event}
    (h : ∀ pre e post, es = pre ++ e :: post → Intact lib (after (step lib) dl pre) e) :
    (buffered lib dl es).Perm (proposals lib dl es ++ (after (step lib) dl es).values) := by
  refine after_invariant (I := fun es (s : Backup L) =>
    (buffered lib dl es).Perm (proposals lib dl es ++ s.values)) ?_ ?_
  · show List.Perm [] dl.values
    rw [h₀]
  · intro pre e post hes hperm
    rw [buffered_concat, proposals_concat]
    by_cases hvalueless : Valueless lib (after (step lib) dl pre) e
    · -- the top of the stack is proposed
      obtain ⟨hpushed, hpop⟩ := step_of_valueless hvalueless
      obtain ⟨v, vs, hvalues, hleft⟩ := h pre e post hes hvalueless
      rcases hpop with ⟨hnil, -⟩ | ⟨v', vs', hcons, hrest, hproposed⟩
      · rw [hnil] at hvalues
        cases hvalues
      · obtain ⟨rfl, rfl⟩ := List.cons.inj (hcons.symm.trans hvalues)
        rw [hpushed, List.append_nil, hrest, hproposed, hleft, List.append_assoc,
          List.singleton_append, ← hcons]
        exact hperm
    · -- the stack grows by what is buffered
      rw [values_step hvalueless, proposed, if_neg hvalueless, List.append_nil]
      apply (hperm.append_right _).trans
      rw [List.append_assoc]
      exact List.perm_append_comm.append_left _

/-- One event more: what it proposes is on the stack. The values buffered are those proposed before
and those on the stack, so that one more is among them exactly if it is on the stack. -/
lemma subperm_concat_iff (h₀ : dl.values = []) {es : List Event}
    (h : ∀ pre e post, es = pre ++ e :: post → Intact lib (after (step lib) dl pre) e) (e : Event) :
    (proposals lib dl (es ++ [e])).Subperm (buffered lib dl (es ++ [e])) ↔
      Substitute lib (after (step lib) dl es) e := by
  have hperm := perm_buffered h₀ h
  rw [buffered_concat, proposals_concat]
  by_cases hvalueless : Valueless lib (after (step lib) dl es) e
  · obtain ⟨hpushed, hpop⟩ := step_of_valueless hvalueless
    rw [hpushed, List.append_nil, hperm.subperm_left, List.subperm_append_left]
    rcases hpop with ⟨hnil, -, hproposed⟩ | ⟨v, vs, hcons, -, hproposed⟩
    · rw [hproposed, List.singleton_subperm_iff, hnil]
      constructor
      · intro hmem
        cases hmem
      · intro hsub
        obtain ⟨v, vs, hvalues, -⟩ := hsub hvalueless
        rw [hnil] at hvalues
        cases hvalues
    · rw [hproposed, List.singleton_subperm_iff, hcons]
      constructor
      · intro hmem _
        exact ⟨v, vs, hcons, hmem⟩
      · intro hsub
        obtain ⟨v', vs', hvalues, hmem⟩ := hsub hvalueless
        obtain ⟨rfl, rfl⟩ := List.cons.inj (hcons.symm.trans hvalues)
        exact hmem
  · rw [proposed, if_neg hvalueless, List.append_nil]
    constructor
    · intro _ hv
      exact absurd hv hvalueless
    · intro _
      apply List.Subperm.trans (hperm.subperm_left.mpr (List.sublist_append_left _ _).subperm)
      exact (List.sublist_append_left _ _).subperm

/-- **The values proposed are buffered ones, intact and once**, in a run in which the memory of
every value popped still holds the value. One event more is as it should be exactly if it finds a
value of the stack there. -/
theorem proposedOnce_of_intact (l : L) (tx_mbufs : ℕ → Mbuf) (es : List Event)
    (h : ∀ pre e post, es = pre ++ e :: post →
      Intact lib (after (step lib) (init l tx_mbufs) pre) e) :
    ProposedOnce lib (init l tx_mbufs) es ∧
      ∀ e, ProposedOnce lib (init l tx_mbufs) (es ++ [e]) ↔
        Substitute lib (after (step lib) (init l tx_mbufs) es) e := by
  have honce : ProposedOnce lib (init l tx_mbufs) es := by
    rintro pre post rfl
    have hperm := perm_buffered rfl (forall_split_of_append h)
    exact hperm.subperm_left.mpr (List.sublist_append_left _ _).subperm
  refine ⟨honce, fun e => ?_⟩
  rw [← subperm_concat_iff rfl h e]
  constructor
  · intro hnext
    exact (forall_prefix_concat.mp hnext).2
  · intro hlast
    exact forall_prefix_concat.mpr ⟨honce, hlast⟩

/-- A promise without a value; `b` is what memory that is freed then is filled with. -/
def promise (aid : BitVec 16) (b : UInt8) : Event :=
  .rx ⟨add_paxos_message host
      { type := .PAXOS_PROMISE
        accept := { iid := 1, ballot := 1, value_ballot := 0, aid := aid, value := [] } }
      emptyMbuf 12345 LEARNER_PORT ACCEPTOR_ADDR, false⟩
    ⟨0, fun _ => emptyMbuf, fun _ => b⟩

/-- A client's value is buffered, and the promises of two acceptors come. -/
def recovery (b : UInt8) : List Event := [clientAccept, promise 0 b, promise 1 b]

/-- The memory of the value still holds it: the value is proposed. The third event is the promise
that takes the value off the stack, and the freed memory still holds `A`. -/
theorem proposedOnce_recovery :
    (∀ pre e post, recovery 0x41 = pre ++ e :: post →
      Intact Libpaxos.learner₀ (after (step Libpaxos.learner₀) backup pre) e) ∧
    proposals Libpaxos.learner₀ backup (recovery 0x41) = [[0x41]] ∧
    ProposedOnce Libpaxos.learner₀ backup (recovery 0x41) ∧
      ∀ e, ProposedOnce Libpaxos.learner₀ backup (recovery 0x41 ++ [e]) ↔
        Substitute Libpaxos.learner₀ (after (step Libpaxos.learner₀) backup (recovery 0x41)) e := by
  have hintact : ∀ pre e post, recovery 0x41 = pre ++ e :: post →
      Intact Libpaxos.learner₀ (after (step Libpaxos.learner₀) backup pre) e := by
    refine forall_split_cons.mpr ⟨fun h => absurd h (by decide +kernel), ?_⟩
    refine forall_split_cons.mpr ⟨fun h => absurd h (by decide +kernel), ?_⟩
    refine forall_split_cons.mpr ⟨fun _ => ?_, forall_split_nil⟩
    exact ⟨[0x41], [], by decide +kernel, by decide +kernel⟩
  exact ⟨hintact, by decide +kernel, proposedOnce_of_intact _ _ _ hintact⟩

/-- The memory of the value is overwritten before it is read: another value is proposed. -/
theorem not_proposedOnce : ¬ ProposedOnce Libpaxos.learner₀ backup (recovery 0) := by
  intro h
  have hsub := (h (recovery 0) [] (by simp)).subset
  have hbuffered : buffered Libpaxos.learner₀ backup (recovery 0) = [[0x41]] := by decide +kernel
  have hproposed : proposals Libpaxos.learner₀ backup (recovery 0) = [[0]] := by decide +kernel
  rw [hbuffered, hproposed] at hsub
  revert hsub
  decide

end P4xos.Dpdk.Backup
