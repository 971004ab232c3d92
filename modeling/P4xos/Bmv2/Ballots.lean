import P4xos.Bmv2.Quorums

/-!
# One ballot per instance

The normal case of the software learner: all votes for an instance are for one round and one value.
Then nothing depends on the order of the votes or on repetitions, and the state is read off the set
of senders.

1. `senders` are the acceptors that have voted in an instance, and `Quorate` says that they make a
quorum. 2. `Counts L ms` says what the learner holds after the votes `ms`, instance by instance:
nothing without a vote, all senders while there is no quorum, and an entry in the log with one
(`Holds`). 3. `Counts.handle_p2b` is the step: a call never raises, and returns the decision exactly
when its vote completes the quorum. A vote that is not counted comes too late or is a repetition
(`Counts.not_counted`); one that is counted completes the quorum or waits (`Counts.counted`). 4.
`counts_run2b` is the run. `logs_run2b`: an instance is logged with its value exactly when a quorum
has voted, so the log is the same for all sequences with the same votes (`logs_eq_of_same_votes`).

Votes in several rounds are in `Rounds`.
-/

namespace P4xos.Bmv2.PaxosLearner

variable {V : Type*}

/-- All votes of an instance are for one round and one value. -/
def OneBallot (ms : List (PaxosMessage V)) : Prop :=
  ∀ m ∈ ms, ∀ m' ∈ ms, m.inst = m'.inst → m.crnd = m'.crnd ∧ m.val = m'.val

/-- Fewer votes have one ballot, too. -/
lemma OneBallot.of_append_left {ms ms' : List (PaxosMessage V)} (h : OneBallot (ms ++ ms')) :
    OneBallot ms := fun m hm m' hm' =>
  h m (List.mem_append_left _ hm) m' (List.mem_append_left _ hm')

/-- So have the later ones. -/
lemma OneBallot.of_append_right {ms ms' : List (PaxosMessage V)} (h : OneBallot (ms ++ ms')) :
    OneBallot ms' := fun m hm m' hm' =>
  h m (List.mem_append_right _ hm) m' (List.mem_append_right _ hm')

/-- The acceptors that have voted in instance `i`. -/
def senders (i : ℕ) (ms : List (PaxosMessage V)) : Finset ℕ :=
  ((ms.filter fun m => m.inst = i).map PaxosMessage.nid).toFinset

/-- A sender has sent a vote of the instance. -/
lemma mem_senders {i a : ℕ} {ms : List (PaxosMessage V)} :
    a ∈ senders i ms ↔ ∃ m ∈ ms, m.inst = i ∧ m.nid = a := by
  simp [senders, and_assoc]

/-- An instance with a sender has a vote. -/
lemma exists_vote {i : ℕ} {ms : List (PaxosMessage V)} (h : senders i ms ≠ ∅) :
    ∃ m ∈ ms, m.inst = i := by
  obtain ⟨a, ha⟩ := Finset.nonempty_of_ne_empty h
  obtain ⟨m, hm, hi, -⟩ := mem_senders.mp ha
  exact ⟨m, hm, hi⟩

/-- The sender of the new vote is one more. -/
lemma senders_concat_self (ms : List (PaxosMessage V)) (m : PaxosMessage V) :
    senders m.inst (ms ++ [m]) = insert m.nid (senders m.inst ms) := by
  ext a
  simp only [mem_senders, List.mem_append, List.mem_singleton, Finset.mem_insert]
  constructor
  · rintro ⟨m', hm' | rfl, hi, rfl⟩
    · exact .inr ⟨m', hm', hi, rfl⟩
    · exact .inl rfl
  · rintro (rfl | ⟨m', hm', h⟩)
    · exact ⟨m, .inr rfl, rfl, rfl⟩
    · exact ⟨m', .inl hm', h⟩

/-- A vote for another instance is no vote here. -/
lemma senders_concat_of_ne {i : ℕ} {m : PaxosMessage V} (h : m.inst ≠ i)
    (ms : List (PaxosMessage V)) : senders i (ms ++ [m]) = senders i ms := by
  simp [senders, h]

/-- The votes of an instance make a quorum of `maj`. -/
def Quorate (maj i : ℕ) (ms : List (PaxosMessage V)) : Prop :=
  (senders i ms).Nonempty ∧ maj ≤ (senders i ms).card

/-- A set is counted. -/
instance (maj i : ℕ) (ms : List (PaxosMessage V)) : Decidable (Quorate maj i ms) :=
  inferInstanceAs (Decidable (_ ∧ _))

/-- Nor does it make a quorum here. -/
lemma quorate_concat_of_ne {maj i : ℕ} {m : PaxosMessage V} (h : m.inst ≠ i)
    (ms : List (PaxosMessage V)) : Quorate maj i (ms ++ [m]) ↔ Quorate maj i ms := by
  unfold Quorate
  rw [senders_concat_of_ne h]

/-- More votes keep a quorum. -/
lemma Quorate.concat {maj i : ℕ} {ms : List (PaxosMessage V)} (h : Quorate maj i ms)
    (m : PaxosMessage V) : Quorate maj i (ms ++ [m]) := by
  by_cases hi : m.inst = i
  · subst hi
    unfold Quorate
    rw [senders_concat_self]
    exact ⟨Finset.insert_nonempty _ _,
      h.2.trans (Finset.card_le_card (Finset.subset_insert _ _))⟩
  · exact (quorate_concat_of_ne hi ms).mpr h

/-- Any number of votes more. -/
lemma Quorate.append {maj i : ℕ} {ms : List (PaxosMessage V)} (h : Quorate maj i ms)
    (ms' : List (PaxosMessage V)) : Quorate maj i (ms ++ ms') := by
  induction ms' generalizing ms with
  | nil => simpa using h
  | cons m ms' ih =>
      rw [List.append_cons]
      exact ih (h.concat m)

/-- What the learner holds of the instance of a vote `m` that is among the votes `ms`. -/
structure Holds (L : PaxosLearner V) (ms : List (PaxosMessage V)) (m : PaxosMessage V)
    (st : LearnerState V) : Prop where
  crnd : st.crnd = m.crnd
  val : st.val = some m.val
  /-- With a quorum the instance is closed and logged. -/
  closed : Quorate L.majority m.inst ms → st.finished = true ∧ L.logs m.inst = some m.val
  /-- Without one all senders are counted. -/
  waiting : ¬ Quorate L.majority m.inst ms →
    st.finished = false ∧ st.nids = senders m.inst ms ∧ L.logs m.inst = none

/-- It is the same for two votes of the instance. -/
lemma Holds.congr {L : PaxosLearner V} {ms : List (PaxosMessage V)} {m m' : PaxosMessage V}
    {st : LearnerState V} (h : Holds L ms m st) (hi : m.inst = m'.inst)
    (hballot : m.crnd = m'.crnd ∧ m.val = m'.val) : Holds L ms m' st where
  crnd := h.crnd.trans hballot.1
  val := by rw [h.val, hballot.2]
  closed := by
    rw [← hi, ← hballot.2]
    exact h.closed
  waiting := by
    rw [← hi]
    exact h.waiting

/-- The learner holds the votes `ms`, instance by instance. -/
structure Counts (L : PaxosLearner V) (ms : List (PaxosMessage V)) : Prop where
  /-- An instance without votes has no state and no entry in the log. -/
  absent : ∀ i, senders i ms = ∅ → L.states i = none ∧ L.logs i = none
  /-- An instance with votes has a state made of them. -/
  present : ∀ m ∈ ms, ∃ st, L.states m.inst = some st ∧ Holds L ms m st

/-- A new learner holds nothing. -/
lemma counts_new (n : ℕ) : Counts (new n : PaxosLearner V) [] :=
  ⟨fun _ _ => ⟨rfl, rfl⟩, fun _ h => by cases h⟩

/-- The state a vote is counted in: its round is the vote's, its value, if any, the vote's value,
and it is open with all senders counted unless there is a quorum. -/
lemma Counts.votes {L : PaxosLearner V} {ms : List (PaxosMessage V)} (h : Counts L ms)
    {m : PaxosMessage V} (hone : OneBallot (ms ++ [m])) :
    (L.votes m).crnd = m.crnd ∧ (L.votes m).val.getD m.val = m.val ∧
      (Quorate L.majority m.inst ms → (L.votes m).finished = true) ∧
      (¬ Quorate L.majority m.inst ms →
        (L.votes m).finished = false ∧ (L.votes m).nids = senders m.inst ms ∧
          L.logs m.inst = none) := by
  by_cases hempty : senders m.inst ms = ∅
  · have hquorum : ¬ Quorate L.majority m.inst ms := fun hq => by simp [Quorate, hempty] at hq
    have hvotes : L.votes m = LearnerState.new m.crnd := by
      rw [PaxosLearner.votes, (h.absent _ hempty).1]
      rfl
    rw [hvotes, hempty]
    exact ⟨rfl, rfl, fun hq => absurd hq hquorum, fun _ => ⟨rfl, rfl, (h.absent _ hempty).2⟩⟩
  · obtain ⟨m', hm', hi⟩ := exists_vote hempty
    obtain ⟨st, hst, hholds⟩ := h.present m' hm'
    have hvotes : L.votes m = st := by
      rw [PaxosLearner.votes, ← hi, hst]
      rfl
    have hm : Holds L ms m st :=
      hholds.congr hi (hone m' (List.mem_append_left _ hm') m (by simp) hi)
    rw [hvotes, hm.val]
    exact ⟨hm.crnd, rfl, fun hq => (hm.closed hq).1, hm.waiting⟩

/-- It is enough to look at the instance of the new vote. The other instances have the same senders
and the same state as before, and the state of this one is what the caller shows. -/
lemma Counts.concat {L L' : PaxosLearner V} {ms : List (PaxosMessage V)} (h : Counts L ms)
    {m : PaxosMessage V} (hone : OneBallot (ms ++ [m])) (hmaj : L'.majority = L.majority)
    (hother : ∀ i, i ≠ m.inst → L'.states i = L.states i ∧ L'.logs i = L.logs i)
    (hself : ∃ st, L'.states m.inst = some st ∧ Holds L' (ms ++ [m]) m st) :
    Counts L' (ms ++ [m]) := by
  refine ⟨fun i hi => ?_, fun m' hm' => ?_⟩
  · have hne : i ≠ m.inst := by
      rintro rfl
      rw [senders_concat_self] at hi
      exact Finset.insert_ne_empty _ _ hi
    rw [senders_concat_of_ne hne.symm] at hi
    rw [(hother i hne).1, (hother i hne).2]
    exact h.absent i hi
  · by_cases hi : m'.inst = m.inst
    · obtain ⟨st, hst, hholds⟩ := hself
      exact ⟨st, by rw [hi, hst], hholds.congr hi.symm (hone m (by simp) m' hm' hi.symm)⟩
    · have hm : m' ∈ ms := by
        rcases List.mem_append.mp hm' with hm | hm
        · exact hm
        · exact absurd (congrArg PaxosMessage.inst (List.mem_singleton.mp hm)) hi
      obtain ⟨st, hst, hholds⟩ := h.present m' hm
      have hquorate : Quorate L'.majority m'.inst (ms ++ [m]) ↔ Quorate L.majority m'.inst ms := by
        rw [hmaj, quorate_concat_of_ne (Ne.symm hi)]
      refine ⟨st, by rw [(hother _ hi).1, hst], hholds.crnd, hholds.val, fun hq => ?_, fun hq => ?_⟩
      · rw [(hother _ hi).2]
        exact hholds.closed (hquorate.mp hq)
      · rw [(hother _ hi).2, senders_concat_of_ne (Ne.symm hi)]
        exact hholds.waiting (mt hquorate.mpr hq)

/-- A vote that is not counted adds nothing: the instance has its quorum, or the sender is not new.
In both cases the senders of an instance without quorum are those from before, so that neither a
quorum nor a state is new. -/
lemma Counts.not_counted {L : PaxosLearner V} {ms : List (PaxosMessage V)} (h : Counts L ms)
    {m : PaxosMessage V} (hone : OneBallot (ms ++ [m])) (hc : ¬ L.CountsVote m) :
    (Quorate L.majority m.inst (ms ++ [m]) → Quorate L.majority m.inst ms) ∧
      Counts L (ms ++ [m]) := by
  obtain ⟨hcrnd, -, -, hwaiting⟩ := h.votes hone
  have hsame : ¬ Quorate L.majority m.inst ms → senders m.inst (ms ++ [m]) = senders m.inst ms := by
    intro hq
    have hnid : m.nid ∈ senders m.inst ms := by
      by_contra hnid
      rw [← (hwaiting hq).2.1] at hnid
      exact hc ⟨(hwaiting hq).1, hcrnd, hnid⟩
    rw [senders_concat_self, Finset.insert_eq_of_mem hnid]
  have hback : Quorate L.majority m.inst (ms ++ [m]) → Quorate L.majority m.inst ms := by
    intro hq
    by_contra hnot
    unfold Quorate at hq
    rw [hsame hnot] at hq
    exact hnot hq
  refine ⟨hback, h.concat hone rfl (fun _ _ => ⟨rfl, rfl⟩) ?_⟩
  have hvoted : senders m.inst ms ≠ ∅ := by
    by_cases hq : Quorate L.majority m.inst ms
    · exact hq.1.ne_empty
    · rw [← hsame hq, senders_concat_self]
      exact Finset.insert_ne_empty _ _
  obtain ⟨m', hm', hi⟩ := exists_vote hvoted
  obtain ⟨st, hst, hholds⟩ := h.present m' hm'
  have hm : Holds L ms m st :=
    hholds.congr hi (hone m' (List.mem_append_left _ hm') m (by simp) hi)
  refine ⟨st, by rw [← hi, hst], hm.crnd, hm.val, fun hq => hm.closed (hback hq), fun hq => ?_⟩
  have hq' : ¬ Quorate L.majority m.inst ms := fun hq' => hq (hq'.concat m)
  rw [hsame hq']
  exact hm.waiting hq'

/-- A counted vote makes the quorum of its instance, or is one of the votes still waiting for it.
The instance had no quorum, or its state would be finished. The sender is new, so the identifiers
counted are the senders again; they are enough exactly if there is a quorum now, and then the vote's
value is logged. -/
lemma Counts.counted {L : PaxosLearner V} {ms : List (PaxosMessage V)} (h : Counts L ms)
    {m : PaxosMessage V} (hone : OneBallot (ms ++ [m])) (hc : L.CountsVote m) :
    ¬ Quorate L.majority m.inst ms ∧
    ((L.voted m).finished = true ↔ Quorate L.majority m.inst (ms ++ [m])) ∧
    Counts (L.after2b m) (ms ++ [m]) := by
  obtain ⟨hcrnd, hval, hclosed, hwaiting⟩ := h.votes hone
  have hq : ¬ Quorate L.majority m.inst ms := fun hq => by
    have hfin := hclosed hq
    rw [hc.1] at hfin
    cases hfin
  obtain ⟨-, hnids, hlog⟩ := hwaiting hq
  have hiff : (L.voted m).finished = true ↔ Quorate L.majority m.inst (ms ++ [m]) := by
    unfold Quorate
    rw [senders_concat_self, ← hnids]
    simp [voted]
  refine ⟨hq, hiff, ?_⟩
  rw [after2b_eq, if_pos hc]
  refine h.concat hone rfl (fun i hi => ⟨Function.update_of_ne hi _ _, ?_⟩)
    ⟨L.voted m, Function.update_self _ _ _, hcrnd, by rw [voted, hval], fun hq' => ?_,
      fun hq' => ?_⟩
  · simp only []
    split_ifs
    · exact Function.update_of_ne hi _ _
    · rfl
  · simp only [if_pos (hiff.mpr hq'), Function.update_self, hval]
    exact ⟨hiff.mpr hq', trivial⟩
  · simp only [if_neg (mt hiff.mp hq')]
    refine ⟨Bool.eq_false_iff.mpr (mt hiff.mp hq'), ?_, hlog⟩
    rw [senders_concat_self, ← hnids]
    rfl

/-- **The step**: the call does not raise, and returns the decision exactly when the vote completes
the quorum. -/
theorem Counts.handle_p2b {L : PaxosLearner V} {ms : List (PaxosMessage V)} (h : Counts L ms)
    {m : PaxosMessage V} (hone : OneBallot (ms ++ [m])) :
    L.handle_p2b m = .ok (L.after2b m,
      if ¬ Quorate L.majority m.inst ms ∧ Quorate L.majority m.inst (ms ++ [m]) then
        some (m.inst, m.val)
      else none) ∧
    Counts (L.after2b m) (ms ++ [m]) := by
  obtain ⟨hcrnd, hval, -⟩ := h.votes hone
  rcases handle_p2b_cases L m with ⟨-, -, hlt⟩ | ⟨hc, he⟩ | ⟨hc, hfin, he⟩ | ⟨hc, hfin, he⟩
  · exact absurd hcrnd hlt.ne
  · obtain ⟨hback, hcounts⟩ := h.not_counted hone hc
    rw [after2b_of_ok he, he, if_neg fun hq => hq.1 (hback hq.2)]
    exact ⟨rfl, hcounts⟩
  · obtain ⟨hq, hiff, hcounts⟩ := h.counted hone hc
    have hq' : ¬ Quorate L.majority m.inst (ms ++ [m]) := fun hq' => by
      rw [hiff.mpr hq'] at hfin
      cases hfin
    rw [if_neg fun hq => hq' hq.2]
    exact ⟨by rw [he, after2b_of_ok he], hcounts⟩
  · obtain ⟨hq, hiff, hcounts⟩ := h.counted hone hc
    rw [if_pos ⟨hq, hiff.mp hfin⟩]
    exact ⟨by rw [after2b_of_ok he, he, hval], hcounts⟩

/-- The majority is fixed by the number of acceptors. -/
@[simp] lemma after2b_majority (L : PaxosLearner V) (m : PaxosMessage V) :
    (L.after2b m).majority = L.majority := by
  rw [after2b_eq]
  split_ifs <;> rfl

/-- So it is after any votes. -/
lemma run2b_new_majority (n : ℕ) (ms : List (PaxosMessage V)) :
    ((new n : PaxosLearner V).run2b ms).majority = (n + 1) / 2 := by
  induction ms using List.reverseRecOn with
  | nil => rfl
  | append_singleton ms m ih =>
      rw [run2b_append, run2b_cons]
      exact (after2b_majority _ _).trans ih

/-- **The run**: a fresh learner holds the votes it was fed. -/
theorem counts_run2b (n : ℕ) {ms : List (PaxosMessage V)} (h : OneBallot ms) :
    Counts ((new n : PaxosLearner V).run2b ms) ms := by
  induction ms using List.reverseRecOn with
  | nil => exact counts_new n
  | append_singleton ms m ih =>
      rw [run2b_append, run2b_cons]
      exact ((ih h.of_append_left).handle_p2b h).2

/-- An instance is logged, with the value voted for, exactly when its votes make a quorum. The state
after the votes is known (`counts_run2b`): absent, waiting or closed. -/
theorem logs_run2b (n : ℕ) {ms : List (PaxosMessage V)} (h : OneBallot ms) (i : ℕ) (v : V) :
    ((new n : PaxosLearner V).run2b ms).logs i = some v ↔
      Quorate ((n + 1) / 2) i ms ∧ ∃ m ∈ ms, m.inst = i ∧ m.val = v := by
  have hcounts := counts_run2b n h
  by_cases hempty : senders i ms = ∅
  · rw [(hcounts.absent i hempty).2]
    simp [Quorate, hempty]
  · obtain ⟨m, hm, rfl⟩ := exists_vote hempty
    obtain ⟨st, -, hholds⟩ := hcounts.present m hm
    have hclosed := hholds.closed
    have hwaiting := hholds.waiting
    rw [run2b_new_majority] at hclosed hwaiting
    by_cases hq : Quorate ((n + 1) / 2) m.inst ms
    · rw [(hclosed hq).2, Option.some.injEq]
      constructor
      · rintro rfl
        exact ⟨hq, m, hm, rfl, rfl⟩
      · rintro ⟨-, m', hm', hi, rfl⟩
        exact (h m' hm' m hm hi).2.symm
    · rw [(hwaiting hq).2.2]
      simp [hq]

/-- The log depends only on who has voted in which instance, not on the order of the votes or on
repetitions. -/
theorem logs_eq_of_same_votes (n : ℕ) {ms ms' : List (PaxosMessage V)} (h : OneBallot (ms ++ ms'))
    (hsame : ∀ i, senders i ms = senders i ms') :
    ((new n : PaxosLearner V).run2b ms).logs = ((new n : PaxosLearner V).run2b ms').logs := by
  funext i
  ext v
  have hquorate : Quorate ((n + 1) / 2) i ms ↔ Quorate ((n + 1) / 2) i ms' := by
    unfold Quorate
    rw [hsame i]
  -- with the same senders both have a vote of the instance, and these carry one value
  have hvalue : Quorate ((n + 1) / 2) i ms' →
      ((∃ m ∈ ms, m.inst = i ∧ m.val = v) ↔ ∃ m ∈ ms', m.inst = i ∧ m.val = v) := by
    intro hq
    obtain ⟨m', hm', hi'⟩ := exists_vote hq.1.ne_empty
    obtain ⟨m, hm, hi⟩ := exists_vote (hquorate.mpr hq).1.ne_empty
    constructor
    · rintro ⟨k, hk, hki, rfl⟩
      exact ⟨m', hm', hi', (h m' (by simp [hm']) k (by simp [hk]) (hi'.trans hki.symm)).2⟩
    · rintro ⟨k, hk, hki, rfl⟩
      exact ⟨m, hm, hi, (h m (by simp [hm]) k (by simp [hk]) (hi.trans hki.symm)).2⟩
  rw [logs_run2b n h.of_append_left, logs_run2b n h.of_append_right, hquorate]
  exact and_congr_right hvalue

end P4xos.Bmv2.PaxosLearner
