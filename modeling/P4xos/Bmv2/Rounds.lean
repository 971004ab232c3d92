import P4xos.Bmv2.Ballots
import P4xos.Lib.Tally

/-!
# Rounds of an instance at the software learner

`handle_p2b` on votes of several rounds. Python looks the class `LearnerState` up among the globals
in the branch for a higher round, so that branch raises, and an instance keeps the round of its
first vote.

1. A vote of the learner is a vote of the tally (`PaxosMessage.vote`), so that voters and highest
   rounds are the library's.
2. `Keeps` says what is kept of an instance, whatever votes come: the voters of its first round,
   until they are a majority. A vote of another instance, one that is not counted and one that is
   counted keep it, and so does a run (`keeps_run2b`).
3. `LearnsHighest` is what the learner should do: keep the voters of the highest round so far, and
   decide when they are a majority. `NoRise` is the condition: no vote of a round above the first
   comes before a majority has voted in the first.
4. `learns_highest_iff`: the learner follows the highest round of an instance exactly when there is
   no rise. Without one the first round is the highest while the instance is open
   (`NoRise.highestRound_concat`); with one the call raises (`not_lt_of_returns`).
-/

namespace P4xos.Bmv2

open P4xos.Lib

variable {V : Type*}

/-- The vote a 2B message carries. -/
def PaxosMessage.vote (m : PaxosMessage V) : Vote ℕ ℕ where
  inst := m.inst
  round := m.crnd
  voter := m.nid

/-- It is for the same instance. -/
@[simp] lemma PaxosMessage.inst_vote (m : PaxosMessage V) : m.vote.inst = m.inst := rfl

namespace PaxosLearner

/-- The round of the first vote for an instance. -/
def firstRound (i : ℕ) (ms : List (PaxosMessage V)) : Option ℕ :=
  (ms.find? fun m => m.inst = i).map PaxosMessage.crnd

/-- Those who have voted in a round of an instance. -/
def votersOf (i r : ℕ) (ms : List (PaxosMessage V)) : Finset ℕ :=
  voters i r (ms.map PaxosMessage.vote)

/-- The highest round in which somebody has voted. -/
def highestRound (i : ℕ) (ms : List (PaxosMessage V)) : ℕ :=
  highest i (ms.map PaxosMessage.vote)

/-- The first vote stays the first. -/
lemma firstRound_concat_self (ms : List (PaxosMessage V)) (m : PaxosMessage V) :
    firstRound m.inst (ms ++ [m]) = some ((firstRound m.inst ms).getD m.crnd) := by
  unfold firstRound
  rw [List.find?_append]
  cases ms.find? fun m' => m'.inst = m.inst <;> simp

/-- A vote for another instance is none here. -/
lemma firstRound_concat_of_ne {i : ℕ} {m : PaxosMessage V} (h : m.inst ≠ i)
    (ms : List (PaxosMessage V)) : firstRound i (ms ++ [m]) = firstRound i ms := by
  unfold firstRound
  rw [List.find?_append]
  simp [h]

/-- Nobody has voted in an instance without a vote. -/
lemma votersOf_of_firstRound {i : ℕ} {ms : List (PaxosMessage V)} (h : firstRound i ms = none)
    (r : ℕ) : votersOf i r ms = ∅ := by
  refine Finset.eq_empty_of_forall_notMem fun a ha => ?_
  obtain ⟨v, hv, hi, -, -⟩ := mem_voters.mp ha
  obtain ⟨m, hm, rfl⟩ := List.mem_map.mp hv
  unfold firstRound at h
  rw [Option.map_eq_none_iff, List.find?_eq_none] at h
  exact h m hm (by simpa using hi)

/-- Its highest round is the one an empty tally starts with. No round is below 0. -/
lemma highestRound_of_firstRound {i : ℕ} {ms : List (PaxosMessage V)}
    (h : firstRound i ms = none) : highestRound i ms = 0 := by
  rcases highest_eq_zero_or i (ms.map PaxosMessage.vote) with h0 | ⟨v, hv, hi, -⟩
  · exact h0
  · have hmem : v.voter ∈ votersOf i v.round ms := mem_voters.mpr ⟨v, hv, hi, rfl, rfl⟩
    rw [votersOf_of_firstRound h] at hmem
    cases hmem

/-- Its sender is one more of its round. -/
lemma votersOf_concat_self (ms : List (PaxosMessage V)) (m : PaxosMessage V) :
    votersOf m.inst m.crnd (ms ++ [m]) = insert m.nid (votersOf m.inst m.crnd ms) := by
  unfold votersOf
  rw [List.map_append]
  exact voters_concat_self (ms.map PaxosMessage.vote) m.vote

/-- A vote of another instance or round does not count here. -/
lemma votersOf_concat_of_ne {i r : ℕ} {m : PaxosMessage V} (h : ¬ (m.inst = i ∧ m.crnd = r))
    (ms : List (PaxosMessage V)) : votersOf i r (ms ++ [m]) = votersOf i r ms := by
  unfold votersOf
  rw [List.map_append]
  exact voters_concat_ne (v := m.vote) h _

/-- Voters stay voters. -/
lemma votersOf_subset_concat (i r : ℕ) (ms : List (PaxosMessage V)) (m : PaxosMessage V) :
    votersOf i r ms ⊆ votersOf i r (ms ++ [m]) := by
  by_cases h : m.inst = i ∧ m.crnd = r
  · obtain ⟨rfl, rfl⟩ := h
    rw [votersOf_concat_self]
    exact Finset.subset_insert _ _
  · rw [votersOf_concat_of_ne h]

/-- A new vote may be of a higher round. -/
lemma highestRound_concat_self (ms : List (PaxosMessage V)) (m : PaxosMessage V) :
    highestRound m.inst (ms ++ [m]) = max (highestRound m.inst ms) m.crnd := by
  unfold highestRound
  rw [List.map_append]
  exact (highest_concat _ _ m.vote).trans (if_pos rfl)

/-- A vote for another instance is of no round here. -/
lemma highestRound_concat_of_ne {i : ℕ} {m : PaxosMessage V} (h : m.inst ≠ i)
    (ms : List (PaxosMessage V)) : highestRound i (ms ++ [m]) = highestRound i ms := by
  unfold highestRound
  rw [List.map_append]
  exact (highest_concat _ _ m.vote).trans (if_neg h)

/-! ## What is kept of an instance -/

/-- **The state of an instance after the votes `ms`**: none before the first vote; then the voters
of the first round, finished when they are a majority. -/
structure Keeps (L : PaxosLearner V) (ms : List (PaxosMessage V)) (i : ℕ) : Prop where
  unheard : firstRound i ms = none → L.states i = none
  heard : ∀ r, firstRound i ms = some r → ∃ st, L.states i = some st ∧ st.crnd = r ∧
    (st.finished = true ↔ L.majority ≤ (votersOf i r ms).card) ∧
    (st.finished = false → st.nids = votersOf i r ms)

/-- A new learner has no states. -/
lemma keeps_new (n i : ℕ) : Keeps (new n : PaxosLearner V) [] i :=
  ⟨fun _ => rfl, fun r h => by cases h⟩

/-- The state a vote is counted in: a new one of its round, or the one that is kept. An instance
that was not heard of starts in the round of the vote, with nobody counted. -/
lemma Keeps.votes {L : PaxosLearner V} {ms : List (PaxosMessage V)} {m : PaxosMessage V}
    (h : Keeps L ms m.inst) :
    (L.votes m).crnd = (firstRound m.inst ms).getD m.crnd ∧
      ((L.votes m).finished = true →
        L.majority ≤ (votersOf m.inst (L.votes m).crnd ms).card) ∧
      ((L.votes m).finished = false → (L.votes m).nids = votersOf m.inst (L.votes m).crnd ms) ∧
      (firstRound m.inst ms ≠ none → L.majority ≤ (votersOf m.inst (L.votes m).crnd ms).card →
        (L.votes m).finished = true) := by
  cases hr : firstRound m.inst ms with
  | none =>
      have hvotes : L.votes m = LearnerState.new m.crnd := by
        rw [PaxosLearner.votes, h.unheard hr]
        rfl
      rw [hvotes, votersOf_of_firstRound hr]
      simp [LearnerState.new]
  | some r =>
      obtain ⟨st, hst, hcrnd, hfin, hnids⟩ := h.heard r hr
      have hvotes : L.votes m = st := by
        rw [PaxosLearner.votes, hst]
        rfl
      rw [hvotes, hcrnd]
      exact ⟨rfl, hfin.mp, hnids, fun _ => hfin.mpr⟩

/-- A vote of another instance changes nothing. Neither the state of the instance nor the votes for
it change. -/
lemma Keeps.after2b_of_ne {L : PaxosLearner V} {ms : List (PaxosMessage V)} {m : PaxosMessage V}
    {i : ℕ} (h : Keeps L ms i) (hi : m.inst ≠ i) : Keeps (L.after2b m) (ms ++ [m]) i := by
  have hstates : (L.after2b m).states i = L.states i := by
    rw [after2b_eq]
    by_cases hc : L.CountsVote m
    · rw [if_pos hc]
      exact Function.update_of_ne (Ne.symm hi) _ _
    · rw [if_neg hc]
  have hvoters : ∀ r, votersOf i r (ms ++ [m]) = votersOf i r ms :=
    fun r => votersOf_concat_of_ne (fun hc => hi hc.1) ms
  refine ⟨?_, fun r hr => ?_⟩
  · rw [firstRound_concat_of_ne hi, hstates]
    exact h.unheard
  · rw [firstRound_concat_of_ne hi] at hr
    rw [hstates, hvoters, after2b_majority]
    exact h.heard r hr

/-- A vote that is not counted is of another round, or a repetition, or comes when the instance is
finished. In each case the voters of the first round are those of before, and the state is not
written. -/
lemma Keeps.after2b_of_not_counted {L : PaxosLearner V} {ms : List (PaxosMessage V)}
    {m : PaxosMessage V} (h : Keeps L ms m.inst) (hc : ¬ L.CountsVote m) :
    Keeps (L.after2b m) (ms ++ [m]) m.inst := by
  obtain ⟨hcrnd, hfin, hnids, -⟩ := h.votes
  rw [after2b_eq, if_neg hc]
  refine ⟨fun hr => ?_, fun r hr => ?_⟩
  · rw [firstRound_concat_self] at hr
    cases hr
  · rw [firstRound_concat_self, Option.some.injEq, ← hcrnd] at hr
    -- a first vote is counted
    obtain ⟨r', hr'⟩ : ∃ r', firstRound m.inst ms = some r' := by
      rw [← Option.ne_none_iff_exists']
      intro hnone
      apply hc
      rw [CountsVote, PaxosLearner.votes, h.unheard hnone]
      simp [LearnerState.new]
    obtain ⟨st, hst, rfl, hiff, hst'⟩ := h.heard r' hr'
    have hvotes : L.votes m = st := by
      rw [PaxosLearner.votes, hst]
      rfl
    rw [hvotes] at hr
    subst hr
    by_cases hround : m.crnd = st.crnd
    · have hvoters := votersOf_concat_self ms m
      rw [hround] at hvoters
      refine ⟨st, hst, rfl, ?_, fun hopen => ?_⟩
      · rw [hvoters]
        constructor
        · intro hf
          exact (hiff.mp hf).trans (Finset.card_le_card (Finset.subset_insert _ _))
        · intro hmaj
          by_contra hopen
          rw [Bool.not_eq_true] at hopen
          have hmem : m.nid ∈ st.nids := by
            by_contra hnew
            exact hc (by rw [CountsVote, hvotes]; exact ⟨hopen, hround.symm, hnew⟩)
          rw [hst' hopen] at hmem
          rw [Finset.insert_eq_of_mem hmem, ← hiff, hopen] at hmaj
          cases hmaj
      · have hmem : m.nid ∈ st.nids := by
          by_contra hnew
          exact hc (by rw [CountsVote, hvotes]; exact ⟨hopen, hround.symm, hnew⟩)
        rw [hst' hopen] at hmem ⊢
        rw [hvoters, Finset.insert_eq_of_mem hmem]
    · rw [votersOf_concat_of_ne fun hc => hround hc.2]
      exact ⟨st, hst, rfl, hiff, hst'⟩

/-- A vote that is counted joins the voters of the first round. It completes the majority, or the
state waits for more. -/
lemma Keeps.after2b_of_counted {L : PaxosLearner V} {ms : List (PaxosMessage V)}
    {m : PaxosMessage V} (h : Keeps L ms m.inst) (hc : L.CountsVote m) :
    Keeps (L.after2b m) (ms ++ [m]) m.inst := by
  obtain ⟨hcrnd, -, hnids, -⟩ := h.votes
  have hvoters : insert m.nid (L.votes m).nids = votersOf m.inst m.crnd (ms ++ [m]) := by
    rw [votersOf_concat_self, hnids hc.1, hc.2.1]
  rw [after2b_eq, if_pos hc]
  refine ⟨fun hr => ?_, fun r hr => ?_⟩
  · rw [firstRound_concat_self] at hr
    cases hr
  · rw [firstRound_concat_self, Option.some.injEq, ← hcrnd, hc.2.1] at hr
    subst hr
    refine ⟨L.voted m, Function.update_self _ _ _, hc.2.1, ?_, fun _ => hvoters⟩
    rw [← hvoters]
    exact decide_eq_true_iff

/-- **The run**, whatever votes come. -/
lemma keeps_run2b (n : ℕ) (ms : List (PaxosMessage V)) (i : ℕ) :
    Keeps ((new n : PaxosLearner V).run2b ms) ms i := by
  induction ms using List.reverseRecOn with
  | nil => exact keeps_new n i
  | append_singleton ms m ih =>
      rw [run2b_append, run2b_cons]
      by_cases hi : m.inst = i
      · subst hi
        by_cases hc : ((new n).run2b ms).CountsVote m
        · exact ih.after2b_of_counted hc
        · exact ih.after2b_of_not_counted hc
      · exact ih.after2b_of_ne hi

/-! ## Following the highest round -/

/-- The instance is not finished. -/
def Open (L : PaxosLearner V) (i : ℕ) : Prop := ∀ st, L.states i = some st → st.finished = false

/-- **Every vote for the open instance is handled**: the call returns, what is kept are the voters
of the highest round so far and nobody else, and the instance is decided by the call if they are a
majority. -/
def LearnsHighest (n i : ℕ) (ms : List (PaxosMessage V)) : Prop :=
  ∀ pre m post, ms = pre ++ m :: post → m.inst = i → ((new n).run2b pre).Open i →
    ∃ L' res, ((new n).run2b pre).handle_p2b m = .ok (L', res) ∧
      (∃ st, L'.states i = some st ∧ st.crnd = highestRound i (pre ++ [m]) ∧
        st.nids = votersOf i (highestRound i (pre ++ [m])) (pre ++ [m])) ∧
      (res.isSome = true ↔ (new n : PaxosLearner V).majority ≤
        (votersOf i (highestRound i (pre ++ [m])) (pre ++ [m])).card)

/-- No vote of a round above that of the instance's first vote comes before a majority has voted in
the first round. -/
def NoRise (n i : ℕ) (ms : List (PaxosMessage V)) : Prop :=
  ∀ pre m post, ms = pre ++ m :: post → m.inst = i → ∀ r, firstRound i pre = some r → r < m.crnd →
    (new n : PaxosLearner V).majority ≤ (votersOf i r pre).card

/-- A sequence without a rise has none in its beginning. -/
lemma NoRise.of_append {n i : ℕ} {ms ms' : List (PaxosMessage V)} (h : NoRise n i (ms ++ ms')) :
    NoRise n i ms := by
  rintro pre m post rfl
  exact h pre m (post ++ ms') (by simp)

/-- As long as the first round has no majority and there is no rise, it is the highest. By induction
on the votes: the first one sets both rounds, and a later one of a higher round would be a rise. -/
lemma NoRise.highestRound_eq {n i : ℕ} {ms : List (PaxosMessage V)} (h : NoRise n i ms) {r : ℕ}
    (hr : firstRound i ms = some r)
    (hmaj : ¬ (new n : PaxosLearner V).majority ≤ (votersOf i r ms).card) :
    highestRound i ms = r := by
  induction ms using List.reverseRecOn with
  | nil => cases hr
  | append_singleton ms m ih =>
      have hfew : ¬ (new n : PaxosLearner V).majority ≤ (votersOf i r ms).card := fun hle =>
        hmaj (hle.trans (Finset.card_le_card (votersOf_subset_concat i r ms m)))
      by_cases hi : m.inst = i
      · subst hi
        rw [firstRound_concat_self, Option.some.injEq] at hr
        rw [highestRound_concat_self]
        cases hr₀ : firstRound m.inst ms with
        | none =>
            rw [hr₀] at hr
            rw [highestRound_of_firstRound hr₀, Nat.zero_max]
            exact hr
        | some r₀ =>
            obtain rfl : r₀ = r := by simpa [hr₀] using hr
            have hle : m.crnd ≤ r₀ := Nat.le_of_not_lt fun hlt =>
              hfew (h ms m [] rfl rfl r₀ hr₀ hlt)
            rw [ih h.of_append hr₀ hfew, max_eq_left hle]
      · rw [firstRound_concat_of_ne hi] at hr
        rw [highestRound_concat_of_ne hi, ih h.of_append hr hfew]

section vote

variable {L : PaxosLearner V} {n : ℕ} {pre : List (PaxosMessage V)} {m : PaxosMessage V}

/-- The state a vote is counted in is not finished if the instance is open. -/
lemma Open.votes (h : L.Open m.inst) : (L.votes m).finished = false := by
  unfold PaxosLearner.votes
  cases hst : L.states m.inst with
  | none => rfl
  | some st => exact h st hst

/-- Without a rise no vote for an open instance is above its state. -/
lemma NoRise.crnd_le (h : NoRise n m.inst (pre ++ [m])) (hopen : ((new n).run2b pre).Open m.inst) :
    m.crnd ≤ (((new n).run2b pre).votes m).crnd := by
  obtain ⟨hcrnd, -, -, hfin⟩ := (keeps_run2b n pre m.inst).votes
  rw [hcrnd] at hfin ⊢
  cases hr : firstRound m.inst pre with
  | none => exact le_rfl
  | some r =>
      refine Nat.le_of_not_lt fun hlt => ?_
      rw [hr, run2b_majority] at hfin
      have hclosed := hfin (by simp) (h pre m [] rfl rfl r hr hlt)
      rw [hopen.votes] at hclosed
      cases hclosed

/-- Then the round of the state is the highest. The state's round is that of the first vote, and
while the instance is open no vote of a higher round has come. -/
lemma NoRise.highestRound_concat (h : NoRise n m.inst (pre ++ [m]))
    (hopen : ((new n).run2b pre).Open m.inst) :
    highestRound m.inst (pre ++ [m]) = (((new n).run2b pre).votes m).crnd := by
  have hle := h.crnd_le hopen
  obtain ⟨hcrnd, -, -, hfin⟩ := (keeps_run2b n pre m.inst).votes
  rw [hcrnd] at hle hfin ⊢
  rw [highestRound_concat_self]
  cases hr : firstRound m.inst pre with
  | none =>
      rw [highestRound_of_firstRound hr, Nat.zero_max]
      rfl
  | some r =>
      rw [hr, run2b_majority] at hfin
      rw [hr] at hle
      have hfew : ¬ (new n : PaxosLearner V).majority ≤ (votersOf m.inst r pre).card := by
        intro hmaj
        have hclosed := hfin (by simp) hmaj
        rw [hopen.votes] at hclosed
        cases hclosed
      rw [h.of_append.highestRound_eq hr hfew]
      exact max_eq_left hle

/-- **One vote** for an open instance, without a rise so far. The state is in the first round, which
is the highest; a vote that is not counted is of a lower round or a repetition, and one that is
counted joins the voters. -/
lemma NoRise.handle_p2b (h : NoRise n m.inst (pre ++ [m]))
    (hopen : ((new n).run2b pre).Open m.inst) :
    ∃ L' res, ((new n).run2b pre).handle_p2b m = .ok (L', res) ∧
      (∃ st, L'.states m.inst = some st ∧ st.crnd = highestRound m.inst (pre ++ [m]) ∧
        st.nids = votersOf m.inst (highestRound m.inst (pre ++ [m])) (pre ++ [m])) ∧
      (res.isSome = true ↔ (new n : PaxosLearner V).majority ≤
        (votersOf m.inst (highestRound m.inst (pre ++ [m])) (pre ++ [m])).card) := by
  rw [h.highestRound_concat hopen]
  have hkeeps := keeps_run2b n (pre ++ [m]) m.inst
  have hmaj : ((new n : PaxosLearner V).run2b pre).majority = (new n : PaxosLearner V).majority :=
    run2b_majority _ _
  obtain ⟨hcrnd, -, hnids, -⟩ := (keeps_run2b n pre m.inst).votes
  have hround : firstRound m.inst (pre ++ [m]) = some (((new n).run2b pre).votes m).crnd := by
    rw [hcrnd, firstRound_concat_self]
  obtain ⟨st, hst, hstr, hiff, hvoters⟩ := hkeeps.heard _ hround
  rw [run2b_majority] at hiff
  rw [run2b_append, run2b_cons] at hst
  -- a counted vote is in the state's round
  have hcounted : ((new n).run2b pre).CountsVote m →
      (((new n).run2b pre).voted m).nids = votersOf m.inst (((new n).run2b pre).votes m).crnd
        (pre ++ [m]) := by
    intro hc
    rw [hc.2.1, votersOf_concat_self, ← hc.2.1, ← hnids hc.1]
    rfl
  rcases handle_p2b_cases ((new n).run2b pre) m with
    ⟨-, hfin, hlt⟩ | ⟨hc, he⟩ | ⟨hc, hfin, he⟩ | ⟨hc, hfin, he⟩
  · exact absurd hlt (Nat.not_lt.mpr (h.crnd_le hopen))
  · -- the vote is of a lower round, or a repetition
    rw [after2b_of_ok he] at hst
    have hstopen : st.finished = false := hopen st hst
    refine ⟨_, none, he, ⟨st, hst, hstr, hvoters hstopen⟩, ?_⟩
    rw [← hiff, hstopen]
    simp
  · refine ⟨_, none, he, ⟨_, Function.update_self _ _ _, rfl, hcounted hc⟩, ?_⟩
    have hfew : ¬ ((new n).run2b pre).majority ≤ (((new n).run2b pre).voted m).nids.card :=
      of_decide_eq_false hfin
    rw [hmaj] at hfew
    rw [← hcounted hc]
    simpa using hfew
  · refine ⟨_, _, he, ⟨_, Function.update_self _ _ _, rfl, hcounted hc⟩, ?_⟩
    have hle : ((new n).run2b pre).majority ≤ (((new n).run2b pre).voted m).nids.card :=
      of_decide_eq_true hfin
    rw [hmaj] at hle
    rw [← hcounted hc]
    simpa using hle

/-- A vote for an open instance whose call returns is not above the first round. -/
lemma not_lt_of_returns {L' : PaxosLearner V} {res : Option (ℕ × V)}
    (hopen : ((new n).run2b pre).Open m.inst)
    (hcall : ((new n).run2b pre).handle_p2b m = .ok (L', res)) {r : ℕ}
    (hr : firstRound m.inst pre = some r) : ¬ r < m.crnd := by
  intro hlt
  obtain ⟨hcrnd, -⟩ := (keeps_run2b n pre m.inst).votes
  have hraises : ((new n).run2b pre).Raises m := by
    refine ⟨hopen.votes, ?_⟩
    rw [hcrnd, hr]
    exact hlt
  have hresult := handle_p2b_result ((new n).run2b pre) m
  rw [if_pos hraises, hcall] at hresult
  cases hresult

end vote

/-- **The learner follows the highest round of an instance exactly when there is no rise**: no vote
of a round above the first comes before a majority has voted in the first. -/
theorem learns_highest_iff (n i : ℕ) (ms : List (PaxosMessage V)) :
    LearnsHighest n i ms ↔ NoRise n i ms := by
  constructor
  · rintro h pre m post rfl rfl r hr hlt
    by_contra hfew
    have hopen : ((new n).run2b pre).Open m.inst := by
      intro st hst
      obtain ⟨st', hst', -, hiff, -⟩ := (keeps_run2b n pre m.inst).heard r hr
      rw [hst, Option.some.injEq] at hst'
      rw [← hst', run2b_majority] at hiff
      rw [← Bool.not_eq_true, hiff]
      exact hfew
    obtain ⟨L', res, hcall, -⟩ := h pre m post rfl rfl hopen
    exact not_lt_of_returns hopen hcall hr hlt
  · rintro h pre m post rfl rfl hopen
    rw [List.append_cons] at h
    exact h.of_append.handle_p2b hopen

/-- A vote in round 0, and then a recovery's vote in round 1: the call raises. -/
theorem learns_highest_fails :
    ¬ ∀ (n i : ℕ) (ms : List (PaxosMessage Unit)), LearnsHighest n i ms := by
  intro h
  obtain ⟨L', res, hcall, -⟩ := h 3 7 [⟨1, 7, 0, 0, ()⟩, ⟨2, 7, 1, 1, ()⟩] [⟨1, 7, 0, 0, ()⟩]
    ⟨2, 7, 1, 1, ()⟩ [] rfl rfl (by
      intro st hst
      cases hst
      rfl)
  cases hcall

end PaxosLearner

end P4xos.Bmv2
