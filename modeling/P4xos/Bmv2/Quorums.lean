import P4xos.Bmv2.PaxosLearner

/-!
# Decisions and recoveries of the software learner, over whole message sequences

`PaxosLearner` fed an arbitrary sequence of messages: `run2b` for the 2B messages (a call that
raises leaves the state as it was), `run1b` for the 1B messages.

* `decision_sound_and_final`: a returned decision has a majority of senders in one round behind it,
  is logged for good, and is never returned again.
* `quorums_intersect_iff`: two decision quorums, or a promise quorum and a decision quorum, of the
  same instance always share an acceptor exactly for an odd number of acceptors. For an even number
  the integer division makes the "majority" one half.
* `recovery_choice_iff`: a recovery proposes the value of a promise with the highest reported round,
  and reports that round, exactly when every counted promise reports round 0.
-/

namespace P4xos.Bmv2.PaxosLearner

open P4xos.Lib

variable {V : Type*}

/-! ## Sequences of votes -/

/-- The learner after one 2B message. -/
def after2b (L : PaxosLearner V) (m : PaxosMessage V) : PaxosLearner V :=
  match L.handle_p2b m with
  | .ok (L', _) => L'
  | .error _ => L

/-- The learner after a sequence of 2B messages. -/
def run2b (L : PaxosLearner V) (ms : List (PaxosMessage V)) : PaxosLearner V := ms.foldl after2b L

/-- A call that returns gives the next state. -/
lemma after2b_of_ok {L L' : PaxosLearner V} {m : PaxosMessage V} {res : Option (ℕ × V)}
    (h : L.handle_p2b m = .ok (L', res)) : L.after2b m = L' := by
  simp [after2b, h]

/-- A call either returns the next state or raises and leaves the state. -/
lemma after2b_cases (L : PaxosLearner V) (m : PaxosMessage V) :
    (∃ res, L.handle_p2b m = .ok (L.after2b m, res)) ∨ L.after2b m = L := by
  cases h : L.handle_p2b m with
  | ok r => exact .inl ⟨r.2, by simp [after2b, h]⟩
  | error e => exact .inr (by simp [after2b, h])

/-- The learner after a vote. The four outcomes of `handle_p2b` come down to two: the vote is
counted, with the log written if it is the last one needed, or nothing changes. -/
lemma after2b_eq (L : PaxosLearner V) (m : PaxosMessage V) :
    L.after2b m =
      if L.CountsVote m then
        { L with
          logs := if (L.voted m).finished = true then
              Function.update L.logs m.inst (some ((L.votes m).val.getD m.val))
            else L.logs
          states := Function.update L.states m.inst (some (L.voted m)) }
      else L := by
  rcases handle_p2b_cases L m with ⟨he, hr⟩ | ⟨hc, he⟩ | ⟨hc, hfin, he⟩ | ⟨hc, hfin, he⟩
  · have hc : ¬ L.CountsVote m := fun hc => hc.not_raises hr
    rw [if_neg hc, after2b, he]
  · rw [if_neg hc, after2b_of_ok he]
  · rw [if_pos hc, after2b_of_ok he, if_neg (by simp [hfin])]
  · rw [if_pos hc, after2b_of_ok he, if_pos hfin]

/-- Votes that come later are counted later. -/
lemma run2b_append (L : PaxosLearner V) (ms ms' : List (PaxosMessage V)) :
    L.run2b (ms ++ ms') = (L.run2b ms).run2b ms' := List.foldl_append

/-- The first vote is counted first. -/
lemma run2b_cons (L : PaxosLearner V) (m : PaxosMessage V) (ms : List (PaxosMessage V)) :
    L.run2b (m :: ms) = (L.after2b m).run2b ms := rfl

/-- The invariant along a run, for any set that contains the messages of the run. -/
lemma Inv.run2b {R : PaxosMessage V → Prop} {L : PaxosLearner V} (h : Inv R L)
    {ms : List (PaxosMessage V)} (hms : ∀ m ∈ ms, R m) : Inv R (L.run2b ms) := by
  induction ms generalizing L with
  | nil => exact h
  | cons m ms ih =>
      rw [run2b_cons]
      apply ih _ fun m' hm' => hms m' (List.mem_cons_of_mem _ hm')
      rcases after2b_cases L m with ⟨res, hres⟩ | heq
      · exact h.handle_p2b (hms m List.mem_cons_self) hres
      · rw [heq]
        exact h

/-- The majority is fixed. -/
@[simp] lemma run2b_majority (L : PaxosLearner V) (ms : List (PaxosMessage V)) :
    (L.run2b ms).majority = L.majority := by
  induction ms generalizing L with
  | nil => rfl
  | cons m ms ih =>
      rw [run2b_cons, ih]
      rcases after2b_cases L m with ⟨res, hres⟩ | heq
      · exact (handle_p2b_frame hres).2
      · rw [heq]

/-- A finished instance stays as it is along a run. -/
lemma run2b_finished {L : PaxosLearner V} {i : ℕ} {st : LearnerState V}
    (hst : L.states i = some st) (hf : st.finished = true) (ms : List (PaxosMessage V)) :
    (L.run2b ms).states i = some st ∧ (L.run2b ms).logs i = L.logs i := by
  induction ms generalizing L with
  | nil => exact ⟨hst, rfl⟩
  | cons m ms ih =>
      rw [run2b_cons]
      rcases after2b_cases L m with ⟨res, hres⟩ | heq
      · obtain ⟨hst', hlog, -⟩ := handle_p2b_finished hst hf hres
        obtain ⟨h₁, h₂⟩ := ih hst'
        exact ⟨h₁, h₂.trans hlog⟩
      · rw [heq]
        exact ih hst

/-- **Decisions are sound and final.** Each time `(i, v)` is returned, one round has votes from a
majority of distinct senders, `v` is the value of one of its votes, `logs[i] = v` holds for the rest
of the run, and no later call returns `i`. -/
theorem decision_sound_and_final (n : ℕ) (before : List (PaxosMessage V)) (m : PaxosMessage V)
    (i : ℕ) (v : V) (L' : PaxosLearner V)
    (h : ((new n).run2b before).handle_p2b m = .ok (L', some (i, v))) :
    (∃ r, ∃ S : Finset ℕ, (new n : PaxosLearner V).majority ≤ S.card ∧
      (∀ a ∈ S, ∃ m' ∈ before ++ [m], m'.inst = i ∧ m'.crnd = r ∧ m'.nid = a) ∧
      ∃ m' ∈ before ++ [m], m'.inst = i ∧ m'.crnd = r ∧ m'.val = v) ∧
    ∀ later, ((new n).run2b (before ++ m :: later)).logs i = some v ∧
      ∀ m' L'' w,
        ((new n).run2b (before ++ m :: later)).handle_p2b m' ≠ .ok (L'', some (i, w)) := by
  have hinv : Inv (· ∈ before ++ [m]) L' := by
    refine Inv.handle_p2b ?_ (by simp) h
    exact (inv_new _ n).run2b fun m' hm' => List.mem_append_left _ hm'
  have hmaj : L'.majority = (new n : PaxosLearner V).majority := by
    rw [(handle_p2b_frame h).2, run2b_majority]
  obtain ⟨-, hlogs, st, hst, hf⟩ := handle_p2b_decides h
  have hlog : L'.logs i = some v := by
    rw [hlogs, Function.update_self]
  obtain ⟨hcard, hval⟩ := hinv.finished i st hst hf
  have hb := hinv.backed i st hst
  refine ⟨⟨st.crnd, st.nids, hmaj ▸ hcard, hb.nids, ?_⟩, fun later => ?_⟩
  · obtain ⟨m', hm', hi, hr, hv⟩ := hb.val
    rw [hlog, hv] at hval
    exact ⟨m', hm', hi, hr, (Option.some.inj hval).symm⟩
  · have hrun : (new n).run2b (before ++ m :: later) = L'.run2b later := by
      rw [run2b_append, run2b_cons, after2b_of_ok h]
    obtain ⟨hst', hlog'⟩ := run2b_finished hst hf later
    rw [hrun]
    refine ⟨hlog'.trans hlog, fun m' L'' w hcall => ?_⟩
    exact (handle_p2b_finished hst' hf hcall).2.2 w rfl

/-- Two votes of three acceptors decide. -/
theorem decision_of_two_votes :
    ((new 3).run2b [⟨1, 7, 0, 0, true⟩]).handle_p2b ⟨2, 7, 0, 0, true⟩ =
        .ok (((new 3).run2b [⟨1, 7, 0, 0, true⟩]).after2b ⟨2, 7, 0, 0, true⟩, some (7, true)) ∧
      ((new 3).run2b ([⟨1, 7, 0, 0, true⟩] ++ ⟨2, 7, 0, 0, true⟩ :: [⟨3, 7, 0, 0, false⟩])).logs 7 =
        some true := by
  have h : ((new 3).run2b [⟨1, 7, 0, 0, true⟩]).handle_p2b ⟨2, 7, 0, 0, true⟩ =
      .ok (((new 3).run2b [⟨1, 7, 0, 0, true⟩]).after2b ⟨2, 7, 0, 0, true⟩, some (7, true)) := rfl
  exact ⟨h, ((decision_sound_and_final 3 _ _ 7 true _ h).2 _).1⟩

/-! ## Sequences of promises -/

/-- The learner after a sequence of 1B messages. -/
def run1b (L : PaxosLearner V) (ms : List (PaxosMessage V)) : PaxosLearner V :=
  ms.foldl (fun L m => (L.handle_p1b m).1) L

/-- Promises that come later are counted later. -/
lemma run1b_append (L : PaxosLearner V) (ms ms' : List (PaxosMessage V)) :
    L.run1b (ms ++ ms') = (L.run1b ms).run1b ms' := List.foldl_append

/-- The first promise is counted first. -/
lemma run1b_cons (L : PaxosLearner V) (m : PaxosMessage V) (ms : List (PaxosMessage V)) :
    L.run1b (m :: ms) = (L.handle_p1b m).1.run1b ms := rfl

/-- The invariant along a run, for any set that contains the messages of the run. -/
lemma PromiseInv.run1b {R : PaxosMessage V → Prop} {L : PaxosLearner V} (h : PromiseInv R L)
    {ms : List (PaxosMessage V)} (hms : ∀ m ∈ ms, R m) : PromiseInv R (L.run1b ms) := by
  induction ms generalizing L with
  | nil => exact h
  | cons m ms ih =>
      rw [run1b_cons]
      exact ih (h.handle_p1b (hms m List.mem_cons_self))
        fun m' hm' => hms m' (List.mem_cons_of_mem _ hm')

/-- The majority is fixed. -/
@[simp] lemma run1b_majority (L : PaxosLearner V) (ms : List (PaxosMessage V)) :
    (L.run1b ms).majority = L.majority := by
  induction ms generalizing L with
  | nil => rfl
  | cons m ms ih => rw [run1b_cons, ih, (handle_p1b_frame L m).2.2]

/-- A finished recovery stays as it is along a run. -/
lemma run1b_finished {L : PaxosLearner V} {i : ℕ} {st : ProposerState V}
    (hst : L.proposerState i = some st) (hf : st.finished = true) (ms : List (PaxosMessage V)) :
    (L.run1b ms).proposerState i = some st := by
  induction ms generalizing L with
  | nil => exact hst
  | cons m ms ih =>
      rw [run1b_cons]
      exact ih (handle_p1b_finished hst hf)

/-! ## Quorums of one instance share an acceptor -/

/-- Some call of the sequence returns a decision for `i`. -/
def Decides (n : ℕ) (ms : List (PaxosMessage V)) (i : ℕ) : Prop :=
  ∃ before m later, ms = before ++ m :: later ∧
    ∃ L' v, ((new n).run2b before).handle_p2b m = .ok (L', some (i, v))

/-- Some call of the sequence returns a 2A for `i`. -/
def Proposes (n : ℕ) (ms : List (PaxosMessage V)) (i : ℕ) : Prop :=
  ∃ before m later, ms = before ++ m :: later ∧
    ∃ L' res, ((new n).run1b before).handle_p1b m = (L', some res) ∧ res.inst = i

/-- The senders whose vote for `i` has been counted. -/
def votesCounted (n : ℕ) (ms : List (PaxosMessage V)) (i : ℕ) : Finset ℕ :=
  (((new n).run2b ms).states i).elim ∅ LearnerState.nids

/-- The senders whose promise for `i` has been counted. -/
def promisesCounted (n : ℕ) (ms : List (PaxosMessage V)) (i : ℕ) : Finset ℕ :=
  (((new n).run1b ms).proposerState i).elim ∅ ProposerState.nids

/-- **Quorum intersection for `n` acceptors**: whatever messages from `n` acceptors with distinct
ids two replicas are fed, if both decide an instance, some acceptor's vote for it was counted by
both; and if one recovers an instance and the other decides it, some acceptor's promise was counted
by the first and its vote by the second. -/
def QuorumsIntersect (n : ℕ) : Prop :=
  ∀ (V : Type) (acceptors : Finset ℕ), acceptors.card = n →
    ∀ ms₁ ms₂ : List (PaxosMessage V), (∀ m ∈ ms₁, m.nid ∈ acceptors) →
      (∀ m ∈ ms₂, m.nid ∈ acceptors) → ∀ i,
        (Decides n ms₁ i → Decides n ms₂ i →
          ∃ a ∈ acceptors, a ∈ votesCounted n ms₁ i ∧ a ∈ votesCounted n ms₂ i) ∧
        (Proposes n ms₁ i → Decides n ms₂ i →
          ∃ a ∈ acceptors, a ∈ promisesCounted n ms₁ i ∧ a ∈ votesCounted n ms₂ i)

/-- Counted votes come from senders of the sequence. -/
lemma exists_of_mem_votesCounted {n : ℕ} {ms : List (PaxosMessage V)} {i a : ℕ}
    (h : a ∈ votesCounted n ms i) : ∃ m ∈ ms, m.nid = a := by
  have hinv : Inv (· ∈ ms) ((new n).run2b ms) := (inv_new _ n).run2b fun m hm => hm
  unfold votesCounted at h
  cases hst : ((new n).run2b ms).states i with
  | none => simp [hst] at h
  | some st =>
      rw [hst] at h
      obtain ⟨m, hm, -, -, hnid⟩ := (hinv.backed i st hst).nids a h
      exact ⟨m, hm, hnid⟩

/-- Counted promises come from senders of the sequence. -/
lemma exists_of_mem_promisesCounted {n : ℕ} {ms : List (PaxosMessage V)} {i a : ℕ}
    (h : a ∈ promisesCounted n ms i) : ∃ m ∈ ms, m.nid = a := by
  have hinv : PromiseInv (· ∈ ms) ((new n).run1b ms) := (promiseInv_new _ n).run1b fun m hm => hm
  unfold promisesCounted at h
  cases hst : ((new n).run1b ms).proposerState i with
  | none => simp [hst] at h
  | some st =>
      rw [hst] at h
      obtain ⟨m, hm, -, -, hnid⟩ := hinv.nids i st hst a h
      exact ⟨m, hm, hnid⟩

/-- A decided instance has a majority of counted votes. When the instance was decided its state was
finished, which takes a majority of acceptors in `nids`, and a finished state does not change any
more. -/
lemma Decides.majority_le {n : ℕ} {ms : List (PaxosMessage V)} {i : ℕ} (h : Decides n ms i) :
    (n + 1) / 2 ≤ (votesCounted n ms i).card := by
  obtain ⟨before, m, later, rfl, L', v, hcall⟩ := h
  have hinv : Inv (fun _ => True) L' :=
    ((inv_new _ n).run2b fun _ _ => trivial).handle_p2b trivial hcall
  obtain ⟨-, -, st, hst, hf⟩ := handle_p2b_decides hcall
  have hmaj : L'.majority = (n + 1) / 2 := by
    rw [(handle_p2b_frame hcall).2, run2b_majority]
    rfl
  have hfinal : ((new n).run2b (before ++ m :: later)).states i = some st := by
    rw [run2b_append, run2b_cons, after2b_of_ok hcall]
    exact (run2b_finished hst hf later).1
  rw [votesCounted, hfinal, ← hmaj]
  exact (hinv.finished i st hst hf).1

/-- A recovered instance has a majority of counted promises. The promise that completed the quorum
made its state finished, and a finished state is not written any more. -/
lemma Proposes.majority_le {n : ℕ} {ms : List (PaxosMessage V)} {i : ℕ} (h : Proposes n ms i) :
    (n + 1) / 2 ≤ (promisesCounted n ms i).card := by
  obtain ⟨before, m, later, rfl, L', res, hcall, hi⟩ := h
  have hinv : PromiseInv (fun _ => True) ((new n : PaxosLearner V).run1b before) :=
    (promiseInv_new _ n).run1b fun _ _ => trivial
  obtain ⟨hc, hres⟩ := hinv.returns hcall
  have hinst : m.inst = i := by
    rw [← hi, hres]
  set L := (new n : PaxosLearner V).run1b before with hL
  have hst : (L.handle_p1b m).1.proposerState i = some (L.promised m) := by
    rcases handle_p1b_cases L m with ⟨hno, -⟩ | ⟨-, hno, -⟩ | ⟨-, he⟩
    · exact absurd hc.1 hno
    · exact absurd hc hno
    · rw [he]
      simp [hinst]
  have hf : (L.promised m).finished = true := decide_eq_true hc.2
  have hfinal : ((new n).run1b (before ++ m :: later)).proposerState i = some (L.promised m) := by
    rw [run1b_append, run1b_cons]
    exact run1b_finished hst hf later
  have hmaj : L.majority = (n + 1) / 2 := by
    rw [hL, run1b_majority]
    rfl
  rw [promisesCounted, hfinal, ← hmaj]
  exact hc.2

/-- With an odd number of acceptors, two sets of a majority meet. -/
lemma exists_mem_of_majorities {n : ℕ} (hn : Odd n) {acceptors S T : Finset ℕ}
    (hcard : acceptors.card = n) (hS : S ⊆ acceptors) (hT : T ⊆ acceptors)
    (hS' : (n + 1) / 2 ≤ S.card) (hT' : (n + 1) / 2 ≤ T.card) :
    ∃ a ∈ acceptors, a ∈ S ∧ a ∈ T := by
  obtain ⟨k, rfl⟩ := hn
  obtain ⟨a, ha⟩ := Finset.inter_nonempty_of_card_lt_card_add_card hS hT (by omega)
  rw [Finset.mem_inter] at ha
  exact ⟨a, hS ha.1, ha⟩

/-- The vote of acceptor `a` in round 0 of instance 1. -/
def ballot (a : ℕ) : PaxosMessage Unit := ⟨a, 1, 0, 0, ()⟩

/-- A state with the votes of the acceptors `l` and no decision. -/
def Collected (L : PaxosLearner Unit) (l : List ℕ) : Prop :=
  L.states 1 = if l = [] then none else some ⟨0, l.toFinset, some (), false⟩

/-- The next acceptor's vote is counted on top of those collected. -/
lemma Collected.votes {L : PaxosLearner Unit} {l : List ℕ} (h : L.Collected l) {a : ℕ}
    (ha : a ∉ l) : L.CountsVote (ballot a) ∧
      (insert a (L.votes (ballot a)).nids) = (l ++ [a]).toFinset ∧
      (L.voted (ballot a)).crnd = 0 := by
  have hvotes : L.votes (ballot a) =
      ⟨0, l.toFinset, if l = [] then none else some (), false⟩ := by
    have hinst : (ballot a).inst = 1 := rfl
    unfold Collected at h
    rw [PaxosLearner.votes, hinst, h]
    by_cases hl : l = []
    · simp [hl, LearnerState.new, ballot]
    · simp [hl]
  refine ⟨?_, ?_, ?_⟩
  · rw [CountsVote, hvotes]
    exact ⟨rfl, rfl, by simpa [ballot] using ha⟩
  · rw [hvotes]
    ext x
    simp
  · simp [voted, hvotes]

/-- Fewer distinct votes than the majority are collected and nothing is decided. By induction on the
votes. Each comes from a new sender and is counted, and none makes the majority. -/
lemma collected_ballots (n : ℕ) (l : List ℕ) (hnd : l.Nodup) (hlen : l.length < (n + 1) / 2) :
    ((new n).run2b (l.map ballot)).Collected l := by
  induction l using List.reverseRecOn with
  | nil => rfl
  | append_singleton l a ih =>
      obtain ⟨hnd', -, hdisj⟩ := List.nodup_append.mp hnd
      have ha : a ∉ l := fun h => hdisj a h a (by simp) rfl
      rw [List.length_append, List.length_singleton] at hlen
      obtain ⟨hcount, hnids, hcrnd⟩ := (ih hnd' (by omega)).votes ha
      set L := (new n : PaxosLearner Unit).run2b (l.map ballot) with hL
      have hmaj : L.majority = (n + 1) / 2 := by
        rw [hL, run2b_majority]
        rfl
      have hopen : ¬ L.majority ≤ (insert a (L.votes (ballot a)).nids).card := by
        rw [hnids, hmaj, List.toFinset_card_of_nodup hnd, List.length_append, List.length_singleton]
        omega
      rw [List.map_append, run2b_append, ← hL]
      rcases handle_p2b_cases L (ballot a) with ⟨-, -, hlt⟩ | ⟨hno, -⟩ | ⟨-, hf, he⟩ | ⟨-, hf, -⟩
      · exact absurd hcount.2.1 (Nat.ne_of_lt hlt)
      · exact absurd hcount hno
      · rw [List.map_singleton, run2b_cons, after2b_of_ok he]
        have hvoted : L.voted (ballot a) = ⟨0, (l ++ [a]).toFinset, some (), false⟩ := by
          rw [← hnids, ← hcrnd, ← hf]
          rfl
        unfold Collected
        rw [if_neg (by simp), ← hvoted]
        show Function.update L.states 1 (some (L.voted (ballot a))) 1 = some (L.voted (ballot a))
        rw [Function.update_self]
      · exact absurd (of_decide_eq_true hf) hopen

/-- As many distinct votes as the majority decide. All but the last of the votes are counted without
reaching the majority (`collected_ballots`), and the last one reaches it. -/
lemma decides_ballots (n : ℕ) (l : List ℕ) (hnd : l.Nodup) (hlen : l.length = (n + 1) / 2)
    (hpos : 0 < l.length) : Decides n (l.map ballot) 1 := by
  induction l using List.reverseRecOn with
  | nil => simp at hpos
  | append_singleton l a _ =>
      obtain ⟨hnd', -, hdisj⟩ := List.nodup_append.mp hnd
      have ha : a ∉ l := fun h => hdisj a h a (by simp) rfl
      have hlen' : (l ++ [a]).length = l.length + 1 := by simp
      obtain ⟨hcount, hnids, -⟩ := (collected_ballots n l hnd' (by omega)).votes ha
      set L := (new n : PaxosLearner Unit).run2b (l.map ballot) with hL
      have hmaj : L.majority = (n + 1) / 2 := by
        rw [hL, run2b_majority]
        rfl
      have hdone : L.majority ≤ (insert a (L.votes (ballot a)).nids).card := by
        rw [hnids, hmaj, List.toFinset_card_of_nodup hnd]
        omega
      refine ⟨l.map ballot, ballot a, [], by simp, ?_⟩
      rcases handle_p2b_cases L (ballot a) with ⟨-, -, hlt⟩ | ⟨hno, -⟩ | ⟨-, hf, -⟩ | ⟨-, -, he⟩
      · exact absurd hcount.2.1 (Nat.ne_of_lt hlt)
      · exact absurd hcount hno
      · exact absurd hdone (of_decide_eq_false hf)
      · exact ⟨_, _, he⟩

/-- **Quorums intersect exactly for an odd number of acceptors.** For an even number the two halves
are majorities that do not meet. For an odd one two majorities have more than `n` members together.
-/
theorem quorums_intersect_iff (n : ℕ) (hn : 1 ≤ n) : QuorumsIntersect n ↔ Odd n := by
  constructor
  · intro h
    by_contra hodd
    rw [Nat.not_odd_iff_even] at hodd
    obtain ⟨k, rfl⟩ := hodd
    -- the first half of the acceptors vote at one replica, the second half at the other
    have hmaj : (k + k + 1) / 2 = k := by omega
    have h₁ : Decides (k + k) ((List.range k).map ballot) 1 :=
      decides_ballots _ _ List.nodup_range (by rw [List.length_range, hmaj])
        (by rw [List.length_range]; omega)
    have h₂ : Decides (k + k) ((List.range' k k).map ballot) 1 :=
      decides_ballots _ _ List.nodup_range' (by rw [List.length_range', hmaj])
        (by rw [List.length_range']; omega)
    have hacc := h Unit (Finset.range (k + k)) (Finset.card_range _)
      ((List.range k).map ballot) ((List.range' k k).map ballot)
      (by
        intro m hm
        obtain ⟨a, ha, rfl⟩ := List.mem_map.mp hm
        simp only [ballot, Finset.mem_range, List.mem_range] at ha ⊢
        omega)
      (by
        intro m hm
        obtain ⟨a, ha, rfl⟩ := List.mem_map.mp hm
        simp only [ballot, Finset.mem_range, List.mem_range'_1] at ha ⊢
        omega) 1
    obtain ⟨a, -, ha₁, ha₂⟩ := hacc.1 h₁ h₂
    obtain ⟨m₁, hm₁, rfl⟩ := exists_of_mem_votesCounted ha₁
    obtain ⟨m₂, hm₂, heq⟩ := exists_of_mem_votesCounted ha₂
    obtain ⟨x, hx, rfl⟩ := List.mem_map.mp hm₁
    obtain ⟨y, hy, rfl⟩ := List.mem_map.mp hm₂
    simp only [ballot, List.mem_range, List.mem_range'_1] at hx hy heq
    omega
  · intro hodd V acceptors hcard ms₁ ms₂ hms₁ hms₂ i
    have hsub : ∀ ms : List (PaxosMessage V), (∀ m ∈ ms, m.nid ∈ acceptors) →
        votesCounted n ms i ⊆ acceptors := by
      intro ms hms a ha
      obtain ⟨m, hm, rfl⟩ := exists_of_mem_votesCounted ha
      exact hms m hm
    have hsub' : promisesCounted n ms₁ i ⊆ acceptors := by
      intro a ha
      obtain ⟨m, hm, rfl⟩ := exists_of_mem_promisesCounted ha
      exact hms₁ m hm
    refine ⟨fun hd₁ hd₂ => ?_, fun hp hd => ?_⟩
    · exact exists_mem_of_majorities hodd hcard (hsub ms₁ hms₁) (hsub ms₂ hms₂) hd₁.majority_le
        hd₂.majority_le
    · exact exists_mem_of_majorities hodd hcard hsub' (hsub ms₂ hms₂) hp.majority_le hd.majority_le

/-- The shipped configuration has three acceptors. -/
theorem quorums_intersect_three : QuorumsIntersect 3 :=
  (quorums_intersect_iff 3 (by decide)).mpr (by decide)

/-- With two acceptors one vote is a "majority": replicas that hear of different acceptors decide
from disjoint sets of votes. -/
theorem quorums_disjoint_two : Decides 2 [ballot 1] 1 ∧ Decides 2 [ballot 2] 1 ∧
    votesCounted 2 [ballot 1] 1 ∩ votesCounted 2 [ballot 2] 1 = ∅ ∧ ¬ QuorumsIntersect 2 := by
  have h₁ : Decides 2 [ballot 1] 1 := decides_ballots 2 [1] (by decide) rfl (by decide)
  have h₂ : Decides 2 [ballot 2] 1 := decides_ballots 2 [2] (by decide) rfl (by decide)
  have hdisj : votesCounted 2 [ballot 1] 1 ∩ votesCounted 2 [ballot 2] 1 = ∅ := by decide
  refine ⟨h₁, h₂, hdisj, fun h => ?_⟩
  obtain ⟨a, -, ha⟩ := (h Unit {1, 2} (by decide) [ballot 1] [ballot 2] (by decide)
    (by decide) 1).1 h₁ h₂
  rw [← Finset.mem_inter, hdisj] at ha
  exact Finset.notMem_empty a ha

/-! ## The value a recovery proposes -/

/-- The promises counted from distinct senders: the first of each sender. -/
def counted (ms : List (PaxosMessage V)) : List (PaxosMessage V) :=
  ms.foldl (fun c m => if m.nid ∈ c.map PaxosMessage.nid then c else c ++ [m]) []

/-- A sender that was counted is not counted again. -/
lemma counted_concat (ms : List (PaxosMessage V)) (m : PaxosMessage V) :
    counted (ms ++ [m]) =
      if m.nid ∈ (counted ms).map PaxosMessage.nid then counted ms else counted ms ++ [m] := by
  unfold counted
  rw [List.foldl_append]
  rfl

/-- Every sender has one counted promise. An induction on the promises from the back: one that is
not counted has a sender that was counted before. -/
lemma mem_map_nid_counted (ms : List (PaxosMessage V)) (a : ℕ) :
    a ∈ (counted ms).map PaxosMessage.nid ↔ a ∈ ms.map PaxosMessage.nid := by
  induction ms using List.reverseRecOn with
  | nil => rfl
  | append_singleton ms m ih =>
      rw [counted_concat]
      split_ifs with h
      · rw [ih, List.map_append, List.mem_append, List.map_singleton, List.mem_singleton]
        constructor
        · exact .inl
        · rintro (h' | rfl)
          · exact h'
          · exact ih.mp h
      · simp only [List.map_append, List.mem_append, ih]

/-- **The choice a recovery should make**: the value of a promise with the highest reported round,
under that round. -/
def RightChoice (promises : List (PaxosMessage V)) (res : PaxosMessage (Option V)) : Prop :=
  ∃ p ∈ promises, (∀ q ∈ promises, q.vrnd ≤ p.vrnd) ∧ res.val = some p.val ∧ res.vrnd = p.vrnd

/-- The recovery of instance `i` in round `r`, as long as it is unfinished, has counted the senders
of `ms`. -/
structure CountsAll (i r : ℕ) (ms : List (PaxosMessage V)) (L : PaxosLearner V) : Prop where
  started : L.proposerState i = none → ms = []
  crnd : ∀ st, L.proposerState i = some st → st.crnd = r
  nids : ∀ st, L.proposerState i = some st → st.finished = false →
    st.nids = (ms.map PaxosMessage.nid).toFinset

section countsAll

variable {i r : ℕ} {ms : List (PaxosMessage V)} {L : PaxosLearner V} {m : PaxosMessage V}

/-- The state the next promise is counted in, whether it is new or not. -/
lemma CountsAll.promises (h : CountsAll i r ms L) (hi : m.inst = i) (hr : m.crnd = r) :
    (L.promises m).crnd = r ∧ ((L.promises m).finished = false →
      (L.promises m).nids = (ms.map PaxosMessage.nid).toFinset) := by
  cases hst : L.proposerState i with
  | none =>
      have hempty := h.started hst
      simp [PaxosLearner.promises, hi, hst, ProposerState.new, hr, hempty]
  | some st =>
      have heq : L.promises m = st := by simp [PaxosLearner.promises, hi, hst]
      rw [heq]
      exact ⟨h.crnd st hst, h.nids st hst⟩

/-- A promise that is not counted is of a sender counted before, or comes too late. The instance and
the round are right, so that the promise can be refused only for its sender. -/
lemma CountsAll.ignored (h : CountsAll i r ms L) (hi : m.inst = i) (hr : m.crnd = r)
    (hno : ¬ L.CountsPromise m) : CountsAll i r (ms ++ [m]) L where
  started hst := by
    refine absurd ⟨?_, ?_, ?_⟩ hno <;> simp [PaxosLearner.promises, hi, hst, ProposerState.new]
  crnd := h.crnd
  nids st hst hf := by
    have heq : L.promises m = st := by simp [PaxosLearner.promises, hi, hst]
    have hmem : m.nid ∈ st.nids := by
      by_contra hnid
      apply hno
      unfold CountsPromise
      rw [heq]
      exact ⟨hf, (h.crnd st hst).trans hr.symm, hnid⟩
    rw [h.nids st hst hf, List.mem_toFinset] at hmem
    rw [h.nids st hst hf]
    ext x
    simp only [List.mem_toFinset, List.map_append, List.mem_append, List.map_singleton,
      List.mem_singleton]
    constructor
    · exact .inl
    · rintro (hx | rfl)
      · exact hx
      · exact hmem

/-- One promise. A counted promise adds its sender, and the one that completes the majority marks
the instance as finished, which ends what is claimed of it. -/
lemma CountsAll.handle_p1b (h : CountsAll i r ms L) (hi : m.inst = i) (hr : m.crnd = r) :
    CountsAll i r (ms ++ [m]) (L.handle_p1b m).1 := by
  obtain ⟨hcrnd, hnids⟩ := h.promises hi hr
  rcases handle_p1b_cases L m with ⟨hno, he⟩ | ⟨hc, -, he⟩ | ⟨hc, he⟩ <;> rw [he]
  · exact h.ignored hi hr hno
  all_goals
    refine ⟨fun hst => ?_, fun st hst => ?_, fun st hst hf => ?_⟩ <;>
      simp only [hi, Function.update_self, reduceCtorEq, Option.some.injEq] at hst <;> subst hst
  · exact hcrnd
  · rw [promised, hnids hc.1]
    ext x
    simp
  · exact hcrnd
  · exact absurd hc.2 (of_decide_eq_false hf)

end countsAll

/-- Fed promises of one instance and round, a recovery has counted every sender. -/
lemma countsAll_run1b (n i r : ℕ) (ms : List (PaxosMessage V))
    (hms : ∀ x ∈ ms, x.inst = i ∧ x.crnd = r) : CountsAll i r ms ((new n).run1b ms) := by
  induction ms using List.reverseRecOn with
  | nil =>
      refine ⟨fun _ => rfl, fun st hst => ?_, fun st hst => ?_⟩ <;> cases hst
  | append_singleton ms m ih =>
      obtain ⟨hi, hr⟩ := hms m (by simp)
      rw [run1b_append]
      exact (ih fun x hx => hms x (List.mem_append_left _ hx)).handle_p1b hi hr

/-- **When a recovery makes the right choice.** Whatever promises of one instance and round arrived
before, in whatever order and how often, the 2A returned has the value and round of a promise with
the highest reported round if and only if every counted promise reports round 0: the value is always
that of the last counted promise, and the round always 0. -/
theorem recovery_choice_iff (n i r : ℕ) (before : List (PaxosMessage V)) (m : PaxosMessage V)
    (hms : ∀ x ∈ before ++ [m], x.inst = i ∧ x.crnd = r) (L' : PaxosLearner V)
    (res : PaxosMessage (Option V))
    (h : ((new n).run1b before).handle_p1b m = (L', some res)) :
    RightChoice (counted (before ++ [m])) res ↔ ∀ p ∈ counted (before ++ [m]), p.vrnd = 0 := by
  have hinv : PromiseInv (fun _ => True) ((new n : PaxosLearner V).run1b before) :=
    (promiseInv_new _ n).run1b fun _ _ => trivial
  obtain ⟨hc, rfl⟩ := hinv.returns h
  constructor
  · rintro ⟨p, -, hmax, -, hvrnd⟩ q hq
    have := hmax q hq
    rw [← hvrnd] at this
    exact Nat.le_zero.mp this
  · intro hzero
    have hnew : m.nid ∉ (counted before).map PaxosMessage.nid := by
      rw [mem_map_nid_counted]
      intro hmem
      obtain ⟨hi, hr⟩ := hms m (by simp)
      obtain ⟨hfin, -, hnid⟩ := hc.1
      have hall := countsAll_run1b n i r before fun x hx => hms x (List.mem_append_left _ hx)
      rw [(hall.promises hi hr).2 hfin] at hnid
      exact hnid (List.mem_toFinset.mpr hmem)
    have hm : m ∈ counted (before ++ [m]) := by
      rw [counted_concat, if_neg hnew]
      simp
    refine ⟨m, hm, fun q hq => ?_, rfl, (hzero m hm).symm⟩
    rw [hzero q hq]
    exact Nat.zero_le _

/-- Two promises that report no vote: the recovery is right. -/
theorem recovery_choice_unvoted :
    RightChoice (counted ([⟨1, 7, 1, 0, true⟩] ++ [⟨2, 7, 1, 0, true⟩]))
      ⟨10, 7, 1, 0, some true⟩ :=
  (recovery_choice_iff 3 7 1 [⟨1, 7, 1, 0, true⟩] ⟨2, 7, 1, 0, true⟩ (by decide) _ _ rfl).mpr
    (by decide)

/-- A promise for the vote in round 5 followed by one for a vote in round 3: the recovery proposes
the value of the second and reports round 0. -/
theorem recovery_choice_wrong :
    (((new 3).run1b [⟨1, 7, 9, 5, true⟩]).handle_p1b ⟨2, 7, 9, 3, false⟩).2 =
        some ⟨10, 7, 9, 0, some false⟩ ∧
      ¬ RightChoice (counted ([⟨1, 7, 9, 5, true⟩] ++ [⟨2, 7, 9, 3, false⟩]))
        ⟨10, 7, 9, 0, some false⟩ := by
  refine ⟨rfl, ?_⟩
  rintro ⟨p, hp, hmax, -, hvrnd⟩
  have h5 := hmax ⟨1, 7, 9, 5, true⟩ (by decide)
  rw [← hvrnd] at h5
  exact absurd h5 (by decide)

end P4xos.Bmv2.PaxosLearner
