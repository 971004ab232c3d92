import Mathlib

/-!
# Tallies of votes, and sets of voters as bit masks

A tally keeps, for each instance, the highest round it has heard of and the voters of that round: a
vote of a higher round starts the count again, a vote of a lower round is not counted.

* `tally_eq`: after any sequence of votes the cell of an instance is its highest round with exactly
  the voters heard in that round; nothing is forgotten on the way.
* `counted vs v` are the voters a count looks at when `v` arrives: those of the cell, with `v`'s own
  voter when `v` is of the cell's round. `two_le_voters_iff` says when a pair of them is a pair of
  voters of `v`'s own round.
* `members m` is the set of the positions of the ones in a bit mask; `or` and shifts of 1 act on it
  as union and singletons.
-/

namespace P4xos.Lib

/-! ## Tallies -/

/-- A vote of `voter` in an instance's round. -/
structure Vote (K A : Type*) where
  /-- The instance. -/
  inst : K
  /-- The round. -/
  round : ℕ
  /-- Who votes. -/
  voter : A

/-- What is kept of an instance. -/
@[ext] structure Cell (A : Type*) where
  /-- The highest round so far. -/
  round : ℕ
  /-- Its voters. -/
  voters : Finset A

variable {K A : Type*} [DecidableEq K] [DecidableEq A]

/-- Count one vote of the cell's instance. -/
def Cell.count (c : Cell A) (v : Vote K A) : Cell A :=
  if c.round < v.round then ⟨v.round, {v.voter}⟩
  else if v.round = c.round then ⟨c.round, insert v.voter c.voters⟩
  else c

/-- The cell of instance `i` after a sequence of votes. -/
def tally (i : K) (vs : List (Vote K A)) : Cell A :=
  vs.foldl (fun c v => if v.inst = i then c.count v else c) ⟨0, ∅⟩

/-- The highest round heard of in instance `i`, `0` if there is none. -/
def highest (i : K) (vs : List (Vote K A)) : ℕ :=
  vs.foldl (fun r v => if v.inst = i then max r v.round else r) 0

/-- The voters heard in round `r` of instance `i`. -/
def voters (i : K) (r : ℕ) (vs : List (Vote K A)) : Finset A :=
  ((vs.filter fun v => v.inst = i ∧ v.round = r).map Vote.voter).toFinset

omit [DecidableEq A] in
/-- A further vote raises the highest round of its own instance only. -/
lemma highest_concat (i : K) (vs : List (Vote K A)) (v : Vote K A) :
    highest i (vs ++ [v]) = if v.inst = i then max (highest i vs) v.round else highest i vs := by
  simp [highest]

/-- A further vote is counted in the cell of its own instance. -/
lemma tally_concat (i : K) (vs : List (Vote K A)) (v : Vote K A) :
    tally i (vs ++ [v]) = if v.inst = i then (tally i vs).count v else tally i vs := by
  simp [tally]

/-- A voter of a round is one whose vote for it was heard. -/
lemma mem_voters {i : K} {r : ℕ} {vs : List (Vote K A)} {a : A} :
    a ∈ voters i r vs ↔ ∃ v ∈ vs, v.inst = i ∧ v.round = r ∧ v.voter = a := by
  simp [voters, and_assoc]

/-- A further vote adds its voter to the voters of its round. -/
lemma voters_concat_self (vs : List (Vote K A)) (v : Vote K A) :
    voters v.inst v.round (vs ++ [v]) = insert v.voter (voters v.inst v.round vs) := by
  ext a
  simp only [mem_voters, List.mem_append, List.mem_singleton, Finset.mem_insert]
  constructor
  · rintro ⟨w, hw | rfl, hi, hr, rfl⟩
    · exact .inr ⟨w, hw, hi, hr, rfl⟩
    · exact .inl rfl
  · rintro (rfl | ⟨w, hw, h⟩)
    · exact ⟨v, .inr rfl, rfl, rfl, rfl⟩
    · exact ⟨w, .inl hw, h⟩

/-- It adds nobody to the voters of another round or instance. -/
lemma voters_concat_ne {i : K} {r : ℕ} {v : Vote K A} (h : ¬ (v.inst = i ∧ v.round = r))
    (vs : List (Vote K A)) : voters i r (vs ++ [v]) = voters i r vs := by
  ext a
  simp only [mem_voters, List.mem_append, List.mem_singleton]
  constructor
  · rintro ⟨w, hw | rfl, hi, hr, ha⟩
    · exact ⟨w, hw, hi, hr, ha⟩
    · exact absurd ⟨hi, hr⟩ h
  · rintro ⟨w, hw, hw'⟩
    exact ⟨w, .inl hw, hw'⟩

omit [DecidableEq A] in
/-- No vote of the instance is above its highest round. -/
lemma round_le_highest {vs : List (Vote K A)} {v : Vote K A} (h : v ∈ vs) :
    v.round ≤ highest v.inst vs := by
  induction vs using List.reverseRecOn with
  | nil => cases h
  | append_singleton vs w ih =>
      rw [highest_concat]
      rcases List.mem_append.mp h with hv | hv
      · split_ifs
        · exact (ih hv).trans (le_max_left _ _)
        · exact ih hv
      · rw [List.mem_singleton.mp hv, if_pos rfl]
        exact le_max_right _ _

omit [DecidableEq A] in
/-- The highest round is that of a vote, or `0`. An induction from the back: the maximum with the
last round is the last round or the maximum before it. -/
lemma highest_eq_zero_or (i : K) (vs : List (Vote K A)) :
    highest i vs = 0 ∨ ∃ v ∈ vs, v.inst = i ∧ v.round = highest i vs := by
  induction vs using List.reverseRecOn with
  | nil => exact .inl rfl
  | append_singleton vs w ih =>
      have hold : highest i (vs ++ [w]) = highest i vs → highest i (vs ++ [w]) = 0 ∨
          ∃ v ∈ vs ++ [w], v.inst = i ∧ v.round = highest i (vs ++ [w]) := by
        intro h
        rw [h]
        rcases ih with h0 | ⟨v, hv, hv'⟩
        · exact .inl h0
        · exact .inr ⟨v, List.mem_append_left _ hv, hv'⟩
      by_cases hi : w.inst = i
      · rcases max_choice (highest i vs) w.round with hmax | hmax
        · exact hold (by rw [highest_concat, if_pos hi, hmax])
        · exact .inr ⟨w, by simp, hi, by rw [highest_concat, if_pos hi, hmax]⟩
      · exact hold (by rw [highest_concat, if_neg hi])

omit [DecidableEq A] in
/-- Where all votes of an instance are of one round, that is the highest. -/
lemma highest_eq {i : K} {r : ℕ} {vs : List (Vote K A)} (h : ∀ v ∈ vs, v.inst = i → v.round = r)
    (hex : ∃ v ∈ vs, v.inst = i) : highest i vs = r := by
  obtain ⟨v, hv, hi⟩ := hex
  have hle : r ≤ highest i vs := by
    rw [← h v hv hi, ← hi]
    exact round_le_highest hv
  rcases highest_eq_zero_or i vs with h0 | ⟨w, hw, hwi, hwr⟩
  · omega
  · rw [← hwr, h w hw hwi]

/-- Nobody is heard above the highest round. -/
lemma voters_eq_empty {i : K} {r : ℕ} {vs : List (Vote K A)} (h : highest i vs < r) :
    voters i r vs = ∅ := by
  refine Finset.eq_empty_of_forall_notMem fun a ha => ?_
  obtain ⟨v, hv, rfl, rfl, -⟩ := mem_voters.mp ha
  exact absurd (round_le_highest hv) (not_le.mpr h)

/-- **The tally is exact**: the highest round and everybody heard in it. An induction from the back,
in which the last vote opens a new round, joins the highest one, or is too old. -/
theorem tally_eq (i : K) (vs : List (Vote K A)) :
    tally i vs = ⟨highest i vs, voters i (highest i vs) vs⟩ := by
  induction vs using List.reverseRecOn with
  | nil => rfl
  | append_singleton vs v ih =>
      rw [tally_concat, highest_concat, ih]
      by_cases hi : v.inst = i
      · subst hi
        rw [if_pos rfl, if_pos rfl]
        unfold Cell.count
        by_cases hlt : highest v.inst vs < v.round
        · rw [if_pos hlt, max_eq_right hlt.le, voters_concat_self, voters_eq_empty hlt]
          simp
        · by_cases heq : v.round = highest v.inst vs
          · rw [if_neg hlt, if_pos heq, ← heq, max_self, voters_concat_self]
          · rw [if_neg hlt, if_neg heq, max_eq_left (not_lt.mp hlt),
              voters_concat_ne fun h => heq h.2]
      · rw [if_neg hi, if_neg hi, voters_concat_ne fun h => hi h.1]

/-- The round of a cell is the highest one heard. -/
@[simp] lemma tally_round (i : K) (vs : List (Vote K A)) : (tally i vs).round = highest i vs := by
  rw [tally_eq]

/-- The voters of a cell are those of the highest round. -/
@[simp] lemma tally_voters (i : K) (vs : List (Vote K A)) :
    (tally i vs).voters = voters i (highest i vs) vs := by
  rw [tally_eq]

/-- The voters a count looks at when `v` arrives after `vs`: those kept for the instance, with `v`'s
own when it is of the kept round. -/
def counted (vs : List (Vote K A)) (v : Vote K A) : Finset A :=
  if v.round = highest v.inst vs then insert v.voter (voters v.inst (highest v.inst vs) vs)
  else voters v.inst (highest v.inst vs) vs

/-- A vote of the highest round is counted with everybody heard in that round. -/
lemma counted_of_eq {vs : List (Vote K A)} {v : Vote K A} (h : v.round = highest v.inst vs) :
    counted vs v = voters v.inst v.round (vs ++ [v]) := by
  rw [counted, if_pos h, ← h, voters_concat_self]

/-- When two are counted, two voters were heard in the vote's own round exactly when that is the
highest round, or a lower one in which somebody else was heard before. -/
lemma two_le_voters_iff {vs : List (Vote K A)} {v : Vote K A} (h : (counted vs v).card = 2) :
    2 ≤ (voters v.inst v.round (vs ++ [v])).card ↔
      v.round = highest v.inst vs ∨ ∃ a ∈ voters v.inst v.round vs, a ≠ v.voter := by
  by_cases heq : v.round = highest v.inst vs
  · rw [counted_of_eq heq] at h
    exact ⟨fun _ => .inl heq, fun _ => h.ge⟩
  · rw [voters_concat_self]
    constructor
    · intro hcard
      right
      obtain ⟨a, ha, hne⟩ := Finset.exists_mem_ne (Nat.lt_of_succ_le hcard) v.voter
      exact ⟨a, (Finset.mem_insert.mp ha).resolve_left hne, hne⟩
    · rintro (hc | ⟨a, ha, hne⟩)
      · exact absurd hc heq
      · have hpair : {v.voter, a} ⊆ insert v.voter (voters v.inst v.round vs) := by
          intro b hb
          rcases Finset.mem_insert.mp hb with rfl | hb
          · exact Finset.mem_insert_self _ _
          · rw [Finset.mem_singleton.mp hb]
            exact Finset.mem_insert_of_mem ha
        rw [← Finset.card_pair hne.symm]
        exact Finset.card_le_card hpair

/-! ## Bit masks -/

/-- The positions of the ones of a bit mask. -/
def members {w : ℕ} (m : BitVec w) : Finset ℕ := (Finset.range w).filter fun a => m.getLsbD a

/-- A member is the position of a one. -/
lemma mem_members {w : ℕ} {m : BitVec w} {a : ℕ} : a ∈ members m ↔ m.getLsbD a = true := by
  simp only [members, Finset.mem_filter, Finset.mem_range, and_iff_right_iff_imp]
  exact BitVec.lt_of_getLsbD

/-- The empty mask has no members. -/
@[simp] lemma members_zero {w : ℕ} : members 0#w = ∅ := by
  ext a
  simp [mem_members]

/-- The union of two masks. -/
lemma members_or {w : ℕ} (m n : BitVec w) : members (m ||| n) = members m ∪ members n := by
  ext a
  simp [mem_members]

/-- A shifted one is the mask of one position. -/
lemma members_one_shiftLeft {w a : ℕ} (h : a < w) : members ((1 : BitVec w) <<< a) = {a} := by
  ext b
  simp only [mem_members, BitVec.getLsbD_shiftLeft, Finset.mem_singleton]
  constructor
  · intro hb
    simp at hb
    omega
  · rintro rfl
    simp [h, Nat.zero_lt_of_lt h]

/-- Adding a position to a mask. -/
lemma members_or_one_shiftLeft {w a : ℕ} (h : a < w) (m : BitVec w) :
    members (m ||| (1 : BitVec w) <<< a) = insert a (members m) := by
  rw [members_or, members_one_shiftLeft h, Finset.union_comm, Finset.insert_eq]

/-- The masks of two of the first three positions. -/
lemma card_members_eq_two {m : BitVec 8} (h : members m ⊆ Finset.range 3) :
    (members m).card = 2 ↔ m = 6 ∨ m = 5 ∨ m = 3 := by
  revert m
  decide +kernel

/-! ## Tallies kept in registers

A round and a mask of the voters heard in it, for voters that are bit positions. -/

variable {r : ℕ} {round : BitVec r} {mask : BitVec 8}

omit [DecidableEq K] in
/-- Counting a vote, on the round and the mask. The rounds are compared as numbers and as bit
vectors alike. -/
lemma count_members {v : Vote K ℕ} {vround : BitVec r} (hround : v.round = vround.toNat)
    (hvoter : v.voter < 8) :
    (⟨round.toNat, members mask⟩ : Cell ℕ).count v =
      if round < vround then ⟨vround.toNat, members ((1 : BitVec 8) <<< v.voter)⟩
      else if vround = round then
        ⟨vround.toNat, members (mask ||| (1 : BitVec 8) <<< v.voter)⟩
      else ⟨round.toNat, members mask⟩ := by
  have hlt : round.toNat < v.round ↔ round < vround := by
    rw [hround]
    exact BitVec.lt_def.symm
  have heq : v.round = round.toNat ↔ vround = round := by
    rw [hround]
    exact BitVec.toNat_inj
  rw [Cell.count, members_one_shiftLeft hvoter, members_or_one_shiftLeft hvoter]
  simp only [hlt, heq]
  split_ifs with h₁ h₂
  · rw [hround]
  · rw [h₂]
  · rfl

/-- The mask a count looks at, from the round and the mask kept. The kept cell is the tally of the
votes before, so its round is the highest one. -/
lemma members_counted {vs : List (Vote K ℕ)} {v : Vote K ℕ} {vround : BitVec r}
    (hround : v.round = vround.toNat) (hvoter : v.voter < 8)
    (hcell : ⟨round.toNat, members mask⟩ = tally v.inst vs) :
    members (if vround = round then mask ||| (1 : BitVec 8) <<< v.voter else mask) =
      counted vs v := by
  have hhighest : round.toNat = highest v.inst vs := by
    rw [← tally_round, ← hcell]
  have hvoters : members mask = voters v.inst (highest v.inst vs) vs := by
    rw [← tally_voters, ← hcell]
  have heq : v.round = highest v.inst vs ↔ vround = round := by
    rw [hround, ← hhighest]
    exact BitVec.toNat_inj
  unfold counted
  by_cases h : vround = round
  · rw [if_pos h, if_pos (heq.mpr h), members_or_one_shiftLeft hvoter, hvoters]
  · rw [if_neg h, if_neg fun hc => h (heq.mp hc), hvoters]

/-- Two of three voters, on the mask. The voters are below 3, and there are three masks of two such
voters. -/
lemma card_counted_eq_two {vs : List (Vote K ℕ)} {v : Vote K ℕ} (hvs : ∀ w ∈ vs, w.voter < 3)
    (hv : v.voter < 3) (hmask : members mask = counted vs v) :
    (counted vs v).card = 2 ↔ mask = 6 ∨ mask = 5 ∨ mask = 3 := by
  have hvoters : ∀ r, voters v.inst r vs ⊆ Finset.range 3 := by
    intro r a ha
    obtain ⟨w, hw, -, -, rfl⟩ := mem_voters.mp ha
    exact Finset.mem_range.mpr (hvs w hw)
  have hsub : counted vs v ⊆ Finset.range 3 := by
    unfold counted
    split_ifs
    · exact Finset.insert_subset (Finset.mem_range.mpr hv) (hvoters _)
    · exact hvoters _
  rw [← hmask] at hsub ⊢
  exact card_members_eq_two hsub

/-- A machine whose steps count votes keeps a tally. -/
lemma tally_foldl {S P : Type*} {cell : S → K → Cell A} {next : S → P → S} {vote : P → Vote K A}
    {ps : List P} (hnext : ∀ s, ∀ p ∈ ps, ∀ i, cell (next s p) i =
      if (vote p).inst = i then (cell s i).count (vote p) else cell s i)
    {s : S} {vs : List (Vote K A)} (h : ∀ i, cell s i = tally i vs) (i : K) :
    cell (ps.foldl next s) i = tally i (vs ++ ps.map vote) := by
  induction ps generalizing s vs with
  | nil => simpa using h i
  | cons p ps ih =>
      rw [List.foldl_cons, List.map_cons, List.append_cons]
      refine ih (fun s q hq => hnext s q (List.mem_cons_of_mem _ hq)) fun j => ?_
      rw [hnext s p List.mem_cons_self j, tally_concat, h j]

end P4xos.Lib
