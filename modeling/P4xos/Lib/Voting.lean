import Mathlib.Data.Fintype.Card
import Mathlib.Logic.Relation
import Mathlib.Data.Set.Insert
import Mathlib.Tactic.Common

/-!
# Single-decree voting in rounds

The abstract component behind every acceptor/proposer pair: a fixed set of *voters* `α`, values `V`
and rounds `ℕ`. A state records what has been said so far (`proposed`, `promised`, `voted`) and
what each voter remembers (`round`, the highest round it has answered in, and `last`, its latest
vote). A quorum system is any predicate `Q` on finite sets of voters.

* `Step Q r₀` are the three moves. A value may be proposed in the *base round* `r₀` freely, and in
  a later round only if it is `Justified`: a quorum has promised that round, and the value is that
  of a highest vote these promises report, if they report any. One round has one value.
* `Blocked` is what makes the argument go through: a value other than the proposed one can no
  longer be chosen in a lower round, because every member of some quorum has left that round
  without voting for it.
* `agreement`: if any two quorums share a voter, two chosen values are equal, in every reachable
  state.
* `majority_quorums_meet`: sets of more than half the voters are such a system.
* `Represents` relates an implementation to a state of the component, with one rule for each kind
  of step, and `Represents.agreement` for the result.
-/

set_option linter.unusedSectionVars false

namespace P4xos.Lib.Voting

variable {α V : Type*}

/-- What has been said so far, and what each voter remembers. -/
@[ext] structure State (α V : Type*) where
  /-- The highest round the voter has answered in. -/
  round : α → ℕ
  /-- The voter's latest vote. -/
  last : α → Option (ℕ × V)
  /-- The proposals made. -/
  proposed : Set (ℕ × V)
  /-- The promises made: the voter, the round and the latest vote it reported. -/
  promised : Set (α × ℕ × Option (ℕ × V))
  /-- The votes cast. -/
  voted : Set (α × ℕ × V)

/-- Nothing has been said. -/
def State.init : State α V where
  round _ := 0
  last _ := none
  proposed := ∅
  promised := ∅
  voted := ∅

/-- A quorum has promised round `r`, and `v` is the value of a highest vote it reports, if it
reports any: every reported vote is matched by a reported vote for `v` in at least its round. -/
def Justified (Q : Finset α → Prop) (s : State α V) (r : ℕ) (v : V) : Prop :=
  ∃ q, Q q ∧ ∃ report : α → Option (ℕ × V), (∀ a ∈ q, (a, r, report a) ∈ s.promised) ∧
    ∀ a ∈ q, ∀ k w, report a = some (k, w) →
      ∃ b ∈ q, ∃ k', k ≤ k' ∧ report b = some (k', v)

/-- The moves of the component. -/
inductive Step [DecidableEq α] (Q : Finset α → Prop) (r₀ : ℕ) : State α V → State α V → Prop
  | propose (s : State α V) (r : ℕ) (v : V) (hbase : r₀ ≤ r)
      (huniq : ∀ w, (r, w) ∈ s.proposed → w = v) (hjust : r = r₀ ∨ Justified Q s r v) :
      Step Q r₀ s { s with proposed := insert (r, v) s.proposed }
  | promise (s : State α V) (a : α) (r : ℕ) (hround : s.round a ≤ r) :
      Step Q r₀ s { s with
        round := Function.update s.round a r
        promised := insert (a, r, s.last a) s.promised }
  | vote (s : State α V) (a : α) (r : ℕ) (v : V) (hround : s.round a ≤ r)
      (hprop : (r, v) ∈ s.proposed) :
      Step Q r₀ s { s with
        round := Function.update s.round a r
        last := Function.update s.last a (some (r, v))
        voted := insert (a, r, v) s.voted }

/-- The states the component can reach. -/
def Reachable [DecidableEq α] (Q : Finset α → Prop) (r₀ : ℕ) (s : State α V) : Prop :=
  Relation.ReflTransGen (Step Q r₀) State.init s

/-- `v` is chosen in round `r`: a quorum has voted for it there. -/
def Chosen (Q : Finset α → Prop) (s : State α V) (r : ℕ) (v : V) : Prop :=
  ∃ q, Q q ∧ ∀ a ∈ q, (a, r, v) ∈ s.voted

/-- `v` can no longer be chosen in round `r`: every member of some quorum is past the round and
has not voted for `v` in it. -/
def Blocked (Q : Finset α → Prop) (s : State α V) (r : ℕ) (v : V) : Prop :=
  ∃ q, Q q ∧ ∀ a ∈ q, r < s.round a ∧ (a, r, v) ∉ s.voted

/-! ## The invariant -/

/-- The inductive invariant. The first five fields tie what was said to what is remembered; the
last two are about proposals. -/
structure Inv (Q : Finset α → Prop) (r₀ : ℕ) (s : State α V) : Prop where
  /-- A vote is for a proposal, in a round the voter has reached. -/
  voted_sound : ∀ a r v, (a, r, v) ∈ s.voted → (r, v) ∈ s.proposed ∧ r ≤ s.round a
  /-- The latest vote is a vote. -/
  last_voted : ∀ a r v, s.last a = some (r, v) → (a, r, v) ∈ s.voted
  /-- No vote is in a higher round than the latest one. -/
  voted_le_last : ∀ a r v, (a, r, v) ∈ s.voted → ∃ k w, s.last a = some (k, w) ∧ r ≤ k
  /-- A promise is for a round the voter has reached, and reports a vote in no higher round. -/
  promised_sound : ∀ a r rep, (a, r, rep) ∈ s.promised → r ≤ s.round a ∧
    ∀ k w, rep = some (k, w) → (a, k, w) ∈ s.voted
  /-- A promise reports a vote at least as high as every vote below its round. -/
  promised_complete : ∀ a r rep, (a, r, rep) ∈ s.promised → ∀ r' v, r' < r →
    (a, r', v) ∈ s.voted → ∃ k w, rep = some (k, w) ∧ r' ≤ k
  /-- One round has one value. -/
  proposed_unique : ∀ r v w, (r, v) ∈ s.proposed → (r, w) ∈ s.proposed → v = w
  /-- A proposal blocks every other value in every lower round. -/
  proposed_blocks : ∀ r v, (r, v) ∈ s.proposed → ∀ r' w, r₀ ≤ r' → r' < r → w ≠ v →
    Blocked Q s r' w
  /-- Proposals are made from the base round on. -/
  proposed_base : ∀ r v, (r, v) ∈ s.proposed → r₀ ≤ r

/-- The invariant holds at the start, where nothing has been said. -/
lemma inv_init (Q : Finset α → Prop) (r₀ : ℕ) : Inv Q r₀ (State.init : State α V) := by
  constructor <;> simp [State.init]

section steps

variable [DecidableEq α] {Q : Finset α → Prop} {r₀ : ℕ} {s : State α V}

/-- Blocking survives anything that raises rounds and adds no vote in a round already left. -/
lemma Blocked.mono {t : State α V} {r : ℕ} {v : V} (h : Blocked Q s r v)
    (hround : ∀ a, s.round a ≤ t.round a)
    (hvoted : ∀ a, r < s.round a → (a, r, v) ∈ t.voted → (a, r, v) ∈ s.voted) :
    Blocked Q t r v := by
  obtain ⟨q, hq, hall⟩ := h
  refine ⟨q, hq, fun a ha => ?_⟩
  obtain ⟨hlt, hnot⟩ := hall a ha
  exact ⟨lt_of_lt_of_le hlt (hround a), fun hv => hnot (hvoted a hlt hv)⟩

/-- Rounds only grow when one of them is raised. -/
lemma round_le_update {a : α} {r : ℕ} (h : s.round a ≤ r) (b : α) :
    s.round b ≤ Function.update s.round a r b := by
  by_cases hb : b = a
  · subst hb
    simpa using h
  · rw [Function.update_of_ne hb]

/-- A justified proposal blocks every other value below its round. If no member of the promising
quorum voted for `w` in round `r'`, the quorum itself blocks it; otherwise its reports contain a
vote for `v` in some round `k' ≥ r'`, which was proposed before and blocks `w` already. -/
lemma Justified.blocks {r : ℕ} {v : V} (hinv : Inv Q r₀ s) (h : Justified Q s r v) {r' : ℕ} {w : V}
    (hbase : r₀ ≤ r') (hlt : r' < r) (hne : w ≠ v) : Blocked Q s r' w := by
  obtain ⟨q, hq, report, hprom, hpick⟩ := h
  by_cases hany : ∃ a ∈ q, (a, r', w) ∈ s.voted
  · obtain ⟨a, ha, hvoted⟩ := hany
    obtain ⟨k, u, hrep, hk⟩ := hinv.promised_complete a r _ (hprom a ha) r' w hlt hvoted
    obtain ⟨b, hb, k', hkk', hrepb⟩ := hpick a ha k u hrep
    have hvb : (b, k', v) ∈ s.voted := (hinv.promised_sound b r _ (hprom b hb)).2 k' v hrepb
    have hprop : (k', v) ∈ s.proposed := (hinv.voted_sound b k' v hvb).1
    rcases (hk.trans hkk').lt_or_eq with hlt' | heq
    · exact hinv.proposed_blocks k' v hprop r' w hbase hlt' hne
    · subst heq
      exact absurd (hinv.proposed_unique _ _ _ (hinv.voted_sound a _ w hvoted).1 hprop) hne
  · refine ⟨q, hq, fun a ha => ⟨?_, fun hv => hany ⟨a, ha, hv⟩⟩⟩
    exact lt_of_lt_of_le hlt (hinv.promised_sound a r _ (hprom a ha)).1

/-- A proposal keeps the invariant. The new pair is the only one of its round, and `Justified`
blocks the other values of the rounds below. -/
lemma inv_propose (hinv : Inv Q r₀ s) {r : ℕ} {v : V} (hbase : r₀ ≤ r)
    (huniq : ∀ w, (r, w) ∈ s.proposed → w = v) (hjust : r = r₀ ∨ Justified Q s r v) :
    Inv Q r₀ { s with proposed := insert (r, v) s.proposed } where
  voted_sound a r' w h :=
    ⟨Set.mem_insert_of_mem _ (hinv.voted_sound a r' w h).1, (hinv.voted_sound a r' w h).2⟩
  last_voted := hinv.last_voted
  voted_le_last := hinv.voted_le_last
  promised_sound := hinv.promised_sound
  promised_complete := hinv.promised_complete
  proposed_unique r' w u hw hu := by
    simp only [Set.mem_insert_iff, Prod.mk.injEq] at hw hu
    rcases hw with ⟨rfl, rfl⟩ | hw <;> rcases hu with ⟨h₁, rfl⟩ | hu
    · rfl
    · exact (huniq _ hu).symm
    · subst h₁
      exact huniq _ hw
    · exact hinv.proposed_unique r' w u hw hu
  proposed_blocks r₁ v₁ h r' w hr' hlt hne := by
    simp only [Set.mem_insert_iff, Prod.mk.injEq] at h
    rcases h with ⟨rfl, rfl⟩ | h
    · rcases hjust with rfl | hj
      · omega
      · exact hj.blocks hinv hr' hlt hne
    · exact hinv.proposed_blocks r₁ v₁ h r' w hr' hlt hne
  proposed_base r' w h := by
    simp only [Set.mem_insert_iff, Prod.mk.injEq] at h
    rcases h with ⟨rfl, rfl⟩ | h
    · exact hbase
    · exact hinv.proposed_base r' w h

/-- A promise keeps the invariant. The new promise is of the present last vote, and the round only
rises, which keeps the promises and the blocks of before. -/
lemma inv_promise (hinv : Inv Q r₀ s) {a : α} {r : ℕ} (hround : s.round a ≤ r) :
    Inv Q r₀ { s with
      round := Function.update s.round a r
      promised := insert (a, r, s.last a) s.promised } where
  voted_sound b r' w h :=
    ⟨(hinv.voted_sound b r' w h).1, (hinv.voted_sound b r' w h).2.trans (round_le_update hround b)⟩
  last_voted := hinv.last_voted
  voted_le_last := hinv.voted_le_last
  promised_sound b r' rep h := by
    simp only [Set.mem_insert_iff, Prod.mk.injEq] at h
    rcases h with ⟨rfl, rfl, rfl⟩ | h
    · exact ⟨by simp, fun k w hk => hinv.last_voted b k w hk⟩
    · exact ⟨(hinv.promised_sound b r' rep h).1.trans (round_le_update hround b),
        (hinv.promised_sound b r' rep h).2⟩
  promised_complete b r' rep h r₁ w hlt hv := by
    simp only [Set.mem_insert_iff, Prod.mk.injEq] at h
    rcases h with ⟨rfl, rfl, rfl⟩ | h
    · exact hinv.voted_le_last b r₁ w hv
    · exact hinv.promised_complete b r' rep h r₁ w hlt hv
  proposed_unique := hinv.proposed_unique
  proposed_blocks r₁ v₁ h r' w hr' hlt hne :=
    (hinv.proposed_blocks r₁ v₁ h r' w hr' hlt hne).mono (round_le_update hround) fun _ _ hv => hv
  proposed_base := hinv.proposed_base

/-- A vote keeps the invariant: it is cast in a round at least as high as everything the voter
has promised or voted, so it touches neither an earlier report nor a blocked round. -/
lemma inv_vote (hinv : Inv Q r₀ s) {a : α} {r : ℕ} {v : V} (hround : s.round a ≤ r)
    (hprop : (r, v) ∈ s.proposed) :
    Inv Q r₀ { s with
      round := Function.update s.round a r
      last := Function.update s.last a (some (r, v))
      voted := insert (a, r, v) s.voted } where
  voted_sound b r' w h := by
    simp only [Set.mem_insert_iff, Prod.mk.injEq] at h
    rcases h with ⟨rfl, rfl, rfl⟩ | h
    · exact ⟨hprop, by simp⟩
    · exact ⟨(hinv.voted_sound b r' w h).1,
        (hinv.voted_sound b r' w h).2.trans (round_le_update hround b)⟩
  last_voted b r' w h := by
    by_cases hb : b = a
    · subst hb
      simp only [Function.update_self, Option.some.injEq, Prod.mk.injEq] at h
      obtain ⟨rfl, rfl⟩ := h
      exact Set.mem_insert _ _
    · simp only [Function.update_of_ne hb] at h
      exact Set.mem_insert_of_mem _ (hinv.last_voted b r' w h)
  voted_le_last b r' w h := by
    simp only [Set.mem_insert_iff, Prod.mk.injEq] at h
    rcases h with ⟨rfl, rfl, rfl⟩ | h
    · exact ⟨r', w, by simp, le_rfl⟩
    · by_cases hb : b = a
      · subst hb
        exact ⟨r, v, by simp, (hinv.voted_sound b r' w h).2.trans hround⟩
      · simp only [Function.update_of_ne hb]
        exact hinv.voted_le_last b r' w h
  promised_sound b r' rep h := by
    obtain ⟨hle, hrep⟩ := hinv.promised_sound b r' rep h
    exact ⟨hle.trans (round_le_update hround b),
      fun k w hk => Set.mem_insert_of_mem _ (hrep k w hk)⟩
  promised_complete b r' rep h r₁ w hlt hv := by
    simp only [Set.mem_insert_iff, Prod.mk.injEq] at hv
    rcases hv with ⟨rfl, rfl, rfl⟩ | hv
    · have hle := (hinv.promised_sound b r' rep h).1
      omega
    · exact hinv.promised_complete b r' rep h r₁ w hlt hv
  proposed_unique := hinv.proposed_unique
  proposed_blocks r₁ v₁ h r' w hr' hlt hne := by
    refine (hinv.proposed_blocks r₁ v₁ h r' w hr' hlt hne).mono (round_le_update hround) ?_
    intro b hb hv
    simp only [Set.mem_insert_iff, Prod.mk.injEq] at hv
    rcases hv with ⟨rfl, rfl, rfl⟩ | hv
    · omega
    · exact hv
  proposed_base := hinv.proposed_base

/-- Every reachable state satisfies the invariant. -/
theorem Reachable.inv (h : Reachable Q r₀ s) : Inv Q r₀ s := by
  induction h with
  | refl => exact inv_init Q r₀
  | tail _ hstep ih =>
      cases hstep with
      | propose r v hbase huniq hjust => exact inv_propose ih hbase huniq hjust
      | promise a r hround => exact inv_promise ih hround
      | vote a r v hround hprop => exact inv_vote ih hround hprop

end steps

/-! ## Agreement -/

section agreement

variable [DecidableEq α] {Q : Finset α → Prop} {r₀ : ℕ} {s : State α V}

/-- Any two quorums share a voter. -/
def QuorumsMeet (Q : Finset α → Prop) : Prop :=
  ∀ q q', Q q → Q q' → ∃ a ∈ q, a ∈ q'

/-- A blocked value is not chosen. -/
lemma Blocked.not_chosen (hQ : QuorumsMeet Q) {r : ℕ} {v : V} (h : Blocked Q s r v) :
    ¬ Chosen Q s r v := by
  rintro ⟨q, hq, hall⟩
  obtain ⟨q', hq', hall'⟩ := h
  obtain ⟨a, ha, ha'⟩ := hQ q q' hq hq'
  exact (hall' a ha').2 (hall a ha)

/-- A chosen value was proposed in its round. -/
lemma Chosen.proposed (hQ : QuorumsMeet Q) (hinv : Inv Q r₀ s) {r : ℕ} {v : V}
    (h : Chosen Q s r v) : (r, v) ∈ s.proposed := by
  obtain ⟨q, hq, hall⟩ := h
  obtain ⟨a, ha, -⟩ := hQ q q hq hq
  exact (hinv.voted_sound a r v (hall a ha)).1

/-- **Agreement.** With meeting quorums, two chosen values are equal. -/
theorem agreement (hQ : QuorumsMeet Q) (h : Reachable Q r₀ s) {r r' : ℕ} {v v' : V}
    (hv : Chosen Q s r v) (hv' : Chosen Q s r' v') : v = v' := by
  have hinv := h.inv
  have hp := hv.proposed hQ hinv
  have hp' := hv'.proposed hQ hinv
  by_contra hne
  rcases lt_trichotomy r r' with hlt | rfl | hlt
  · exact (hinv.proposed_blocks r' v' hp' r v (hinv.proposed_base r v hp) hlt hne).not_chosen hQ hv
  · exact hne (hinv.proposed_unique r v v' hp hp')
  · exact (hinv.proposed_blocks r v hp r' v' (hinv.proposed_base r' v' hp') hlt
      (Ne.symm hne)).not_chosen hQ hv'

end agreement

/-- Sets of more than half of the voters meet. -/
theorem majority_quorums_meet [Fintype α] [DecidableEq α] :
    QuorumsMeet fun q : Finset α => Fintype.card α < 2 * q.card := by
  intro q q' hq hq'
  obtain ⟨a, ha⟩ := Finset.inter_nonempty_of_card_lt_card_add_card (Finset.subset_univ q)
    (Finset.subset_univ q') (by rw [Finset.card_univ]; omega)
  exact ⟨a, (Finset.mem_inter.mp ha).1, (Finset.mem_inter.mp ha).2⟩

/-! ## Implementations

An implementation keeps the round and the latest vote of each voter somewhere, and says things in
messages. `Represents` relates it to a state of the component; the four rules say what a step of the
implementation has to show, and give the abstract step. What an implementation means to say may get
lost on the way out: a promise or vote it has recorded need not be said. -/

/-- What can be said in a message. -/
inductive Saying (α V : Type*)
  | propose (r : ℕ) (v : V)
  | promise (a : α) (r : ℕ) (report : Option (ℕ × V))
  | vote (a : α) (r : ℕ) (v : V)

/-- What a list of messages says, given what each of them tells. -/
def said {π : Type*} (tells : π → Saying α V → Prop) (net : List π) : Set (Saying α V) :=
  {m | ∃ p ∈ net, tells p m}

section said

variable {π : Type*} {tells : π → Saying α V → Prop} {net net' : List π}

/-- More messages say more. -/
lemma said_mono (h : ∀ p ∈ net, p ∈ net') : said tells net ⊆ said tells net' := by
  rintro m ⟨p, hp, hm⟩
  exact ⟨p, h p hp, hm⟩

/-- New messages that say at most one thing. -/
lemma said_append_subset {m : Saying α V}
    (h : ∀ p ∈ net', p ∈ net ∨ ∀ m', tells p m' → m' = m) :
    said tells (net' ++ net) ⊆ insert m (said tells net) := by
  rintro m' ⟨p, hp, hm'⟩
  rcases List.mem_append.mp hp with hp | hp
  · rcases h p hp with hold | hone
    · exact .inr ⟨p, hold, hm'⟩
    · exact .inl (hone m' hm')
  · exact .inr ⟨p, hp, hm'⟩

/-- New messages that say nothing new. -/
lemma said_append_eq (h : ∀ p ∈ net', p ∈ net ∨ ∀ m, ¬ tells p m) :
    said tells (net' ++ net) = said tells net := by
  refine Set.Subset.antisymm ?_ (said_mono fun p hp => List.mem_append.mpr (.inr hp))
  rintro m ⟨p, hp, hm⟩
  rcases List.mem_append.mp hp with hp | hp
  · rcases h p hp with hold | hno
    · exact ⟨p, hold, hm⟩
    · exact absurd hm (hno m)
  · exact ⟨p, hp, hm⟩

/-- A new message that says one thing. -/
lemma said_cons_eq {p : π} {m : Saying α V} (hm : tells p m) (h : ∀ m', tells p m' → m' = m) :
    said tells (p :: net) = insert m (said tells net) := by
  refine Set.Subset.antisymm ?_ ?_
  · show said tells ([p] ++ net) ⊆ _
    refine said_append_subset fun q hq => ?_
    rw [List.mem_singleton.mp hq]
    exact .inr h
  · rintro m' (rfl | hm')
    · exact ⟨p, List.mem_cons_self, hm⟩
    · exact said_mono (fun q hq => List.mem_cons_of_mem p hq) hm'

end said

/-- The voters' memory and the set of things said so far, as a state of the component. -/
structure Represents (round : α → ℕ) (last : α → Option (ℕ × V)) (said : Set (Saying α V))
    (t : State α V) : Prop where
  round_eq : t.round = round
  last_eq : t.last = last
  proposed : ∀ r v, (r, v) ∈ t.proposed ↔ Saying.propose r v ∈ said
  promised : ∀ a r rep, Saying.promise a r rep ∈ said → (a, r, rep) ∈ t.promised
  voted : ∀ a r v, Saying.vote a r v ∈ said → (a, r, v) ∈ t.voted

/-- An implementation that remembers and says nothing represents the initial state. -/
lemma represents_init {round : α → ℕ} {last : α → Option (ℕ × V)} {said : Set (Saying α V)}
    (hround : ∀ a, round a = 0) (hlast : ∀ a, last a = none) (hsaid : ∀ m, m ∉ said) :
    Represents round last said State.init where
  round_eq := funext fun a => (hround a).symm
  last_eq := funext fun a => (hlast a).symm
  proposed r v := by simp [State.init, hsaid]
  promised a r rep h := absurd h (hsaid _)
  voted a r v h := absurd h (hsaid _)

section implementations

variable [DecidableEq α] {Q : Finset α → Prop} {r₀ : ℕ} {round : α → ℕ}
  {last : α → Option (ℕ × V)} {said said' : Set (Saying α V)} {t : State α V}

/-- A proposal, justified by promises that were said. What the abstract step asks for, that the
value is the only one of its round and that a quorum's reports justify it, is given in terms of what
was said. -/
lemma Represents.propose (h : Represents round last said t) {r : ℕ} {v : V} (hbase : r₀ ≤ r)
    (huniq : ∀ w, Saying.propose r w ∈ said → w = v)
    (hjust : r = r₀ ∨ ∃ q, Q q ∧ ∃ report : α → Option (ℕ × V),
      (∀ a ∈ q, Saying.promise a r (report a) ∈ said) ∧
        ∀ a ∈ q, ∀ k w, report a = some (k, w) → ∃ b ∈ q, ∃ k', k ≤ k' ∧ report b = some (k', v))
    (hsaid : said' = insert (.propose r v) said) :
    ∃ t', (t' = t ∨ Step Q r₀ t t') ∧ Represents round last said' t' := by
  subst hsaid
  refine ⟨_, .inr (.propose t r v hbase (fun w hw => huniq w ((h.proposed r w).mp hw)) ?_),
    h.round_eq, h.last_eq, fun r' w => ?_, fun a r' rep hm => ?_, fun a r' w hm => ?_⟩
  · refine hjust.imp id fun hj => ?_
    obtain ⟨q, hq, report, hprom, hpick⟩ := hj
    exact ⟨q, hq, report, fun a ha => h.promised a r _ (hprom a ha), hpick⟩
  · simp only [Set.mem_insert_iff, Prod.mk.injEq, h.proposed, Saying.propose.injEq]
  · exact h.promised a r' rep (hm.resolve_left (by simp))
  · exact h.voted a r' w (hm.resolve_left (by simp))

/-- A promise, said or not. The abstract component promises in either case: `Represents` asks only
that what was said was done. -/
lemma Represents.promise (Q : Finset α → Prop) (r₀ : ℕ) (h : Represents round last said t)
    {a : α} {r : ℕ} (hround : round a ≤ r) (hsub : said ⊆ said')
    (hsaid : said' ⊆ insert (.promise a r (last a)) said) :
    ∃ t', (t' = t ∨ Step Q r₀ t t') ∧
      Represents (Function.update round a r) last said' t' := by
  obtain ⟨rfl, rfl, hproposed, hpromised, hvoted⟩ := h
  refine ⟨_, .inr (.promise t a r hround), rfl, rfl, fun r' w => ?_, fun b r' rep hm => ?_,
    fun b r' w hm => ?_⟩
  · rw [hproposed]
    exact ⟨fun hm => hsub hm, fun hm => (hsaid hm).resolve_left (by simp)⟩
  · rcases hsaid hm with heq | hold
    · cases heq
      exact .inl rfl
    · exact .inr (hpromised b r' rep hold)
  · exact hvoted b r' w ((hsaid hm).resolve_left (by simp))

/-- A vote, said or not. The abstract component votes in either case, for a value that was proposed.
-/
lemma Represents.vote (Q : Finset α → Prop) (r₀ : ℕ) (h : Represents round last said t)
    {a : α} {r : ℕ} {v : V} (hround : round a ≤ r) (hprop : Saying.propose r v ∈ said)
    (hsub : said ⊆ said')
    (hsaid : said' ⊆ insert (.vote a r v) said) :
    ∃ t', (t' = t ∨ Step Q r₀ t t') ∧
      Represents (Function.update round a r) (Function.update last a (some (r, v))) said' t' := by
  obtain ⟨rfl, rfl, hproposed, hpromised, hvoted⟩ := h
  refine ⟨_, .inr (.vote t a r v hround ((hproposed r v).mpr hprop)), rfl, rfl, fun r' w => ?_,
    fun b r' rep hm => ?_, fun b r' w hm => ?_⟩
  · rw [hproposed]
    exact ⟨fun hm => hsub hm, fun hm => (hsaid hm).resolve_left (by simp)⟩
  · exact hpromised b r' rep ((hsaid hm).resolve_left (by simp))
  · rcases hsaid hm with heq | hold
    · cases heq
      exact .inl rfl
    · exact .inr (hvoted b r' w hold)

/-- Two votes said in one round are for one value. -/
lemma Represents.vote_unique (h : Represents round last said t) (ht : Reachable Q r₀ t) {a b : α}
    {r : ℕ} {v w : V} (hv : Saying.vote a r v ∈ said) (hw : Saying.vote b r w ∈ said) : v = w :=
  ht.inv.proposed_unique r v w (ht.inv.voted_sound a r v (h.voted a r v hv)).1
    (ht.inv.voted_sound b r w (h.voted b r w hw)).1

/-- **Agreement of an implementation.** -/
theorem Represents.agreement (h : Represents round last said t) (ht : Reachable Q r₀ t)
    (hQ : QuorumsMeet Q) {r r' : ℕ} {v v' : V}
    (hv : ∃ q, Q q ∧ ∀ a ∈ q, Saying.vote a r v ∈ said)
    (hv' : ∃ q, Q q ∧ ∀ a ∈ q, Saying.vote a r' v' ∈ said) : v = v' := by
  obtain ⟨q, hq, hall⟩ := hv
  obtain ⟨q', hq', hall'⟩ := hv'
  exact Voting.agreement hQ ht ⟨q, hq, fun a ha => h.voted a r v (hall a ha)⟩
    ⟨q', hq', fun a ha => h.voted a r' v' (hall' a ha)⟩

end implementations

end P4xos.Lib.Voting
