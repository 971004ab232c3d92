import P4xos.Bluespec.Paxos

/-!
# What `FINISH` means in the Bluespec module

`handle1B` and `handle2B` report `FINISH` when the bit mask of the acceptors counted has two of the
first three bits. The masks are registers of their own: nothing ties them to the ballot, which three
methods raise, and only `handle2B` starts its mask again when it does.

* `Backed` says that every acceptor of a mask has some property; a mask with which `FINISH` is
  reported then has two acceptors with it (`Backed.two`).
* `promised_call` and `voted_call`: as long as no ballot is raised over a mask, and no value other
  than the register's is counted, every acceptor of a mask has sent a message of the current ballot
  (and value). `promised_after` and `voted_after` are the same for whole runs.
* `quorum_sound`: then two acceptors stand behind every `FINISH`. The two parts have conditions of
  their own, `KeepsPromises` and `KeepsVotes`, each on the state before a call and the call.
* `quorum_unsound`: otherwise one may be enough.
* `conflict_unreported`: that a vote is for another value than the register's is never reported,
  since the test on the count comes after the comparison and sets the result again.
-/

namespace P4xos.Bluespec

open P4xos.Lib

/-! ## Masks -/

/-- Every acceptor in the mask satisfies `P`. -/
def Backed (mask : BitVec 16) (P : BitVec 16 → Prop) : Prop :=
  ∀ a ∈ members mask, ∃ acpt : BitVec 16, acpt.toNat = a ∧ P acpt

namespace Backed

variable {mask : BitVec 16} {P Q : BitVec 16 → Prop}

/-- Nobody is in the empty mask. -/
lemma zero : Backed 0 P := by
  intro a ha
  rw [show (0 : BitVec 16) = 0#16 from rfl, members_zero] at ha
  cases ha

/-- A weaker property. -/
lemma mono (h : Backed mask P) (hPQ : ∀ acpt, P acpt → Q acpt) : Backed mask Q := by
  intro a ha
  obtain ⟨acpt, rfl, hP⟩ := h a ha
  exact ⟨acpt, rfl, hPQ acpt hP⟩

/-- The mask of one acceptor; it is empty from 16 on. -/
lemma one {acpt : BitVec 16} (h : P acpt) : Backed ((1 : BitVec 16) <<< acpt) P := by
  intro a ha
  by_cases hacpt : acpt.toNat < 16
  · rw [BitVec.shiftLeft_eq', members_one_shiftLeft hacpt, Finset.mem_singleton] at ha
    exact ⟨acpt, ha.symm, h⟩
  · rw [BitVec.shiftLeft_eq', BitVec.shiftLeft_eq_zero (not_lt.mp hacpt), members_zero] at ha
    cases ha

/-- One more acceptor. -/
lemma or {acpt : BitVec 16} (hacpt : P acpt) (h : Backed mask P) :
    Backed (((1 : BitVec 16) <<< acpt) ||| mask) P := by
  intro a ha
  rw [members_or, Finset.mem_union] at ha
  rcases ha with ha | ha
  · exact one hacpt a ha
  · exact h a ha

/-- A mask with which `FINISH` is reported has two acceptors. -/
lemma two (h : Backed mask P) (hmask : Paxos.quorum mask = .FINISH) : ∃ a b, a ≠ b ∧ P a ∧ P b := by
  have htwo : ∃ a ∈ members mask, ∃ b ∈ members mask, a ≠ b := by
    unfold Paxos.quorum at hmask
    split_ifs at hmask with hcases
    rcases hcases with rfl | rfl | rfl
    · exact ⟨0, by decide, 1, by decide, by decide⟩
    · exact ⟨0, by decide, 2, by decide, by decide⟩
    · exact ⟨1, by decide, 2, by decide, by decide⟩
  obtain ⟨i, hi, j, hj, hne⟩ := htwo
  obtain ⟨a, rfl, ha⟩ := h i hi
  obtain ⟨b, rfl, hb⟩ := h j hj
  exact ⟨a, b, fun hab => hne (congrArg BitVec.toNat hab), ha, hb⟩

end Backed

/-! ## Messages received -/

/-- A `handle1B` message of this ballot has come from the acceptor. -/
def Promised (calls : List Call) (bal acpt : BitVec 16) : Prop :=
  ∃ vbal val, .handle1B bal vbal val acpt ∈ calls

/-- A `handle2B` message of this ballot and value has come from the acceptor. -/
def Voted (calls : List Call) (bal : BitVec 16) (val : BitVec 32) (acpt : BitVec 16) : Prop :=
  .handle2B bal val acpt ∈ calls

/-- A message that has come stays received. -/
lemma Promised.concat {calls : List Call} {bal acpt : BitVec 16} (c : Call)
    (h : Promised calls bal acpt) : Promised (calls ++ [c]) bal acpt := by
  obtain ⟨vbal, val, hmem⟩ := h
  exact ⟨vbal, val, List.mem_append_left _ hmem⟩

/-- So does a vote. -/
lemma Voted.concat {calls : List Call} {bal acpt : BitVec 16} {val : BitVec 32} (c : Call)
    (h : Voted calls bal val acpt) : Voted (calls ++ [c]) bal val acpt := List.mem_append_left _ h

namespace Paxos

/-- When the call `c` of `handle1B` reports `FINISH`, two acceptors have sent promises of the ballot
in the register. -/
def PromisesSound (s₀ : Paxos) (before : List Call) (c : Call) : Prop :=
  let r := (after call s₀ before).call c
  (∃ bal vbal val acpt, c = .handle1B bal vbal val acpt) → r.2 = .FINISH →
    ∃ a b, a ≠ b ∧ Promised (before ++ [c]) r.1.ballot a ∧ Promised (before ++ [c]) r.1.ballot b

/-- When the call `c` of `handle2B` reports `FINISH`, two acceptors have sent votes of the ballot
and the value in the registers. -/
def VotesSound (s₀ : Paxos) (before : List Call) (c : Call) : Prop :=
  let r := (after call s₀ before).call c
  (∃ bal val acpt, c = .handle2B bal val acpt) → r.2 = .FINISH →
    ∃ a b v, a ≠ b ∧ r.1.value = some v ∧
      Voted (before ++ [c]) r.1.ballot v a ∧ Voted (before ++ [c]) r.1.ballot v b

/-! ## Promises -/

/-- The ballot is not raised over promises counted. -/
def KeepsPromises (s : Paxos) (c : Call) : Prop :=
  ∀ bal, c.heard = some bal → s.ballot < bal → s.count1b = 0

/-- Only `handle1B` counts promises. -/
lemma count1b_call {s : Paxos} {c : Call} {bal : BitVec 16} (h : c.heard = some bal) :
    (s.call c).1.count1b = s.count1b := by
  cases c with
  | handle1A bal =>
      simp only [call, handle1A]
      split_ifs <;> rfl
  | handle1B bal vbal val acpt => cases h
  | handle2A bal val =>
      simp only [call, handle2A]
      split_ifs <;> rfl
  | handle2B bal val acpt =>
      simp only [call, handle2B]
      split_ifs <;> rfl

/-- One call keeps the promises counted of the current ballot. A call that raises the ballot finds
the mask empty (`KeepsPromises`), and an empty mask is backed by anything; a `handle1B` of the
current ballot adds the bit of a promise just made; the others leave the mask. -/
lemma promised_call {s : Paxos} {calls : List Call} {c : Call} (hc : s.KeepsPromises c)
    (h : Backed s.count1b (Promised calls s.ballot)) :
    Backed (s.call c).1.count1b (Promised (calls ++ [c]) (s.call c).1.ballot) := by
  cases hheard : c.heard with
  | some bal =>
      have hballot := ballot_call s c
      rw [hheard] at hballot
      rw [count1b_call hheard]
      by_cases hlt : s.ballot < bal
      · rw [hc bal hheard hlt]
        exact Backed.zero
      · have hsame : (s.call c).1.ballot = s.ballot := by
          rw [← BitVec.toNat_inj, hballot]
          exact max_eq_left (not_lt.mp hlt)
        rw [hsame]
        exact h.mono fun acpt => Promised.concat c
  | none =>
      cases c with
      | handle1A bal => cases hheard
      | handle2A bal val => cases hheard
      | handle2B bal val acpt => cases hheard
      | handle1B bal vbal val acpt =>
          have hold := h.mono fun acpt' => Promised.concat (.handle1B bal vbal val acpt)
          simp only [call, handle1B]
          split_ifs with hbal hbit hvbal
          · exact hold.or ⟨vbal, val, by simp [hbal]⟩
          · exact hold.or ⟨vbal, val, by simp [hbal]⟩
          · exact hold
          · exact hold

/-! ## Votes -/

/-- The ballot and the value are not changed over votes counted, and no other value is counted. -/
def KeepsVotes (s : Paxos) : Call → Prop
  | .handle1A bal => s.ballot < bal → s.count2b = 0
  | .handle1B _ _ _ _ => True
  | .handle2A bal val => s.ballot < bal ∨ bal = s.ballot ∧ s.value ≠ some val → s.count2b = 0
  | .handle2B bal val acpt => bal = s.ballot → ((1 : BitVec 16) <<< acpt) &&& s.count2b = 0 →
      s.value = none ∨ s.value = some val

/-- A vote of the register's value, when it has one. -/
def VotedFor (calls : List Call) (bal : BitVec 16) (value : Option (BitVec 32))
    (acpt : BitVec 16) : Prop :=
  ∃ v, value = some v ∧ Voted calls bal v acpt

/-- And a vote for the register's value. -/
lemma VotedFor.concat {calls : List Call} {bal acpt : BitVec 16} {value : Option (BitVec 32)}
    (c : Call) (h : VotedFor calls bal value acpt) : VotedFor (calls ++ [c]) bal value acpt := by
  obtain ⟨v, hv, hvoted⟩ := h
  exact ⟨v, hv, hvoted.concat c⟩

/-- Counting a vote that finds no value, or its own. The votes that were backed before were for this
value too, if there was one. -/
lemma voted_count {s : Paxos} {calls : List Call} {val : BitVec 32} (acpt : BitVec 16)
    (hvalue : s.value = none ∨ s.value = some val)
    (h : Backed s.count2b (VotedFor calls s.ballot s.value)) :
    Backed (((1 : BitVec 16) <<< acpt) ||| s.count2b)
      (VotedFor (calls ++ [.handle2B s.ballot val acpt]) s.ballot (some val)) := by
  have hold : Backed s.count2b
      (VotedFor (calls ++ [.handle2B s.ballot val acpt]) s.ballot (some val)) := by
    refine h.mono fun acpt' => ?_
    rintro ⟨v, hv, hvoted⟩
    rcases hvalue with hnone | hsome
    · rw [hnone] at hv
      cases hv
    · exact ⟨v, hsome.symm.trans hv, hvoted.concat _⟩
  exact hold.or ⟨val, rfl, by simp [Voted]⟩

/-- One call keeps the votes counted of the current ballot and value. By the call: one that changes
the ballot or the value finds the mask empty (`KeepsVotes`); a vote of the current ballot is counted
for the value that is in the register, or that it puts there; and a vote above the ballot starts a
mask with itself. -/
lemma voted_call {s : Paxos} {calls : List Call} {c : Call} (hc : s.KeepsVotes c)
    (h : Backed s.count2b (VotedFor calls s.ballot s.value)) :
    Backed (s.call c).1.count2b
      (VotedFor (calls ++ [c]) (s.call c).1.ballot (s.call c).1.value) := by
  have hold := h.mono fun acpt => VotedFor.concat c
  cases c with
  | handle1A bal =>
      simp only [call, handle1A]
      split_ifs with hle
      · by_cases hlt : s.ballot < bal
        · simp only [hc hlt]
          exact Backed.zero
        · have heq : s.ballot = bal := BitVec.le_antisymm hle (BitVec.not_lt.mp hlt)
          subst heq
          exact hold
      · exact hold
  | handle1B bal vbal val acpt =>
      simp only [call, handle1B]
      split_ifs <;> exact hold
  | handle2A bal val =>
      simp only [call, handle2A]
      split_ifs with hle
      · by_cases hkeep : s.ballot < bal ∨ bal = s.ballot ∧ s.value ≠ some val
        · simp only [hc hkeep]
          exact Backed.zero
        · -- the same ballot and value are written again
          push Not at hkeep
          have heq : s.ballot = bal := BitVec.le_antisymm hle (BitVec.not_lt.mp hkeep.1)
          have hval : s.value = some val := hkeep.2 heq.symm
          subst heq
          rw [hval] at hold
          exact hold
      · exact hold
  | handle2B bal val acpt =>
      simp only [call, handle2B]
      split_ifs with heq hbit hlt
      · subst heq
        have hvalue := hc rfl hbit
        have hcount := voted_count acpt hvalue h
        rcases hvalue with hnone | hsome
        · simpa only [hnone] using hcount
        · simpa only [hsome] using hcount
      · exact hold
      · exact Backed.one ⟨val, rfl, by simp [Voted]⟩
      · exact hold

/-! ## Reports -/

/-- A `handle1B` that reports `FINISH` has counted itself in the mask, in the current ballot. -/
lemma quorum_of_handle1B {s : Paxos} {bal vbal acpt : BitVec 16} {val : BitVec 32}
    (h : (s.call (.handle1B bal vbal val acpt)).2 = .FINISH) :
    quorum (s.call (.handle1B bal vbal val acpt)).1.count1b = .FINISH := by
  revert h
  simp only [call, handle1B]
  split_ifs
  · exact id
  · exact id
  · rintro ⟨⟩
  · rintro ⟨⟩

/-- Likewise a `handle2B`. -/
lemma quorum_of_handle2B {s : Paxos} {bal acpt : BitVec 16} {val : BitVec 32}
    (h : (s.call (.handle2B bal val acpt)).2 = .FINISH) :
    quorum (s.call (.handle2B bal val acpt)).1.count2b = .FINISH := by
  revert h
  simp only [call, handle2B]
  split_ifs
  · exact id
  · rintro ⟨⟩
  · rintro ⟨⟩
  · rintro ⟨⟩

variable (vballot₀ : Option (BitVec 16)) (hval₀ : Option (BitVec 32))

/-- The promises counted after calls that keep them. -/
lemma promised_after (calls : List Call)
    (h : ∀ pre c post, calls = pre ++ c :: post →
      (after call (init vballot₀ hval₀) pre).KeepsPromises c) :
    let s := after call (init vballot₀ hval₀) calls
    Backed s.count1b (Promised calls s.ballot) := by
  apply after_invariant (I := fun calls (s : Paxos) => Backed s.count1b (Promised calls s.ballot))
  · exact Backed.zero
  · intro pre c post hcalls hpre
    exact promised_call (h pre c post hcalls) hpre

/-- The votes counted after calls that keep them. -/
lemma voted_after (calls : List Call)
    (h : ∀ pre c post, calls = pre ++ c :: post →
      (after call (init vballot₀ hval₀) pre).KeepsVotes c) :
    let s := after call (init vballot₀ hval₀) calls
    Backed s.count2b (VotedFor calls s.ballot s.value) := by
  apply after_invariant
    (I := fun calls (s : Paxos) => Backed s.count2b (VotedFor calls s.ballot s.value))
  · exact Backed.zero
  · intro pre c post hcalls hpre
    exact voted_call (h pre c post hcalls) hpre

/-- **Quorum soundness.** As long as no call raises the ballot over promises counted, two acceptors
have promised the ballot when `handle1B` reports `FINISH`; as long as no call changes the ballot or
the value over votes counted, and none of another value is counted, two acceptors have voted for the
ballot and the value when `handle2B` does. -/
theorem quorum_sound (calls : List Call) :
    ((∀ pre c post, calls = pre ++ c :: post →
        (after call (init vballot₀ hval₀) pre).KeepsPromises c) →
      ∀ pre c post, calls = pre ++ c :: post → PromisesSound (init vballot₀ hval₀) pre c) ∧
    ((∀ pre c post, calls = pre ++ c :: post →
        (after call (init vballot₀ hval₀) pre).KeepsVotes c) →
      ∀ pre c post, calls = pre ++ c :: post → VotesSound (init vballot₀ hval₀) pre c) := by
  constructor
  · intro h pre c post hcalls hc hfinish
    obtain ⟨bal, vbal, val, acpt, rfl⟩ := hc
    subst hcalls
    have hpre := promised_after vballot₀ hval₀ pre fun pre' d post' hd =>
      h pre' d (post' ++ .handle1B bal vbal val acpt :: post) (by rw [hd]; simp)
    exact (promised_call (h pre _ post rfl) hpre).two (quorum_of_handle1B hfinish)
  · intro h pre c post hcalls hc hfinish
    obtain ⟨bal, val, acpt, rfl⟩ := hc
    subst hcalls
    have hpre := voted_after vballot₀ hval₀ pre fun pre' d post' hd =>
      h pre' d (post' ++ .handle2B bal val acpt :: post) (by rw [hd]; simp)
    obtain ⟨a, b, hne, ⟨v, hv, ha⟩, ⟨v', hv', hb⟩⟩ :=
      (voted_call (h pre _ post rfl) hpre).two (quorum_of_handle2B hfinish)
    have hvv : v = v' := Option.some_inj.mp (hv.symm.trans hv')
    exact ⟨a, b, v, hne, hv, ha, hvv ▸ hb⟩

/-- Two promises of ballot 0, and two votes for 10 in it. The promises are counted before any other
ballot is heard, and the first vote finds no value, the second its own. -/
theorem quorum_sound_two :
    (((init none none).handle1B 0 0 0 0).1.handle1B 0 0 0 1).2 = .FINISH ∧
    PromisesSound (init none none) [.handle1B 0 0 0 0] (.handle1B 0 0 0 1) ∧
    (((init none none).handle2B 0 10 0).1.handle2B 0 10 1).2 = .FINISH ∧
    VotesSound (init none none) [.handle2B 0 10 0] (.handle2B 0 10 1) := by
  refine ⟨by decide, (quorum_sound none none _).1 ?_ _ _ [] rfl, by decide,
    (quorum_sound none none _).2 ?_ _ _ [] rfl⟩
  · intro pre c post hcalls bal hheard
    have hc : c ∈ [Call.handle1B 0 0 0 0, Call.handle1B 0 0 0 1] := by
      rw [← List.singleton_append, hcalls]
      simp
    rcases List.mem_pair.mp hc with rfl | rfl <;> cases hheard
  · refine forall_split_cons.mpr ⟨fun _ _ => .inl rfl, ?_⟩
    exact forall_split_cons.mpr ⟨fun _ _ => .inr rfl, forall_split_nil⟩

/-- Acceptor 0 promises ballot 0, and acceptor 1 promises ballot 5 after it has been raised; or
acceptor 0 votes for 10, and acceptor 1 for 20. Either way the second message is reported as a
quorum. -/
theorem quorum_unsound :
    ¬ PromisesSound (init none none) [.handle1B 0 0 0 0, .handle1A 5] (.handle1B 5 0 0 1) ∧
    ¬ VotesSound (init none none) [.handle2B 0 10 0] (.handle2B 0 20 1) := by
  constructor
  · intro h
    obtain ⟨a, b, hne, ⟨vbal, val, ha⟩, ⟨vbal', val', hb⟩⟩ := h ⟨5, 0, 0, 1, rfl⟩ (by decide)
    have hballot : ((after call (init none none) [.handle1B 0 0 0 0, .handle1A 5]).call
        (.handle1B 5 0 0 1)).1.ballot = 5 := by decide
    rw [hballot] at ha hb
    simp at ha hb
    exact hne (ha.2.2.trans hb.2.2.symm)
  · intro h
    obtain ⟨a, b, v, hne, hv, ha, hb⟩ := h ⟨0, 20, 1, rfl⟩ (by decide)
    have hvalue : ((after call (init none none) [.handle2B 0 10 0]).call
        (.handle2B 0 20 1)).1.value = some 10 := by decide
    obtain rfl : 10 = v := Option.some_inj.mp (hvalue.symm.trans hv)
    simp [Voted] at ha hb
    exact hne (ha.2.trans hb.2.symm)

/-! ## Conflicting values -/

/-- A vote of the current ballot, of an acceptor not counted, for another value than the register
holds. The source compares the values then. -/
structure Conflicts (s : Paxos) (bal : BitVec 16) (val : BitVec 32) (acpt : BitVec 16) : Prop where
  ballot : bal = s.ballot
  fresh : ((1 : BitVec 16) <<< acpt) &&& s.count2b = 0
  value : ∃ v, s.value = some v ∧ v ≠ val

/-- The two results that the `case` on the count knows. -/
lemma quorum_ne_valueError (cur_count : BitVec 16) : quorum cur_count ≠ .VALUE_ERROR := by
  unfold quorum
  split_ifs <;> decide

/-- No method reports an error. One case per method: what is returned is a fixed state, or that of
the count of votes. -/
lemma call_ne_valueError (s : Paxos) (c : Call) : (s.call c).2 ≠ .VALUE_ERROR := by
  cases c with
  | handle1A bal =>
      simp only [call, handle1A]
      split_ifs <;> intro h <;> cases h
  | handle1B bal vbal val acpt =>
      simp only [call, handle1B]
      split_ifs <;> first | exact quorum_ne_valueError _ | (intro h; cases h)
  | handle2A bal val =>
      simp only [call, handle2A]
      split_ifs <;> intro h <;> cases h
  | handle2B bal val acpt =>
      simp only [call, handle2B]
      split_ifs <;> first | exact quorum_ne_valueError _ | (intro h; cases h)

/-- **A conflict is never reported**: in every state that calls lead to, a vote for another value is
counted, and what is reported is what the count says. -/
theorem conflict_unreported (calls : List Call) {bal : BitVec 16} {val : BitVec 32}
    {acpt : BitVec 16} (h : (after call (init vballot₀ hval₀) calls).Conflicts bal val acpt) :
    let s := after call (init vballot₀ hval₀) calls
    (s.handle2B bal val acpt).2 ≠ .VALUE_ERROR ∧
      (s.handle2B bal val acpt).2 = quorum (((1 : BitVec 16) <<< acpt) ||| s.count2b) := by
  intro s
  refine ⟨call_ne_valueError s (.handle2B bal val acpt), ?_⟩
  rw [handle2B, if_pos h.ballot, if_pos h.fresh]

/-- A vote for 20 after one for 10. -/
theorem conflict_unreported_two :
    (((init none none).handle2B 0 10 0).1.handle2B 0 20 1).2 ≠ .VALUE_ERROR ∧
      (((init none none).handle2B 0 10 0).1.handle2B 0 20 1).2 = quorum 3 :=
  conflict_unreported none none [.handle2B 0 10 0] ⟨rfl, by decide, 10, by decide, by decide⟩

/-- That vote is reported as a quorum. -/
theorem conflict_reported_as_quorum :
    ¬ ∀ (vballot₀ : Option (BitVec 16)) (hval₀ : Option (BitVec 32)) (calls : List Call)
      (bal : BitVec 16) (val : BitVec 32) (acpt : BitVec 16),
      (after call (init vballot₀ hval₀) calls).Conflicts bal val acpt →
        ((after call (init vballot₀ hval₀) calls).handle2B bal val acpt).2 = .VALUE_ERROR := by
  intro h
  have herror := h none none [.handle2B 0 10 0] 0 20 1 ⟨rfl, by decide, 10, by decide, by decide⟩
  revert herror
  decide

end Paxos

end P4xos.Bluespec
