import P4xos.Lib.Keyed
import P4xos.Lib.Tally

/-!
# The Bluespec module

`mkPaxos` of `bluespec/Paxos.bsv`: an acceptor and a learner for one instance, in one module with
one set of registers. Each method reads the registers as they are before it, writes some, and
reports a `State` through a queue.

* `ballot_call`: the ballot register goes up with `handle1A`, `handle2A` and `handle2B`, under three
  different guards; so it is the highest ballot heard (`ballot_after`).
* `acceptor_call`: what leaves the acceptor's registers alone.
* `ballot_discipline`: `handle2A` accepts exactly the ballots that are not below it, and a call that
  does not meet it leaves the acceptor's registers alone.
* `memory_iff`: `handle2B` writes the acceptor's `value` without its `vballot`, so the last accepted
  pair is kept exactly as long as no vote of a higher ballot brings another value. Which values were
  written in its place is read off the calls (`overwrites`).

`vballot` and `hval` have no reset value, so they are parameters of the initial state, and what is
proved holds for all of them. What is counted in the two bit masks is in `Quorums`.
-/

namespace P4xos.Bluespec

open P4xos.Lib

/-- `PHASE1A` to `PHASE2B` are reported by no method.
Source: `bluespec/Paxos.bsv` `State` -/
inductive State
  | IDLE
  | PHASE1A
  | PHASE1B
  | PHASE2A
  | PHASE2B
  | ACCEPT
  | VALUE_ERROR
  | FINISH
  deriving DecidableEq

/-- The registers that the methods use. `count1b` and `count2b` are bit masks of acceptors.
Source: `bluespec/Paxos.bsv` `mkPaxos` -/
structure Paxos where
  ballot : BitVec 16
  vballot : Option (BitVec 16)
  value : Option (BitVec 32)
  count1b : BitVec 16
  count2b : BitVec 16
  hballot : BitVec 16
  hval : Option (BitVec 32)
  deriving DecidableEq

/-- A call of one of the methods. Each is one atomic action, and calls come one after the other.
Source: `bluespec/Paxos.bsv` `PaxosRequest` -/
inductive Call
  | handle1A (bal : BitVec 16)
  | handle1B (bal vbal : BitVec 16) (val : BitVec 32) (acpt : BitVec 16)
  | handle2A (bal : BitVec 16) (val : BitVec 32)
  | handle2B (bal : BitVec 16) (val : BitVec 32) (acpt : BitVec 16)
  deriving DecidableEq

namespace Paxos

/-- The registers at the start; `vballot` and `hval` have no reset value.
Source: `bluespec/Paxos.bsv` `mkPaxos` -/
def init (vballot : Option (BitVec 16)) (hval : Option (BitVec 32)) : Paxos where
  ballot := 0
  vballot := vballot
  value := none
  count1b := 0
  count2b := 0
  hballot := 0
  hval := hval

/-- Source: `bluespec/Paxos.bsv` `handle1A`; the promise it reads is not sent anywhere -/
def handle1A (s : Paxos) (bal : BitVec 16) : Paxos × State :=
  if s.ballot ≤ bal then ({ s with ballot := bal }, .IDLE) else (s, .IDLE)

/-- The `case` on the count: two of the first three bits. -/
def quorum (cur_count : BitVec 16) : State :=
  if cur_count = 0x03 ∨ cur_count = 0x05 ∨ cur_count = 0x06 then .FINISH else .IDLE

/-- A promise of another ballot, or one that was counted before, changes nothing.
Source: `bluespec/Paxos.bsv` `handle1B` -/
def handle1B (s : Paxos) (bal vbal : BitVec 16) (val : BitVec 32) (acpt : BitVec 16) :
    Paxos × State :=
  if bal = s.ballot then
    if ((1 : BitVec 16) <<< acpt) &&& s.count1b = 0 then
      let cur_count := ((1 : BitVec 16) <<< acpt) ||| s.count1b
      let s := { s with count1b := cur_count }
      let s := if s.hballot ≤ vbal then { s with hballot := vbal, hval := some val } else s
      (s, quorum cur_count)
    else (s, .IDLE)
  else (s, .IDLE)

/-- What was accepted before is replaced, whatever its ballot.
Source: `bluespec/Paxos.bsv` `handle2A` -/
def handle2A (s : Paxos) (bal : BitVec 16) (val : BitVec 32) : Paxos × State :=
  if s.ballot ≤ bal then
    ({ s with ballot := bal, vballot := some bal, value := some val }, .ACCEPT)
  else (s, .IDLE)

/-- The two `case`s both set the result, so nothing is left of what the first one reports.
Source: `bluespec/Paxos.bsv` `handle2B` -/
def handle2B (s : Paxos) (bal : BitVec 16) (val : BitVec 32) (acpt : BitVec 16) : Paxos × State :=
  if bal = s.ballot then
    if ((1 : BitVec 16) <<< acpt) &&& s.count2b = 0 then
      let cur_count := ((1 : BitVec 16) <<< acpt) ||| s.count2b
      -- the register and `ret` after `case (value)`
      let compared : Option (BitVec 32) × State :=
        match s.value with
        | none => (some val, .IDLE)
        | some v => (some v, if v ≠ val then .VALUE_ERROR else .IDLE)
      -- `case (cur_count)` assigns `ret` anew
      ({ s with count2b := cur_count, value := compared.1 }, quorum cur_count)
    else (s, .IDLE)
  else if s.ballot < bal then
    ({ s with ballot := bal, value := some val, count2b := (1 : BitVec 16) <<< acpt }, .IDLE)
  else (s, .IDLE)

/-- The methods with their arguments.
Source: `bluespec/Paxos.bsv` `PaxosRequest` -/
def call (s : Paxos) : Call → Paxos × State
  | .handle1A bal => s.handle1A bal
  | .handle1B bal vbal val acpt => s.handle1B bal vbal val acpt
  | .handle2A bal val => s.handle2A bal val
  | .handle2B bal val acpt => s.handle2B bal val acpt

end Paxos

/-! ## The ballot -/

namespace Call

/-- The ballot passed, whatever the method. -/
def bal : Call → BitVec 16
  | handle1A bal => bal
  | handle1B bal _ _ _ => bal
  | handle2A bal _ => bal
  | handle2B bal _ _ => bal

/-- The ballot passed to one of the methods that may raise the register. -/
def heard : Call → Option (BitVec 16)
  | handle1A bal => some bal
  | handle1B _ _ _ _ => none
  | handle2A bal _ => some bal
  | handle2B bal _ _ => some bal

end Call

/-- The maximum of 0 and the ballots passed to `handle1A`, `handle2A` and `handle2B`. -/
def highest (calls : List Call) : ℕ :=
  (calls.filterMap Call.heard).foldl (fun r bal => max r bal.toNat) 0

/-- A further call that may raise the register counts with its ballot. -/
lemma highest_concat (calls : List Call) (c : Call) :
    highest (calls ++ [c]) =
      match c.heard with
      | none => highest calls
      | some bal => max (highest calls) bal.toNat := by
  cases h : c.heard <;> simp [highest, List.filterMap_append, h]

namespace Paxos

/-- One call: three methods raise the ballot, each under its own guard. `handle1B` hears no ballot.
The others take over a larger one, and with an equal one it does not matter whether they do. -/
lemma ballot_call (s : Paxos) (c : Call) :
    (s.call c).1.ballot.toNat =
      match c.heard with
      | none => s.ballot.toNat
      | some bal => max s.ballot.toNat bal.toNat := by
  cases c with
  | handle1A bal =>
      simp only [call, handle1A, Call.heard, BitVec.le_def]
      split_ifs <;> simp only <;> omega
  | handle1B bal vbal val acpt =>
      simp only [call, handle1B, Call.heard]
      split_ifs <;> rfl
  | handle2A bal val =>
      simp only [call, handle2A, Call.heard, BitVec.le_def]
      split_ifs <;> simp only <;> omega
  | handle2B bal val acpt =>
      simp only [call, handle2B, Call.heard, BitVec.lt_def, ← BitVec.toNat_inj]
      split_ifs <;> simp only <;> omega

variable (vballot₀ : Option (BitVec 16)) (hval₀ : Option (BitVec 32))

/-- **The ballot register** is the highest ballot heard. -/
lemma ballot_after (calls : List Call) :
    (after call (init vballot₀ hval₀) calls).ballot.toNat = highest calls := by
  induction calls using List.reverseRecOn with
  | nil => rfl
  | append_singleton calls c ih =>
      rw [after_concat, ballot_call, highest_concat, ih]

/-- The acceptor's registers. -/
def acceptor (s : Paxos) : BitVec 16 × Option (BitVec 16) × Option (BitVec 32) :=
  (s.ballot, s.vballot, s.value)

/-- A call with a lower ballot, and any call of `handle1B`, leave the acceptor's registers alone.
`handle1B` writes the proposer's registers only, and in the other methods the test of the ballot
fails. -/
lemma acceptor_call {s : Paxos} {c : Call} (h : c.heard = none ∨ c.bal < s.ballot) :
    (s.call c).1.acceptor = s.acceptor := by
  cases c with
  | handle1A bal =>
      have hlt : bal < s.ballot := h.resolve_left (by simp [Call.heard])
      rw [call, handle1A, if_neg (BitVec.not_le.mpr hlt)]
  | handle1B bal vbal val acpt =>
      simp only [call, handle1B]
      split_ifs <;> rfl
  | handle2A bal val =>
      have hlt : bal < s.ballot := h.resolve_left (by simp [Call.heard])
      rw [call, handle2A, if_neg (BitVec.not_le.mpr hlt)]
  | handle2B bal val acpt =>
      have hlt : bal < s.ballot := h.resolve_left (by simp [Call.heard])
      rw [call, handle2B, if_neg (BitVec.ne_of_lt hlt), if_neg (BitVec.lt_asymm hlt)]

/-- What `handle2A` reports. -/
lemma handle2A_accepts_iff (s : Paxos) (bal : BitVec 16) (val : BitVec 32) :
    (s.handle2A bal val).2 = .ACCEPT ↔ s.ballot ≤ bal := by
  unfold handle2A
  split_ifs with h <;> simp [h]

/-- **Ballot discipline**, after any calls: the register is the highest ballot heard, `handle2A`
accepts the ballots that are not below it, and a call that does not meet it changes nothing of the
acceptor. -/
theorem ballot_discipline (calls : List Call) :
    let s := after call (init vballot₀ hval₀) calls
    s.ballot.toNat = highest calls ∧
    (∀ bal val, (s.handle2A bal val).2 = .ACCEPT ↔ highest calls ≤ bal.toNat) ∧
    ∀ c : Call, c.heard = none ∨ c.bal.toNat < highest calls →
      (s.call c).1.ballot = s.ballot ∧ (s.call c).1.vballot = s.vballot ∧
      (s.call c).1.value = s.value := by
  intro s
  have hballot : s.ballot.toNat = highest calls := ballot_after vballot₀ hval₀ calls
  refine ⟨hballot, ?_, ?_⟩
  · intro bal val
    rw [handle2A_accepts_iff, BitVec.le_def, hballot]
  · intro c hc
    have hlow : c.heard = none ∨ c.bal < s.ballot := by
      rw [BitVec.lt_def, hballot]
      exact hc
    simpa only [acceptor, Prod.mk.injEq] using acceptor_call hlow

end Paxos

/-! ## The accepted pair -/

/-- What a call writes to `value` alone, when the ballots heard so far go up to `r`. -/
def Call.overwrites (r : ℕ) : Call → Option (BitVec 32)
  | .handle2B bal val _ => if r < bal.toNat then some val else none
  | _ => none

/-- The values of the votes that are above everything heard before them, in calls that come after
others. -/
def overwrites (before : List Call) : List Call → List (BitVec 32)
  | [] => []
  | c :: calls => (c.overwrites (highest before)).toList ++ overwrites (before ++ [c]) calls

/-- The last call is counted among those that come after all others. -/
lemma overwrites_concat (before calls : List Call) (c : Call) :
    overwrites before (calls ++ [c]) =
      overwrites before calls ++ (c.overwrites (highest (before ++ calls))).toList := by
  induction calls generalizing before with
  | nil => simp [overwrites]
  | cons d calls ih =>
      rw [List.cons_append, overwrites, overwrites, ih, List.append_assoc, List.append_assoc]
      rfl

namespace Paxos

variable (vballot₀ : Option (BitVec 16)) (hval₀ : Option (BitVec 32))

/-- A call that does not accept leaves `vballot`; and it leaves an assigned `value` too, unless it
is a vote above the ballot. A `handle1A` and a `handle1B` write neither register, a `handle2A` that
does not accept neither; what `handle2B` writes to `value` is what `overwrites` names. -/
lemma memory_call {s : Paxos} {c : Call} {v : BitVec 32}
    (hc : ∀ bal val, c = .handle2A bal val → (s.handle2A bal val).2 ≠ .ACCEPT)
    (hv : s.value = some v) :
    (s.call c).1.vballot = s.vballot ∧
    (s.call c).1.value = some ((c.overwrites s.ballot.toNat).getD v) := by
  cases c with
  | handle1A bal =>
      simp only [call, handle1A, Call.overwrites]
      split_ifs <;> exact ⟨rfl, hv⟩
  | handle1B bal vbal val acpt =>
      simp only [call, handle1B, Call.overwrites]
      split_ifs <;> exact ⟨rfl, hv⟩
  | handle2A bal val =>
      have hlow : ¬ s.ballot ≤ bal := (handle2A_accepts_iff s bal val).not.mp (hc bal val rfl)
      rw [call, handle2A, if_neg hlow]
      exact ⟨rfl, hv⟩
  | handle2B bal val acpt =>
      simp only [call, handle2B, Call.overwrites, ← BitVec.lt_def]
      split_ifs with heq _ hlt hlt
      · exact absurd (heq ▸ hlt) (BitVec.lt_irrefl _)
      · simp [hv]
      · exact absurd (heq ▸ hlt) (BitVec.lt_irrefl _)
      · exact ⟨rfl, hv⟩
      · exact ⟨rfl, rfl⟩
      · exact ⟨rfl, hv⟩

/-- After an accepted `handle2A` and calls that accept nothing more, `vballot` is its ballot and
`value` is what was written last: by it, or by a vote above everything heard before. -/
lemma memory_after {pre post : List Call} {bal : BitVec 16} {val : BitVec 32}
    (haccept : ((after call (init vballot₀ hval₀) pre).handle2A bal val).2 = .ACCEPT)
    (hlast : ∀ mid bal' val' rest, post = mid ++ .handle2A bal' val' :: rest →
      ((after call (init vballot₀ hval₀) (pre ++ .handle2A bal val :: mid)).handle2A bal' val').2 ≠
        .ACCEPT) :
    let s := after call (init vballot₀ hval₀) (pre ++ .handle2A bal val :: post)
    s.vballot = some bal ∧
    s.value =
      some ((overwrites (pre ++ [.handle2A bal val]) post).getLast?.getD val) := by
  induction post using List.reverseRecOn with
  | nil =>
      have hle := (handle2A_accepts_iff _ bal val).mp haccept
      rw [after_concat, call, handle2A, if_pos hle]
      exact ⟨rfl, rfl⟩
  | append_singleton post c ih =>
      obtain ⟨hvballot, hvalue⟩ := ih fun mid bal' val' rest hpost =>
        hlast mid bal' val' (rest ++ [c]) (by rw [hpost]; simp)
      have hc : ∀ bal' val', c = .handle2A bal' val' → _ := fun bal' val' hc =>
        hlast post bal' val' [] (by rw [hc])
      obtain ⟨hvballot', hvalue'⟩ := memory_call hc hvalue
      rw [← List.cons_append, ← List.append_assoc, after_concat]
      refine ⟨hvballot'.trans hvballot, hvalue'.trans ?_⟩
      rw [overwrites_concat, ballot_after, List.append_assoc, List.singleton_append]
      cases c.overwrites (highest (pre ++ .handle2A bal val :: post)) <;> simp

/-- **The memory of the last accepted pair** is kept exactly as long as the last vote above
everything heard before it, if there is one, brought the accepted value. -/
theorem memory_iff {pre post : List Call} {bal : BitVec 16} {val : BitVec 32}
    (haccept : ((after call (init vballot₀ hval₀) pre).handle2A bal val).2 = .ACCEPT)
    (hlast : ∀ mid bal' val' rest, post = mid ++ .handle2A bal' val' :: rest →
      ((after call (init vballot₀ hval₀) (pre ++ .handle2A bal val :: mid)).handle2A bal' val').2 ≠
        .ACCEPT) :
    let s := after call (init vballot₀ hval₀) (pre ++ .handle2A bal val :: post)
    (s.vballot, s.value) = (some bal, some val) ↔
      ∀ v, (overwrites (pre ++ [.handle2A bal val]) post).getLast? = some v → v = val := by
  intro s
  obtain ⟨hvballot, hvalue⟩ : s.vballot = _ ∧ s.value = _ :=
    memory_after vballot₀ hval₀ haccept hlast
  rw [hvballot, hvalue, Prod.mk.injEq, Option.some_inj]
  cases (overwrites (pre ++ [.handle2A bal val]) post).getLast? <;> simp

/-- A promise after an accepted `handle2A` alone. The pair is kept. -/
theorem memory_handle1A :
    ((after call (init none none) []).handle2A 1 10).2 = .ACCEPT ∧
    (let s := after call (init none none) ([] ++ .handle2A 1 10 :: [.handle1A 2])
    (s.vballot, s.value) = (some 1, some 10) ↔
      ∀ v, (overwrites ([] ++ [.handle2A 1 10]) [.handle1A 2]).getLast? = some v → v = 10) := by
  refine ⟨by decide, memory_iff none none (by decide) ?_⟩
  rintro mid bal' val' rest hpost
  cases mid with
  | nil => cases hpost
  | cons c mid => cases mid <;> cases hpost

/-- Value 10 is accepted in ballot 1; then a vote for 20 in ballot 2 is heard, and what is kept is
value 20 with ballot 1. -/
theorem memory_overwritten :
    ¬ ∀ (vballot₀ : Option (BitVec 16)) (hval₀ : Option (BitVec 32)) (pre post : List Call)
      (bal : BitVec 16) (val : BitVec 32),
      ((after call (init vballot₀ hval₀) pre).handle2A bal val).2 = .ACCEPT →
      (∀ mid bal' val' rest, post = mid ++ .handle2A bal' val' :: rest →
        ((after call (init vballot₀ hval₀) (pre ++ .handle2A bal val :: mid)).handle2A bal' val').2
          ≠ .ACCEPT) →
      let s := after call (init vballot₀ hval₀) (pre ++ .handle2A bal val :: post)
      (s.vballot, s.value) = (some bal, some val) := by
  intro h
  have hpair := h none none [] [.handle2B 2 20 0] 1 10 (by decide) (by
    rintro mid bal' val' rest hpost
    cases mid with
    | nil => cases hpost
    | cons c mid => cases mid <;> cases hpost)
  revert hpair
  decide

end Paxos

end P4xos.Bluespec
