import Mathlib.Tactic

/-!
# Signed arithmetic that must not overflow

In C a signed operation whose exact result cannot be represented has no defined result at all. An
operation therefore has a result here only if the exact value can be represented, in two's
complement with the given number of bits.

* `Representable w v` are the integers of `w` bits, and the ones that some bit vector stands for
  (`exists_toInt_eq_iff`).
* `checked w v` is the exact value `v`, if it is representable (`checked_eq_some_iff`).
* `Checked.add`, `Checked.sub` and `Checked.mul` are specified by the exact operation, so that a
  computation made of them is defined exactly if each exact intermediate value fits, and its result
  is then the exact one.
-/

namespace P4xos.Lib

/-- The integers of `w` bits in two's complement. -/
def Representable (w : ℕ) (v : ℤ) : Prop := -2 ^ (w - 1) ≤ v ∧ v < 2 ^ (w - 1)

/-- Two comparisons. -/
instance (w : ℕ) (v : ℤ) : Decidable (Representable w v) := inferInstanceAs (Decidable (_ ∧ _))

/-- The exact value, if it is representable. -/
def checked (w : ℕ) (v : ℤ) : Option (BitVec w) :=
  if Representable w v then some (BitVec.ofInt w v) else none

section

variable {w : ℕ}

/-- What a bit vector stands for is representable. -/
lemma representable_toInt (x : BitVec w) : Representable w x.toInt := ⟨x.le_toInt, x.toInt_lt⟩

/-- **A result is exact**, and there is one when there can be. -/
lemma checked_eq_some_iff (hw : 0 < w) {v : ℤ} {z : BitVec w} :
    checked w v = some z ↔ z.toInt = v := by
  unfold checked
  constructor
  · intro h
    split_ifs at h with hv
    rw [← Option.some_inj.mp h]
    exact BitVec.toInt_ofInt_eq_self hw hv.1 hv.2
  · rintro rfl
    rw [if_pos (representable_toInt z), BitVec.ofInt_toInt]

/-- The representable integers are those that some bit vector stands for. -/
lemma exists_toInt_eq_iff (hw : 0 < w) {v : ℤ} :
    (∃ z : BitVec w, z.toInt = v) ↔ Representable w v := by
  constructor
  · rintro ⟨z, rfl⟩
    exact representable_toInt z
  · intro hv
    exact ⟨BitVec.ofInt w v, BitVec.toInt_ofInt_eq_self hw hv.1 hv.2⟩

end

namespace Checked

variable {w : ℕ}

/-- The sum, if it does not overflow. -/
def add (x y : BitVec w) : Option (BitVec w) := checked w (x.toInt + y.toInt)

/-- The difference, if it does not overflow. -/
def sub (x y : BitVec w) : Option (BitVec w) := checked w (x.toInt - y.toInt)

/-- The product, if it does not overflow. -/
def mul (x y : BitVec w) : Option (BitVec w) := checked w (x.toInt * y.toInt)

variable (hw : 0 < w) {x y z : BitVec w}
include hw

/-- There is a sum exactly if the exact one fits, and it is that. -/
lemma add_eq_some_iff : add x y = some z ↔ z.toInt = x.toInt + y.toInt := checked_eq_some_iff hw

/-- There is a difference exactly if the exact one fits, and it is that. -/
lemma sub_eq_some_iff : sub x y = some z ↔ z.toInt = x.toInt - y.toInt := checked_eq_some_iff hw

/-- There is a product exactly if the exact one fits, and it is that. -/
lemma mul_eq_some_iff : mul x y = some z ↔ z.toInt = x.toInt * y.toInt := checked_eq_some_iff hw

end Checked

end P4xos.Lib
