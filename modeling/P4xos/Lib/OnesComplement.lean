import Mathlib.Data.Nat.ModEq
import P4xos.Lib.Wire

/-!
# Ones' complement sums

The sum of `w`-bit words in which the carries are added back in. It stands for the plain sum modulo
`2 ^ w - 1`, where zero, which only words that are all zero have, is told apart from `2 ^ w - 1`.

* `onesSum_eq_iff`: two sums are the same when they are congruent and both or neither are zero.
* `eq_checksum_iff`: the word that a sender puts beside the others, never zero, is the one that
  makes the sum of all of them vanish modulo `2 ^ w - 1`. A receiver tests that.
* `add_modEq_zero_iff`: replacing some words of a sum that vanishes keeps it so exactly when the new
  words have the sum of the old ones. It decides what a rewritten packet does to its checksum.
* `wordSum` is the plain sum of the 16-bit words of a byte string, padded at its end. It is additive
  where the parts have an even number of bytes (`wordSum_append`).

Two rounds of adding the carries are enough for sums below `2 ^ w * 2 ^ w`; the words of a string of
up to 131072 bytes have such a sum (`wordSum_lt`), which is longer than any packet.
-/

namespace P4xos.Lib

variable {w s t : ℕ}

/-- One round of adding the carries of a sum back in. -/
def endAround (w s : ℕ) : ℕ := s % 2 ^ w + s / 2 ^ w

/-- A round keeps the sum modulo `2 ^ w - 1`, since `2 ^ w` is `1` there. -/
lemma endAround_modEq (w s : ℕ) : endAround w s ≡ s [MOD 2 ^ w - 1] := by
  have hone : 2 ^ w ≡ 1 [MOD 2 ^ w - 1] := by
    apply (Nat.modEq_iff_dvd' (Nat.one_le_two_pow)).mpr _ |>.symm
    exact dvd_refl _
  calc endAround w s = s % 2 ^ w + 1 * (s / 2 ^ w) := by rw [endAround, one_mul]
    _ ≡ s % 2 ^ w + 2 ^ w * (s / 2 ^ w) [MOD 2 ^ w - 1] := (hone.symm.mul_right _).add_left _
    _ = s := Nat.mod_add_div s (2 ^ w)

/-- Carries are not lost. -/
lemma endAround_eq_zero_iff : endAround w s = 0 ↔ s = 0 := by
  constructor
  · intro h
    obtain ⟨hmod, hdiv⟩ := Nat.add_eq_zero_iff.mp h
    have hs := Nat.mod_add_div s (2 ^ w)
    rw [hmod, hdiv] at hs
    exact hs.symm
  · rintro rfl
    rw [endAround, Nat.zero_mod, Nat.zero_div]

/-- The ones' complement sum of words whose plain sum is `s`, when these are fewer than `2 ^ w`. -/
def onesSum (w s : ℕ) : ℕ := endAround w (endAround w s)

/-- So do two of them. -/
lemma onesSum_modEq (w s : ℕ) : onesSum w s ≡ s [MOD 2 ^ w - 1] :=
  (endAround_modEq w _).trans (endAround_modEq w s)

/-- A sum of words is zero only if it was zero without carries. -/
lemma onesSum_eq_zero_iff : onesSum w s = 0 ↔ s = 0 :=
  endAround_eq_zero_iff.trans endAround_eq_zero_iff

/-- **After two rounds there is no carry.** The first round leaves less than twice `2 ^ w`, so that
the second one adds a carry of at most one. -/
lemma onesSum_lt (hs : s < 2 ^ w * 2 ^ w) : onesSum w s < 2 ^ w := by
  have hpos : 0 < 2 ^ w := Nat.two_pow_pos w
  have hdiv : s / 2 ^ w < 2 ^ w := Nat.div_lt_of_lt_mul hs
  have hmod : s % 2 ^ w < 2 ^ w := Nat.mod_lt s hpos
  have hround : endAround w s < 2 ^ w + 2 ^ w - 1 := by
    unfold endAround
    omega
  unfold onesSum
  generalize endAround w s = e at hround
  unfold endAround
  by_cases he : e < 2 ^ w
  · rw [Nat.mod_eq_of_lt he, Nat.div_eq_of_lt he]
    exact he
  · -- the second round adds the one carry that the first one may leave
    have hcarry : e / 2 ^ w = 1 := by
      apply Nat.div_eq_of_lt_le <;> omega
    have hrest : e % 2 ^ w = e - 2 ^ w := by
      have := Nat.mod_add_div e (2 ^ w)
      rw [hcarry] at this
      omega
    rw [hcarry, hrest]
    omega

/-- **Equal sums**: congruent, and not zero on one side only. A sum is congruent to what it adds up,
is below `2 ^ w`, and is 0 only for nothing. So two congruent ones that are not 0 lie in one residue
system, that from 1 on. -/
theorem onesSum_eq_iff (hs : s < 2 ^ w * 2 ^ w) (ht : t < 2 ^ w * 2 ^ w) :
    onesSum w s = onesSum w t ↔ s ≡ t [MOD 2 ^ w - 1] ∧ (s = 0 ↔ t = 0) := by
  constructor
  · intro h
    refine ⟨?_, ?_⟩
    · calc s ≡ onesSum w s [MOD 2 ^ w - 1] := (onesSum_modEq w s).symm
        _ = onesSum w t := h
        _ ≡ t [MOD 2 ^ w - 1] := onesSum_modEq w t
    · rw [← onesSum_eq_zero_iff (w := w), h, onesSum_eq_zero_iff]
  · rintro ⟨hmod, hzero⟩
    have hsum : onesSum w s ≡ onesSum w t [MOD 2 ^ w - 1] :=
      ((onesSum_modEq w s).trans hmod).trans (onesSum_modEq w t).symm
    rw [← onesSum_eq_zero_iff (w := w) (s := s), ← onesSum_eq_zero_iff (w := w) (s := t)] at hzero
    have hlts := onesSum_lt hs
    have hltt := onesSum_lt ht
    generalize onesSum w s = a at *
    generalize onesSum w t = b at *
    by_cases ha : a = 0
    · rw [ha, hzero.mp ha]
    · -- both lie between 1 and the modulus
      have hb : b ≠ 0 := fun hb => ha (hzero.mpr hb)
      have hpred : a - 1 ≡ b - 1 [MOD 2 ^ w - 1] := by
        apply Nat.ModEq.add_right_cancel' 1
        rwa [Nat.sub_add_cancel (by omega), Nat.sub_add_cancel (by omega)]
      have := hpred.eq_of_lt_of_lt (by omega) (by omega)
      omega

/-- The word put beside words with the plain sum `s`: the complement of their sum, with all ones
sent in the place of zero. -/
def checksum (w s : ℕ) : BitVec w :=
  let c := ~~~ BitVec.ofNat w (onesSum w s)
  if c = 0 then BitVec.allOnes w else c

/-- The checksum as a number: all ones stand for zero, which is not sent. The complement of the sum
is zero only if the sum is all ones. -/
lemma toNat_checksum (hs : s < 2 ^ w * 2 ^ w) :
    (checksum w s).toNat =
      if onesSum w s = 2 ^ w - 1 then 2 ^ w - 1 else 2 ^ w - 1 - onesSum w s := by
  have hlt := onesSum_lt hs
  have hc : (~~~ BitVec.ofNat w (onesSum w s)).toNat = 2 ^ w - 1 - onesSum w s := by
    rw [BitVec.toNat_not, BitVec.toNat_ofNat, Nat.mod_eq_of_lt hlt]
  have hzero : ~~~ BitVec.ofNat w (onesSum w s) = 0 ↔ onesSum w s = 2 ^ w - 1 := by
    have hnull : (0 : BitVec w).toNat = 0 := BitVec.toNat_zero
    rw [← BitVec.toNat_inj, hc, hnull]
    omega
  unfold checksum
  simp only [hzero]
  split_ifs
  · exact BitVec.toNat_allOnes
  · exact hc

/-- **The receiver's test.** Word and sum together lie between 1 and twice the modulus, so they are
congruent to 0 if they are the modulus or twice the modulus, which are the two cases of the
checksum. -/
theorem eq_checksum_iff {x : BitVec w} (hx : x ≠ 0) (hs : s < 2 ^ w * 2 ^ w) :
    x = checksum w s ↔ x.toNat + s ≡ 0 [MOD 2 ^ w - 1] := by
  have hmod : x.toNat + s ≡ 0 [MOD 2 ^ w - 1] ↔ 2 ^ w - 1 ∣ x.toNat + onesSum w s := by
    rw [← Nat.modEq_zero_iff_dvd]
    have hsum := (onesSum_modEq w s).add_left x.toNat
    exact ⟨hsum.trans, hsum.symm.trans⟩
  have hlt := onesSum_lt hs
  have hword := x.isLt
  have hpos : x.toNat ≠ 0 := fun h => hx (BitVec.eq_of_toNat_eq h)
  rw [hmod, ← BitVec.toNat_inj, toNat_checksum hs]
  constructor
  · intro h
    rw [h]
    split_ifs with hall
    · rw [hall]
      exact Dvd.intro_left 2 (by omega)
    · exact Dvd.intro 1 (by omega)
  · rintro ⟨k, hk⟩
    -- the sum lies between the modulus and twice the modulus
    have hk₁ : k ≠ 0 := by
      rintro rfl
      omega
    have hk₂ : k < 3 := by
      by_contra hk₃
      have : (2 ^ w - 1) * 3 ≤ (2 ^ w - 1) * k := Nat.mul_le_mul_left _ (by omega)
      omega
    obtain rfl | rfl : k = 1 ∨ k = 2 := by omega
    · split_ifs <;> omega
    · split_ifs <;> omega

/-- Changing words of a valid sum keeps it valid when their own sum stays. -/
lemma add_modEq_zero_iff {m c k x y : ℕ} (h : c + (k + x) ≡ 0 [MOD m]) :
    c + (k + y) ≡ 0 [MOD m] ↔ y ≡ x [MOD m] := by
  constructor
  · intro hy
    have hsum : c + (k + y) ≡ c + (k + x) [MOD m] := hy.trans h.symm
    exact (hsum.add_left_cancel' c).add_left_cancel' k
  · intro hy
    exact ((hy.add_left k).add_left c).trans h

/-! ## Words -/

/-- The sum of the big-endian 16-bit words. -/
def wordSum : Bytes → ℕ
  | a :: b :: l => a.toNat * 256 + b.toNat + wordSum l
  | [a] => a.toNat * 256
  | [] => 0

/-- An even number of bytes in front does not shift the words behind. -/
lemma wordSum_append {l : Bytes} (h : Even l.length) (r : Bytes) :
    wordSum (l ++ r) = wordSum l + wordSum r := by
  induction l using wordSum.induct with
  | case1 a b l ih =>
      have hl : Even l.length := by
        rw [List.length_cons, List.length_cons, Nat.add_assoc] at h
        exact (Nat.even_add.mp h).mpr even_two
      rw [List.cons_append, List.cons_append, wordSum, wordSum, ih hl]
      omega
  | case2 a =>
      rw [List.length_singleton] at h
      exact absurd h Nat.not_even_one
  | case3 => rw [List.nil_append, wordSum, Nat.zero_add]

/-- What is cut off at the end does not shift the words in front. -/
lemma wordSum_take_append {l : Bytes} (h : Even l.length) (r : Bytes) (n : ℕ) :
    wordSum ((l ++ r).take n) = wordSum (l.take n) + wordSum (r.take (n - l.length)) := by
  rw [List.take_append]
  by_cases hn : l.length ≤ n
  · rw [List.take_of_length_le hn, wordSum_append h]
  · have hzero : n - l.length = 0 := by omega
    rw [hzero, List.take_zero, List.append_nil, wordSum, Nat.add_zero]

/-- Each word is at most 65535. -/
lemma wordSum_le (l : Bytes) : wordSum l ≤ 65535 * ((l.length + 1) / 2) := by
  induction l using wordSum.induct with
  | case1 a b l ih =>
      have ha := a.toNat_lt
      have hb := b.toNat_lt
      rw [wordSum, List.length_cons, List.length_cons]
      omega
  | case2 a =>
      have ha := a.toNat_lt
      rw [wordSum, List.length_singleton]
      omega
  | case3 => simp [wordSum]

/-- Up to this length two rounds of adding the carries are enough. -/
lemma wordSum_lt {l : Bytes} (h : l.length ≤ 131072) : wordSum l < 2 ^ 16 * 2 ^ 16 := by
  have hle := wordSum_le l
  have hwords : (l.length + 1) / 2 ≤ 65536 := by omega
  calc wordSum l ≤ 65535 * ((l.length + 1) / 2) := hle
    _ ≤ 65535 * 65536 := Nat.mul_le_mul_left _ hwords
    _ < 2 ^ 16 * 2 ^ 16 := by norm_num

end P4xos.Lib
