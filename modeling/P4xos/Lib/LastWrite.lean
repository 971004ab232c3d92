import Mathlib.Data.Nat.Notation
import Mathlib.Logic.Function.Basic
import Mathlib.Order.Nat
import Mathlib.Tactic.Common

/-!
# Stores that keep what was written last

Steps `1, 2, …` that each write a value under a key, or write nothing. A store that is read by key
holds, after any number of steps, the value of the last write under the key, and nothing under a key
that was never written. Values of a key do not affect those of another.

* `stored w n k` is what the first `n` steps leave under `k`.
* `stored_eq_some_iff`: it is the value of the last write under `k`, and there is one such write
  (`LastWrite.unique`).
* `stored_eq_none_iff`: there is none if nothing was written under `k`.
-/

namespace P4xos.Lib

variable {K V : Type*} [DecidableEq K]

/-- What the first `n` steps leave. A write replaces what is stored under its key, and keeps what is
stored under the others. -/
def stored (w : ℕ → Option (K × V)) : ℕ → K → Option V
  | 0 => fun _ => none
  | n + 1 =>
      match w (n + 1) with
      | none => stored w n
      | some (k, v) => Function.update (stored w n) k (some v)

variable {w : ℕ → Option (K × V)} {n : ℕ} {k : K} {v : V}

/-- A write is read back. -/
lemma stored_succ_of_write (h : w (n + 1) = some (k, v)) : stored w (n + 1) k = some v := by
  rw [stored, h]
  exact Function.update_self _ _ _

/-- A step that does not write under the key leaves what is stored there. -/
lemma stored_succ_of_not_write (h : ∀ u, w (n + 1) ≠ some (k, u)) :
    stored w (n + 1) k = stored w n k := by
  rw [stored]
  rcases hw : w (n + 1) with _ | ⟨k', u⟩
  · rfl
  · have hne : k ≠ k' := by
      rintro rfl
      exact h u hw
    exact Function.update_of_ne hne _ _

/-- `v` was written under `k`, and nothing was written under `k` after that. -/
def LastWrite (w : ℕ → Option (K × V)) (n : ℕ) (k : K) (v : V) : Prop :=
  ∃ i, 1 ≤ i ∧ i ≤ n ∧ w i = some (k, v) ∧ ∀ j, i < j → j ≤ n → ∀ u, w j ≠ some (k, u)

omit [DecidableEq K] in
/-- The last write is one. -/
lemma LastWrite.unique {v' : V} (h : LastWrite w n k v) (h' : LastWrite w n k v') : v = v' := by
  obtain ⟨i, -, hi, hw, hlast⟩ := h
  obtain ⟨j, -, hj, hw', hlast'⟩ := h'
  rcases Nat.lt_trichotomy i j with hlt | rfl | hlt
  · exact absurd hw' (hlast j hlt hj v')
  · rw [hw] at hw'
    cases hw'
    rfl
  · exact absurd hw (hlast' i hlt hi v)

/-- A store keeps what was written last, and it is empty where nothing was written. An induction on
the writes: the last one is of the key, or leaves what was there. -/
lemma stored_cases (w : ℕ → Option (K × V)) (n : ℕ) (k : K) :
    (∃ v, stored w n k = some v ∧ LastWrite w n k v) ∨
      stored w n k = none ∧ ∀ i, 1 ≤ i → i ≤ n → ∀ u, w i ≠ some (k, u) := by
  induction n with
  | zero => exact .inr ⟨rfl, fun i h1 h0 => absurd (h1.trans h0) (by omega)⟩
  | succ n ih =>
      by_cases hwrite : ∃ v, w (n + 1) = some (k, v)
      · obtain ⟨v, hv⟩ := hwrite
        refine .inl ⟨v, stored_succ_of_write hv, n + 1, Nat.le_add_left 1 n, le_rfl, hv, ?_⟩
        intro j hlt hle
        exact absurd hle (by omega)
      · have hnot : ∀ u, w (n + 1) ≠ some (k, u) := fun u hu => hwrite ⟨u, hu⟩
        rw [stored_succ_of_not_write hnot]
        rcases ih with ⟨v, hv, i, h1, hi, hw, hlast⟩ | ⟨hnone, hall⟩
        · refine .inl ⟨v, hv, i, h1, Nat.le_succ_of_le hi, hw, fun j hij hj => ?_⟩
          rcases hj.eq_or_lt with rfl | hlt
          · exact hnot
          · exact hlast j hij (Nat.le_of_lt_succ hlt)
        · refine .inr ⟨hnone, fun i h1 hi => ?_⟩
          rcases hi.eq_or_lt with rfl | hlt
          · exact hnot
          · exact hall i h1 (Nat.le_of_lt_succ hlt)

/-- **A store keeps what was written last.** -/
theorem stored_eq_some_iff : stored w n k = some v ↔ LastWrite w n k v := by
  rcases stored_cases w n k with ⟨v', hv', hlast⟩ | ⟨hnone, hall⟩
  · rw [hv', Option.some_inj]
    constructor
    · rintro rfl
      exact hlast
    · exact hlast.unique
  · rw [hnone]
    constructor
    · intro h
      cases h
    · rintro ⟨i, h1, hi, hw, -⟩
      exact absurd hw (hall i h1 hi v)

/-- **A store is empty where nothing was written.** -/
theorem stored_eq_none_iff :
    stored w n k = none ↔ ∀ i, 1 ≤ i → i ≤ n → ∀ u, w i ≠ some (k, u) := by
  rcases stored_cases w n k with ⟨v, hv, i, h1, hi, hw, -⟩ | ⟨hnone, hall⟩
  · rw [hv]
    constructor
    · intro h
      cases h
    · intro h
      exact absurd hw (h i h1 hi v)
  · exact iff_of_true hnone hall

end P4xos.Lib
