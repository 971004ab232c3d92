import Mathlib

/-!
# Register arrays

The stateful memory of a packet-processing pipeline: an array of `size` cells of one type, zeroed at
start-up, read and written at an index taken from the packet. An access outside the array is
harmless: a write there is ignored and a read returns zero.

* `read_write_self` and `read_write_of_ne` are the two rules that every proof about a pipeline goes
  by: what is stored under an index of the array is read back there, and is not seen elsewhere.
* `write_eq_self_iff`: a store that changes nothing.

The cells are a function of the index and not a list, so that the size of an array, up to 65536 and
taken from the program, is a number that nothing is computed from.
-/

namespace P4xos.Lib

/-- An array of `size` cells. -/
@[ext] structure Register (α : Type*) (size : ℕ) where
  /-- The content of each cell. -/
  cell : ℕ → α

namespace Register

variable {α : Type*} [Zero α] {size : ℕ}

/-- All cells zero. -/
def zero : Register α size := ⟨fun _ => 0⟩

/-- The cell at an index, zero outside the array. -/
def read (r : Register α size) (i : ℕ) : α := if i < size then r.cell i else 0

/-- Store into the cell at an index; outside the array nothing happens. -/
def write (r : Register α size) (i : ℕ) (x : α) : Register α size :=
  if i < size then ⟨Function.update r.cell i x⟩ else r

/-- A zeroed array reads zero everywhere. -/
@[simp] lemma read_zero (i : ℕ) : (zero : Register α size).read i = 0 := by
  simp [read, zero]

/-- What is stored is read back. -/
@[simp] lemma read_write_self (r : Register α size) {i : ℕ} (h : i < size) (x : α) :
    (r.write i x).read i = x := by
  simp [read, write, h]

/-- A store at another index is not seen. -/
@[simp] lemma read_write_of_ne (r : Register α size) {i j : ℕ} (h : j ≠ i) (x : α) :
    (r.write i x).read j = r.read j := by
  unfold read write
  by_cases hi : i < size
  · simp [hi, Function.update_of_ne h]
  · simp [hi]

/-- Storing changes nothing exactly if the cell holds the value already. -/
lemma write_eq_self_iff (r : Register α size) {i : ℕ} (h : i < size) (x : α) :
    r.write i x = r ↔ r.read i = x := by
  constructor
  · intro hr
    rw [← hr, read_write_self r h]
  · intro hx
    rw [read, if_pos h] at hx
    rw [write, if_pos h, ← hx, Function.update_eq_self]

end Register

end P4xos.Lib
