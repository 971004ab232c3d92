import P4xos.Lib.Wire

/-!
# Byte buffers with fields at fixed positions

What a parser of packed headers reads and what a program that writes into a packet buffer leaves
there. A buffer that came off a wire is a finite string of bytes; the memory around it, which a
program may read past the end of what it received, is a function of the address.

* `slice off k b` are the `k` bytes of `b` from position `off`, `bits w off b` the big-endian field
  of `w` bits there, `leBits w off b` the little-endian one. A field that was read is written back
  byte by byte (`beEncode_bits`), and one that was written is read back (`bits_of_slice`).
* `Memory` is a memory area. A read that a write does not touch is as before
  (`Memory.read_write_of_disjoint`), the written bytes are read back (`Memory.read_write_self`).
* Two memories agree on a set of addresses (`Set.EqOn`): a write extends it (`Memory.eqOn_write`), a
  read depends on its addresses only (`Memory.read_eq_read_iff`).
* What is computed from a memory is `Memory.DeterminedBy` the bytes in a set if all that it shows
  are bytes of the set (`Memory.determinedBy_iff_subset`). This is how it is said that a program
  does not look behind the end of a packet: its result is determined by the bytes of the packet.

Addresses are natural numbers and an area has no end, so a read past the end of an allocation is a
read of bytes about which nothing is known, not an error.
-/

namespace P4xos.Lib

/-! ## Reading -/

/-- The `k` bytes from position `off`, fewer at the end of the buffer. -/
def slice (off k : ℕ) (b : Bytes) : Bytes := (b.drop off).take k

/-- The field of `w` bits at byte position `off`, most significant byte first. -/
def bits (w off : ℕ) (b : Bytes) : BitVec w := BitVec.ofNat w (beDecode (slice off (w / 8) b))

/-- The field of `w` bits at byte position `off`, least significant byte first. -/
def leBits (w off : ℕ) (b : Bytes) : BitVec w :=
  BitVec.ofNat w (beDecode (slice off (w / 8) b).reverse)

/-- A slice inside the buffer has the length that was asked for. -/
lemma length_slice {off k : ℕ} {b : Bytes} (h : off + k ≤ b.length) :
    (slice off k b).length = k := by
  simp only [slice, List.length_take, List.length_drop]
  omega

/-- Positions behind the bytes that were dropped, counted in the whole buffer. -/
@[simp] lemma slice_drop (off k n : ℕ) (b : Bytes) : slice off k (b.drop n) = slice (n + off) k b := by
  rw [slice, List.drop_drop, slice]

/-- A field behind the bytes that were dropped is the one at its position in the whole buffer. -/
@[simp] lemma bits_drop (w off n : ℕ) (b : Bytes) : bits w off (b.drop n) = bits w (n + off) b := by
  rw [bits, slice_drop, bits]

/-- A slice that ends in the first part does not see the second. -/
lemma slice_append_left {off k : ℕ} {l : Bytes} (h : off + k ≤ l.length) (r : Bytes) :
    slice off k (l ++ r) = slice off k l := by
  have hoff : off ≤ l.length := by omega
  have hk : k ≤ (l.drop off).length := by
    rw [List.length_drop]
    omega
  rw [slice, List.drop_append_of_le_length hoff, List.take_append_of_le_length hk, slice]

/-- A slice that starts in the second part does not see the first. -/
lemma slice_append_right {off : ℕ} {l : Bytes} (h : l.length ≤ off) (k : ℕ) (r : Bytes) :
    slice off k (l ++ r) = slice (off - l.length) k r := by
  rw [slice, List.drop_append, List.drop_eq_nil_of_le h, List.nil_append, slice]

/-- The slice that is the whole buffer. -/
lemma slice_all {k : ℕ} {l : Bytes} (h : l.length = k) : slice 0 k l = l := by
  rw [slice, List.drop_zero, List.take_of_length_le h.le]

/-- A slice of the first part of a buffer. -/
lemma slice_take {off k n : ℕ} (h : off + k ≤ n) (b : Bytes) :
    slice off k (b.take n) = slice off k b := by
  have hk : min k (n - off) = k := by omega
  rw [slice, List.drop_take, List.take_take, hk, slice]

/-- A field in the first part of a buffer. -/
lemma bits_take {w off n : ℕ} (h : off + w / 8 ≤ n) (b : Bytes) :
    bits w off (b.take n) = bits w off b := by
  rw [bits, slice_take h, bits]

/-- Two slices, one behind the other. -/
lemma slice_append_slice (off k n : ℕ) (b : Bytes) :
    slice off k b ++ slice (off + k) n b = slice off (k + n) b := by
  rw [slice, slice, slice, ← List.drop_drop, List.take_add]

/-- What follows a slice. -/
lemma slice_append_drop (k : ℕ) (b : Bytes) : slice 0 k b ++ b.drop k = b := by
  rw [slice, List.drop_zero, List.take_append_drop]

/-- A field that was read is written back. -/
lemma beEncode_bits {w n off : ℕ} {b : Bytes} (hw : w = 8 * n) (h : off + n ≤ b.length) :
    beEncode n (bits w off b).toNat = slice off n b := by
  have hn : w / 8 = n := by omega
  rw [bits, hn, beEncode_toNat_ofNat_beDecode hw (length_slice h)]

/-- A field that was written is read back. -/
lemma bits_of_slice {w n off : ℕ} {b : Bytes} (hw : w = 8 * n) {x : BitVec w}
    (h : slice off n b = beEncode n x.toNat) : bits w off b = x := by
  have hn : w / 8 = n := by omega
  rw [bits, hn, h, ofNat_beDecode_beEncode hw]

/-! ## Integers -/

/-- A sum that does not wrap around. -/
lemma toNat_add_ofNat {w k : ℕ} {x : BitVec w} (h : x.toNat + k < 2 ^ w) :
    (x + BitVec.ofNat w k).toNat = x.toNat + k := by
  have hk : k < 2 ^ w := by omega
  rw [BitVec.toNat_add, BitVec.toNat_ofNat, Nat.mod_eq_of_lt hk, Nat.mod_eq_of_lt h]

/-- A length that is not negative as an `int` is itself as a `size_t`. -/
lemma toNat_signExtend {y : BitVec 32} (h : y.toNat < 2 ^ 31) :
    (y.signExtend 64).toNat = y.toNat := by
  have hmsb : y.msb = false := by
    rw [BitVec.msb_eq_false_iff_two_mul_lt]
    omega
  rw [BitVec.signExtend_eq_setWidth_of_msb_false hmsb, BitVec.toNat_setWidth_of_le (by decide)]

/-! ## Memory -/

/-- A memory area, byte by byte from its start. Nothing is said of the end of the area: what lies
behind a packet is whatever the memory holds there. -/
abbrev Memory := ℕ → UInt8

namespace Memory

/-- The `k` bytes from address `off`. -/
def read (off k : ℕ) (m : Memory) : Bytes := (List.range k).map fun j => m (off + j)

/-- The memory after copying `d` to address `off`. The other bytes stay. -/
def write (off : ℕ) (d : Bytes) (m : Memory) : Memory := fun a =>
  if off ≤ a then d.getD (a - off) (m a) else m a

/-- The memory after storing an integer of `w` bits at address `off`, most significant byte first.
-/
def store {w : ℕ} (off : ℕ) (x : BitVec w) (m : Memory) : Memory :=
  m.write off (beEncode (w / 8) x.toNat)

/-- As many bytes are read as were asked for, whatever they are. -/
@[simp] lemma length_read (off k : ℕ) (m : Memory) : (m.read off k).length = k := by
  simp [read]

/-- The bytes that are read, one by one. -/
lemma getElem?_read {off k i : ℕ} (h : i < k) (m : Memory) :
    (m.read off k)[i]? = some (m (off + i)) := by
  simp [read, h]

/-- What was read, without its first bytes. -/
lemma drop_read (o k n : ℕ) (m : Memory) : (m.read o n).drop k = m.read (o + k) (n - k) := by
  apply List.ext_getElem
  · simp only [List.length_drop, length_read]
  · intro j hj hj'
    simp [read, Nat.add_assoc]

/-- A slice of what was read. -/
lemma slice_read {off k n : ℕ} (h : off + k ≤ n) (o : ℕ) (m : Memory) :
    slice off k (m.read o n) = m.read (o + off) k := by
  apply List.ext_getElem
  · simp only [slice, List.length_take, List.length_drop, length_read]
    omega
  · intro j hj hj'
    simp [slice, read, Nat.add_assoc]

/-- A field of what was read. -/
lemma bits_read {w off n : ℕ} (h : off + w / 8 ≤ n) (m : Memory) :
    bits w off (m.read 0 n) = BitVec.ofNat w (beDecode (m.read off (w / 8))) := by
  rw [bits, slice_read h, Nat.zero_add]

/-- A byte that is not written stays. -/
lemma write_of_disjoint {o i : ℕ} {d : Bytes} (h : i < o ∨ o + d.length ≤ i) (m : Memory) :
    m.write o d i = m i := by
  unfold write
  split_ifs with ho
  · have hlen : d.length ≤ i - o := by omega
    simp [List.getD, List.getElem?_eq_none hlen]
  · rfl

/-- A byte that is written, whatever was there before. -/
lemma write_of_mem {o i : ℕ} {d : Bytes} (h : i ∈ Set.Ico o (o + d.length)) (m m' : Memory) :
    m.write o d i = m'.write o d i := by
  obtain ⟨ho, hlt⟩ := h
  have hlen : i - o < d.length := by omega
  simp only [write, if_pos ho, List.getD, List.getElem?_eq_getElem hlen, Option.getD_some]

/-- Bytes that are not written stay. -/
lemma read_write_of_disjoint {off k o : ℕ} {d : Bytes} (h : off + k ≤ o ∨ o + d.length ≤ off)
    (m : Memory) : (m.write o d).read off k = m.read off k := by
  refine List.map_congr_left fun j hj => ?_
  have hj : j < k := List.mem_range.mp hj
  exact write_of_disjoint (by omega) m

/-- **The written bytes are read back.** -/
lemma read_write_self {k : ℕ} {d : Bytes} (h : k ≤ d.length) (o : ℕ) (m : Memory) :
    (m.write o d).read o k = d.take k := by
  apply List.ext_getElem
  · simp [h]
  · intro j hj hj'
    have hk : j < k := by simpa using hj
    have hd : j < d.length := by omega
    simp [read, write, hd]

/-- An integer that is stored elsewhere does not change what is read. -/
lemma read_store_of_disjoint {off k o w : ℕ} (x : BitVec w) (h : off + k ≤ o ∨ o + w / 8 ≤ off)
    (m : Memory) : (m.store o x).read off k = m.read off k := by
  apply read_write_of_disjoint
  rwa [length_beEncode]

/-- The stored integer is read back. -/
lemma read_store_self {w n : ℕ} (hw : w / 8 = n) (o : ℕ) (x : BitVec w) (m : Memory) :
    (m.store o x).read o n = beEncode n x.toNat := by
  rw [store, hw, read_write_self (by simp), List.take_of_length_le (by simp)]

/-! ## Two memories -/

/-- A byte outside the stored integer stays. -/
lemma store_of_disjoint {o i w : ℕ} (x : BitVec w) (h : i < o ∨ o + w / 8 ≤ i) (m : Memory) :
    m.store o x i = m i := by
  apply write_of_disjoint
  rwa [length_beEncode]

/-- A read depends on its addresses only. -/
lemma read_eq_read_iff {m m' : Memory} {o k : ℕ} :
    m.read o k = m'.read o k ↔ Set.EqOn m m' (Set.Ico o (o + k)) := by
  simp only [read, List.map_inj_left, List.mem_range]
  constructor
  · rintro h i ⟨ho, hi⟩
    have hbyte := h (i - o) (by omega)
    rwa [Nat.add_sub_cancel' ho] at hbyte
  · intro h j hj
    apply h
    exact ⟨by omega, by omega⟩

section

variable {s : Set ℕ} {m m' : Memory} (h : Set.EqOn m m' s) (o : ℕ)
include h

/-- **A write keeps an agreement**, and extends it to the bytes that are written. -/
lemma eqOn_write (d : Bytes) :
    Set.EqOn (m.write o d) (m'.write o d) (s ∪ Set.Ico o (o + d.length)) := by
  intro i hi
  by_cases hd : i ∈ Set.Ico o (o + d.length)
  · exact write_of_mem hd m m'
  · have hout : i < o ∨ o + d.length ≤ i := by
      rw [Set.mem_Ico] at hd
      omega
    rw [write_of_disjoint hout, write_of_disjoint hout]
    exact h (hi.resolve_right hd)

/-- Storing the same integer in both memories keeps an agreement, and extends it to its bytes. -/
lemma eqOn_store {w : ℕ} (x : BitVec w) :
    Set.EqOn (m.store o x) (m'.store o x) (s ∪ Set.Ico o (o + w / 8)) := by
  have hwrite := eqOn_write h o (beEncode (w / 8) x.toNat)
  rwa [length_beEncode] at hwrite

end

/-- A field depends on its bytes. -/
lemma ofNat_beDecode_read_eq_iff {m m' : Memory} {w n off : ℕ} (hw : w = 8 * n) :
    BitVec.ofNat w (beDecode (m'.read off n)) = BitVec.ofNat w (beDecode (m.read off n)) ↔
      Set.EqOn m' m (Set.Ico off (off + n)) := by
  rw [← read_eq_read_iff]
  constructor
  · intro h
    have hbytes := congrArg (fun x : BitVec w => beEncode n x.toNat) h
    rwa [beEncode_toNat_ofNat_beDecode hw (length_read ..),
      beEncode_toNat_ofNat_beDecode hw (length_read ..)] at hbytes
  · intro h
    rw [h]

/-- Reads of two lengths. -/
lemma read_eq_read_iff_of_length {m m' : Memory} {o k k' : ℕ} :
    m'.read o k' = m.read o k ↔ k' = k ∧ Set.EqOn m' m (Set.Ico o (o + k)) := by
  constructor
  · intro h
    have hk : k' = k := by
      rw [← length_read o k' m', h, length_read]
    rw [hk, read_eq_read_iff] at h
    exact ⟨hk, h⟩
  · rintro ⟨rfl, h⟩
    exact read_eq_read_iff.mpr h

/-- An interval in two parts. -/
lemma eqOn_Ico_iff {m m' : Memory} {a b c : ℕ} (hab : a ≤ b) (hbc : b ≤ c) :
    Set.EqOn m m' (Set.Ico a c) ↔ Set.EqOn m m' (Set.Ico a b) ∧ Set.EqOn m m' (Set.Ico b c) := by
  rw [← Set.Ico_union_Ico_eq_Ico hab hbc, Set.eqOn_union]

/-- The value at `m` is determined by the bytes in `s`. Memories that differ outside `s` give the
same value. -/
def DeterminedBy {β : Type*} (s : Set ℕ) (f : Memory → β) (m : Memory) : Prop :=
  ∀ m', Set.EqOn m' m s → f m' = f m

/-- The first bytes of one memory, and the others of another. It agrees with the first below `n`,
and has nothing to do with it from there on. -/
def splice (n : ℕ) (m p : Memory) : Memory := fun i => if i < n then m i else p i

/-- The first bytes are those of the first memory. -/
lemma eqOn_splice (n : ℕ) (m p : Memory) : Set.EqOn (splice n m p) m (Set.Iio n) :=
  fun _ hi => if_pos hi

/-- Another byte at one address. Flipping an address that a value shows changes the value. -/
def flip (i : ℕ) (m : Memory) : Memory := Function.update m i (m i + 1)

/-- The byte that is flipped is another one. -/
lemma flip_ne (i : ℕ) (m : Memory) : m.flip i i ≠ m i := by
  rw [flip, Function.update_self, Ne, UInt8.add_eq_left]
  decide

/-- Every other byte stays. -/
lemma eqOn_flip {s : Set ℕ} {i : ℕ} (h : i ∉ s) (m : Memory) : Set.EqOn (m.flip i) m s := by
  intro j hj
  apply Function.update_of_ne
  rintro rfl
  exact h hj

/-- **What a value shows determines it**, and nothing less. -/
lemma determinedBy_iff_subset {β : Type*} {s shown : Set ℕ} {f : Memory → β} {m : Memory}
    (h : ∀ m', f m' = f m ↔ Set.EqOn m' m shown) : DeterminedBy s f m ↔ shown ⊆ s := by
  constructor
  · intro hdet i hi
    by_contra hs
    exact flip_ne i m ((h _).mp (hdet _ (eqOn_flip hs m)) hi)
  · intro hsub m' hm'
    exact (h m').mpr (hm'.mono hsub)

end Memory

end P4xos.Lib
