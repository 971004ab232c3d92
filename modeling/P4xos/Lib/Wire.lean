import Mathlib.Data.List.DropRight
import Mathlib.Tactic

/-!
# Bytes on the wire

Unsigned integers in network byte order, fixed-width character fields, and the string operations
that codecs are written with. Bytes are `List UInt8`: the first element is the first byte sent.

* `beEncode n x` are the `n` big-endian bytes of `x`, `beDecode` reads them back
  (`beDecode_beEncode`, `beEncode_beDecode`).
* `padTo n s` is a fixed-width character field: cut to `n` bytes, filled with zero bytes.
* `rstrip cs s` removes trailing bytes of `cs`. Zero bytes that the field padding added are among
  the bytes removed whenever `0 ∈ cs` (`rstrip_padTo`), which makes encoding what was decoded and
  decoding it again harmless. Padding gives a field back to the byte exactly where what was removed
  were zero bytes (`padTo_rstrip_iff`).
-/

namespace P4xos.Lib

/-- A string of bytes. -/
abbrev Bytes := List UInt8

/-! ## Integers in network byte order -/

/-- The `n` low bytes of `x`, most significant first. -/
def beEncode : ℕ → ℕ → Bytes
  | 0, _ => []
  | n + 1, x => UInt8.ofNat (x / 256 ^ n) :: beEncode n x

/-- The integer a big-endian byte string stands for. -/
def beDecode : Bytes → ℕ
  | [] => 0
  | b :: l => b.toNat * 256 ^ l.length + beDecode l

/-- The width of a field is that of its bytes. -/
@[simp] lemma length_beEncode (n x : ℕ) : (beEncode n x).length = n := by
  induction n with
  | zero => rfl
  | succ n ih => simp [beEncode, ih]

/-- What fits into the bytes of a field is below its size. -/
lemma beDecode_lt (l : Bytes) : beDecode l < 256 ^ l.length := by
  induction l with
  | nil => simp [beDecode]
  | cons b l ih =>
      have hb : b.toNat ≤ 255 := by
        have := b.toNat_lt
        omega
      calc beDecode (b :: l) < b.toNat * 256 ^ l.length + 256 ^ l.length := by
            simpa [beDecode] using ih
        _ = (b.toNat + 1) * 256 ^ l.length := by ring
        _ ≤ 256 * 256 ^ l.length := Nat.mul_le_mul_right _ (by omega)
        _ = 256 ^ (b :: l).length := by rw [List.length_cons, pow_succ, mul_comm]

/-- Reading back what was written gives the integer modulo the field's size. -/
lemma beDecode_beEncode (n x : ℕ) : beDecode (beEncode n x) = x % 256 ^ n := by
  induction n with
  | zero => simp [beEncode, beDecode, Nat.mod_one]
  | succ n ih =>
      have hbyte : (UInt8.ofNat (x / 256 ^ n)).toNat = x / 256 ^ n % 256 := by simp
      rw [beEncode, beDecode, length_beEncode, ih, hbyte, Nat.mod_pow_succ]
      ring

/-- An integer that fits is read back as it is. -/
lemma beDecode_beEncode_of_lt {n x : ℕ} (h : x < 256 ^ n) : beDecode (beEncode n x) = x := by
  rw [beDecode_beEncode, Nat.mod_eq_of_lt h]

/-- A field of `8 n` bits survives its `n` bytes. -/
lemma ofNat_beDecode_beEncode {w n : ℕ} (hw : w = 8 * n) (x : BitVec w) :
    BitVec.ofNat w (beDecode (beEncode n x.toNat)) = x := by
  subst hw
  have hlt : x.toNat < 256 ^ n := by
    have := x.isLt
    rwa [pow_mul] at this
  rw [beDecode_beEncode_of_lt hlt, BitVec.ofNat_toNat, BitVec.setWidth_eq]

/-- High bytes above the field are not written. -/
lemma beEncode_add_mul (n y x : ℕ) : beEncode n (y * 256 ^ n + x) = beEncode n x := by
  induction n generalizing y with
  | zero => rfl
  | succ n ih =>
      have hsplit : y * 256 ^ (n + 1) + x = (y * 256) * 256 ^ n + x := by ring
      have hdiv : ((y * 256) * 256 ^ n + x) / 256 ^ n = y * 256 + x / 256 ^ n := by
        rw [Nat.add_comm, Nat.add_mul_div_right _ _ (by positivity), Nat.add_comm]
      rw [beEncode, beEncode, hsplit, ih, hdiv]
      congr 1
      apply UInt8.toNat.inj
      simp

/-- Writing back what was read gives the bytes. -/
lemma beEncode_beDecode (l : Bytes) : beEncode l.length (beDecode l) = l := by
  induction l with
  | nil => rfl
  | cons b l ih =>
      have hdiv : (b.toNat * 256 ^ l.length + beDecode l) / 256 ^ l.length = b.toNat := by
        rw [Nat.add_comm, Nat.add_mul_div_right _ _ (by positivity),
          Nat.div_eq_of_lt (beDecode_lt l), Nat.zero_add]
      rw [List.length_cons, beEncode, beDecode, hdiv, beEncode_add_mul, ih]
      simp

/-- The bytes of a field of `8 n` bits, read as a bit vector and written back. -/
lemma beEncode_toNat_ofNat_beDecode {w n : ℕ} (hw : w = 8 * n) {b : Bytes} (hb : b.length = n) :
    beEncode n (BitVec.ofNat w (beDecode b)).toNat = b := by
  subst hw hb
  have hlt : beDecode b < 2 ^ (8 * b.length) := by
    rw [pow_mul]
    exact beDecode_lt b
  rw [BitVec.toNat_ofNat, Nat.mod_eq_of_lt hlt, beEncode_beDecode]

/-! ## Fields of a record -/

/-- Splitting a record at the width of its first field. -/
lemma splitAt_append {l r : Bytes} {n : ℕ} (h : l.length = n) : (l ++ r).splitAt n = (l, r) := by
  subst h
  simp [List.splitAt_eq]

/-- A fixed-width character field: cut to `n` bytes, filled up with zero bytes. -/
def padTo (n : ℕ) (s : Bytes) : Bytes := s.take n ++ List.replicate (n - s.length) 0

/-- A field has its width. -/
@[simp] lemma length_padTo (n : ℕ) (s : Bytes) : (padTo n s).length = n := by
  simp only [padTo, List.length_append, List.length_take, List.length_replicate]
  omega

/-- Remove the trailing bytes that are in `cs`. -/
def rstrip (cs s : Bytes) : Bytes := s.rdropWhile fun b => cs.contains b

/-- Stripping does not lengthen. -/
lemma length_rstrip_le (cs s : Bytes) : (rstrip cs s).length ≤ s.length :=
  (List.rdropWhile_prefix _ s).length_le

/-- Stripping twice is stripping once. -/
@[simp] lemma rstrip_rstrip (cs s : Bytes) : rstrip cs (rstrip cs s) = rstrip cs s :=
  List.rdropWhile_idempotent _ s

/-- Zero bytes at the end are stripped with the rest. -/
lemma rstrip_append_zeros {cs : Bytes} (h : (0 : UInt8) ∈ cs) (s : Bytes) (n : ℕ) :
    rstrip cs (s ++ List.replicate n 0) = rstrip cs s := by
  induction n with
  | zero => simp
  | succ n ih =>
      rw [List.replicate_succ', ← List.append_assoc]
      unfold rstrip at ih ⊢
      rw [List.rdropWhile_concat_pos _ _ _ (by simpa using h)]
      exact ih

/-- The padding of a field does not survive stripping. -/
lemma rstrip_padTo {cs : Bytes} (h : (0 : UInt8) ∈ cs) {n : ℕ} {s : Bytes} (hs : s.length ≤ n) :
    rstrip cs (padTo n s) = rstrip cs s := by
  rw [padTo, List.take_of_length_le hs, rstrip_append_zeros h]

/-- Nothing is stripped exactly if the last byte stays. -/
lemma rstrip_eq_self_iff {cs s : Bytes} : rstrip cs s = s ↔ ∀ b ∈ s.getLast?, b ∉ cs := by
  induction s using List.reverseRecOn with
  | nil => simp [rstrip]
  | append_singleton s b _ =>
      unfold rstrip
      rw [List.rdropWhile_eq_self_iff]
      simp

/-- A string is what is left of it without the zero bytes at its end, filled up again. An induction
from the back: a zero at the end is taken off and filled in again. -/
lemma padTo_rstrip_zero (s : Bytes) : padTo s.length (rstrip [0] s) = s := by
  induction s using List.reverseRecOn with
  | nil => rfl
  | append_singleton s b ih =>
      by_cases hb : b = 0
      · subst hb
        have hlen := length_rstrip_le [0] s
        have hstrip : rstrip [0] (s ++ [0]) = rstrip [0] s :=
          rstrip_append_zeros List.mem_cons_self s 1
        have hfill : s.length + 1 - (rstrip [0] s).length =
            s.length - (rstrip [0] s).length + 1 := by omega
        rw [padTo, List.take_of_length_le hlen] at ih
        rw [hstrip, List.length_append, List.length_singleton, padTo,
          List.take_of_length_le (by omega), hfill, List.replicate_succ', ← List.append_assoc, ih]
      · rw [rstrip_eq_self_iff.mpr (by simpa using hb), padTo, List.take_length, Nat.sub_self]
        exact List.append_nil _

/-- **Stripping and filling up again gives the string back** exactly if the last byte before the
zero bytes at the end is not one that is stripped. -/
lemma padTo_rstrip_iff {cs : Bytes} (h : (0 : UInt8) ∈ cs) (s : Bytes) :
    padTo s.length (rstrip cs s) = s ↔ ∀ b ∈ (rstrip [0] s).getLast?, b ∉ cs := by
  have hpad : ∀ t : Bytes, t.length ≤ s.length → padTo s.length t = s →
      ∀ ds : Bytes, (0 : UInt8) ∈ ds → rstrip ds s = rstrip ds t := by
    intro t ht hs ds hds
    rw [padTo, List.take_of_length_le ht] at hs
    rw [← hs, rstrip_append_zeros hds]
  constructor
  · intro hs
    set t := rstrip cs s with ht
    have hstrip := hpad t (length_rstrip_le cs s) hs
    have hkeep : ∀ b ∈ t.getLast?, b ∉ cs := rstrip_eq_self_iff.mp (rstrip_rstrip cs s)
    have hzero : ∀ b ∈ t.getLast?, b ∉ [(0 : UInt8)] := fun b hb hb0 =>
      hkeep b hb (List.mem_singleton.mp hb0 ▸ h)
    rwa [hstrip [0] List.mem_cons_self, rstrip_eq_self_iff.mpr hzero]
  · intro hlast
    have hs := padTo_rstrip_zero s
    rw [hpad _ (length_rstrip_le [0] s) hs cs h, rstrip_eq_self_iff.mpr hlast]
    exact hs

end P4xos.Lib
