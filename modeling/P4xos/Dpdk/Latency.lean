import P4xos.Dpdk.Received
import P4xos.Lib.Checked

/-!
# The latency that the packet generator measures

`dpdk/pktgen4learner/main.c`: an answer carries the time of its request, and `compute_latency` adds
what `timespec_diff` finds between that and now. The seconds are borrowed from when the nanoseconds
of the end are fewer, but the sign is taken from the seconds as they were before.

* `timespec_diff_of_le`, `timespec_diff_of_lt`: the result is the exact difference, when it has one,
  without a borrow and with one. With one the difference of the seconds has to be representable too,
  before one second is taken off it.
* `neverNegative_iff`: what is added then is not negative exactly when it can be represented in
  nanoseconds.
* `diffExact_iff`: the difference is exact, with the right sign, unless the end is earlier in the
  same second, or so much earlier or later that a subtraction overflows.
* `timespec_diff_exact_iff`: both together.

Times are of signed 64-bit integers; a signed operation that overflows has no result
(`Lib.Checked`).
-/

namespace P4xos.Dpdk.Pktgen

open P4xos.Lib

/-- Nanoseconds in a second. -/
def NS_PER_S : BitVec 64 := 1000000000

/-- Signed integers of 64 bits. -/
structure Timespec where
  tv_sec : BitVec 64
  tv_nsec : BitVec 64
  deriving DecidableEq

namespace Timespec

/-- The time in nanoseconds. -/
def ns (t : Timespec) : ℤ := t.tv_sec.toInt * 10 ^ 9 + t.tv_nsec.toInt

/-- The nanoseconds are less than a second. -/
def Normalised (t : Timespec) : Prop := 0 ≤ t.tv_nsec.toInt ∧ t.tv_nsec.toInt < 10 ^ 9

/-- Two comparisons. -/
instance (t : Timespec) : Decidable t.Normalised := inferInstanceAs (Decidable (_ ∧ _))

end Timespec

/-- The result, and the return value, unless a signed operation overflows.
Source: `dpdk/pktgen4learner/main.c` `timespec_diff` -/
def timespec_diff (end_ start : Timespec) : Option (Timespec × ℤ) := do
  let result ←
    if end_.tv_nsec.toInt < start.tv_nsec.toInt then do
      let tv_nsec ← Checked.sub (← Checked.add NS_PER_S end_.tv_nsec) start.tv_nsec
      let tv_sec ← Checked.sub (← Checked.sub end_.tv_sec start.tv_sec) 1
      some { tv_sec := tv_sec, tv_nsec := tv_nsec : Timespec }
    else do
      let tv_nsec ← Checked.sub end_.tv_nsec start.tv_nsec
      let tv_sec ← Checked.sub end_.tv_sec start.tv_sec
      some { tv_sec := tv_sec, tv_nsec := tv_nsec : Timespec }
  some (result, if end_.tv_sec.toInt < start.tv_sec.toInt then 1 else 0)

/-- The first field of the command in a packet, in the byte order of the host.
Source: `dpdk/include/message.h` `struct command` -/
def command_ts (pkt : Mbuf) : Timespec where
  tv_sec := BitVec.ofNat 64 (beDecode (pkt.mem.read 42 8).reverse)
  tv_nsec := BitVec.ofNat 64 (beDecode (pkt.mem.read 50 8).reverse)

/-- The nanoseconds that are added to `latency`, if there are any, unless a signed operation
overflows. The sum is a floating-point number.
Source: `dpdk/pktgen4learner/main.c` `compute_latency` -/
def compute_latency (pkt : Mbuf) (end_time : Timespec) : Option (Option (BitVec 64)) :=
  if pkt.field 8 23 ≠ 17 then some none
  else do
    let (result, negative) ← timespec_diff end_time (command_ts pkt)
    if negative < 1 then do
      let ns ← Checked.add (← Checked.mul result.tv_sec NS_PER_S) result.tv_nsec
      some (some ns)
    else some none

/-! ## The difference -/

section

variable {end_ start result : Timespec} {negative : ℤ}

/-- The constant as an integer. -/
lemma toInt_NS_PER_S : NS_PER_S.toInt = 10 ^ 9 := by decide

/-- The integers of 64 bits. -/
lemma representable_iff {v : ℤ} : Representable 64 v ↔ -2 ^ 63 ≤ v ∧ v < 2 ^ 63 := Iff.rfl

/-- Without a borrow. -/
lemma timespec_diff_of_le (h : start.tv_nsec.toInt ≤ end_.tv_nsec.toInt) :
    timespec_diff end_ start = some (result, negative) ↔
      result.tv_sec.toInt = end_.tv_sec.toInt - start.tv_sec.toInt ∧
        result.tv_nsec.toInt = end_.tv_nsec.toInt - start.tv_nsec.toInt ∧
        negative = if end_.tv_sec.toInt < start.tv_sec.toInt then 1 else 0 := by
  have hpos : 0 < 64 := by decide
  simp only [timespec_diff, if_neg (not_lt.mpr h), Option.bind_eq_bind, Option.bind_eq_some_iff,
    Option.some_inj, Prod.mk.injEq, Checked.sub_eq_some_iff hpos]
  constructor
  · rintro ⟨nsec, hnsec, sec, hsec, _, rfl, rfl, hneg⟩
    exact ⟨hsec, hnsec, hneg.symm⟩
  · rintro ⟨hsec, hnsec, hneg⟩
    exact ⟨result.tv_nsec, hnsec, result.tv_sec, hsec, result, rfl, rfl, hneg.symm⟩

/-- With a borrow, which is taken from a difference that must itself be representable. The sum with
a second's nanoseconds is always representable; that the seconds less the borrowed one are is said
by `result`. -/
lemma timespec_diff_of_lt (hend : end_.Normalised) (h : end_.tv_nsec.toInt < start.tv_nsec.toInt) :
    timespec_diff end_ start = some (result, negative) ↔
      Representable 64 (end_.tv_sec.toInt - start.tv_sec.toInt) ∧
        result.tv_sec.toInt = end_.tv_sec.toInt - start.tv_sec.toInt - 1 ∧
        result.tv_nsec.toInt = 10 ^ 9 + end_.tv_nsec.toInt - start.tv_nsec.toInt ∧
        negative = if end_.tv_sec.toInt < start.tv_sec.toInt then 1 else 0 := by
  have hpos : 0 < 64 := by decide
  simp only [timespec_diff, if_pos h, Option.bind_eq_bind, Option.bind_eq_some_iff,
    Option.some_inj, Prod.mk.injEq, Checked.sub_eq_some_iff hpos, Checked.add_eq_some_iff hpos,
    toInt_NS_PER_S]
  constructor
  · rintro ⟨sum, hsum, nsec, hnsec, diff, hdiff, sec, hsec, _, rfl, rfl, hneg⟩
    rw [hsum] at hnsec
    rw [hdiff] at hsec
    exact ⟨(exists_toInt_eq_iff hpos).mp ⟨diff, hdiff⟩, hsec, hnsec, hneg.symm⟩
  · rintro ⟨hrange, hsec, hnsec, hneg⟩
    obtain ⟨hnonneg, hlt⟩ := hend
    obtain ⟨sum, hsum⟩ := (exists_toInt_eq_iff hpos (v := 10 ^ 9 + end_.tv_nsec.toInt)).mpr
      (representable_iff.mpr ⟨by omega, by omega⟩)
    obtain ⟨diff, hdiff⟩ := (exists_toInt_eq_iff hpos).mpr hrange
    refine ⟨sum, hsum, result.tv_nsec, ?_, diff, hdiff, result.tv_sec, ?_, result, rfl, rfl,
      hneg.symm⟩
    · rw [hsum, hnsec]
    · rw [hdiff, hsec]
      rfl

/-- What is added for a packet with the time stamp of a command. The seconds are multiplied first,
in 64 bits, and an overflow there or in the sum is undefined; a `negative` of 1 skips both. -/
lemma compute_latency_eq_some_iff {pkt : Mbuf} {added : Option (BitVec 64)}
    (hudp : pkt.field 8 23 = 17)
    (hdiff : timespec_diff end_ (command_ts pkt) = some (result, negative)) :
    compute_latency pkt end_ = some added ↔
      if negative < 1 then ∃ ns, added = some ns ∧
        Representable 64 (result.tv_sec.toInt * 10 ^ 9) ∧ ns.toInt = result.ns
      else added = none := by
  have hpos : 0 < 64 := by decide
  rw [compute_latency, if_neg (not_not.mpr hudp)]
  simp only [hdiff, Option.bind_eq_bind, Option.bind_some]
  split_ifs with hneg
  · simp only [Option.bind_eq_some_iff, Checked.mul_eq_some_iff hpos, Checked.add_eq_some_iff hpos,
      toInt_NS_PER_S, Option.some_inj]
    constructor
    · rintro ⟨prod, hprod, ns, hns, rfl⟩
      rw [hprod] at hns
      exact ⟨ns, rfl, (exists_toInt_eq_iff hpos).mp ⟨prod, hprod⟩, hns⟩
    · rintro ⟨ns, rfl, hrange, hns⟩
      obtain ⟨prod, hprod⟩ := (exists_toInt_eq_iff hpos).mpr hrange
      refine ⟨prod, hprod, ns, ?_, rfl⟩
      rw [hprod, hns, Timespec.ns]
  · rw [Option.some_inj, eq_comm]

end

/-- An integer in the byte order of the host. -/
def leEncode (x : BitVec 64) : Bytes := (beEncode 8 x.toNat).reverse

/-- Eight bytes. -/
lemma length_leEncode (x : BitVec 64) : (leEncode x).length = 8 := by
  rw [leEncode, List.length_reverse, length_beEncode]

/-- An answer with the time stamp of a request. -/
def stamped (ts : Timespec) : Mbuf :=
  { emptyMbuf with
    mem := ((emptyMbuf.mem.store 23 (17 : BitVec 8)).write 42 (leEncode ts.tv_sec)).write 50
      (leEncode ts.tv_nsec) }

/-- Every time can be in a packet. The time is written in the byte order in which it is read. -/
lemma command_ts_stamped (ts : Timespec) :
    (stamped ts).field 8 23 = 17 ∧ command_ts (stamped ts) = ts := by
  have hread : ∀ x : BitVec 64, BitVec.ofNat 64 (beDecode (leEncode x).reverse) = x := by
    intro x
    rw [leEncode, List.reverse_reverse]
    exact ofNat_beDecode_beEncode (n := 8) rfl x
  have hsec : (stamped ts).mem.read 42 8 = leEncode ts.tv_sec := by
    rw [stamped, Memory.read_write_of_disjoint (.inl (by omega)),
      Memory.read_write_self (length_leEncode _).ge, ← length_leEncode ts.tv_sec, List.take_length]
  have hnsec : (stamped ts).mem.read 50 8 = leEncode ts.tv_nsec := by
    rw [stamped, Memory.read_write_self (length_leEncode _).ge, ← length_leEncode ts.tv_nsec,
      List.take_length]
  constructor
  · apply Mbuf.field_of_read (n := 1) rfl
    rw [stamped, Memory.read_write_of_disjoint (.inl (by omega)),
      Memory.read_write_of_disjoint (.inl (by omega)), Memory.read_store_self (n := 1) rfl]
  · rw [command_ts, hsec, hnsec, hread, hread]

/-! ## When it is right -/

/-- There is a result, it is the difference with the nanoseconds less than a second, and the return
value is 1 if the end is earlier. -/
def DiffExact (end_ start : Timespec) : Prop :=
  ∃ result negative, timespec_diff end_ start = some (result, negative) ∧
    result.ns = end_.ns - start.ns ∧ result.Normalised ∧ (negative = 1 ↔ end_.ns < start.ns)

/-- What is added for a packet with the start as its time is not negative. -/
def NeverNegative (end_time start : Timespec) : Prop :=
  ∀ pkt, command_ts pkt = start →
    ∃ added, compute_latency pkt end_time = some added ∧ ∀ ns ∈ added, 0 ≤ ns.toInt

section

variable {end_ start : Timespec} (hend : end_.Normalised) (hstart : start.Normalised)

/-- The return value is 0 or 1. -/
lemma timespec_diff_negative {result : Timespec} {negative : ℤ}
    (h : timespec_diff end_ start = some (result, negative)) (hend : end_.Normalised) :
    negative = if end_.tv_sec.toInt < start.tv_sec.toInt then 1 else 0 := by
  by_cases hlt : end_.tv_nsec.toInt < start.tv_nsec.toInt
  · exact ((timespec_diff_of_lt hend hlt).mp h).2.2.2
  · exact ((timespec_diff_of_le (not_lt.mp hlt)).mp h).2.2

include hend in
/-- **An exact difference is added**, when it can be represented in nanoseconds. A packet with the
time stamp shows that the difference has to fit 63 bits. If it does, what is added is the difference
itself, or nothing when the command is later than `end`. -/
lemma neverNegative_iff (h : DiffExact end_ start) :
    NeverNegative end_ start ↔ end_.ns - start.ns < 2 ^ 63 := by
  obtain ⟨result, negative, hdiff, hns, ⟨hnonneg, hlt⟩, hsign⟩ := h
  have hret := timespec_diff_negative hdiff hend
  constructor
  · intro hnever
    obtain ⟨hudp, hts⟩ := command_ts_stamped start
    obtain ⟨added, hadded, -⟩ := hnever (stamped start) hts
    rw [compute_latency_eq_some_iff hudp (by rw [hts]; exact hdiff)] at hadded
    split_ifs at hadded with hneg
    · obtain ⟨ns, -, -, heq⟩ := hadded
      rw [← hns, ← heq]
      exact ns.toInt_lt
    · have hone : negative = 1 := by
        split_ifs at hret <;> omega
      have hearlier := hsign.mp hone
      omega
  · intro hfits pkt hts
    by_cases hudp : pkt.field 8 23 = 17
    · rw [← hts] at hdiff
      by_cases hneg : negative < 1
      · have hlater : ¬ end_.ns < start.ns := by
          intro hearlier
          rw [hsign.mpr hearlier] at hneg
          exact absurd hneg (lt_irrefl 1)
        obtain ⟨ns, hsample⟩ := (exists_toInt_eq_iff (w := 64) (v := result.ns) (by decide)).mpr
          (representable_iff.mpr ⟨by omega, by omega⟩)
        refine ⟨some ns, (compute_latency_eq_some_iff hudp hdiff).mpr ?_, ?_⟩
        · rw [if_pos hneg]
          refine ⟨ns, rfl, representable_iff.mpr ?_, hsample⟩
          rw [Timespec.ns] at hns
          constructor <;> omega
        · intro ns' hns'
          rw [← Option.some_inj.mp hns', hsample]
          omega
      · refine ⟨none, (compute_latency_eq_some_iff hudp hdiff).mpr ?_, by simp⟩
        rw [if_neg hneg]
    · exact ⟨none, if_pos hudp, by simp⟩

/-- A time with the given fields. -/
lemma exists_timespec {sec : ℤ} (hsec : Representable 64 sec) (nsec : ℤ) (h₀ : 0 ≤ nsec)
    (h₁ : nsec < 10 ^ 9) : ∃ t : Timespec, t.tv_sec.toInt = sec ∧ t.tv_nsec.toInt = nsec := by
  have hpos : 0 < 64 := by decide
  obtain ⟨s, hs⟩ := (exists_toInt_eq_iff hpos).mpr hsec
  obtain ⟨n, hn⟩ := (exists_toInt_eq_iff (w := 64) (v := nsec) hpos).mpr
    (representable_iff.mpr ⟨by omega, by omega⟩)
  exact ⟨⟨s, n⟩, hs, hn⟩

include hend hstart

/-- **The difference is exact and has the right sign** unless a subtraction of seconds overflows, or
the end is earlier in the same second. -/
lemma diffExact_iff :
    DiffExact end_ start ↔
      end_.tv_sec.toInt - start.tv_sec.toInt < 2 ^ 63 ∧
        -2 ^ 63 * 10 ^ 9 ≤ end_.ns - start.ns ∧
        ¬ (end_.tv_sec = start.tv_sec ∧ end_.tv_nsec.toInt < start.tv_nsec.toInt) := by
  obtain ⟨hend₀, hend₁⟩ := id hend
  obtain ⟨hstart₀, hstart₁⟩ := hstart
  rw [← BitVec.toInt_inj, Timespec.ns, Timespec.ns]
  by_cases hborrow : end_.tv_nsec.toInt < start.tv_nsec.toInt
  · constructor
    · rintro ⟨result, negative, hdiff, -, -, hsign⟩
      obtain ⟨hrange, hsec, -, hret⟩ := (timespec_diff_of_lt hend hborrow).mp hdiff
      have hlow := representable_iff.mp (representable_toInt result.tv_sec)
      have hrange' := representable_iff.mp hrange
      refine ⟨hrange'.2, by omega, ?_⟩
      rintro ⟨hsame, -⟩
      -- the seconds do not show that the end is earlier
      rw [if_neg (by omega)] at hret
      have hone := hsign.mpr (by rw [Timespec.ns, Timespec.ns]; omega)
      omega
    · rintro ⟨hhigh, hlow, hsame⟩
      have hne : end_.tv_sec.toInt ≠ start.tv_sec.toInt := fun h => hsame ⟨h, hborrow⟩
      have hrange : Representable 64 (end_.tv_sec.toInt - start.tv_sec.toInt - 1) :=
        representable_iff.mpr ⟨by omega, by omega⟩
      obtain ⟨result, hsec, hnsec⟩ := exists_timespec hrange
        (10 ^ 9 + end_.tv_nsec.toInt - start.tv_nsec.toInt) (by omega) (by omega)
      refine ⟨result, _, (timespec_diff_of_lt hend hborrow).mpr
        ⟨representable_iff.mpr ⟨by omega, hhigh⟩, hsec, hnsec, rfl⟩, ?_, ?_, ?_⟩
      · rw [Timespec.ns, Timespec.ns, Timespec.ns, hsec, hnsec]
        ring
      · exact ⟨by omega, by omega⟩
      · rw [Timespec.ns, Timespec.ns]
        split_ifs <;> omega
  · constructor
    · rintro ⟨result, negative, hdiff, -⟩
      obtain ⟨hsec, -⟩ := (timespec_diff_of_le (not_lt.mp hborrow)).mp hdiff
      have hrange := representable_iff.mp (representable_toInt result.tv_sec)
      rw [hsec] at hrange
      exact ⟨hrange.2, by omega, fun h => hborrow h.2⟩
    · rintro ⟨hhigh, hlow, -⟩
      have hrange : Representable 64 (end_.tv_sec.toInt - start.tv_sec.toInt) :=
        representable_iff.mpr ⟨by omega, hhigh⟩
      obtain ⟨result, hsec, hnsec⟩ := exists_timespec hrange
        (end_.tv_nsec.toInt - start.tv_nsec.toInt) (by omega) (by omega)
      refine ⟨result, _, (timespec_diff_of_le (not_lt.mp hborrow)).mpr ⟨hsec, hnsec, rfl⟩, ?_, ?_, ?_⟩
      · rw [Timespec.ns, Timespec.ns, Timespec.ns, hsec, hnsec]
        ring
      · exact ⟨by omega, by omega⟩
      · rw [Timespec.ns, Timespec.ns]
        split_ifs <;> omega

/-- **The latency is right** exactly when the difference in nanoseconds can be represented, and the
end is not earlier in the same second. Both times are normalised, as the clock gives them. -/
theorem timespec_diff_exact_iff :
    DiffExact end_ start ∧ NeverNegative end_ start ↔
      -2 ^ 63 * 10 ^ 9 ≤ end_.ns - start.ns ∧ end_.ns - start.ns < 2 ^ 63 ∧
        ¬ (end_.tv_sec = start.tv_sec ∧ end_.tv_nsec.toInt < start.tv_nsec.toInt) := by
  constructor
  · rintro ⟨hexact, hnever⟩
    have hfits := (neverNegative_iff hend hexact).mp hnever
    obtain ⟨-, hlow, hsame⟩ := (diffExact_iff hend hstart).mp hexact
    exact ⟨hlow, hfits, hsame⟩
  · rintro ⟨hlow, hfits, hsame⟩
    have hhigh : end_.tv_sec.toInt - start.tv_sec.toInt < 2 ^ 63 := by
      obtain ⟨hend₀, hend₁⟩ := hend
      obtain ⟨hstart₀, hstart₁⟩ := hstart
      rw [Timespec.ns, Timespec.ns] at hfits
      omega
    have hexact := (diffExact_iff hend hstart).mpr ⟨hhigh, hlow, hsame⟩
    exact ⟨hexact, (neverNegative_iff hend hexact).mpr hfits⟩

end

/-- From 1.9 s to 5.2 s. -/
theorem timespec_diff_borrow :
    (Timespec.mk 5 200000000).Normalised ∧ (Timespec.mk 1 900000000).Normalised ∧
    (DiffExact ⟨5, 200000000⟩ ⟨1, 900000000⟩ ∧ NeverNegative ⟨5, 200000000⟩ ⟨1, 900000000⟩ ↔
      -2 ^ 63 * 10 ^ 9 ≤ (Timespec.mk 5 200000000).ns - (Timespec.mk 1 900000000).ns ∧
        (Timespec.mk 5 200000000).ns - (Timespec.mk 1 900000000).ns < 2 ^ 63 ∧
        ¬ ((5 : BitVec 64) = 1 ∧ (200000000 : BitVec 64).toInt < (900000000 : BitVec 64).toInt)) :=
  ⟨by decide, by decide, timespec_diff_exact_iff (by decide) (by decide)⟩

example : timespec_diff ⟨5, 200000000⟩ ⟨1, 900000000⟩ = some (⟨3, 300000000⟩, 0) := by decide

/-- The end is a nanosecond earlier: the return value is 0, and -1 is added. The function compares
the seconds only, which are equal here. -/
theorem negative_latency :
    ¬ ∀ end_ start : Timespec, end_.Normalised → start.Normalised →
      DiffExact end_ start ∧ NeverNegative end_ start := by
  intro h
  obtain ⟨-, hnever⟩ := h ⟨5, 0⟩ ⟨5, 1⟩ (by decide) (by decide)
  obtain ⟨hudp, hts⟩ := command_ts_stamped ⟨5, 1⟩
  obtain ⟨added, hadded, hnonneg⟩ := hnever (stamped ⟨5, 1⟩) hts
  have hdiff : timespec_diff ⟨5, 0⟩ (command_ts (stamped ⟨5, 1⟩)) = some (⟨-1, 999999999⟩, 0) := by
    rw [hts]
    decide
  rw [compute_latency_eq_some_iff hudp hdiff, if_pos (by decide)] at hadded
  obtain ⟨ns, rfl, -, hns⟩ := hadded
  have hge := hnonneg ns rfl
  rw [hns] at hge
  exact absurd hge (by decide)

end P4xos.Dpdk.Pktgen
