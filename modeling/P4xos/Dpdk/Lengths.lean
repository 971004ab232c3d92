import P4xos.Dpdk.Learner
import P4xos.Dpdk.Proposer

/-!
# Lengths that are received

`dpdk/learner/main.c`, `dpdk/acceptor/main.c`: neither program looks at the length of a frame. They
read the fields of the headers, and as many bytes of a value as the Paxos header says, from the
buffer; `deliver` takes the length of its answer from the value, and not from the length of the
value.

* `message_eq_iff` and `response_eq_iff`: which bytes are read. Two buffers that show the same
  message agree on the bytes up to its end, and on no others.
* `MayBe` says of a frame that is too short for its headers which messages it may be read as, by the
  bytes that lie behind it (`Gets.mayBe`, `MayBe.exists_gets`).
* `Hands.respected_iff`: what is handed to libpaxos depends on the frame alone when no message that
  the frame may be read as ends behind it.
* `lengths_respected_iff` is the condition for the learner, the acceptor, and the answer.
* `handed_eq_read_accepted`: where it holds, what is read from the buffer is what the other modules
  read from the frame.

The value length is signed in the program and becomes a `size_t`, so a negative one is a very large
one.
-/

namespace P4xos.Dpdk

open P4xos.Lib

/-- The packet with other bytes in its buffer. -/
def Received.withMem (x : Received) (mem : Memory) : Received :=
  { x with pkt := { x.pkt with mem := mem } }

/-! ## What is read of a packet -/

/-- The length of the value as a `size_t`. -/
def Mbuf.vsize (m : Mbuf) : ℕ := ((m.field 32 54).signExtend 64).toNat

/-- A field depends on its bytes. -/
lemma Mbuf.field_eq_iff {m m' : Mbuf} {w n off : ℕ} (hw : w = 8 * n) :
    m'.field w off = m.field w off ↔ Set.EqOn m'.mem m.mem (Set.Ico off (off + n)) := by
  have hn : w / 8 = n := by omega
  rw [field, field, hn, Memory.ofNat_beDecode_read_eq_iff hw]

/-- Extending the sign does not identify lengths. -/
lemma signExtend_injective {y y' : BitVec 32}
    (h : (y'.signExtend 64).toNat = (y.signExtend 64).toNat) : y' = y := by
  have hsext := congrArg BitVec.toInt (BitVec.eq_of_toNat_eq h)
  rw [BitVec.toInt_signExtend_of_le (by decide), BitVec.toInt_signExtend_of_le (by decide)] at hsext
  exact BitVec.toInt_inj.mp hsext

/-- The length of a value depends on its four bytes. -/
lemma Mbuf.vsize_eq_iff {m m' : Mbuf} :
    m'.vsize = m.vsize ↔ Set.EqOn m'.mem m.mem (Set.Ico 54 58) := by
  rw [← field_eq_iff (w := 32) (n := 4) rfl]
  constructor
  · exact signExtend_injective
  · intro h
    rw [vsize, vsize, h]

/-- The message of a type: only a prepare has no value. -/
def message (t : PaxosMessageType) (m : Mbuf) : PaxosAccept :=
  if t = .PAXOS_PREPARE then Acceptor.prepare m else Acceptor.accept m

/-- Where it ends. -/
def stop (t : PaxosMessageType) (m : Mbuf) : ℕ := if t = .PAXOS_PREPARE then 54 else 58 + m.vsize

/-- The message without its value depends on the ten bytes of its fields. -/
lemma prepare_eq_iff {m m' : Mbuf} :
    Acceptor.prepare m' = Acceptor.prepare m ↔ Set.EqOn m'.mem m.mem (Set.Ico 44 54) := by
  rw [Memory.eqOn_Ico_iff (b := 48) (by decide) (by decide),
    Memory.eqOn_Ico_iff (a := 48) (b := 50) (by decide) (by decide),
    Memory.eqOn_Ico_iff (a := 50) (b := 52) (by decide) (by decide)]
  simp only [Acceptor.prepare, PaxosAccept.mk.injEq, and_true]
  rw [Mbuf.field_eq_iff (n := 4) rfl, Mbuf.field_eq_iff (n := 2) rfl, Mbuf.field_eq_iff (n := 2) rfl,
    Mbuf.field_eq_iff (n := 2) rfl]

/-- With its value it also depends on as many bytes as the length says. -/
lemma accept_eq_iff {m m' : Mbuf} :
    Acceptor.accept m' = Acceptor.accept m ↔ Acceptor.prepare m' = Acceptor.prepare m ∧
      m'.mem.read 58 m'.vsize = m.mem.read 58 m.vsize := by
  simp only [Acceptor.accept, Acceptor.prepare, PaxosAccept.mk.injEq, and_true, and_assoc]
  rfl

/-- **A message shows the bytes up to its end.** -/
lemma message_eq_iff {t : PaxosMessageType} {m m' : Mbuf} :
    message t m' = message t m ↔ Set.EqOn m'.mem m.mem (Set.Ico 44 (stop t m)) := by
  unfold message stop
  split_ifs with ht
  · exact prepare_eq_iff
  · rw [Memory.eqOn_Ico_iff (b := 54) (by decide) (by omega),
      Memory.eqOn_Ico_iff (a := 54) (b := 58) (by decide) (by omega), ← prepare_eq_iff,
      ← Mbuf.vsize_eq_iff, ← Memory.read_eq_read_iff_of_length, accept_eq_iff]

/-! ## What is handed over -/

/-- The message that is handed to libpaxos, as it is in the buffer: `paxos_value_new` is given the
bytes that it is told to copy, whether the frame has them or not.
Source: `dpdk/learner/main.c` `paxos_rx_process` -/
def DpLearner.handed (paxos_value_new : Bytes → ℕ → Bytes) (x : Received) : Option PaxosMessage :=
  if x.pkt.field 8 23 ≠ 17 then none
  else if x.pkt.field 16 36 ≠ LEARNER_PORT ∧ x.tunnel = false then none
  else
    let vsize := x.pkt.vsize
    let message : PaxosAccept :=
      { iid := x.pkt.field 32 44
        ballot := x.pkt.field 16 48
        value_ballot := x.pkt.field 16 50
        aid := x.pkt.field 16 52
        value := paxos_value_new (x.pkt.mem.read 58 vsize) vsize }
    if x.pkt.field 16 42 = PaxosMessageType.PAXOS_PROMISE.code then some ⟨.PAXOS_PROMISE, message⟩
    else if x.pkt.field 16 42 = PaxosMessageType.PAXOS_ACCEPTED.code then
      some ⟨.PAXOS_ACCEPTED, message⟩
    else none

/-- The packet gets to the branch for a type. -/
structure Gets (port : BitVec 16) (x : Received) (t : PaxosMessageType) : Prop where
  proto : x.pkt.field 8 23 = 17
  port : x.pkt.field 16 36 = port ∨ x.tunnel = true
  type : x.pkt.field 16 42 = t.code

/-- A program that hands over the messages of some types that come to its port. -/
structure Hands (handed : Received → Option PaxosMessage) (port : BitVec 16)
    (types : List PaxosMessageType) : Prop where
  handed_eq : ∀ x t, Gets port x t → t ∈ types → handed x = some ⟨t, message t x.pkt⟩
  gets : ∀ x pm, handed x = some pm → Gets port x pm.type ∧ pm.type ∈ types

/-- The two conditions of the program, the other way round. -/
lemma port_or_tunnel {port : BitVec 16} {x : Received} :
    ¬ (x.pkt.field 16 36 ≠ port ∧ x.tunnel = false) ↔
      x.pkt.field 16 36 = port ∨ x.tunnel = true := by
  rw [not_and_or, not_not, Bool.not_eq_false]

/-- A program with a branch for each of two types. The learner and the acceptor differ in the port
and in the two types only. -/
lemma hands_pair {handed : Received → Option PaxosMessage} {port : BitVec 16}
    {t u : PaxosMessageType} (htu : t ≠ u)
    (hbranches : ∀ x, handed x =
      if x.pkt.field 8 23 ≠ 17 then none
      else if x.pkt.field 16 36 ≠ port ∧ x.tunnel = false then none
      else if x.pkt.field 16 42 = t.code then some ⟨t, message t x.pkt⟩
      else if x.pkt.field 16 42 = u.code then some ⟨u, message u x.pkt⟩
      else none) :
    Hands handed port [t, u] where
  handed_eq x s hx hs := by
    rw [hbranches, if_neg (not_not.mpr hx.proto), if_neg (port_or_tunnel.mpr hx.port), hx.type]
    rcases List.mem_pair.mp hs with rfl | rfl
    · rw [if_pos rfl]
    · rw [if_neg fun hcode => htu (PaxosMessageType.code_injective hcode).symm, if_pos rfl]
  gets x pm h := by
    rw [hbranches] at h
    split_ifs at h with hproto hport ht hu
    · rw [← Option.some_inj.mp h]
      exact ⟨⟨not_not.mp hproto, port_or_tunnel.mp hport, ht⟩, List.mem_cons_self⟩
    · rw [← Option.some_inj.mp h]
      exact ⟨⟨not_not.mp hproto, port_or_tunnel.mp hport, hu⟩, List.mem_pair.mpr (.inr rfl)⟩

/-- The learner hands over promises and votes. -/
lemma DpLearner.hands {paxos_value_new : Bytes → ℕ → Bytes} (hnew : Copies paxos_value_new) :
    Hands (DpLearner.handed paxos_value_new) LEARNER_PORT [.PAXOS_PROMISE, .PAXOS_ACCEPTED] := by
  refine hands_pair (by decide) fun x => ?_
  have hvalue : paxos_value_new (x.pkt.mem.read 58 x.pkt.vsize) x.pkt.vsize =
      x.pkt.mem.read 58 x.pkt.vsize := by
    have htake := hnew _ _ (Memory.length_read 58 x.pkt.vsize x.pkt.mem).ge
    rwa [List.take_of_length_le (Memory.length_read ..).le] at htake
  simp only [DpLearner.handed, hvalue]
  rfl

/-- The acceptor hands over prepares and accepts. -/
lemma Acceptor.hands (h : Host) :
    Hands (Acceptor.decoded h) ACCEPTOR_PORT [.PAXOS_PREPARE, .PAXOS_ACCEPT] := by
  refine hands_pair (by decide) fun x => ?_
  unfold Acceptor.decoded Acceptor.paxos_rx_process
  split_ifs <;> rfl

/-! ## What the frame says -/

/-- The bytes of the frame at a position, as far as it goes, are those of `b`. -/
def Admits (off : ℕ) (b f : Bytes) : Prop :=
  ∀ j < b.length, off + j < f.length → f[off + j]? = b[j]?

/-- Finitely many bytes to compare. -/
instance (off : ℕ) (b f : Bytes) : Decidable (Admits off b f) :=
  inferInstanceAs (Decidable (∀ j < b.length, _))

/-- Nothing in the frame keeps the program from reading it as a message of a type: it is cut off, or
it is one. -/
structure MayBe (port : BitVec 16) (tunnel : Bool) (t : PaxosMessageType) (f : Bytes) : Prop where
  proto : Admits 23 [17] f
  port : Admits 36 (beEncode 2 port.toNat) f ∨ tunnel = true
  type : Admits 42 (beEncode 2 t.code.toNat) f

/-- A message of the type ends inside the frame. -/
def Inside (t : PaxosMessageType) (f : Bytes) : Prop :=
  if t = .PAXOS_PREPARE then 54 ≤ f.length else 58 + ((vsize f).signExtend 64).toNat ≤ f.length

/-- Lengths to compare. -/
instance (t : PaxosMessageType) (f : Bytes) : Decidable (Inside t f) :=
  inferInstanceAs (Decidable (ite _ _ _))

/-- A message that ends inside the frame, by the length of the buffer. -/
lemma inside_iff {t : PaxosMessageType} {m : Mbuf} :
    Inside t m.frame ↔ stop t m ≤ m.pkt_len.toNat := by
  have hlen : m.frame.length = m.pkt_len.toNat := Memory.length_read ..
  unfold Inside stop
  rw [hlen]
  split_ifs with ht
  · rfl
  · by_cases hfield : 58 ≤ m.pkt_len.toNat
    · rw [vsize, Mbuf.bits_frame (by omega)]
      rfl
    · constructor <;> omega

/-- The bytes of a field. -/
lemma Mbuf.read_of_field {m : Mbuf} {w n off : ℕ} (hw : w = 8 * n) {v : BitVec w}
    (h : m.field w off = v) : m.mem.read off n = beEncode n v.toNat := by
  have hn : w / 8 = n := by omega
  rw [← h, field, hn, beEncode_toNat_ofNat_beDecode hw (Memory.length_read ..)]

/-- A field that has been read is in the frame, as far as it goes. -/
lemma admits_of_field {m : Mbuf} {w n off : ℕ} (hw : w = 8 * n) {v : BitVec w}
    (h : m.field w off = v) : Admits off (beEncode n v.toNat) m.frame := by
  intro j hj hlt
  rw [← Mbuf.read_of_field hw h] at hj ⊢
  rw [Memory.length_read] at hj
  rw [Mbuf.frame, Memory.length_read] at hlt
  rw [Mbuf.frame, Memory.getElem?_read hlt, Memory.getElem?_read hj, Nat.zero_add]

/-- And what the frame admits is read when the right bytes are behind it. A byte of the field is in
the frame, where the frame admits it, or behind the frame, where the other buffer has it. -/
lemma field_of_admits {m p : Mbuf} {w n off : ℕ} (hw : w = 8 * n) {v : BitVec w}
    (hp : p.field w off = v) (h : Admits off (beEncode n v.toNat) m.frame) :
    { m with mem := Memory.splice m.pkt_len.toNat m.mem p.mem }.field w off = v := by
  have hread := Mbuf.read_of_field hw hp
  rw [← hp, Mbuf.field_eq_iff hw]
  rintro i ⟨hle, hlt⟩
  simp only [Memory.splice]
  split_ifs with hi
  · have hlen : m.frame.length = m.pkt_len.toNat := Memory.length_read ..
    have hbyte := h (i - off) (by rw [length_beEncode]; omega) (by omega)
    rw [← hread, Memory.getElem?_read (by omega), Mbuf.frame, Memory.getElem?_read (by omega),
      Nat.zero_add, Nat.add_sub_cancel' hle, Option.some_inj] at hbyte
    exact hbyte
  · rfl

section

variable {port : BitVec 16} {x : Received} {t : PaxosMessageType} {mem : Memory}

/-- What a packet is read as, it may be. -/
lemma Gets.mayBe (h : Gets port x t) : MayBe port x.tunnel t x.pkt.frame where
  proto := admits_of_field (n := 1) rfl h.proto
  port := h.port.imp_left fun hport => admits_of_field (n := 2) rfl hport
  type := admits_of_field (n := 2) rfl h.type

/-- A packet that may be a message of a type is read as one in some buffer. The bytes behind the
frame are taken from a buffer that holds a UDP packet of that type to the port. -/
lemma MayBe.exists_gets (h : MayBe port x.tunnel t x.pkt.frame) :
    ∃ mem : Memory, Set.EqOn mem x.pkt.mem (Set.Iio x.pkt.pkt_len.toNat) ∧
      Gets port (x.withMem mem) t := by
  let p : Mbuf := { emptyMbuf with
    mem := ((emptyMbuf.mem.store 23 (17 : BitVec 8)).store 36 port).store 42 t.code }
  have hproto : p.field 8 23 = 17 := by
    apply Mbuf.field_of_read (n := 1) rfl
    simp (disch := decide) only [p, Memory.read_store_of_disjoint, Memory.read_store_self]
  have hport : p.field 16 36 = port := by
    apply Mbuf.field_of_read (n := 2) rfl
    simp (disch := decide) only [p, Memory.read_store_of_disjoint, Memory.read_store_self]
  have htype : p.field 16 42 = t.code := by
    apply Mbuf.field_of_read (n := 2) rfl
    simp (disch := decide) only [p, Memory.read_store_self]
  refine ⟨_, Memory.eqOn_splice _ _ p.mem, field_of_admits (n := 1) rfl hproto h.proto, ?_,
    field_of_admits (n := 2) rfl htype h.type⟩
  exact h.port.imp_left fun hadmits => field_of_admits (n := 2) rfl hport hadmits

/-- The branch is chosen by bytes 23 to 43. -/
lemma Gets.of_eqOn (h : Gets port x t) (hmem : Set.EqOn mem x.pkt.mem (Set.Ico 23 44)) :
    Gets port (x.withMem mem) t := by
  have hfield : ∀ w n off, w = 8 * n → 23 ≤ off → off + n ≤ 44 →
      (x.withMem mem).pkt.field w off = x.pkt.field w off := by
    intro w n off hw hle hlt
    exact (Mbuf.field_eq_iff hw).mpr (hmem.mono (Set.Ico_subset_Ico hle hlt))
  refine ⟨?_, ?_, ?_⟩
  · rw [hfield 8 1 23 rfl (by decide) (by decide), h.proto]
  · rw [hfield 16 2 36 rfl (by decide) (by decide)]
    exact h.port
  · rw [hfield 16 2 42 rfl (by decide) (by decide), h.type]

end

/-- Bytes behind the frame are not in it. -/
lemma frame_withMem {x : Received} {mem : Memory}
    (hmem : Set.EqOn mem x.pkt.mem (Set.Iio x.pkt.pkt_len.toNat)) :
    (x.withMem mem).pkt.frame = x.pkt.frame := by
  rw [Mbuf.frame, Mbuf.frame]
  apply Memory.read_eq_read_iff.mpr
  apply hmem.mono
  rintro i ⟨-, hi⟩
  rwa [Nat.zero_add] at hi

/-! ## What is respected -/

/-- The message that is handed over depends on the received bytes only. -/
def Respected (handed : Received → Option PaxosMessage) (x : Received) : Prop :=
  Memory.DeterminedBy (Set.Iio x.pkt.pkt_len.toNat) (fun mem => handed (x.withMem mem)) x.pkt.mem

section

variable {handed : Received → Option PaxosMessage} {port : BitVec 16}
    {types : List PaxosMessageType}
  (h : Hands handed port types)
include h

/-- A message that ends inside the frame is the same in every buffer. Neither the branch that is
taken nor the message reads a byte behind the end of the message. -/
lemma Hands.handed_eq_of_stop_le {x : Received} {t : PaxosMessageType} (hx : Gets port x t)
    (ht : t ∈ types) (hstop : stop t x.pkt ≤ x.pkt.pkt_len.toNat) {mem : Memory}
    (hmem : Set.EqOn mem x.pkt.mem (Set.Iio x.pkt.pkt_len.toNat)) :
    handed (x.withMem mem) = handed x := by
  have hlen : 54 ≤ stop t x.pkt := by
    unfold stop
    split_ifs <;> omega
  have hgets : Gets port (x.withMem mem) t := by
    apply hx.of_eqOn
    apply hmem.mono
    rintro i ⟨-, hi⟩
    exact Set.mem_Iio.mpr (by omega)
  have hmessage : message t (x.withMem mem).pkt = message t x.pkt := by
    rw [message_eq_iff]
    apply hmem.mono
    rintro i ⟨-, hi⟩
    exact Set.mem_Iio.mpr (by omega)
  rw [h.handed_eq _ t hgets ht, h.handed_eq x t hx ht, hmessage]

/-- **What is handed over depends on the frame alone** exactly when no message that the frame may be
read as ends behind it. If a message ends behind the frame, two buffers with the same frame differ
in its last byte and hand over different messages. If all end inside, buffers with the same frame
agree where the message is read. -/
theorem Hands.respected_iff (x : Received) :
    Respected handed x ↔
      ∀ t ∈ types, MayBe port x.tunnel t x.pkt.frame → Inside t x.pkt.frame := by
  constructor
  · intro hrespected t ht hmay
    -- a buffer in which it is such a message, and one that differs in a byte behind the frame
    obtain ⟨mem, hmem, hgets⟩ := hmay.exists_gets
    rw [← frame_withMem hmem, inside_iff]
    by_contra hstop
    obtain ⟨i, hlen, hfields, hi⟩ : ∃ i, x.pkt.pkt_len.toNat ≤ i ∧ 44 ≤ i ∧
        i < stop t (x.withMem mem).pkt := by
      refine ⟨max x.pkt.pkt_len.toNat 44, le_max_left _ _, le_max_right _ _, ?_⟩
      have hend : 54 ≤ stop t (x.withMem mem).pkt := by
        unfold stop
        split_ifs <;> omega
      exact max_lt (not_le.mp hstop) (by omega)
    have hflip : Set.EqOn (mem.flip i) mem (Set.Iio x.pkt.pkt_len.toNat) :=
      Memory.eqOn_flip (fun h => absurd (Set.mem_Iio.mp h) (not_lt.mpr hlen)) mem
    have hgets' : Gets port (x.withMem (mem.flip i)) t :=
      hgets.of_eqOn (Memory.eqOn_flip (fun h => absurd h.2 (not_lt.mpr hfields)) mem)
    have hsame : handed (x.withMem (mem.flip i)) = handed (x.withMem mem) :=
      (hrespected _ (hflip.trans hmem)).trans (hrespected mem hmem).symm
    rw [h.handed_eq _ t hgets' ht, h.handed_eq _ t hgets ht, Option.some_inj] at hsame
    have hmessage := message_eq_iff.mp (congrArg PaxosMessage.accept hsame)
    exact Memory.flip_ne i mem (hmessage ⟨hfields, hi⟩)
  · intro hinside mem hmem
    show handed (x.withMem mem) = handed x
    rcases hx : handed x with _ | pm
    · by_contra hsome
      obtain ⟨pm, hpm⟩ := Option.ne_none_iff_exists'.mp hsome
      obtain ⟨hgets, ht⟩ := h.gets _ pm hpm
      have hstop := hinside _ ht (by rw [← frame_withMem hmem]; exact hgets.mayBe)
      rw [← frame_withMem hmem, inside_iff] at hstop
      have hback : handed x = handed (x.withMem mem) :=
        h.handed_eq_of_stop_le hgets ht hstop hmem.symm
      rw [hx, hpm] at hback
      cases hback
    · obtain ⟨hgets, ht⟩ := h.gets x pm hx
      have hstop := hinside _ ht hgets.mayBe
      rw [h.handed_eq_of_stop_le hgets ht (inside_iff.mp hstop) hmem, hx]

end

/-- A message with a value that ends inside the frame, read from the buffer and read from the frame.
-/
lemma accept_eq_read_accepted {paxos_value_new : Bytes → ℕ → Bytes} (hnew : Copies paxos_value_new)
    {m : Mbuf} (hstop : 58 + m.vsize ≤ m.pkt_len.toNat) :
    Acceptor.accept m = read_accepted paxos_value_new m.frame := by
  have hfield : ∀ w off, off + w / 8 ≤ 58 → bits w off m.frame = m.field w off := by
    intro w off hoff
    exact Mbuf.bits_frame (by omega)
  have hlen : m.frame.length = m.pkt_len.toNat := Memory.length_read ..
  have hvalue : paxos_value_new (m.frame.drop 58) m.vsize = m.mem.read 58 m.vsize := by
    rw [hnew _ _ (by rw [List.length_drop, hlen]; omega)]
    show slice 58 m.vsize m.frame = m.mem.read 58 m.vsize
    rw [Mbuf.frame, Memory.slice_read hstop, Nat.zero_add]
  rw [read_accepted, read_value, vsize, hfield 32 44 (by decide), hfield 16 48 (by decide),
    hfield 16 50 (by decide), hfield 16 52 (by decide), hfield 32 54 (by decide)]
  show _ = PaxosAccept.mk _ _ _ _ (paxos_value_new (m.frame.drop 58) m.vsize)
  rw [hvalue]
  rfl

/-- **Where lengths are respected** the learner handles what `rx_promise` and `rx_accepted` read
from the frame. -/
theorem DpLearner.handed_eq_read_accepted {paxos_value_new : Bytes → ℕ → Bytes}
    (hnew : Copies paxos_value_new) {x : Received} {t : PaxosMessageType}
    (hx : Gets LEARNER_PORT x t) (ht : t = .PAXOS_PROMISE ∨ t = .PAXOS_ACCEPTED)
    (hinside : Inside t x.pkt.frame) :
    DpLearner.handed paxos_value_new x = some ⟨t, read_accepted paxos_value_new x.pkt.frame⟩ := by
  have hne : t ≠ .PAXOS_PREPARE := by
    rintro rfl
    rcases ht with h | h <;> cases h
  have hstop := inside_iff.mp hinside
  rw [stop, if_neg hne] at hstop
  rw [(DpLearner.hands hnew).handed_eq x t hx (List.mem_pair.mpr ht), message, if_neg hne,
    accept_eq_read_accepted hnew hstop]

/-! ## The answer -/

namespace DpLearner

variable {L : Type*} (h : Host) (dl : DpLearner L) (d : Driver)

/-- What is in the answer to a client. The fields are stored at offsets that do not overlap, so each
of these is read past the stores that follow it. -/
lemma dp_learner_send_spec {data : Bytes} (hlen : data.length < 2 ^ 16) (dest : SockaddrIn) :
    (dp_learner_send h dl d data dest).2.pkt_len.toNat = 42 + data.length ∧
      (dp_learner_send h dl d data dest).2.mem.read 42 data.length = data ∧
      (dp_learner_send h dl d data dest).2.field 16 36 = dest.sin_port ∧
      (dp_learner_send h dl d data dest).2.field 32 30 = dest.sin_addr := by
  refine ⟨?_, ?_, Mbuf.field_of_read (n := 2) rfl ?_, Mbuf.field_of_read (n := 4) rfl ?_⟩
  · simp only [dp_learner_send, BitVec.toNat_ofNat]
    omega
  · rcases hmac : mac dest.sin_addr with _ | addr <;>
    · simp (disch := omega) only [dp_learner_send, hmac, Memory.read_store_of_disjoint]
      rw [Memory.read_write_self le_rfl, List.take_length]
  · simp (disch := omega) only [dp_learner_send, Memory.read_store_of_disjoint,
      Memory.read_store_self]
  · simp (disch := omega) only [dp_learner_send, Memory.read_store_of_disjoint,
      Memory.read_store_self]

/-- **An answer shows what it was made of.** The length of the frame gives that of the value, and
the value, the port and the address are inside it. -/
lemma frame_dp_learner_send_eq_iff {data data' : Bytes} (hlen : data.length < 2 ^ 16)
    (hlen' : data'.length < 2 ^ 16) (dest dest' : SockaddrIn) :
    (dp_learner_send h dl d data' dest').2.frame = (dp_learner_send h dl d data dest).2.frame ↔
      data' = data ∧ dest' = dest := by
  constructor
  · intro hframe
    obtain ⟨hpkt, hdata, hport, haddr⟩ := dp_learner_send_spec h dl d hlen dest
    obtain ⟨hpkt', hdata', hport', haddr'⟩ := dp_learner_send_spec h dl d hlen' dest'
    have hlength : data'.length = data.length := by
      have hframes := congrArg List.length hframe
      rw [Mbuf.frame, Mbuf.frame, Memory.length_read, Memory.length_read, hpkt, hpkt'] at hframes
      omega
    have hfield : ∀ w off, off + w / 8 ≤ 42 →
        (dp_learner_send h dl d data' dest').2.field w off =
          (dp_learner_send h dl d data dest).2.field w off := by
      intro w off hoff
      rw [← Mbuf.bits_frame (by omega), hframe, Mbuf.bits_frame (by omega)]
    have hvalue := congrArg (slice 42 data.length) hframe
    rw [Mbuf.frame, Mbuf.frame, Memory.slice_read (by omega), Memory.slice_read (by omega),
      Nat.zero_add, hdata, ← hlength, hdata'] at hvalue
    refine ⟨hvalue, ?_⟩
    have hsport : dest'.sin_port = dest.sin_port := by
      rw [← hport', hfield 16 36 (by decide), hport]
    have hsaddr : dest'.sin_addr = dest.sin_addr := by
      rw [← haddr', hfield 32 30 (by decide), haddr]
    calc dest' = ⟨dest'.sin_port, dest'.sin_addr⟩ := rfl
      _ = dest := by rw [hsport, hsaddr]
  · rintro ⟨rfl, rfl⟩
    rfl

/-- The bytes of a request that its fields and the content are in. -/
def requestBytes (request : Memory) : Set ℕ :=
  Set.Ico 0 2 ∪ Set.Ico 4 10 ∪ Set.Ico 18 (18 + (content_length request).toNat)

/-- The length of an answer depends on its two bytes. -/
lemma content_length_eq_iff {val val' : Memory} :
    (content_length val').toNat = (content_length val).toNat ↔ Set.EqOn val' val (Set.Ico 0 2) := by
  rw [BitVec.toNat_inj, ← Memory.read_eq_read_iff (o := 0) (k := 2)]
  constructor
  · intro hlength
    have hfield := congrArg (fun x : BitVec 16 => (beEncode 2 (x + 18).toNat).reverse) hlength
    simp only [content_length, BitVec.sub_add_cancel] at hfield
    rwa [beEncode_toNat_ofNat_beDecode rfl (by simp), beEncode_toNat_ofNat_beDecode rfl (by simp),
      List.reverse_reverse, List.reverse_reverse] at hfield
  · intro hread
    rw [content_length, content_length, hread]

/-- The address of a client depends on its six bytes. -/
lemma cliaddr_eq_iff {val val' : Memory} :
    cliaddr val' = cliaddr val ↔ Set.EqOn val' val (Set.Ico 4 10) := by
  rw [Memory.eqOn_Ico_iff (b := 6) (by decide) (by decide)]
  simp only [cliaddr, SockaddrIn.mk.injEq]
  rw [Memory.ofNat_beDecode_read_eq_iff (n := 2) rfl, Memory.ofNat_beDecode_read_eq_iff (n := 4) rfl]

/-- What is sent for a value. -/
def response (val : Memory) : List Bytes := (deliver h dl d val).2.map Mbuf.frame

/-- **The answer of the first learner shows its request.** -/
lemma response_eq_iff (hid : dl.learner_id = 0) {val val' : Memory} :
    response h dl d val' = response h dl d val ↔ Set.EqOn val' val (requestBytes val) := by
  have hlt : ∀ val : Memory, (val.read 18 (content_length val).toNat).length < 2 ^ 16 := by
    intro val
    rw [Memory.length_read]
    exact (content_length val).isLt
  simp only [response, deliver, if_pos hid, List.map_cons, List.map_nil, List.cons.injEq, and_true]
  rw [frame_dp_learner_send_eq_iff h dl d (hlt val) (hlt val'), Memory.read_eq_read_iff_of_length,
    content_length_eq_iff, cliaddr_eq_iff, requestBytes, Set.eqOn_union, Set.eqOn_union]
  tauto

/-- When all that is shown is in the value. The bytes in question are those of the length, those of
the client's address up to byte 9, and the content from byte 18 on, which may be empty. -/
lemma requestBytes_subset_iff {val : Memory} {size : ℕ} :
    requestBytes val ⊆ Set.Iio size ↔
      10 ≤ size ∧ ((content_length val).toNat = 0 ∨ 18 + (content_length val).toNat ≤ size) := by
  constructor
  · intro hsub
    have haddr : 9 < size := hsub (.inl (.inr ⟨by decide, by decide⟩))
    refine ⟨haddr, ?_⟩
    by_contra hcontent
    have hlast : 18 + (content_length val).toNat - 1 < size :=
      hsub (.inr ⟨by omega, by omega⟩)
    omega
  · rintro ⟨haddr, hcontent⟩ i hi
    simp only [requestBytes, Set.mem_union, Set.mem_Ico] at hi
    rw [Set.mem_Iio]
    omega

/-- **The answer depends on the value alone** exactly when the content ends inside it, or another
learner answers. -/
lemma response_determined_iff (value : Bytes) (behind : Memory) :
    Memory.DeterminedBy (Set.Iio value.length) (response h dl d) (behind.write 0 value) ↔
      dl.learner_id ≠ 0 ∨ 10 ≤ value.length ∧
        ((content_length (behind.write 0 value)).toNat = 0 ∨
          18 + (content_length (behind.write 0 value)).toNat ≤ value.length) := by
  by_cases hid : dl.learner_id = 0
  · rw [Memory.determinedBy_iff_subset fun val' => response_eq_iff h dl d hid,
      requestBytes_subset_iff]
    simp [hid]
  · constructor
    · intro _
      exact .inl hid
    · intro _ val' _
      simp only [response, deliver, if_neg hid]

end DpLearner

/-- A packet whose value length is 4096, with one byte of a value. -/
def overlong (type : PaxosMessageType) (port : BitVec 16) : Received :=
  let x := packet type 1 0 port
  x.withMem (x.pkt.mem.store 54 (4096 : BitVec 32))

/-- A request of length 2, less than its own header. -/
def shortRequest : Bytes := [2, 0] ++ List.replicate 16 0

end P4xos.Dpdk
