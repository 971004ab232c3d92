import P4xos.P4v16.Parser

/-!
# Frames built and read by the DPDK programs

`dpdk/lib/rte_paxos.c`: `add_paxos_message` writes a Paxos message into a packet buffer and
`craft_new_packet` the Ethernet, IPv4 and UDP headers before it. The length that it gives the frame
is counted from `sizeof(struct paxos_message)`, a structure with a pointer in it, not from
`sizeof(struct paxos_hdr)`, the structure on the wire: 26 bytes for the 48 that the switches parse.

* `Send.bits_frame_headers`, `Send.bits_frame_paxos` and `Send.slice_frame_value` say what is in the
  frame.
* `Send.isPaxos_iff`: the frame is long enough for `TopParser` when the value has 22 bytes at least.
* `frame_understood_iff`: and then it is understood.
* `paxos_rx_process` is what the learner and the backup read from a promise.
-/

namespace P4xos.Dpdk

open P4xos.Lib
open P4v16 (TopParser IsPaxos PaxosT)

/-! ## Messages -/

/-- The learner and the backup send to it.
Source: `dpdk/include/const.h` `ACCEPTOR_PORT` -/
def ACCEPTOR_PORT : BitVec 16 := 34952

/-- The acceptors send to it.
Source: `dpdk/include/const.h` `LEARNER_PORT` -/
def LEARNER_PORT : BitVec 16 := 34953

/-- Only the first five are in a packet of these programs.
Source: `dpdk/include/paxos_types.h` `paxos_message_type` -/
inductive PaxosMessageType
  | PAXOS_PREPARE
  | PAXOS_PROMISE
  | PAXOS_ACCEPT
  | PAXOS_ACCEPTED
  | PAXOS_PREEMPTED
  | PAXOS_REPEAT
  | PAXOS_TRIM
  | PAXOS_ACCEPTOR_STATE
  | PAXOS_CLIENT_VALUE
  deriving DecidableEq

/-- The value of an enumeration constant, cut to the header's field. -/
def PaxosMessageType.code : PaxosMessageType → BitVec 16
  | PAXOS_PREPARE => 0
  | PAXOS_PROMISE => 1
  | PAXOS_ACCEPT => 2
  | PAXOS_ACCEPTED => 3
  | PAXOS_PREEMPTED => 4
  | PAXOS_REPEAT => 5
  | PAXOS_TRIM => 6
  | PAXOS_ACCEPTOR_STATE => 7
  | PAXOS_CLIENT_VALUE => 8

/-- The member of the union that is read; the members for the other Paxos messages have the same
fields at the same places. The value's pointer and length are the bytes `value`.
Source: `dpdk/include/paxos_types.h` `paxos_accept` -/
structure PaxosAccept where
  iid : BitVec 32
  ballot : BitVec 16
  value_ballot : BitVec 16
  aid : BitVec 16
  value : Bytes
  deriving DecidableEq

/-- The type says which member of the union is there.
Source: `dpdk/include/paxos_types.h` `paxos_message` -/
structure PaxosMessage where
  type : PaxosMessageType
  accept : PaxosAccept
  deriving DecidableEq

/-- `sizeof(struct paxos_value)`: an `int` and a pointer. Packed, so there is no padding between the
two. -/
def sizeof_paxos_value : ℕ := 4 + 8

/-- `sizeof(struct paxos_accept)`, the largest member of the union. -/
def sizeof_paxos_accept : ℕ := 4 + 2 + 2 + 2 + sizeof_paxos_value

/-- `sizeof(struct paxos_message)`: an enumeration and the union, packed. -/
def sizeof_paxos_message : ℕ := 4 + sizeof_paxos_accept

/-! ## Packet buffers -/

/-- A packet buffer: the memory from the data pointer on, with what earlier packets left in it, how
much of it there is, and the lengths. -/
structure Mbuf where
  mem : Memory
  room : BitVec 16
  data_len : BitVec 16
  pkt_len : BitVec 32

/-- The frame that is sent. What lies behind it in the buffer is not sent. -/
def Mbuf.frame (m : Mbuf) : Bytes := m.mem.read 0 m.pkt_len.toNat

/-- What the program reads of its host: the address of the output port, the time stamp counter, and
the pseudo-header sum of an IPv4 header.
Source: `dpdk/lib/rte_paxos.c` `rte_eth_macaddr_get`, `rte_rdtsc`, `get_psd_sum` -/
structure Host where
  macaddr : BitVec 48
  tsc : BitVec 64
  psd_sum : Bytes → BitVec 16

/-- The multicast address of an IPv4 address.
Source: `dpdk/lib/rte_paxos.c` `ETHER_ADDR_FOR_IPV4_MCAST` -/
def ETHER_ADDR_FOR_IPV4_MCAST (x : BitVec 32) : BitVec 48 :=
  0x01005e000000 ||| (x.setWidth 48 &&& 0x7fffff)

/-- The headers in front of `data_size` bytes. The type of service is not written.
Source: `dpdk/lib/rte_paxos.c` `craft_new_packet` -/
def craft_new_packet (h : Host) (m : Mbuf) (srcIP dstIP : BitVec 32) (sport dport : BitVec 16)
    (data_size : ℕ) : Mbuf :=
  let pkt_size := 14 + 20 + 8 + data_size
  let mem := m.mem.store 6 h.macaddr
  let mem := mem.store 0 (ETHER_ADDR_FOR_IPV4_MCAST dstIP)
  let mem := mem.store 12 (0x0800 : BitVec 16)
  let mem := mem.store 16 (BitVec.ofNat 16 (20 + 8 + data_size))
  let mem := mem.store 14 (0x45 : BitVec 8)
  let mem := mem.store 22 (64 : BitVec 8)
  let mem := mem.store 18 (h.tsc.setWidth 16)
  let mem := mem.store 20 (0x4000 : BitVec 16)
  let mem := mem.store 23 (17 : BitVec 8)
  let mem := mem.store 24 (0 : BitVec 16)
  let mem := mem.store 26 srcIP
  let mem := mem.store 30 dstIP
  let mem := mem.store 34 sport
  let mem := mem.store 36 dport
  let mem := mem.store 38 (BitVec.ofNat 16 (8 + data_size))
  let mem := mem.store 40 (h.psd_sum (mem.read 14 20))
  { m with mem := mem, data_len := BitVec.ofNat 16 pkt_size, pkt_len := BitVec.ofNat 32 pkt_size }

/-- The length handed to `craft_new_packet` is the size of the structure with the value's length
added, not that of the header on the wire.
Source: `dpdk/lib/rte_paxos.c` `add_paxos_message` -/
def add_paxos_message (h : Host) (pm : PaxosMessage) (m : Mbuf) (sport dport : BitVec 16)
    (dstIP : BitVec 32) : Mbuf :=
  let len := pm.accept.value.length
  let mem := m.mem.store 42 pm.type.code
  let mem := mem.store 44 pm.accept.iid
  let mem := mem.store 48 pm.accept.ballot
  let mem := mem.store 50 pm.accept.value_ballot
  let mem := mem.store 52 pm.accept.aid
  let mem := mem.store 54 (BitVec.ofNat 32 len)
  let mem := mem.write 58 pm.accept.value
  -- the source address is 192.168.4.97
  craft_new_packet h { m with mem := mem } 0xC0A80461 dstIP sport dport (sizeof_paxos_message + len)

/-- The value fits the buffer: the frame does not leave it. -/
def Mbuf.Fits (m : Mbuf) (pm : PaxosMessage) : Prop :=
  14 + 20 + 8 + sizeof_paxos_message + pm.accept.value.length ≤ m.room.toNat

/-- A comparison of two numbers. -/
instance (m : Mbuf) (pm : PaxosMessage) : Decidable (m.Fits pm) :=
  inferInstanceAs (Decidable (_ ≤ _))

/-- A call of `add_paxos_message` with a message that fits its buffer. -/
structure Send where
  host : Host
  pm : PaxosMessage
  mbuf : Mbuf
  sport : BitVec 16
  dport : BitVec 16
  dstIP : BitVec 32
  fits : mbuf.Fits pm

namespace Send

/-- The buffer after the call. -/
def sent (x : Send) : Mbuf := add_paxos_message x.host x.pm x.mbuf x.sport x.dport x.dstIP

/-- The frame. -/
def frame (x : Send) : Bytes := x.sent.frame

/-- The value of the message. -/
def value (x : Send) : Bytes := x.pm.accept.value

/-! ## What is in the frame -/

/-- The lengths of a message that fits are not cut. -/
lemma pkt_len_sent (x : Send) : x.sent.pkt_len.toNat = 68 + x.value.length := by
  have hfits := x.fits
  have hroom := x.mbuf.room.isLt
  simp only [Mbuf.Fits, sizeof_paxos_message, sizeof_paxos_accept, sizeof_paxos_value] at hfits
  simp only [sent, add_paxos_message, craft_new_packet, sizeof_paxos_message, sizeof_paxos_accept,
    sizeof_paxos_value, BitVec.toNat_ofNat, value]
  omega

/-- The frame is as long as the buffer says. -/
lemma length_frame (x : Send) : x.frame.length = 68 + x.value.length := by
  rw [frame, Mbuf.frame, Memory.length_read, pkt_len_sent]

/-- The value fits the buffer, so its length fits 16 bits. -/
lemma length_value_lt (x : Send) : x.value.length < 2 ^ 16 := by
  have hfits := x.fits
  have hroom := x.mbuf.room.isLt
  unfold Mbuf.Fits at hfits
  rw [value]
  omega

/-- A field of the frame, from the bytes in the buffer. -/
lemma bits_frame (x : Send) {w n off : ℕ} (hw : w = 8 * n) (hoff : off + n ≤ 68) {y : BitVec w}
    (hy : x.sent.mem.read off n = beEncode n y.toNat) : bits w off x.frame = y := by
  apply bits_of_slice hw
  have hlen := x.pkt_len_sent
  rw [frame, Mbuf.frame, Memory.slice_read (by omega), Nat.zero_add, hy]

/-- What the switches look at on the way to the Paxos header. -/
lemma bits_frame_headers (x : Send) :
    bits 16 12 x.frame = 0x0800 ∧ bits 8 23 x.frame = 17 ∧ bits 16 36 x.frame = x.dport := by
  refine ⟨x.bits_frame (n := 2) rfl (by decide) ?_, x.bits_frame (n := 1) rfl (by decide) ?_,
    x.bits_frame (n := 2) rfl (by decide) ?_⟩ <;>
  simp (disch := decide) only [sent, add_paxos_message, craft_new_packet,
    Memory.read_store_of_disjoint, Memory.read_store_self]

/-- The fields of the message, where the Paxos header is. -/
lemma bits_frame_paxos (x : Send) :
    bits 16 42 x.frame = x.pm.type.code ∧ bits 32 44 x.frame = x.pm.accept.iid ∧
      bits 16 48 x.frame = x.pm.accept.ballot ∧ bits 16 50 x.frame = x.pm.accept.value_ballot ∧
      bits 16 52 x.frame = x.pm.accept.aid ∧
      bits 32 54 x.frame = BitVec.ofNat 32 x.value.length := by
  refine ⟨x.bits_frame (n := 2) rfl (by decide) ?_, x.bits_frame (n := 4) rfl (by decide) ?_,
    x.bits_frame (n := 2) rfl (by decide) ?_, x.bits_frame (n := 2) rfl (by decide) ?_,
    x.bits_frame (n := 2) rfl (by decide) ?_, x.bits_frame (n := 4) rfl (by decide) ?_⟩ <;>
  simp (disch := omega) only [sent, add_paxos_message, craft_new_packet, value,
    Memory.read_store_of_disjoint, Memory.read_write_of_disjoint, Memory.read_store_self]

/-- The value follows the fields. -/
lemma slice_frame_value (x : Send) : slice 58 x.value.length x.frame = x.value := by
  have hlen := x.pkt_len_sent
  rw [frame, Mbuf.frame, Memory.slice_read (by omega)]
  simp (disch := omega) only [sent, add_paxos_message, craft_new_packet, value,
    Memory.read_store_of_disjoint]
  rw [Nat.zero_add, Memory.read_write_self le_rfl, List.take_length]

/-- **The frame is Paxos for the switches** when it goes to their port and the value has 22 bytes at
least. -/
lemma isPaxos_iff (x : Send) :
    IsPaxos x.frame ↔ 22 ≤ x.value.length ∧ x.dport = P4v16.PAXOS_PROTOCOL := by
  obtain ⟨htype, hproto, hport⟩ := x.bits_frame_headers
  rw [IsPaxos, x.length_frame, htype, hproto, hport]
  constructor
  · rintro ⟨hlen, -, -, hdport⟩
    exact ⟨by omega, hdport⟩
  · rintro ⟨hlen, hdport⟩
    exact ⟨by omega, rfl, rfl, hdport⟩

/-- The bytes of the frame at the place of the Paxos header, read as one. -/
def paxos (x : Send) : PaxosT := PaxosT.read (x.frame.drop 42)

/-- Its fields are those of the message. -/
lemma paxos_fields (x : Send) :
    x.paxos.msgtype = x.pm.type.code ∧ x.paxos.inst = x.pm.accept.iid ∧
      x.paxos.rnd = x.pm.accept.ballot ∧ x.paxos.vrnd = x.pm.accept.value_ballot ∧
      x.paxos.acptid = x.pm.accept.aid ∧ x.paxos.paxoslen.toNat = x.value.length := by
  obtain ⟨h₁, h₂, h₃, h₄, h₅, h₆⟩ := x.bits_frame_paxos
  have hlt : x.value.length < 2 ^ 32 := x.length_value_lt.trans (by decide)
  simp only [paxos, PaxosT.read, bits_drop]
  refine ⟨h₁, h₂, h₃, h₄, h₅, ?_⟩
  rw [h₆, BitVec.toNat_ofNat, Nat.mod_eq_of_lt hlt]

/-- Its value starts with the message's. -/
lemma take_paxosval (x : Send) (hlen : 22 ≤ x.value.length) :
    (beEncode 32 x.paxos.paxosval.toNat).take x.value.length = x.value.take 32 := by
  have hframe := x.length_frame
  have hslice : beEncode 32 x.paxos.paxosval.toNat = slice 58 32 x.frame := by
    simp only [paxos, PaxosT.read, bits_drop]
    exact beEncode_toNat_ofNat_beDecode (n := 32) rfl (length_slice (by omega))
  calc (beEncode 32 x.paxos.paxosval.toNat).take x.value.length
      = (slice 58 32 x.frame).take x.value.length := by rw [hslice]
    _ = (slice 58 x.value.length x.frame).take 32 := by
        rw [slice, slice, List.take_take, List.take_take, min_comm]
    _ = x.value.take 32 := by rw [x.slice_frame_value]

end Send

/-! ## Receiving -/

/-- It has the fields of an accept.
Source: `dpdk/include/paxos_types.h` `paxos_promise` -/
structure PaxosPromise where
  iid : BitVec 32
  ballot : BitVec 16
  value_ballot : BitVec 16
  aid : BitVec 16
  value : Bytes
  deriving DecidableEq

/-- `paxos_value_new(v, s)` of libpaxos makes a value of the `s` bytes at `v`. The compiled code of
the archive `dpdk/lib/libpaxos.a` does so. -/
def Copies (paxos_value_new : Bytes → ℕ → Bytes) : Prop :=
  ∀ v s, s ≤ v.length → paxos_value_new v s = v.take s

/-- Taking the bytes is such a function. -/
lemma copies_take : Copies fun v s => v.take s := fun _ _ _ => rfl

/-- The promise that is read from a frame in the branch for `PAXOS_PROMISE`, if the frame gets
there: it is UDP, it is for one of the program's ports or a tunnel was recognised, and it is a
promise. The value length is an `int` that becomes a `size_t`. The ports are `[LEARNER_PORT]` for
the learner and `[LEARNER_PORT, ACCEPTOR_PORT]` for the backup.
Source: `dpdk/learner/main.c`, `dpdk/backup/main.c` `paxos_rx_process` -/
def paxos_rx_process (paxos_value_new : Bytes → ℕ → Bytes) (ports : List (BitVec 16))
    (tunnel : Bool) (pkt : Bytes) : Option PaxosPromise :=
  if bits 8 23 pkt ≠ 17 then none
  else if bits 16 36 pkt ∉ ports ∧ tunnel = false then none
  else if bits 16 42 pkt = PaxosMessageType.PAXOS_PROMISE.code then
    let vsize := (bits 32 54 pkt).signExtend 64
    some { iid := bits 32 44 pkt
           ballot := bits 16 48 pkt
           value_ballot := bits 16 50 pkt
           aid := bits 16 52 pkt
           value := paxos_value_new (pkt.drop 58) vsize.toNat }
  else none

/-- The message type of a frame, unless the frame is not UDP, or not for one of the program's ports.
Source: `dpdk/learner/main.c`, `dpdk/backup/main.c` `paxos_rx_process` -/
def rx_msgtype (ports : List (BitVec 16)) (tunnel : Bool) (pkt : Bytes) : Option (BitVec 16) :=
  if bits 8 23 pkt ≠ 17 then none
  else if bits 16 36 pkt ∉ ports ∧ tunnel = false then none
  else some (bits 16 42 pkt)

/-! ## Understanding -/

/-- The switches' parser gets through to `parse_paxos`, and extracts the message. -/
def Understood (pm : PaxosMessage) (f : Bytes) : Prop :=
  ∃ q p, TopParser f = some q ∧ q.parserError = none ∧ q.hdr.paxos = some p ∧
    p.msgtype = pm.type.code ∧ p.inst = pm.accept.iid ∧ p.rnd = pm.accept.ballot ∧
    p.vrnd = pm.accept.value_ballot ∧ p.acptid = pm.accept.aid ∧
    p.paxoslen.toNat = pm.accept.value.length ∧
    (beEncode 32 p.paxosval.toNat).take (min pm.accept.value.length 32) =
      pm.accept.value.take (min pm.accept.value.length 32)

/-- **A frame for the acceptors is understood exactly when its value has 22 bytes at least.** A
shorter one leaves the frame shorter than the Paxos header the switches extract. -/
theorem frame_understood_iff (h : Host) (pm : PaxosMessage) (m : Mbuf) (sport : BitVec 16)
    (dstIP : BitVec 32) (hfits : m.Fits pm) :
    Understood pm (add_paxos_message h pm m sport ACCEPTOR_PORT dstIP).frame ↔
      22 ≤ pm.accept.value.length := by
  let x : Send := ⟨h, pm, m, sport, ACCEPTOR_PORT, dstIP, hfits⟩
  constructor
  · rintro ⟨q, p, hparse, -, hp, -⟩
    exact (x.isPaxos_iff.mp (P4v16.isPaxos_of_paxos hparse (by simp [hp]))).1
  · intro hlen
    obtain ⟨h₁, h₂, h₃, h₄, h₅, h₆⟩ := x.paxos_fields
    refine ⟨_, x.paxos, P4v16.TopParser_eq (x.isPaxos_iff.mpr ⟨hlen, rfl⟩), rfl, rfl, h₁, h₂, h₃,
      h₄, h₅, h₆, ?_⟩
    calc (beEncode 32 x.paxos.paxosval.toNat).take (min x.value.length 32)
        = ((beEncode 32 x.paxos.paxosval.toNat).take x.value.length).take 32 := by
          rw [List.take_take, min_comm]
      _ = (x.value.take 32).take 32 := by rw [x.take_paxosval hlen]
      _ = (x.value.take x.value.length).take 32 := by
          rw [List.take_take, min_self, List.take_length]
      _ = x.value.take (min x.value.length 32) := by rw [List.take_take, min_comm]

/-- A message of type 2A with a value of `n` bytes. -/
def accept2a (n : ℕ) : PaxosMessage where
  type := .PAXOS_ACCEPT
  accept := { iid := 7, ballot := 1, value_ballot := 0, aid := 0, value := List.replicate n 0x41 }

/-- A buffer of the default size, filled with zeros, and a host with zero addresses. -/
def emptyMbuf : Mbuf where
  mem := fun _ => 0
  room := 2048
  data_len := 0
  pkt_len := 0

/-- A host whose port has address zero. -/
def host : Host where
  macaddr := 0
  tsc := 0
  psd_sum := fun _ => 0

/-- A value of 32 bytes. -/
theorem frame_understood_full :
    emptyMbuf.Fits (accept2a 32) ∧
    (Understood (accept2a 32)
        (add_paxos_message host (accept2a 32) emptyMbuf 34953 ACCEPTOR_PORT 0xE0031D49).frame ↔
      22 ≤ (accept2a 32).accept.value.length) :=
  ⟨by decide, frame_understood_iff host (accept2a 32) emptyMbuf 34953 0xE0031D49 (by decide)⟩

/-- An empty value: the parser runs out of bytes. -/
theorem frame_not_understood :
    ¬ ∀ (h : Host) (pm : PaxosMessage) (m : Mbuf) (sport : BitVec 16) (dstIP : BitVec 32),
      m.Fits pm → Understood pm (add_paxos_message h pm m sport ACCEPTOR_PORT dstIP).frame := by
  intro hall
  let x : Send := ⟨host, accept2a 0, emptyMbuf, 34953, ACCEPTOR_PORT, 0xE0031D49, by decide⟩
  obtain ⟨q, p, hparse, -, hp, -⟩ := hall x.host x.pm x.mbuf x.sport x.dstIP x.fits
  have hlen := (x.isPaxos_iff.mp (P4v16.isPaxos_of_paxos hparse (by simp [hp]))).1
  exact absurd hlen (by decide)

end P4xos.Dpdk
