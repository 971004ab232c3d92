import P4xos.Dpdk.Frame

/-!
# Packets received by the DPDK programs

A received packet is in a buffer of the receiver, which the programs read, overwrite and send on.
Only the first bytes of the buffer are the frame that came in (`Mbuf.Holds`); behind it the buffer
has what earlier packets have left there.

* `Mbuf.Holds.field`: inside the frame, what is read from the buffer was in the frame.
* `rx_msgtype_eq`: a frame for one of a program's ports gets to the branch for its type.
* `read_promise`, `read_accepted` are the messages that the programs read.
* `LibLearner` is what the learner and the backup use of libpaxos. The repository has the headers of
  that library and the compiled archive `dpdk/lib/libpaxos.a`; `Libpaxos` follows the archive, and
  general results take any `LibLearner`, with `Prepares` or `InOrder` where they need it.
* `Tx` is a message that a program queues for transmission.
-/

namespace P4xos.Dpdk

open P4xos.Lib

/-- 224.3.29.73.
Source: `dpdk/include/const.h` `ACCEPTOR_ADDR` -/
def ACCEPTOR_ADDR : BitVec 32 := 0xE0031D49

/-- 224.3.29.73.
Source: `dpdk/include/const.h` `LEARNER_ADDR` -/
def LEARNER_ADDR : BitVec 32 := 0xE0031D49

/-- Source: `dpdk/include/const.h` `BURST_SIZE` -/
def BURST_SIZE : ℕ := 32

/-- What a step takes from its surroundings: the number of packets that `rte_eth_tx_buffer`, or a
flush, has sent, the buffers that are allocated then, and what is left in memory that is freed. -/
structure Driver where
  nb_tx : ℕ
  alloc : ℕ → Mbuf
  freed : Memory

/-- A received packet: its buffer, and whether a tunnel was recognised in it. -/
structure Received where
  pkt : Mbuf
  tunnel : Bool

namespace Mbuf

/-- A big-endian field of a packet. -/
def field (m : Mbuf) (w off : ℕ) : BitVec w := BitVec.ofNat w (beDecode (m.mem.read off (w / 8)))

/-- A field, from the bytes in the buffer. -/
lemma field_of_read {m : Mbuf} {w n off : ℕ} (hw : w = 8 * n) {y : BitVec w}
    (hy : m.mem.read off n = beEncode n y.toNat) : m.field w off = y := by
  have hn : w / 8 = n := by omega
  rw [field, hn, hy, ofNat_beDecode_beEncode hw]

/-- A field inside the frame that is sent. -/
lemma bits_frame {m : Mbuf} {w off : ℕ} (hoff : off + w / 8 ≤ m.pkt_len.toNat) :
    bits w off m.frame = m.field w off := by
  rw [frame, Memory.bits_read hoff, field]

/-- The buffer holds a frame that was received. -/
structure Holds (m : Mbuf) (f : Bytes) : Prop where
  frame : m.frame = f
  data_len : m.data_len.toNat = f.length

/-- The whole frame is in the buffer. -/
lemma Holds.pkt_len {m : Mbuf} {f : Bytes} (h : m.Holds f) : m.pkt_len.toNat = f.length := by
  rw [← h.frame, Mbuf.frame, Memory.length_read]

/-- A field inside the frame received. -/
lemma Holds.field {m : Mbuf} {f : Bytes} (h : m.Holds f) {w off : ℕ}
    (hoff : off + w / 8 ≤ f.length) : m.field w off = bits w off f := by
  rw [← h.pkt_len] at hoff
  rw [← bits_frame hoff, h.frame]

end Mbuf

/-! ## Messages -/

/-- Two messages with one code are of one type. -/
lemma PaxosMessageType.code_injective : Function.Injective PaxosMessageType.code := by
  intro s t h
  cases s <;> cases t <;> first | rfl | exact absurd h (by decide)

/-- A packet has one type. -/
lemma msgtype_unique {o : Option (BitVec 16)} {s t : PaxosMessageType} (hs : o = some s.code)
    (ht : o = some t.code) : s = t :=
  PaxosMessageType.code_injective (Option.some_inj.mp (hs.symm.trans ht))

/-- The value length of a frame, as an `int`. -/
def vsize (pkt : Bytes) : BitVec 32 := bits 32 54 pkt

/-- The value of a frame. -/
def read_value (paxos_value_new : Bytes → ℕ → Bytes) (pkt : Bytes) : Bytes :=
  paxos_value_new (pkt.drop 58) ((vsize pkt).signExtend 64).toNat

/-- The promise in a frame. -/
def read_promise (paxos_value_new : Bytes → ℕ → Bytes) (pkt : Bytes) : PaxosPromise where
  iid := bits 32 44 pkt
  ballot := bits 16 48 pkt
  value_ballot := bits 16 50 pkt
  aid := bits 16 52 pkt
  value := read_value paxos_value_new pkt

/-- The accepted message in a frame. -/
def read_accepted (paxos_value_new : Bytes → ℕ → Bytes) (pkt : Bytes) : PaxosAccept where
  iid := bits 32 44 pkt
  ballot := bits 16 48 pkt
  value_ballot := bits 16 50 pkt
  aid := bits 16 52 pkt
  value := read_value paxos_value_new pkt

/-- A frame for one of the ports is not refused. -/
lemma rx_msgtype_eq {ports : List (BitVec 16)} {pkt : Bytes} (hproto : bits 8 23 pkt = 17)
    (hport : bits 16 36 pkt ∈ ports) (tunnel : Bool) :
    rx_msgtype ports tunnel pkt = some (bits 16 42 pkt) := by
  have hfor : ¬ (bits 16 36 pkt ∉ ports ∧ tunnel = false) := fun h => h.1 hport
  rw [rx_msgtype, if_neg (not_not.mpr hproto), if_neg hfor]

/-- The branch for promises is entered on frames of that type. The tests before it are those of
`rx_msgtype`, in the same order. -/
lemma paxos_rx_process_eq (paxos_value_new : Bytes → ℕ → Bytes) (ports : List (BitVec 16))
    (tunnel : Bool) (pkt : Bytes) :
    paxos_rx_process paxos_value_new ports tunnel pkt =
      if rx_msgtype ports tunnel pkt = some PaxosMessageType.PAXOS_PROMISE.code then
        some (read_promise paxos_value_new pkt)
      else none := by
  unfold paxos_rx_process rx_msgtype
  by_cases hudp : bits 8 23 pkt ≠ 17
  · rw [if_pos hudp, if_pos hudp]
    rfl
  · rw [if_neg hudp, if_neg hudp]
    by_cases hfor : bits 16 36 pkt ∉ ports ∧ tunnel = false
    · rw [if_pos hfor, if_pos hfor]
      rfl
    · rw [if_neg hfor, if_neg hfor]
      simp only [Option.some_inj]
      rfl

/-- The learner of libpaxos, of which the repository has the headers and the compiled archive
`dpdk/lib/libpaxos.a`. A message is returned when the return value is not 0.
Source: `dpdk/include/learner.h` -/
structure LibLearner (L : Type*) where
  learner_receive_promise : L → PaxosPromise → L × Option PaxosAccept
  learner_receive_accepted : L → PaxosAccept → L × Bool
  learner_deliver_next : L → L × Option PaxosAccept
  /-- The first instance of the holes, and the first one behind them. -/
  learner_has_holes : L → Option (BitVec 32 × BitVec 32)
  learner_prepare : L → BitVec 32 → L × PaxosAccept
  paxos_value_new : Bytes → ℕ → Bytes

/-- `learner_prepare` makes a prepare for the instance it is given. -/
def LibLearner.Prepares {L : Type*} (lib : LibLearner L) : Prop :=
  ∀ l iid, (lib.learner_prepare l iid).2.iid = iid

/-- `learner_deliver_next` returns the next instance in order if it has a quorum, and nothing
otherwise. `R l acks n` says that `l` has received `acks` and that `n` is its next instance. -/
structure LibLearner.InOrder {L : Type*} (lib : LibLearner L)
    (quorum : List PaxosAccept → ℕ → Prop) (R : L → List PaxosAccept → ℕ → Prop) (l₀ : L) :
    Prop where
  init : R l₀ [] 1
  receive : ∀ l acks n ack, R l acks n → R (lib.learner_receive_accepted l ack).1 (acks ++ [ack]) n
  deliver : ∀ l acks n, R l acks n → quorum acks n →
    ∃ out, (lib.learner_deliver_next l).2 = some out ∧ out.iid = BitVec.ofNat 32 n ∧
      R (lib.learner_deliver_next l).1 acks (n + 1)
  wait : ∀ l acks n, R l acks n → ¬ quorum acks n →
    (lib.learner_deliver_next l).2 = none ∧ R (lib.learner_deliver_next l).1 acks n

/-- A message that is written into a buffer with `add_paxos_message`, and handed to
`rte_eth_tx_buffer`. -/
structure Tx where
  pm : PaxosMessage
  pkt : Mbuf
  sport : BitVec 16
  dport : BitVec 16
  dstIP : BitVec 32

/-! ## Packets of the tests -/

/-- A packet with a message for the acceptors or the learners. -/
def packet (type : PaxosMessageType) (iid : BitVec 32) (aid : BitVec 16) (port : BitVec 16) :
    Received where
  pkt := add_paxos_message host
    { type := type
      accept := { iid := iid, ballot := 1, value_ballot := 1, aid := aid, value := [0x41] } }
    emptyMbuf 12345 port ACCEPTOR_ADDR
  tunnel := false

/-- Its type is read back. -/
lemma rx_msgtype_packet {ports : List (BitVec 16)} {port : BitVec 16} (hport : port ∈ ports)
    (type : PaxosMessageType) (iid : BitVec 32) (aid : BitVec 16) :
    rx_msgtype ports (packet type iid aid port).tunnel (packet type iid aid port).pkt.frame =
      some type.code := by
  have hroom : 14 + 20 + 8 + sizeof_paxos_message + 1 ≤ emptyMbuf.room.toNat := by decide
  let x : Send := ⟨host, { type := type, accept := ⟨iid, 1, 1, aid, [0x41]⟩ }, emptyMbuf, 12345,
    port, ACCEPTOR_ADDR, hroom⟩
  obtain ⟨-, hproto, hdport⟩ := x.bits_frame_headers
  obtain ⟨htype, -⟩ := x.bits_frame_paxos
  change rx_msgtype ports false x.frame = some type.code
  rw [rx_msgtype_eq hproto (by rw [hdport]; exact hport), htype]

end P4xos.Dpdk
