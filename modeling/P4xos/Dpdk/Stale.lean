import P4xos.Dpdk.Frame

/-!
# What a frame has from its buffer

`dpdk/lib/rte_paxos.c`: the packet buffers are used again, and `add_paxos_message` does not clear
them. `craft_new_packet` writes every field of the headers but one, and the length that it is given
is ten bytes more than those of the message.

* `eqOn_craft_new_packet`: two buffers that agree on the type of service agree on the headers.
* `eqOn_add_paxos_message`: and then on the message. What lies behind it is not touched
  (`add_paxos_message_of_untouched`), and leaves with the frame.
* `frames_eq_iff`: the frames are the same exactly when the buffers agree there and on the ten
  bytes.
* `stale_bytes_leave`: so a frame can carry bytes of the packet that was in the buffer before.
-/

namespace P4xos.Dpdk

open P4xos.Lib

/-- **The headers are those of the arguments**, and the byte that is not written. The checksum is
over the IPv4 header with this byte. -/
lemma eqOn_craft_new_packet (h : Host) {m m' : Mbuf} {s : Set ℕ} (hs : Set.EqOn m.mem m'.mem s)
    (htos : 15 ∈ s) (srcIP dstIP : BitVec 32) (sport dport : BitVec 16) (data_size : ℕ) :
    Set.EqOn (craft_new_packet h m srcIP dstIP sport dport data_size).mem
      (craft_new_packet h m' srcIP dstIP sport dport data_size).mem (s ∪ Set.Ico 0 42) := by
  have hmac := Memory.eqOn_store (Memory.eqOn_store hs 6 h.macaddr) 0
    (ETHER_ADDR_FOR_IPV4_MCAST dstIP)
  have htype := Memory.eqOn_store hmac 12 (0x0800 : BitVec 16)
  have hlength := Memory.eqOn_store (Memory.eqOn_store htype 16 (BitVec.ofNat 16 (20 + 8 + data_size)))
    14 (0x45 : BitVec 8)
  have hid := Memory.eqOn_store (Memory.eqOn_store hlength 22 (64 : BitVec 8)) 18 (h.tsc.setWidth 16)
  have hproto := Memory.eqOn_store (Memory.eqOn_store hid 20 (0x4000 : BitVec 16)) 23 (17 : BitVec 8)
  have hip := Memory.eqOn_store (Memory.eqOn_store (Memory.eqOn_store hproto 24 (0 : BitVec 16)) 26
    srcIP) 30 dstIP
  have hudp := Memory.eqOn_store (Memory.eqOn_store (Memory.eqOn_store hip 34 sport) 36 dport) 38
    (BitVec.ofNat 16 (8 + data_size))
  have hheader := Memory.read_eq_read_iff.mpr (hudp.mono fun i (hi : i ∈ Set.Ico 14 (14 + 20)) => ?_)
  · simp only [craft_new_packet]
    rw [hheader]
    apply (Memory.eqOn_store hudp 40 _).mono
    rintro i (hi | ⟨-, hi⟩)
    · simp only [Set.mem_union, hi, true_or]
    · by_cases hbyte : i = 15
      · simp [hbyte, htos]
      · simp only [Set.mem_union, Set.mem_Ico]
        omega
  · by_cases hbyte : i = 15
    · simp [hbyte, htos]
    · simp only [Set.mem_union, Set.mem_Ico] at hi ⊢
      omega

/-- Bytes behind the headers are not touched, nor is the type of service. -/
lemma craft_new_packet_of_untouched {h : Host} {m : Mbuf} {srcIP dstIP : BitVec 32}
    {sport dport : BitVec 16} {data_size i : ℕ} (hi : i = 15 ∨ 42 ≤ i) :
    (craft_new_packet h m srcIP dstIP sport dport data_size).mem i = m.mem i := by
  simp (disch := omega) only [craft_new_packet, Memory.store_of_disjoint]

/-! ## The frames of two buffers -/

section

variable {h : Host} {pm : PaxosMessage} {m m' : Mbuf} {sport dport : BitVec 16} {dstIP : BitVec 32}

/-- The bytes that a message leaves as they are. -/
lemma add_paxos_message_of_untouched {i : ℕ} (hi : i = 15 ∨ 58 + pm.accept.value.length ≤ i) :
    (add_paxos_message h pm m sport dport dstIP).mem i = m.mem i := by
  rw [add_paxos_message, craft_new_packet_of_untouched (by omega)]
  simp (disch := omega) only [Memory.write_of_disjoint, Memory.store_of_disjoint]

/-- Two buffers that agree on the type of service agree on the message and its headers. Each store
makes the buffers agree on what it writes and keeps what they agree on already; the headers' bytes
are all written but that one. -/
lemma eqOn_add_paxos_message {s : Set ℕ} (hs : Set.EqOn m.mem m'.mem s) (htos : 15 ∈ s) :
    Set.EqOn (add_paxos_message h pm m sport dport dstIP).mem
      (add_paxos_message h pm m' sport dport dstIP).mem
      (s ∪ Set.Ico 0 (58 + pm.accept.value.length)) := by
  have htype := Memory.eqOn_store (Memory.eqOn_store hs 42 pm.type.code) 44 pm.accept.iid
  have hballot := Memory.eqOn_store (Memory.eqOn_store htype 48 pm.accept.ballot) 50
    pm.accept.value_ballot
  have hlength := Memory.eqOn_store (Memory.eqOn_store hballot 52 pm.accept.aid) 54
    (BitVec.ofNat 32 pm.accept.value.length)
  have hvalue := Memory.eqOn_write hlength 58 pm.accept.value
  unfold add_paxos_message
  apply (eqOn_craft_new_packet h hvalue (by simp [htos]) _ _ _ _ _).mono
  rintro i (hi | ⟨-, hi⟩)
  · simp only [Set.mem_union, hi, true_or]
  · simp only [Set.mem_union, Set.mem_Ico]
    omega

/-- The length of the value is an `int`: the lengths of the frame are not cut. -/
lemma pkt_len_add_paxos_message (hlen : pm.accept.value.length < 2 ^ 31) :
    (add_paxos_message h pm m sport dport dstIP).pkt_len.toNat = 68 + pm.accept.value.length := by
  simp only [add_paxos_message, craft_new_packet, sizeof_paxos_message, sizeof_paxos_accept,
    sizeof_paxos_value, BitVec.toNat_ofNat]
  omega

/-- **The same frame leaves from two buffers** exactly when they agree on the type of service and on
the ten bytes behind the value. -/
theorem frames_eq_iff (h : Host) {pm : PaxosMessage} (m m' : Mbuf) (sport dport : BitVec 16)
    (dstIP : BitVec 32) (hlen : pm.accept.value.length < 2 ^ 31) :
    (add_paxos_message h pm m sport dport dstIP).frame =
        (add_paxos_message h pm m' sport dport dstIP).frame ↔
      m.mem 15 = m'.mem 15 ∧
        ∀ i, 58 + pm.accept.value.length ≤ i → i < 68 + pm.accept.value.length →
          m.mem i = m'.mem i := by
  rw [Mbuf.frame, Mbuf.frame, pkt_len_add_paxos_message hlen, pkt_len_add_paxos_message hlen,
    Memory.read_eq_read_iff]
  constructor
  · intro hframes
    have huntouched : ∀ i, i = 15 ∨ 58 + pm.accept.value.length ≤ i →
        i < 68 + pm.accept.value.length → m.mem i = m'.mem i := by
      intro i hi hlt
      have hbyte := hframes (show i ∈ Set.Ico 0 _ from ⟨Nat.zero_le i, by omega⟩)
      rwa [add_paxos_message_of_untouched hi,
        add_paxos_message_of_untouched hi] at hbyte
    exact ⟨huntouched 15 (.inl rfl) (by omega), fun i hi => huntouched i (.inr hi)⟩
  · rintro ⟨htos, hbehind⟩
    have hs : Set.EqOn m.mem m'.mem
        ({15} ∪ Set.Ico (58 + pm.accept.value.length) (68 + pm.accept.value.length)) := by
      rintro i (rfl | ⟨hi, hlt⟩)
      · exact htos
      · exact hbehind i hi hlt
    apply (eqOn_add_paxos_message hs (.inl rfl)).mono
    rintro i ⟨-, hi⟩
    simp only [Set.mem_union, Set.mem_Ico]
    omega

end

/-- A buffer that an earlier packet has left its bytes in. -/
def usedMbuf : Mbuf := { emptyMbuf with mem := fun _ => 1 }

/-- The same, cleared where a message with a value of three bytes leaves the buffer as it is. -/
def clearedMbuf : Mbuf :=
  { emptyMbuf with mem := fun i => if i = 15 ∨ 61 ≤ i ∧ i < 71 then 0 else 1 }

/-- A value of three bytes, in a buffer of zeros and in one that is full of other bytes. -/
theorem frames_eq_cleared :
    (accept2a 3).accept.value.length < 2 ^ 31 ∧ emptyMbuf.mem 14 ≠ clearedMbuf.mem 14 ∧
    (add_paxos_message host (accept2a 3) emptyMbuf LEARNER_PORT ACCEPTOR_PORT 0).frame =
      (add_paxos_message host (accept2a 3) clearedMbuf LEARNER_PORT ACCEPTOR_PORT 0).frame := by
  refine ⟨by decide, by decide, ?_⟩
  apply (frames_eq_iff host emptyMbuf clearedMbuf LEARNER_PORT ACCEPTOR_PORT 0 (by decide)).mpr
  refine ⟨by decide, fun i hi hlt => ?_⟩
  have hcleared : i = 15 ∨ 61 ≤ i ∧ i < 71 := .inr ⟨hi, hlt⟩
  show (0 : UInt8) = if i = 15 ∨ 61 ≤ i ∧ i < 71 then 0 else 1
  rw [if_pos hcleared]

/-- A message without a value: eleven bytes of the earlier packet leave with it. -/
theorem stale_bytes_leave :
    ¬ ∀ (h : Host) (pm : PaxosMessage) (m m' : Mbuf) (sport dport : BitVec 16) (dstIP : BitVec 32),
      m.Fits pm → m'.Fits pm →
      (add_paxos_message h pm m sport dport dstIP).frame =
        (add_paxos_message h pm m' sport dport dstIP).frame := by
  intro h
  have hframes := h host (accept2a 0) emptyMbuf usedMbuf LEARNER_PORT ACCEPTOR_PORT 0 (by decide)
    (by decide)
  exact absurd hframes (by decide +kernel)

end P4xos.Dpdk
