import P4xos.Dpdk.Acceptor

/-!
# The encoder of the DPDK proposer

`dpdk/proposer/main.c`: `send_paxos_message` is a second encoder beside `add_paxos_message`. It has
the headers written for 26 bytes of data, whatever the value is, and leaves the length of the value
in the Paxos header as the buffer had it.

1. `field_sent` says what is in the packet that is handed to the driver: the message, but for the
   length of its value. `pkt_len_sent`: 68 bytes of it are a frame, ten of them behind the header.
2. `paxos_rx_process_decoded`: the acceptor's part in the exchange is the message `decoded`. It is
   what a libpaxos that only records its calls is handed (`recorder`), so the result says nothing of
   the acceptor of libpaxos.
3. `decoded_of_holds`: on such a frame it has the value length that was in the buffer.
4. `arrives_iff`: a prepare arrives when it has no value; an accept when its value has ten bytes at
   most and an earlier packet has left its length in the buffer.

In a buffer of zeros no value arrives (`accept_not_arrived`).
-/

namespace P4xos.Dpdk

open P4xos.Lib

/-- Source: `dpdk/include/const.h` `PROPOSER_PORT` -/
def PROPOSER_PORT : BitVec 16 := 34952

namespace Acceptor

variable {A : Type*}

/-- An acceptor that keeps the message it is handed. -/
def recorder : LibAcceptor (Option PaxosMessage) where
  acceptor_receive_prepare _ req := (some { type := .PAXOS_PREPARE, accept := req }, none)
  acceptor_receive_accept _ req := (some { type := .PAXOS_ACCEPT, accept := req }, none)

/-- The message that `paxos_rx_process` decodes a packet to. -/
def decoded (h : Host) (x : Received) : Option PaxosMessage :=
  (paxos_rx_process recorder h none x).1

/-- What the acceptor of libpaxos does with a message it is handed. -/
def receive (lib : LibAcceptor A) (a : A) (pm : PaxosMessage) : A × Option PaxosMessage :=
  if pm.type = .PAXOS_PREPARE then lib.acceptor_receive_prepare a pm.accept
  else lib.acceptor_receive_accept a pm.accept

/-- **Whatever libpaxos does**, it is with the message decoded, and the rest is the reply. Both go
through the same tests in the same order, and a packet that fails one is dropped by both. -/
lemma paxos_rx_process_decoded (lib : LibAcceptor A) (h : Host) (a : A) (x : Received) :
    paxos_rx_process lib h a x =
      match decoded h x with
      | none => (a, none)
      | some pm => ((receive lib a pm).1, (receive lib a pm).2.map (reply h x.pkt)) := by
  unfold decoded paxos_rx_process
  by_cases hudp : x.pkt.field 8 23 ≠ 17
  · rw [if_pos hudp, if_pos hudp]
  · rw [if_neg hudp, if_neg hudp]
    by_cases hfor : x.pkt.field 16 36 ≠ ACCEPTOR_PORT ∧ x.tunnel = false
    · rw [if_pos hfor, if_pos hfor]
    · rw [if_neg hfor, if_neg hfor]
      by_cases hprepare : x.pkt.field 16 42 = PaxosMessageType.PAXOS_PREPARE.code
      · rw [if_pos hprepare, if_pos hprepare]
        rfl
      · rw [if_neg hprepare, if_neg hprepare]
        by_cases haccept : x.pkt.field 16 42 = PaxosMessageType.PAXOS_ACCEPT.code
        · rw [if_pos haccept, if_pos haccept]
          rfl
        · rw [if_neg haccept, if_neg haccept]
          rfl

end Acceptor

namespace Proposer

/-- The packet handed to the driver. `px->inst` is written twice, with the same value.
Source: `dpdk/proposer/main.c` `send_paxos_message` -/
def send_paxos_message (h : Host) (pm : PaxosMessage) (m : Mbuf) : Mbuf :=
  -- the source address is 192.168.4.99
  let m := craft_new_packet h m 0xC0A80463 ACCEPTOR_ADDR PROPOSER_PORT ACCEPTOR_PORT
    sizeof_paxos_message
  let mem := m.mem.store 42 pm.type.code
  let mem := mem.store 44 pm.accept.iid
  let mem := mem.store 44 pm.accept.iid
  let mem := mem.store 48 pm.accept.ballot
  let mem := mem.store 50 pm.accept.value_ballot
  let mem := mem.store 52 (0 : BitVec 16)
  let mem := mem.write 58 pm.accept.value
  { m with mem := mem }

/-- The value fits the buffer. -/
def Fits (m : Mbuf) (pm : PaxosMessage) : Prop :=
  14 + 20 + 8 + 16 + pm.accept.value.length ≤ m.room.toNat

/-- Two lengths to compare. -/
instance (m : Mbuf) (pm : PaxosMessage) : Decidable (Fits m pm) :=
  inferInstanceAs (Decidable (_ ≤ _))

section

variable (h : Host) (pm : PaxosMessage) (m : Mbuf)

/-- The value does not count. -/
lemma pkt_len_sent : (send_paxos_message h pm m).pkt_len.toNat = 68 := by
  simp [send_paxos_message, craft_new_packet, sizeof_paxos_message, sizeof_paxos_accept,
    sizeof_paxos_value]

/-- **What is in the packet**: the message, but for its value length, which is what the buffer had
in its place. -/
lemma field_sent :
    (send_paxos_message h pm m).field 8 23 = 17 ∧
      (send_paxos_message h pm m).field 16 36 = ACCEPTOR_PORT ∧
      (send_paxos_message h pm m).field 16 42 = pm.type.code ∧
      (send_paxos_message h pm m).field 32 44 = pm.accept.iid ∧
      (send_paxos_message h pm m).field 16 48 = pm.accept.ballot ∧
      (send_paxos_message h pm m).field 16 50 = pm.accept.value_ballot ∧
      (send_paxos_message h pm m).field 32 54 = m.field 32 54 := by
  refine ⟨Mbuf.field_of_read (n := 1) rfl ?_, Mbuf.field_of_read (n := 2) rfl ?_,
    Mbuf.field_of_read (n := 2) rfl ?_, Mbuf.field_of_read (n := 4) rfl ?_,
    Mbuf.field_of_read (n := 2) rfl ?_, Mbuf.field_of_read (n := 2) rfl ?_, ?_⟩
  case refine_7 =>
    simp (disch := omega) only [Mbuf.field, send_paxos_message, craft_new_packet,
      Memory.read_store_of_disjoint, Memory.read_write_of_disjoint]
  all_goals
    simp (disch := omega) only [send_paxos_message, craft_new_packet,
      Memory.read_store_of_disjoint, Memory.read_write_of_disjoint, Memory.read_store_self]

/-- The value is in the buffer, inside the frame or not. -/
lemma read_value_sent :
    (send_paxos_message h pm m).mem.read 58 pm.accept.value.length = pm.accept.value := by
  unfold send_paxos_message
  rw [Memory.read_write_self le_rfl, List.take_length]

end

/-- The frame comes in as the message, up to the acceptor id, which a proposer has none of, with all
of its value inside the frame. -/
structure Arrives (h : Host) (x : Received) (pm : PaxosMessage) : Prop where
  decoded : ∃ aid, Acceptor.decoded h x = some { pm with accept := { pm.accept with aid := aid } }
  inside : 14 + 20 + 8 + 16 + pm.accept.value.length ≤ x.pkt.pkt_len.toNat

/-- The length of a value as a `size_t` is small only if it is small as an `int`. -/
lemma signExtend_eq_iff {y : BitVec 32} {n : ℕ} (hn : n < 2 ^ 31) :
    (y.signExtend 64).toNat = n ↔ y.toNat = n := by
  have hy := y.isLt
  constructor
  · intro h
    rw [BitVec.toNat_signExtend, BitVec.toNat_setWidth_of_le (by decide)] at h
    split_ifs at h <;> omega
  · intro h
    rw [toNat_signExtend (by omega), h]

section

variable {h : Host} {pm : PaxosMessage} {m m' : Mbuf}
  (hm : m'.Holds (send_paxos_message h pm m).frame)
include hm

/-- Whatever the value is. -/
lemma pkt_len_of_holds : m'.pkt_len.toNat = 68 := by
  rw [hm.pkt_len, Mbuf.frame, Memory.length_read, pkt_len_sent]

/-- The acceptor reads the fields that were in the packet. -/
lemma field_of_holds {w off : ℕ} (hoff : off + w / 8 ≤ 68) :
    m'.field w off = (send_paxos_message h pm m).field w off := by
  have hlen := pkt_len_sent h pm m
  rw [hm.field (by rw [Mbuf.frame, Memory.length_read]; omega), Mbuf.bits_frame (by omega)]

/-- And the bytes of the value that are inside the frame. -/
lemma read_of_holds {k : ℕ} (hk : 58 + k ≤ 68) :
    m'.mem.read 58 k = (send_paxos_message h pm m).mem.read 58 k := by
  have hlen := pkt_len_sent h pm m
  have hlen' := pkt_len_of_holds hm
  have hframe := congrArg (slice 58 k) hm.frame
  rw [Mbuf.frame, Mbuf.frame, Memory.slice_read (by omega), Memory.slice_read (by omega),
    Nat.zero_add] at hframe
  exact hframe

/-- The packet gets to the branch for its type. `send_paxos_message` writes the protocol, the
acceptor's port and the type, which are what the tests look at. -/
lemma decoded_of_holds (htype : pm.type = .PAXOS_PREPARE ∨ pm.type = .PAXOS_ACCEPT)
    (h' : Host) (tunnel : Bool) :
    Acceptor.decoded h' ⟨m', tunnel⟩ = some { type := pm.type, accept :=
      if pm.type = .PAXOS_PREPARE then Acceptor.prepare m' else Acceptor.accept m' } := by
  obtain ⟨hproto, hport, hmsgtype, -⟩ := field_sent h pm m
  rw [← field_of_holds hm (by omega)] at hproto hport hmsgtype
  have hfor : ¬ (m'.field 16 36 ≠ ACCEPTOR_PORT ∧ tunnel = false) := fun h => h.1 hport
  unfold Acceptor.decoded Acceptor.paxos_rx_process
  simp only
  rw [if_neg (not_not.mpr hproto), if_neg hfor, hmsgtype]
  rcases htype with hpm | hpm
  · rw [hpm, if_pos rfl, if_pos rfl]
    rfl
  · have hne : PaxosMessageType.PAXOS_ACCEPT.code ≠ PaxosMessageType.PAXOS_PREPARE.code := by decide
    rw [hpm, if_neg hne, if_pos rfl, if_neg (by decide)]
    rfl

/-- A prepare arrives without its value. The acceptor takes the value of a prepare for empty, and
the proposer sends it without its bytes. -/
lemma arrives_prepare_iff (hpm : pm.type = .PAXOS_PREPARE) (h' : Host) (tunnel : Bool) :
    Arrives h' ⟨m', tunnel⟩ pm ↔ pm.accept.value.length = 0 := by
  obtain ⟨-, -, -, hiid, hballot, hvballot, -⟩ := field_sent h pm m
  rw [← field_of_holds hm (by omega)] at hiid hballot hvballot
  have hpkt : m'.pkt_len.toNat = 68 := pkt_len_of_holds hm
  have hdecoded := decoded_of_holds hm (.inl hpm) h' tunnel
  rw [if_pos hpm] at hdecoded
  constructor
  · rintro ⟨⟨aid, hmessage⟩, -⟩
    rw [hdecoded, Option.some_inj] at hmessage
    have hvalue : [] = pm.accept.value := congrArg (fun pm => pm.accept.value) hmessage
    rw [← hvalue, List.length_nil]
  · intro hempty
    have hvalue : pm.accept.value = [] := List.length_eq_zero_iff.mp hempty
    refine ⟨⟨m'.field 16 52, ?_⟩, ?_⟩
    · rw [hdecoded, Acceptor.prepare, hiid, hballot, hvballot, ← hvalue]
    · show 14 + 20 + 8 + 16 + pm.accept.value.length ≤ m'.pkt_len.toNat
      rw [hpkt, hvalue]
      decide

/-- An accept arrives with as many bytes of its value as the buffer says. The frame has 68 bytes
whatever the value, which leaves ten for it, and the sender does not write the length field. -/
lemma arrives_accept_iff (hpm : pm.type = .PAXOS_ACCEPT) (hfits : Fits m pm) (h' : Host)
    (tunnel : Bool) :
    Arrives h' ⟨m', tunnel⟩ pm ↔ pm.accept.value.length ≤ 10 ∧
      (m.field 32 54).toNat = pm.accept.value.length := by
  obtain ⟨-, -, -, hiid, hballot, hvballot, hlen⟩ := field_sent h pm m
  rw [← field_of_holds hm (by omega)] at hiid hballot hvballot hlen
  have hpkt : m'.pkt_len.toNat = 68 := pkt_len_of_holds hm
  have hne : pm.type ≠ .PAXOS_PREPARE := by
    rw [hpm]
    decide
  have hdecoded := decoded_of_holds hm (.inr hpm) h' tunnel
  rw [if_neg hne] at hdecoded
  have hsmall : pm.accept.value.length < 2 ^ 31 := by
    have hroom := m.room.isLt
    unfold Fits at hfits
    omega
  constructor
  · rintro ⟨⟨aid, hmessage⟩, hinside⟩
    have hinside' : 14 + 20 + 8 + 16 + pm.accept.value.length ≤ m'.pkt_len.toNat := hinside
    rw [hdecoded, Option.some_inj] at hmessage
    have hvalue : m'.mem.read 58 ((m'.field 32 54).signExtend 64).toNat = pm.accept.value :=
      congrArg (fun pm => pm.accept.value) hmessage
    have hsize := congrArg List.length hvalue
    rw [Memory.length_read, hlen, signExtend_eq_iff hsmall] at hsize
    exact ⟨by omega, hsize⟩
  · rintro ⟨hten, hstale⟩
    rw [← signExtend_eq_iff hsmall] at hstale
    have hvalue : m'.mem.read 58 pm.accept.value.length = pm.accept.value := by
      rw [read_of_holds hm (by omega), read_value_sent]
    refine ⟨⟨m'.field 16 52, ?_⟩, ?_⟩
    · rw [hdecoded, Acceptor.accept, Acceptor.prepare, hlen, hstale, hvalue, hiid, hballot,
        hvballot]
    · show 14 + 20 + 8 + 16 + pm.accept.value.length ≤ m'.pkt_len.toNat
      omega

end

/-- **The proposer's frame means to the acceptor what it meant to the proposer** exactly if it is a
prepare without a value, or an accept with a value of at most ten bytes whose length an earlier
packet has left in the buffer. -/
theorem arrives_iff {h : Host} {pm : PaxosMessage} {m m' : Mbuf}
    (htype : pm.type = .PAXOS_PREPARE ∨ pm.type = .PAXOS_ACCEPT) (hfits : Fits m pm)
    (hm : m'.Holds (send_paxos_message h pm m).frame) (h' : Host) (tunnel : Bool) :
    Arrives h' ⟨m', tunnel⟩ pm ↔
      (pm.type = .PAXOS_PREPARE → pm.accept.value.length = 0) ∧
      (pm.type = .PAXOS_ACCEPT → pm.accept.value.length ≤ 10 ∧
        (m.field 32 54).toNat = pm.accept.value.length) := by
  rcases htype with hpm | hpm
  · have hne : pm.type ≠ .PAXOS_ACCEPT := by
      rw [hpm]
      decide
    rw [arrives_prepare_iff hm hpm]
    constructor
    · intro hempty
      exact ⟨fun _ => hempty, fun h => absurd h hne⟩
    · intro hboth
      exact hboth.1 hpm
  · have hne : pm.type ≠ .PAXOS_PREPARE := by
      rw [hpm]
      decide
    rw [arrives_accept_iff hm hpm hfits]
    constructor
    · intro hstale
      exact ⟨fun h => absurd h hne, fun _ => hstale⟩
    · intro hboth
      exact hboth.2 hpm

/-- A buffer in which a packet with a value of one byte has been before. -/
def usedMbuf : Mbuf := add_paxos_message host (accept2a 1) emptyMbuf LEARNER_PORT ACCEPTOR_PORT
  ACCEPTOR_ADDR

/-- In that buffer the next accept with one byte arrives. -/
theorem arrives_used :
    Arrives host ⟨send_paxos_message host (accept2a 1) usedMbuf, false⟩ (accept2a 1) ↔
      ((accept2a 1).type = .PAXOS_PREPARE → (accept2a 1).accept.value.length = 0) ∧
      ((accept2a 1).type = .PAXOS_ACCEPT → (accept2a 1).accept.value.length ≤ 10 ∧
        (usedMbuf.field 32 54).toNat = (accept2a 1).accept.value.length) :=
  arrives_iff (.inr rfl) (by decide) ⟨rfl, by decide +kernel⟩ host false

/-- In a new buffer the acceptor reads a value of no bytes. The size is written in network byte
order and read as it stands, and one byte of it is left in the frame: the decoded message is
computed. -/
theorem accept_not_arrived :
    ¬ ∀ (h h' : Host) (pm : PaxosMessage) (m m' : Mbuf) (tunnel : Bool),
      (pm.type = .PAXOS_PREPARE ∨ pm.type = .PAXOS_ACCEPT) → Fits m pm →
      m'.Holds (send_paxos_message h pm m).frame → Arrives h' ⟨m', tunnel⟩ pm := by
  intro hall
  obtain ⟨⟨aid, hmessage⟩, -⟩ := hall host host (accept2a 1) emptyMbuf
    (send_paxos_message host (accept2a 1) emptyMbuf) false (.inr rfl) (by decide)
    ⟨rfl, by decide +kernel⟩
  have hread : (Acceptor.decoded host
      ⟨send_paxos_message host (accept2a 1) emptyMbuf, false⟩).map (fun pm => pm.accept.value) =
        some [] := by decide +kernel
  rw [hmessage] at hread
  have hvalue : (accept2a 1).accept.value = [] := Option.some_inj.mp hread
  revert hvalue
  decide

end Proposer

end P4xos.Dpdk
