import P4xos.Dpdk.Received

/-!
# The DPDK acceptor

`dpdk/acceptor/main.c`: a prepare or an accept goes through the acceptor of libpaxos, and the answer
is written over it. The answer has the length of the request: neither the lengths of the buffer nor
those in the IP and UDP headers are written. Of libpaxos the repository has the headers and the
compiled archive `dpdk/lib/libpaxos.a`; its acceptor is a parameter here, and what is proved holds
for all.

* `reply_headers`, `reply_promise`: what is in the packet that leaves. A promise is written as a
  whole, with its length and its value, also where the value ends behind the packet.
* `promise_survives_iff`: it comes through when its value has ten bytes at most. A prepare without a
  value leaves room for 26 bytes, of which the header takes 16.
* `decodes_reply_iff`: what leaves says what libpaxos answered when the packet that came in carried
  what is not written: the instance and the value in all cases, the ballots in `PAXOS_ACCEPTED`.
* `answer_decodes_iff`: so the answer to an accept leaves as libpaxos made it when the accept
  carries what is not written.

The frames that come in are those that `add_paxos_message` builds for the first result, and any for
the second.
-/

namespace P4xos.Dpdk

open P4xos.Lib

/-- The acceptor of libpaxos: its state after a message, and the answer, if the return value is 1.
What the two functions do with the messages is nowhere assumed.
Source: `dpdk/include/acceptor.h` -/
structure LibAcceptor (A : Type*) where
  acceptor_receive_prepare : A → PaxosAccept → A × Option PaxosMessage
  acceptor_receive_accept : A → PaxosAccept → A × Option PaxosMessage

namespace Acceptor

variable {A : Type*}

/-- The message in a packet, without its value. -/
def prepare (m : Mbuf) : PaxosAccept where
  iid := m.field 32 44
  ballot := m.field 16 48
  value_ballot := m.field 16 50
  aid := m.field 16 52
  value := []

/-- The message in a packet; its value stays in the buffer. -/
def accept (m : Mbuf) : PaxosAccept :=
  { prepare m with value := m.mem.read 58 ((m.field 32 54).signExtend 64).toNat }

/-- The answer written over the Paxos header. The code and the fields are written in network byte
order, a value behind the header. -/
def write_answer (mem : Memory) (out : PaxosMessage) : Memory :=
  let mem := mem.store 42 out.type.code
  match out.type with
  | .PAXOS_PROMISE =>
      let mem := mem.store 44 out.accept.iid
      let mem := mem.store 48 out.accept.ballot
      let mem := mem.store 50 out.accept.value_ballot
      let mem := mem.store 52 out.accept.aid
      let mem := mem.store 54 (BitVec.ofNat 32 out.accept.value.length)
      mem.write 58 out.accept.value
  | .PAXOS_ACCEPTED => mem.store 52 out.accept.aid
  | .PAXOS_PREEMPTED =>
      let mem := mem.store 48 out.accept.ballot
      let mem := mem.store 50 out.accept.value_ballot
      mem.store 52 out.accept.aid
  | _ => mem

/-- The packet addressed to the learners. The checksum of the UDP header is that of the pseudo
header only. -/
def reply (h : Host) (m : Mbuf) (out : PaxosMessage) : Mbuf :=
  let mem := write_answer m.mem out
  let mem := mem.store 0 (ETHER_ADDR_FOR_IPV4_MCAST LEARNER_ADDR)
  let mem := mem.store 30 LEARNER_ADDR
  let mem := mem.store 24 (0 : BitVec 16)
  let mem := mem.store 34 ACCEPTOR_PORT
  let mem := mem.store 36 LEARNER_PORT
  let mem := mem.store 40 (h.psd_sum (mem.read 14 20))
  { m with mem := mem }

/-- The state of libpaxos, and the packet left for transmission, unless the return value is `-1`.
Source: `dpdk/acceptor/main.c` `paxos_rx_process` -/
def paxos_rx_process (lib : LibAcceptor A) (h : Host) (a : A) (x : Received) : A × Option Mbuf :=
  if x.pkt.field 8 23 ≠ 17 then (a, none)
  else if x.pkt.field 16 36 ≠ ACCEPTOR_PORT ∧ x.tunnel = false then (a, none)
  else
    let (a, out) :=
      if x.pkt.field 16 42 = PaxosMessageType.PAXOS_PREPARE.code then
        lib.acceptor_receive_prepare a (prepare x.pkt)
      else if x.pkt.field 16 42 = PaxosMessageType.PAXOS_ACCEPT.code then
        lib.acceptor_receive_accept a (accept x.pkt)
      else (a, none)
    (a, out.map (reply h x.pkt))

/-! ## What is in the reply -/

section

variable (h : Host) (m : Mbuf) {out : PaxosMessage}

/-- The answer leaves the headers in front of it alone. -/
lemma read_write_answer {off k : ℕ} (hk : off + k ≤ 42) (mem : Memory) (out : PaxosMessage) :
    (write_answer mem out).read off k = mem.read off k := by
  unfold write_answer
  cases out.type <;>
    simp (disch := omega) only [Memory.read_store_of_disjoint, Memory.read_write_of_disjoint]

/-- The lengths of the buffer and of the IP and UDP headers are those of the request. -/
lemma reply_headers (out : PaxosMessage) :
    (reply h m out).data_len = m.data_len ∧ (reply h m out).pkt_len = m.pkt_len ∧
      (reply h m out).field 16 16 = m.field 16 16 ∧ (reply h m out).field 16 38 = m.field 16 38 ∧
      (reply h m out).field 8 23 = m.field 8 23 ∧ (reply h m out).field 16 36 = LEARNER_PORT := by
  refine ⟨rfl, rfl, ?_, ?_, ?_, ?_⟩
  · simp (disch := decide) only [Mbuf.field, reply, Memory.read_store_of_disjoint,
      read_write_answer]
  · simp (disch := decide) only [Mbuf.field, reply, Memory.read_store_of_disjoint,
      read_write_answer]
  · simp (disch := decide) only [Mbuf.field, reply, Memory.read_store_of_disjoint,
      read_write_answer]
  · apply Mbuf.field_of_read (n := 2) rfl
    simp (disch := decide) only [reply, Memory.read_store_of_disjoint, Memory.read_store_self]

/-- A promise is written as a whole. Each field is read past the stores that follow its own. -/
lemma reply_promise (hout : out.type = .PAXOS_PROMISE) :
    (reply h m out).field 16 42 = PaxosMessageType.PAXOS_PROMISE.code ∧
      (reply h m out).field 32 44 = out.accept.iid ∧
      (reply h m out).field 16 48 = out.accept.ballot ∧
      (reply h m out).field 16 50 = out.accept.value_ballot ∧
      (reply h m out).field 16 52 = out.accept.aid ∧
      (reply h m out).field 32 54 = BitVec.ofNat 32 out.accept.value.length ∧
      (reply h m out).mem.read 58 out.accept.value.length = out.accept.value := by
  refine ⟨Mbuf.field_of_read (n := 2) rfl ?_, Mbuf.field_of_read (n := 4) rfl ?_,
    Mbuf.field_of_read (n := 2) rfl ?_, Mbuf.field_of_read (n := 2) rfl ?_,
    Mbuf.field_of_read (n := 2) rfl ?_, Mbuf.field_of_read (n := 4) rfl ?_, ?_⟩
  case refine_7 =>
    simp (disch := omega) only [reply, write_answer, hout, Memory.read_store_of_disjoint]
    rw [Memory.read_write_self le_rfl, List.take_length]
  all_goals
    simp (disch := omega) only [reply, write_answer, hout, Memory.read_store_of_disjoint,
      Memory.read_write_of_disjoint, Memory.read_store_self]

end

/-! ## The promise on the wire -/

/-- The lengths that `add_paxos_message` writes into the headers. -/
lemma bits_frame_lengths (x : Send) :
    bits 16 16 x.frame = BitVec.ofNat 16 (54 + x.value.length) ∧
      bits 16 38 x.frame = BitVec.ofNat 16 (34 + x.value.length) := by
  have hip : 54 + x.value.length = 20 + 8 + (sizeof_paxos_message + x.value.length) := by
    simp only [sizeof_paxos_message, sizeof_paxos_accept, sizeof_paxos_value]
    omega
  have hudp : 34 + x.value.length = 8 + (sizeof_paxos_message + x.value.length) := by
    simp only [sizeof_paxos_message, sizeof_paxos_accept, sizeof_paxos_value]
    omega
  rw [hip, hudp]
  refine ⟨x.bits_frame (n := 2) rfl (by decide) ?_, x.bits_frame (n := 2) rfl (by decide) ?_⟩ <;>
  simp (disch := decide) only [Send.sent, add_paxos_message, craft_new_packet, Send.value,
    Memory.read_store_of_disjoint, Memory.read_store_self]

/-- A prepare arrives as it was sent. -/
lemma prepare_of_holds {x : Send} (hempty : x.value = []) {m : Mbuf} (hm : m.Holds x.frame) :
    m.field 8 23 = 17 ∧ m.field 16 36 = x.dport ∧ m.field 16 42 = x.pm.type.code ∧
      prepare m = x.pm.accept := by
  have hlen := x.length_frame
  obtain ⟨-, hproto, hport⟩ := x.bits_frame_headers
  obtain ⟨h₁, h₂, h₃, h₄, h₅, -⟩ := x.bits_frame_paxos
  have hvalue : x.pm.accept.value = [] := hempty
  refine ⟨?_, ?_, ?_, ?_⟩
  · rw [hm.field (by omega), hproto]
  · rw [hm.field (by omega), hport]
  · rw [hm.field (by omega), h₁]
  · rw [prepare, hm.field (by omega), hm.field (by omega), hm.field (by omega),
      hm.field (by omega), h₂, h₃, h₄, h₅, ← hvalue]

/-- The promise is covered by all four lengths of the packet, and the learner reads it from the
frame. -/
structure Survives (paxos_value_new : Bytes → ℕ → Bytes) (promise : PaxosAccept) (m : Mbuf) :
    Prop where
  data_len : 14 + 20 + 8 + 16 + promise.value.length ≤ m.data_len.toNat
  pkt_len : 14 + 20 + 8 + 16 + promise.value.length ≤ m.pkt_len.toNat
  total_length : 20 + 8 + 16 + promise.value.length ≤ (m.field 16 16).toNat
  dgram_len : 8 + 16 + promise.value.length ≤ (m.field 16 38).toNat
  decoded : ∀ tunnel, Dpdk.paxos_rx_process paxos_value_new [LEARNER_PORT] tunnel m.frame =
    some { iid := promise.iid, ballot := promise.ballot, value_ballot := promise.value_ballot,
           aid := promise.aid, value := promise.value }

/-- What the learner reads from a promise that is inside the frame. The frame has 68 bytes, of which
58 are headers, so the fields are all inside and the value is if it has ten bytes. -/
lemma decoded_reply {paxos_value_new : Bytes → ℕ → Bytes} (hnew : Copies paxos_value_new) (h : Host)
    {m : Mbuf} {out : PaxosMessage} (hproto : m.field 8 23 = 17) (hlen : m.pkt_len.toNat = 68)
    (hout : out.type = .PAXOS_PROMISE) (hvalue : out.accept.value.length ≤ 10) (tunnel : Bool) :
    Dpdk.paxos_rx_process paxos_value_new [LEARNER_PORT] tunnel (reply h m out).frame =
      some { iid := out.accept.iid, ballot := out.accept.ballot,
             value_ballot := out.accept.value_ballot, aid := out.accept.aid,
             value := out.accept.value } := by
  have hlen' : (reply h m out).pkt_len.toNat = 68 := hlen
  obtain ⟨-, -, -, -, hproto', hport⟩ := reply_headers h m out
  obtain ⟨h₁, h₂, h₃, h₄, h₅, h₆, h₇⟩ := reply_promise h m hout
  have hfield : ∀ w off, off + w / 8 ≤ 68 →
      bits w off (reply h m out).frame = (reply h m out).field w off := by
    intro w off hoff
    exact Mbuf.bits_frame (by omega)
  have hvsize : ((bits 32 54 (reply h m out).frame).signExtend 64).toNat =
      out.accept.value.length := by
    have hsize : (BitVec.ofNat 32 out.accept.value.length).toNat = out.accept.value.length := by
      rw [BitVec.toNat_ofNat]
      exact Nat.mod_eq_of_lt (by omega)
    rw [hfield 32 54 (by omega), h₆, toNat_signExtend (by omega), hsize]
  have htake : paxos_value_new ((reply h m out).frame.drop 58) out.accept.value.length =
      out.accept.value := by
    rw [hnew _ _ (by rw [List.length_drop, Mbuf.frame, Memory.length_read]; omega)]
    calc ((reply h m out).frame.drop 58).take out.accept.value.length
        = slice 58 out.accept.value.length (reply h m out).frame := rfl
      _ = (reply h m out).mem.read 58 out.accept.value.length := by
          rw [Mbuf.frame, Memory.slice_read (by omega), Nat.zero_add]
      _ = out.accept.value := h₇
  have hproto'' : bits 8 23 (reply h m out).frame = 17 := by
    rw [hfield 8 23 (by omega), hproto', hproto]
  have hport' : bits 16 36 (reply h m out).frame ∈ [LEARNER_PORT] := by
    rw [hfield 16 36 (by omega), hport]
    exact List.mem_singleton_self _
  have htype : rx_msgtype [LEARNER_PORT] tunnel (reply h m out).frame =
      some PaxosMessageType.PAXOS_PROMISE.code := by
    rw [rx_msgtype_eq hproto'' hport', hfield 16 42 (by omega), h₁]
  rw [paxos_rx_process_eq, if_pos htype]
  simp only [read_promise, read_value, vsize, hvsize, htake]
  rw [hfield 32 44 (by omega), h₂, hfield 16 48 (by omega), h₃, hfield 16 50 (by omega), h₄,
    hfield 16 52 (by omega), h₅]

/-- **A promise comes through when its value has ten bytes at most**: the prepare it is written over
had 26 bytes for the header and the value. -/
theorem promise_survives_iff (lib : LibAcceptor A) {paxos_value_new : Bytes → ℕ → Bytes}
    (hnew : Copies paxos_value_new) (h : Host) {a a' : A} {x : Send}
    (hprepare : x.pm.type = .PAXOS_PREPARE) (hempty : x.value = [])
    (hport : x.dport = ACCEPTOR_PORT) {m : Mbuf} (hm : m.Holds x.frame) (tunnel : Bool)
    {out : PaxosMessage}
    (hout : lib.acceptor_receive_prepare a x.pm.accept = (a', some out))
    (htype : out.type = .PAXOS_PROMISE) :
    ∃ m', paxos_rx_process lib h a ⟨m, tunnel⟩ = (a', some m') ∧
      (Survives paxos_value_new out.accept m' ↔ out.accept.value.length ≤ 10) := by
  obtain ⟨hproto, hdport, hmsgtype, hmessage⟩ := prepare_of_holds hempty hm
  have hfor : ¬ (m.field 16 36 ≠ ACCEPTOR_PORT ∧ tunnel = false) := by
    rintro ⟨hne, -⟩
    exact hne (hdport.trans hport)
  refine ⟨reply h m out, ?_, ?_⟩
  · rw [hprepare] at hmsgtype
    unfold paxos_rx_process
    simp only
    rw [if_neg (not_not.mpr hproto), if_neg hfor, if_pos hmsgtype, hmessage, hout]
    rfl
  · obtain ⟨hdata, hpkt, hip, hudp, -, -⟩ := reply_headers h m out
    obtain ⟨htotal, hdgram⟩ := bits_frame_lengths x
    have hlen := x.length_frame
    rw [hempty, List.length_nil] at hlen htotal hdgram
    have hlen₁ := hm.data_len
    have hlen₂ := hm.pkt_len
    constructor
    · intro hs
      have hle := hs.pkt_len
      rw [hpkt] at hle
      omega
    · intro hvalue
      refine ⟨?_, ?_, ?_, ?_, decoded_reply hnew h hproto (by omega) htype hvalue⟩
      · rw [hdata]
        omega
      · rw [hpkt]
        omega
      · rw [hip, hm.field (by omega), htotal]
        simp only [BitVec.toNat_ofNat]
        omega
      · rw [hudp, hm.field (by omega), hdgram]
        simp only [BitVec.toNat_ofNat]
        omega

/-- An acceptor of one instance that has accepted `a`: it promises and accepts ballots that are not
below its own. -/
def oneInstance : LibAcceptor PaxosAccept where
  acceptor_receive_prepare a req :=
    if a.ballot ≤ req.ballot then
      ({ a with ballot := req.ballot },
        some { type := .PAXOS_PROMISE, accept := { a with ballot := req.ballot } })
    else (a, some { type := .PAXOS_PREEMPTED, accept := a })
  acceptor_receive_accept a req :=
    if a.ballot ≤ req.ballot then
      let acc := { req with value_ballot := req.ballot, aid := a.aid }
      (acc, some { type := .PAXOS_ACCEPTED, accept := acc })
    else (a, some { type := .PAXOS_PREEMPTED, accept := a })

/-- A value of `n` bytes accepted in ballot 1 of instance 7. -/
def accepted7 (n : ℕ) : PaxosAccept where
  iid := 7
  ballot := 1
  value_ballot := 1
  aid := 2
  value := List.replicate n 0x41

/-- The prepare of ballot 2. -/
def prepare7 : Send where
  host := host
  pm := { type := .PAXOS_PREPARE
          accept := { iid := 7, ballot := 2, value_ballot := 0, aid := 0, value := [] } }
  mbuf := emptyMbuf
  sport := LEARNER_PORT
  dport := ACCEPTOR_PORT
  dstIP := ACCEPTOR_ADDR
  fits := by decide

/-- The promise for it. -/
def promise7 (n : ℕ) : PaxosMessage where
  type := .PAXOS_PROMISE
  accept := { accepted7 n with ballot := 2 }

/-- The buffer holds the frame that was sent. -/
lemma holds_prepare7 : prepare7.sent.Holds prepare7.frame := ⟨rfl, by decide +kernel⟩

/-- A value of ten bytes. -/
theorem promise_survives_ten :
    ∃ m', paxos_rx_process oneInstance host (accepted7 10) ⟨prepare7.sent, false⟩ =
        ((promise7 10).accept, some m') ∧
      (Survives (fun v s => v.take s) (promise7 10).accept m' ↔
        (promise7 10).accept.value.length ≤ 10) :=
  promise_survives_iff oneInstance (fun _ _ _ => rfl) host rfl rfl rfl holds_prepare7 false rfl rfl

/-- A value of eleven bytes: the last one is not sent. The acceptor's whole reply is computed, and
its length is that of a value of ten bytes. -/
theorem promise_cut :
    prepare7.sent.Holds prepare7.frame ∧
    ¬ ∃ m', paxos_rx_process oneInstance host (accepted7 11) ⟨prepare7.sent, false⟩ =
        ((promise7 11).accept, some m') ∧
      Survives (fun v s => v.take s) (promise7 11).accept m' := by
  refine ⟨holds_prepare7, ?_⟩
  rintro ⟨m', hm', hs⟩
  have hreply : (paxos_rx_process oneInstance host (accepted7 11) ⟨prepare7.sent, false⟩).2.map
      (fun m => m.pkt_len) = some 68 := by decide +kernel
  rw [hm'] at hreply
  have hlen : m'.pkt_len = 68 := Option.some_inj.mp hreply
  have hle := hs.pkt_len
  rw [hlen] at hle
  revert hle
  decide

/-! ## The answer to an accept -/

/-- An accept for the acceptor; all of its header is inside the frame. -/
structure IsAccept (x : Received) : Prop where
  proto : x.pkt.field 8 23 = 17
  port : x.pkt.field 16 36 = ACCEPTOR_PORT ∨ x.tunnel = true
  msgtype : x.pkt.field 16 42 = PaxosMessageType.PAXOS_ACCEPT.code
  header : 14 + 20 + 8 + 16 ≤ x.pkt.pkt_len.toNat

/-- What a frame says, field by field, is the message. -/
structure Decodes (f : Bytes) (out : PaxosMessage) : Prop where
  type : bits 16 42 f = out.type.code
  iid : bits 32 44 f = out.accept.iid
  ballot : bits 16 48 f = out.accept.ballot
  value_ballot : bits 16 50 f = out.accept.value_ballot
  aid : bits 16 52 f = out.accept.aid
  value_len : (bits 32 54 f).toNat = out.accept.value.length
  value : slice 58 out.accept.value.length f = out.accept.value

/-- The packet that is answered has already what the answer does not write: the instance and the
value, and for `PAXOS_ACCEPTED` both ballots. -/
structure Carries (m : Mbuf) (out : PaxosMessage) : Prop where
  iid : m.field 32 44 = out.accept.iid
  ballots : out.type = .PAXOS_ACCEPTED →
    m.field 16 48 = out.accept.ballot ∧ m.field 16 50 = out.accept.value_ballot
  value_len : (m.field 32 54).toNat = out.accept.value.length
  value : slice 58 out.accept.value.length m.frame = out.accept.value

section

variable (h : Host) (m : Mbuf) {out : PaxosMessage}
  (htype : out.type = .PAXOS_ACCEPTED ∨ out.type = .PAXOS_PREEMPTED)
include htype

/-- The type and the acceptor are written in both answers. -/
lemma reply_written : (reply h m out).field 16 42 = out.type.code ∧
    (reply h m out).field 16 52 = out.accept.aid := by
  refine ⟨Mbuf.field_of_read (n := 2) rfl ?_, Mbuf.field_of_read (n := 2) rfl ?_⟩ <;>
  rcases htype with hout | hout <;>
  simp (disch := decide) only [reply, write_answer, hout, Memory.read_store_of_disjoint,
    Memory.read_store_self]

/-- The instance, and all that follows the acceptor in the buffer, in neither. -/
lemma reply_kept : (reply h m out).field 32 44 = m.field 32 44 ∧
    ∀ off k, 54 ≤ off → (reply h m out).mem.read off k = m.mem.read off k := by
  constructor
  · rcases htype with hout | hout <;>
    simp (disch := decide) only [Mbuf.field, reply, write_answer, hout,
      Memory.read_store_of_disjoint]
  · intro off k hoff
    rcases htype with hout | hout <;>
    simp (disch := omega) only [reply, write_answer, hout, Memory.read_store_of_disjoint]

/-- The ballots are written when the acceptor refuses. -/
lemma reply_ballots :
    (reply h m out).field 16 48 =
        (if out.type = .PAXOS_ACCEPTED then m.field 16 48 else out.accept.ballot) ∧
      (reply h m out).field 16 50 =
        (if out.type = .PAXOS_ACCEPTED then m.field 16 50 else out.accept.value_ballot) := by
  rcases htype with hout | hout
  · rw [if_pos hout, if_pos hout]
    constructor <;>
    simp (disch := decide) only [Mbuf.field, reply, write_answer, hout,
      Memory.read_store_of_disjoint]
  · have hne : out.type ≠ .PAXOS_ACCEPTED := by
      rw [hout]
      decide
    rw [if_neg hne, if_neg hne]
    refine ⟨Mbuf.field_of_read (n := 2) rfl ?_, Mbuf.field_of_read (n := 2) rfl ?_⟩ <;>
    simp (disch := decide) only [reply, write_answer, hout, Memory.read_store_of_disjoint,
      Memory.read_store_self]

/-- **The reply is the answer** when the request carries the rest of it. The reply overwrites the
type, the acceptor and, in a vote, the two ballots. The instance, the ballots of a promise, the
value's length and the value are those of the request. -/
lemma decodes_reply_iff (hlen : 14 + 20 + 8 + 16 ≤ m.pkt_len.toNat) :
    Decodes (reply h m out).frame out ↔ Carries m out := by
  obtain ⟨hmsgtype, haid⟩ := reply_written h m htype
  obtain ⟨hiid, hrest⟩ := reply_kept h m htype
  obtain ⟨hballot, hvballot⟩ := reply_ballots h m htype
  have hfield : ∀ w off, off + w / 8 ≤ 58 →
      bits w off (reply h m out).frame = (reply h m out).field w off := by
    intro w off hoff
    have hlen' : 14 + 20 + 8 + 16 ≤ (reply h m out).pkt_len.toNat := hlen
    exact Mbuf.bits_frame (by omega)
  have hvalue_len : (reply h m out).field 32 54 = m.field 32 54 := by
    rw [Mbuf.field, Mbuf.field, hrest 54 _ le_rfl]
  have hvalue : ∀ k, slice 58 k (reply h m out).frame = slice 58 k m.frame := by
    intro k
    show ((Memory.read 0 m.pkt_len.toNat (reply h m out).mem).drop 58).take k = _
    rw [Memory.drop_read, hrest _ _ (by omega), ← Memory.drop_read]
    rfl
  constructor
  · intro hd
    refine ⟨?_, ?_, ?_, ?_⟩
    · rw [← hiid, ← hfield 32 44 (by omega), hd.iid]
    · intro hout
      rw [if_pos hout] at hballot hvballot
      rw [← hballot, ← hvballot, ← hfield 16 48 (by omega), ← hfield 16 50 (by omega)]
      exact ⟨hd.ballot, hd.value_ballot⟩
    · rw [← hvalue_len, ← hfield 32 54 (by omega), hd.value_len]
    · rw [← hvalue, hd.value]
  · intro hc
    refine ⟨?_, ?_, ?_, ?_, ?_, ?_, ?_⟩
    · rw [hfield 16 42 (by omega), hmsgtype]
    · rw [hfield 32 44 (by omega), hiid, hc.iid]
    · rw [hfield 16 48 (by omega), hballot]
      split_ifs with hout
      · exact (hc.ballots hout).1
      · rfl
    · rw [hfield 16 50 (by omega), hvballot]
      split_ifs with hout
      · exact (hc.ballots hout).2
      · rfl
    · rw [hfield 16 52 (by omega), haid]
    · rw [hfield 32 54 (by omega), hvalue_len, hc.value_len]
    · rw [hvalue, hc.value]

end

/-- **What leaves is the answer of libpaxos** to an accept exactly if the accept carries what the
answer does not write. -/
theorem answer_decodes_iff (lib : LibAcceptor A) (h : Host) {a a' : A} {x : Received}
    (hx : IsAccept x) {out : PaxosMessage}
    (hout : lib.acceptor_receive_accept a (accept x.pkt) = (a', some out))
    (htype : out.type = .PAXOS_ACCEPTED ∨ out.type = .PAXOS_PREEMPTED) :
    ∃ m', paxos_rx_process lib h a x = (a', some m') ∧
      (Decodes m'.frame out ↔ Carries x.pkt out) := by
  refine ⟨reply h x.pkt out, ?_, decodes_reply_iff h x.pkt htype hx.header⟩
  have hfor : ¬ (x.pkt.field 16 36 ≠ ACCEPTOR_PORT ∧ x.tunnel = false) := by
    rintro ⟨hne, htunnel⟩
    rcases hx.port with hport | htrue
    · exact hne hport
    · rw [htunnel] at htrue
      cases htrue
  have hne : x.pkt.field 16 42 ≠ PaxosMessageType.PAXOS_PREPARE.code := by
    rw [hx.msgtype]
    decide
  unfold paxos_rx_process
  simp only
  rw [if_neg (not_not.mpr hx.proto), if_neg hfor, if_neg hne, if_pos hx.msgtype, hout]
  rfl

/-- An accept of ballot 1 for instance 7. -/
def accept7 (value_ballot : BitVec 16) : Received where
  pkt := add_paxos_message host
    { type := .PAXOS_ACCEPT
      accept := { iid := 7, ballot := 1, value_ballot := value_ballot, aid := 0, value := [0x41] } }
    emptyMbuf LEARNER_PORT ACCEPTOR_PORT ACCEPTOR_ADDR
  tunnel := false

/-- What `oneInstance` answers when it has promised ballot 1. -/
def accepted1 : PaxosMessage where
  type := .PAXOS_ACCEPTED
  accept := { iid := 7, ballot := 1, value_ballot := 1, aid := 2, value := [0x41] }

/-- An accept that carries its own ballot twice. -/
theorem answer_decodes_accept7 :
    ∃ m', paxos_rx_process oneInstance host (accepted7 0) (accept7 1) =
        (accepted1.accept, some m') ∧
      (Decodes m'.frame accepted1 ↔ Carries (accept7 1).pkt accepted1) :=
  answer_decodes_iff oneInstance host
    ⟨by decide +kernel, .inl (by decide +kernel), by decide +kernel, by decide⟩ (by decide +kernel)
    (.inl rfl)

/-- An accept of ballot 1 with value ballot 0: the acceptor votes in ballot 1, and the vote that
leaves still has value ballot 0. -/
theorem answer_not_decoded :
    ¬ ∀ (lib : LibAcceptor PaxosAccept) (h : Host) (a a' : PaxosAccept) (x : Received)
      (out : PaxosMessage), IsAccept x →
      lib.acceptor_receive_accept a (accept x.pkt) = (a', some out) →
      (out.type = .PAXOS_ACCEPTED ∨ out.type = .PAXOS_PREEMPTED) →
      ∃ m', paxos_rx_process lib h a x = (a', some m') ∧ Decodes m'.frame out := by
  intro hall
  obtain ⟨m', hm', hd⟩ := hall oneInstance host (accepted7 0) accepted1.accept (accept7 0) accepted1
    ⟨by decide +kernel, .inl (by decide +kernel), by decide +kernel, by decide⟩ (by decide +kernel)
    (.inl rfl)
  have hvrnd : (paxos_rx_process oneInstance host (accepted7 0) (accept7 0)).2.map
      (fun m => bits 16 50 m.frame) = some 0 := by decide +kernel
  rw [hm'] at hvrnd
  have hzero : bits 16 50 m'.frame = 0 := Option.some_inj.mp hvrnd
  rw [hd.value_ballot] at hzero
  revert hzero
  decide

end Acceptor

end P4xos.Dpdk
