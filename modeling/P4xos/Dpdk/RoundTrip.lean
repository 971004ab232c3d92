import P4xos.Dpdk.Acceptor
import P4xos.Dpdk.Backup
import P4xos.Dpdk.Learner

/-!
# The message codec of the DPDK programs

What `add_paxos_message` writes, `paxos_rx_process` of the acceptor, the learner and the backup
reads back: the program hands the message that was sent to libpaxos, for any libpaxos.

1. `Covered`: all of the value is inside the frame and inside the UDP datagram (`covered`). 2. A
receiver has the frame in a buffer of its own (`Mbuf.Holds`), with any bytes behind it. The type,
the value length and the value are read back from there (`rx_msgtype_of_holds`, `vsize_of_holds`,
`read_value_of_holds`). 3. `Acceptor.ReadsAccept`, `DpLearner.ReadsPromise`, `Backup.ReadsValue` and
their like say of a branch of a program which message libpaxos is handed; a lemma for each shows
that it is the one that was sent. 4. `codec_round_trip` is the round trip for the three programs.

Of libpaxos it is used only that `paxos_value_new` copies the bytes it is given (`Copies`). The
proposer reads and writes messages in its own way (`Proposer`, `ProposerRx`).
-/

namespace P4xos.Dpdk

open P4xos.Lib

/-- The promise with the fields of a message. -/
def PaxosAccept.promise (a : PaxosAccept) : PaxosPromise where
  iid := a.iid
  ballot := a.ballot
  value_ballot := a.value_ballot
  aid := a.aid
  value := a.value

/-- The bytes of the value follow the Paxos header, inside the lengths of the packet and of the UDP
datagram. -/
structure Covered (x : Send) : Prop where
  pkt_len : 14 + 20 + 8 + 16 + x.value.length ≤ x.sent.pkt_len.toNat
  dgram_len : 8 + 16 + x.value.length ≤ (bits 16 38 x.frame).toNat
  value : slice 58 x.value.length x.frame = x.value

/-- The lengths in the headers count the ten bytes that stay unused. Both bounds are counted from
the message's size and that of the value, which fits 16 bits because the buffer's room does. -/
lemma covered (x : Send) : Covered x where
  pkt_len := by
    rw [x.pkt_len_sent]
    omega
  dgram_len := by
    have hfits := x.fits
    have hroom := x.mbuf.room.isLt
    simp only [Mbuf.Fits, sizeof_paxos_message, sizeof_paxos_accept, sizeof_paxos_value] at hfits
    have hlt : 34 + x.value.length < 2 ^ 16 := by
      simp only [Send.value]
      omega
    rw [(Acceptor.bits_frame_lengths x).2, BitVec.toNat_ofNat, Nat.mod_eq_of_lt hlt]
    omega
  value := x.slice_frame_value

section reading

variable {x : Send} {m : Mbuf} (hm : m.Holds x.frame)
include hm

/-- A frame for the program gets to the branch for its type. -/
lemma rx_msgtype_of_holds {ports : List (BitVec 16)} {tunnel : Bool}
    (hport : x.dport ∈ ports ∨ tunnel = true) :
    rx_msgtype ports tunnel m.frame = some x.pm.type.code := by
  obtain ⟨-, hproto, hdport⟩ := x.bits_frame_headers
  have hfor : ¬ (x.dport ∉ ports ∧ tunnel = false) := by
    rintro ⟨hne, htunnel⟩
    rcases hport with hin | htrue
    · exact hne hin
    · rw [htunnel] at htrue
      cases htrue
  rw [rx_msgtype, hm.frame, hproto, hdport, if_neg (not_not.mpr rfl), if_neg hfor,
    x.bits_frame_paxos.1]

/-- The value length is positive as an `int`. -/
lemma vsize_of_holds : (vsize m.frame).toNat = x.value.length ∧
    (vsize m.frame).toInt = x.value.length := by
  have hlt := x.length_value_lt
  have hnat : (vsize m.frame).toNat = x.value.length := by
    rw [vsize, hm.frame, x.bits_frame_paxos.2.2.2.2.2, BitVec.toNat_ofNat]
    exact Nat.mod_eq_of_lt (by omega)
  refine ⟨hnat, ?_⟩
  rw [BitVec.toInt_eq_toNat_of_lt (by omega), hnat]

/-- The value that `paxos_value_new` copies. -/
lemma read_value_of_holds {paxos_value_new : Bytes → ℕ → Bytes} (hnew : Copies paxos_value_new) :
    read_value paxos_value_new m.frame = x.value := by
  have hlt := x.length_value_lt
  have hlen := x.length_frame
  obtain ⟨hsize, -⟩ := vsize_of_holds hm
  rw [read_value, toNat_signExtend (by omega), hsize, hm.frame,
    hnew _ _ (by rw [List.length_drop]; omega)]
  exact x.slice_frame_value

/-- The message that the learner and the backup read. -/
lemma read_accepted_of_holds {paxos_value_new : Bytes → ℕ → Bytes} (hnew : Copies paxos_value_new) :
    read_accepted paxos_value_new m.frame = x.pm.accept := by
  obtain ⟨-, h₂, h₃, h₄, h₅, -⟩ := x.bits_frame_paxos
  rw [read_accepted, read_value_of_holds hm hnew, hm.frame, h₂, h₃, h₄, h₅]
  rfl

/-- The message that the acceptor reads; its value stays in the buffer. The size is read as a signed
32-bit number and widened to 64 bits, which keeps it since it is small. -/
lemma accept_of_holds : Acceptor.accept m = x.pm.accept := by
  have hlt := x.length_value_lt
  have hlen := x.length_frame
  obtain ⟨-, h₂, h₃, h₄, h₅, h₆⟩ := x.bits_frame_paxos
  have hsize : ((m.field 32 54).signExtend 64).toNat = x.value.length := by
    have hnat := (vsize_of_holds hm).1
    rw [vsize, hm.frame, ← hm.field (by omega)] at hnat
    rw [toNat_signExtend (by omega), hnat]
  have hvalue : m.mem.read 58 x.value.length = x.value := by
    have hslice := x.slice_frame_value
    rw [← hm.frame, Mbuf.frame, Memory.slice_read (by rw [hm.pkt_len]; omega), Nat.zero_add] at hslice
    exact hslice
  rw [Acceptor.accept, Acceptor.prepare, hsize, hvalue, hm.field (by omega), hm.field (by omega),
    hm.field (by omega), hm.field (by omega), h₂, h₃, h₄, h₅]
  rfl

end reading

/-! ## The programs -/

variable {A L : Type*}

/-- The acceptor's branch for `PAXOS_ACCEPT` hands the message to libpaxos. -/
def Acceptor.ReadsAccept (lib : LibAcceptor A) (x : Received) (msg : PaxosAccept) : Prop :=
  ∀ h a, Acceptor.paxos_rx_process lib h a x =
    ((lib.acceptor_receive_accept a msg).1,
      (lib.acceptor_receive_accept a msg).2.map (Acceptor.reply h x.pkt))

/-- The learner's branch for `PAXOS_PROMISE` hands the promise to libpaxos. -/
def DpLearner.ReadsPromise (lib : LibLearner L) (x : Received) (promise : PaxosPromise) : Prop :=
  ∀ dl (r : Rx), r.x = x → (DpLearner.paxos_rx_process lib dl r).1.paxos_learner =
    (lib.learner_receive_promise dl.paxos_learner promise).1

/-- The learner's branch for `PAXOS_ACCEPTED` hands the message to libpaxos. -/
def DpLearner.ReadsAccepted (lib : LibLearner L) (x : Received) (ack : PaxosAccept) : Prop :=
  ∀ dl (r : Rx), r.x = x → (DpLearner.paxos_rx_process lib dl r).1.paxos_learner =
    (lib.learner_deliver_next (lib.learner_receive_accepted dl.paxos_learner ack).1).1

/-- The backup's branch for `PAXOS_PROMISE` hands the promise to libpaxos. -/
def Backup.ReadsPromise (lib : LibLearner L) (x : Received) (promise : PaxosPromise) : Prop :=
  ∀ dl d, (Backup.step lib dl (.rx x d)).1.paxos_learner =
    (lib.learner_receive_promise dl.paxos_learner promise).1

/-- The backup's branch for `PAXOS_ACCEPTED` hands the message to libpaxos, and prepares the next
instance if it is told to. -/
def Backup.ReadsAccepted (lib : LibLearner L) (x : Received) (ack : PaxosAccept) : Prop :=
  ∀ dl d, ∃ iid, (Backup.step lib dl (.rx x d)).1.paxos_learner =
    if (lib.learner_receive_accepted dl.paxos_learner ack).2 then
      (lib.learner_prepare (lib.learner_receive_accepted dl.paxos_learner ack).1 iid).1
    else (lib.learner_receive_accepted dl.paxos_learner ack).1

/-- The backup's branch for `PAXOS_ACCEPT` keeps the value, if there is one and room for it. -/
def Backup.ReadsValue (lib : LibLearner L) (x : Received) (value : Bytes) : Prop :=
  ∀ dl d, (Backup.step lib dl (.rx x d)).1.values =
    if 0 < value.length ∧ dl.values.length < NB_VALUE_BUFFER then value :: dl.values else dl.values

section programs

variable {x : Send} {m : Mbuf} (hm : m.Holds x.frame) {tunnel : Bool}
include hm

/-- The acceptor has the accept's fields from the frame, and its value in the buffer. The frame
passes the tests of the protocol and the port, and its type picks the branch. -/
lemma Acceptor.readsAccept (lib : LibAcceptor A) (htype : x.pm.type = .PAXOS_ACCEPT)
    (hport : x.dport = ACCEPTOR_PORT ∨ tunnel = true) :
    Acceptor.ReadsAccept lib ⟨m, tunnel⟩ x.pm.accept := by
  intro h a
  have hlen := x.length_frame
  obtain ⟨-, hproto, hdport⟩ := x.bits_frame_headers
  have hfor : ¬ (m.field 16 36 ≠ ACCEPTOR_PORT ∧ tunnel = false) := by
    rintro ⟨hne, htunnel⟩
    rcases hport with hport | htrue
    · rw [hm.field (by omega), hdport] at hne
      exact hne hport
    · rw [htunnel] at htrue
      cases htrue
  have hcode : m.field 16 42 = PaxosMessageType.PAXOS_ACCEPT.code := by
    rw [hm.field (by omega), x.bits_frame_paxos.1, htype]
  have hne : m.field 16 42 ≠ PaxosMessageType.PAXOS_PREPARE.code := by
    rw [hcode]
    decide
  have hudp : m.field 8 23 = 17 := by rw [hm.field (by omega), hproto]
  unfold Acceptor.paxos_rx_process
  simp only
  rw [if_neg (not_not.mpr hudp), if_neg hfor, if_neg hne, if_pos hcode, accept_of_holds hm]

variable {lib : LibLearner L} (hnew : Copies lib.paxos_value_new)
include hnew

/-- The promise that the learner and the backup read. -/
lemma read_promise_of_holds :
    read_promise lib.paxos_value_new m.frame = x.pm.accept.promise :=
  congrArg PaxosAccept.promise (read_accepted_of_holds hm hnew)

/-- The learner is handed the promise. -/
lemma DpLearner.readsPromise (htype : x.pm.type = .PAXOS_PROMISE)
    (hport : x.dport = LEARNER_PORT ∨ tunnel = true) :
    DpLearner.ReadsPromise lib ⟨m, tunnel⟩ x.pm.accept.promise := by
  intro dl r hr
  have hmsg : r.msgtype = some PaxosMessageType.PAXOS_PROMISE.code := by
    rw [Rx.msgtype, hr, ← htype]
    exact rx_msgtype_of_holds hm (hport.imp_left List.mem_singleton.mpr)
  rw [DpLearner.paxos_rx_process, if_pos hmsg]
  unfold DpLearner.rx_promise
  simp only [hr, read_promise_of_holds hm hnew]
  rcases lib.learner_receive_promise dl.paxos_learner x.pm.accept.promise with ⟨l, _ | accept⟩ <;> rfl

/-- The learner is handed the accepted message, and then asked for what it can deliver. -/
lemma DpLearner.readsAccepted (htype : x.pm.type = .PAXOS_ACCEPTED)
    (hport : x.dport = LEARNER_PORT ∨ tunnel = true) :
    DpLearner.ReadsAccepted lib ⟨m, tunnel⟩ x.pm.accept := by
  intro dl r hr
  have hmsg : r.msgtype = some PaxosMessageType.PAXOS_ACCEPTED.code := by
    rw [Rx.msgtype, hr, ← htype]
    exact rx_msgtype_of_holds hm (hport.imp_left List.mem_singleton.mpr)
  rw [DpLearner.paxos_rx_process_accepted lib dl hmsg, (DpLearner.rx_accepted_spec lib dl r).2, hr,
    read_accepted_of_holds hm hnew]

variable (hport : x.dport ∈ [LEARNER_PORT, ACCEPTOR_PORT] ∨ tunnel = true)
include hport

/-- The backup is handed the promise. -/
lemma Backup.readsPromise (htype : x.pm.type = .PAXOS_PROMISE) :
    Backup.ReadsPromise lib ⟨m, tunnel⟩ x.pm.accept.promise := by
  intro dl d
  have hmsg := rx_msgtype_of_holds hm hport
  rw [htype] at hmsg
  have hstep : Backup.step lib dl (.rx ⟨m, tunnel⟩ d) = Backup.rx_promise lib dl d m := if_pos hmsg
  rw [hstep]
  unfold Backup.rx_promise
  simp only [read_promise_of_holds hm hnew]
  rcases lib.learner_receive_promise dl.paxos_learner x.pm.accept.promise with ⟨l, _ | accept⟩
  · rfl
  · dsimp only
    split <;> exact Backup.tx_buffer_paxos_learner _ _

/-- The backup is handed the accepted message. The type picks the third branch, and what it does
after the call of libpaxos does not touch the learner. -/
lemma Backup.readsAccepted (htype : x.pm.type = .PAXOS_ACCEPTED) :
    Backup.ReadsAccepted lib ⟨m, tunnel⟩ x.pm.accept := by
  intro dl d
  have hmsg := rx_msgtype_of_holds hm hport
  rw [htype] at hmsg
  have hstep : Backup.step lib dl (.rx ⟨m, tunnel⟩ d) = Backup.rx_accepted lib dl d m := by
    have hpromise : rx_msgtype [LEARNER_PORT, ACCEPTOR_PORT] tunnel m.frame ≠
        some PaxosMessageType.PAXOS_PROMISE.code := by
      rw [hmsg]
      decide
    have haccept : rx_msgtype [LEARNER_PORT, ACCEPTOR_PORT] tunnel m.frame ≠
        some PaxosMessageType.PAXOS_ACCEPT.code := by
      rw [hmsg]
      decide
    exact (if_neg hpromise).trans ((if_neg haccept).trans (if_pos hmsg))
  rw [hstep]
  unfold Backup.rx_accepted
  simp only [read_accepted_of_holds hm hnew]
  rcases lib.learner_receive_accepted dl.paxos_learner x.pm.accept with ⟨l, _ | _⟩
  · exact ⟨0, rfl⟩
  · dsimp only
    simp only [Backup.tx_buffer_paxos_learner]
    split_ifs <;> exact ⟨_, rfl⟩

/-- The backup is handed the value. The type picks the second branch, whose recovery calls libpaxos
for prepares only. -/
lemma Backup.readsValue (htype : x.pm.type = .PAXOS_ACCEPT) :
    Backup.ReadsValue lib ⟨m, tunnel⟩ x.value := by
  intro dl d
  have hmsg := rx_msgtype_of_holds hm hport
  rw [htype] at hmsg
  have hstep : Backup.step lib dl (.rx ⟨m, tunnel⟩ d) = Backup.rx_accept lib dl d m := by
    have hpromise : rx_msgtype [LEARNER_PORT, ACCEPTOR_PORT] tunnel m.frame ≠
        some PaxosMessageType.PAXOS_PROMISE.code := by
      rw [hmsg]
      decide
    exact (if_neg hpromise).trans (if_pos hmsg)
  rw [hstep]
  unfold Backup.rx_accept Backup.start_recovery
  simp only [read_value_of_holds hm hnew, (vsize_of_holds hm).2, Nat.cast_pos]
  split_ifs <;> simp

end programs

/-- **The message codec.** What `add_paxos_message` writes for a message that fits its buffer, the
program that receives the frame reads back: the branch for the message's type is taken, and libpaxos
is handed the fields and the value that were sent. All of the value is inside the frame and inside
the UDP datagram. -/
theorem codec_round_trip (libA : LibAcceptor A) (lib : LibLearner L)
    (hnew : Copies lib.paxos_value_new)
    (x : Send) (m : Mbuf) (hm : m.Holds x.frame) (tunnel : Bool) :
    Covered x ∧
    (x.pm.type = .PAXOS_ACCEPT → x.dport = ACCEPTOR_PORT ∨ tunnel = true →
      Acceptor.ReadsAccept libA ⟨m, tunnel⟩ x.pm.accept) ∧
    (x.dport = LEARNER_PORT ∨ tunnel = true →
      (x.pm.type = .PAXOS_PROMISE → DpLearner.ReadsPromise lib ⟨m, tunnel⟩ x.pm.accept.promise) ∧
      (x.pm.type = .PAXOS_ACCEPTED → DpLearner.ReadsAccepted lib ⟨m, tunnel⟩ x.pm.accept)) ∧
    (x.dport ∈ [LEARNER_PORT, ACCEPTOR_PORT] ∨ tunnel = true →
      (x.pm.type = .PAXOS_PROMISE → Backup.ReadsPromise lib ⟨m, tunnel⟩ x.pm.accept.promise) ∧
      (x.pm.type = .PAXOS_ACCEPTED → Backup.ReadsAccepted lib ⟨m, tunnel⟩ x.pm.accept) ∧
      (x.pm.type = .PAXOS_ACCEPT → Backup.ReadsValue lib ⟨m, tunnel⟩ x.value)) := by
  refine ⟨covered x, fun htype hport => Acceptor.readsAccept hm libA htype hport, fun hport => ?_,
    fun hport => ?_⟩
  · exact ⟨fun htype => DpLearner.readsPromise hm hnew htype hport,
      fun htype => DpLearner.readsAccepted hm hnew htype hport⟩
  · exact ⟨fun htype => Backup.readsPromise hm hnew hport htype,
      fun htype => Backup.readsAccepted hm hnew hport htype,
      fun htype => Backup.readsValue hm hnew hport htype⟩

/-- An accept for the acceptors with a value of 40 bytes, more than the 32 that are declared. -/
def accept40 : Send where
  host := host
  pm := accept2a 40
  mbuf := emptyMbuf
  sport := LEARNER_PORT
  dport := ACCEPTOR_PORT
  dstIP := ACCEPTOR_ADDR
  fits := by decide

/-- It reaches an acceptor and the backup as it was sent. -/
theorem codec_round_trip_long :
    Covered accept40 ∧
    Acceptor.ReadsAccept Acceptor.oneInstance ⟨accept40.sent, false⟩ (accept2a 40).accept ∧
    Backup.ReadsValue Libpaxos.learner₀ ⟨accept40.sent, false⟩ (List.replicate 40 0x41) := by
  have hholds : accept40.sent.Holds accept40.frame := ⟨rfl, by decide +kernel⟩
  obtain ⟨hcovered, hacceptor, -, hbackup⟩ := codec_round_trip Acceptor.oneInstance Libpaxos.learner₀
    (fun _ _ _ => rfl) accept40 accept40.sent hholds false
  exact ⟨hcovered, hacceptor rfl (.inl rfl), (hbackup (.inl (by decide))).2.2 rfl⟩

end P4xos.Dpdk
