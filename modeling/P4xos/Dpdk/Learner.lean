import Mathlib.Logic.Function.Basic
import P4xos.Dpdk.Libpaxos
import P4xos.Lib.InOrder

/-!
# The DPDK learner

`dpdk/learner/main.c`: the learner hands the accepted messages it receives to libpaxos, delivers the
instances that are decided in order, and answers the clients. For an instance that is missing it can
run both phases itself: `check_holes` makes the prepares, and a quorum of promises the accept.

**Delivery.** `rx_accepted` calls `learner_deliver_next` once for each accepted message, so the
learner serves one instance at a time, in order (`servesOne`).

* `none_waiting_iff`: no decided instance is left waiting exactly when no message closes the first
  open instance while the one behind it has a quorum. It holds for every libpaxos that delivers in
  order (`LibLearner.InOrder`), and every reading of "has a quorum" that is `Closing`.
* `Ledger` is such a learner (`ledger_inOrder`, `ledger_closing`). The learner in the archive
  (`Libpaxos`) is one as long as no vote follows the quorum of an instance that waits: a third vote
  makes it forget the instance.

**Recovery.** No message of either phase is handed to the driver.

* `created_check_holes`: the prepares for all holes are written into one buffer, over each other.
* `recovery_sends_iff`: so what recovery owes is sent only while the library reports neither holes
  nor a quorum of promises.
* `recovery_sends`: with the library in the archive this is always the case. It would report holes
  below the highest instance closed, which is never moved, and a quorum only for an instance that
  was prepared. `Fresh` is the invariant, `fresh_step` its step and `fresh_after` its run.
-/

namespace P4xos.Dpdk

open P4xos.Lib

/-- 192.168.4.198.
Source: `dpdk/learner/main.c` `FAKE_ADDR` -/
def FAKE_ADDR : BitVec 32 := 0xC0A804C6

/-- An address in network byte order, as it stands in the request.
Source: `dpdk/learner/main.c` `struct sockaddr_in` -/
structure SockaddrIn where
  sin_port : BitVec 16
  sin_addr : BitVec 32

/-- The hosts of the experiment, 192.168.4.95 to 192.168.4.98.
Source: `dpdk/learner/main.c` `mac95`, `mac96`, `mac97`, `mac98` -/
def mac (sin_addr : BitVec 32) : Option (BitVec 48) :=
  if sin_addr = 0xC0A8045F then some 0x0cc47abac6c6
  else if sin_addr = 0xC0A80460 then some 0x0cc47abac240
  else if sin_addr = 0xC0A80461 then some 0x0cc47abac6ad
  else if sin_addr = 0xC0A80462 then some 0x0cc47abac008
  else none

/-- The length of what follows the address in a request. The length field is little endian.
Source: `dpdk/learner/message.c` `content_length` -/
def content_length (request : Memory) : BitVec 16 :=
  BitVec.ofNat 16 (beDecode (request.read 0 2).reverse) - 18

/-- The client's address in a request.
Source: `dpdk/include/message.h` `struct client_request` -/
def cliaddr (request : Memory) : SockaddrIn where
  sin_port := BitVec.ofNat 16 (beDecode (request.read 4 2))
  sin_addr := BitVec.ofNat 32 (beDecode (request.read 6 4))

/-- The variables of the learner.
Source: `dpdk/learner/main.c` `struct dp_learner` -/
structure DpLearner (L : Type*) where
  learner_id : ℤ
  nb_pkt_buf : ℕ
  paxos_learner : L
  tx_mbufs : ℕ → Mbuf

/-- A call of `paxos_rx_process`: the packet, and what the call finds around it. The memory that
lies behind a delivered value, and a variable on the stack, hold anything. -/
structure Rx where
  x : Received
  host : Host
  driver : Driver
  behind : Memory
  unassigned : BitVec 16

/-- The type of the packet, unless it is refused. -/
def Rx.msgtype (r : Rx) : Option (BitVec 16) :=
  rx_msgtype [LEARNER_PORT] r.x.tunnel r.x.pkt.frame

/-- What comes of a call: the message that `deliver` is called with, the received packet's buffer,
and the buffers that are handed to `rte_eth_tx_buffer`. -/
structure RxOut where
  delivered : Option PaxosAccept
  pkt : Mbuf
  transmitted : List Mbuf

namespace DpLearner

variable {L : Type*}

/-- The learner with the library in the archive.
Source: `dpdk/learner/main.c` `main` -/
def init (acceptors : ℕ) (learner_id : ℤ) (tx_mbufs : ℕ → Mbuf) : DpLearner Libpaxos.Learner where
  learner_id := learner_id
  nb_pkt_buf := 0
  paxos_learner := Libpaxos.started acceptors
  tx_mbufs := tx_mbufs

/-- The packets that were sent are replaced.
Source: `dpdk/learner/main.c` `reset_tx_mbufs` -/
def reset_tx_mbufs (dl : DpLearner L) (d : Driver) : DpLearner L :=
  { dl with
    tx_mbufs := fun i => if i < d.nb_tx then d.alloc i else dl.tx_mbufs i
    nb_pkt_buf := 0 }

/-- The answer to a client, in the next buffer. The destination's hardware address stays what it was
when the client is not one of the known hosts.
Source: `dpdk/learner/main.c` `dp_learner_send` -/
def dp_learner_send (h : Host) (dl : DpLearner L) (d : Driver) (data : Bytes) (dest : SockaddrIn) :
    DpLearner L × Mbuf :=
  let pkt := dl.tx_mbufs dl.nb_pkt_buf
  let size := data.length
  let mem := pkt.mem.write 42 data
  let mem := mem.store 12 (0x0800 : BitVec 16)
  let mem := mem.store 6 h.macaddr
  let mem := match mac dest.sin_addr with
    | some addr => mem.store 0 addr
    | none => mem
  let mem := mem.store 16 (BitVec.ofNat 16 (20 + 8 + size))
  let mem := mem.store 14 (0x45 : BitVec 8)
  let mem := mem.store 22 (64 : BitVec 8)
  let mem := mem.store 18 (h.tsc.setWidth 16)
  let mem := mem.store 20 (0x4000 : BitVec 16)
  let mem := mem.store 23 (17 : BitVec 8)
  let mem := mem.store 24 (0 : BitVec 16)
  let mem := mem.store 26 FAKE_ADDR
  let mem := mem.store 30 dest.sin_addr
  let mem := mem.store 36 dest.sin_port
  let mem := mem.store 34 LEARNER_PORT
  let mem := mem.store 38 (BitVec.ofNat 16 (8 + size))
  let mem := mem.store 40 (h.psd_sum (mem.read 14 20))
  let pkt := { pkt with
    mem := mem
    data_len := BitVec.ofNat 16 (14 + 20 + 8 + size)
    pkt_len := BitVec.ofNat 32 (14 + 20 + 8 + size) }
  let dl := { dl with
    tx_mbufs := Function.update dl.tx_mbufs dl.nb_pkt_buf pkt
    nb_pkt_buf := dl.nb_pkt_buf + 1 }
  (if d.nb_tx ≠ 0 then dl.reset_tx_mbufs d else dl, pkt)

/-- Only the first learner answers.
Source: `dpdk/learner/main.c` `deliver` -/
def deliver (h : Host) (dl : DpLearner L) (d : Driver) (val : Memory) : DpLearner L × List Mbuf :=
  if dl.learner_id = 0 then
    let retval := val.read 18 (content_length val).toNat
    let (dl, pkt) := dp_learner_send h dl d retval (cliaddr val)
    (dl, [pkt])
  else (dl, [])

/-- The branch for `PAXOS_PROMISE`. The accept is written over the packet, with a type that was not
assigned. -/
def rx_promise (lib : LibLearner L) (dl : DpLearner L) (r : Rx) : DpLearner L × RxOut :=
  let promise := read_promise lib.paxos_value_new r.x.pkt.frame
  match lib.learner_receive_promise dl.paxos_learner promise with
  | (l, none) => ({ dl with paxos_learner := l }, ⟨none, r.x.pkt, []⟩)
  | (l, some accept) =>
      let pkt := add_paxos_message r.host { type := .PAXOS_ACCEPT, accept := accept } r.x.pkt
        LEARNER_PORT ACCEPTOR_PORT ACCEPTOR_ADDR
      -- the type above stands for `pa.type`, which may hold any value
      let pkt := { pkt with mem := pkt.mem.store 42 r.unassigned }
      ({ dl with paxos_learner := l }, ⟨none, pkt, []⟩)

/-- The branch for `PAXOS_ACCEPTED`. -/
def rx_accepted (lib : LibLearner L) (dl : DpLearner L) (r : Rx) : DpLearner L × RxOut :=
  let ack := read_accepted lib.paxos_value_new r.x.pkt.frame
  let (l, _) := lib.learner_receive_accepted dl.paxos_learner ack
  match lib.learner_deliver_next l with
  | (l, none) => ({ dl with paxos_learner := l }, ⟨none, r.x.pkt, []⟩)
  | (l, some out) =>
      let (dl, transmitted) := deliver r.host { dl with paxos_learner := l } r.driver
        (r.behind.write 0 out.value)
      (dl, ⟨some out, r.x.pkt, transmitted⟩)

/-- Source: `dpdk/learner/main.c` `paxos_rx_process` -/
def paxos_rx_process (lib : LibLearner L) (dl : DpLearner L) (r : Rx) : DpLearner L × RxOut :=
  if r.msgtype = some PaxosMessageType.PAXOS_PROMISE.code then rx_promise lib dl r
  else if r.msgtype = some PaxosMessageType.PAXOS_ACCEPTED.code then rx_accepted lib dl r
  else (dl, ⟨none, r.x.pkt, []⟩)

/-- One round of the loop over the holes: the prepare for an instance is written into the buffer. -/
def check_hole (h : Host) (lib : LibLearner L) (s : L × Mbuf) (iid : BitVec 32) : L × Mbuf :=
  let (l, prepare) := lib.learner_prepare s.1 iid
  (l, add_paxos_message h { type := .PAXOS_PREPARE, accept := prepare } s.2 LEARNER_PORT
    ACCEPTOR_PORT ACCEPTOR_ADDR)

/-- The instances that the loop goes through. -/
def holes (from_inst to_inst : BitVec 32) : List (BitVec 32) :=
  (List.range' from_inst.toNat (to_inst.toNat - from_inst.toNat)).map (BitVec.ofNat 32)

/-- The learner after a call, the buffer that was allocated for it, and the buffers that are handed
to the driver: none.
Source: `dpdk/learner/main.c` `check_holes` -/
def check_holes (h : Host) (lib : LibLearner L) (dl : DpLearner L) (created_pkt : Mbuf) :
    DpLearner L × Mbuf × List Mbuf :=
  match lib.learner_has_holes dl.paxos_learner with
  | none => (dl, created_pkt, [])
  | some (from_inst, to_inst) =>
      let (l, created_pkt) := (holes from_inst to_inst).foldl (check_hole h lib)
        (dl.paxos_learner, created_pkt)
      ({ dl with paxos_learner := l }, created_pkt, [])

/-! ## Delivery -/

/-- The accepted messages in the packets. -/
def acks (lib : LibLearner L) (rs : List Rx) : List PaxosAccept :=
  rs.map fun r => read_accepted lib.paxos_value_new r.x.pkt.frame

/-- The instances that were passed to `deliver` in a run, in order. -/
def delivered (lib : LibLearner L) (dl : DpLearner L) (rs : List Rx) : List (BitVec 32) :=
  servedIn (paxos_rx_process lib) (fun out => out.delivered.map PaxosAccept.iid) dl rs

/-- Every instance up to the first one without a quorum has been delivered, and
`learner_deliver_next` would return 0. -/
def NoneWaiting (lib : LibLearner L) (quorum : List PaxosAccept → ℕ → Prop) (dl : DpLearner L)
    (rs : List Rx) : Prop :=
  ∃ n, FirstMissing (quorum (acks lib rs)) n ∧
    delivered lib dl rs = (List.range' 1 (n - 1)).map (BitVec.ofNat 32) ∧
    (lib.learner_deliver_next (after (paxos_rx_process lib) dl rs).paxos_learner).2 = none

/-- One packet more brings one message more. -/
lemma acks_concat (lib : LibLearner L) (rs : List Rx) (r : Rx) :
    acks lib (rs ++ [r]) = acks lib rs ++ [read_accepted lib.paxos_value_new r.x.pkt.frame] := by
  rw [acks, List.map_append]
  rfl

/-- `deliver` does not touch the learner of libpaxos. -/
lemma deliver_paxos_learner (h : Host) (dl : DpLearner L) (d : Driver) (val : Memory) :
    (deliver h dl d val).1.paxos_learner = dl.paxos_learner := by
  unfold deliver dp_learner_send reset_tx_mbufs
  split_ifs <;> rfl

/-- A packet with an accepted message. -/
lemma paxos_rx_process_accepted (lib : LibLearner L) (dl : DpLearner L) {r : Rx}
    (hr : r.msgtype = some PaxosMessageType.PAXOS_ACCEPTED.code) :
    paxos_rx_process lib dl r = rx_accepted lib dl r := by
  have hne : r.msgtype ≠ some PaxosMessageType.PAXOS_PROMISE.code := by
    intro htype
    cases msgtype_unique hr htype
  rw [paxos_rx_process, if_neg hne, if_pos hr]

/-- What the branch for `PAXOS_ACCEPTED` does: one call of `learner_deliver_next`. -/
lemma rx_accepted_spec (lib : LibLearner L) (dl : DpLearner L) (r : Rx) :
    (rx_accepted lib dl r).2.delivered = (lib.learner_deliver_next
        (lib.learner_receive_accepted dl.paxos_learner
          (read_accepted lib.paxos_value_new r.x.pkt.frame)).1).2 ∧
    (rx_accepted lib dl r).1.paxos_learner = (lib.learner_deliver_next
        (lib.learner_receive_accepted dl.paxos_learner
          (read_accepted lib.paxos_value_new r.x.pkt.frame)).1).1 := by
  unfold rx_accepted
  simp only
  rcases hnext : lib.learner_deliver_next (lib.learner_receive_accepted dl.paxos_learner
    (read_accepted lib.paxos_value_new r.x.pkt.frame)).1 with ⟨l, _ | out⟩
  · exact ⟨rfl, rfl⟩
  · exact ⟨rfl, deliver_paxos_learner _ _ _ _⟩

section

variable {lib : LibLearner L} {quorum : List PaxosAccept → ℕ → Prop}
  {R : L → List PaxosAccept → ℕ → Prop} {dl : DpLearner L}
  (h : lib.InOrder quorum R dl.paxos_learner)
include h

/-- The learner serves the instances in order, one with each accepted message at most. Each accepted
message calls `learner_deliver_next` once, which returns the next instance if it has a quorum. -/
lemma servesOne :
    ServesOne (paxos_rx_process lib) (fun out => out.delivered.map PaxosAccept.iid)
      (BitVec.ofNat 32) (fun rs => quorum (acks lib rs))
      (fun r => r.msgtype = some PaxosMessageType.PAXOS_ACCEPTED.code)
      (fun dl rs n => R dl.paxos_learner (acks lib rs) n) dl where
  init := h.init
  serve := by
    intro t rs n r hr hrel hquorum
    obtain ⟨hdelivered, hlearner⟩ := rx_accepted_spec lib t r
    rw [acks_concat] at hquorum
    obtain ⟨out, hout, hiid, hnext⟩ := h.deliver _ _ _ (h.receive _ _ _ _ hrel) hquorum
    rw [paxos_rx_process_accepted lib t hr, hdelivered, hlearner, acks_concat, hout]
    exact ⟨hnext, by rw [Option.map_some, hiid]⟩
  wait := by
    intro t rs n r hr hrel hquorum
    obtain ⟨hdelivered, hlearner⟩ := rx_accepted_spec lib t r
    rw [acks_concat] at hquorum
    obtain ⟨hout, hnext⟩ := h.wait _ _ _ (h.receive _ _ _ _ hrel) hquorum
    rw [paxos_rx_process_accepted lib t hr, hdelivered, hlearner, acks_concat, hout]
    exact ⟨hnext, rfl⟩

variable (hc : Closing quorum)
include hc

omit h in
/-- A quorum of the messages stays one. -/
lemma closing_acks : Closing fun rs => quorum (acks lib rs) where
  start := hc.start
  mono := by
    intro rs r n hn
    rw [acks_concat]
    exact hc.mono _ _ _ hn

/-- When all that is decided has been delivered, `learner_deliver_next` has nothing to return. -/
lemma noneWaiting_iff {rs : List Rx}
    (hrs : ∀ r ∈ rs, r.msgtype = some PaxosMessageType.PAXOS_ACCEPTED.code) :
    NoneWaiting lib quorum dl rs ↔
      CaughtUp (paxos_rx_process lib) (fun out => out.delivered.map PaxosAccept.iid)
        (BitVec.ofNat 32) (fun rs => quorum (acks lib rs)) dl rs := by
  constructor
  · rintro ⟨n, hn, hdelivered, -⟩
    exact ⟨n, hn, hdelivered⟩
  · intro hup
    obtain ⟨n, hn⟩ := (servesOne h).exists_next (closing_acks hc) hrs
    have hopen := hn.caughtUp_iff.mp hup
    exact ⟨n, ⟨hn.pos, hopen, hn.below⟩, hn.done, (h.wait _ _ _ hn.rel hopen).1⟩

/-- **No decided instance is left waiting** exactly when no accepted message closes the first open
instance while the one behind it has a quorum. -/
theorem none_waiting_iff {rs : List Rx}
    (hrs : ∀ r ∈ rs, r.msgtype = some PaxosMessageType.PAXOS_ACCEPTED.code) :
    (∀ pre post, rs = pre ++ post → NoneWaiting lib quorum dl pre) ↔
    ∀ pre r post, rs = pre ++ r :: post → ∀ n, FirstMissing (quorum (acks lib pre)) n →
      ¬ (quorum (acks lib (pre ++ [r])) n ∧ quorum (acks lib (pre ++ [r])) (n + 1)) := by
  rw [← (servesOne h).caughtUp_iff (closing_acks hc) hrs]
  refine forall_congr' fun pre => forall_congr' fun post => imp_congr_right fun hpre => ?_
  exact noneWaiting_iff h hc fun r hr => hrs r (by rw [hpre]; exact List.mem_append_left _ hr)

end

/-! ### A learner that delivers in order -/

/-- What a learner of three acceptors keeps: the votes it has received, and the next instance to
deliver. -/
structure Ledger where
  accepted : List PaxosAccept
  next : ℕ

namespace Ledger

/-- A new learner, `learner_set_instance_id(l, 0)`. -/
def init : Ledger := ⟨[], 1⟩

/-- Two acceptors have accepted the instance in one ballot. -/
def Quorum (accepted : List PaxosAccept) (iid : BitVec 32) : Prop :=
  ∃ a ∈ accepted, ∃ b ∈ accepted, a.iid = iid ∧ b.iid = iid ∧ a.ballot = b.ballot ∧ a.aid ≠ b.aid

/-- A finite list is searched. -/
instance (accepted : List PaxosAccept) (iid : BitVec 32) : Decidable (Quorum accepted iid) :=
  inferInstanceAs (Decidable (∃ a ∈ accepted, ∃ b ∈ accepted, _))

/-- A learner that does what is assumed of `learner_deliver_next` on every sequence of votes. The
one in the archive does so as long as no vote follows the quorum of an instance that was not
delivered: that vote makes it forget the instance, and a ledger keeps it. Neither reports holes or a
quorum of promises to the DPDK learner. -/
def learner : LibLearner Ledger where
  learner_receive_promise l _ := (l, none)
  learner_receive_accepted l a :=
    let accepted := l.accepted ++ [a]
    ({ l with accepted := accepted },
      decide (Quorum accepted a.iid ∧ ¬ Quorum l.accepted a.iid))
  learner_deliver_next l :=
    match l.accepted.find? fun a => a.iid = BitVec.ofNat 32 l.next with
    | some a =>
        if Quorum l.accepted (BitVec.ofNat 32 l.next) then ({ l with next := l.next + 1 }, some a)
        else (l, none)
    | none => (l, none)
  learner_has_holes _ := none
  learner_prepare l iid :=
    (l, { iid := iid, ballot := 3, value_ballot := 0, aid := 0, value := [] })
  paxos_value_new v s := v.take s

end Ledger

/-- The ledger's instances with a quorum. -/
def ledgerQuorum (acks : List PaxosAccept) (n : ℕ) : Prop := Ledger.Quorum acks (BitVec.ofNat 32 n)

/-- Decidable as a quorum is. -/
instance (acks : List PaxosAccept) (n : ℕ) : Decidable (ledgerQuorum acks n) :=
  inferInstanceAs (Decidable (Ledger.Quorum acks (BitVec.ofNat 32 n)))

/-- The ledger of some messages, with its next instance. -/
def IsLedger (l : Ledger) (acks : List PaxosAccept) (n : ℕ) : Prop := l.accepted = acks ∧ l.next = n

/-- **A ledger delivers in order**, and waits for the next instance while it has no quorum. The next
instance is delivered if its votes make a quorum, and there is a vote to deliver then. -/
lemma ledger_inOrder : Ledger.learner.InOrder ledgerQuorum IsLedger Ledger.init where
  init := ⟨rfl, rfl⟩
  receive := by
    rintro l acks n ack ⟨rfl, rfl⟩
    exact ⟨rfl, rfl⟩
  deliver := by
    rintro l acks n ⟨rfl, rfl⟩ hquorum
    obtain ⟨a, ha, -, -, hiid, -⟩ := id hquorum
    obtain ⟨out, hout⟩ := Option.isSome_iff_exists.mp
      (List.find?_isSome.mpr ⟨a, ha, decide_eq_true hiid⟩ :
        (l.accepted.find? fun a => a.iid = BitVec.ofNat 32 l.next).isSome = true)
    have hnext : Ledger.learner.learner_deliver_next l =
        ({ l with next := l.next + 1 }, some out) := by
      simp only [Ledger.learner, hout]
      exact if_pos hquorum
    have hiid' := List.find?_some hout
    rw [hnext]
    exact ⟨out, rfl, of_decide_eq_true hiid', rfl, rfl⟩
  wait := by
    rintro l acks n ⟨rfl, rfl⟩ hopen
    have hnext : Ledger.learner.learner_deliver_next l = (l, none) := by
      simp only [Ledger.learner]
      split
      · exact if_neg hopen
      · rfl
    rw [hnext]
    exact ⟨rfl, rfl, rfl⟩

/-- A vote that is received later takes no quorum away, and closes one instance at most. -/
lemma ledger_closing : Closing ledgerQuorum where
  start := by
    rintro n ⟨a, ha, -⟩
    cases ha
  mono := by
    rintro acks ack n ⟨a, ha, b, hb, hab⟩
    exact ⟨a, List.mem_append_left _ ha, b, List.mem_append_left _ hb, hab⟩

/-- A packet that finds a driver that has sent nothing. -/
def arrival (x : Received) : Rx := ⟨x, host, ⟨0, fun _ => emptyMbuf, fun _ => 0⟩, fun _ => 0, 0⟩

/-- A vote of an acceptor for an instance. -/
def vote (iid : BitVec 32) (aid : BitVec 16) : Rx :=
  arrival (packet .PAXOS_ACCEPTED iid aid LEARNER_PORT)

/-- A learner at the start, with empty buffers. -/
def learner : DpLearner Ledger := ⟨0, 0, Ledger.init, fun _ => emptyMbuf⟩

/-- The type of such a vote. -/
lemma msgtype_vote (iid : BitVec 32) (aid : BitVec 16) :
    (vote iid aid).msgtype = some PaxosMessageType.PAXOS_ACCEPTED.code :=
  rx_msgtype_packet (List.mem_singleton_self _) _ _ _

/-- The votes of three acceptors for two instances: those for instance 2 begin first, and the
quorums are complete in order. -/
def inOrderVotes : List Rx := [vote 2 0, vote 1 0, vote 1 1, vote 2 1, vote 1 2]

/-- All of them are votes. -/
lemma msgtype_inOrderVotes :
    ∀ r ∈ inOrderVotes, r.msgtype = some PaxosMessageType.PAXOS_ACCEPTED.code := by
  intro r hr
  simp only [inOrderVotes, List.mem_cons, List.not_mem_nil, or_false] at hr
  rcases hr with rfl | rfl | rfl | rfl | rfl <;> exact msgtype_vote _ _

/-- The first open instance is 1, 2 and then 3. -/
lemma firstMissing_ledger {acks : List PaxosAccept} {n : ℕ} (hpos : 1 ≤ n)
    (hopen : ¬ ledgerQuorum acks n) (hbelow : ∀ i ∈ List.range' 1 (n - 1), ledgerQuorum acks i) :
    FirstMissing (ledgerQuorum acks) n where
  pos := hpos
  missing := hopen
  below i hi hlt := hbelow i (List.mem_range'_1.mpr ⟨hi, by omega⟩)

/-- After each of these votes all that is decided has been delivered: instance 1 with the third, and
instance 2 with the fourth, by the learner in the archive too. -/
theorem none_waiting_in_order :
    Ledger.learner.InOrder ledgerQuorum IsLedger learner.paxos_learner ∧ Closing ledgerQuorum ∧
    (∀ r ∈ inOrderVotes, r.msgtype = some PaxosMessageType.PAXOS_ACCEPTED.code) ∧
    (∀ pre post, inOrderVotes = pre ++ post → NoneWaiting Ledger.learner ledgerQuorum learner pre) ∧
    delivered Libpaxos.learner₀ (init 3 0 fun _ => emptyMbuf) inOrderVotes = [1, 2] := by
  refine ⟨ledger_inOrder, ledger_closing, msgtype_inOrderVotes, ?_, by decide +kernel⟩
  apply (none_waiting_iff ledger_inOrder ledger_closing msgtype_inOrderVotes).mpr
  -- what is the first open instance before each vote, and whether the vote closes it
  refine forall_split_cons.mpr ⟨fun n hn => ?_, ?_⟩
  · rw [hn.unique (firstMissing_ledger (n := 1) le_rfl (by decide +kernel) (by decide))]
    decide +kernel
  refine forall_split_cons.mpr ⟨fun n hn => ?_, ?_⟩
  · rw [hn.unique (firstMissing_ledger (n := 1) le_rfl (by decide +kernel) (by decide))]
    decide +kernel
  refine forall_split_cons.mpr ⟨fun n hn => ?_, ?_⟩
  · rw [hn.unique (firstMissing_ledger (n := 1) le_rfl (by decide +kernel) (by decide))]
    decide +kernel
  refine forall_split_cons.mpr ⟨fun n hn => ?_, ?_⟩
  · rw [hn.unique (firstMissing_ledger (n := 2) (by decide) (by decide +kernel) (by decide +kernel))]
    decide +kernel
  refine forall_split_cons.mpr ⟨fun n hn => ?_, forall_split_nil⟩
  rw [hn.unique (firstMissing_ledger (n := 3) (by decide) (by decide +kernel) (by decide +kernel))]
  decide +kernel

/-- Instance 2 is decided before instance 1: the vote that decides instance 1 delivers that instance
only, and the learner in the archive has instance 2 to deliver as well. -/
theorem left_waiting :
    Ledger.learner.InOrder ledgerQuorum IsLedger learner.paxos_learner ∧ Closing ledgerQuorum ∧
    (∀ r ∈ [vote 2 0, vote 2 1, vote 1 0, vote 1 1],
      r.msgtype = some PaxosMessageType.PAXOS_ACCEPTED.code) ∧
    ¬ NoneWaiting Ledger.learner ledgerQuorum learner [vote 2 0, vote 2 1, vote 1 0, vote 1 1] ∧
    (Libpaxos.learner_deliver_next (after (paxos_rx_process Libpaxos.learner₀)
      (init 3 0 fun _ => emptyMbuf) [vote 2 0, vote 2 1, vote 1 0, vote 1 1]).paxos_learner).2 ≠
        none := by
  refine ⟨ledger_inOrder, ledger_closing, ?_, ?_, by decide +kernel⟩
  · intro r hr
    simp only [List.mem_cons, List.not_mem_nil, or_false] at hr
    rcases hr with rfl | rfl | rfl | rfl <;> exact msgtype_vote _ _
  · rintro ⟨n, -, -, hnone⟩
    revert hnone
    decide +kernel

/-- The archive's learner forgets a decided instance that waits for another one when a third vote
for it comes: instance 2 is not delivered after instance 1. -/
example : delivered Libpaxos.learner₀ (init 3 0 fun _ => emptyMbuf)
    [vote 2 0, vote 2 1, vote 2 2, vote 1 0, vote 1 1, vote 1 2] = [1] := by decide +kernel

/-! ## Recovery -/

/-- A frame with the message. -/
def Carries (m : Mbuf) (type : PaxosMessageType) (accept : PaxosAccept) : Prop :=
  bits 16 42 m.frame = type.code ∧ bits 32 44 m.frame = accept.iid ∧
    bits 16 48 m.frame = accept.ballot ∧ bits 16 50 m.frame = accept.value_ballot ∧
    bits 16 52 m.frame = accept.aid ∧
    bits 32 54 m.frame = BitVec.ofNat 32 accept.value.length ∧
    slice 58 accept.value.length m.frame = accept.value

/-- A comparison of fields. -/
instance (m : Mbuf) (type : PaxosMessageType) (accept : PaxosAccept) :
    Decidable (Carries m type accept) :=
  inferInstanceAs (Decidable (_ ∧ _))

/-- A prepare for the instance. -/
def IsPrepare (m : Mbuf) (iid : BitVec 32) : Prop :=
  bits 16 42 m.frame = PaxosMessageType.PAXOS_PREPARE.code ∧ bits 32 44 m.frame = iid

/-- A comparison of fields. -/
instance (m : Mbuf) (iid : BitVec 32) : Decidable (IsPrepare m iid) :=
  inferInstanceAs (Decidable (_ ∧ _))

/-- One prepare has been transmitted for each instance of the holes. -/
def HolesPrepared (lib : LibLearner L) (dl : DpLearner L) (transmitted : List Mbuf) : Prop :=
  ∀ from_inst to_inst, lib.learner_has_holes dl.paxos_learner = some (from_inst, to_inst) →
    ∀ iid, from_inst ≤ iid → iid < to_inst →
      transmitted.countP (fun m => IsPrepare m iid) = 1

/-- The accept that `learner_receive_promise` returns for a packet. -/
def reported (lib : LibLearner L) (dl : DpLearner L) (r : Rx) : Option PaxosAccept :=
  if r.msgtype = some PaxosMessageType.PAXOS_PROMISE.code then
    (lib.learner_receive_promise dl.paxos_learner
      (read_promise lib.paxos_value_new r.x.pkt.frame)).2
  else none

/-- Each accept that is returned in a run is transmitted once. -/
def AcceptsSent (lib : LibLearner L) (dl : DpLearner L) (rs : List Rx) : Prop :=
  ∀ pre r post, rs = pre ++ r :: post →
    ∀ accept, reported lib (after (paxos_rx_process lib) dl pre) r = some accept →
      (paxos_rx_process lib (after (paxos_rx_process lib) dl pre) r).2.transmitted.countP
        (fun m => Carries m .PAXOS_ACCEPT accept) = 1

/-- Nothing is transmitted on a promise. -/
lemma transmitted_of_reported {lib : LibLearner L} {dl : DpLearner L} {r : Rx}
    {accept : PaxosAccept} (h : reported lib dl r = some accept) :
    (paxos_rx_process lib dl r).2.transmitted = [] := by
  unfold reported at h
  split_ifs at h with hr
  rw [paxos_rx_process, if_pos hr, rx_promise]
  simp only
  rcases hrecv : lib.learner_receive_promise dl.paxos_learner
    (read_promise lib.paxos_value_new r.x.pkt.frame) with ⟨l, _ | accept'⟩ <;> rfl

/-- Nothing is transmitted for the holes. -/
lemma transmitted_check_holes (h : Host) (lib : LibLearner L) (dl : DpLearner L)
    (created_pkt : Mbuf) : (check_holes h lib dl created_pkt).2.2 = [] := by
  unfold check_holes
  rcases lib.learner_has_holes dl.paxos_learner with _ | ⟨from_inst, to_inst⟩ <;> rfl

/-- The last instance of the holes. -/
lemma holes_concat {from_inst to_inst : BitVec 32} (h : from_inst < to_inst) :
    ∃ iids, holes from_inst to_inst = iids ++ [to_inst - 1] := by
  have hlt : from_inst.toNat < to_inst.toNat := BitVec.lt_def.mp h
  obtain ⟨k, hk⟩ : ∃ k, to_inst.toNat - from_inst.toNat = k + 1 :=
    ⟨to_inst.toNat - from_inst.toNat - 1, by omega⟩
  refine ⟨(List.range' from_inst.toNat k).map (BitVec.ofNat 32), ?_⟩
  have hlast : BitVec.ofNat 32 (from_inst.toNat + k) = to_inst - 1 := by
    have hto := to_inst.isLt
    apply BitVec.eq_of_toNat_eq
    rw [BitVec.toNat_sub, BitVec.toNat_ofNat]
    change _ = (2 ^ 32 - 1 + to_inst.toNat) % 2 ^ 32
    omega
  rw [holes, hk, List.range'_concat, List.map_append, List.map_singleton, Nat.one_mul, hlast]

/-- **One buffer for all prepares**: the loop leaves the one for the last instance. -/
theorem created_check_holes (h : Host) (lib : LibLearner L) (dl : DpLearner L) (created_pkt : Mbuf)
    {from_inst to_inst : BitVec 32}
    (hholes : lib.learner_has_holes dl.paxos_learner = some (from_inst, to_inst))
    (hlt : from_inst < to_inst) :
    ∃ l pkt, (check_holes h lib dl created_pkt).2.1 =
      add_paxos_message h
        { type := .PAXOS_PREPARE, accept := (lib.learner_prepare l (to_inst - 1)).2 } pkt
        LEARNER_PORT ACCEPTOR_PORT ACCEPTOR_ADDR := by
  obtain ⟨iids, hiids⟩ := holes_concat hlt
  rw [check_holes, hholes]
  simp only
  rw [hiids, List.foldl_append]
  exact ⟨_, _, rfl⟩

/-- **Recovery sends its messages only when there is none to send**: when no instance is missing,
and as long as no quorum of promises is reported. -/
theorem recovery_sends_iff (lib : LibLearner L) :
    (∀ h dl created_pkt, HolesPrepared lib dl (check_holes h lib dl created_pkt).2.2 ↔
      ∀ from_inst to_inst, lib.learner_has_holes dl.paxos_learner = some (from_inst, to_inst) →
        ¬ from_inst < to_inst) ∧
    ∀ dl rs, AcceptsSent lib dl rs ↔
      ∀ pre r post, rs = pre ++ r :: post →
        reported lib (after (paxos_rx_process lib) dl pre) r = none := by
  constructor
  · intro h dl created_pkt
    rw [transmitted_check_holes]
    constructor
    · intro hsent from_inst to_inst hholes hlt
      have hone := hsent from_inst to_inst hholes from_inst (BitVec.le_refl _) hlt
      rw [List.countP_nil] at hone
      cases hone
    · intro hnone from_inst to_inst hholes iid hfrom hto
      have hlt : from_inst < to_inst := by
        rw [BitVec.le_def] at hfrom
        rw [BitVec.lt_def] at hto ⊢
        omega
      exact absurd hlt (hnone from_inst to_inst hholes)
  · intro dl rs
    constructor
    · intro hsent pre r post hrs
      by_contra hreport
      obtain ⟨accept, haccept⟩ := Option.ne_none_iff_exists'.mp hreport
      have hone := hsent pre r post hrs accept haccept
      rw [transmitted_of_reported haccept, List.countP_nil] at hone
      cases hone
    · intro hsilent pre r post hrs accept haccept
      rw [hsilent pre r post hrs] at haccept
      cases haccept

/-! ### With the library in the archive -/

/-- What happens to the learner: a packet comes, the main loop flushes the queue, or the timer of
`check_holes` goes off. -/
inductive Event
  | rx (r : Rx)
  | drain (d : Driver)
  | hole_timer (h : Host) (created_pkt : Mbuf)

/-- The learner after an event, and what is handed to the driver.
Source: `dpdk/learner/main.c` `paxos_rx_process`, `lcore_main`, `check_holes` -/
def step (lib : LibLearner L) (dl : DpLearner L) : Event → DpLearner L × List Mbuf
  | .rx r => ((paxos_rx_process lib dl r).1, (paxos_rx_process lib dl r).2.transmitted)
  | .drain d => (if d.nb_tx ≠ 0 then dl.reset_tx_mbufs d else dl, [])
  | .hole_timer h created_pkt =>
      ((check_holes h lib dl created_pkt).1, (check_holes h lib dl created_pkt).2.2)

section

variable {dl : DpLearner Libpaxos.Learner} (h : Libpaxos.Fresh dl.paxos_learner)
  (held : BitVec 16 × BitVec 16)
include h

/-- A packet leaves the library without a closed instance and without a gap: a promise finds no gap,
and the branch for accepted messages calls neither `learner_prepare` nor
`learner_set_instance_id`. -/
lemma fresh_rx (r : Rx) :
    Libpaxos.Fresh (paxos_rx_process (Libpaxos.learner held) dl r).1.paxos_learner := by
  unfold paxos_rx_process
  split_ifs with hpromise haccepted
  · rw [rx_promise]
    simp only [Libpaxos.learner, Libpaxos.receive_promise_of_fresh h held]
    exact h
  · rw [(rx_accepted_spec (Libpaxos.learner held) dl r).2]
    exact Libpaxos.fresh_deliver_next (Libpaxos.fresh_receive_accepted h _)
  · exact h

/-- The step lemma: no event closes an instance or opens a gap. One case per event; a flush replaces
buffers and does not call the library. -/
lemma fresh_step (e : Event) :
    Libpaxos.Fresh (step (Libpaxos.learner held) dl e).1.paxos_learner := by
  cases e with
  | rx r => exact fresh_rx h held r
  | drain d =>
      unfold step
      simp only
      split_ifs
      · exact h
      · exact h
  | hole_timer host created_pkt =>
      -- `learner_prepare` would open a gap, and is not called without holes
      have hholes : (Libpaxos.learner held).learner_has_holes dl.paxos_learner = none :=
        Libpaxos.has_holes_of_fresh h
      show Libpaxos.Fresh (check_holes host (Libpaxos.learner held) dl created_pkt).1.paxos_learner
      rw [check_holes, hholes]
      exact h

/-- The run lemma. -/
lemma fresh_after (es : List Event) :
    Libpaxos.Fresh (after (step (Libpaxos.learner held)) dl es).paxos_learner := by
  refine after_invariant
    (I := fun _ (dl : DpLearner Libpaxos.Learner) => Libpaxos.Fresh dl.paxos_learner) h ?_
  intro _ e _ _ hfresh
  exact fresh_step hfresh held e

/-- The same for packets only. -/
lemma fresh_after_rx (rs : List Rx) :
    Libpaxos.Fresh (after (paxos_rx_process (Libpaxos.learner held)) dl rs).paxos_learner := by
  refine after_invariant
    (I := fun _ (dl : DpLearner Libpaxos.Learner) => Libpaxos.Fresh dl.paxos_learner) h ?_
  intro _ r _ _ hfresh
  exact fresh_rx hfresh held r

/-- A promise is never the one that completes a quorum. -/
lemma reported_of_fresh (r : Rx) : reported (Libpaxos.learner held) dl r = none := by
  unfold reported
  split_ifs with hpromise
  · exact congrArg Prod.snd (Libpaxos.receive_promise_of_fresh h held _)
  · rfl

end

end DpLearner

end P4xos.Dpdk
