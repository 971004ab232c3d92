import P4xos.P4v14.Learner
import P4xos.P4v16.Learner

/-!
# Delivery by the P4-14 and the P4-16 learner

Both learners keep the same tally, and test the same mask. They differ in what they do with the
test. The P4-14 learner forwards when it succeeds and its egress control drops the rest. The P4-16
learner applies `transport_tbl` when it succeeds, always with `set_drop = 1`, the entry that drops,
and lets the rest pass to the port that the checksum verification left.

* `out14_isSome`: when the P4-14 learner forwards, by the votes before the packet.
* `out16_eq_none`, `out16_eq_none_iff`: the two cases of the P4-16 learner, with the rules of
  `config-learner.txt` and a forward entry for `set_drop = 0`. At a quorum it drops; before one it
  passes what has a wrong IPv4 checksum.
* `deliversSame_iff`: so on one packet they agree exactly if neither sends anything (`Silent`).
* `learners_deliver_iff`: the learners agree exactly on the runs in which the P4-14 learner has
  nothing to forward, and the P4-16 learner nothing to pass.

Instance, round and acceptor of the packets fit into the narrower fields of the P4-14 header.
-/

namespace P4xos.Equiv.Delivery

open P4xos.Lib
open P4v16 (Checksum16 Headers)
open P4v16.Acceptor (Transport)
open P4v16.Learner (Datagram handle)

/-- The rules of `transport_tbl`: `_drop` for `set_drop = 1`, and a forward entry for `set_drop =
0`.
Source: `p4-16/config-learner.txt` -/
def rules (port : BitVec 4) (learnerPort : BitVec 16) : BitVec 1 → Transport := fun set_drop =>
  if set_drop = 1 then ._drop else .forward port learnerPort

/-- A 2B packet whose fields fit the formats of both programs, of one of the acceptors 0, 1 and 2.
-/
structure Fits (d : Datagram) : Prop where
  msgtype : d.paxos.msgtype = P4v16.PAXOS_2B
  inst : d.paxos.inst.toNat < 65536
  rnd : d.paxos.rnd.toNat < 256
  acptid : d.paxos.acptid.toNat < 3

/-- The corresponding packet of the P4-14 programs. -/
def packet14 (d : Datagram) : P4v14.Learner.Packet where
  ingress_port := d.ingress_port
  paxos := {
    msgtype := P4v14.PAXOS_2B
    inst := d.paxos.inst.setWidth 16
    round := d.paxos.rnd.setWidth 8
    vround := d.paxos.vrnd.setWidth 8
    acceptor := d.paxos.acptid.setWidth 64
    value := d.paxos.paxosval.setWidth 512 }

/-- The instance has registers in the P4-16 learner. -/
lemma Fits.fromThree {d : Datagram} (h : Fits d) : P4v16.Learner.FromThree d.paxos :=
  ⟨h.inst, h.acptid⟩

/-- Corresponding packets carry the same vote. -/
lemma Fits.vote_packet14 {d : Datagram} (h : Fits d) : (packet14 d).vote = d.vote := by
  have hinst : (packet14 d).paxos.inst.toNat = d.paxos.inst.toNat := by
    simp only [packet14, BitVec.toNat_setWidth]
    exact Nat.mod_eq_of_lt h.inst
  have hround : (packet14 d).paxos.round.toNat = d.paxos.rnd.toNat := by
    simp only [packet14, BitVec.toNat_setWidth]
    exact Nat.mod_eq_of_lt h.rnd
  have hvoter : (packet14 d).paxos.acceptor.toNat = d.paxos.acptid.toNat := by
    have hlt := h.acptid
    simp only [packet14, BitVec.toNat_setWidth]
    omega
  simp only [P4v14.Learner.Packet.vote, hinst, hround, hvoter]
  rfl

/-- The corresponding packet is one of the three acceptors. -/
lemma Fits.packet14_fromThree {d : Datagram} (h : Fits d) : (packet14 d).FromThree := by
  have hvoter : (packet14 d).vote.voter = d.vote.voter := congrArg Vote.voter h.vote_packet14
  have hlt : (packet14 d).vote.voter < 3 := by
    rw [hvoter]
    exact h.acptid
  exact ⟨rfl, hlt⟩

/-! ## The two learners on one run -/

/-- What the P4-14 learner does with a packet after others. -/
def out14 (F : BitVec 9 → Option P4v14.Learner.Forward) (pre : List Datagram) (d : Datagram) :
    Option (BitVec 9 × P4v14.PaxosT) :=
  (P4v14.Learner.step F (after (P4v14.Learner.step F) P4v14.Learner.init (pre.map packet14))
    (packet14 d)).2

/-- What the P4-16 learner does with a packet after others. -/
def out16 (port : BitVec 4) (learnerPort : BitVec 16) (pre : List Datagram) (d : Datagram) :
    Option (BitVec 9 × Headers) :=
  (handle (rules port learnerPort)
    (after (handle (rules port learnerPort)) P4v16.Learner.init pre) d).2

/-- The P4-16 learner delivers to the application port exactly the packets that the P4-14 learner
forwards, and discards the others. -/
def DeliversSame (F : BitVec 9 → Option P4v14.Learner.Forward) (port : BitVec 4)
    (learnerPort : BitVec 16) (pre : List Datagram) (d : Datagram) : Prop :=
  ((∃ hdr, out16 port learnerPort pre d = some (port.setWidth 9, hdr)) ↔
    (out14 F pre d).isSome = true) ∧
  ((out14 F pre d).isSome = false → out16 port learnerPort pre d = none)

/-- Two acceptors are counted when the packet comes. -/
def TwoCounted (pre : List Datagram) (d : Datagram) : Prop :=
  (counted (pre.map Datagram.vote) d.vote).card = 2

/-- A count and a number. -/
instance (pre : List Datagram) (d : Datagram) : Decidable (TwoCounted pre d) :=
  inferInstanceAs (Decidable (_ = _))

/-- The P4-14 learner forwards at a quorum, by the entry of the ingress port. The datagrams become
packets of the three acceptors with the same votes. -/
lemma out14_isSome (F : BitVec 9 → Option P4v14.Learner.Forward) {pre : List Datagram}
    {d : Datagram} (hpre : ∀ q ∈ pre, Fits q) (hd : Fits d) :
    (out14 F pre d).isSome = true ↔
      (P4v14.Learner.outPort F d.ingress_port).isSome = true ∧ TwoCounted pre d := by
  have hpre' : ∀ q ∈ pre.map packet14, q.FromThree := by
    intro q hq
    obtain ⟨d', hd', rfl⟩ := List.mem_map.mp hq
    exact (hpre d' hd').packet14_fromThree
  have hvotes : (pre.map packet14).map P4v14.Learner.Packet.vote = pre.map Datagram.vote := by
    rw [List.map_map]
    exact List.map_congr_left fun q hq => (hpre q hq).vote_packet14
  have h := P4v14.Learner.forwarded_iff F hpre' hd.packet14_fromThree
  rw [hvotes, hd.vote_packet14] at h
  exact h

/-- At a quorum the P4-16 learner drops: `set_drop` is still 1. -/
lemma out16_eq_none (port : BitVec 4) (learnerPort : BitVec 16) {pre : List Datagram}
    {d : Datagram} (hpre : ∀ q ∈ pre, Fits q) (hd : Fits d) (h : TwoCounted pre d) :
    out16 port learnerPort pre d = none := by
  have hout := P4v16.Learner.handle_after_eq (rules port learnerPort)
    (fun q hq => (hpre q hq).fromThree) hd.fromThree
  rw [TwoCounted] at h
  rw [if_pos h] at hout
  exact hout

/-- Without a quorum it leaves the packet alone: the packet is discarded when its checksum is right.
-/
lemma out16_eq_none_iff (port : BitVec 4) (learnerPort : BitVec 16) {pre : List Datagram}
    {d : Datagram} (hpre : ∀ q ∈ pre, Fits q) (hd : Fits d) (h : ¬ TwoCounted pre d) :
    out16 port learnerPort pre d = none ↔ d.ipv4.hdrChecksum = Checksum16 d.ipv4.checksummed := by
  have hout := P4v16.Learner.handle_after_eq (rules port learnerPort)
    (fun q hq => (hpre q hq).fromThree) hd.fromThree
  rw [TwoCounted] at h
  rw [if_neg h] at hout
  rw [out16, hout]
  exact P4v16.Learner.passed_eq_none rfl

/-- A packet on which neither learner sends anything: at a quorum its ingress port has no forward
entry in the P4-14 learner, before a quorum its IPv4 checksum is right. -/
def Silent (F : BitVec 9 → Option P4v14.Learner.Forward) (pre : List Datagram) (d : Datagram) :
    Prop :=
  if TwoCounted pre d then P4v14.Learner.outPort F d.ingress_port = none
  else d.ipv4.hdrChecksum = Checksum16 d.ipv4.checksummed

/-- One comparison in each case. -/
instance (F : BitVec 9 → Option P4v14.Learner.Forward) (pre : List Datagram) (d : Datagram) :
    Decidable (Silent F pre d) :=
  inferInstanceAs (Decidable
    (if TwoCounted pre d then P4v14.Learner.outPort F d.ingress_port = none
    else d.ipv4.hdrChecksum = Checksum16 d.ipv4.checksummed))

/-- One packet: the learners agree exactly when neither sends anything. At a quorum the P4-16
learner drops what the other one may forward, and without one it passes on what the other one drops.
-/
lemma deliversSame_iff (F : BitVec 9 → Option P4v14.Learner.Forward) (port : BitVec 4)
    (learnerPort : BitVec 16) {pre : List Datagram} {d : Datagram} (hpre : ∀ q ∈ pre, Fits q)
    (hd : Fits d) : DeliversSame F port learnerPort pre d ↔ Silent F pre d := by
  have h14 := out14_isSome F hpre hd
  unfold DeliversSame Silent
  by_cases h : TwoCounted pre d
  · have h16 := out16_eq_none port learnerPort hpre hd h
    rw [if_pos h, h16, h14]
    simp [h]
  · have h16 := out16_eq_none_iff port learnerPort hpre hd h
    have hnone : (out14 F pre d).isSome = false := by
      rw [← Bool.not_eq_true, h14]
      exact fun hc => h hc.2
    rw [if_neg h, ← h16, hnone]
    constructor
    · rintro ⟨-, hdrop⟩
      exact hdrop rfl
    · intro hdrop
      rw [hdrop]
      exact ⟨by simp, fun _ => rfl⟩

/-- **The learners deliver the same exactly on the runs on which neither sends anything.** One
packet is compared at a time, after any packets before it. -/
theorem learners_deliver_iff (F : BitVec 9 → Option P4v14.Learner.Forward) (port : BitVec 4)
    (learnerPort : BitVec 16) (ds : List Datagram) (hds : ∀ d ∈ ds, Fits d) :
    (∀ pre d post, ds = pre ++ d :: post → DeliversSame F port learnerPort pre d) ↔
    ∀ pre d post, ds = pre ++ d :: post → Silent F pre d := by
  have hiff : ∀ pre d post, ds = pre ++ d :: post →
      (DeliversSame F port learnerPort pre d ↔ Silent F pre d) := by
    intro pre d post h
    have hpre : ∀ q ∈ pre, Fits q := fun q hq => hds q (by simp [h, hq])
    exact deliversSame_iff F port learnerPort hpre (hds d (by simp [h]))
  constructor
  · intro hsame pre d post h
    exact (hiff pre d post h).mp (hsame pre d post h)
  · intro hsilent pre d post h
    exact (hiff pre d post h).mpr (hsilent pre d post h)

/-- A 2B packet of instance 5 and round 1 with value zero, from port 1, and with a right IPv4
checksum. -/
def datagram2b (acptid : BitVec 16) : Datagram where
  ingress_port := 1
  ethernet := { dstAddr := 0, srcAddr := 0, etherType := P4v16.ETHERTYPE_IPV4 }
  ipv4 := { version := 4, ihl := 5, diffserv := 0, totalLen := 76, identification := 0, flags := 2,
            fragOffset := 0, ttl := 64, protocol := P4v16.UDP_PROTOCOL, hdrChecksum := 0x268D,
            srcAddr := 0x0A00000A, dstAddr := 0x0A00000B }
  udp := { srcPort := 34952, dstPort := P4v16.PAXOS_PROTOCOL, length_ := 56, checksum := 0 }
  paxos := { msgtype := P4v16.PAXOS_2B, inst := 5, rnd := 1, vrnd := 1, acptid := acptid,
             paxoslen := 0, paxosval := 0 }

/-- A vote for an instance in a round, from a port. The other fields are those of `datagram2b`. -/
def voteFrom (port : BitVec 9) (inst : BitVec 32) (rnd acptid : BitVec 16) : Datagram :=
  { datagram2b acptid with
    ingress_port := port
    paxos := { (datagram2b acptid).paxos with inst := inst, rnd := rnd } }

/-- The votes of three acceptors for two instances, in two rounds. The last one completes a quorum
and comes from a port without a forward entry. -/
def spreadVotes : List Datagram :=
  [voteFrom 1 5 1 0, voteFrom 1 6 1 1, voteFrom 1 5 2 2, voteFrom 1 6 1 1, voteFrom 3 5 2 1]

/-- The learners agree on each of these votes, and neither delivers any. At the last vote a quorum
is counted, and still nothing is forwarded. -/
theorem learners_deliver_spread :
    (∀ d ∈ spreadVotes, Fits d) ∧
    TwoCounted (spreadVotes.take 4) (voteFrom 3 5 2 1) ∧
    ∀ pre d post, spreadVotes = pre ++ d :: post →
      DeliversSame (fun port => if port = 1 then some (.forward 2) else none) 2 56789 pre d := by
  have hfits : ∀ d ∈ spreadVotes, Fits d := by
    intro d hd
    simp only [spreadVotes, List.mem_cons, List.not_mem_nil, or_false] at hd
    rcases hd with rfl | rfl | rfl | rfl | rfl <;>
      exact ⟨by decide, by decide, by decide, by decide⟩
  refine ⟨hfits, by decide +kernel, ?_⟩
  apply (learners_deliver_iff _ 2 56789 _ hfits).mpr
  refine forall_split_cons.mpr ⟨by decide +kernel, ?_⟩
  refine forall_split_cons.mpr ⟨by decide +kernel, ?_⟩
  refine forall_split_cons.mpr ⟨by decide +kernel, ?_⟩
  refine forall_split_cons.mpr ⟨by decide +kernel, ?_⟩
  exact forall_split_cons.mpr ⟨by decide +kernel, forall_split_nil⟩

/-- Two votes of one round: the P4-14 learner forwards the second, and the P4-16 learner drops it.
-/
theorem learners_deliver_differently :
    ¬ ∀ (F : BitVec 9 → Option P4v14.Learner.Forward) (port : BitVec 4) (learnerPort : BitVec 16)
      (ds : List Datagram), (∀ d ∈ ds, Fits d) →
      ∀ pre d post, ds = pre ++ d :: post → DeliversSame F port learnerPort pre d := by
  intro h
  have hfits : ∀ d ∈ [datagram2b 0, datagram2b 1], Fits d := by
    intro d hd
    rcases List.mem_pair.mp hd with rfl | rfl
    · exact ⟨by decide, by decide, by decide, by decide⟩
    · exact ⟨by decide, by decide, by decide, by decide⟩
  obtain ⟨hsame, -⟩ := h (fun _ => some (.forward 2)) 2 56789 _ hfits [datagram2b 0] (datagram2b 1)
    [] rfl
  have hforwarded : (out14 (fun _ => some (.forward 2)) [datagram2b 0] (datagram2b 1)).isSome =
      true := by decide +kernel
  have hdropped : out16 2 56789 [datagram2b 0] (datagram2b 1) = none := by decide +kernel
  obtain ⟨hdr, hdelivered⟩ := hsame.mpr hforwarded
  rw [hdropped] at hdelivered
  cases hdelivered

end P4xos.Equiv.Delivery
