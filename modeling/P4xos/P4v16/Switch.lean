import P4xos.P4v16.Acceptor
import P4xos.P4v16.Parser

/-!
# The P4-16 acceptor on frames

`p4-16/p4src/acceptor.p4` from the parser to the deparser. What the parser leaves unparsed is sent
behind the headers again.

* `switch_fst`: the registers after a frame are those after its headers, so what is known of the
  ingress control (`Acceptor`) is known of the frames.
* `switch_answered`: the frame that leaves with an answer, when `transport_tbl` forwards answers.
  Its Paxos header is the answer, it is addressed to the port of the rule, and behind the headers
  come the bytes that followed the request's. The header is exchanged in place: the lengths in the
  UDP and IPv4 headers stay those of the request.
-/

namespace P4xos.P4v16.Acceptor

open P4xos.Lib

/-- One frame through an acceptor switch: the registers after it, and the port and the frame that
leaves, if one does. A frame without even an Ethernet header passes as it is. The egress control
does nothing.
Source: `p4-16/p4src/acceptor.p4` `V1Switch` -/
def switch (T : BitVec 1 → Transport) (A : Acceptor) (b : Bytes) :
    Acceptor × Option (BitVec 9 × Bytes) :=
  match TopParser b with
  | none => (A, some (0, b))
  | some q =>
      match ingress T A q.hdr (verifyChecksum q.hdr) with
      | (A', _, .drop) => (A', none)
      | (A', hdr', .port n) => (A', some (n, TopDeparser (computeChecksum hdr') ++ q.payload))

/-- The registers after a frame are those after its headers. -/
lemma switch_fst (T : BitVec 1 → Transport) (A : Acceptor) {b : Bytes} {q : Parsed}
    (h : TopParser b = some q) :
    (switch T A b).1 = (ingress T A q.hdr (verifyChecksum q.hdr)).1 := by
  unfold switch
  rw [h]
  simp only []
  rcases ingress T A q.hdr (verifyChecksum q.hdr) with ⟨A', hdr', _ | _⟩ <;> rfl

/-- **The frame that carries an answer.** The hypotheses say that the request is not stale and has
an answer. The entry for answers writes the learner's port, and the other headers are those of the
request, with a new IPv4 checksum. -/
lemma switch_answered {T : BitVec 1 → Transport} {port : BitVec 4} {learnerPort : BitVec 16}
    (hT : T 0 = .forward port learnerPort) (A : Acceptor) {b : Bytes} (hb : IsPaxos b) {f : Flow}
    (hr : A.registerRound.read (PaxosT.read (b.drop 42)).inst.toNat ≤ (PaxosT.read (b.drop 42)).rnd)
    (hf : acceptor_tbl ⟨A, some (UdpT.read (b.drop 34)), PaxosT.read (b.drop 42), 1,
      verifyChecksum (Headers.read b)⟩ = f) (hset : f.set_drop = 0)
    (hudp : f.udp = some (UdpT.read (b.drop 34))) :
    ∃ ip u, ip.protocol = UDP_PROTOCOL ∧ u.dstPort = learnerPort ∧
      switch T A b = (f.regs, some (port.setWidth 9,
        frameOf (EthernetT.read b) ip u f.paxos (b.drop 90))) := by
  have htransport : transport_tbl T f = forward port learnerPort f := by
    unfold transport_tbl
    rw [hset, hT]
  have hproto : (Ipv4T.read (b.drop 14)).protocol = UDP_PROTOCOL := by
    simpa [Ipv4T.read] using hb.2.2.1
  refine ⟨{ Ipv4T.read (b.drop 14) with
      hdrChecksum := Checksum16 (Ipv4T.read (b.drop 14)).checksummed },
    { UdpT.read (b.drop 34) with dstPort := learnerPort }, hproto, rfl, ?_⟩
  have hingress : ingress T A (Headers.read b) (verifyChecksum (Headers.read b)) =
      (f.regs, { Headers.read b with
        udp := some { UdpT.read (b.drop 34) with dstPort := learnerPort }
        paxos := some f.paxos }, .port (port.setWidth 9)) := by
    unfold ingress
    simp only [Headers.read]
    rw [if_pos hr]
    simp only [Headers.read] at hf
    rw [hf, htransport, forward, hudp]
    rfl
  unfold switch
  rw [TopParser_eq hb]
  simp only []
  rw [hingress]
  rfl

end P4xos.P4v16.Acceptor
