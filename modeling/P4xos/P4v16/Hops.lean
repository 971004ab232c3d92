import P4xos.P4v16.Leader
import P4xos.P4v16.Switch

/-!
# From one P4-16 role to the next

The leader sends to the acceptors and they send to the learner. All roles have the same parser,
which goes on to `parse_paxos` for one UDP port only; the `forward` action of each role addresses
what it sends to the port in the table entry.

* `recognised_iff`: what a role sends is parsed by the next one, into the headers sent, exactly when
  it is addressed to `PAXOS_PROTOCOL`.
* `Leader.hop_recognised_iff`, `Acceptor.hop_recognised_iff`: the two hops, each for any registers
  and any entries. What is dropped cannot be missed, so only entries that forward matter.
* `hops_recognised_iff`: so the entry of `transport_tbl` that a packet meets has to name that port.
  Which entry it meets, its type says at the leader, and its type and round at an acceptor.
* `hop_not_recognised`: `ACCEPTOR_PORT`, `LEARNER_PORT` and the port of `p4-16/config-acceptor.txt`
  are others.
-/

namespace P4xos.P4v16

open P4xos.Lib

/-- The program defines it and reads it nowhere.
Source: `p4-16/p4src/includes/header.p4` `ACCEPTOR_PORT` -/
def ACCEPTOR_PORT : BitVec 16 := 0x8889

/-- The program defines it and reads it nowhere.
Source: `p4-16/p4src/includes/header.p4` `LEARNER_PORT` -/
def LEARNER_PORT : BitVec 16 := 0x8890

/-- What a role sends, if anything, the parser of the next one takes up to `parse_paxos`, and reads
the headers that were sent. -/
def Recognised (sent : Option (BitVec 9 × Bytes)) (hdr : Headers) : Prop :=
  ∀ n out, sent = some (n, out) → ∃ q, TopParser out = some q ∧ q.hdr = hdr ∧ q.hdr.paxos ≠ none

/-- A packet that is not sent cannot be missed. The condition on what is recognised speaks of what
is sent only. -/
lemma recognised_none (hdr : Headers) : Recognised none hdr := by
  rintro n out ⟨⟩

section

variable (e : EthernetT) (ip : Ipv4T) (u : UdpT) (p : PaxosT) (payload : Bytes)

/-- **Only one port is recognised.** The next hop parses the bytes, and its parser goes on to
`parse_paxos` at that port only; the port it reads is the one written. -/
lemma recognised_iff (n : BitVec 9) (he : e.etherType = ETHERTYPE_IPV4)
    (hip : ip.protocol = UDP_PROTOCOL) :
    let hdr := computeChecksum ⟨e, some ip, some u, some p⟩
    Recognised (some (n, TopDeparser hdr ++ payload)) hdr ↔ u.dstPort = PAXOS_PROTOCOL := by
  set ip' : Ipv4T := { ip with hdrChecksum := Checksum16 ip.checksummed }
  change Recognised (some (n, frameOf e ip' u p payload)) ⟨e, some ip', some u, some p⟩ ↔ _
  constructor
  · intro h
    obtain ⟨q, hparse, -, hpaxos⟩ := h n _ rfl
    obtain ⟨-, -, -, hport⟩ := isPaxos_of_paxos hparse hpaxos
    obtain ⟨-, h₃₄, -, -⟩ := drop_frameOf e ip' u p payload
    have hu : UdpT.read ((frameOf e ip' u p payload).drop 34) = u := h₃₄ ▸ u.read_emit _
    have hdst := congrArg UdpT.dstPort hu
    simp only [UdpT.read, bits_drop] at hdst
    exact hdst.symm.trans hport
  · intro hu n' out hout
    obtain ⟨-, rfl⟩ := Prod.mk.inj (Option.some.inj hout)
    exact ⟨_, TopParser_frameOf e ip' u p payload he hip hu, rfl, by simp⟩

end

/-- The Paxos header read back. -/
lemma read_frameOf (e : EthernetT) (ip : Ipv4T) (u : UdpT) (p : PaxosT) (payload : Bytes) :
    PaxosT.read ((frameOf e ip u p payload).drop 42) = p := by
  obtain ⟨-, -, h₄₂, -⟩ := drop_frameOf e ip u p payload
  rw [h₄₂]
  exact p.read_emit _

/-- A Paxos frame says that it is IPv4 and UDP, and it is addressed to `PAXOS_PROTOCOL`. -/
lemma IsPaxos.headers {b : Bytes} (h : IsPaxos b) :
    (EthernetT.read b).etherType = ETHERTYPE_IPV4 ∧
    (Ipv4T.read (b.drop 14)).protocol = UDP_PROTOCOL ∧
    (UdpT.read (b.drop 34)).dstPort = PAXOS_PROTOCOL := by
  obtain ⟨-, htype, hproto, hport⟩ := h
  refine ⟨htype, ?_, ?_⟩
  · simpa [Ipv4T.read] using hproto
  · simpa [UdpT.read] using hport

/-! ## The leader -/

namespace Leader

open Acceptor (Transport)

/-- One frame through a leader switch. The egress control does nothing.
Source: `p4-16/p4src/leader.p4` `V1Switch` -/
def switch (T : BitVec 1 → Transport) (r : BitVec 32) (b : Bytes) :
    BitVec 32 × Option (BitVec 9 × Bytes) :=
  match TopParser b with
  | none => (r, some (0, b))
  | some q =>
      match ingress T r q.hdr (verifyChecksum q.hdr) with
      | (r', _, .drop) => (r', none)
      | (r', hdr', .port n) => (r', some (n, TopDeparser (computeChecksum hdr') ++ q.payload))

/-- The headers that the ingress control leaves, with their checksum. They are what `Recognised`
compares with. -/
def written (T : BitVec 1 → Transport) (r : BitVec 32) (b : Bytes) : Headers :=
  computeChecksum (ingress T r (Headers.read b) (verifyChecksum (Headers.read b))).2.1

/-- `set_drop` when `transport_tbl` is applied. Only a reset marks its packet. -/
def set_drop (p : PaxosT) : BitVec 1 := if p.msgtype = 5 then 1 else 0

/-- The tables before `transport_tbl` set `set_drop`, and leave the UDP header. The action for type
5 sets the flag, and with every other type it is 0. -/
lemma leader_tbl_set_drop (r : BitVec 32) (u : Option UdpT) (p : PaxosT) (e : Egress) :
    (leader_tbl ⟨r, u, p, 0, e⟩).set_drop = set_drop p ∧ (leader_tbl ⟨r, u, p, 0, e⟩).udp = u := by
  unfold leader_tbl set_drop
  by_cases h₂ : p.msgtype = PAXOS_2A
  · have h₅ : p.msgtype ≠ 5 := by
      rw [h₂]
      decide
    rw [if_pos h₂, if_neg h₅]
    exact ⟨rfl, rfl⟩
  · rw [if_neg h₂]
    by_cases h₅ : p.msgtype = 5
    · rw [if_pos h₅, if_pos h₅]
      exact ⟨rfl, rfl⟩
    · rw [if_neg h₅, if_neg h₅]
      exact ⟨rfl, rfl⟩

/-- **From the leader to the acceptors.** The frame keeps its type and protocol, so it is recognised
by the port that the entry writes. -/
lemma hop_recognised_iff (T : BitVec 1 → Transport) (r : BitVec 32) {b : Bytes} (hb : IsPaxos b) :
    Recognised (switch T r b).2 (written T r b) ↔
      ∀ n port, T (set_drop (PaxosT.read (b.drop 42))) = .forward n port →
        port = PAXOS_PROTOCOL := by
  obtain ⟨htype, hproto, -⟩ := hb.headers
  obtain ⟨hset, hudp⟩ := leader_tbl_set_drop r (some (UdpT.read (b.drop 34)))
    (PaxosT.read (b.drop 42)) (verifyChecksum (Headers.read b))
  unfold switch written
  rw [TopParser_eq hb]
  simp only [ingress, Headers.read, transport_tbl]
  simp only [Headers.read] at hset hudp
  rw [hset]
  cases T (set_drop (PaxosT.read (b.drop 42))) with
  | _drop =>
      simp only [_drop]
      exact iff_of_true (recognised_none _) (by rintro n port ⟨⟩)
  | forward n port =>
      simp only [forward, hudp, Option.map, Transport.forward.injEq, and_imp]
      refine (recognised_iff _ _ _ _ _ _ htype hproto).trans ?_
      constructor
      · rintro hport n' port' - rfl
        exact hport
      · intro hport
        exact hport n port rfl rfl

end Leader

/-! ## The acceptor -/

namespace Acceptor

/-- The headers that the ingress control leaves, with their checksum. -/
def written (T : BitVec 1 → Transport) (A : Acceptor) (b : Bytes) : Headers :=
  computeChecksum (ingress T A (Headers.read b) (verifyChecksum (Headers.read b))).2.1

/-- The packet is not of a lower round than its instance. The tables are applied to such a packet
only. -/
def Fresh (A : Acceptor) (p : PaxosT) : Prop := A.registerRound.read p.inst.toNat ≤ p.rnd

/-- `set_drop` when `transport_tbl` is applied. -/
def set_drop (p : PaxosT) : BitVec 1 := if p.msgtype = PAXOS_1A ∨ p.msgtype = PAXOS_2A then 0 else 1

/-- `acceptor_tbl` sets `set_drop`, and leaves the UDP header. -/
lemma acceptor_tbl_set_drop (A : Acceptor) (u : Option UdpT) (p : PaxosT) (e : Egress) :
    (acceptor_tbl ⟨A, u, p, 1, e⟩).set_drop = set_drop p ∧
    (acceptor_tbl ⟨A, u, p, 1, e⟩).udp = u := by
  unfold acceptor_tbl set_drop
  by_cases h₁ : p.msgtype = PAXOS_1A
  · rw [if_pos h₁, if_pos (.inl h₁)]
    exact ⟨rfl, rfl⟩
  · rw [if_neg h₁]
    by_cases h₂ : p.msgtype = PAXOS_2A
    · rw [if_pos h₂, if_pos (.inr h₂)]
      exact ⟨rfl, rfl⟩
    · rw [if_neg h₂, if_neg (not_or.mpr ⟨h₁, h₂⟩)]
      exact ⟨rfl, rfl⟩

/-- **From an acceptor to the learner.** A packet of a lower round leaves, if it does, as it came.
-/
lemma hop_recognised_iff (T : BitVec 1 → Transport) (A : Acceptor) {b : Bytes} (hb : IsPaxos b) :
    Recognised (switch T A b).2 (written T A b) ↔
      (A.Fresh (PaxosT.read (b.drop 42)) → ∀ n port,
        T (set_drop (PaxosT.read (b.drop 42))) = .forward n port → port = PAXOS_PROTOCOL) := by
  obtain ⟨htype, hproto, hdst⟩ := hb.headers
  obtain ⟨hset, hudp⟩ := acceptor_tbl_set_drop A (some (UdpT.read (b.drop 34)))
    (PaxosT.read (b.drop 42)) (verifyChecksum (Headers.read b))
  unfold switch written
  rw [TopParser_eq hb]
  by_cases hfresh : A.Fresh (PaxosT.read (b.drop 42))
  · have hr : (PaxosT.read (b.drop 42)).rnd ≥
        A.registerRound.read (PaxosT.read (b.drop 42)).inst.toNat := hfresh
    rw [imp_iff_right hfresh]
    simp only [Headers.read] at hset hudp
    simp only [ingress, Headers.read, transport_tbl]
    rw [if_pos hr, hset]
    cases T (set_drop (PaxosT.read (b.drop 42))) with
    | _drop =>
        simp only [_drop]
        exact iff_of_true (recognised_none _) (by rintro n port ⟨⟩)
    | forward n port =>
        simp only [forward, hudp, Option.map, Transport.forward.injEq, and_imp]
        refine (recognised_iff _ _ _ _ _ _ htype hproto).trans ?_
        constructor
        · rintro hport n' port' - rfl
          exact hport
        · intro hport
          exact hport n port rfl rfl
  · have hr : ¬ (PaxosT.read (b.drop 42)).rnd ≥
        A.registerRound.read (PaxosT.read (b.drop 42)).inst.toNat := hfresh
    refine iff_of_true ?_ fun h => absurd h hfresh
    simp only [ingress, Headers.read]
    rw [if_neg hr]
    rcases verifyChecksum _ with n | -
    · exact (recognised_iff _ _ _ _ _ _ htype hproto).mpr hdst
    · exact recognised_none _

end Acceptor

/-- **From one role to the next.** What becomes of a Paxos packet is recognised exactly when an
entry that forwards it, if there is one, names the port `PAXOS_PROTOCOL`. -/
theorem hops_recognised_iff (T : BitVec 1 → Acceptor.Transport) (r : BitVec 32) (A : Acceptor)
    {b : Bytes} (hb : IsPaxos b) :
    (Recognised (Leader.switch T r b).2 (Leader.written T r b) ↔
      ∀ n port, T (Leader.set_drop (PaxosT.read (b.drop 42))) = .forward n port →
        port = PAXOS_PROTOCOL) ∧
    (Recognised (Acceptor.switch T A b).2 (Acceptor.written T A b) ↔
      (A.Fresh (PaxosT.read (b.drop 42)) → ∀ n port,
        T (Acceptor.set_drop (PaxosT.read (b.drop 42))) = .forward n port →
          port = PAXOS_PROTOCOL)) :=
  ⟨Leader.hop_recognised_iff T r hb, Acceptor.hop_recognised_iff T A hb⟩

/-- The rules of `p4-16/config-leader.txt`, with an entry that forwards. -/
def rules (port : BitVec 16) (set_drop : BitVec 1) : Acceptor.Transport :=
  if set_drop = 0 then .forward 1 port else ._drop

/-- The Paxos header of a client's request, as `p4-16/paxos_test.py` builds it. -/
def request : PaxosT where
  msgtype := PAXOS_2A
  inst := 0
  rnd := 0
  vrnd := 0
  acptid := 0
  paxoslen := 32
  paxosval := 0x11223344

/-- The frame of the request. -/
def requestFrame : Bytes :=
  frameOf { dstAddr := 0x08002710A880, srcAddr := 0, etherType := ETHERTYPE_IPV4 }
    { version := 4, ihl := 5, diffserv := 0, totalLen := 76, identification := 1, flags := 0,
      fragOffset := 0, ttl := 64, protocol := UDP_PROTOCOL, hdrChecksum := 0,
      srcAddr := 0xC0A8045F, dstAddr := 0xE0031D49 }
    { srcPort := 34951, dstPort := PAXOS_PROTOCOL, length_ := 56, checksum := 0 } request []

/-- It is a Paxos frame. -/
lemma isPaxos_requestFrame : IsPaxos requestFrame :=
  isPaxos_of_paxos (TopParser_frameOf _ _ _ _ _ rfl rfl rfl) (by simp)

/-- The request through both roles, with the port that is recognised in the entry. The frame is a
Paxos frame, which is computed. -/
theorem hops_recognised_request :
    IsPaxos requestFrame ∧
    (Recognised (Leader.switch (rules PAXOS_PROTOCOL) 0 requestFrame).2
        (Leader.written (rules PAXOS_PROTOCOL) 0 requestFrame) ↔
      ∀ n port, rules PAXOS_PROTOCOL
        (Leader.set_drop (PaxosT.read (requestFrame.drop 42))) = .forward n port →
        port = PAXOS_PROTOCOL) ∧
    (Recognised (Acceptor.switch (rules PAXOS_PROTOCOL) (Acceptor.init 1) requestFrame).2
        (Acceptor.written (rules PAXOS_PROTOCOL) (Acceptor.init 1) requestFrame) ↔
      ((Acceptor.init 1).Fresh (PaxosT.read (requestFrame.drop 42)) → ∀ n port,
        rules PAXOS_PROTOCOL
          (Acceptor.set_drop (PaxosT.read (requestFrame.drop 42))) = .forward n port →
          port = PAXOS_PROTOCOL)) :=
  ⟨isPaxos_requestFrame, hops_recognised_iff _ 0 (Acceptor.init 1) isPaxos_requestFrame⟩

/-- With each of the ports that come with the program, neither the leader's packet reaches
`parse_paxos` in the acceptors nor an acceptor's in the learner. -/
theorem hop_not_recognised :
    IsPaxos requestFrame ∧ ∀ port ∈ [ACCEPTOR_PORT, LEARNER_PORT, 34954],
      ¬ Recognised (Leader.switch (rules port) 0 requestFrame).2
        (Leader.written (rules port) 0 requestFrame) ∧
      ¬ Recognised (Acceptor.switch (rules port) (Acceptor.init 1) requestFrame).2
        (Acceptor.written (rules port) (Acceptor.init 1) requestFrame) := by
  refine ⟨isPaxos_requestFrame, fun port hport => ?_⟩
  have hne : port ≠ PAXOS_PROTOCOL := by
    rintro rfl
    revert hport
    decide
  have hread : PaxosT.read (requestFrame.drop 42) = request := read_frameOf _ _ _ _ _
  constructor
  · intro h
    rw [Leader.hop_recognised_iff _ _ isPaxos_requestFrame, hread] at h
    exact hne (h 1 port rfl)
  · intro h
    rw [Acceptor.hop_recognised_iff _ _ isPaxos_requestFrame, hread] at h
    have hfresh : (Acceptor.init 1).Fresh request := by
      rw [Acceptor.Fresh, Acceptor.init, Register.read_zero]
      decide
    exact hne (h hfresh 1 port rfl)

end P4xos.P4v16
