import P4xos.P4v16.Hops
import P4xos.P4v16.Learner

/-!
# Checksums on the way through the P4-16 switches

The switches verify the IPv4 checksum when a packet comes in and compute it again when the packet
leaves. The UDP checksum, which covers the Paxos header, none of them touches.

* `verifyChecksum_inverted`: the verification marks the headers with a right checksum and no others,
  so what `computeChecksum` writes, the next switch marks to drop. It marks a header that was
  damaged on the way only where the damage does not show in the checksum.
* `udpValid_iff`: what a receiver of a UDP datagram checks, word by word. The sum is taken apart
  into the words a role rewrites and those it keeps (`wordSum_covered`), each field at its position,
  up to the length in the UDP header, which need not be that of the datagram.
* `sentValid_iff`: a packet that leaves with some words replaced has a right checksum exactly if the
  new words have the sum of the old ones, modulo 65535.
* `keepsValid_iff`: so the words that each role rewrites have to keep their sum for the UDP checksum
  to stay right, unless there is none. The leader replaces the port and the instance, an acceptor
  the port and the fields of its answer, the learner only the port.

Ones' complement sums as such are in `Lib.OnesComplement`.
-/

namespace P4xos.P4v16

open P4xos.Lib

/-! ## The checksum of the switches -/

/-- The extern computes the complement of the ones' complement sum. -/
lemma Checksum16_eq (l : Bytes) :
    Checksum16 l = ~~~ BitVec.ofNat 16 (onesSum 16 (wordSum l)) := rfl

/-- Two checksums are the same when the sums are. -/
lemma Checksum16_inj {l r : Bytes} (hl : l.length ≤ 131072) (hr : r.length ≤ 131072) :
    Checksum16 l = Checksum16 r ↔
      wordSum l ≡ wordSum r [MOD 65535] ∧ (wordSum l = 0 ↔ wordSum r = 0) := by
  have hsl := onesSum_lt (wordSum_lt hl)
  have hsr := onesSum_lt (wordSum_lt hr)
  have hcompl : Checksum16 l = Checksum16 r ↔
      onesSum 16 (wordSum l) = onesSum 16 (wordSum r) := by
    rw [Checksum16_eq, Checksum16_eq, BitVec.not_inj, ← BitVec.toNat_inj, BitVec.toNat_ofNat,
      BitVec.toNat_ofNat, Nat.mod_eq_of_lt hsl, Nat.mod_eq_of_lt hsr]
  exact hcompl.trans (onesSum_eq_iff (wordSum_lt hl) (wordSum_lt hr))

/-! ## The IPv4 checksum -/

/-- The fields that are summed have 18 bytes. -/
@[simp] lemma Ipv4T.length_checksummed (ip : Ipv4T) : ip.checksummed.length = 18 := by
  simp [Ipv4T.checksummed]

/-- The verification of a packet that has an IPv4 header. -/
lemma verifyChecksum_eq {hdr : Headers} {ip : Ipv4T} (hip : hdr.ipv4 = some ip) :
    verifyChecksum hdr = if ip.hdrChecksum = Checksum16 ip.checksummed then .drop else .port 0 := by
  rw [verifyChecksum, hip]

/-- The parser states behind `parse_ipv4` leave the IPv4 header. -/
lemma parse_udp_ipv4 (hdr : Headers) (b : Bytes) : (parse_udp hdr b).hdr.ipv4 = hdr.ipv4 := by
  unfold parse_udp parse_paxos
  split_ifs <;> rfl

/-- The IPv4 header that was sent is the one the next switch extracts. -/
lemma TopParser_ipv4 {hdr : Headers} {ip : Ipv4T} (hip : hdr.ipv4 = some ip)
    (htype : hdr.ethernet.etherType = ETHERTYPE_IPV4) (payload : Bytes) :
    ∃ q, TopParser (TopDeparser hdr ++ payload) = some q ∧ q.hdr.ipv4 = some ip := by
  rw [TopDeparser, hip, Option.elim_some, List.append_assoc, TopParser_emit, if_pos htype,
    List.append_assoc, parse_ipv4_emit]
  split_ifs
  · exact ⟨_, rfl, parse_udp_ipv4 _ _⟩
  · exact ⟨_, rfl, rfl⟩

/-- **The verification is inverted**, for every IPv4 header: a packet is marked to drop when its
checksum is the right one, so is every packet that comes from another switch, and a header that was
changed on the way is marked exactly if no checksum can show the change. The three parts are about a
single switch, about two switches in a row, and about a header that is changed between them. -/
theorem verifyChecksum_inverted {hdr : Headers} {ip : Ipv4T} (hip : hdr.ipv4 = some ip) :
    ¬ (verifyChecksum hdr = .drop ↔ ip.hdrChecksum ≠ Checksum16 ip.checksummed) ∧
    (hdr.ethernet.etherType = ETHERTYPE_IPV4 → ∀ payload, ∃ q,
      TopParser (TopDeparser (computeChecksum hdr) ++ payload) = some q ∧
        verifyChecksum q.hdr = .drop) ∧
    ∀ ip' : Ipv4T, ip'.hdrChecksum = Checksum16 ip.checksummed →
      (verifyChecksum { hdr with ipv4 := some ip' } = .drop ↔
        wordSum ip'.checksummed ≡ wordSum ip.checksummed [MOD 65535] ∧
          (wordSum ip'.checksummed = 0 ↔ wordSum ip.checksummed = 0)) := by
  refine ⟨?_, ?_, ?_⟩
  · rw [verifyChecksum_eq hip]
    by_cases hsum : ip.hdrChecksum = Checksum16 ip.checksummed
    · rw [if_pos hsum]
      intro h
      exact h.mp rfl hsum
    · rw [if_neg hsum]
      intro h
      cases h.mpr hsum
  · intro htype payload
    have hip' : (computeChecksum hdr).ipv4 =
        some { ip with hdrChecksum := Checksum16 ip.checksummed } := by
      rw [computeChecksum, hip]
      rfl
    obtain ⟨q, hq, hread⟩ := TopParser_ipv4 hip' htype payload
    refine ⟨q, hq, ?_⟩
    rw [verifyChecksum_eq hread]
    exact if_pos rfl
  · intro ip' hsum
    rw [verifyChecksum_eq rfl, hsum, ← Checksum16_inj (by simp) (by simp)]
    by_cases h : Checksum16 ip.checksummed = Checksum16 ip'.checksummed
    · rw [if_pos h]
      exact iff_of_true rfl h.symm
    · rw [if_neg h]
      apply iff_of_false _ (Ne.symm h)
      intro he
      cases he

/-- An IPv4 header of protocol 6, and an Ethernet frame with it. -/
def tcpHeader : Ipv4T where
  version := 4
  ihl := 5
  diffserv := 0
  totalLen := 20
  identification := 1
  flags := 2
  fragOffset := 0
  ttl := 64
  protocol := 6
  hdrChecksum := 0
  srcAddr := 0xC0A80001
  dstAddr := 0xC0A800C7

/-- The headers of that frame. -/
def tcpHeaders : Headers where
  ethernet := { dstAddr := 1, srcAddr := 2, etherType := ETHERTYPE_IPV4 }
  ipv4 := some tcpHeader
  udp := none
  paxos := none

/-- The frame without a checksum that ends with its IPv4 header. -/
theorem verifyChecksum_inverted_tcp :
    ¬ (verifyChecksum tcpHeaders = .drop ↔
      tcpHeader.hdrChecksum ≠ Checksum16 tcpHeader.checksummed) ∧
    (tcpHeaders.ethernet.etherType = ETHERTYPE_IPV4 → ∀ payload, ∃ q,
      TopParser (TopDeparser (computeChecksum tcpHeaders) ++ payload) = some q ∧
        verifyChecksum q.hdr = .drop) ∧
    ∀ ip' : Ipv4T, ip'.hdrChecksum = Checksum16 tcpHeader.checksummed →
      (verifyChecksum { tcpHeaders with ipv4 := some ip' } = .drop ↔
        wordSum ip'.checksummed ≡ wordSum tcpHeader.checksummed [MOD 65535] ∧
          (wordSum ip'.checksummed = 0 ↔ wordSum tcpHeader.checksummed = 0)) :=
  verifyChecksum_inverted rfl

/-- Its checksum differs from that of its fields, and it is not marked; with the checksum that
`computeChecksum` writes, it is. -/
theorem right_checksum_dropped :
    ¬ ∀ (hdr : Headers) (ip : Ipv4T), hdr.ipv4 = some ip →
      (verifyChecksum hdr = .drop ↔ ip.hdrChecksum ≠ Checksum16 ip.checksummed) ∧
        verifyChecksum (computeChecksum hdr) ≠ .drop := by
  intro h
  exact absurd (h tcpHeaders tcpHeader rfl).2 (by decide +kernel)

/-! ## The UDP checksum -/

/-- What the UDP checksum covers besides the datagram. The addresses, the protocol and the length,
in front of the datagram. -/
def pseudoHeader (ip : Ipv4T) (u : UdpT) : Bytes :=
  beEncode 4 ip.srcAddr.toNat ++ (beEncode 4 ip.dstAddr.toNat ++ (beEncode 1 0 ++
    (beEncode 1 ip.protocol.toNat ++ beEncode 2 u.length_.toNat)))

/-- All bytes it covers, with the checksum itself taken as zero; the length field says where the
datagram ends. -/
def covered (ip : Ipv4T) (u : UdpT) (data : Bytes) : Bytes :=
  pseudoHeader ip u ++ ({ u with checksum := 0 }.emit ++ data).take u.length_.toNat

/-- The checksum of a datagram; the one that would be zero is sent as all ones. -/
def udpChecksum (ip : Ipv4T) (u : UdpT) (data : Bytes) : BitVec 16 :=
  checksum 16 (wordSum (covered ip u data))

/-- The UDP checksum of a frame is right, or the sender made none. A checksum of zero says that
there is none. -/
def UdpValid (b : Bytes) : Prop :=
  (UdpT.read (b.drop 34)).checksum = 0 ∨ (UdpT.read (b.drop 34)).checksum =
    udpChecksum (Ipv4T.read (b.drop 14)) (UdpT.read (b.drop 34)) (b.drop 42)

/-- A comparison of two fields. -/
instance (b : Bytes) : Decidable (UdpValid b) := inferInstanceAs (Decidable (_ ∨ _))

/-- The words that are covered have a sum that two rounds of carries are enough for. -/
lemma length_covered_le (ip : Ipv4T) (u : UdpT) (data : Bytes) :
    (covered ip u data).length ≤ 131072 := by
  have hlen := u.length_.isLt
  rw [covered, List.length_append, List.length_take]
  simp only [pseudoHeader, List.length_append, length_beEncode]
  omega

/-- **The receiver's test**: all words of the datagram, its checksum among them, sum up to zero. -/
lemma udpValid_iff (e : EthernetT) (ip : Ipv4T) (u : UdpT) (p : PaxosT) (payload : Bytes) :
    UdpValid (frameOf e ip u p payload) ↔ u.checksum = 0 ∨
      u.checksum.toNat + wordSum (covered ip u (p.emit ++ payload)) ≡ 0 [MOD 65535] := by
  obtain ⟨h₁₄, h₃₄, h₄₂, -⟩ := drop_frameOf e ip u p payload
  rw [UdpValid, h₁₄, h₃₄, h₄₂, ip.read_emit, u.read_emit]
  by_cases hzero : u.checksum = 0
  · exact iff_of_true (.inl hzero) (.inl hzero)
  · rw [or_iff_right hzero, or_iff_right hzero]
    exact eq_checksum_iff hzero (wordSum_lt (length_covered_le ip u _))

/-- The words that an integer at byte `off` adds to the sum of a datagram of `len` bytes. -/
def wordsAt {w : ℕ} (len off : ℕ) (x : BitVec w) : ℕ :=
  wordSum ((beEncode (w / 8) x.toNat).take (len - off))

/-- The first field of a record, and the rest, up to the end of the datagram. -/
lemma wordSum_take_field {w n : ℕ} (hw : w / 8 = n) (hn : Even n) (len off : ℕ) (x : BitVec w)
    (r : Bytes) : wordSum ((beEncode n x.toNat ++ r).take (len - off)) =
      wordsAt len off x + wordSum (r.take (len - (off + n))) := by
  rw [wordSum_take_append (by simpa using hn), length_beEncode, Nat.sub_sub, wordsAt, hw]

/-- The words of the fields that one of the roles rewrites. -/
def rewritten (len : ℕ) (u : UdpT) (p : PaxosT) : ℕ :=
  wordsAt len 2 u.dstPort + wordsAt len 8 p.msgtype + wordsAt len 10 p.inst +
    wordsAt len 16 p.vrnd + wordsAt len 18 p.acptid + wordsAt len 24 p.paxosval

/-- The words of the other fields, and of what is not in a header. -/
def kept (ip : Ipv4T) (u : UdpT) (rnd : BitVec 16) (paxoslen : BitVec 32) (payload : Bytes) : ℕ :=
  wordSum (pseudoHeader ip u) + wordsAt u.length_.toNat 0 u.srcPort +
    wordsAt u.length_.toNat 4 u.length_ + wordsAt u.length_.toNat 6 (0 : BitVec 16) +
    wordsAt u.length_.toNat 14 rnd + wordsAt u.length_.toNat 20 paxoslen +
    wordSum (payload.take (u.length_.toNat - 56))

/-- The sum of the datagram, by the words that are rewritten and those that are kept. The datagram
is cut into its fields, all of an even length, so that the sum is that of their sums. -/
lemma wordSum_covered (ip : Ipv4T) (u : UdpT) (p : PaxosT) (payload : Bytes) :
    wordSum (covered ip u (p.emit ++ payload)) =
      kept ip u p.rnd p.paxoslen payload + rewritten u.length_.toNat u p := by
  have hpseudo : Even (pseudoHeader ip u).length := by
    simp only [pseudoHeader, List.length_append, length_beEncode]
    decide
  have hfour : Even 4 := by decide
  have hlast : Even 32 := by decide
  rw [covered, wordSum_append hpseudo, ← Nat.sub_zero u.length_.toNat]
  simp only [UdpT.emit, PaxosT.emit, List.append_assoc]
  rw [wordSum_take_field (n := 2) rfl even_two, wordSum_take_field (n := 2) rfl even_two,
    wordSum_take_field (n := 2) rfl even_two, wordSum_take_field (n := 2) rfl even_two,
    wordSum_take_field (n := 2) rfl even_two, wordSum_take_field (n := 4) rfl hfour,
    wordSum_take_field (n := 2) rfl even_two, wordSum_take_field (n := 2) rfl even_two,
    wordSum_take_field (n := 2) rfl even_two, wordSum_take_field (n := 4) rfl hfour,
    wordSum_take_field (n := 32) rfl hlast]
  simp only [kept, rewritten, Nat.reduceAdd, Nat.sub_zero]
  omega

/-- A Paxos frame is its headers with what follows them. -/
lemma IsPaxos.eq_frameOf {b : Bytes} (h : IsPaxos b) :
    b = frameOf (EthernetT.read b) (Ipv4T.read (b.drop 14)) (UdpT.read (b.drop 34))
      (PaxosT.read (b.drop 42)) (b.drop 90) := (TopDeparser_TopParser (TopParser_eq h)).symm

/-- What is sent, if anything is, has a right UDP checksum or none. -/
def SentValid (sent : Option (BitVec 9 × Bytes)) : Prop :=
  ∀ n out, sent = some (n, out) → UdpValid out

/-- Nothing that is not sent is invalid. -/
lemma sentValid_none : SentValid none := by
  rintro n out ⟨⟩

/-- **A rewritten packet stays valid** exactly if the rewritten words keep their sum. The other
words of the frame are what they were, so that what counts is the sum of the rewritten ones. -/
lemma sentValid_iff {b : Bytes} (hb : IsPaxos b) (hv : UdpValid b) (n : BitVec 9)
    (port : BitVec 16) {p : PaxosT} (hrnd : p.rnd = (PaxosT.read (b.drop 42)).rnd)
    (hpaxoslen : p.paxoslen = (PaxosT.read (b.drop 42)).paxoslen) :
    let u := UdpT.read (b.drop 34)
    let hdr := { Headers.read b with udp := some { u with dstPort := port }, paxos := some p }
    SentValid (some (n, TopDeparser (computeChecksum hdr) ++ b.drop 90)) ↔
      u.checksum = 0 ∨ rewritten u.length_.toNat { u with dstPort := port } p ≡
        rewritten u.length_.toNat u (PaxosT.read (b.drop 42)) [MOD 65535] := by
  set ip := Ipv4T.read (b.drop 14)
  set u := UdpT.read (b.drop 34)
  intro u' hdr
  have hframe : SentValid (some (n, TopDeparser (computeChecksum hdr) ++ b.drop 90)) ↔
      UdpValid (frameOf (EthernetT.read b) { ip with hdrChecksum := Checksum16 ip.checksummed }
        { u with dstPort := port } p (b.drop 90)) := by
    constructor
    · intro h
      exact h n _ rfl
    · rintro h n' out hout
      obtain ⟨-, rfl⟩ := Prod.mk.inj (Option.some.inj hout)
      exact h
  rw [hb.eq_frameOf, udpValid_iff, wordSum_covered] at hv
  rw [hframe, udpValid_iff, wordSum_covered, hrnd, hpaxoslen]
  show u.checksum = 0 ∨ u.checksum.toNat + (kept ip u (PaxosT.read (b.drop 42)).rnd
    (PaxosT.read (b.drop 42)).paxoslen (b.drop 90) + _) ≡ 0 [MOD 65535] ↔ _
  by_cases hzero : u.checksum = 0
  · exact iff_of_true (.inl hzero) (.inl hzero)
  · rw [or_iff_right hzero, or_iff_right hzero]
    exact add_modEq_zero_iff (hv.resolve_left hzero)

/-- A packet that is sent with the words it came with stays valid. -/
lemma sentValid_unchanged {b : Bytes} (hb : IsPaxos b) (hv : UdpValid b) (n : BitVec 9) :
    SentValid (some (n, TopDeparser (computeChecksum (Headers.read b)) ++ b.drop 90)) :=
  (sentValid_iff hb hv n (UdpT.read (b.drop 34)).dstPort rfl rfl).mpr (.inr (Nat.ModEq.refl _))

/-- The one entry that forwards. -/
lemma Acceptor.forall_forward_iff {n : BitVec 4} {port : BitVec 16} {Q : BitVec 16 → Prop} :
    (∀ n' port', Acceptor.Transport.forward n port = .forward n' port' → Q port') ↔ Q port := by
  constructor
  · intro h
    exact h n port rfl
  · rintro h n' port' ⟨⟩
    exact h

/-! ### The leader -/

namespace Leader

open Acceptor (Transport)

/-- The port of the entry and, for a request, its number add as much to the sum as what they
replace. -/
def SumKept (r : BitVec 32) (u : UdpT) (p : PaxosT) (port : BitVec 16) : Prop :=
  let len := u.length_.toNat
  if p.msgtype = PAXOS_2A then
    wordsAt len 2 port + wordsAt len 10 (r + 1) ≡
      wordsAt len 2 u.dstPort + wordsAt len 10 p.inst [MOD 65535]
  else wordsAt len 2 port ≡ wordsAt len 2 u.dstPort [MOD 65535]

/-- The Paxos header behind `leader_tbl`. -/
lemma leader_tbl_paxos (r : BitVec 32) (u : Option UdpT) (p : PaxosT) (e : Egress) :
    (leader_tbl ⟨r, u, p, 0, e⟩).paxos =
      if p.msgtype = PAXOS_2A then { p with inst := r + 1 } else p := by
  unfold leader_tbl
  split_ifs <;> rfl

/-- The words of the leader: those that it rewrites keep their sum exactly under `SumKept`. -/
lemma sumKept_iff (r : BitVec 32) (u : UdpT) (p : PaxosT) (port : BitVec 16) :
    rewritten u.length_.toNat { u with dstPort := port }
        (if p.msgtype = PAXOS_2A then { p with inst := r + 1 } else p) ≡
      rewritten u.length_.toNat u p [MOD 65535] ↔ SumKept r u p port := by
  unfold SumKept
  split_ifs
  · simp only [rewritten, Nat.ModEq]
    omega
  · simp only [rewritten, Nat.ModEq]
    omega

/-- **The leader**: what it sends stays valid exactly if the entry that sends it keeps the sum. The
table's entry decides: a dropped packet is not sent, and a forwarded one has the same words kept. -/
lemma sentValid_iff (T : BitVec 1 → Transport) (r : BitVec 32) {b : Bytes} (hb : IsPaxos b)
    (hv : UdpValid b) :
    SentValid (switch T r b).2 ↔ (UdpT.read (b.drop 34)).checksum = 0 ∨
      ∀ n port, T (set_drop (PaxosT.read (b.drop 42))) = .forward n port →
        SumKept r (UdpT.read (b.drop 34)) (PaxosT.read (b.drop 42)) port := by
  obtain ⟨hset, hudp⟩ := leader_tbl_set_drop r (some (UdpT.read (b.drop 34)))
    (PaxosT.read (b.drop 42)) (verifyChecksum (Headers.read b))
  have hpaxos := leader_tbl_paxos r (some (UdpT.read (b.drop 34)))
    (PaxosT.read (b.drop 42)) (verifyChecksum (Headers.read b))
  unfold switch
  rw [TopParser_eq hb]
  simp only [ingress, Headers.read, transport_tbl]
  simp only [Headers.read] at hset hudp hpaxos
  rw [hset]
  cases T (set_drop (PaxosT.read (b.drop 42))) with
  | _drop =>
      simp only [_drop]
      refine iff_of_true sentValid_none (.inr ?_)
      rintro n port ⟨⟩
  | forward n port =>
      simp only [forward, hudp, hpaxos, Option.map]
      rw [Acceptor.forall_forward_iff, ← sumKept_iff]
      apply P4v16.sentValid_iff hb hv
      · split_ifs <;> rfl
      · split_ifs <;> rfl

end Leader

/-! ### The acceptor -/

namespace Acceptor

/-- The port of the entry and the fields of the answer add as much to the sum as what they replace.
-/
def SumKept (A : Acceptor) (u : UdpT) (p : PaxosT) (port : BitVec 16) : Prop :=
  let len := u.length_.toNat
  if p.msgtype = PAXOS_1A then
    wordsAt len 2 port + wordsAt len 8 PAXOS_1B +
        wordsAt len 16 (A.registerVRound.read p.inst.toNat) +
        wordsAt len 18 A.registerAcceptorID +
        wordsAt len 24 (A.registerValue.read p.inst.toNat) ≡
      wordsAt len 2 u.dstPort + wordsAt len 8 p.msgtype + wordsAt len 16 p.vrnd +
        wordsAt len 18 p.acptid + wordsAt len 24 p.paxosval [MOD 65535]
  else if p.msgtype = PAXOS_2A then
    wordsAt len 2 port + wordsAt len 8 PAXOS_2B + wordsAt len 18 A.registerAcceptorID ≡
      wordsAt len 2 u.dstPort + wordsAt len 8 p.msgtype + wordsAt len 18 p.acptid [MOD 65535]
  else wordsAt len 2 port ≡ wordsAt len 2 u.dstPort [MOD 65535]

/-- The Paxos header behind `acceptor_tbl`. -/
lemma acceptor_tbl_paxos (A : Acceptor) (u : Option UdpT) (p : PaxosT) (e : Egress) :
    (acceptor_tbl ⟨A, u, p, 1, e⟩).paxos =
      if p.msgtype = PAXOS_1A then answer1b A p
      else if p.msgtype = PAXOS_2A then answer2b A p else p := by
  unfold acceptor_tbl
  split_ifs <;> rfl

/-- The words of an acceptor: those that it rewrites keep their sum exactly under `SumKept`. -/
lemma sumKept_iff (A : Acceptor) (u : UdpT) (p : PaxosT) (port : BitVec 16) :
    rewritten u.length_.toNat { u with dstPort := port }
        (if p.msgtype = PAXOS_1A then answer1b A p
          else if p.msgtype = PAXOS_2A then answer2b A p else p) ≡
      rewritten u.length_.toNat u p [MOD 65535] ↔ SumKept A u p port := by
  unfold SumKept
  split_ifs
  · simp only [rewritten, answer1b, Nat.ModEq]
    omega
  · simp only [rewritten, answer2b, Nat.ModEq]
    omega
  · simp only [rewritten, Nat.ModEq]
    omega

/-- A stale packet leaves, if it does, with the words it came with. The table's entry decides about
a fresh one. -/
lemma sentValid_iff (T : BitVec 1 → Transport) (A : Acceptor) {b : Bytes} (hb : IsPaxos b)
    (hv : UdpValid b) :
    SentValid (switch T A b).2 ↔ (UdpT.read (b.drop 34)).checksum = 0 ∨
      (A.Fresh (PaxosT.read (b.drop 42)) →
        ∀ n port, T (set_drop (PaxosT.read (b.drop 42))) = .forward n port →
          SumKept A (UdpT.read (b.drop 34)) (PaxosT.read (b.drop 42)) port) := by
  obtain ⟨hset, hudp⟩ := acceptor_tbl_set_drop A (some (UdpT.read (b.drop 34)))
    (PaxosT.read (b.drop 42)) (verifyChecksum (Headers.read b))
  have hpaxos := acceptor_tbl_paxos A (some (UdpT.read (b.drop 34)))
    (PaxosT.read (b.drop 42)) (verifyChecksum (Headers.read b))
  unfold switch
  rw [TopParser_eq hb]
  by_cases hfresh : A.Fresh (PaxosT.read (b.drop 42))
  · have hr : (PaxosT.read (b.drop 42)).rnd ≥
        A.registerRound.read (PaxosT.read (b.drop 42)).inst.toNat := hfresh
    rw [imp_iff_right hfresh]
    simp only [Headers.read] at hset hudp hpaxos
    simp only [ingress, Headers.read, transport_tbl]
    rw [if_pos hr, hset]
    cases T (set_drop (PaxosT.read (b.drop 42))) with
    | _drop =>
        simp only [_drop]
        refine iff_of_true sentValid_none (.inr ?_)
        rintro n port ⟨⟩
    | forward n port =>
        simp only [forward, hudp, hpaxos, Option.map]
        rw [forall_forward_iff, ← sumKept_iff]
        apply P4v16.sentValid_iff hb hv
        · split_ifs <;> rfl
        · split_ifs <;> rfl
  · have hr : ¬ (PaxosT.read (b.drop 42)).rnd ≥
        A.registerRound.read (PaxosT.read (b.drop 42)).inst.toNat := hfresh
    refine iff_of_true ?_ (.inr fun h => absurd h hfresh)
    simp only [ingress, Headers.read]
    rw [if_neg hr]
    rcases verifyChecksum _ with n | -
    · exact sentValid_unchanged hb hv n
    · exact sentValid_none

end Acceptor

/-! ### The learner -/

namespace Learner

open Acceptor (Transport)

/-- The port of the entry adds as much to the sum as the one it replaces. -/
def SumKept (u : UdpT) (port : BitVec 16) : Prop :=
  wordsAt u.length_.toNat 2 port ≡ wordsAt u.length_.toNat 2 u.dstPort [MOD 65535]

/-- The words of the learner: those that it rewrites keep their sum exactly under `SumKept`. -/
lemma sumKept_iff (u : UdpT) (p : PaxosT) (port : BitVec 16) :
    rewritten u.length_.toNat { u with dstPort := port } p ≡
      rewritten u.length_.toNat u p [MOD 65535] ↔ SumKept u port := by
  simp only [rewritten, SumKept, Nat.ModEq]
  omega

/-- **The learner**: it sends through `transport_tbl` when the mask it tests is a quorum. Without a
quorum the packet is passed on unchanged, or dropped by the checksum's test. -/
lemma sentValid_iff (T : BitVec 1 → Transport) (L : Learner) {b : Bytes} (hb : IsPaxos b)
    (hv : UdpValid b) :
    SentValid (switch T L b).2 ↔ (UdpT.read (b.drop 34)).checksum = 0 ∨
      (quorum (testedMask L (PaxosT.read (b.drop 42))) →
        ∀ n port, T 1 = .forward n port → SumKept (UdpT.read (b.drop 34)) port) := by
  rw [switch_eq T L (TopParser_eq hb), step_eq T L rfl rfl]
  by_cases hq : quorum (testedMask L (PaxosT.read (b.drop 42)))
  · rw [imp_iff_right hq, if_pos hq, transported]
    cases T 1 with
    | _drop =>
        refine iff_of_true sentValid_none (.inr ?_)
        rintro n port ⟨⟩
    | forward n port =>
        rw [Acceptor.forall_forward_iff, ← sumKept_iff]
        exact P4v16.sentValid_iff hb hv _ port rfl rfl
  · rw [if_neg hq, passed]
    refine iff_of_true ?_ (.inr fun h => absurd h hq)
    rcases verifyChecksum _ with n | -
    · exact sentValid_unchanged hb hv n
    · exact sentValid_none

end Learner

/-! ### All three -/

/-- **Rewriting keeps the UDP checksum right**, unless there is none, exactly where the rewritten
words keep their sum. The frame that comes in is valid; what leaves is of a role with any registers
and any table. -/
theorem keepsValid_iff (T : BitVec 1 → Acceptor.Transport) (r : BitVec 32) (A : Acceptor)
    (L : Learner) {b : Bytes} (hb : IsPaxos b) (hv : UdpValid b) :
    (SentValid (Leader.switch T r b).2 ↔ (UdpT.read (b.drop 34)).checksum = 0 ∨
      ∀ n port, T (Leader.set_drop (PaxosT.read (b.drop 42))) = .forward n port →
        Leader.SumKept r (UdpT.read (b.drop 34)) (PaxosT.read (b.drop 42)) port) ∧
    (SentValid (Acceptor.switch T A b).2 ↔ (UdpT.read (b.drop 34)).checksum = 0 ∨
      (A.Fresh (PaxosT.read (b.drop 42)) →
        ∀ n port, T (Acceptor.set_drop (PaxosT.read (b.drop 42))) = .forward n port →
          Acceptor.SumKept A (UdpT.read (b.drop 34)) (PaxosT.read (b.drop 42)) port)) ∧
    (SentValid (Learner.switch T L b).2 ↔ (UdpT.read (b.drop 34)).checksum = 0 ∨
      (Learner.quorum (Learner.testedMask L (PaxosT.read (b.drop 42))) →
        ∀ n port, T 1 = .forward n port → Learner.SumKept (UdpT.read (b.drop 34)) port)) :=
  ⟨Leader.sentValid_iff T r hb hv, Acceptor.sentValid_iff T A hb hv,
    Learner.sentValid_iff T L hb hv⟩

/-- The request of a client that makes UDP checksums. -/
def validFrame : Bytes :=
  frameOf { dstAddr := 0x08002710A880, srcAddr := 0, etherType := ETHERTYPE_IPV4 }
    { version := 4, ihl := 5, diffserv := 0, totalLen := 76, identification := 1, flags := 0,
      fragOffset := 0, ttl := 64, protocol := UDP_PROTOCOL, hdrChecksum := 0,
      srcAddr := 0xC0A8045F, dstAddr := 0xE0031D49 }
    { srcPort := 34951, dstPort := PAXOS_PROTOCOL, length_ := 56, checksum := 59281 } request []

/-- It is a Paxos frame. -/
lemma isPaxos_validFrame : IsPaxos validFrame :=
  isPaxos_of_paxos (TopParser_frameOf _ _ _ _ _ rfl rfl rfl) (by simp)

/-- Its checksum is right. -/
lemma udpValid_validFrame : UdpValid validFrame := by decide +kernel

/-- That request in each of the roles. The frame is a Paxos frame, and its checksum is valid; both
are computed. -/
theorem keepsValid_validFrame :
    (SentValid (Leader.switch (rules ACCEPTOR_PORT) 0 validFrame).2 ↔
      (UdpT.read (validFrame.drop 34)).checksum = 0 ∨
        ∀ n port, rules ACCEPTOR_PORT
            (Leader.set_drop (PaxosT.read (validFrame.drop 42))) = .forward n port →
          Leader.SumKept 0 (UdpT.read (validFrame.drop 34)) (PaxosT.read (validFrame.drop 42))
            port) ∧
    (SentValid (Acceptor.switch (rules ACCEPTOR_PORT) (Acceptor.init 1) validFrame).2 ↔
      (UdpT.read (validFrame.drop 34)).checksum = 0 ∨
        ((Acceptor.init 1).Fresh (PaxosT.read (validFrame.drop 42)) →
          ∀ n port, rules ACCEPTOR_PORT
              (Acceptor.set_drop (PaxosT.read (validFrame.drop 42))) = .forward n port →
            Acceptor.SumKept (Acceptor.init 1) (UdpT.read (validFrame.drop 34))
              (PaxosT.read (validFrame.drop 42)) port)) ∧
    (SentValid (Learner.switch (rules ACCEPTOR_PORT) Learner.init validFrame).2 ↔
      (UdpT.read (validFrame.drop 34)).checksum = 0 ∨
        (Learner.quorum (Learner.testedMask Learner.init (PaxosT.read (validFrame.drop 42))) →
          ∀ n port, rules ACCEPTOR_PORT 1 = .forward n port →
            Learner.SumKept (UdpT.read (validFrame.drop 34)) port)) :=
  keepsValid_iff _ 0 (Acceptor.init 1) Learner.init isPaxos_validFrame udpValid_validFrame

/-- The leader gives the request number 1 and sends it to `ACCEPTOR_PORT`, with the checksum it came
with. -/
theorem request_not_valid :
    ¬ ∀ (T : BitVec 1 → Acceptor.Transport) (r : BitVec 32) (b : Bytes), IsPaxos b → UdpValid b →
      SentValid (Leader.switch T r b).2 := by
  intro h
  have hsent := h (rules ACCEPTOR_PORT) 0 validFrame isPaxos_validFrame udpValid_validFrame
  have hout : ((Leader.switch (rules ACCEPTOR_PORT) 0 validFrame).2.map fun s =>
      decide (UdpValid s.2)) = some false := by decide +kernel
  obtain ⟨⟨n, out⟩, hswitch, hvalid⟩ := Option.map_eq_some_iff.mp hout
  exact of_decide_eq_false hvalid (hsent n out hswitch)

end P4xos.P4v16
