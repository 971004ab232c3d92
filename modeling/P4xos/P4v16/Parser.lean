import P4xos.Lib.Buffer
import P4xos.Lib.OnesComplement
import P4xos.P4v16.Header

/-!
# The parser of the P4-16 switches

`p4-16/p4src/includes/parser.p4`: frames to headers and back, and the two checksum controls.

* A parser state that runs out of bytes, and an Ethernet type that no case of `select` names, end
  parsing with an error; v1model goes on to the ingress control with the headers extracted so far.
* `EthernetT.read_emit`, `EthernetT.emit_read` and their like for the other headers: each header by
  itself, from fields to bytes and back. The parser states are put together from these.
* `TopParser_eq`: a frame with enough bytes and the right types and ports is parsed up to
  `parse_paxos`, each header read at its fixed position; `isPaxos_of_paxos` says that only such
  frames are.
* `TopParser_TopDeparser` and `TopDeparser_TopParser`: parser and deparser undo each other, so what
  a switch emits, the next one parses (`TopParser_frameOf`). The first needs that the headers that
  are there are those that the fields in front of them select; the second needs nothing.
* `parser_deparser_inverse`: both directions together, for every frame that has the headers its
  fields select and for every such stack of headers.
* `verifyChecksum` marks to drop the packets whose checksum is *right*.
-/

namespace P4xos.P4v16

open P4xos.Lib

/-- The type field of an Ethernet header in front of IPv4.
Source: `p4-16/p4src/includes/parser.p4` `ETHERTYPE_IPV4` -/
def ETHERTYPE_IPV4 : BitVec 16 := 0x0800

/-- The protocol field of an IPv4 header in front of UDP.
Source: `p4-16/p4src/includes/parser.p4` `UDP_PROTOCOL` -/
def UDP_PROTOCOL : BitVec 8 := 0x11

/-- The destination port behind which the Paxos header is parsed; no other is looked at.
Source: `p4-16/p4src/includes/parser.p4` `PAXOS_PROTOCOL` -/
def PAXOS_PROTOCOL : BitVec 16 := 0x8888

/-! ## Headers on the wire

Fields in their order, most significant bit first; two fields that share bytes are written together. -/

/-- `packet.emit(hdr.ethernet)` -/
def EthernetT.emit (h : EthernetT) : Bytes :=
  beEncode 6 h.dstAddr.toNat ++ (beEncode 6 h.srcAddr.toNat ++ beEncode 2 h.etherType.toNat)

/-- The header in front of `b`. -/
def EthernetT.read (b : Bytes) : EthernetT where
  dstAddr := bits 48 0 b
  srcAddr := bits 48 6 b
  etherType := bits 16 12 b

/-- `packet.emit(hdr.ipv4)` -/
def Ipv4T.emit (h : Ipv4T) : Bytes :=
  beEncode 1 (h.version ++ h.ihl).toNat ++ (beEncode 1 h.diffserv.toNat ++
    (beEncode 2 h.totalLen.toNat ++ (beEncode 2 h.identification.toNat ++
      (beEncode 2 (h.flags ++ h.fragOffset).toNat ++ (beEncode 1 h.ttl.toNat ++
        (beEncode 1 h.protocol.toNat ++ (beEncode 2 h.hdrChecksum.toNat ++
          (beEncode 4 h.srcAddr.toNat ++ beEncode 4 h.dstAddr.toNat))))))))

/-- The header in front of `b`. Two fields share a byte and two share two bytes. -/
def Ipv4T.read (b : Bytes) : Ipv4T where
  version := (bits 8 0 b).extractLsb' 4 4
  ihl := (bits 8 0 b).extractLsb' 0 4
  diffserv := bits 8 1 b
  totalLen := bits 16 2 b
  identification := bits 16 4 b
  flags := (bits 16 6 b).extractLsb' 13 3
  fragOffset := (bits 16 6 b).extractLsb' 0 13
  ttl := bits 8 8 b
  protocol := bits 8 9 b
  hdrChecksum := bits 16 10 b
  srcAddr := bits 32 12 b
  dstAddr := bits 32 16 b

/-- `packet.emit(hdr.udp)` -/
def UdpT.emit (h : UdpT) : Bytes :=
  beEncode 2 h.srcPort.toNat ++ (beEncode 2 h.dstPort.toNat ++
    (beEncode 2 h.length_.toNat ++ beEncode 2 h.checksum.toNat))

/-- The header in front of `b`. -/
def UdpT.read (b : Bytes) : UdpT where
  srcPort := bits 16 0 b
  dstPort := bits 16 2 b
  length_ := bits 16 4 b
  checksum := bits 16 6 b

/-- `packet.emit(hdr.paxos)` -/
def PaxosT.emit (h : PaxosT) : Bytes :=
  beEncode 2 h.msgtype.toNat ++ (beEncode 4 h.inst.toNat ++ (beEncode 2 h.rnd.toNat ++
    (beEncode 2 h.vrnd.toNat ++ (beEncode 2 h.acptid.toNat ++ (beEncode 4 h.paxoslen.toNat ++
      beEncode 32 h.paxosval.toNat)))))

/-- The header in front of `b`. -/
def PaxosT.read (b : Bytes) : PaxosT where
  msgtype := bits 16 0 b
  inst := bits 32 2 b
  rnd := bits 16 6 b
  vrnd := bits 16 8 b
  acptid := bits 16 10 b
  paxoslen := bits 32 12 b
  paxosval := bits 256 16 b

/-- An Ethernet header has 14 bytes. -/
@[simp] lemma EthernetT.length_emit (h : EthernetT) : h.emit.length = 14 := by
  simp [EthernetT.emit]

/-- An IPv4 header has 20 bytes. -/
@[simp] lemma Ipv4T.length_emit (h : Ipv4T) : h.emit.length = 20 := by
  simp [Ipv4T.emit]

/-- A UDP header has 8 bytes. -/
@[simp] lemma UdpT.length_emit (h : UdpT) : h.emit.length = 8 := by
  simp [UdpT.emit]

/-- A Paxos header has 48 bytes. -/
@[simp] lemma PaxosT.length_emit (h : PaxosT) : h.emit.length = 48 := by
  simp [PaxosT.emit]

/-! ## Reading what was emitted -/

/-- An Ethernet header is read back. -/
lemma EthernetT.read_emit (h : EthernetT) (r : Bytes) : EthernetT.read (h.emit ++ r) = h := by
  obtain ⟨dstAddr, srcAddr, etherType⟩ := h
  simp only [EthernetT.read, EthernetT.emit, EthernetT.mk.injEq]
  refine ⟨bits_of_slice (n := 6) rfl ?_, bits_of_slice (n := 6) rfl ?_,
    bits_of_slice (n := 2) rfl ?_⟩ <;>
    simp [slice_append_right, slice_append_left, slice_all]

/-- A UDP header is read back. -/
lemma UdpT.read_emit (h : UdpT) (r : Bytes) : UdpT.read (h.emit ++ r) = h := by
  obtain ⟨srcPort, dstPort, length_, checksum⟩ := h
  simp only [UdpT.read, UdpT.emit, UdpT.mk.injEq]
  refine ⟨bits_of_slice (n := 2) rfl ?_, bits_of_slice (n := 2) rfl ?_,
    bits_of_slice (n := 2) rfl ?_, bits_of_slice (n := 2) rfl ?_⟩ <;>
    simp [slice_append_right, slice_append_left, slice_all]

/-- A Paxos header is read back. -/
lemma PaxosT.read_emit (h : PaxosT) (r : Bytes) : PaxosT.read (h.emit ++ r) = h := by
  obtain ⟨msgtype, inst, rnd, vrnd, acptid, paxoslen, paxosval⟩ := h
  simp only [PaxosT.read, PaxosT.emit, PaxosT.mk.injEq]
  refine ⟨bits_of_slice (n := 2) rfl ?_, bits_of_slice (n := 4) rfl ?_,
    bits_of_slice (n := 2) rfl ?_, bits_of_slice (n := 2) rfl ?_, bits_of_slice (n := 2) rfl ?_,
    bits_of_slice (n := 4) rfl ?_, bits_of_slice (n := 32) rfl ?_⟩ <;>
    simp [slice_append_right, slice_append_left, slice_all]

/-- The value is the last field. -/
lemma PaxosT.drop_emit (h : PaxosT) (r : Bytes) :
    (h.emit ++ r).drop 16 = beEncode 32 h.paxosval.toNat ++ r := by
  have hfields : h.emit ++ r = (beEncode 2 h.msgtype.toNat ++ (beEncode 4 h.inst.toNat ++
      (beEncode 2 h.rnd.toNat ++ (beEncode 2 h.vrnd.toNat ++ (beEncode 2 h.acptid.toNat ++
        beEncode 4 h.paxoslen.toNat))))) ++ (beEncode 32 h.paxosval.toNat ++ r) := by
    simp [PaxosT.emit]
  rw [hfields, List.drop_left' (by simp)]

/-- An IPv4 header is read back, with the fields that share bytes taken apart again. Each field is
the slice of the emitted bytes at its offset. -/
lemma Ipv4T.read_emit (h : Ipv4T) (r : Bytes) : Ipv4T.read (h.emit ++ r) = h := by
  obtain ⟨version, ihl, diffserv, totalLen, identification, flags, fragOffset, ttl, protocol,
    hdrChecksum, srcAddr, dstAddr⟩ := h
  -- the two pairs of fields that share bytes
  have hversion : ∀ b, slice 0 1 b = beEncode 1 (version ++ ihl).toNat →
      bits 8 0 b = version ++ ihl := fun b hb => bits_of_slice (n := 1) rfl hb
  have hflags : ∀ b, slice 6 2 b = beEncode 2 (flags ++ fragOffset).toNat →
      bits 16 6 b = flags ++ fragOffset := fun b hb => bits_of_slice (n := 2) rfl hb
  simp only [Ipv4T.read, Ipv4T.emit]
  rw [hversion _ (by simp [slice_append_left, slice_all]),
    hflags _ (by simp [slice_append_right, slice_append_left, slice_all])]
  simp only [Ipv4T.mk.injEq]
  refine ⟨BitVec.extractLsb'_append_eq_left, BitVec.extractLsb'_append_eq_right,
    bits_of_slice (n := 1) rfl ?_, bits_of_slice (n := 2) rfl ?_, bits_of_slice (n := 2) rfl ?_,
    BitVec.extractLsb'_append_eq_left, BitVec.extractLsb'_append_eq_right,
    bits_of_slice (n := 1) rfl ?_, bits_of_slice (n := 1) rfl ?_, bits_of_slice (n := 2) rfl ?_,
    bits_of_slice (n := 4) rfl ?_, bits_of_slice (n := 4) rfl ?_⟩ <;>
    simp [slice_append_right, slice_append_left, slice_all]

/-! ## Emitting what was read -/

/-- An Ethernet header that was read is emitted as the bytes it was read from. -/
lemma EthernetT.emit_read {b : Bytes} (h : 14 ≤ b.length) :
    (EthernetT.read b).emit = slice 0 14 b := by
  unfold EthernetT.emit EthernetT.read
  rw [beEncode_bits (n := 6) rfl (by omega), beEncode_bits (n := 6) rfl (by omega),
    beEncode_bits (n := 2) rfl (by omega), slice_append_slice 6 6 2, slice_append_slice 0 6 8]

/-- So is a UDP header. -/
lemma UdpT.emit_read {b : Bytes} (h : 8 ≤ b.length) : (UdpT.read b).emit = slice 0 8 b := by
  unfold UdpT.emit UdpT.read
  rw [beEncode_bits (n := 2) rfl (by omega), beEncode_bits (n := 2) rfl (by omega),
    beEncode_bits (n := 2) rfl (by omega), beEncode_bits (n := 2) rfl (by omega),
    slice_append_slice 4 2 2, slice_append_slice 2 2 4, slice_append_slice 0 2 6]

/-- So is a Paxos header. -/
lemma PaxosT.emit_read {b : Bytes} (h : 48 ≤ b.length) : (PaxosT.read b).emit = slice 0 48 b := by
  unfold PaxosT.emit PaxosT.read
  rw [beEncode_bits (n := 2) rfl (by omega), beEncode_bits (n := 4) rfl (by omega),
    beEncode_bits (n := 2) rfl (by omega), beEncode_bits (n := 2) rfl (by omega),
    beEncode_bits (n := 2) rfl (by omega), beEncode_bits (n := 4) rfl (by omega),
    beEncode_bits (n := 32) rfl (by omega), slice_append_slice 12 4 32, slice_append_slice 10 2 36,
    slice_append_slice 8 2 38, slice_append_slice 6 2 40, slice_append_slice 2 4 42,
    slice_append_slice 0 2 46]

/-- So is an IPv4 header, with the fields that share bytes put together again. The emitted fields
are the slices of `b` one after the other, and adjacent slices are joined from the back. -/
lemma Ipv4T.emit_read {b : Bytes} (h : 20 ≤ b.length) : (Ipv4T.read b).emit = slice 0 20 b := by
  -- the fields that share bytes are put together again
  have hversion : (bits 8 0 b).extractLsb' 4 4 ++ (bits 8 0 b).extractLsb' 0 4 = bits 8 0 b :=
    @BitVec.extractLsb'_append_extractLsb' 4 4 _
  have hflags : (bits 16 6 b).extractLsb' 13 3 ++ (bits 16 6 b).extractLsb' 0 13 = bits 16 6 b :=
    @BitVec.extractLsb'_append_extractLsb' 3 13 _
  unfold Ipv4T.emit Ipv4T.read
  rw [hversion, hflags, beEncode_bits (n := 1) rfl (by omega), beEncode_bits (n := 1) rfl (by omega),
    beEncode_bits (n := 2) rfl (by omega), beEncode_bits (n := 2) rfl (by omega),
    beEncode_bits (n := 2) rfl (by omega), beEncode_bits (n := 1) rfl (by omega),
    beEncode_bits (n := 1) rfl (by omega), beEncode_bits (n := 2) rfl (by omega),
    beEncode_bits (n := 4) rfl (by omega), beEncode_bits (n := 4) rfl (by omega),
    slice_append_slice 12 4 4, slice_append_slice 10 2 8, slice_append_slice 9 1 10,
    slice_append_slice 8 1 11, slice_append_slice 6 2 12, slice_append_slice 4 2 14,
    slice_append_slice 2 2 16, slice_append_slice 1 1 18, slice_append_slice 0 1 19]

/-! ## Parsing -/

/-- The errors of the parser, as `core.p4` names them. -/
inductive ParserError
  | PacketTooShort
  | NoMatch
  deriving DecidableEq

/-- What the parser hands to the checksum verification and the ingress control: the headers
extracted, the bytes behind them, and the error that ended parsing, if one did. The ingress control
runs in either case. -/
structure Parsed where
  hdr : Headers
  payload : Bytes
  parserError : Option ParserError
  deriving DecidableEq

/-- The last state: every Paxos header is accepted.
Source: `p4-16/p4src/includes/parser.p4` `parse_paxos` -/
def parse_paxos (hdr : Headers) (b : Bytes) : Parsed :=
  if b.length < 48 then ⟨hdr, b, some .PacketTooShort⟩
  else ⟨{ hdr with paxos := some (PaxosT.read b) }, b.drop 48, none⟩

/-- A datagram to another port is accepted as it is.
Source: `p4-16/p4src/includes/parser.p4` `parse_udp` -/
def parse_udp (hdr : Headers) (b : Bytes) : Parsed :=
  if b.length < 8 then ⟨hdr, b, some .PacketTooShort⟩
  else
    let hdr := { hdr with udp := some (UdpT.read b) }
    if (UdpT.read b).dstPort = PAXOS_PROTOCOL then parse_paxos hdr (b.drop 8)
    else ⟨hdr, b.drop 8, none⟩

/-- A packet of another protocol is accepted as it is.
Source: `p4-16/p4src/includes/parser.p4` `parse_ipv4` -/
def parse_ipv4 (hdr : Headers) (b : Bytes) : Parsed :=
  if b.length < 20 then ⟨hdr, b, some .PacketTooShort⟩
  else
    let hdr := { hdr with ipv4 := some (Ipv4T.read b) }
    if (Ipv4T.read b).protocol = UDP_PROTOCOL then parse_udp hdr (b.drop 20)
    else ⟨hdr, b.drop 20, none⟩

/-- The whole parser; `none` for a frame that has not even an Ethernet header. `select` has no
default here.
Source: `p4-16/p4src/includes/parser.p4` `TopParser`, `parse_ethernet` -/
def TopParser (b : Bytes) : Option Parsed :=
  if b.length < 14 then none
  else
    let hdr : Headers :=
      { ethernet := EthernetT.read b, ipv4 := none, udp := none, paxos := none }
    if (EthernetT.read b).etherType = ETHERTYPE_IPV4 then some (parse_ipv4 hdr (b.drop 14))
    else some ⟨hdr, b.drop 14, some .NoMatch⟩

/-- The frame of the valid headers.
Source: `p4-16/p4src/includes/parser.p4` `TopDeparser` -/
def TopDeparser (hdr : Headers) : Bytes :=
  hdr.ethernet.emit ++ ((hdr.ipv4.elim [] Ipv4T.emit) ++
    ((hdr.udp.elim [] UdpT.emit) ++ hdr.paxos.elim [] PaxosT.emit))

/-! ## Parser and deparser -/

/-- A Paxos header that was emitted is parsed. -/
lemma parse_paxos_emit (hdr : Headers) (p : PaxosT) (r : Bytes) :
    parse_paxos hdr (p.emit ++ r) = ⟨{ hdr with paxos := some p }, r, none⟩ := by
  rw [parse_paxos, if_neg (by simp), p.read_emit, List.drop_left' p.length_emit]

/-- A UDP header that was emitted is parsed, and its port decides what is parsed behind it. -/
lemma parse_udp_emit (hdr : Headers) (u : UdpT) (r : Bytes) :
    parse_udp hdr (u.emit ++ r) =
      if u.dstPort = PAXOS_PROTOCOL then parse_paxos { hdr with udp := some u } r
      else ⟨{ hdr with udp := some u }, r, none⟩ := by
  rw [parse_udp, if_neg (by simp), u.read_emit, List.drop_left' u.length_emit]

/-- An IPv4 header that was emitted is parsed, and its protocol decides what is parsed behind it. -/
lemma parse_ipv4_emit (hdr : Headers) (ip : Ipv4T) (r : Bytes) :
    parse_ipv4 hdr (ip.emit ++ r) =
      if ip.protocol = UDP_PROTOCOL then parse_udp { hdr with ipv4 := some ip } r
      else ⟨{ hdr with ipv4 := some ip }, r, none⟩ := by
  rw [parse_ipv4, if_neg (by simp), ip.read_emit, List.drop_left' ip.length_emit]

/-- An Ethernet header that was emitted is parsed, and its type decides what is parsed behind it. -/
lemma TopParser_emit (e : EthernetT) (r : Bytes) :
    TopParser (e.emit ++ r) =
      if e.etherType = ETHERTYPE_IPV4 then some (parse_ipv4 ⟨e, none, none, none⟩ r)
      else some ⟨⟨e, none, none, none⟩, r, some .NoMatch⟩ := by
  rw [TopParser, if_neg (by simp), e.read_emit, List.drop_left' e.length_emit]

/-- The headers are valid that the fields in front of them select. -/
structure Headers.Selected (hdr : Headers) : Prop where
  ipv4 : hdr.ipv4 ≠ none ↔ hdr.ethernet.etherType = ETHERTYPE_IPV4
  udp : hdr.udp ≠ none ↔ ∃ ip, hdr.ipv4 = some ip ∧ ip.protocol = UDP_PROTOCOL
  paxos : hdr.paxos ≠ none ↔ ∃ u, hdr.udp = some u ∧ u.dstPort = PAXOS_PROTOCOL

/-- **Parsing undoes deparsing.** Only a frame of another type than IPv4 ends with an error, behind
its Ethernet header. Header by header: each is emitted, and is extracted because the field in front
selects it. -/
theorem TopParser_TopDeparser {hdr : Headers} (h : hdr.Selected) (payload : Bytes) :
    TopParser (TopDeparser hdr ++ payload) = some ⟨hdr, payload,
      if hdr.ethernet.etherType = ETHERTYPE_IPV4 then none else some .NoMatch⟩ := by
  obtain ⟨e, ipv4, udp, paxos⟩ := hdr
  obtain ⟨hipv4, hudp, hpaxos⟩ := h
  rw [TopDeparser, List.append_assoc, TopParser_emit]
  rcases ipv4 with _ | ip
  · have hudp' : udp = none := by simpa using hudp
    subst hudp'
    have hpaxos' : paxos = none := by simpa using hpaxos
    subst hpaxos'
    have htype : e.etherType ≠ ETHERTYPE_IPV4 := by simpa using hipv4
    rw [if_neg htype, if_neg htype]
    rfl
  · have htype : e.etherType = ETHERTYPE_IPV4 := by simpa using hipv4
    rw [if_pos htype, if_pos htype, Option.elim_some, List.append_assoc, parse_ipv4_emit]
    rcases udp with _ | u
    · have hpaxos' : paxos = none := by simpa using hpaxos
      subst hpaxos'
      have hproto : ip.protocol ≠ UDP_PROTOCOL := by simpa using hudp
      rw [if_neg hproto]
      rfl
    · have hproto : ip.protocol = UDP_PROTOCOL := by simpa using hudp
      rw [if_pos hproto, Option.elim_some, List.append_assoc, parse_udp_emit]
      rcases paxos with _ | p
      · have hport : u.dstPort ≠ PAXOS_PROTOCOL := by simpa using hpaxos
        rw [if_neg hport]
        rfl
      · have hport : u.dstPort = PAXOS_PROTOCOL := by simpa using hpaxos
        rw [if_pos hport, Option.elim_some, parse_paxos_emit]

section deparsing

variable (hdr : Headers)

/-- The last state loses no byte. -/
lemma deparse_parse_paxos (hpaxos : hdr.paxos = none) (b : Bytes) :
    TopDeparser (parse_paxos hdr b).hdr ++ (parse_paxos hdr b).payload = TopDeparser hdr ++ b := by
  unfold parse_paxos
  split_ifs with hlen
  · rfl
  · have hread := PaxosT.emit_read (b := b) (by omega)
    simp [TopDeparser, hpaxos, hread, slice_append_drop]

/-- Nor does the state before it. A header that is read moves its eight bytes from the payload to
the deparsed headers, and the state behind it is already known to keep the whole. -/
lemma deparse_parse_udp (hudp : hdr.udp = none) (hpaxos : hdr.paxos = none) (b : Bytes) :
    TopDeparser (parse_udp hdr b).hdr ++ (parse_udp hdr b).payload = TopDeparser hdr ++ b := by
  unfold parse_udp
  by_cases hlen : b.length < 8
  · rw [if_pos hlen]
  · rw [if_neg hlen]
    have hread := UdpT.emit_read (b := b) (by omega)
    have hwith : TopDeparser { hdr with udp := some (UdpT.read b) } ++ b.drop 8 =
        TopDeparser hdr ++ b := by
      simp [TopDeparser, hudp, hpaxos, hread, slice_append_drop]
    simp only
    split_ifs
    · exact (deparse_parse_paxos { hdr with udp := some (UdpT.read b) } hpaxos _).trans hwith
    · exact hwith

/-- Nor does the one behind the Ethernet header. The argument is that of `deparse_parse_udp`, with
twenty bytes. -/
lemma deparse_parse_ipv4 (hipv4 : hdr.ipv4 = none) (hudp : hdr.udp = none)
    (hpaxos : hdr.paxos = none) (b : Bytes) :
    TopDeparser (parse_ipv4 hdr b).hdr ++ (parse_ipv4 hdr b).payload = TopDeparser hdr ++ b := by
  unfold parse_ipv4
  by_cases hlen : b.length < 20
  · rw [if_pos hlen]
  · rw [if_neg hlen]
    have hread := Ipv4T.emit_read (b := b) (by omega)
    have hwith : TopDeparser { hdr with ipv4 := some (Ipv4T.read b) } ++ b.drop 20 =
        TopDeparser hdr ++ b := by
      simp [TopDeparser, hipv4, hudp, hpaxos, hread, slice_append_drop]
    simp only
    split_ifs
    · exact (deparse_parse_udp { hdr with ipv4 := some (Ipv4T.read b) } hudp hpaxos _).trans hwith
    · exact hwith

end deparsing

/-- **Deparsing undoes parsing**, also where the parser ended with an error. -/
theorem TopDeparser_TopParser {b : Bytes} {q : Parsed} (h : TopParser b = some q) :
    TopDeparser q.hdr ++ q.payload = b := by
  unfold TopParser at h
  split_ifs at h with hlen htype
  · obtain rfl := Option.some_inj.mp h
    have hread := EthernetT.emit_read (b := b) (by omega)
    rw [deparse_parse_ipv4 _ rfl rfl rfl]
    simp [TopDeparser, hread, slice_append_drop]
  · obtain rfl := Option.some_inj.mp h
    have hread := EthernetT.emit_read (b := b) (by omega)
    simp [TopDeparser, hread, slice_append_drop]

/-- An IPv4 frame with enough bytes for the headers that its fields select. -/
def HasHeaders (b : Bytes) : Prop :=
  34 ≤ b.length ∧ bits 16 12 b = ETHERTYPE_IPV4 ∧
    (bits 8 23 b = UDP_PROTOCOL → 42 ≤ b.length ∧ (bits 16 36 b = PAXOS_PROTOCOL → 90 ≤ b.length))

/-- Lengths and fields of the frame. -/
instance (b : Bytes) : Decidable (HasHeaders b) := inferInstanceAs (Decidable (_ ∧ _))

/-- Such a frame is accepted. Each `extract` finds enough bytes, since the frame is as long as the
headers that its type, protocol and port call for. -/
lemma accepted_of_hasHeaders {b : Bytes} (h : HasHeaders b) :
    ∃ q, TopParser b = some q ∧ q.parserError = none := by
  obtain ⟨hlen, htype, hudp⟩ := h
  have htype' : (EthernetT.read b).etherType = ETHERTYPE_IPV4 := htype
  have hproto : (Ipv4T.read (b.drop 14)).protocol = bits 8 23 b := by simp [Ipv4T.read]
  have hport : (UdpT.read (b.drop 34)).dstPort = bits 16 36 b := by simp [UdpT.read]
  refine ⟨parse_ipv4 ⟨EthernetT.read b, none, none, none⟩ (b.drop 14), ?_, ?_⟩
  · rw [TopParser, if_neg (by omega), if_pos htype']
  · unfold parse_ipv4 parse_udp parse_paxos
    simp only [List.drop_drop, List.length_drop, hproto, hport]
    rw [if_neg (by omega)]
    split_ifs with h₁ h₂ h₃ h₄
    · have := (hudp h₁).1
      omega
    · have := (hudp h₁).2 h₃
      omega
    · rfl
    · rfl
    · rfl

/-- **Parser and deparser are inverse** on the wire and on the header stacks. -/
theorem parser_deparser_inverse {b : Bytes} (hb : HasHeaders b) {hdr : Headers} (h : hdr.Selected)
    (payload : Bytes) :
    (∃ q, TopParser b = some q ∧ q.parserError = none ∧ TopDeparser q.hdr ++ q.payload = b) ∧
    ∃ q, TopParser (TopDeparser hdr ++ payload) = some q ∧ q.hdr = hdr ∧ q.payload = payload := by
  constructor
  · obtain ⟨q, hq, herror⟩ := accepted_of_hasHeaders hb
    exact ⟨q, hq, herror, TopDeparser_TopParser hq⟩
  · exact ⟨_, TopParser_TopDeparser h payload, rfl, rfl⟩

/-- A vote with a value of three bytes: the headers of its frame. -/
def voteHeaders : Headers where
  ethernet := { dstAddr := 1, srcAddr := 2, etherType := ETHERTYPE_IPV4 }
  ipv4 := some { version := 4, ihl := 5, diffserv := 0, totalLen := 79, identification := 1,
                 flags := 2, fragOffset := 0, ttl := 64, protocol := UDP_PROTOCOL, hdrChecksum := 0,
                 srcAddr := 0xC0A80001, dstAddr := 0xC0A800C7 }
  udp := some { srcPort := 34951, dstPort := PAXOS_PROTOCOL, length_ := 59, checksum := 0 }
  paxos := some { msgtype := PAXOS_2B, inst := 5, rnd := 1, vrnd := 1, acptid := 2, paxoslen := 3,
                  paxosval := (0x414243 : BitVec 256) <<< 232 }

/-- A Paxos frame with three bytes behind its headers. -/
theorem parser_deparser_inverse_vote :
    (∃ q, TopParser (TopDeparser voteHeaders ++ [7, 8, 9]) = some q ∧ q.parserError = none ∧
      TopDeparser q.hdr ++ q.payload = TopDeparser voteHeaders ++ [7, 8, 9]) ∧
    ∃ q, TopParser (TopDeparser voteHeaders ++ [7, 8, 9]) = some q ∧ q.hdr = voteHeaders ∧
      q.payload = [7, 8, 9] :=
  parser_deparser_inverse (by decide +kernel)
    ⟨by simp [voteHeaders], by simp [voteHeaders], by simp [voteHeaders]⟩ [7, 8, 9]

/-! ## Paxos frames -/

/-- The frame is Paxos in UDP in IPv4, with enough bytes for the four headers. These are fields of
the frame and no parser is needed to test them. -/
def IsPaxos (b : Bytes) : Prop :=
  90 ≤ b.length ∧ bits 16 12 b = ETHERTYPE_IPV4 ∧ bits 8 23 b = UDP_PROTOCOL ∧
    bits 16 36 b = PAXOS_PROTOCOL

/-- The four headers of such a frame, each at its position. -/
def Headers.read (b : Bytes) : Headers where
  ethernet := EthernetT.read b
  ipv4 := some (Ipv4T.read (b.drop 14))
  udp := some (UdpT.read (b.drop 34))
  paxos := some (PaxosT.read (b.drop 42))

/-- **Parsing up to `parse_paxos`**: every header is read at its position. The four lengths are
those that the states need, and the three fields are those that the transitions select. -/
theorem TopParser_eq {b : Bytes} (h : IsPaxos b) :
    TopParser b = some ⟨Headers.read b, b.drop 90, none⟩ := by
  obtain ⟨hlen, htype, hproto, hport⟩ := h
  have htype' : (EthernetT.read b).etherType = ETHERTYPE_IPV4 := htype
  have hproto' : (Ipv4T.read (b.drop 14)).protocol = UDP_PROTOCOL := by
    simpa [Ipv4T.read] using hproto
  have hport' : (UdpT.read (b.drop 34)).dstPort = PAXOS_PROTOCOL := by
    simpa [UdpT.read] using hport
  have h₁ : ¬ b.length < 14 := by omega
  have h₂ : ¬ (b.drop 14).length < 20 := by
    rw [List.length_drop]
    omega
  have h₃ : ¬ (b.drop 34).length < 8 := by
    rw [List.length_drop]
    omega
  have h₄ : ¬ (b.drop 42).length < 48 := by
    rw [List.length_drop]
    omega
  rw [TopParser, if_neg h₁, if_pos htype', parse_ipv4, if_neg h₂, if_pos hproto', parse_udp,
    List.drop_drop, if_neg h₃, if_pos hport', parse_paxos, List.drop_drop, if_neg h₄,
    List.drop_drop, Headers.read]

/-- A Paxos header is extracted from no other frame. -/
lemma isPaxos_of_paxos {b : Bytes} {q : Parsed} (h : TopParser b = some q)
    (hpaxos : q.hdr.paxos ≠ none) : IsPaxos b := by
  have hproto : (Ipv4T.read (b.drop 14)).protocol = bits 8 23 b := by simp [Ipv4T.read]
  have hport : (UdpT.read (b.drop 34)).dstPort = bits 16 36 b := by simp [UdpT.read]
  unfold TopParser parse_ipv4 parse_udp parse_paxos at h
  simp only [List.drop_drop, List.length_drop] at h
  split_ifs at h <;> obtain rfl := Option.some.inj h <;> try exact absurd rfl hpaxos
  rename_i h₁ htype h₂ hp h₃ hd h₄
  exact ⟨by omega, htype, hproto ▸ hp, hport ▸ hd⟩

section

variable (e : EthernetT) (ip : Ipv4T) (u : UdpT) (p : PaxosT) (payload : Bytes)

/-- The frame of a Paxos packet, with what follows the headers. Its value is not cut: the header has
a fixed width. -/
def frameOf : Bytes := TopDeparser ⟨e, some ip, some u, some p⟩ ++ payload

/-- What is left of it behind each header. Each drop is the one before it and the length of one
header more. -/
lemma drop_frameOf :
    (frameOf e ip u p payload).drop 14 = ip.emit ++ (u.emit ++ (p.emit ++ payload)) ∧
      (frameOf e ip u p payload).drop 34 = u.emit ++ (p.emit ++ payload) ∧
      (frameOf e ip u p payload).drop 42 = p.emit ++ payload ∧
      (frameOf e ip u p payload).drop 90 = payload := by
  have hframe : frameOf e ip u p payload = e.emit ++ (ip.emit ++ (u.emit ++ (p.emit ++ payload))) := by
    simp [frameOf, TopDeparser]
  have h₁₄ : (frameOf e ip u p payload).drop 14 = ip.emit ++ (u.emit ++ (p.emit ++ payload)) := by
    rw [hframe, List.drop_left' e.length_emit]
  have h₃₄ : (frameOf e ip u p payload).drop 34 = u.emit ++ (p.emit ++ payload) := by
    rw [← List.drop_drop (i := 20) (j := 14), h₁₄, List.drop_left' ip.length_emit]
  have h₄₂ : (frameOf e ip u p payload).drop 42 = p.emit ++ payload := by
    rw [← List.drop_drop (i := 8) (j := 34), h₃₄, List.drop_left' u.length_emit]
  refine ⟨h₁₄, h₃₄, h₄₂, ?_⟩
  rw [← List.drop_drop (i := 48) (j := 42), h₄₂, List.drop_left' p.length_emit]

/-- **What a switch emits, the next one parses.** The hypotheses are the three fields that the
parser selects on. -/
theorem TopParser_frameOf (he : e.etherType = ETHERTYPE_IPV4) (hip : ip.protocol = UDP_PROTOCOL)
    (hu : u.dstPort = PAXOS_PROTOCOL) :
    TopParser (frameOf e ip u p payload) =
      some ⟨⟨e, some ip, some u, some p⟩, payload, none⟩ := by
  have hselected : Headers.Selected ⟨e, some ip, some u, some p⟩ :=
    ⟨by simp [he], by simp [hip], by simp [hu]⟩
  rw [frameOf, TopParser_TopDeparser hselected, if_pos he]

end

/-! ## Checksums -/

/-- The `Checksum16` extern of `v1model.p4`: the complement of the ones' complement sum of the
16-bit words. The carries of a sum of less than `2^16` words are gone after two rounds. -/
def Checksum16 (data : Bytes) : BitVec 16 :=
  let fold (s : ℕ) : ℕ := s % 65536 + s / 65536
  ~~~ BitVec.ofNat 16 (fold (fold (wordSum data)))

example : Checksum16 [0x45, 0x00, 0x00, 0x73, 0x00, 0x00, 0x40, 0x00, 0x40, 0x11, 0xC0, 0xA8, 0x00,
    0x01, 0xC0, 0xA8, 0x00, 0xC7] = 0xB861 := by decide

/-- The data both controls sum: all fields but the checksum.
Source: `p4-16/p4src/includes/parser.p4` `verifyChecksum`, `computeChecksum` -/
def Ipv4T.checksummed (h : Ipv4T) : Bytes :=
  beEncode 1 (h.version ++ h.ihl).toNat ++ (beEncode 1 h.diffserv.toNat ++
    (beEncode 2 h.totalLen.toNat ++ (beEncode 2 h.identification.toNat ++
      (beEncode 2 (h.flags ++ h.fragOffset).toNat ++ (beEncode 1 h.ttl.toNat ++
        (beEncode 1 h.protocol.toNat ++
          (beEncode 4 h.srcAddr.toNat ++ beEncode 4 h.dstAddr.toNat)))))))

/-- The egress port before the ingress control: port 0, unless the packet is marked to drop. It is
marked when the checksums are *equal*. There is nothing to compare without an IPv4 header.
Source: `p4-16/p4src/includes/parser.p4` `verifyChecksum` -/
def verifyChecksum (hdr : Headers) : Egress :=
  match hdr.ipv4 with
  | some ip => if ip.hdrChecksum = Checksum16 ip.checksummed then .drop else .port 0
  | none => .port 0

/-- It is applied to every packet that leaves with an IPv4 header.
Source: `p4-16/p4src/includes/parser.p4` `computeChecksum` -/
def computeChecksum (hdr : Headers) : Headers :=
  { hdr with ipv4 := hdr.ipv4.map fun ip =>
      { ip with hdrChecksum := Checksum16 ip.checksummed } }

end P4xos.P4v16
