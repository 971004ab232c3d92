import P4xos.Lib.OnesComplement
import P4xos.P4v14.Header

/-!
# The calculated fields of the P4-14 switches

`p4src/includes/headers.p4`: the IPv4 and UDP headers, and the two fields of them that the deparser
computes again whenever a frame leaves, the checksums. It does so for every frame, also for one that
the tables have left as it was. So a frame with another checksum in the field leaves with a new one:
a UDP datagram sent without a checksum, a packet with IP options, which the parser takes for a UDP
header, and a fragment.

What the tables of a switch read and write is the Ethernet addresses and the Paxos header (`L2`).
Everything else in a frame is of some type whose calculated fields can be computed again
(`CalculatedFields`), and once is as good as several times. Here that type is `Headers`, the two
headers and the bytes behind them.

* `Headers.update_update`: a checksum does not depend on the field it is written to.
-/

namespace P4xos.P4v14

open P4xos.Lib

/-! ## Headers -/

/-- The parser takes a fixed 20 bytes for it, without options.
Source: `p4src/includes/headers.p4` `ipv4_t` -/
structure Ipv4T where
  version : BitVec 4
  ihl : BitVec 4
  diffserv : BitVec 8
  totalLen : BitVec 16
  identification : BitVec 16
  flags : BitVec 3
  fragOffset : BitVec 13
  ttl : BitVec 8
  protocol : BitVec 8
  hdrChecksum : BitVec 16
  srcAddr : BitVec 32
  dstAddr : BitVec 32
  deriving DecidableEq

/-- Its length is that of the whole datagram, in bytes.
Source: `p4src/includes/headers.p4` `udp_t` -/
structure UdpT where
  srcPort : BitVec 16
  dstPort : BitVec 16
  length_ : BitVec 16
  checksum : BitVec 16
  deriving DecidableEq

/-- What is in a frame apart from its Ethernet addresses and its Paxos header. A header that the
parser did not extract is `none`; it extracts a UDP header only behind an IPv4 header.
Source: `p4src/includes/headers.p4`; `p4src/includes/parser.p4` -/
structure Headers where
  etherType : BitVec 16
  ipv4 : Option Ipv4T
  udp : Option UdpT
  /-- The bytes behind the headers. -/
  payload : Bytes
  deriving DecidableEq

/-! ## Checksums -/

/-- The algorithm `csum16`: the complement of the ones' complement sum of the 16-bit words. An odd
last byte counts as the high byte of a word. -/
def csum16 (data : Bytes) : BitVec 16 := ~~~ BitVec.ofNat 16 (onesSum 16 (wordSum data))

/-- All fields of the header but the checksum.
Source: `p4src/includes/headers.p4` `ipv4_checksum_list` -/
def ipv4_checksum_list (ipv4 : Ipv4T) : Bytes :=
  beEncode 1 (ipv4.version ++ ipv4.ihl).toNat ++ (beEncode 1 ipv4.diffserv.toNat ++
    (beEncode 2 ipv4.totalLen.toNat ++ (beEncode 2 ipv4.identification.toNat ++
      (beEncode 2 (ipv4.flags ++ ipv4.fragOffset).toNat ++ (beEncode 1 ipv4.ttl.toNat ++
        (beEncode 1 ipv4.protocol.toNat ++
          (beEncode 4 ipv4.srcAddr.toNat ++ beEncode 4 ipv4.dstAddr.toNat)))))))

/-- The pseudo header, the UDP header without the checksum, and the payload: everything behind the
UDP header, with the Paxos header if there is one.
Source: `p4src/includes/headers.p4` `udp_checksum_list` -/
def udp_checksum_list (ipv4 : Ipv4T) (udp : UdpT) (payload : Bytes) : Bytes :=
  beEncode 4 ipv4.srcAddr.toNat ++ (beEncode 4 ipv4.dstAddr.toNat ++ (beEncode 1 0 ++
    (beEncode 1 ipv4.protocol.toNat ++ (beEncode 2 udp.length_.toNat ++
      (beEncode 2 udp.srcPort.toNat ++ (beEncode 2 udp.dstPort.toNat ++
        (beEncode 2 udp.length_.toNat ++ payload)))))))

/-- It covers the fixed 20 bytes only, whatever the header length says.
Source: `p4src/includes/headers.p4` `ipv4_checksum` -/
def ipv4_checksum (ipv4 : Ipv4T) : BitVec 16 := csum16 (ipv4_checksum_list ipv4)

/-- It is computed also where the datagram came without a checksum.
Source: `p4src/includes/headers.p4` `udp_checksum` -/
def udp_checksum (ipv4 : Ipv4T) (udp : UdpT) (payload : Bytes) : BitVec 16 :=
  csum16 (udp_checksum_list ipv4 udp payload)

/-! ## The update -/

/-- What is in a frame besides the Ethernet addresses and the Paxos header, with the calculated
fields in it. What an update writes depends on what it does not write, so a second one writes the
same. -/
class CalculatedFields (β : Type*) where
  /-- Compute the fields again, behind the given Paxos header. -/
  update : Option PaxosT → β → β
  /-- Once is enough. -/
  update_update : ∀ paxos rest, update paxos (update paxos rest) = update paxos rest

/-- The two checksums, in the headers that there are.
Source: `p4src/includes/headers.p4` `calculated_field ipv4.hdrChecksum`, `calculated_field
udp.checksum` -/
def Headers.update (paxos : Option PaxosT) (h : Headers) : Headers :=
  { h with
    ipv4 := h.ipv4.map fun ipv4 => { ipv4 with hdrChecksum := ipv4_checksum ipv4 }
    udp :=
      match h.ipv4, h.udp with
      | some ipv4, some udp =>
          some { udp with
            checksum := udp_checksum ipv4 udp ((paxos.map PaxosT.emit).getD [] ++ h.payload) }
      | _, udp => udp }

/-- **Computing the checksums again changes nothing.** -/
lemma Headers.update_update (paxos : Option PaxosT) (h : Headers) :
    (h.update paxos).update paxos = h.update paxos := by
  obtain ⟨etherType, ipv4, udp, payload⟩ := h
  cases ipv4 with
  | none => rfl
  | some ipv4 =>
      cases udp with
      | none => rfl
      | some udp => rfl

/-- The headers of a frame are of such a type. -/
instance : CalculatedFields Headers where
  update := Headers.update
  update_update := Headers.update_update

end P4xos.P4v14
