import Mathlib

/-!
# The header stack of the P4-16 switches

`p4-16/p4src/includes/header.p4`: Ethernet, IPv4, UDP and the Paxos header, whose fields are wider
than in the P4-14 programs and whose message types start from 0. A header that the parser did not
extract is invalid, here `none`.

* `PaxosT` has an instance of 32 bits, rounds of 16 and a value of 256 with its length beside it;
  the length field is carried along and read by no switch.
* `Headers` has Ethernet always, since the parser extracts it first and fails without it.
* `Egress` tells the drop port from the others, which the programs compare with it.
-/

namespace P4xos.P4v16

/-! ## Message types and sizes -/

/-- Prepare.
Source: `p4-16/p4src/includes/header.p4` `PAXOS_1A` -/
def PAXOS_1A : BitVec 16 := 0

/-- Promise.
Source: `p4-16/p4src/includes/header.p4` `PAXOS_1B` -/
def PAXOS_1B : BitVec 16 := 1

/-- Accept; also what a client sends as its request.
Source: `p4-16/p4src/includes/header.p4` `PAXOS_2A` -/
def PAXOS_2A : BitVec 16 := 2

/-- Accepted.
Source: `p4-16/p4src/includes/header.p4` `PAXOS_2B` -/
def PAXOS_2B : BitVec 16 := 3

/-- The number of cells of the per-instance registers; an instance number can be larger.
Source: `p4-16/p4src/includes/header.p4` `INSTANCE_COUNT` -/
def INSTANCE_COUNT : ℕ := 65536

/-! ## Headers -/

/-- The destination address comes first.
Source: `p4-16/p4src/includes/header.p4` `ethernet_t` -/
structure EthernetT where
  dstAddr : BitVec 48
  srcAddr : BitVec 48
  etherType : BitVec 16
  deriving DecidableEq

/-- Without options, whatever the header length says.
Source: `p4-16/p4src/includes/header.p4` `ipv4_t` -/
structure Ipv4T where
  version : BitVec 4
  ihl : BitVec 4
  diffserv : BitVec 8
  totalLen : BitVec 16
  identification : BitVec 16
  flags : BitVec 3
  fragOffset : BitVec 13
  ttl : BitVec 8
  protocol : BitVec 8
  hdrChecksum : BitVec 16
  srcAddr : BitVec 32
  dstAddr : BitVec 32
  deriving DecidableEq

/-- Its length is that of the whole datagram.
Source: `p4-16/p4src/includes/header.p4` `udp_t` -/
structure UdpT where
  srcPort : BitVec 16
  dstPort : BitVec 16
  length_ : BitVec 16
  checksum : BitVec 16
  deriving DecidableEq

/-- The header behind UDP, 48 bytes.
Source: `p4-16/p4src/includes/header.p4` `paxos_t` -/
@[ext] structure PaxosT where
  /-- The message type. -/
  msgtype : BitVec 16
  /-- The instance number. -/
  inst : BitVec 32
  /-- The round number. -/
  rnd : BitVec 16
  /-- The round in which an acceptor cast a vote. -/
  vrnd : BitVec 16
  /-- The switch id. -/
  acptid : BitVec 16
  /-- The length of the value. -/
  paxoslen : BitVec 32
  /-- The value the acceptor voted for. -/
  paxosval : BitVec 256
  deriving DecidableEq

/-- The parsed headers of a packet.
Source: `p4-16/p4src/includes/header.p4` `headers` -/
structure Headers where
  ethernet : EthernetT
  ipv4 : Option Ipv4T
  udp : Option UdpT
  paxos : Option PaxosT
  deriving DecidableEq

/-- Where the packet goes after ingress: `standard_metadata.egress_spec`, with the drop port that
`mark_to_drop` sets told apart. -/
inductive Egress
  | port (n : BitVec 9)
  | drop
  deriving DecidableEq

end P4xos.P4v16
