import P4xos.P4v14.Header

/-!
# The P4-14 coordinator switch

`p4src/paxos_coordinator.p4` with the table entries of `bmv2/coordinator_commands.txt`: a 16-bit
counter that numbers the client requests. A request arrives as a 2A packet and leaves as the 2A of
round 0 for the next instance; a packet of any other type passes through. As in the acceptor, the
tables of `l2_control.p4` flood whatever the Paxos part leaves.

* `ingress_request`: what a request becomes.
-/

namespace P4xos.P4v14

open P4xos.Lib

/-- The register of a coordinator switch.
Source: `p4src/paxos_coordinator.p4` `instance_register` -/
@[ext] structure Coordinator where
  /-- The instance number given to the last request. -/
  instance_register : BitVec 16
  deriving DecidableEq

namespace Coordinator

/-- A switch with a zeroed register. So the first request gets the number 1. -/
def init : Coordinator := ⟨0⟩

/-- Give the request the next instance number and round 0. The 16-bit addition wraps around.
Source: `p4src/paxos_coordinator.p4` `handle_request` -/
def handle_request (C : Coordinator) (p : PaxosT) : Coordinator × PaxosT :=
  let p := { p with msgtype := PAXOS_2A, round := 0 }
  let p := { p with inst := C.instance_register }
  let p := { p with inst := p.inst + 1 }
  (⟨p.inst⟩, p)

/-- The one entry is for 2A packets, the default action does nothing.
Source: `p4src/paxos_coordinator.p4` `tbl_sequence`; `bmv2/coordinator_commands.txt` -/
def tbl_sequence (C : Coordinator) (p : PaxosT) : Coordinator × PaxosT :=
  if p.msgtype = PAXOS_2A then handle_request C p else (C, p)

/-- The Paxos part of the ingress control, for a packet with a Paxos header.
Source: `p4src/paxos_coordinator.p4` `ingress` -/
def ingress (C : Coordinator) (p : PaxosT) : Coordinator × PaxosT := tbl_sequence C p

/-- A request takes the next instance number, in round 0, and keeps everything else. The counter and
the request have the same number afterwards. -/
lemma ingress_request {C : Coordinator} {p : PaxosT} (h : p.msgtype = PAXOS_2A) :
    ingress C p = (⟨C.instance_register + 1⟩,
      { p with msgtype := PAXOS_2A, inst := C.instance_register + 1, round := 0 }) := by
  simp [ingress, tbl_sequence, h, handle_request]

end Coordinator

end P4xos.P4v14
