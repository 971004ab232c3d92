import P4xos.P4v14.Acceptor
import P4xos.P4v14.CalculatedFields
import P4xos.P4v14.Coordinator

/-!
# The Ethernet part of the P4-14 switches

`p4src/l2_control.p4` with the entries of `bmv2/acceptor_commands.txt` and
`bmv2/coordinator_commands.txt`, which are the same for its tables: every source address is learned
by a digest, every frame is broadcast, and the multicast group of the broadcast holds the ports 1 to
5. The copy for the port the frame came in by is pruned in the egress control.

The two switches are the programs whole: this part and the Paxos part one after the other, and then
the deparser, which computes the checksums of every frame again (`Frame.deparsed`). A switch turns a
frame that comes in into the frames that go out, each with its port.

* `switch_eq`: what the Paxos part leaves goes out, deparsed, by every other port of the group.
-/

namespace P4xos.P4v14

/-- A frame: its Ethernet addresses, the Paxos header if the parser extracts one, and everything
else, which no table reads or writes. -/
@[ext] structure Frame (β : Type*) where
  srcAddr : BitVec 48
  dstAddr : BitVec 48
  paxos : Option PaxosT
  rest : β
  deriving DecidableEq

/-- A frame as the deparser emits it, with the calculated fields computed again. -/
def Frame.deparsed {β : Type*} [CalculatedFields β] (frame : Frame β) : Frame β :=
  { frame with rest := CalculatedFields.update frame.paxos frame.rest }

/-- The next switch does not change it again. -/
lemma Frame.deparsed_deparsed {β : Type*} [CalculatedFields β] (frame : Frame β) :
    frame.deparsed.deparsed = frame.deparsed := by
  unfold Frame.deparsed
  rw [CalculatedFields.update_update]

/-- A frame with something else in the place of what no table reads. -/
def Frame.map {β γ : Type*} (φ : β → γ) (frame : Frame β) : Frame γ :=
  ⟨frame.srcAddr, frame.dstAddr, frame.paxos, φ frame.rest⟩

namespace L2

variable {β : Type*}

/-- The receiver is the number under which the control plane is registered.
Source: `p4src/l2_control.p4` `MAC_LEARN_RECEIVER` -/
def MAC_LEARN_RECEIVER : ℕ := 1024

/-- The instance type of a copy made by the multicast engine, as the entry of `mcast_src_pruning`
has it.
Source: `bmv2/acceptor_commands.txt`, `bmv2/coordinator_commands.txt` -/
def REPLICATION : ℕ := 5

/-- What the control plane is told of a frame.
Source: `p4src/l2_control.p4` `mac_learn_digest` -/
structure MacLearnDigest where
  srcAddr : BitVec 48
  ingress_port : ℕ
  deriving DecidableEq

/-- What the actions read and write. -/
structure Flow (β : Type*) where
  ingress_port : ℕ
  egress_spec : ℕ
  mcast_grp : BitVec 4
  /-- The packet goes no further: `drop()` was called. -/
  dropped : Bool
  /-- The digests made, with their receivers. -/
  digests : List (ℕ × MacLearnDigest)
  frame : Frame β

/-- A frame that has come in. -/
def Flow.new (ingress_port : ℕ) (frame : Frame β) : Flow β where
  ingress_port := ingress_port
  egress_spec := 0
  mcast_grp := 0
  dropped := false
  digests := []
  frame := frame

/-- A dropped packet goes out by no port, also when a multicast group has been chosen for it.
Source: `p4src/l2_control.p4` `_drop` -/
def _drop (f : Flow β) : Flow β := { f with dropped := true }

/-- The digest goes to the control plane, which is not part of the repository.
Source: `p4src/l2_control.p4` `mac_learn` -/
def mac_learn (f : Flow β) : Flow β :=
  { f with digests := f.digests ++ [(MAC_LEARN_RECEIVER, ⟨f.frame.srcAddr, f.ingress_port⟩)] }

/-- The table has no entries, and `mac_learn` is its default action.
Source: `p4src/l2_control.p4` `smac` -/
def smac (f : Flow β) : Flow β := mac_learn f

/-- The frame goes to the ports of group 1.
Source: `p4src/l2_control.p4` `broadcast` -/
def broadcast (f : Flow β) : Flow β := { f with mcast_grp := 1 }

/-- The table has no entries, and `broadcast` is its default action.
Source: `p4src/l2_control.p4` `dmac` -/
def dmac (f : Flow β) : Flow β := broadcast f

/-- The ports of a multicast group: one node with the ports 1 to 5 is associated to group 1.
Source: `bmv2/acceptor_commands.txt` `mc_mgrp_create`, `mc_node_create`, `mc_node_associate` -/
def mcastPorts (mcast_grp : BitVec 4) : List ℕ := if mcast_grp = 1 then [1, 2, 3, 4, 5] else []

/-- The table has an entry for replicated packets, which drops, and `_nop` is its default action:
whether a copy of the given instance type is kept.
Source: `p4src/l2_control.p4` `mcast_src_pruning` -/
def mcast_src_pruning (instance_type : ℕ) : Bool := instance_type ≠ REPLICATION

/-- Whether the copy for a port is kept.
Source: `p4src/l2_control.p4` `egress` -/
def egress (ingress_port egress_port instance_type : ℕ) : Bool :=
  if ingress_port = egress_port then mcast_src_pruning instance_type else true

/-- The frames that leave, with their ports: those of the multicast group when there is one, and
otherwise the one port of `egress_spec`. -/
def transmit [CalculatedFields β] (f : Flow β) : List (ℕ × Frame β) :=
  if f.dropped then []
  else if f.mcast_grp = 0 then
    [f.egress_spec].filterMap fun port =>
      if egress f.ingress_port port 0 then some (port, f.frame.deparsed) else none
  else
    (mcastPorts f.mcast_grp).filterMap fun port =>
      if egress f.ingress_port port REPLICATION then some (port, f.frame.deparsed) else none

/-- The ports of the broadcast group other than the one a frame came in by. No frame goes back by
the port it came in by. -/
def otherPorts (ingress_port : ℕ) : List ℕ := [1, 2, 3, 4, 5].filter fun port => port ≠ ingress_port

/-- A broadcast frame goes out by every other port. The multicast group has all five ports, and
`mcast_src_pruning` takes out the one the frame came in by. -/
lemma transmit_dmac [CalculatedFields β] (ingress_port : ℕ) (frame frame' : Frame β) :
    transmit { dmac (smac (Flow.new ingress_port frame)) with frame := frame' } =
      (otherPorts ingress_port).map fun port => (port, frame'.deparsed) := by
  have hport : ∀ ports : List ℕ, (ports.filterMap fun port =>
      if egress ingress_port port REPLICATION then some (port, frame'.deparsed) else none) =
      (ports.filter fun port => port ≠ ingress_port).map fun port => (port, frame'.deparsed) := by
    intro ports
    induction ports with
    | nil => rfl
    | cons port ports ih =>
        by_cases h : port = ingress_port
        · have hpruned : egress ingress_port port REPLICATION = false := if_pos h.symm
          rw [List.filterMap_cons, hpruned, List.filter_cons_of_neg (by simpa using h)]
          exact ih
        · have hkept : egress ingress_port port REPLICATION = true := if_neg (Ne.symm h)
          rw [List.filterMap_cons, hkept, List.filter_cons_of_pos (by simpa using h),
            List.map_cons, ← ih]
          rfl
  exact hport [1, 2, 3, 4, 5]

end L2

variable {β : Type*} [CalculatedFields β]

/-- One frame through an acceptor switch: the registers after it, the digests for the control plane,
and what goes out. The Ethernet part comes first; the Paxos part drops after the group has been
chosen.
Source: `p4src/paxos_acceptor.p4` `ingress`; `p4src/l2_control.p4` -/
def Acceptor.switch (A : Acceptor) (ingress_port : ℕ) (frame : Frame β) :
    Acceptor × List (ℕ × L2.MacLearnDigest) × List (ℕ × Frame β) :=
  let f := L2.dmac (L2.smac (L2.Flow.new ingress_port frame))
  match frame.paxos with
  | none => (A, f.digests, L2.transmit f)
  | some p =>
      match A.ingress p with
      | (A', some p') =>
          (A', f.digests, L2.transmit { f with frame := { frame with paxos := some p' } })
      | (A', none) => (A', f.digests, L2.transmit (L2._drop f))

/-- One frame through a coordinator switch. It drops nothing.
Source: `p4src/paxos_coordinator.p4` `ingress`; `p4src/l2_control.p4` -/
def Coordinator.switch (C : Coordinator) (ingress_port : ℕ) (frame : Frame β) :
    Coordinator × List (ℕ × L2.MacLearnDigest) × List (ℕ × Frame β) :=
  let f := L2.dmac (L2.smac (L2.Flow.new ingress_port frame))
  match frame.paxos with
  | none => (C, f.digests, L2.transmit f)
  | some p =>
      ((C.ingress p).1, f.digests,
        L2.transmit { f with frame := { frame with paxos := some (C.ingress p).2 } })

/-- The frame an acceptor switch passes on, if it does not drop it, as it leaves. -/
def Acceptor.passed (A : Acceptor) (frame : Frame β) : Option (Frame β) :=
  match frame.paxos with
  | none => some frame.deparsed
  | some p => (A.ingress p).2.map fun p' => Frame.deparsed { frame with paxos := some p' }

/-- The registers of an acceptor switch after a frame. A frame without a Paxos header changes none.
-/
def Acceptor.next (A : Acceptor) (frame : Frame β) : Acceptor :=
  match frame.paxos with
  | none => A
  | some p => (A.ingress p).1

/-- **What an acceptor passes on goes out by every other port.** The Paxos header is handled first,
and a frame that is not dropped goes through the L2 tables. -/
lemma Acceptor.switch_eq (A : Acceptor) (ingress_port : ℕ) (frame : Frame β) :
    (A.switch ingress_port frame).1 = A.next frame ∧
      (A.switch ingress_port frame).2.2 = (A.passed frame).toList.flatMap fun frame' =>
        (L2.otherPorts ingress_port).map fun port => (port, frame') := by
  unfold Acceptor.switch Acceptor.next Acceptor.passed
  rcases hp : frame.paxos with _ | p
  · refine ⟨rfl, ?_⟩
    rw [Option.toList_some, List.flatMap_singleton]
    exact L2.transmit_dmac ingress_port frame frame
  · dsimp only
    rcases A.ingress p with ⟨A', _ | p'⟩
    · exact ⟨rfl, rfl⟩
    · refine ⟨rfl, ?_⟩
      rw [Option.map_some, Option.toList_some, List.flatMap_singleton]
      exact L2.transmit_dmac ingress_port frame { frame with paxos := some p' }

/-- The frame a coordinator switch passes on, as it leaves. -/
def Coordinator.passed (C : Coordinator) (frame : Frame β) : Frame β :=
  match frame.paxos with
  | none => frame.deparsed
  | some p => Frame.deparsed { frame with paxos := some (C.ingress p).2 }

/-- The register of a coordinator switch after a frame. -/
def Coordinator.next (C : Coordinator) (frame : Frame β) : Coordinator :=
  match frame.paxos with
  | none => C
  | some p => (C.ingress p).1

/-- **What a coordinator passes on goes out by every other port.** -/
lemma Coordinator.switch_eq (C : Coordinator) (ingress_port : ℕ) (frame : Frame β) :
    (C.switch ingress_port frame).1 = C.next frame ∧
      (C.switch ingress_port frame).2.2 =
        (L2.otherPorts ingress_port).map fun port => (port, C.passed frame) := by
  unfold Coordinator.switch Coordinator.next Coordinator.passed
  rcases frame.paxos with _ | p
  · exact ⟨rfl, L2.transmit_dmac ingress_port frame frame⟩
  · exact ⟨rfl, L2.transmit_dmac ingress_port frame { frame with paxos := some (C.ingress p).2 }⟩

end P4xos.P4v14
