import P4xos.Lib.Keyed
import P4xos.P4v16.Acceptor

/-!
# The P4-16 leader switch

`p4-16/p4src/leader.p4` with the `leader_tbl` entries of `p4-16/config-leader.txt`: a 32-bit counter
that numbers the client requests. As in the acceptor, the entries of `transport_tbl` are a parameter
`T`. A packet of type 5 resets the counter.

* `ingress_request`: a request takes the next number, whatever number it carries.
* `after_requests`: after `n` requests the counter has advanced by `n`, and it wraps around.
* `exists_request_of_inst`: the counter runs through all 32-bit numbers, so every one of them is
  given to a request; also those for which the acceptors' registers have no cell.
-/

namespace P4xos.P4v16

open P4xos.Lib

namespace Leader

open Acceptor (Transport)

/-- What the actions read and write; `registerInstance` is the leader's only register. -/
structure Flow where
  registerInstance : BitVec 32
  udp : Option UdpT
  paxos : PaxosT
  set_drop : BitVec 1
  egress_spec : Egress

/-- The tables that follow may choose another port.
Source: `p4-16/p4src/leader.p4` `_drop` -/
def _drop (f : Flow) : Flow := { f with egress_spec := .drop }

/-- The 32-bit addition wraps around. The number that is given is the one that is stored.
Source: `p4-16/p4src/leader.p4` `increase_instance` -/
def increase_instance (f : Flow) : Flow :=
  { f with
    registerInstance := f.registerInstance + 1
    paxos := { f.paxos with inst := f.registerInstance + 1 }
    set_drop := 0 }

/-- The packet that resets is marked with `set_drop = 1`.
Source: `p4-16/p4src/leader.p4` `reset_instance` -/
def reset_instance (f : Flow) : Flow := { f with registerInstance := 0, set_drop := 1 }

/-- Packets of other types have no entry, and the default action drops.
Source: `p4-16/p4src/leader.p4` `leader_tbl`; `p4-16/config-leader.txt` -/
def leader_tbl (f : Flow) : Flow :=
  if f.paxos.msgtype = PAXOS_2A then increase_instance f
  else if f.paxos.msgtype = 5 then reset_instance f
  else _drop f

/-- The port of the rule has 4 bits.
Source: `p4-16/p4src/leader.p4` `forward` -/
def forward (port : BitVec 4) (acceptorPort : BitVec 16) (f : Flow) : Flow :=
  { f with
    egress_spec := .port (port.setWidth 9)
    udp := f.udp.map fun u => { u with dstPort := acceptorPort } }

/-- It decides about every packet, dropped by the first table or not.
Source: `p4-16/p4src/leader.p4` `transport_tbl` -/
def transport_tbl (T : BitVec 1 → Transport) (f : Flow) : Flow :=
  match T f.set_drop with
  | ._drop => _drop f
  | .forward port acceptorPort => forward port acceptorPort f

/-- The ingress control: the register, the headers and the egress port after it.
Source: `p4-16/p4src/leader.p4` `ingress` -/
def ingress (T : BitVec 1 → Transport) (r : BitVec 32) (hdr : Headers) (egress_spec : Egress) :
    BitVec 32 × Headers × Egress :=
  match hdr.ipv4, hdr.paxos with
  | some _, some paxos =>
      let f := transport_tbl T (leader_tbl ⟨r, hdr.udp, paxos, 0, egress_spec⟩)
      (f.registerInstance, { hdr with udp := f.udp, paxos := some f.paxos }, f.egress_spec)
  | _, _ => (r, hdr, egress_spec)

/-- A request takes the next number. The port does not matter for it, nor whether the packet is
dropped afterwards. -/
lemma ingress_request (T : BitVec 1 → Transport) (r : BitVec 32) {hdr : Headers} (e : Egress)
    {ip : Ipv4T} {p : PaxosT} (hip : hdr.ipv4 = some ip) (hpx : hdr.paxos = some p)
    (ht : p.msgtype = PAXOS_2A) :
    (ingress T r hdr e).1 = r + 1 ∧
      (ingress T r hdr e).2.1.paxos = some { p with inst := r + 1 } := by
  have htbl : leader_tbl ⟨r, hdr.udp, p, 0, e⟩ = increase_instance ⟨r, hdr.udp, p, 0, e⟩ := if_pos ht
  unfold ingress
  simp only [hip, hpx]
  rw [htbl, transport_tbl]
  cases T (increase_instance ⟨r, hdr.udp, p, 0, e⟩).set_drop <;> exact ⟨rfl, rfl⟩

/-- The leader as a component: the register, and the headers that come out. -/
def step (T : BitVec 1 → Transport) (e : Egress) (r : BitVec 32) (hdr : Headers) :
    BitVec 32 × Headers := ((ingress T r hdr e).1, (ingress T r hdr e).2.1)

/-- The register counts the requests. -/
lemma after_requests (T : BitVec 1 → Transport) (e : Egress) {hdr : Headers} {ip : Ipv4T}
    {p : PaxosT} (hip : hdr.ipv4 = some ip) (hpx : hdr.paxos = some p)
    (ht : p.msgtype = PAXOS_2A) (n : ℕ) (r : BitVec 32) :
    after (step T e) r (List.replicate n hdr) = r + BitVec.ofNat 32 n := by
  induction n generalizing r with
  | zero => simp
  | succ n ih =>
      have hstep : (step T e r hdr).1 = r + 1 := (ingress_request T r e hip hpx ht).1
      rw [List.replicate_succ, after_cons, hstep, ih, BitVec.ofNat_add, BitVec.add_assoc,
        BitVec.add_comm (BitVec.ofNat 32 n)]
      rfl

/-- **Every 32-bit instance is given to a request**: after enough requests the next one gets it. -/
theorem exists_request_of_inst (T : BitVec 1 → Transport) (e : Egress) {hdr : Headers} {ip : Ipv4T}
    {p : PaxosT} (hip : hdr.ipv4 = some ip) (hpx : hdr.paxos = some p)
    (ht : p.msgtype = PAXOS_2A) (i : BitVec 32) :
    ∃ n, (step T e (after (step T e) 0 (List.replicate n hdr)) hdr).2.paxos =
      some { p with inst := i } := by
  refine ⟨(i - 1).toNat, ?_⟩
  rw [after_requests T e hip hpx ht]
  have hnext : 0 + BitVec.ofNat 32 (i - 1).toNat + 1 = i := by
    rw [BitVec.ofNat_toNat, BitVec.setWidth_eq, zero_add, BitVec.sub_add_cancel]
  have hout := (ingress_request T (0 + BitVec.ofNat 32 (i - 1).toNat) e hip hpx ht).2
  rw [hnext] at hout
  exact hout

end Leader

end P4xos.P4v16
