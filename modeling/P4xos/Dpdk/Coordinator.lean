import P4xos.Dpdk.Received

/-!
# The DPDK coordinator

`dpdk/coordinator/main.c`: a packet is rewritten in the buffer it came in and sent on. ARP requests
and ICMP packets are answered; a UDP packet for `COORDINATOR_PORT`, or in a recognised tunnel, goes
to the acceptors under the next instance number. Its Paxos message type is not looked at.

* `IsPaxos` are the packets that get as far as that.
* `rx_process_udp`: every such packet takes a number, and the rest of its Paxos header stays. So a
  prepare or an answer that comes to the coordinator's port uses up an instance.

The counter starts from 1 and has 32 bits, like the instance field.
-/

namespace P4xos.Dpdk

open P4xos.Lib

/-- A client sends its requests there.
Source: `dpdk/include/const.h` `COORDINATOR_PORT` -/
def COORDINATOR_PORT : BitVec 16 := 34951

/-- 10.0.0.10.
Source: `dpdk/include/const.h` `COORDINATOR_ADDR` -/
def COORDINATOR_ADDR : BitVec 32 := 0x0A00000A

/-- The number the next packet gets.
Source: `dpdk/coordinator/main.c` `struct coordinator` -/
structure Coordinator where
  cur_inst : BitVec 32
  deriving DecidableEq

namespace Coordinator

/-- Instance 0 is given to no packet.
Source: `dpdk/coordinator/main.c` `main` -/
def init : Coordinator := ⟨1⟩

/-- The branch for ARP: an Ethernet and IPv4 request is answered with the address of the port. Any
other ARP packet is dropped. -/
def arp_reply (h : Host) (m : Mbuf) : Option Mbuf :=
  if m.field 16 14 ≠ 1 ∨ m.field 16 16 ≠ 0x0800 ∨ m.field 8 18 ≠ 6 ∨ m.field 8 19 ≠ 4 then none
  else if m.field 16 20 ≠ 1 then none
  else
    let mem := m.mem.store 0 (m.field 48 6)
    let mem := mem.store 6 h.macaddr
    let mem := mem.store 20 (2 : BitVec 16)
    let ip_addr := m.field 32 28
    let mem := mem.store 28 (m.field 32 38)
    let mem := mem.store 22 h.macaddr
    let mem := mem.store 38 ip_addr
    some { m with mem := mem }

/-- The branch for ICMP: both pairs of addresses are swapped. Whether it is an echo request is not
looked at. -/
def icmp_reply (m : Mbuf) : Mbuf :=
  let mem := m.mem.store 6 (m.field 48 0)
  let mem := mem.store 0 (m.field 48 6)
  let mem := mem.store 26 (m.field 32 30)
  let mem := mem.store 30 (m.field 32 26)
  let mem := mem.store 34 (0 : BitVec 8)
  let mem := mem.store 36 (0 : BitVec 16)
  { m with mem := mem }

/-- The branch for UDP: the packet gets an instance number, and the acceptors' address. -/
def sequence (h : Host) (coord : Coordinator) (m : Mbuf) : Coordinator × Mbuf :=
  let mem := m.mem.store 0 (ETHER_ADDR_FOR_IPV4_MCAST ACCEPTOR_ADDR)
  let mem := mem.store 30 ACCEPTOR_ADDR
  let mem := mem.store 26 COORDINATOR_ADDR
  let mem := mem.store 24 (0 : BitVec 16)
  let mem := mem.store 44 coord.cur_inst
  let mem := mem.store 36 ACCEPTOR_PORT
  let mem := mem.store 34 COORDINATOR_PORT
  let mem := mem.store 40 (h.psd_sum (mem.read 14 20))
  (⟨coord.cur_inst + 1⟩, { m with mem := mem })

/-- The packet handed to the driver, unless the return value is `-1`.
Source: `dpdk/coordinator/main.c` `paxos_rx_process` -/
def paxos_rx_process (h : Host) (coord : Coordinator) (x : Received) : Coordinator × Option Mbuf :=
  if x.pkt.field 16 12 = 0x0806 then (coord, arp_reply h x.pkt)
  else if x.pkt.field 16 12 ≠ 0x0800 then (coord, none)
  else if x.pkt.field 8 23 = 1 then (coord, some (icmp_reply x.pkt))
  else if x.pkt.field 8 23 = 17 then
    if x.pkt.field 16 36 ≠ COORDINATOR_PORT ∧ x.tunnel = false then (coord, none)
    else
      let (coord, m) := sequence h coord x.pkt
      (coord, some m)
  else (coord, none)

/-- The packet gets to the coordinator's Paxos part. -/
def IsPaxos (x : Received) : Prop :=
  x.pkt.field 16 12 = 0x0800 ∧ x.pkt.field 8 23 = 17 ∧
    (x.pkt.field 16 36 = COORDINATOR_PORT ∨ x.tunnel = true)

/-- **Every packet takes a number**, whatever its type. The branch for UDP looks at the port and at
the tunnel only. -/
lemma rx_process_udp (h : Host) (coord : Coordinator) {x : Received} (hx : IsPaxos x) :
    (paxos_rx_process h coord x).1 = ⟨coord.cur_inst + 1⟩ ∧
    ∃ m, (paxos_rx_process h coord x).2 = some m ∧ m.field 32 44 = coord.cur_inst ∧
      m.field 16 42 = x.pkt.field 16 42 ∧ m.mem.read 48 10 = x.pkt.mem.read 48 10 := by
  obtain ⟨htype, hproto, hport⟩ := hx
  have hseq : paxos_rx_process h coord x =
      (⟨coord.cur_inst + 1⟩, some (sequence h coord x.pkt).2) := by
    have harp : ¬ x.pkt.field 16 12 = 0x0806 := by
      rw [htype]
      decide
    have hicmp : ¬ x.pkt.field 8 23 = 1 := by
      rw [hproto]
      decide
    have hfor : ¬ (x.pkt.field 16 36 ≠ COORDINATOR_PORT ∧ x.tunnel = false) := by
      rintro ⟨hne, htunnel⟩
      rcases hport with heq | htrue
      · exact hne heq
      · exact Bool.false_ne_true (htunnel.symm.trans htrue)
    rw [paxos_rx_process, if_neg harp, if_neg (not_not.mpr htype), if_neg hicmp, if_pos hproto,
      if_neg hfor]
    rfl
  rw [hseq]
  refine ⟨rfl, _, rfl, ?_, ?_, ?_⟩
  · apply Mbuf.field_of_read (n := 4) rfl
    simp (disch := decide) only [sequence, Memory.read_store_of_disjoint, Memory.read_store_self]
  · have hread : (sequence h coord x.pkt).2.mem.read 42 2 = x.pkt.mem.read 42 2 := by
      simp (disch := decide) only [sequence, Memory.read_store_of_disjoint]
    rw [Mbuf.field, hread, Mbuf.field]
  · simp (disch := decide) only [sequence, Memory.read_store_of_disjoint]

end Coordinator

end P4xos.Dpdk
