import P4xos.Bmv2.Fabric
import P4xos.Bmv2.FastPath
import P4xos.Bmv2.Sequential

/-!
# The bmv2 demo, whole

The network of `bmv2/topo.py` with the programs its hosts run: clients on `h1` and `h4` submit
requests (`paxoscore/proposer.py`), `h2` and `h3` are replicas (`paxoscore/learner.py`), the
switches number the requests and vote for them. Wires are first in first out, as the queues of the
software switches and the links between them are. The hosts may send anything else that is no Paxos
datagram.

What the operating system of a host decides is a parameter (`Hosts`): addresses, the ARP table, and
the interface by which a reply leaves.

* A frame is parsed as the switches parse it. Of its headers the programs read the addresses and the
  ports (`Rest`, `UdpInfo`); `handle_ofHeaders` says that the switches do with such a frame what
  they do with the whole one.
* `sniffs` and `handleReplica`: what a replica sniffs, and what it does with it. It stops after the
  `COUNT` packets of its configuration, or when a call raises.
* `transmit`: what a replica's program sends, on the wires.
* `demo` is the network, and `Serving` says what the hosts do in it: nothing is lost, and whatever
  they send besides requests is no Paxos datagram.

Frames of the control protocols and broken datagrams are as good as any other `Foreign` frame.
-/

namespace P4xos.Bmv2

open P4xos.Lib P4xos.P4v14 Node

variable {σ Cmd : Type*}

/-! ## Frames -/

/-- Source: `p4src/includes/parser.p4` `PAXOS_PROTOCOL` -/
def PAXOS_PROTOCOL : ℕ := 0x8888

/-- The IP addresses and UDP ports of a datagram. -/
structure UdpInfo where
  src : String
  dst : String
  sport : ℕ
  dport : ℕ
  deriving DecidableEq

/-- What is in a frame apart from its Ethernet addresses and its Paxos header: the addresses of a
UDP datagram, if it is one, and the bytes behind the headers that are parsed. -/
structure Rest where
  udp : Option UdpInfo
  data : Bytes
  deriving DecidableEq

/-- The calculated fields are no part of it: it has what the programs of the hosts read. -/
instance : CalculatedFields Rest where
  update _ rest := rest
  update_update _ _ := rfl

/-- So a switch leaves a frame without a Paxos header as it is. -/
@[simp] lemma deparsed_rest (f : Frame Rest) : f.deparsed = f := rfl

/-- An IP address as the programs write it. Four decimal numbers. -/
def dotted (a : BitVec 32) : String :=
  ".".intercalate ([24, 16, 8, 0].map fun i => toString (a.extractLsb' i 8).toNat)

/-- What the programs read of the headers that a switch parses. -/
def Rest.ofHeaders (h : Headers) : Rest where
  udp := do
    let ipv4 ← h.ipv4
    let udp ← h.udp
    return ⟨dotted ipv4.srcAddr, dotted ipv4.dstAddr, udp.srcPort.toNat, udp.dstPort.toNat⟩
  data := h.payload

/-- **The frames of the demo are those of the switches**, with what the programs read in the place
of the headers. -/
lemma handle_ofHeaders (s : Switches) (e : End) (frame : Frame Headers) :
    s.handle e (frame.map Rest.ofHeaders) =
      ((s.handle e frame).1, (s.handle e frame).2.map fun x => (x.1, x.2.map Rest.ofHeaders)) := by
  refine s.handle_map ?_ e frame
  intro paxos h
  obtain ⟨etherType, ipv4, udp, payload⟩ := h
  cases ipv4 with
  | none => rfl
  | some ipv4 =>
      cases udp with
      | none => rfl
      | some udp => rfl

/-- A UDP datagram in a frame, as the switches parse it.
Source: `p4src/includes/parser.p4` `parse_udp` -/
def udpFrame (srcAddr dstAddr : BitVec 48) (udp : UdpInfo) (payload : Bytes) : Frame Rest :=
  match if udp.dport = PAXOS_PROTOCOL then extract_paxos payload else none with
  | some (p, data) => ⟨srcAddr, dstAddr, some p, ⟨some udp, data⟩⟩
  | none => ⟨srcAddr, dstAddr, none, ⟨some udp, payload⟩⟩

/-- Its addresses and ports are those of the datagram. -/
lemma udp_udpFrame (srcAddr dstAddr : BitVec 48) (udp : UdpInfo) (payload : Bytes) :
    (udpFrame srcAddr dstAddr udp payload).rest.udp = some udp := by
  unfold udpFrame
  split <;> rfl

/-- To the port of Paxos, with a Paxos header. -/
lemma udpFrame_of_extract (srcAddr dstAddr : BitVec 48) {udp : UdpInfo} {payload data : Bytes}
    {p : PaxosT} (hport : udp.dport = PAXOS_PROTOCOL) (h : extract_paxos payload = some (p, data)) :
    udpFrame srcAddr dstAddr udp payload = ⟨srcAddr, dstAddr, some p, ⟨some udp, data⟩⟩ := by
  unfold udpFrame
  rw [if_pos hport, h]

/-- The frame is no Paxos datagram. -/
structure Foreign (f : Frame Rest) : Prop where
  paxos : f.paxos = none
  dport : ∀ u ∈ f.rest.udp, u.dport ≠ PAXOS_PROTOCOL

/-- A header and a port are looked at. -/
instance (f : Frame Rest) : Decidable (Foreign f) :=
  decidable_of_iff (f.paxos = none ∧ ∀ u ∈ f.rest.udp, u.dport ≠ PAXOS_PROTOCOL)
    ⟨fun h => ⟨h.1, h.2⟩, fun h => ⟨h.1, h.2⟩⟩

/-- To another port. -/
lemma foreign_udpFrame (srcAddr dstAddr : BitVec 48) {udp : UdpInfo}
    (h : udp.dport ≠ PAXOS_PROTOCOL) (payload : Bytes) :
    Foreign (udpFrame srcAddr dstAddr udp payload) := by
  unfold udpFrame
  rw [if_neg h]
  refine ⟨rfl, fun u hu => ?_⟩
  cases hu
  exact h

/-- What a replica sniffs, with the filter `udp && dst port 34952`.
Source: `bmv2/scripts/paxoscore/learner.py` `start` -/
def sniffs (f : Frame Rest) : Option Pkt :=
  match f.rest.udp with
  | some u =>
      if u.dport = PAXOS_PROTOCOL then
        some { ip := some (0x11, u.src)
               udp := some (u.sport, u.dport)
               raw := some ((f.paxos.map PaxosT.emit).getD [] ++ f.rest.data) }
      else none
  | none => none

/-! ## Hosts -/

/-- What the hosts' operating systems and the library that sniffs decide. -/
structure Hosts where
  /-- The Ethernet address of an interface. -/
  mac : End → BitVec 48
  /-- The IP address of an interface. -/
  ip : End → String
  /-- The Ethernet address a host sends to for an IP address. -/
  arp : String → BitVec 48
  /-- The interface by which a replica reaches the clients. -/
  route : Fin 2 → Fin 3
  /-- How many copies of a message that it sends to the group a replica sniffs itself. -/
  echoes : ℕ

/-- The hosts of the replicas.
Source: `bmv2/topo.py` `main`, `backend.py` -/
def host : Fin 2 → Node
  | 0 => h2
  | 1 => h3

/-- The hosts of the clients. -/
def client : Fin 2 → Node
  | 0 => h1
  | 1 => h4

/-- The acceptor switches. -/
def acceptorNode : Fin 3 → Node
  | 0 => s2
  | 1 => s3
  | 2 => s4

/-- The replica of a host. No other host runs one. -/
def Node.replica : Node → Option (Fin 2)
  | h2 => some 0
  | h3 => some 1
  | _ => none

/-- The link from a replica to an acceptor, at the replica. -/
def fromAcceptor (r : Fin 2) (a : Fin 3) : End := (host r, port a)

/-- The link from the coordinator to an acceptor, at the acceptor. -/
def toAcceptor (a : Fin 3) : End := (acceptorNode a, port 3)

/-- The links from the clients, at the coordinator. -/
def fromClient (c : Fin 2) : End := (s1, port (c + 1))

/-- The multicast address of the learners.
Source: `bmv2/scripts/paxoscore/learner.py` `sendMsg` -/
def multicast : BitVec 48 := 0x01005e031d47

/-- What a replica does to the outside, on the wires: a message to the group goes out by every
interface, a reply by one.
Source: `bmv2/scripts/paxoscore/learner.py` `sendMsg`, `respond` -/
def transmit (H : Hosts) (r : Fin 2) : Out Cmd → List (End × Frame Rest)
  | .deliver _ _ => []
  | .sendMsg msg dst dport =>
      (List.finRange 3).filterMap fun a => (peer (fromAcceptor r a)).map fun e =>
        (e, udpFrame 0x000400000001 multicast ⟨H.ip (fromAcceptor r a), dst, 12345, dport⟩ msg)
  | .respond data dst sport dport =>
      (peer (fromAcceptor r (H.route r))).toList.map fun e =>
        (e, udpFrame (H.mac (fromAcceptor r (H.route r))) (H.arp dst)
          ⟨H.ip (fromAcceptor r (H.route r)), dst, sport, dport⟩ data)

/-- A client's request in its frame. A proposer sends from the port it listens on to the learners'
group.
Source: `bmv2/scripts/httpServer.py`; `bmv2/scripts/paxos.cfg` -/
def clientFrame (H : Hosts) (c : Fin 2) (datagram : Bytes) : Frame Rest :=
  let e : End := (client c, port 0)
  udpFrame (H.mac e) multicast ⟨H.ip e, "224.3.29.72", 34953, 34952⟩ datagram

/-! ## The network -/

/-- The number of packets after which a replica stops sniffing, and ends.
Source: `bmv2/scripts/paxos.cfg` `count`; `bmv2/scripts/paxoscore/learner.py` `start` -/
def COUNT : ℕ := 65536

/-- The switches and the replicas, how many packets each replica has sniffed, and the 2A frames the
coordinator has made, in order. -/
structure Demo (σ Cmd : Type*) where
  switches : Switches
  replicas : Fin 2 → Replica σ Cmd
  sniffed : Fin 2 → ℕ
  issued : List (Frame Rest)

/-- Whether a replica still listens: no call has raised, and it has not sniffed its last packet.
Source: `bmv2/scripts/paxoscore/learner.py` `start` -/
def Demo.listens (s : Demo σ Cmd) (r : Fin 2) : Bool :=
  (s.replicas r).running && decide (s.sniffed r < COUNT)

/-- Whether a replica sends to the group. -/
def Out.toGroup : Out Cmd → Bool
  | .sendMsg _ _ _ => true
  | _ => false

/-- The 2A the coordinator makes of a request that comes in at an end. -/
def issues (s : Switches) (e : End) (f : Frame Rest) : List (Frame Rest) :=
  if e.1 = s1 ∧ f.paxos.map PaxosT.msgtype = some PAXOS_2A then [s.coordinator.passed f] else []

/-- A frame at a replica: it is handled if it is sniffed and the replica still listens. The packet
counts, and so do the replica's own messages to the group, which are handled as well, to no effect:
they are 1A and 2A.
Source: `bmv2/scripts/paxoscore/learner.py` `start` -/
def handleReplica (app : Application σ Cmd) (H : Hosts) (s : Demo σ Cmd) (r : Fin 2)
    (f : Frame Rest) :
    Demo σ Cmd × List (End × Frame Rest) :=
  match sniffs f with
  | none => (s, [])
  | some pkt =>
      if s.listens r then
        match (s.replicas r).learner.handle_pkt app pkt with
        | (L, outs, res) =>
            ({ s with
                replicas := Function.update s.replicas r
                  ⟨L, res.toBool, (s.replicas r).outs ++ outs⟩
                sniffed := Function.update s.sniffed r
                  (s.sniffed r + 1 + H.echoes * outs.countP Out.toGroup) },
              outs.flatMap (transmit H r))
      else (s, [])

/-- The demo as a network: the hosts other than the replicas only take frames off their links. -/
def demo (app : Application σ Cmd) (a₀ : σ) (H : Hosts) :
    Network (Demo σ Cmd) End (Frame Rest) where
  init := {
    switches := Switches.init
    replicas := fun _ => ⟨Learner.new NUM_ACCEPTORS "224.3.29.72" 34952 a₀, true, []⟩
    sniffed := fun _ => 0
    issued := [] }
  handle s e f :=
    match e.1.replica with
    | some r => handleReplica app H s r f
    | none =>
        ({ s with
            switches := (s.switches.handle e f).1
            issued := s.issued ++ issues s.switches e f },
          (s.switches.handle e f).2)

/-- A frame from a client: a request that was submitted. -/
def Submitted (H : Hosts) (e : End) (f : Frame Rest) : Prop :=
  ∃ c P msg datagram, (Proposer.submit P msg).2 = .ok datagram ∧ e = fromClient c ∧
    f = clientFrame H c datagram

/-- The runs in which no frame is lost, and the hosts, apart from the replicas' programs, send
requests and whatever is no Paxos datagram. -/
def Serving (H : Hosts) (_ : Network.State (Demo σ Cmd) End (Frame Rest)) :
    Network.Event End (Frame Rest) → Prop
  | .send e f => Uplink e ∧ (Submitted H e f ∨ Foreign f)
  | .arrive _ => True
  | .lose _ => False

/-! ## Where Paxos datagrams are -/

/-- The frames with a Paxos header. -/
def paxosOf (fs : List (Frame Rest)) : List (Frame Rest) := fs.filter fun f => f.paxos.isSome

/-- No frame, no Paxos frame. -/
@[simp] lemma paxosOf_nil : paxosOf [] = [] := rfl

/-- One list after the other. -/
lemma paxosOf_append (fs fs' : List (Frame Rest)) : paxosOf (fs ++ fs') = paxosOf fs ++ paxosOf fs' :=
  List.filter_append ..

/-- A frame without a Paxos header is left out. -/
lemma paxosOf_cons_of_none {f : Frame Rest} (h : f.paxos = none) (fs : List (Frame Rest)) :
    paxosOf (f :: fs) = paxosOf fs := List.filter_cons_of_neg (by simp [h])

/-- A Paxos frame stays. -/
lemma paxosOf_cons_of_some {f : Frame Rest} {p : PaxosT} (h : f.paxos = some p)
    (fs : List (Frame Rest)) : paxosOf (f :: fs) = f :: paxosOf fs :=
  List.filter_cons_of_pos (by simp [h])

/-- Frames without a Paxos header. -/
lemma paxosOf_eq_nil {fs : List (Frame Rest)} (h : ∀ f ∈ fs, f.paxos = none) : paxosOf fs = [] := by
  refine List.filter_eq_nil_iff.mpr fun f hf => ?_
  rw [h f hf]
  exact Bool.false_ne_true

/-- A flooded frame, at one end. It comes as often as the end is one of those flooded to. -/
lemma sentTo_flood (e : End) (es : List End) (f : Frame Rest) :
    Wires.sentTo e (es.map fun e' => (e', f)) = List.replicate (es.count e) f := by
  induction es with
  | nil => rfl
  | cons e' es ih =>
      rw [List.map_cons]
      by_cases h : e' = e
      · subst h
        rw [Wires.sentTo_cons_self, ih, List.count_cons_self, List.replicate_succ]
      · rw [Wires.sentTo_cons_ne h, ih, List.count_cons_of_ne h]

/-- The vote of acceptor `a` for a 2A. The value stays as the request has it. -/
def vote (a : Fin 3) (f : Frame Rest) : Frame Rest := { f with paxos := f.paxos.map (accepted a) }

/-- The 2A of the coordinator for a request, under a number. -/
def issue (i : BitVec 16) (f : Frame Rest) : Frame Rest :=
  { f with paxos := f.paxos.map fun p => { p with msgtype := PAXOS_2A, inst := i, round := 0 } }

end P4xos.Bmv2
