import P4xos.Lib.Keyed
import P4xos.Lib.Register
import P4xos.Lib.Tally
import P4xos.P4v16.Acceptor
import P4xos.P4v16.Parser

/-!
# The P4-16 learner switch

`p4-16/p4src/learner.p4` with the `learner_tbl` entry of `p4-16/config-learner.txt`. `learner_tbl`
and `reset_consensus_instance` have one action each, which is also their default action, so they run
it on every packet. The entries of `transport_tbl` are a parameter `T`, as in the acceptor.

* `step_eq` says everything one packet does: `transport_tbl` is applied when the mask is a quorum,
  and then with `set_drop = 1`, which no action clears. Every other packet keeps the egress port
  that the checksum verification left.
* `cell_after`: the registers hold the tally of the votes received, a packet of any type counting as
  a vote.
* `handle_after_eq`: where a packet goes, by the voters counted. So what is delivered is decided by
  the entry for `set_drop = 1`, the one that the other two roles use for what they drop.
* `switch_eq`: the same on frames.

An instance has 32 bits and the registers 65536 cells. What is said of the tally is said of packets
with an instance inside the registers (`FromThree`).
-/

namespace P4xos.P4v16

open P4xos.Lib

/-- The registers of a learner switch.
Source: `p4-16/p4src/learner.p4` `registerRound`, `registerValue`, `registerHistory2B` -/
@[ext] structure Learner where
  registerRound : Register (BitVec 16) INSTANCE_COUNT
  registerValue : Register (BitVec 256) INSTANCE_COUNT
  registerHistory2B : Register (BitVec 8) INSTANCE_COUNT

namespace Learner

open Acceptor (Transport)

/-- A switch with zeroed registers. -/
def init : Learner where
  registerRound := Register.zero
  registerValue := Register.zero
  registerHistory2B := Register.zero

/-- What the actions of the ingress control read and write: the registers, the UDP header, the
metadata and the egress port. -/
structure Flow where
  regs : Learner
  udp : Option UdpT
  /-- `meta.paxos_metadata.round` -/
  round : BitVec 16
  /-- `meta.paxos_metadata.set_drop` -/
  set_drop : BitVec 1
  /-- `meta.paxos_metadata.ack_acceptors` -/
  ack_acceptors : BitVec 8
  egress_spec : Egress

/-- It ends what the tables say of the packet.
Source: `p4-16/p4src/learner.p4` `_drop` -/
def _drop (f : Flow) : Flow := { f with egress_spec := .drop }

/-- It marks every packet, and no action clears the mark.
Source: `p4-16/p4src/learner.p4` `read_round` -/
def read_round (p : PaxosT) (f : Flow) : Flow :=
  { f with
    round := f.regs.registerRound.read p.inst.toNat
    set_drop := 1
    ack_acceptors := f.regs.registerHistory2B.read p.inst.toNat }

/-- The bit of the packet's acceptor: `8w1 << (bit<8>)hdr.paxos.acptid`. An id from 8 on has no bit
in the mask. -/
def acceptorBit (p : PaxosT) : BitVec 8 := (1 : BitVec 8) <<< (p.acptid.setWidth 8).toNat

/-- The mask in the metadata is the new one.
Source: `p4-16/p4src/learner.p4` `handle_2b` -/
def handle_2b (p : PaxosT) (f : Flow) : Flow :=
  { f with
    ack_acceptors := f.ack_acceptors ||| acceptorBit p
    regs := {
      registerRound := f.regs.registerRound.write p.inst.toNat p.rnd
      registerValue := f.regs.registerValue.write p.inst.toNat p.paxosval
      registerHistory2B :=
        f.regs.registerHistory2B.write p.inst.toNat (f.ack_acceptors ||| acceptorBit p) } }

/-- The entry for type 3 and the default action are `handle_2b`.
Source: `p4-16/p4src/learner.p4` `learner_tbl`; `p4-16/config-learner.txt` -/
def learner_tbl (p : PaxosT) (f : Flow) : Flow := handle_2b p f

/-- The metadata keeps the mask that was read.
Source: `p4-16/p4src/learner.p4` `handle_new_value` -/
def handle_new_value (p : PaxosT) (f : Flow) : Flow :=
  { f with
    regs := {
      registerRound := f.regs.registerRound.write p.inst.toNat p.rnd
      registerValue := f.regs.registerValue.write p.inst.toNat p.paxosval
      registerHistory2B := f.regs.registerHistory2B.write p.inst.toNat (acceptorBit p) } }

/-- The default action is `handle_new_value`.
Source: `p4-16/p4src/learner.p4` `reset_consensus_instance` -/
def reset_consensus_instance (p : PaxosT) (f : Flow) : Flow := handle_new_value p f

/-- Only the port of the UDP header is rewritten.
Source: `p4-16/p4src/learner.p4` `forward` -/
def forward (port : BitVec 4) (learnerPort : BitVec 16) (f : Flow) : Flow :=
  { f with
    egress_spec := .port (port.setWidth 9)
    udp := f.udp.map fun u => { u with dstPort := learnerPort } }

/-- The default action is one of the values of `T`.
Source: `p4-16/p4src/learner.p4` `transport_tbl` -/
def transport_tbl (T : BitVec 1 → Transport) (f : Flow) : Flow :=
  match T f.set_drop with
  | ._drop => _drop f
  | .forward port learnerPort => forward port learnerPort f

/-- Two of three acceptors, as the program tests it.
Source: `p4-16/p4src/learner.p4` `ingress`, the last condition -/
def quorum (ack_acceptors : BitVec 8) : Prop :=
  ack_acceptors = 6 ∨ ack_acceptors = 5 ∨ ack_acceptors = 3

/-- Three masks to compare with. -/
instance (ack_acceptors : BitVec 8) : Decidable (quorum ack_acceptors) :=
  inferInstanceAs (Decidable (_ ∨ _))

/-- The ingress control: registers, headers and egress port after it.
Source: `p4-16/p4src/learner.p4` `ingress` -/
def ingress (T : BitVec 1 → Transport) (L : Learner) (hdr : Headers) (egress_spec : Egress) :
    Learner × Headers × Egress :=
  match hdr.ipv4, hdr.paxos with
  | some _, some p =>
      let f := read_round p ⟨L, hdr.udp, 0, 0, 0, egress_spec⟩
      let f :=
        if f.round < p.rnd then reset_consensus_instance p f
        else if p.rnd = f.round then learner_tbl p f
        else f
      let f := if quorum f.ack_acceptors then transport_tbl T f else f
      (f.regs, { hdr with udp := f.udp }, f.egress_spec)
  | _, _ => (L, hdr, egress_spec)

/-- One parsed packet through the switch: the registers after it, and the port and the headers it
leaves with, if it leaves. The egress control does nothing.
Source: `p4-16/p4src/learner.p4` `V1Switch` -/
def step (T : BitVec 1 → Transport) (L : Learner) (hdr : Headers) :
    Learner × Option (BitVec 9 × Headers) :=
  match ingress T L hdr (verifyChecksum hdr) with
  | (L', _, .drop) => (L', none)
  | (L', hdr', .port n) => (L', some (n, computeChecksum hdr'))

/-- One frame through a learner switch. A frame without even an Ethernet header passes as it is.
Source: `p4-16/p4src/learner.p4` `V1Switch` -/
def switch (T : BitVec 1 → Transport) (L : Learner) (b : Bytes) :
    Learner × Option (BitVec 9 × Bytes) :=
  match TopParser b with
  | none => (L, some (0, b))
  | some q =>
      match ingress T L q.hdr (verifyChecksum q.hdr) with
      | (L', _, .drop) => (L', none)
      | (L', hdr', .port n) => (L', some (n, TopDeparser (computeChecksum hdr') ++ q.payload))

/-- The frame that leaves carries the headers that leave, with the bytes behind them. -/
lemma switch_eq (T : BitVec 1 → Transport) (L : Learner) {b : Bytes} {q : Parsed}
    (h : TopParser b = some q) :
    switch T L b =
      ((step T L q.hdr).1, (step T L q.hdr).2.map fun s => (s.1, TopDeparser s.2 ++ q.payload)) := by
  unfold switch step
  rw [h]
  simp only []
  rcases ingress T L q.hdr (verifyChecksum q.hdr) with ⟨L', hdr', _ | _⟩ <;> rfl

/-! ## What one packet does -/

/-- The round stored for the packet's instance. -/
def storedRound (L : Learner) (p : PaxosT) : BitVec 16 := L.registerRound.read p.inst.toNat

/-- The mask stored for the packet's instance. -/
def storedMask (L : Learner) (p : PaxosT) : BitVec 8 := L.registerHistory2B.read p.inst.toNat

/-- The registers with the packet's round and value, and the given mask, in the packet's instance.
-/
def record (L : Learner) (p : PaxosT) (mask : BitVec 8) : Learner where
  registerRound := L.registerRound.write p.inst.toNat p.rnd
  registerValue := L.registerValue.write p.inst.toNat p.paxosval
  registerHistory2B := L.registerHistory2B.write p.inst.toNat mask

/-- The registers after a packet. -/
def update (L : Learner) (p : PaxosT) : Learner :=
  if storedRound L p < p.rnd then record L p (acceptorBit p)
  else if p.rnd = storedRound L p then record L p (storedMask L p ||| acceptorBit p)
  else L

/-- The mask that is tested for a quorum. -/
def testedMask (L : Learner) (p : PaxosT) : BitVec 8 :=
  if p.rnd = storedRound L p then storedMask L p ||| acceptorBit p else storedMask L p

/-- What the round comparison and the tables behind it leave. The three cases of the source are
those of `update` and `testedMask`: a newer round, the same one, and an older one. -/
lemma tables_eq (p : PaxosT) (f : Flow) :
    (if (read_round p f).round < p.rnd then reset_consensus_instance p (read_round p f)
      else if p.rnd = (read_round p f).round then learner_tbl p (read_round p f)
      else read_round p f) =
    { regs := update f.regs p, udp := f.udp, round := storedRound f.regs p, set_drop := 1,
      ack_acceptors := testedMask f.regs p, egress_spec := f.egress_spec } := by
  have hround : (read_round p f).round = storedRound f.regs p := rfl
  rw [hround]
  unfold update testedMask
  by_cases hlt : storedRound f.regs p < p.rnd
  · have hne : ¬ p.rnd = storedRound f.regs p := fun h => BitVec.lt_irrefl _ (h ▸ hlt)
    rw [if_pos hlt, if_pos hlt, if_neg hne]
    rfl
  · rw [if_neg hlt, if_neg hlt]
    by_cases heq : p.rnd = storedRound f.regs p
    · rw [if_pos heq, if_pos heq, if_pos heq]
      rfl
    · rw [if_neg heq, if_neg heq, if_neg heq]
      rfl

/-- What leaves the switch when `transport_tbl` was applied, by the entry for `set_drop = 1`. -/
def transported (T : BitVec 1 → Transport) (hdr : Headers) : Option (BitVec 9 × Headers) :=
  match T 1 with
  | ._drop => none
  | .forward port learnerPort => some (port.setWidth 9, computeChecksum
      { hdr with udp := hdr.udp.map fun u => { u with dstPort := learnerPort } })

/-- What leaves the switch when no table with a say in it was applied. -/
def passed (hdr : Headers) : Option (BitVec 9 × Headers) :=
  match verifyChecksum hdr with
  | .drop => none
  | .port n => some (n, computeChecksum hdr)

/-- Only the packets with a right checksum are discarded then. -/
lemma passed_eq_none {hdr : Headers} {ip : Ipv4T} (hip : hdr.ipv4 = some ip) :
    passed hdr = none ↔ ip.hdrChecksum = Checksum16 ip.checksummed := by
  have hegress : verifyChecksum hdr =
      if ip.hdrChecksum = Checksum16 ip.checksummed then .drop else .port 0 := by
    rw [verifyChecksum, hip]
  rw [passed, hegress]
  by_cases hsum : ip.hdrChecksum = Checksum16 ip.checksummed
  · rw [if_pos hsum]
    exact iff_of_true rfl hsum
  · rw [if_neg hsum]
    exact iff_of_false (Option.some_ne_none _) hsum

/-- **Everything one Paxos packet does**: the registers after it, and where it goes. The mask that
the tables leave is the one that is tested, and `transport_tbl` is applied to a quorum only. -/
lemma step_eq (T : BitVec 1 → Transport) (L : Learner) {hdr : Headers} {ip : Ipv4T} {p : PaxosT}
    (hip : hdr.ipv4 = some ip) (hpx : hdr.paxos = some p) :
    step T L hdr =
      (update L p, if quorum (testedMask L p) then transported T hdr else passed hdr) := by
  obtain ⟨ethernet, ipv4, udp, paxos⟩ := hdr
  subst hip hpx
  unfold step ingress
  simp only []
  rw [tables_eq p]
  by_cases hq : quorum (testedMask L p)
  · rw [if_pos hq, if_pos hq, transport_tbl, transported]
    cases T 1 <;> rfl
  · rw [if_neg hq, if_neg hq, passed]
    generalize verifyChecksum ⟨ethernet, some ip, udp, some p⟩ = e
    cases e <;> rfl

/-! ## The registers are a tally -/

/-- The vote of a 2B. -/
def vote (p : PaxosT) : Vote ℕ ℕ where
  inst := p.inst.toNat
  round := p.rnd.toNat
  voter := p.acptid.toNat

/-- The instance has registers, and the acceptor is 0, 1 or 2. -/
def FromThree (p : PaxosT) : Prop := p.inst.toNat < INSTANCE_COUNT ∧ p.acptid.toNat < 3

/-- The round and the acceptors stored for an instance. -/
def cell (L : Learner) (i : ℕ) : Cell ℕ where
  round := (L.registerRound.read i).toNat
  voters := members (L.registerHistory2B.read i)

/-- Before the first packet nothing has been counted. -/
lemma cell_init (i : ℕ) : cell init i = tally i ([] : List (Vote ℕ ℕ)) := by
  simp [cell, init, tally]

/-- What is recorded for an instance inside the registers is read back. -/
lemma cell_record_self (L : Learner) {p : PaxosT} (h : FromThree p) (mask : BitVec 8) :
    cell (record L p mask) p.inst.toNat = ⟨p.rnd.toNat, members mask⟩ := by
  simp [cell, record, h.1]

/-- The other instances keep what they have. -/
lemma cell_record_of_ne (L : Learner) (p : PaxosT) (mask : BitVec 8) {i : ℕ}
    (h : p.inst.toNat ≠ i) : cell (record L p mask) i = cell L i := by
  simp [cell, record, Ne.symm h]

/-- The three ids have a bit in the mask. -/
lemma FromThree.voter_lt {p : PaxosT} (h : FromThree p) : (vote p).voter < 8 :=
  h.2.trans (by decide)

/-- The cut to eight bits leaves the small ids alone. -/
lemma FromThree.acceptorBit {p : PaxosT} (h : FromThree p) :
    acceptorBit p = (1 : BitVec 8) <<< (vote p).voter := by
  have hcut : (p.acptid.setWidth 8).toNat = (vote p).voter := by
    rw [BitVec.toNat_setWidth]
    exact Nat.mod_eq_of_lt (h.voter_lt.trans (by decide))
  rw [Learner.acceptorBit, hcut]

/-- **A packet of the three acceptors is counted in the cell of its instance**, and in no other. The
mask's bit is the sender's, and recording a vote writes the two registers of its instance. -/
lemma cell_update (L : Learner) {p : PaxosT} (h : FromThree p) (i : ℕ) :
    cell (update L p) i = if (vote p).inst = i then (cell L i).count (vote p) else cell L i := by
  by_cases hi : (vote p).inst = i
  · subst hi
    have hcount : (cell L (vote p).inst).count (vote p) =
        if storedRound L p < p.rnd then ⟨p.rnd.toNat, members ((1 : BitVec 8) <<< (vote p).voter)⟩
        else if p.rnd = storedRound L p then
          ⟨p.rnd.toNat, members (storedMask L p ||| (1 : BitVec 8) <<< (vote p).voter)⟩
        else cell L (vote p).inst := count_members rfl h.voter_lt
    rw [if_pos rfl, hcount, update, h.acceptorBit]
    split_ifs
    · exact cell_record_self L h _
    · exact cell_record_self L h _
    · rfl
  · rw [if_neg hi]
    unfold update
    split_ifs
    · exact cell_record_of_ne L p _ hi
    · exact cell_record_of_ne L p _ hi
    · rfl

/-! ## Runs on Paxos packets -/

/-- A Paxos packet in UDP in IPv4, and the port it came in by. -/
structure Datagram where
  /-- `standard_metadata.ingress_port` -/
  ingress_port : BitVec 9
  ethernet : EthernetT
  ipv4 : Ipv4T
  udp : UdpT
  paxos : PaxosT

/-- The headers the parser extracts. -/
def Datagram.headers (d : Datagram) : Headers :=
  { ethernet := d.ethernet, ipv4 := some d.ipv4, udp := some d.udp, paxos := some d.paxos }

/-- The vote of a packet. -/
def Datagram.vote (d : Datagram) : Vote ℕ ℕ := Learner.vote d.paxos

/-- One Paxos packet through the switch. -/
def handle (T : BitVec 1 → Transport) (L : Learner) (d : Datagram) :
    Learner × Option (BitVec 9 × Headers) := step T L d.headers

/-- **After a run the registers hold the tally of the votes.** -/
lemma cell_after (T : BitVec 1 → Transport) {ds : List Datagram}
    (hds : ∀ d ∈ ds, FromThree d.paxos) (i : ℕ) :
    cell (after (handle T) init ds) i = tally i (ds.map Datagram.vote) := by
  have h : cell (after (handle T) init ds) i = tally i ([] ++ ds.map Datagram.vote) := by
    refine tally_foldl (fun L d hd j => ?_) cell_init i
    rw [handle, step_eq T L rfl rfl]
    exact cell_update L (hds d hd) j
  rwa [List.nil_append] at h

/-- **Where a packet goes**: through `transport_tbl` when two acceptors are counted, and otherwise
where the checksum verification left it. -/
lemma handle_after_eq (T : BitVec 1 → Transport) {pre : List Datagram} {d : Datagram}
    (hpre : ∀ q ∈ pre, FromThree q.paxos) (hd : FromThree d.paxos) :
    (handle T (after (handle T) init pre) d).2 =
      if (counted (pre.map Datagram.vote) d.vote).card = 2 then transported T d.headers
      else passed d.headers := by
  set L := after (handle T) init pre
  have hmask : members (testedMask L d.paxos) = counted (pre.map Datagram.vote) d.vote := by
    have h : members (if d.paxos.rnd = storedRound L d.paxos then
          storedMask L d.paxos ||| (1 : BitVec 8) <<< d.vote.voter else storedMask L d.paxos) =
        counted (pre.map Datagram.vote) d.vote :=
      members_counted rfl hd.voter_lt (cell_after T hpre d.vote.inst)
    rwa [Datagram.vote, ← hd.acceptorBit] at h
  have hvoters : ∀ v ∈ pre.map Datagram.vote, v.voter < 3 := by
    intro v hv
    obtain ⟨q, hq, rfl⟩ := List.mem_map.mp hv
    exact (hpre q hq).2
  have hquorum : (counted (pre.map Datagram.vote) d.vote).card = 2 ↔
      quorum (testedMask L d.paxos) := card_counted_eq_two hvoters hd.2 hmask
  rw [handle, step_eq T L rfl rfl]
  simp only [hquorum]

end Learner

end P4xos.P4v16
