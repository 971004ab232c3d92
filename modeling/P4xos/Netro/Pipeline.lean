import P4xos.Lib.Buffer
import P4xos.Netro.Plugin

/-!
# The pipeline around the Netronome plugin

`netrodemo/cans.p4` from the parser to the ingress control. A header instance is the bytes that were
extracted for it, `none` when it is not valid, and its fields are read at their positions. A packet
that is too short for a header it selects ends in the parser exception, which drops it. The entries
of `fwd_tbl` are a parameter `F`; those of `paxos_tbl` are in `netrodemo/commands.rules`.

* `start_valid`: which headers are valid together. IPv6 and Paxos never are, since the parser takes
  one branch on the type of the Ethernet header, and Paxos is behind IPv4.
* `dispatch_iff`: so `paxos_tbl`, which waits behind a valid IPv6 header, is applied to no packet,
  and a Paxos packet is forwarded like any other. The table that should be applied is applied
  exactly on the frames that are no Paxos frames (`IsPaxos`).
* `plugin_never_called`: whatever comes in, the plugin's variables stay as they are.
* `paxos_tbl_read`: what the table would do if it were applied, in terms of the plugin. With it the
  results on the plugin are results on the packets that it is meant for.

The program has no egress control and no calculated fields: a header leaves with the checksum that
the actions left in it.
-/

namespace P4xos.Netro

open P4xos.Lib

/-- The type field of an Ethernet header in front of ARP.
Source: `netrodemo/cans.p4` `ETHERTYPE_ARP` -/
def ETHERTYPE_ARP : BitVec 16 := 0x0806

/-- The program selects on this number in the type field; ICMP has no such type.
Source: `netrodemo/cans.p4` `ETHERTYPE_ICMP` -/
def ETHERTYPE_ICMP : BitVec 16 := 0x1

/-- The type field of an Ethernet header in front of IPv4.
Source: `netrodemo/cans.p4` `ETHERTYPE_IPV4` -/
def ETHERTYPE_IPV4 : BitVec 16 := 0x0800

/-- The protocol field of an IPv4 header in front of UDP.
Source: `netrodemo/cans.p4` `UDP_PROTOCOL` -/
def UDP_PROTOCOL : BitVec 8 := 0x11

/-- The type field of an Ethernet header in front of IPv6.
Source: `netrodemo/cans.p4` `ETHERTYPE_IPV6` -/
def ETHERTYPE_IPV6 : BitVec 16 := 0x86dd

/-- The UDP port of the Paxos packets.
Source: `netrodemo/cans.p4` `PAXOS_PROTOCOL` -/
def PAXOS_PROTOCOL : BitVec 16 := 0x8888

/-! ## The parser -/

/-- The header instances. Ethernet is always there: without it nothing is parsed.
Source: `netrodemo/cans.p4` `ethernet`, `ipv4`, `ipv6`, `arp`, `icmp`, `udp`, `paxos` -/
structure Headers where
  ethernet : Bytes
  ipv4 : Option Bytes
  ipv6 : Option Bytes
  arp : Option Bytes
  icmp : Option Bytes
  udp : Option Bytes
  paxos : Option Bytes
  deriving DecidableEq

/-- `extract` of a header of `n` bytes: the header and what follows it. -/
def extract (n : ℕ) (b : Bytes) : Option (Bytes × Bytes) :=
  if b.length < n then none else some (b.take n, b.drop n)

/-- Nothing is selected behind it.
Source: `netrodemo/cans.p4` `parse_icmp` -/
def parse_icmp (hdr : Headers) (b : Bytes) : Option (Headers × Bytes) := do
  let (icmp, b) ← extract 8 b
  return ({ hdr with icmp := some icmp }, b)

/-- Nothing is selected behind it.
Source: `netrodemo/cans.p4` `parse_arp` -/
def parse_arp (hdr : Headers) (b : Bytes) : Option (Headers × Bytes) := do
  let (arp, b) ← extract 28 b
  return ({ hdr with arp := some arp }, b)

/-- Nothing is selected behind it.
Source: `netrodemo/cans.p4` `parse_ipv6` -/
def parse_ipv6 (hdr : Headers) (b : Bytes) : Option (Headers × Bytes) := do
  let (ipv6, b) ← extract 40 b
  return ({ hdr with ipv6 := some ipv6 }, b)

/-- The fields of the plugin and the time stamps, 108 bytes.
Source: `netrodemo/cans.p4` `parse_paxos` -/
def parse_paxos (hdr : Headers) (b : Bytes) : Option (Headers × Bytes) := do
  let (paxos, b) ← extract 108 b
  return ({ hdr with paxos := some paxos }, b)

/-- The destination port selects the Paxos header.
Source: `netrodemo/cans.p4` `parse_udp` -/
def parse_udp (hdr : Headers) (b : Bytes) : Option (Headers × Bytes) := do
  let (udp, b) ← extract 8 b
  let hdr := { hdr with udp := some udp }
  -- `udp.dstPort`
  if bits 16 2 udp = PAXOS_PROTOCOL then parse_paxos hdr b else return (hdr, b)

/-- The protocol selects the UDP header; options are not parsed.
Source: `netrodemo/cans.p4` `parse_ipv4` -/
def parse_ipv4 (hdr : Headers) (b : Bytes) : Option (Headers × Bytes) := do
  let (ipv4, b) ← extract 20 b
  let hdr := { hdr with ipv4 := some ipv4 }
  -- `latest.protocol`
  if bits 8 9 ipv4 = UDP_PROTOCOL then parse_udp hdr b else return (hdr, b)

/-- The whole parser: the valid headers, and the bytes behind them.
Source: `netrodemo/cans.p4` `start`, `parse_ethernet` -/
def start (b : Bytes) : Option (Headers × Bytes) := do
  let (ethernet, b) ← extract 14 b
  let hdr : Headers := ⟨ethernet, none, none, none, none, none, none⟩
  let etherType := bits 16 12 ethernet
  if etherType = ETHERTYPE_ARP then parse_arp hdr b
  else if etherType = ETHERTYPE_ICMP then parse_icmp hdr b
  else if etherType = ETHERTYPE_IPV4 then parse_ipv4 hdr b
  else if etherType = ETHERTYPE_IPV6 then parse_ipv6 hdr b
  else return (hdr, b)

/-! ## The Paxos header -/

/-- The fields that the plugin works with, at their positions in the header. The first 44 bytes of
it. -/
def PaxosT.read (b : Bytes) : PaxosT where
  inst := bits 32 0 b
  rnd := bits 16 4 b
  vrnd := bits 16 6 b
  acpt := bits 16 8 b
  msgtype := bits 16 10 b
  val0 := bits 32 12 b
  val1 := bits 32 16 b
  val2 := bits 32 20 b
  val3 := bits 32 24 b
  val4 := bits 32 28 b
  val5 := bits 32 32 b
  val6 := bits 32 36 b
  val7 := bits 32 40 b

/-- The header with these fields written into it. The time stamps behind them stay. -/
def PaxosT.write (p : PaxosT) (b : Bytes) : Bytes :=
  beEncode 4 p.inst.toNat ++ (beEncode 2 p.rnd.toNat ++ (beEncode 2 p.vrnd.toNat ++
    (beEncode 2 p.acpt.toNat ++ (beEncode 2 p.msgtype.toNat ++ (beEncode 4 p.val0.toNat ++
      (beEncode 4 p.val1.toNat ++ (beEncode 4 p.val2.toNat ++ (beEncode 4 p.val3.toNat ++
        (beEncode 4 p.val4.toNat ++ (beEncode 4 p.val5.toNat ++ (beEncode 4 p.val6.toNat ++
          (beEncode 4 p.val7.toNat ++ b.drop 44))))))))))))

/-- The header with a time stamp, high word first, in the eight bytes from `off`. -/
def stamp (off : ℕ) (t : BitVec 64) (paxos : Bytes) : Bytes :=
  paxos.take off ++ (beEncode 8 t.toNat ++ paxos.drop (off + 8))

/-! ## The ingress control -/

/-- What the time-stamp counter shows at the start of an action and at its end. -/
structure Clock where
  start : BitVec 64
  stop : BitVec 64

/-- A forwarded packet carries the time stamps `fsh`, `fsl`, `feh` and `fel`, if it has a place for
them.
Source: `netrodemo/cans.p4` `forward`; `netrodemo/paxos.c` `pif_plugin_get_forwarding_start_time`,
`pif_plugin_get_forwarding_end_time` -/
def forward {Port : Type} (c : Clock) (port : Port) (hdr : Headers) : Headers × Option Port :=
  ({ hdr with paxos := hdr.paxos.map fun paxos => stamp 68 c.stop (stamp 60 c.start paxos) },
    some port)

/-- A packet from a port without an entry is left alone.
Source: `netrodemo/cans.p4` `fwd_tbl` -/
def fwd_tbl {Port : Type} (F : Port → Option Port) (c : Clock) (ingress_port : Port)
    (hdr : Headers) : Headers × Option Port :=
  match F ingress_port with
  | some port => forward c port hdr
  | none => (hdr, none)

/-- The packet carries the time before and after the call.
Source: `netrodemo/cans.p4` `increase_seq`; `netrodemo/paxos.c`
`pif_plugin_get_coordinator_start_time`, `pif_plugin_get_coordinator_end_time` -/
def increase_seq (c : Clock) (P : Plugin) (paxos : Bytes) : Option (Plugin × Option Bytes) :=
  let paxos := stamp 76 c.start paxos
  let (P, p) := P.seq_func (PaxosT.read paxos)
  some (P, some (stamp 84 c.stop (p.write paxos)))

/-- It carries no time stamps of its own.
Source: `netrodemo/cans.p4` `handle_phase1a` -/
def handle_phase1a (P : Plugin) (paxos : Bytes) : Option (Plugin × Option Bytes) := do
  let (P, p) ← P.phase1a (PaxosT.read paxos)
  return (P, p.map fun p => p.write paxos)

/-- A packet that the plugin drops gets no second time stamp.
Source: `netrodemo/cans.p4` `handle_phase2a`; `netrodemo/paxos.c`
`pif_plugin_get_acceptor_start_time`, `pif_plugin_get_acceptor_end_time` -/
def handle_phase2a (c : Clock) (P : Plugin) (paxos : Bytes) : Option (Plugin × Option Bytes) := do
  let paxos := stamp 92 c.start paxos
  let (P, p) ← P.phase2a (PaxosT.read paxos)
  return (P, p.map fun p => stamp 100 c.stop (p.write paxos))

/-- Source: `netrodemo/cans.p4` `reset_paxos` -/
def reset_paxos (P : Plugin) (paxos : Bytes) : Option (Plugin × Option Bytes) :=
  some (P.reset_registers, some paxos)

/-- `modify_field(udp.checksum, 0)` A UDP datagram without a checksum is not tested by the receiver.
-/
def clearChecksum (udp : Bytes) : Bytes := udp.take 6 ++ beEncode 2 0

/-- The entries call the plugin; the three actions that rewrite the Paxos header clear the UDP
checksum. Nothing else is defined for a packet without a Paxos header than that it is left alone.
Source: `netrodemo/cans.p4` `paxos_tbl`; `netrodemo/commands.rules` -/
def paxos_tbl (c : Clock) (P : Plugin) (hdr : Headers) : Option (Plugin × Option Headers) :=
  match hdr.paxos with
  | none => some (P, some hdr)
  | some paxos => do
      let msgtype := (PaxosT.read paxos).msgtype
      let (P, paxos) ←
        if msgtype = 1 then handle_phase1a P paxos
        else if msgtype = 3 then handle_phase2a c P paxos
        else if msgtype = 0 then increase_seq c P paxos
        else if msgtype = 255 then reset_paxos P paxos
        else some (P, some paxos)
      let udp := if msgtype = 1 ∨ msgtype = 3 ∨ msgtype = 0 then hdr.udp.map clearChecksum
        else hdr.udp
      return (P, paxos.map fun paxos => { hdr with udp := udp, paxos := some paxos })

/-- The two tables. -/
inductive Table
  | fwd_tbl
  | paxos_tbl
  deriving DecidableEq

/-- The table that is applied.
Source: `netrodemo/cans.p4` `ingress` -/
def applied (hdr : Headers) : Option Table :=
  if hdr.ipv6 = none then some .fwd_tbl
  else if hdr.paxos ≠ none then some .paxos_tbl
  else none

/-- The ingress control: the plugin's variables after it, and the headers and the egress port, if
one is set, of a packet that is not dropped.
Source: `netrodemo/cans.p4` `ingress` -/
def ingress {Port : Type} (F : Port → Option Port) (c : Clock) (P : Plugin) (ingress_port : Port)
    (hdr : Headers) : Option (Plugin × Option (Headers × Option Port)) :=
  match applied hdr with
  | some .fwd_tbl => some (P, some (fwd_tbl F c ingress_port hdr))
  | some .paxos_tbl => do
      let (P, hdr) ← paxos_tbl c P hdr
      return (P, hdr.map fun hdr => (hdr, none))
  | none => some (P, some (hdr, none))

/-- A frame, the port it came in by, and the time. -/
structure Input (Port : Type) where
  ingress_port : Port
  clock : Clock
  frame : Bytes

/-- One frame through the pipeline: what leaves with which port, unless the packet is dropped. The
headers are written back in front of what followed them. -/
def pipeline {Port : Type} (F : Port → Option Port) (P : Plugin) (i : Input Port) :
    Option (Plugin × Option (Bytes × Option Port)) :=
  match start i.frame with
  | none => some (P, none)
  | some (hdr, payload) => do
      let (P, sent) ← ingress F i.clock P i.ingress_port hdr
      return (P, sent.map fun s => (s.1.ethernet ++ (s.1.arp.getD [] ++ (s.1.icmp.getD [] ++
        (s.1.ipv4.getD [] ++ (s.1.ipv6.getD [] ++ (s.1.udp.getD [] ++ (s.1.paxos.getD [] ++
          payload)))))), s.2))

/-! ## The table and the plugin -/

/-- The fields that are written are read back. -/
lemma PaxosT.read_write (p : PaxosT) (b : Bytes) : PaxosT.read (p.write b) = p := by
  obtain ⟨⟨val0, val1, val2, val3, val4, val5, val6, val7⟩, inst, rnd, vrnd, acpt, msgtype⟩ := p
  simp only [PaxosT.read, PaxosT.write, PaxosT.mk.injEq, Words.mk.injEq]
  refine ⟨⟨bits_of_slice (n := 4) rfl ?_, bits_of_slice (n := 4) rfl ?_,
    bits_of_slice (n := 4) rfl ?_, bits_of_slice (n := 4) rfl ?_, bits_of_slice (n := 4) rfl ?_,
    bits_of_slice (n := 4) rfl ?_, bits_of_slice (n := 4) rfl ?_, bits_of_slice (n := 4) rfl ?_⟩,
    bits_of_slice (n := 4) rfl ?_, bits_of_slice (n := 2) rfl ?_, bits_of_slice (n := 2) rfl ?_,
    bits_of_slice (n := 2) rfl ?_, bits_of_slice (n := 2) rfl ?_⟩ <;>
    simp [slice_append_right, slice_append_left, slice_all]

/-- The fields that the plugin works with lie in front of the time stamps. -/
lemma PaxosT.read_stamp {off : ℕ} (hoff : 44 ≤ off) (t : BitVec 64) {b : Bytes}
    (hb : off ≤ b.length) : PaxosT.read (stamp off t b) = PaxosT.read b := by
  have hfield : ∀ w o, o + w / 8 ≤ 44 → bits w o (stamp off t b) = bits w o b := by
    intro w o ho
    have htake : (b.take off).length = off := List.length_take_of_le hb
    have hsplit : ∀ r, slice o (w / 8) (b.take off ++ r) = slice o (w / 8) (b.take off) :=
      slice_append_left (by omega)
    rw [bits, stamp, hsplit, ← hsplit (b.drop off), List.take_append_drop, bits]
  simp only [PaxosT.read]
  rw [hfield _ _ (by omega), hfield _ _ (by omega), hfield _ _ (by omega), hfield _ _ (by omega),
    hfield _ _ (by omega), hfield _ _ (by omega), hfield _ _ (by omega), hfield _ _ (by omega),
    hfield _ _ (by omega), hfield _ _ (by omega), hfield _ _ (by omega), hfield _ _ (by omega),
    hfield _ _ (by omega)]

/-- Writing the fields does not change the length. -/
@[simp] lemma PaxosT.length_write (p : PaxosT) {b : Bytes} (hb : 44 ≤ b.length) :
    (p.write b).length = b.length := by
  simp [PaxosT.write]
  omega

/-- **On a Paxos header the table does what the plugin does** with the fields. By the type, in the
order of the source. The time stamps lie behind the fields, so that reading the fields does not see
them. -/
theorem paxos_tbl_read (c : Clock) (P : Plugin) {hdr : Headers} {paxos : Bytes}
    (hpaxos : hdr.paxos = some paxos) (hlen : paxos.length = 108) :
    (paxos_tbl c P hdr).map (fun r => (r.1, r.2.bind fun hdr => hdr.paxos.map PaxosT.read)) =
      P.paxos_tbl (PaxosT.read paxos) := by
  have hstart : PaxosT.read (stamp 92 c.start paxos) = PaxosT.read paxos :=
    PaxosT.read_stamp (by omega) _ (by omega)
  have hstart' : PaxosT.read (stamp 76 c.start paxos) = PaxosT.read paxos :=
    PaxosT.read_stamp (by omega) _ (by omega)
  have hlong : ∀ off, off + 8 ≤ 108 → (stamp off c.start paxos).length = 108 := by
    intro off hoff
    simp only [stamp, List.length_append, List.length_take, List.length_drop, length_beEncode]
    omega
  have hstop : ∀ (p : PaxosT) (off off' : ℕ), 44 ≤ off → off ≤ 108 → off' + 8 ≤ 108 →
      PaxosT.read (stamp off c.stop (p.write (stamp off' c.start paxos))) = p := by
    intro p off off' hoff hle hle'
    have hl := hlong off' hle'
    rw [PaxosT.read_stamp hoff _ (by rw [p.length_write (by omega)]; omega), p.read_write]
  unfold paxos_tbl Plugin.paxos_tbl
  simp only [hpaxos]
  by_cases h₁ : (PaxosT.read paxos).msgtype = 1
  · rw [if_pos h₁, if_pos h₁, handle_phase1a]
    rcases P.phase1a (PaxosT.read paxos) with _ | ⟨P', _ | p⟩
    · rfl
    · rfl
    · simp [PaxosT.read_write]
  · rw [if_neg h₁, if_neg h₁]
    by_cases h₃ : (PaxosT.read paxos).msgtype = 3
    · rw [if_pos h₃, if_pos h₃, handle_phase2a]
      simp only [hstart]
      rcases P.phase2a (PaxosT.read paxos) with _ | ⟨P', _ | p⟩
      · rfl
      · rfl
      · simp [hstop p 100 92]
    · rw [if_neg h₃, if_neg h₃]
      by_cases h₀ : (PaxosT.read paxos).msgtype = 0
      · rw [if_pos h₀, if_pos h₀, increase_seq]
        simp [hstart', hstop _ 84 76]
      · rw [if_neg h₀, if_neg h₀]
        by_cases hreset : (PaxosT.read paxos).msgtype = 255
        · rw [if_pos hreset, if_pos hreset, reset_paxos]
          rfl
        · rw [if_neg hreset, if_neg hreset]
          rfl

/-! ## Which headers are valid together -/

/-- A header is extracted when there are bytes enough, and is those bytes. The rest is what follows
them. -/
lemma extract_eq_some {n : ℕ} {b : Bytes} {r : Bytes × Bytes} :
    extract n b = some r ↔ n ≤ b.length ∧ r = (b.take n, b.drop n) := by
  unfold extract
  by_cases h : b.length < n
  · rw [if_pos h]
    apply iff_of_false
    · intro hr
      cases hr
    · intro hr
      omega
  · rw [if_neg h, Option.some_inj]
    constructor
    · intro hr
      exact ⟨by omega, hr.symm⟩
    · intro hr
      exact hr.2.symm

section

variable {hdr : Headers} {b : Bytes} {q : Headers × Bytes}

/-- Behind the UDP header, a Paxos header is extracted exactly if the port says so. The frame is
refused when the port says so and the bytes do not suffice. -/
lemma parse_udp_valid (hpaxos : hdr.paxos = none) (h : parse_udp hdr b = some q) :
    q.1.ipv6 = hdr.ipv6 ∧
      (q.1.paxos ≠ none ↔ 116 ≤ b.length ∧ bits 16 2 b = PAXOS_PROTOCOL) := by
  obtain ⟨r, hr, h⟩ := Option.bind_eq_some_iff.mp h
  obtain ⟨hlen, rfl⟩ := extract_eq_some.mp hr
  simp only [bits_take (show 2 + 16 / 8 ≤ 8 by decide)] at h
  split_ifs at h with hport
  · obtain ⟨r, hr, h⟩ := Option.bind_eq_some_iff.mp h
    obtain ⟨hlen', rfl⟩ := extract_eq_some.mp hr
    obtain rfl := Option.some_inj.mp h
    rw [List.length_drop] at hlen'
    exact ⟨rfl, iff_of_true (Option.some_ne_none _) ⟨by omega, hport⟩⟩
  · obtain rfl := Option.some_inj.mp h
    exact ⟨rfl, iff_of_false (fun h => h hpaxos) (fun h => hport h.2)⟩

/-- So it is behind the IPv4 header, where the protocol has to be UDP. The lengths and offsets are
those behind the UDP header, 20 bytes on. -/
lemma parse_ipv4_valid (hpaxos : hdr.paxos = none) (h : parse_ipv4 hdr b = some q) :
    q.1.ipv6 = hdr.ipv6 ∧
      (q.1.paxos ≠ none ↔
        136 ≤ b.length ∧ bits 8 9 b = UDP_PROTOCOL ∧ bits 16 22 b = PAXOS_PROTOCOL) := by
  obtain ⟨r, hr, h⟩ := Option.bind_eq_some_iff.mp h
  obtain ⟨hlen, rfl⟩ := extract_eq_some.mp hr
  simp only [bits_take (show 9 + 8 / 8 ≤ 20 by decide)] at h
  split_ifs at h with hproto
  · obtain ⟨hipv6, hiff⟩ := parse_udp_valid (by exact hpaxos) h
    refine ⟨hipv6, hiff.trans ?_⟩
    rw [List.length_drop, bits_drop]
    constructor
    · rintro ⟨hlen', hport⟩
      exact ⟨by omega, hproto, hport⟩
    · rintro ⟨hlen', -, hport⟩
      exact ⟨by omega, hport⟩
  · obtain rfl := Option.some_inj.mp h
    exact ⟨rfl, iff_of_false (fun h => h hpaxos) (fun h => hproto h.2.1)⟩

/-- The frame is Paxos in UDP in IPv4, with enough bytes for the four headers. -/
def IsPaxos (b : Bytes) : Prop :=
  150 ≤ b.length ∧ bits 16 12 b = ETHERTYPE_IPV4 ∧ bits 8 23 b = UDP_PROTOCOL ∧
    bits 16 36 b = PAXOS_PROTOCOL

/-- A length and three fields. -/
instance (b : Bytes) : Decidable (IsPaxos b) := inferInstanceAs (Decidable (_ ∧ _))

/-- **The headers that are valid together**: a Paxos header is extracted from the Paxos frames and
from no others, and never beside an IPv6 header. The positions are those in the frame: type,
protocol and destination port. -/
theorem start_valid (h : start b = some q) :
    (q.1.paxos ≠ none ↔ IsPaxos b) ∧ (q.1.ipv6 ≠ none → q.1.paxos = none) := by
  obtain ⟨r, hr, h⟩ := Option.bind_eq_some_iff.mp h
  obtain ⟨hlen, rfl⟩ := extract_eq_some.mp hr
  simp only [bits_take (show 12 + 16 / 8 ≤ 14 by decide)] at h
  have hother : q.1.paxos = none → bits 16 12 b ≠ ETHERTYPE_IPV4 →
      (q.1.paxos ≠ none ↔ IsPaxos b) ∧ (q.1.ipv6 ≠ none → q.1.paxos = none) := by
    intro hnone htype
    exact ⟨iff_of_false (fun h => h hnone) (fun h => htype h.2.1), fun _ => hnone⟩
  split_ifs at h with harp hicmp hipv4 hipv6
  · obtain ⟨r, -, h⟩ := Option.bind_eq_some_iff.mp h
    obtain rfl := Option.some_inj.mp h
    exact hother rfl (by rw [harp]; decide)
  · obtain ⟨r, -, h⟩ := Option.bind_eq_some_iff.mp h
    obtain rfl := Option.some_inj.mp h
    exact hother rfl (by rw [hicmp]; decide)
  · obtain ⟨hsame, hiff⟩ := parse_ipv4_valid rfl h
    refine ⟨hiff.trans ?_, fun h => absurd hsame h⟩
    rw [List.length_drop, bits_drop, bits_drop, IsPaxos]
    constructor
    · rintro ⟨hlen', hproto, hport⟩
      exact ⟨by omega, hipv4, hproto, hport⟩
    · rintro ⟨hlen', -, hproto, hport⟩
      exact ⟨by omega, hproto, hport⟩
  · obtain ⟨r, -, h⟩ := Option.bind_eq_some_iff.mp h
    obtain rfl := Option.some_inj.mp h
    exact hother rfl (by rw [hipv6]; decide)
  · obtain rfl := Option.some_inj.mp h
    exact hother rfl hipv4

/-! ## What is applied -/

/-- **`paxos_tbl` is out of reach.** -/
lemma applied_ne_paxos_tbl (h : start b = some q) : applied q.1 ≠ some .paxos_tbl := by
  obtain ⟨-, hnot⟩ := start_valid h
  unfold applied
  by_cases hipv6 : q.1.ipv6 = none
  · rw [if_pos hipv6]
    decide
  · rw [if_neg hipv6, if_neg (not_not.mpr (hnot hipv6))]
    decide

/-- **The dispatch is right** on the frames without a Paxos header, and on no others. So it is wrong
on every Paxos frame, whatever its fields. -/
theorem dispatch_iff (h : start b = some q) :
    (applied q.1 = some .paxos_tbl ↔ q.1.paxos ≠ none) ↔ ¬ IsPaxos b := by
  have hnot := applied_ne_paxos_tbl h
  rw [← (start_valid h).1]
  constructor
  · intro hiff hpaxos
    exact hnot (hiff.mpr hpaxos)
  · intro hpaxos
    exact iff_of_false hnot hpaxos

end

/-- A 1A of round 1. -/
def prepareFrame : Bytes :=
  List.replicate 12 0 ++ ([0x08, 0x00, 0x45] ++ (List.replicate 8 0 ++ (0x11 ::
    (List.replicate 12 0 ++ ([0x88, 0x88, 0x00, 0x74, 0x00, 0x00] ++
      ([0, 0, 0, 0, 0, 1, 0, 0, 0, 0, 0, 1] ++ List.replicate 96 0))))))

/-- Its headers. -/
def prepareHeaders : Headers where
  ethernet := slice 0 14 prepareFrame
  ipv4 := some (slice 14 20 prepareFrame)
  ipv6 := none
  arp := none
  icmp := none
  udp := some (slice 34 8 prepareFrame)
  paxos := some (slice 42 108 prepareFrame)

/-- The dispatch of the 1A. -/
theorem dispatch_prepare :
    (applied prepareHeaders = some .paxos_tbl ↔ prepareHeaders.paxos ≠ none) ↔
      ¬ IsPaxos prepareFrame :=
  dispatch_iff (b := prepareFrame) (q := (prepareHeaders, [])) (by decide +kernel)

/-- The 1A has a Paxos header, and does not reach the plugin. -/
theorem prepare_not_dispatched :
    ¬ ∀ (b : Bytes) (q : Headers × Bytes), start b = some q →
      (applied q.1 = some .paxos_tbl ↔ q.1.paxos ≠ none) := by
  intro h
  have hiff := h prepareFrame (prepareHeaders, []) (by decide +kernel)
  exact absurd (hiff.mpr (by decide)) (by decide)

/-! ## Whole runs -/

/-- One frame leaves the plugin alone. The plugin's table is applied only to a packet with both an
IPv6 header and a Paxos header, and no frame that the parser accepts has both. -/
lemma pipeline_plugin {Port : Type} (F : Port → Option Port) (P : Plugin) (i : Input Port) :
    ∃ o, pipeline F P i = some (P, o) := by
  unfold pipeline
  cases hstart : start i.frame with
  | none => exact ⟨none, rfl⟩
  | some q =>
      have hnot := applied_ne_paxos_tbl hstart
      obtain ⟨hdr, payload⟩ := q
      simp only [ingress]
      cases happlied : applied hdr with
      | none => exact ⟨_, rfl⟩
      | some t =>
          cases t with
          | fwd_tbl => exact ⟨_, rfl⟩
          | paxos_tbl => exact absurd happlied hnot

/-- **The plugin is never called**: no access of it is undefined, and its variables stay as they
are, over every sequence of frames. -/
theorem plugin_never_called {Port : Type} (F : Port → Option Port) (P : Plugin)
    (is : List (Input Port)) : ∃ os, Plugin.run (pipeline F) P is = some (P, os) := by
  induction is with
  | nil => exact ⟨[], rfl⟩
  | cons i is ih =>
      obtain ⟨o, ho⟩ := pipeline_plugin F P i
      obtain ⟨os, hos⟩ := ih
      refine ⟨o :: os, ?_⟩
      rw [Plugin.run, ho, Option.bind_eq_bind, Option.bind_some]
      simp only [hos]
      rfl

end P4xos.Netro
