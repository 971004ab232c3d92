import P4xos.Dpdk.Coordinator
import P4xos.Lib.Numbering
import P4xos.Netro.Plugin
import P4xos.P4v14.Coordinator
import P4xos.P4v16.Leader
import P4xos.P4v16.Parser

/-!
# The four coordinators

The P4-14 coordinator, the P4-16 leader, the sequencer of the Netronome plugin and the DPDK
coordinator as sequencers. All of them count; the first three count the packets of one message type,
which their table entries select.

* The counters of the two switches are incremented before they are used, so both number the requests
  from 1. The plugin's counter starts from 0 too, and is incremented after.
* The DPDK coordinator starts from 1 and counts every packet it is sent.
* `coordinators_number_iff`: so the switches number all streams as they should, the plugin no stream
  with a request, and the DPDK coordinator those with nothing but requests.
-/

namespace P4xos.Equiv

open P4xos.Lib

namespace Coordinators

/-! ## The P4-14 coordinator -/

/-- The P4-14 coordinator on packets with a Paxos header. -/
def seq14 : Sequencer P4v14.Coordinator P4v14.PaxosT P4v14.PaxosT where
  step := P4v14.Coordinator.ingress
  request p := p.msgtype = P4v14.PAXOS_2A
  arrives p := p.inst.toNat
  leaves p := some (some p.inst.toNat)
  counter C := some C.instance_register.toNat

/-- The register counts the requests. A request adds one to the register and takes the new count;
any other packet is passed on as it came. -/
lemma counts14 : seq14.Counts (fun _ => True) seq14.request 1 (2 ^ 16 - 1)
    (fun n C => C.instance_register.toNat = n) where
  request _ h := h
  take n C p _ hn hlt ht := by
    have htype : p.msgtype = P4v14.PAXOS_2A := of_decide_eq_true ht
    have hnext : (C.instance_register + 1).toNat = n + 1 := by
      rw [← hn]
      exact toNat_add_ofNat (k := 1) (by omega)
    change (P4v14.Coordinator.ingress C p).1.instance_register.toNat = n + 1 ∧
      some (some (P4v14.Coordinator.ingress C p).2.inst.toNat) = some (some (1 + n)) ∧
      some (P4v14.Coordinator.ingress C p).1.instance_register.toNat ≠
        some C.instance_register.toNat
    rw [P4v14.Coordinator.ingress_request htype]
    refine ⟨hnext, by rw [hnext, Nat.add_comm], fun heq => ?_⟩
    have hsame : (C.instance_register + 1).toNat = C.instance_register.toNat := Option.some_inj.mp heq
    omega
  pass n C p _ hn ht := by
    have htype : ¬ p.msgtype = P4v14.PAXOS_2A := of_decide_eq_false ht
    have hpass : seq14.step C p = (C, p) := if_neg htype
    rw [hpass]
    exact ⟨hn, .inr rfl, rfl⟩

/-! ## The P4-16 leader -/

/-- The P4-16 leader on parsed packets, with the entries `T` in `transport_tbl`. -/
def seq16 (T : BitVec 1 → P4v16.Acceptor.Transport) :
    Sequencer (BitVec 32) P4v16.Headers P4v16.Headers where
  step r hdr :=
    let out := P4v16.Leader.ingress T r hdr (P4v16.verifyChecksum hdr)
    (out.1, out.2.1)
  request hdr := hdr.paxos.any fun p => p.msgtype = P4v16.PAXOS_2A
  arrives hdr := hdr.paxos.elim 0 fun p => p.inst.toNat
  leaves hdr := some (hdr.paxos.map fun p => p.inst.toNat)
  counter r := some r.toNat

/-- A packet with a Paxos header, and not for `reset_instance`. The parser extracts a Paxos header
only behind an IPv4 header. -/
def NoReset16 (hdr : P4v16.Headers) : Prop :=
  hdr.ipv4.isSome = true ∧ ∃ p, hdr.paxos = some p ∧ p.msgtype ≠ 5

/-- A packet that `leader_tbl` has no entry for keeps its header, and the register. -/
lemma ingress_pass (T : BitVec 1 → P4v16.Acceptor.Transport) (r : BitVec 32) {hdr : P4v16.Headers}
    (e : P4v16.Egress) {p : P4v16.PaxosT} (hpx : hdr.paxos = some p)
    (h₂ : p.msgtype ≠ P4v16.PAXOS_2A) (h₅ : p.msgtype ≠ 5) :
    (P4v16.Leader.ingress T r hdr e).1 = r ∧
      (P4v16.Leader.ingress T r hdr e).2.1.paxos = some p := by
  unfold P4v16.Leader.ingress
  cases hdr.ipv4 with
  | none => exact ⟨rfl, hpx⟩
  | some ip =>
      simp only [hpx]
      rw [P4v16.Leader.leader_tbl, if_neg h₂, if_neg h₅, P4v16.Leader.transport_tbl]
      cases T (P4v16.Leader._drop ⟨r, hdr.udp, p, 0, e⟩).set_drop <;> exact ⟨rfl, rfl⟩

/-- The register counts the requests. It starts from 0 and is increased before it is written, so the
first request gets 1. -/
lemma counts16 (T : BitVec 1 → P4v16.Acceptor.Transport) :
    (seq16 T).Counts NoReset16 (seq16 T).request 1 (2 ^ 16 - 1) (fun n r => r.toNat = n) where
  request _ h := h
  take n r hdr hok hn hlt ht := by
    obtain ⟨hip, p, hpx, -⟩ := hok
    obtain ⟨ip, hip⟩ := Option.isSome_iff_exists.mp hip
    have htype : p.msgtype = P4v16.PAXOS_2A := by simpa [seq16, hpx] using ht
    have hnext : (r + 1).toNat = n + 1 := by
      rw [← hn]
      exact toNat_add_ofNat (k := 1) (by omega)
    obtain ⟨hr, hout⟩ :=
      P4v16.Leader.ingress_request T r (P4v16.verifyChecksum hdr) hip hpx htype
    simp only [seq16]
    rw [hr, hout, Option.map_some, hnext, Nat.add_comm 1 n]
    refine ⟨rfl, rfl, fun heq => ?_⟩
    have hsame := Option.some_inj.mp heq
    omega
  pass n r hdr hok hn ht := by
    obtain ⟨-, p, hpx, h₅⟩ := hok
    have h₂ : p.msgtype ≠ P4v16.PAXOS_2A := by simpa [seq16, hpx] using ht
    obtain ⟨hr, hout⟩ := ingress_pass T r (P4v16.verifyChecksum hdr) hpx h₂ h₅
    simp only [seq16]
    rw [hr, hout, hpx]
    exact ⟨hn, .inr rfl, rfl⟩

/-! ## The plugin -/

/-- The plugin under the entries of `paxos_tbl`, for as long as its behaviour is defined. -/
def seqNetro : Sequencer (Option Netro.Plugin) Netro.PaxosT (Option (Option Netro.PaxosT)) where
  step s p :=
    match s.bind fun P => P.paxos_tbl p with
    | none => (none, none)
    | some (P, out) => (some P, some out)
  request p := p.msgtype = Netro.Phase0
  arrives p := p.inst.toNat
  leaves out := out.map fun o => o.map fun p => p.inst.toNat
  counter s := s.map fun P => P.cur_instance.toNat

/-- An acceptor packet is for an instance inside the arrays. Only those two functions index the
arrays with the instance. -/
def Inside (p : Netro.PaxosT) : Prop :=
  p.msgtype = 1 ∨ p.msgtype = 3 → p.inst.toNat < Netro.MAX_INST

/-- A defined packet is inside the arrays. Outside the arrays the reads and writes of the plugin are
undefined, and then nothing leaves. -/
lemma inside_of_leaves {s : Option Netro.Plugin} {p : Netro.PaxosT}
    (h : seqNetro.leaves (seqNetro.step s p).2 ≠ none) : Inside p := by
  intro htype
  by_contra hlt
  apply h
  cases s with
  | none => rfl
  | some P =>
      have htbl : P.paxos_tbl p = none := by
        rcases htype with ht | ht
        · rw [Netro.Plugin.paxos_tbl, if_pos ht]
          exact P.call_eq_none (c := .phase1a p) hlt
        · have h₁ : ¬ p.msgtype = 1 := by simp [ht]
          rw [Netro.Plugin.paxos_tbl, if_neg h₁, if_pos ht]
          exact P.call_eq_none (c := .phase2a p) hlt
      simp [seqNetro, htbl]

/-- What one packet does to the counter, and to the instance of a packet that is not a request. The
acceptor's two actions keep the counter, and neither assigns `inst`; every other type is passed on.
-/
lemma paxos_tbl_other (P : Netro.Plugin) {p : Netro.PaxosT} (hreset : p.msgtype ≠ 255)
    (hin : Inside p) (h₀ : p.msgtype ≠ 0) :
    ∃ P' out, P.paxos_tbl p = some (P', out) ∧ P'.cur_instance = P.cur_instance ∧
      (out = none ∨ ∃ p', out = some p' ∧ p'.inst = p.inst) := by
  unfold Netro.Plugin.paxos_tbl
  by_cases h₁ : p.msgtype = 1
  · rw [if_pos h₁, Netro.Plugin.phase1a_eq P (hin (.inl h₁))]
    split_ifs
    · exact ⟨_, _, rfl, rfl, .inl rfl⟩
    · exact ⟨_, _, rfl, rfl, .inr ⟨_, rfl, rfl⟩⟩
  · rw [if_neg h₁]
    by_cases h₃ : p.msgtype = 3
    · rw [if_pos h₃, Netro.Plugin.phase2a_eq P (hin (.inr h₃))]
      split_ifs
      · exact ⟨_, _, rfl, rfl, .inl rfl⟩
      · exact ⟨_, _, rfl, rfl, .inr ⟨_, rfl, rfl⟩⟩
    · rw [if_neg h₃, if_neg h₀, if_neg hreset]
      exact ⟨_, _, rfl, rfl, .inr ⟨_, rfl, rfl⟩⟩

/-- The counter counts the requests, and the first one gets 0. It is written before it is increased.
-/
lemma countsNetro :
    seqNetro.Counts (fun p => p.msgtype ≠ 255 ∧ Inside p) seqNetro.request 0 (2 ^ 16 - 1)
      (fun n s => ∃ P, s = some P ∧ P.cur_instance.toNat = n) where
  request _ h := h
  take n s p _ hn hlt ht := by
    obtain ⟨P, rfl, hP⟩ := hn
    have htype : p.msgtype = 0 := of_decide_eq_true ht
    have hstep : seqNetro.step (some P) p =
        (some (P.seq_func p).1, some (some (P.seq_func p).2)) := by
      simp [seqNetro, Netro.Plugin.paxos_tbl, htype]
    have hnext : (P.cur_instance + 1).toNat = n + 1 := by
      rw [← hP]
      exact toNat_add_ofNat (k := 1) (by omega)
    rw [hstep]
    refine ⟨⟨_, rfl, hnext⟩, by simp [seqNetro, Netro.Plugin.seq_func, hP], fun heq => ?_⟩
    have hsame : (P.cur_instance + 1).toNat = P.cur_instance.toNat := Option.some_inj.mp heq
    omega
  pass n s p hok hn ht := by
    obtain ⟨P, rfl, hP⟩ := hn
    have h₀ : p.msgtype ≠ 0 := of_decide_eq_false ht
    obtain ⟨P', out, htbl, hcount, hout⟩ := paxos_tbl_other P hok.1 hok.2 h₀
    have hstep : seqNetro.step (some P) p = (some P', some out) := by simp [seqNetro, htbl]
    rw [hstep]
    refine ⟨⟨P', rfl, by rw [hcount, hP]⟩, ?_, ?_⟩
    · rcases hout with rfl | ⟨p', rfl, hinst⟩
      · exact .inl rfl
      · exact .inr (by simp [seqNetro, hinst])
    · show some P'.cur_instance.toNat = some P.cur_instance.toNat
      rw [hcount]

/-! ## The DPDK coordinator -/

/-- The DPDK coordinator; its clients send requests as `PAXOS_ACCEPT`. -/
def seqDpdk (h : Dpdk.Host) : Sequencer Dpdk.Coordinator Dpdk.Received (Option Dpdk.Mbuf) where
  step := Dpdk.Coordinator.paxos_rx_process h
  request x := x.pkt.field 16 42 = Dpdk.PaxosMessageType.PAXOS_ACCEPT.code
  arrives x := (x.pkt.field 32 44).toNat
  leaves out := some (out.map fun m => (m.field 32 44).toNat)
  counter C := some C.cur_inst.toNat

/-- The counter counts all packets. -/
lemma countsDpdk (h : Dpdk.Host) :
    (seqDpdk h).Counts Dpdk.Coordinator.IsPaxos (fun _ => true) 1 (2 ^ 16 - 1)
      (fun n C => C.cur_inst.toNat = 1 + n) where
  request _ _ := rfl
  take n C x hok hn hlt _ := by
    obtain ⟨hnext, m, hm, hinst, -, -⟩ := Dpdk.Coordinator.rx_process_udp h C hok
    have hmoved : (C.cur_inst + 1).toNat = C.cur_inst.toNat + 1 := toNat_add_ofNat (k := 1) (by omega)
    simp only [seqDpdk]
    rw [hnext, hm, Option.map_some, hinst, hmoved, hn]
    refine ⟨Nat.add_assoc 1 n 1, rfl, fun heq => ?_⟩
    have hsame := Option.some_inj.mp heq
    omega
  pass n C x _ _ ht := by cases ht

/-! ## All four -/

/-- The first 16-bit instance numbers are enough for the stream. -/
lemma length_le {P : Type*} {ps : List P} (h : ps.length < 2 ^ 16) : ps.length ≤ 2 ^ 16 - 1 := by
  omega

/-- A counter of the requests that gives the first one number 1. -/
lemma numbers_of_counts {S P O : Type*} {q : Sequencer S P O} {ok : P → Prop} {bound : ℕ}
    {R : ℕ → S → Prop} (h : q.Counts ok q.request 1 bound R) {s : S} (hs : R 0 s) {ps : List P}
    (hok : ∀ p ∈ ps, ok p) (hlen : ps.length ≤ bound) : q.Numbers s ps := by
  rw [h.numbers_iff hs hok hlen]
  intro pre p post hps
  cases hr : q.request p with
  | true => simp [Nat.add_comm]
  | false => rw [if_neg Bool.false_ne_true]

/-- The plugin's first request gets 0. A single request has the wrong number then, and a packet
outside the arrays makes the plugin undefined. -/
lemma numbersNetro_iff {ps : List Netro.PaxosT} (hlen : ps.length < 2 ^ 16)
    (hreset : ∀ p ∈ ps, p.msgtype ≠ 255) :
    seqNetro.Numbers (some Netro.Plugin.init) ps ↔
      ∀ p ∈ ps, seqNetro.request p = false ∧ Inside p := by
  have hs : ∃ P, some Netro.Plugin.init = some P ∧ P.cur_instance.toNat = 0 := ⟨_, rfl, rfl⟩
  constructor
  · intro h
    have hinside : ∀ p ∈ ps, Inside p := by
      intro p hp
      obtain ⟨pre, post, hps⟩ := List.append_of_mem hp
      have hout := h pre p post hps
      apply inside_of_leaves (s := after seqNetro.step (some Netro.Plugin.init) pre)
      intro hnone
      simp only [hnone] at hout
      split_ifs at hout
      rcases hout.1 with hout | hout <;> cases hout
    intro p hp
    refine ⟨?_, hinside p hp⟩
    rw [countsNetro.numbers_iff hs (fun p hp => ⟨hreset p hp, hinside p hp⟩) (length_le hlen)] at h
    obtain ⟨pre, post, hps⟩ := List.append_of_mem hp
    have hnumber := h pre p post hps
    by_contra hr
    rw [if_pos (Bool.of_not_eq_false hr)] at hnumber
    omega
  · intro h
    rw [countsNetro.numbers_iff hs (fun p hp => ⟨hreset p hp, (h p hp).2⟩) (length_le hlen)]
    intro pre p post hps
    have hr := (h p (by simp [hps])).1
    simp [hr]

/-- The DPDK coordinator numbers every packet, so nothing else may be in the stream. A packet that
is no request would have to leave the counter as it is, and does not. If all are requests, the
counter at each is the number of those before it. -/
lemma numbersDpdk_iff (h : Dpdk.Host) {ps : List Dpdk.Received} (hlen : ps.length < 2 ^ 16)
    (hok : ∀ x ∈ ps, Dpdk.Coordinator.IsPaxos x) :
    (seqDpdk h).Numbers Dpdk.Coordinator.init ps ↔ ∀ x ∈ ps, (seqDpdk h).request x = true := by
  rw [(countsDpdk h).numbers_iff rfl hok (length_le hlen)]
  constructor
  · intro hnumbers x hx
    obtain ⟨pre, post, hps⟩ := List.append_of_mem hx
    have hone := hnumbers pre x post hps
    by_contra hother
    rw [if_neg hother] at hone
    cases hone
  · intro hall pre x post hps
    have hpre : pre.countP (seqDpdk h).request = pre.length := by
      rw [List.countP_eq_length]
      intro y hy
      exact hall y (hps ▸ List.mem_append_left _ hy)
    rw [if_pos (hall x (by simp [hps])), List.countP_true, hpre, Nat.add_comm]

/-- **The coordinators on streams of fewer than `2^16` packets without resets.** The switches give
the `k`-th request number `k` and let everything else pass, with the counter as it was. The plugin
does exactly when there are no requests, and no access outside its arrays; the DPDK coordinator
exactly when there is nothing but requests. A stream of `2^16` requests is one too long for all of
them: the 16-bit counter is back at its start. -/
theorem coordinators_number_iff (T : BitVec 1 → P4v16.Acceptor.Transport) (h : Dpdk.Host)
    (ps14 : List P4v14.PaxosT) (ps16 : List P4v16.Headers) (psNetro : List Netro.PaxosT)
    (psDpdk : List Dpdk.Received) :
    (ps14.length < 2 ^ 16 → seq14.Numbers P4v14.Coordinator.init ps14) ∧
    (ps16.length < 2 ^ 16 → (∀ hdr ∈ ps16, NoReset16 hdr) → (seq16 T).Numbers 0 ps16) ∧
    (psNetro.length < 2 ^ 16 → (∀ p ∈ psNetro, p.msgtype ≠ 255) →
      (seqNetro.Numbers (some Netro.Plugin.init) psNetro ↔
        ∀ p ∈ psNetro, seqNetro.request p = false ∧ Inside p)) ∧
    (psDpdk.length < 2 ^ 16 → (∀ x ∈ psDpdk, Dpdk.Coordinator.IsPaxos x) →
      ((seqDpdk h).Numbers Dpdk.Coordinator.init psDpdk ↔
        ∀ x ∈ psDpdk, (seqDpdk h).request x = true)) := by
  refine ⟨?_, ?_, ?_, ?_⟩
  · intro hlen
    exact numbers_of_counts counts14 rfl (fun _ _ => trivial) (length_le hlen)
  · intro hlen hok
    exact numbers_of_counts (counts16 T) rfl hok (length_le hlen)
  · intro hlen hreset
    exact numbersNetro_iff hlen hreset
  · intro hlen hok
    exact numbersDpdk_iff h hlen hok

/-- A packet of the given type for the plugin. -/
def packetNetro (msgtype : BitVec 16) : Netro.PaxosT where
  toWords := Netro.Words.ofNat 0x11223344
  inst := 0
  rnd := 1
  vrnd := 0
  acpt := 0
  msgtype := msgtype

/-- A packet for the DPDK coordinator with a message of the given type. -/
def packetDpdk (type : Dpdk.PaxosMessageType) : Dpdk.Received where
  pkt := Dpdk.add_paxos_message Dpdk.host { Dpdk.accept2a 0 with type := type } Dpdk.emptyMbuf 12345
    Dpdk.COORDINATOR_PORT Dpdk.COORDINATOR_ADDR
  tunnel := false

/-- The fields of such a packet that the coordinator looks at. They lie in the headers and at the
start of the message, which `add_paxos_message` writes. -/
lemma packetDpdk_fields (type : Dpdk.PaxosMessageType) :
    Dpdk.Coordinator.IsPaxos (packetDpdk type) ∧
      (packetDpdk type).pkt.field 16 42 = type.code := by
  have hroom : 14 + 20 + 8 + Dpdk.sizeof_paxos_message + 0 ≤ Dpdk.emptyMbuf.room.toNat := by decide
  let x : Dpdk.Send := ⟨Dpdk.host, { Dpdk.accept2a 0 with type := type }, Dpdk.emptyMbuf, 12345,
    Dpdk.COORDINATOR_PORT, Dpdk.COORDINATOR_ADDR, hroom⟩
  have hfield : ∀ w off, off + w / 8 ≤ 68 → x.sent.field w off = bits w off x.frame := by
    intro w off hoff
    refine (Dpdk.Mbuf.bits_frame ?_).symm
    rw [x.pkt_len_sent]
    omega
  obtain ⟨hether, hproto, hport⟩ := x.bits_frame_headers
  obtain ⟨htype, -⟩ := x.bits_frame_paxos
  rw [← hfield 16 12 (by omega)] at hether
  rw [← hfield 8 23 (by omega)] at hproto
  rw [← hfield 16 36 (by omega)] at hport
  rw [← hfield 16 42 (by omega)] at htype
  exact ⟨⟨hether, hproto, .inl hport⟩, htype⟩

/-- A header stack for the P4-16 leader with a message of the given type and instance. -/
def packet16 (msgtype : BitVec 16) (inst : BitVec 32) : P4v16.Headers where
  ethernet := ⟨1, 2, P4v16.ETHERTYPE_IPV4⟩
  ipv4 := some ⟨4, 5, 0, 84, 0, 0, 0, 64, P4v16.UDP_PROTOCOL, 0, 0x0A000001, 0x0A000002⟩
  udp := some ⟨12345, P4v16.PAXOS_PROTOCOL, 64, 0⟩
  paxos := some ⟨msgtype, inst, 0, 0, 0, 32, 7⟩

/-- Requests among other packets for the two switches, other packets for the plugin, and requests
for the DPDK coordinator. -/
theorem coordinators_number_mixed :
    seq14.Numbers P4v14.Coordinator.init
      [⟨P4v14.PAXOS_2A, 0, 0, 0, 0, 7⟩, ⟨P4v14.PAXOS_1A, 9, 1, 0, 0, 0⟩,
        ⟨P4v14.PAXOS_2A, 0, 0, 0, 0, 8⟩] ∧
    (seq16 fun _ => ._drop).Numbers 0 [packet16 P4v16.PAXOS_2A 0, packet16 P4v16.PAXOS_1B 5,
      packet16 P4v16.PAXOS_2A 0] ∧
    seqNetro.Numbers (some Netro.Plugin.init) [packetNetro Netro.Phase1B, packetNetro Netro.Phase2B] ∧
    (seqDpdk Dpdk.host).Numbers Dpdk.Coordinator.init
      [packetDpdk .PAXOS_ACCEPT, packetDpdk .PAXOS_ACCEPT] := by
  obtain ⟨h14, h16, hnetro, hdpdk⟩ := coordinators_number_iff (fun _ => ._drop) Dpdk.host
    [⟨P4v14.PAXOS_2A, 0, 0, 0, 0, 7⟩, ⟨P4v14.PAXOS_1A, 9, 1, 0, 0, 0⟩, ⟨P4v14.PAXOS_2A, 0, 0, 0, 0, 8⟩]
    [packet16 P4v16.PAXOS_2A 0, packet16 P4v16.PAXOS_1B 5, packet16 P4v16.PAXOS_2A 0]
    [packetNetro Netro.Phase1B, packetNetro Netro.Phase2B]
    [packetDpdk .PAXOS_ACCEPT, packetDpdk .PAXOS_ACCEPT]
  refine ⟨h14 (by decide), h16 (by decide) ?_, ?_, ?_⟩
  · intro hdr hhdr
    fin_cases hhdr <;> exact ⟨rfl, _, rfl, by decide⟩
  · rw [hnetro (by decide) (by decide)]
    intro p hp
    fin_cases hp <;> exact ⟨by decide, fun _ => by decide⟩
  · obtain ⟨hpaxos, htype⟩ := packetDpdk_fields .PAXOS_ACCEPT
    rw [hdpdk (by decide) (by simpa using hpaxos)]
    intro x hx
    have hrequest : (seqDpdk Dpdk.host).request (packetDpdk .PAXOS_ACCEPT) = true :=
      decide_eq_true htype
    fin_cases hx <;> exact hrequest

/-- The plugin's first request gets 0, and the DPDK coordinator numbers a prepare. Both are read off
the exact conditions. -/
theorem coordinators_number_differently :
    ¬ seqNetro.Numbers (some Netro.Plugin.init) [packetNetro Netro.Phase0] ∧
    ¬ (seqDpdk Dpdk.host).Numbers Dpdk.Coordinator.init
      [packetDpdk .PAXOS_PREPARE, packetDpdk .PAXOS_ACCEPT] := by
  constructor
  · rw [numbersNetro_iff (by decide) (by decide)]
    intro h
    exact Bool.false_ne_true (h _ List.mem_cons_self).1.symm
  · obtain ⟨hprepare, hptype⟩ := packetDpdk_fields .PAXOS_PREPARE
    obtain ⟨haccept, -⟩ := packetDpdk_fields .PAXOS_ACCEPT
    rw [numbersDpdk_iff _ (by decide) (by simpa using ⟨hprepare, haccept⟩)]
    intro h
    have hfirst := of_decide_eq_true (h _ List.mem_cons_self)
    rw [hptype] at hfirst
    revert hfirst
    decide

end Coordinators

end P4xos.Equiv
