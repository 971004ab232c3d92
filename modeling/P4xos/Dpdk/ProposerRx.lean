import P4xos.Dpdk.Proposer

/-!
# The decoder of the DPDK proposer

`dpdk/proposer/main.c`: `paxos_rx_process` is a fourth decoder beside those of the learner, the
backup and the acceptor. It finds the headers with `parse_ethernet`, which also knows a VLAN tag and
IPv6, and reads the length of the value, a field of 32 bits, with the helper for 16 bits.

* `parse_ethernet_frame` and `value_len_frame`: what it finds in a frame of `add_paxos_message`: the
  headers where they are, and 0 for the length.
* `toNat_value_len`: of any length it reads the two high bytes. They are 0 in every value that fits
  a buffer.
* `paxos_rx_process_frame`: so the message is passed on with the other fields, and without its
  value.
* `passes_on_iff`: it is passed on as it was sent when it has no value, and is for one of the two
  ports or in a tunnel.

What the proposer of libpaxos does with the message is left out.
-/

namespace P4xos.Dpdk

open P4xos.Lib

/-! ## The headers in front -/

/-- The lengths of the headers, as far as they are used.
Source: `dpdk/include/utils.h` `union tunnel_offload_info` -/
structure TunnelOffloadInfo where
  outer_l2_len : ℕ
  outer_l3_len : ℕ
  deriving DecidableEq

/-- Source: `rte_ether.h`, used in `dpdk/lib/utils.c` -/
def ETHER_TYPE_IPv4 : BitVec 16 := 0x0800

/-- Source: `rte_ether.h`, used in `dpdk/lib/utils.c` -/
def ETHER_TYPE_IPv6 : BitVec 16 := 0x86DD

/-- Source: `rte_ether.h`, used in `dpdk/lib/utils.c` -/
def ETHER_TYPE_VLAN : BitVec 16 := 0x8100

/-- The lengths of the headers, and `l4_proto`.
Source: `dpdk/lib/utils.c` `parse_ethernet` -/
def parse_ethernet (pkt : Bytes) : TunnelOffloadInfo × BitVec 8 :=
  let (outer_l2_len, ethertype) :=
    if bits 16 12 pkt = ETHER_TYPE_VLAN then (14 + 4, bits 16 16 pkt) else (14, bits 16 12 pkt)
  if ethertype = ETHER_TYPE_IPv4 then (⟨outer_l2_len, 20⟩, bits 8 (outer_l2_len + 9) pkt)
  else if ethertype = ETHER_TYPE_IPv6 then (⟨outer_l2_len, 40⟩, bits 8 (outer_l2_len + 6) pkt)
  else (⟨outer_l2_len, 0⟩, 0)

/-- IPv4 without a tag. -/
lemma parse_ethernet_eq {pkt : Bytes} (htype : bits 16 12 pkt = 0x0800) :
    parse_ethernet pkt = (⟨14, 20⟩, bits 8 23 pkt) := by
  have hvlan : bits 16 12 pkt ≠ ETHER_TYPE_VLAN := by
    rw [htype]
    decide
  have hipv4 : bits 16 12 pkt = ETHER_TYPE_IPv4 := htype
  simp only [parse_ethernet, if_neg hvlan, if_pos hipv4]

/-- The headers of `craft_new_packet`. -/
lemma parse_ethernet_frame (x : Send) : parse_ethernet x.frame = (⟨14, 20⟩, 17) := by
  obtain ⟨htype, hproto, -⟩ := x.bits_frame_headers
  rw [parse_ethernet_eq htype, hproto]

/-! ## The length of the value -/

/-- The two bytes exchanged, on a little-endian host. -/
def rte_be_to_cpu_16 (x : BitVec 16) : BitVec 16 :=
  BitVec.ofNat 16 (x.toNat % 256 * 256 + x.toNat / 256)

/-- The exchange, byte by byte. -/
lemma toNat_rte_be_to_cpu_16 {a b : ℕ} (ha : a < 2 ^ 8) (hb : b < 2 ^ 8) {x : BitVec 16}
    (hx : x.toNat = b * 256 + a) : (rte_be_to_cpu_16 x).toNat = a * 256 + b := by
  have hmod : (b * 256 + a) % 256 = a := by omega
  have hdiv : (b * 256 + a) / 256 = b := by omega
  rw [rte_be_to_cpu_16, BitVec.toNat_ofNat, hx, hmod, hdiv]
  exact Nat.mod_eq_of_lt (by omega)

namespace Proposer

/-- The field is loaded as an integer of 32 bits, and cut to 16. -/
def value_len (paxos_hdr : Bytes) : BitVec 32 :=
  (rte_be_to_cpu_16 ((leBits 32 12 paxos_hdr).setWidth 16)).setWidth 32

/-- **What is left of the length** are its two high bytes. The four bytes are loaded in
little-endian order, cut to the two that come first, and swapped. -/
lemma toNat_value_len {paxos_hdr : Bytes} (h : 16 ≤ paxos_hdr.length) :
    (value_len paxos_hdr).toNat = (bits 32 12 paxos_hdr).toNat / 65536 := by
  have hlen : (slice 12 4 paxos_hdr).length = 4 := length_slice h
  obtain ⟨a, b, c, d, hslice⟩ := List.length_eq_four.mp hlen
  have ha := a.toNat_lt
  have hb := b.toNat_lt
  have hc := c.toNat_lt
  have hd := d.toNat_lt
  have hbe : (bits 32 12 paxos_hdr).toNat =
      a.toNat * 16777216 + b.toNat * 65536 + c.toNat * 256 + d.toNat := by
    simp only [bits, Nat.reduceDiv, hslice, beDecode, List.length_cons, List.length_nil,
      BitVec.toNat_ofNat]
    omega
  have hle : (leBits 32 12 paxos_hdr).toNat =
      d.toNat * 16777216 + c.toNat * 65536 + b.toNat * 256 + a.toNat := by
    simp only [leBits, Nat.reduceDiv, hslice, List.reverse_cons, List.reverse_nil, List.nil_append,
      List.cons_append, beDecode, List.length_cons, List.length_nil, BitVec.toNat_ofNat]
    omega
  have hlow : ((leBits 32 12 paxos_hdr).setWidth 16).toNat = b.toNat * 256 + a.toNat := by
    rw [BitVec.toNat_setWidth, hle]
    omega
  have hhigh : (bits 32 12 paxos_hdr).toNat / 65536 = a.toNat * 256 + b.toNat := by
    rw [hbe]
    omega
  rw [value_len, BitVec.toNat_setWidth_of_le (by decide), toNat_rte_be_to_cpu_16 ha hb hlow, hhigh]

/-! ## The decoder -/

/-- The message that is handed to `proposer_handle_promise`, `proposer_handle_accept` or
`proposer_handle_accepted`, which call the proposer of libpaxos, if there is one.
Source: `dpdk/proposer/main.c` `paxos_rx_process` -/
def paxos_rx_process (paxos_value_new : Bytes → ℕ → Bytes) (tunnel : Bool) (pkt : Bytes) :
    Option PaxosMessage :=
  let (info, l4_proto) := parse_ethernet pkt
  let udp_hdr := pkt.drop (info.outer_l2_len + info.outer_l3_len)
  let paxos_hdr := udp_hdr.drop 8
  if l4_proto ≠ 17 then none
  else if ¬ (bits 16 2 udp_hdr = PROPOSER_PORT ∨ bits 16 2 udp_hdr = LEARNER_PORT) ∧
      tunnel = false then none
  else
    let v := paxos_value_new (paxos_hdr.drop 16) ((value_len paxos_hdr).signExtend 64).toNat
    let message : PaxosAccept :=
      { iid := bits 32 2 paxos_hdr
        ballot := bits 16 6 paxos_hdr
        value_ballot := bits 16 8 paxos_hdr
        aid := bits 16 10 paxos_hdr
        value := v }
    let msgtype := bits 16 0 paxos_hdr
    if msgtype = PaxosMessageType.PAXOS_PROMISE.code then some ⟨.PAXOS_PROMISE, message⟩
    else if msgtype = PaxosMessageType.PAXOS_ACCEPT.code then some ⟨.PAXOS_ACCEPT, message⟩
    else if msgtype = PaxosMessageType.PAXOS_ACCEPTED.code then some ⟨.PAXOS_ACCEPTED, message⟩
    else none

/-- The messages that the proposer handles. -/
def Handled (type : PaxosMessageType) : Prop :=
  type = .PAXOS_PROMISE ∨ type = .PAXOS_ACCEPT ∨ type = .PAXOS_ACCEPTED

section

variable {paxos_value_new : Bytes → ℕ → Bytes} (hnew : Copies paxos_value_new) (x : Send)

/-- A value that fits a buffer has none of its length left. -/
lemma value_len_frame : value_len (x.frame.drop 42) = 0 := by
  have hlen := x.length_frame
  have hlt := x.length_value_lt
  obtain ⟨-, -, -, -, -, hvlen⟩ := x.bits_frame_paxos
  apply BitVec.eq_of_toNat_eq
  rw [toNat_value_len (by rw [List.length_drop]; omega), bits_drop, hvlen, BitVec.toNat_ofNat]
  show x.value.length % 2 ^ 32 / 65536 = 0
  omega

include hnew

/-- **What is passed on**: the message, without its value. The value's length is below `2 ^ 16`, so
what is left of it is 0, and `paxos_value_new` copies nothing. -/
theorem paxos_rx_process_frame (htype : Handled x.pm.type) (tunnel : Bool) :
    paxos_rx_process paxos_value_new tunnel x.frame =
      if (x.dport = PROPOSER_PORT ∨ x.dport = LEARNER_PORT) ∨ tunnel = true then
        some { x.pm with accept := { x.pm.accept with value := [] } }
      else none := by
  obtain ⟨-, -, hport⟩ := x.bits_frame_headers
  obtain ⟨h₁, h₂, h₃, h₄, h₅, -⟩ := x.bits_frame_paxos
  have hempty : paxos_value_new (x.frame.drop 58) ((value_len (x.frame.drop 42)).signExtend 64).toNat
      = [] := by
    rw [value_len_frame]
    exact hnew _ 0 (Nat.zero_le _)
  unfold paxos_rx_process
  simp only [parse_ethernet_frame, List.drop_drop, bits_drop, Nat.reduceAdd, hport, h₁, h₂, h₃, h₄,
    h₅, hempty, ne_eq, not_true_eq_false, if_false]
  by_cases hfor : (x.dport = PROPOSER_PORT ∨ x.dport = LEARNER_PORT) ∨ tunnel = true
  · have hnot : ¬ (¬ (x.dport = PROPOSER_PORT ∨ x.dport = LEARNER_PORT) ∧ tunnel = false) := by
      rintro ⟨hports, htunnel⟩
      rcases hfor with h | h
      · exact hports h
      · rw [htunnel] at h
        cases h
    rw [if_pos hfor, if_neg hnot]
    rcases htype with h | h | h <;> rw [h] <;> rfl
  · rw [not_or, Bool.not_eq_true] at hfor
    rw [if_pos hfor, if_neg]
    rw [not_or, Bool.not_eq_true]
    exact hfor

/-- **A message is passed on as it was sent** exactly when it has no value, and is for one of the
two ports or in a tunnel. -/
theorem passes_on_iff (htype : Handled x.pm.type) (tunnel : Bool) :
    paxos_rx_process paxos_value_new tunnel x.frame = some x.pm ↔
      ((x.dport = PROPOSER_PORT ∨ x.dport = LEARNER_PORT) ∨ tunnel = true) ∧
        x.value.length = 0 := by
  rw [paxos_rx_process_frame hnew x htype tunnel]
  constructor
  · intro h
    split_ifs at h with hfor
    have hvalue : [] = x.value :=
      congrArg (fun pm : PaxosMessage => pm.accept.value) (Option.some_inj.mp h)
    rw [← hvalue]
    exact ⟨hfor, rfl⟩
  · rintro ⟨hfor, hempty⟩
    have hvalue : x.pm.accept.value = [] := List.length_eq_zero_iff.mp hempty
    rw [if_pos hfor, ← hvalue]

end

/-- An accepted message with a value of `n` bytes, for the learners. -/
def accepted (n : ℕ) (hfits : emptyMbuf.Fits { accept2a n with type := .PAXOS_ACCEPTED }) : Send where
  host := host
  pm := { accept2a n with type := .PAXOS_ACCEPTED }
  mbuf := emptyMbuf
  sport := ACCEPTOR_PORT
  dport := LEARNER_PORT
  dstIP := LEARNER_ADDR
  fits := hfits

/-- A vote without a value is passed on as it was sent, one with a value of three bytes is not. Both
are read off the exact condition. -/
theorem passes_on_three :
    (Copies fun v s => v.take s) ∧ Handled (accepted 0 (by decide)).pm.type ∧
    Handled (accepted 3 (by decide)).pm.type ∧
    paxos_rx_process (fun v s => v.take s) false (accepted 0 (by decide)).frame =
      some (accepted 0 (by decide)).pm ∧
    paxos_rx_process (fun v s => v.take s) false (accepted 3 (by decide)).frame ≠
      some (accepted 3 (by decide)).pm := by
  refine ⟨copies_take, .inr (.inr rfl), .inr (.inr rfl), ?_, ?_⟩
  · apply (passes_on_iff copies_take (accepted 0 (by decide)) (.inr (.inr rfl)) false).mpr
    exact ⟨.inl (.inr rfl), rfl⟩
  · intro hpassed
    obtain ⟨-, hempty⟩ :=
      (passes_on_iff copies_take (accepted 3 (by decide)) (.inr (.inr rfl)) false).mp hpassed
    cases hempty

/-- A vote with a value of one byte arrives without it. -/
theorem value_dropped :
    ¬ ∀ x : Send, Handled x.pm.type → (x.dport = PROPOSER_PORT ∨ x.dport = LEARNER_PORT) →
      paxos_rx_process (fun v s => v.take s) false x.frame = some x.pm := by
  intro h
  have hpassed := h (accepted 1 (by decide)) (.inr (.inr rfl)) (.inr rfl)
  rw [paxos_rx_process_frame copies_take _ (.inr (.inr rfl))] at hpassed
  exact absurd hpassed (by decide)

end Proposer

end P4xos.Dpdk
