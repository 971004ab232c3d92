import P4xos.Lib.Promise
import P4xos.P4v14.Acceptor
import P4xos.P4v16.Acceptor
import P4xos.Netro.Plugin

/-!
# The three acceptors

The P4-14 switch, the P4-16 switch and the Netronome plugin all refine the abstract acceptor of
`Lib.Promise`: the first two for the `65536` instances of their registers, the plugin for the
`MAX_INST` entries of its arrays. Numbers are compared, not bit vectors, because the fields have
different widths: a value of 64 bytes, of 32 bytes, and of eight words.

* `slot`, `ask` and `decode` are, for each of the three, what is stored for an instance, what a
  packet asks for and the reply a packet is. They are all that is compared.
* `Switch14.step_cases`, `Switch16.step_cases`: everything a packet does, in these terms.
* `Switch14.serves`, `Switch16.serves` are the refinements of one packet, next to
  `Netro.Plugin.serves`.
* `Input.ofRequest_carries`: a request that fits into the three formats has a packet of each.
* `acceptors_reply_alike`: asked the same, the three reply the same and store the same.

The P4-16 switch sends its answers through `transport_tbl`; the entry for `set_drop = 0` has to
forward, or nothing is replied.
-/

namespace P4xos.Equiv

open P4xos.Lib

/-! ## The P4-14 acceptor -/

namespace Switch14

open P4xos.P4v14 (Acceptor PaxosT PAXOS_1A PAXOS_1B PAXOS_2A PAXOS_2B INSTANCE_COUNT)
open P4xos.P4v14.Acceptor

/-- What is stored for an instance. -/
def slot (A : Acceptor) (i : ℕ) : Slot ℕ where
  round := (A.rounds_register.read i).toNat
  vround := (A.vrounds_register.read i).toNat
  value := (A.values_register.read i).toNat

/-- What a packet asks for. -/
def ask (p : PaxosT) : Option (Request ℕ) :=
  if p.msgtype = PAXOS_1A then some (.prepare p.inst.toNat p.round.toNat)
  else if p.msgtype = PAXOS_2A then some (.accept p.inst.toNat p.round.toNat p.value.toNat)
  else none

/-- The reply a packet is. -/
def decode (p : PaxosT) : Option (Reply ℕ) :=
  if p.msgtype = PAXOS_1B then
    some (.promise p.inst.toNat p.round.toNat p.vround.toNat p.value.toNat)
  else if p.msgtype = PAXOS_2B then some (.accepted p.inst.toNat p.round.toNat p.value.toNat)
  else none

/-- One packet with the reply to it, if it asks for one and gets it. -/
def step (A : Acceptor) (p : PaxosT) : Acceptor × Option (Reply ℕ) :=
  ((ingress A p).1, if (ask p).isSome then (ingress A p).2.bind decode else none)

/-- A zeroed switch has promised nothing and cast no vote. -/
lemma slot_init (id : BitVec 64) (i : ℕ) : slot (init id) i = ⟨0, 0, 0⟩ := by
  simp only [slot, init, Register.read_zero, BitVec.ofNat_eq_ofNat, BitVec.toNat_zero]

/-- A promise raises the round of its own instance. -/
lemma slot_handle_1a (A : Acceptor) (p : PaxosT) (i : ℕ) :
    slot (handle_1a A p).1 i =
      if i = p.inst.toNat then { slot A i with round := p.round.toNat } else slot A i := by
  by_cases h : i = p.inst.toNat
  · subst h
    simp [slot, handle_1a, p.inst_lt]
  · simp [slot, handle_1a, h]

/-- A vote replaces the slot of its own instance. -/
lemma slot_handle_2a (A : Acceptor) (p : PaxosT) (i : ℕ) :
    slot (handle_2a A p).1 i =
      if i = p.inst.toNat then ⟨p.round.toNat, p.round.toNat, p.value.toNat⟩ else slot A i := by
  by_cases h : i = p.inst.toNat
  · subst h
    simp [slot, handle_2a, p.inst_lt]
  · simp [slot, handle_2a, h]

/-- **Everything a packet does**, in terms of what is stored and replied. Here a packet that is
dropped, one that is stale and one that asks nothing are the same. -/
lemma step_cases (A : Acceptor) (p : PaxosT) :
    (ask p = some (.prepare p.inst.toNat p.round.toNat) ∧
      (slot A p.inst.toNat).round ≤ p.round.toNat ∧
      step A p = ((handle_1a A p).1, some (.promise p.inst.toNat p.round.toNat
        (slot A p.inst.toNat).vround (slot A p.inst.toNat).value))) ∨
    (ask p = some (.accept p.inst.toNat p.round.toNat p.value.toNat) ∧
      (slot A p.inst.toNat).round ≤ p.round.toNat ∧
      step A p = ((handle_2a A p).1, some (.accepted p.inst.toNat p.round.toNat p.value.toNat))) ∨
    ((∀ q, ask p = some q → q.inst = p.inst.toNat ∧ q.round < (slot A p.inst.toNat).round) ∧
      step A p = (A, none)) := by
  rcases ingress_cases A p with ⟨ht, hr, he⟩ | ⟨ht, hr, he⟩ | ⟨h₁, h₂, -, he⟩ | ⟨hr, he⟩
  · have hask : ask p = some (.prepare p.inst.toNat p.round.toNat) := if_pos ht
    refine .inl ⟨hask, hr, ?_⟩
    rw [step, he, hask]
    rfl
  · have h₁ : p.msgtype ≠ PAXOS_1A := by simp [ht, PAXOS_1A, PAXOS_2A]
    have hask : ask p = some (.accept p.inst.toNat p.round.toNat p.value.toNat) := by
      rw [ask, if_neg h₁, if_pos ht]
    refine .inr (.inl ⟨hask, hr, ?_⟩)
    rw [step, he, hask]
    rfl
  · have hask : ask p = none := by rw [ask, if_neg h₁, if_neg h₂]
    refine .inr (.inr ⟨fun q hq => ?_, ?_⟩)
    · rw [hask] at hq
      cases hq
    · rw [step, he, hask]
      rfl
  · refine .inr (.inr ⟨fun q hq => ?_, ?_⟩)
    · have hlt : p.round.toNat < (slot A p.inst.toNat).round := Nat.not_le.mp hr
      unfold ask at hq
      split_ifs at hq <;> cases hq <;> exact ⟨rfl, hlt⟩
    · rw [step, he]
      simp

/-- **The P4-14 switch serves the instances of its registers.** The three outcomes of a packet: an
answered 1A, an answered 2A, and nothing, because its round is stale or because it is neither. -/
theorem serves : Serves step ask slot INSTANCE_COUNT where
  own A p q hq _ := by
    rcases step_cases A p with ⟨hask, hr, he⟩ | ⟨hask, hr, he⟩ | ⟨hstale, he⟩ <;> rw [he]
    · rw [hask] at hq
      cases hq
      rw [Request.inst_prepare, slot_handle_1a, if_pos rfl, Slot.handle_prepare hr]
    · rw [hask] at hq
      cases hq
      rw [Request.inst_accept, slot_handle_2a, if_pos rfl, Slot.handle_accept hr]
    · obtain ⟨hi, hlt⟩ := hstale q hq
      rw [← hi] at hlt
      exact (Slot.handle_stale hlt).symm
  other A p i _ hne := by
    rcases step_cases A p with ⟨hask, -, he⟩ | ⟨hask, -, he⟩ | ⟨-, he⟩ <;> rw [he]
    · have hi : i ≠ p.inst.toNat := (hne _ hask).symm
      rw [slot_handle_1a, if_neg hi]
    · have hi : i ≠ p.inst.toNat := (hne _ hask).symm
      rw [slot_handle_2a, if_neg hi]
  answers A p x hx := by
    rcases step_cases A p with ⟨hask, -, he⟩ | ⟨hask, -, he⟩ | ⟨-, he⟩ <;> rw [he] at hx <;> cases hx
    · exact ⟨_, hask, rfl⟩
    · exact ⟨_, hask, rfl⟩

end Switch14

/-! ## The P4-16 acceptor -/

namespace Switch16

open P4xos.P4v16 (Acceptor PaxosT Headers Egress PAXOS_1A PAXOS_1B PAXOS_2A PAXOS_2B INSTANCE_COUNT)
open P4xos.P4v16.Acceptor

/-- A packet at the ingress control: its headers, and the egress port that the checksum verification
left. -/
structure Packet where
  hdr : Headers
  egress_spec : Egress

/-- What is stored for an instance. -/
def slot (A : Acceptor) (i : ℕ) : Slot ℕ where
  round := (A.registerRound.read i).toNat
  vround := (A.registerVRound.read i).toNat
  value := (A.registerValue.read i).toNat

/-- What a Paxos header asks for. -/
def askPaxos (p : PaxosT) : Option (Request ℕ) :=
  if p.msgtype = PAXOS_1A then some (.prepare p.inst.toNat p.rnd.toNat)
  else if p.msgtype = PAXOS_2A then some (.accept p.inst.toNat p.rnd.toNat p.paxosval.toNat)
  else none

/-- What a packet asks for. -/
def ask (x : Packet) : Option (Request ℕ) :=
  match x.hdr.ipv4, x.hdr.paxos with
  | some _, some p => askPaxos p
  | _, _ => none

/-- The reply a Paxos header is. -/
def decode (p : PaxosT) : Option (Reply ℕ) :=
  if p.msgtype = PAXOS_1B then
    some (.promise p.inst.toNat p.rnd.toNat p.vrnd.toNat p.paxosval.toNat)
  else if p.msgtype = PAXOS_2B then some (.accepted p.inst.toNat p.rnd.toNat p.paxosval.toNat)
  else none

/-- One packet with the reply to it, if it asks for one and gets it. -/
def step (T : BitVec 1 → Transport) (A : Acceptor) (x : Packet) : Acceptor × Option (Reply ℕ) :=
  ((ingress T A x.hdr x.egress_spec).1,
    if (ask x).isSome then (emitted T A x.hdr x.egress_spec).bind decode else none)

/-- A zeroed switch has promised nothing and cast no vote. -/
lemma slot_init (id : BitVec 16) (i : ℕ) : slot (init id) i = ⟨0, 0, 0⟩ := by
  simp only [slot, init, Register.read_zero]
  rfl

/-- A promise raises the round of its own instance, if that has registers. -/
lemma slot_promise (A : Acceptor) {p : PaxosT} (hp : p.inst.toNat < INSTANCE_COUNT) (i : ℕ) :
    slot (promise A p) i =
      if i = p.inst.toNat then { slot A i with round := p.rnd.toNat } else slot A i := by
  by_cases h : i = p.inst.toNat
  · subst h
    simp [slot, promise, hp]
  · simp [slot, promise, h]

/-- A vote replaces the slot of its own instance, if that has registers. -/
lemma slot_accept (A : Acceptor) {p : PaxosT} (hp : p.inst.toNat < INSTANCE_COUNT) (i : ℕ) :
    slot (accept A p) i =
      if i = p.inst.toNat then ⟨p.rnd.toNat, p.rnd.toNat, p.paxosval.toNat⟩ else slot A i := by
  by_cases h : i = p.inst.toNat
  · subst h
    simp [slot, accept, hp]
  · simp [slot, accept, h]

/-- A packet that asks has an IPv4 and a Paxos header. -/
lemma exists_of_ask {x : Packet} (h : (ask x).isSome = true) :
    ∃ ip p, x.hdr.ipv4 = some ip ∧ x.hdr.paxos = some p ∧ ask x = askPaxos p := by
  unfold ask at h ⊢
  cases hip : x.hdr.ipv4 with
  | none => simp [hip] at h
  | some ip =>
      cases hpx : x.hdr.paxos with
      | none => simp [hip, hpx] at h
      | some p => exact ⟨ip, p, rfl, rfl, rfl⟩

/-- A header that asks is not a reply. So a stale request that passes on unchanged is not taken for
an answer. -/
lemma decode_of_ask {p : PaxosT} (h : (askPaxos p).isSome = true) : decode p = none := by
  unfold askPaxos at h
  unfold decode
  by_cases h₁ : p.msgtype = PAXOS_1A
  · simp [h₁, PAXOS_1A, PAXOS_1B, PAXOS_2B]
  · by_cases h₂ : p.msgtype = PAXOS_2A
    · simp [h₂, PAXOS_2A, PAXOS_1B, PAXOS_2B]
    · simp [h₁, h₂] at h

/-- A packet whose answer clears `set_drop` leaves by the port of the entry for `set_drop = 0`. The
entry forwards it, which sets the egress port and rewrites the UDP port. -/
lemma emitted_of_answered {T : BitVec 1 → Transport} {port : BitVec 4} {learnerPort : BitVec 16}
    (hT : T 0 = .forward port learnerPort) (A : Acceptor) {x : Packet} {ip : P4v16.Ipv4T}
    {p : PaxosT} (hip : x.hdr.ipv4 = some ip) (hpx : x.hdr.paxos = some p)
    (hr : A.registerRound.read p.inst.toNat ≤ p.rnd) {f : Flow}
    (hf : acceptor_tbl ⟨A, x.hdr.udp, p, 1, x.egress_spec⟩ = f) (hset : f.set_drop = 0) :
    (ingress T A x.hdr x.egress_spec).1 = f.regs ∧
      emitted T A x.hdr x.egress_spec = some f.paxos := by
  have htransport : transport_tbl T f = forward port learnerPort f := by
    unfold transport_tbl
    rw [hset, hT]
  unfold emitted ingress
  simp only [hip, hpx]
  rw [if_pos hr, hf, htransport]
  exact ⟨rfl, rfl⟩

/-- A stale packet leaves as it came, if at all, and changes nothing. -/
lemma ingress_stale (T : BitVec 1 → Transport) (A : Acceptor) {x : Packet} {p : PaxosT}
    (hpx : x.hdr.paxos = some p) (hr : ¬ A.registerRound.read p.inst.toNat ≤ p.rnd) :
    (ingress T A x.hdr x.egress_spec).1 = A ∧
      (emitted T A x.hdr x.egress_spec = some p ∨ emitted T A x.hdr x.egress_spec = none) := by
  have h : ingress T A x.hdr x.egress_spec = (A, x.hdr, x.egress_spec) := by
    unfold ingress
    cases x.hdr.ipv4 <;> simp [hpx, hr]
  refine ⟨by rw [h], ?_⟩
  rw [← hpx]
  exact emitted_of_ingress h

/-- **Everything a packet does**, in terms of what is stored and replied. First whether the tables
are applied at all, then the comparison of the rounds, then the type. -/
lemma step_cases {T : BitVec 1 → Transport} {port : BitVec 4} {learnerPort : BitVec 16}
    (hT : T 0 = .forward port learnerPort) (A : Acceptor) (x : Packet) :
    (∃ p, x.hdr.paxos = some p ∧ p.msgtype = PAXOS_1A ∧
      ask x = some (.prepare p.inst.toNat p.rnd.toNat) ∧
      (slot A p.inst.toNat).round ≤ p.rnd.toNat ∧
      step T A x = (promise A p, some (.promise p.inst.toNat p.rnd.toNat
        (slot A p.inst.toNat).vround (slot A p.inst.toNat).value))) ∨
    (∃ p, x.hdr.paxos = some p ∧ p.msgtype = PAXOS_2A ∧
      ask x = some (.accept p.inst.toNat p.rnd.toNat p.paxosval.toNat) ∧
      (slot A p.inst.toNat).round ≤ p.rnd.toNat ∧
      step T A x = (accept A p, some (.accepted p.inst.toNat p.rnd.toNat p.paxosval.toNat))) ∨
    ((∀ q, ask x = some q → q.round < (slot A q.inst).round) ∧ step T A x = (A, none)) := by
  by_cases hpaxos : ∃ ip p, x.hdr.ipv4 = some ip ∧ x.hdr.paxos = some p
  · obtain ⟨ip, p, hip, hpx⟩ := hpaxos
    have hask : ask x = askPaxos p := by rw [ask, hip, hpx]
    by_cases hr : A.registerRound.read p.inst.toNat ≤ p.rnd
    · by_cases h₁ : p.msgtype = PAXOS_1A
      · have hreq : ask x = some (.prepare p.inst.toNat p.rnd.toNat) := hask.trans (if_pos h₁)
        have htbl : acceptor_tbl ⟨A, x.hdr.udp, p, 1, x.egress_spec⟩ =
            handle_1a ⟨A, x.hdr.udp, p, 1, x.egress_spec⟩ := if_pos h₁
        obtain ⟨hregs, hout⟩ := emitted_of_answered hT A hip hpx hr htbl rfl
        refine .inl ⟨p, hpx, h₁, hreq, hr, ?_⟩
        rw [step, hregs, hout, hreq]
        rfl
      · by_cases h₂ : p.msgtype = PAXOS_2A
        · have hreq : ask x = some (.accept p.inst.toNat p.rnd.toNat p.paxosval.toNat) := by
            rw [hask, askPaxos, if_neg h₁, if_pos h₂]
          have htbl : acceptor_tbl ⟨A, x.hdr.udp, p, 1, x.egress_spec⟩ =
              handle_2a ⟨A, x.hdr.udp, p, 1, x.egress_spec⟩ := by
            rw [acceptor_tbl, if_neg h₁, if_pos h₂]
          obtain ⟨hregs, hout⟩ := emitted_of_answered hT A hip hpx hr htbl rfl
          refine .inr (.inl ⟨p, hpx, h₂, hreq, hr, ?_⟩)
          rw [step, hregs, hout, hreq]
          rfl
        · have hnone : ask x = none := by rw [hask, askPaxos, if_neg h₁, if_neg h₂]
          obtain ⟨udp, e', hing⟩ := ingress_fresh T A x.egress_spec hip hpx hr
          refine .inr (.inr ⟨fun q hq => absurd (hnone.symm.trans hq) (by simp), ?_⟩)
          rw [step, hing, hnone, acceptor_tbl, if_neg h₁, if_neg h₂]
          rfl
    · obtain ⟨hregs, hout⟩ := ingress_stale T A hpx hr
      have hlt : p.rnd.toNat < (slot A p.inst.toNat).round := Nat.not_le.mp hr
      refine .inr (.inr ⟨fun q hq => ?_, ?_⟩)
      · rw [hask] at hq
        unfold askPaxos at hq
        split_ifs at hq <;> cases hq <;> exact hlt
      · rw [step, hregs]
        by_cases hsome : (ask x).isSome = true
        · have hdecode : decode p = none := decode_of_ask (hask ▸ hsome)
          rcases hout with hout | hout <;> simp [hout, hdecode]
        · simp [hsome]
  · -- no IPv4 or no Paxos header: the tables are not applied
    have hnone : ask x = none := by
      unfold ask
      cases hip : x.hdr.ipv4 <;> cases hpx : x.hdr.paxos <;> simp_all
    have hing : ingress T A x.hdr x.egress_spec = (A, x.hdr, x.egress_spec) := by
      unfold ingress
      cases hip : x.hdr.ipv4 <;> cases hpx : x.hdr.paxos <;> simp_all
    refine .inr (.inr ⟨fun q hq => absurd (hnone.symm.trans hq) (by simp), ?_⟩)
    rw [step, hing, hnone]
    rfl

/-- **The P4-16 switch serves the instances of its registers**, when it forwards its answers. The
three requirements follow from `step_cases`: an answer is that of the slot, another instance's slot
is left, and only what is asked for is answered. -/
theorem serves {T : BitVec 1 → Transport} {port : BitVec 4} {learnerPort : BitVec 16}
    (hT : T 0 = .forward port learnerPort) : Serves (step T) ask slot INSTANCE_COUNT where
  own A x q hq hlt := by
    rcases step_cases hT A x with
      ⟨p, -, -, hask, hr, he⟩ | ⟨p, -, -, hask, hr, he⟩ | ⟨hstale, he⟩ <;> rw [he]
    · rw [hask] at hq
      cases hq
      rw [Request.inst_prepare] at hlt ⊢
      rw [slot_promise A hlt, if_pos rfl, Slot.handle_prepare hr]
    · rw [hask] at hq
      cases hq
      rw [Request.inst_accept] at hlt ⊢
      rw [slot_accept A hlt, if_pos rfl, Slot.handle_accept hr]
    · exact (Slot.handle_stale (hstale q hq)).symm
  other A x i hi hne := by
    rcases step_cases hT A x with ⟨p, -, -, hask, -, he⟩ | ⟨p, -, -, hask, -, he⟩ | ⟨-, he⟩ <;> rw [he]
    · have hp : i ≠ p.inst.toNat := (hne _ hask).symm
      simp [slot, promise, hp]
    · have hp : i ≠ p.inst.toNat := (hne _ hask).symm
      simp [slot, accept, hp]
  answers A x r hx := by
    rcases step_cases hT A x with ⟨p, -, -, hask, -, he⟩ | ⟨p, -, -, hask, -, he⟩ | ⟨-, he⟩ <;>
      rw [he] at hx <;> cases hx
    · exact ⟨_, hask, rfl⟩
    · exact ⟨_, hask, rfl⟩

end Switch16

/-! ## All three -/

/-- A packet for each of the three acceptors. -/
structure Input where
  p14 : P4v14.PaxosT
  x16 : Switch16.Packet
  plugin : Netro.PaxosT

/-- What the plugin's table makes of a packet. -/
def askPlugin (p : Netro.PaxosT) : Option (Request ℕ) :=
  if p.msgtype = 1 then some (.prepare p.inst.toNat p.rnd.toNat)
  else if p.msgtype = 3 then some (.accept p.inst.toNat p.rnd.toNat p.toWords.toNat)
  else none

/-- The three packets ask for the same, each in its format; fields that are not part of the request
may differ. -/
structure Input.Carries (x : Input) (q : Request ℕ) : Prop where
  p14 : Switch14.ask x.p14 = some q
  x16 : Switch16.ask x.x16 = some q
  plugin : askPlugin x.plugin = some q

/-- A request that fits all three formats. -/
def Fits : Request ℕ → Prop
  | .prepare i r => i < 65536 ∧ r < 256
  | .accept i r v => i < 65536 ∧ r < 256 ∧ v < 2 ^ 256

/-- A bound on every number of the request. -/
instance : DecidablePred Fits
  | .prepare _ _ => inferInstanceAs (Decidable (_ ∧ _))
  | .accept _ _ _ => inferInstanceAs (Decidable (_ ∧ _))

/-- A P4-16 packet around a Paxos header, with the other headers zero. -/
def packet16 (p : P4v16.PaxosT) : Switch16.Packet where
  hdr := { ethernet := ⟨0, 0, 0⟩, ipv4 := some ⟨0, 0, 0, 0, 0, 0, 0, 0, 0, 0, 0, 0⟩,
           udp := some ⟨0, 0, 0, 0⟩, paxos := some p }
  egress_spec := .port 0

/-- A request in the three formats. -/
def Input.ofRequest : Request ℕ → Input
  | .prepare i r =>
      { p14 := { msgtype := P4v14.PAXOS_1A, inst := BitVec.ofNat 16 i, round := BitVec.ofNat 8 r,
                 vround := 0, acceptor := 0, value := 0 }
        x16 := packet16 { msgtype := P4v16.PAXOS_1A, inst := BitVec.ofNat 32 i,
                          rnd := BitVec.ofNat 16 r, vrnd := 0, acptid := 0, paxoslen := 0,
                          paxosval := 0 }
        plugin := { msgtype := Netro.Phase1A, inst := BitVec.ofNat 32 i, rnd := BitVec.ofNat 16 r,
                    vrnd := 0, acpt := 0, toWords := Netro.Words.ofNat 0 } }
  | .accept i r v =>
      { p14 := { msgtype := P4v14.PAXOS_2A, inst := BitVec.ofNat 16 i, round := BitVec.ofNat 8 r,
                 vround := 0, acceptor := 0, value := (BitVec.ofNat 256 v).setWidth 512 }
        x16 := packet16 { msgtype := P4v16.PAXOS_2A, inst := BitVec.ofNat 32 i,
                          rnd := BitVec.ofNat 16 r, vrnd := 0, acptid := 0, paxoslen := 32,
                          paxosval := BitVec.ofNat 256 v }
        plugin := { msgtype := Netro.Phase2A, inst := BitVec.ofNat 32 i, rnd := BitVec.ofNat 16 r,
                    vrnd := 0, acpt := 0, toWords := Netro.Words.ofNat v } }

/-- A number that fits a field is what the field stands for. -/
lemma toNat_ofNat_of_lt {w n : ℕ} (h : n < 2 ^ w) : (BitVec.ofNat w n).toNat = n := by
  rw [BitVec.toNat_ofNat, Nat.mod_eq_of_lt h]

/-- Every request that fits is carried by packets of the three formats. The instance, the round and
the value fit their fields in each header. -/
theorem Input.ofRequest_carries {q : Request ℕ} (h : Fits q) : (Input.ofRequest q).Carries q := by
  cases q with
  | prepare i r =>
      obtain ⟨hi, hr⟩ : i < 65536 ∧ r < 256 := h
      refine ⟨?_, ?_, ?_⟩
      · simp only [Switch14.ask, Input.ofRequest, if_true]
        rw [toNat_ofNat_of_lt (by omega), toNat_ofNat_of_lt (by omega)]
      · simp only [Switch16.ask, Switch16.askPaxos, Input.ofRequest, packet16, if_true]
        rw [toNat_ofNat_of_lt (by omega), toNat_ofNat_of_lt (by omega)]
      · have h₁ : Netro.Phase1A = 1 := rfl
        simp only [askPlugin, Input.ofRequest, h₁, if_true]
        rw [toNat_ofNat_of_lt (by omega), toNat_ofNat_of_lt (by omega)]
  | accept i r v =>
      obtain ⟨hi, hr, hv⟩ : i < 65536 ∧ r < 256 ∧ v < 2 ^ 256 := h
      refine ⟨?_, ?_, ?_⟩
      · have h₁ : ¬ P4v14.PAXOS_2A = P4v14.PAXOS_1A := by decide
        simp only [Switch14.ask, Input.ofRequest, h₁, if_true, if_false]
        rw [toNat_ofNat_of_lt (by omega), toNat_ofNat_of_lt (by omega),
          BitVec.toNat_setWidth_of_le (by omega), toNat_ofNat_of_lt hv]
      · have h₁ : ¬ P4v16.PAXOS_2A = P4v16.PAXOS_1A := by decide
        simp only [Switch16.ask, Switch16.askPaxos, Input.ofRequest, packet16, h₁, if_true, if_false]
        rw [toNat_ofNat_of_lt (by omega), toNat_ofNat_of_lt (by omega), toNat_ofNat_of_lt hv]
      · have h₁ : ¬ (3 : BitVec 16) = 1 := by decide
        have h₃ : Netro.Phase2A = 3 := rfl
        simp only [askPlugin, Input.ofRequest, h₁, h₃, if_true, if_false]
        rw [Netro.Words.toNat_ofNat hv]
        rw [toNat_ofNat_of_lt (by omega), toNat_ofNat_of_lt (by omega)]

/-- The instance field of the P4-14 header bounds the instance. -/
lemma Input.Carries.inst_lt {x : Input} {q : Request ℕ} (h : x.Carries q) : q.inst < 65536 := by
  have hp := h.p14
  unfold Switch14.ask at hp
  split_ifs at hp <;> cases hp <;> exact x.p14.inst_lt

/-- The plugin's table calls the acceptor function for the request. -/
lemma Input.Carries.call {x : Input} {q : Request ℕ} (h : x.Carries q) :
    (x.plugin.msgtype = 1 ∨ x.plugin.msgtype = 3) ∧
      Netro.Plugin.ask (Netro.Plugin.acceptorCall x.plugin) = some q := by
  have hp := h.plugin
  unfold askPlugin at hp
  unfold Netro.Plugin.acceptorCall
  split_ifs at hp with h₁ h₃ <;> cases hp
  · rw [if_pos h₁]
    exact ⟨.inl h₁, rfl⟩
  · rw [if_neg h₁]
    exact ⟨.inr h₃, rfl⟩

/-- The call is inside the arrays, which are longer than the registers. -/
lemma Input.Carries.plugin_lt {x : Input} {q : Request ℕ} (h : x.Carries q) :
    x.plugin.inst.toNat < Netro.MAX_INST := by
  have hlt := h.inst_lt
  have hp := h.plugin
  unfold askPlugin at hp
  have hinst : q.inst = x.plugin.inst.toNat := by
    split_ifs at hp <;> cases hp <;> rfl
  rw [← hinst]
  exact hlt.trans (by decide)

/-- Each packet of a run carries a request. -/
lemma Input.exists_carries {xs : List Input} {qs : List (Request ℕ)}
    (h : List.Forall₂ Input.Carries xs qs) {x : Input} (hx : x ∈ xs) : ∃ q, x.Carries q := by
  induction h with
  | nil => cases hx
  | cons hcarries _ ih =>
      rcases List.mem_cons.mp hx with rfl | hx
      · exact ⟨_, hcarries⟩
      · exact ih hx

/-- **The three acceptors agree.** On packets that ask for the same, from zeroed state, the plugin's
behaviour is defined, the replies are the same packet by packet, and in the end the same round, vote
and value are stored for every instance. The hypothesis on `transport_tbl` is the entry for the
packets that are answered. -/
theorem acceptors_reply_alike {T : BitVec 1 → P4v16.Acceptor.Transport} {port : BitVec 4}
    {learnerPort : BitVec 16} (hT : T 0 = .forward port learnerPort) (id14 : BitVec 64)
    (id16 : BitVec 16) (xs : List Input) (qs : List (Request ℕ))
    (h : List.Forall₂ Input.Carries xs qs) :
    ∃ P outs, Netro.Plugin.run Netro.Plugin.paxos_tbl Netro.Plugin.init (xs.map Input.plugin) =
        some (P, outs) ∧
      (trace Switch14.step (P4v14.Acceptor.init id14) (xs.map Input.p14)).map Prod.snd =
        outs.map (fun out => out.bind Netro.Plugin.decode) ∧
      (trace (Switch16.step T) (P4v16.Acceptor.init id16) (xs.map Input.x16)).map Prod.snd =
        outs.map (fun out => out.bind Netro.Plugin.decode) ∧
      ∀ i < 65536,
        Switch14.slot (after Switch14.step (P4v14.Acceptor.init id14) (xs.map Input.p14)) i =
          Netro.Plugin.slot P i ∧
        Switch16.slot (after (Switch16.step T) (P4v16.Acceptor.init id16) (xs.map Input.x16)) i =
          Netro.Plugin.slot P i := by
  have h14 : List.Forall₂ (fun p q => Switch14.ask p = some q ∧ q.inst < 65536)
      (xs.map Input.p14) qs := by
    rw [List.forall₂_map_left_iff]
    exact h.imp fun x q hx => ⟨hx.p14, hx.inst_lt⟩
  have h16 : List.Forall₂ (fun p q => Switch16.ask p = some q ∧ q.inst < 65536)
      (xs.map Input.x16) qs := by
    rw [List.forall₂_map_left_iff]
    exact h.imp fun x q hx => ⟨hx.x16, hx.inst_lt⟩
  have hcalls : List.Forall₂ (fun c q => Netro.Plugin.ask c = some q ∧ q.inst < 65536)
      ((xs.map Input.plugin).map Netro.Plugin.acceptorCall) qs := by
    rw [List.map_map, List.forall₂_map_left_iff]
    exact h.imp fun x q hx => ⟨hx.call.2, hx.inst_lt⟩
  have htypes : ∀ p ∈ xs.map Input.plugin, p.msgtype = 1 ∨ p.msgtype = 3 := by
    intro p hp
    obtain ⟨x, hx, rfl⟩ := List.mem_map.mp hp
    obtain ⟨q, hq⟩ := Input.exists_carries h hx
    exact hq.call.1
  have hinside : ∀ c ∈ (xs.map Input.plugin).map Netro.Plugin.acceptorCall,
      c.paxos.inst.toNat < Netro.MAX_INST := by
    intro c hc
    obtain ⟨p, hp, rfl⟩ := List.mem_map.mp hc
    obtain ⟨x, hx, rfl⟩ := List.mem_map.mp hp
    obtain ⟨q, hq⟩ := Input.exists_carries h hx
    rw [Netro.Plugin.acceptorCall_paxos]
    exact hq.plugin_lt
  -- each of the three refines the abstract acceptor with empty slots
  obtain ⟨hout14, hslot14⟩ := Switch14.serves.refines (A := fun _ => ⟨0, 0, 0⟩)
    (fun i _ => Switch14.slot_init id14 i) h14
  obtain ⟨hout16, hslot16⟩ := (Switch16.serves hT).refines (A := fun _ => ⟨0, 0, 0⟩)
    (fun i _ => Switch16.slot_init id16 i) h16
  have hplugin : Serves Netro.Plugin.step Netro.Plugin.ask Netro.Plugin.slot 65536 :=
    Netro.Plugin.serves.mono (by decide)
  obtain ⟨houtN, hslotN⟩ := hplugin.refines (A := fun _ => ⟨0, 0, 0⟩)
    (fun i _ => Netro.Plugin.slot_init i) hcalls
  obtain ⟨outs, hrun, houts⟩ := Netro.Plugin.run_call_eq Netro.Plugin.init hinside
  refine ⟨_, outs, (Netro.Plugin.run_paxos_tbl _ htypes).trans hrun, ?_, ?_, fun i hi => ⟨?_, ?_⟩⟩
  · rw [hout14, houts, houtN]
  · rw [hout16, houts, houtN]
  · rw [hslot14 i hi, hslotN i hi]
  · rw [hslot16 i hi, hslotN i hi]

/-- A vote in round 1, a promise in round 2 that reports it, a stale vote, and a vote in round 3.
The third request is replied to by none of them. -/
theorem acceptors_reply_alike_votes :
    ∃ P outs, Netro.Plugin.run Netro.Plugin.paxos_tbl Netro.Plugin.init
        (([.accept 5 1 7, .prepare 5 2, .accept 5 1 8, .accept 5 3 9].map Input.ofRequest).map
          Input.plugin) = some (P, outs) ∧
      (trace Switch14.step (P4v14.Acceptor.init 1)
        (([.accept 5 1 7, .prepare 5 2, .accept 5 1 8, .accept 5 3 9].map Input.ofRequest).map
          Input.p14)).map Prod.snd = outs.map (fun out => out.bind Netro.Plugin.decode) ∧
      (trace (Switch16.step fun _ => .forward 1 34953) (P4v16.Acceptor.init 1)
        (([.accept 5 1 7, .prepare 5 2, .accept 5 1 8, .accept 5 3 9].map Input.ofRequest).map
          Input.x16)).map Prod.snd = outs.map (fun out => out.bind Netro.Plugin.decode) ∧
      ∀ i < 65536,
        Switch14.slot (after Switch14.step (P4v14.Acceptor.init 1)
          (([.accept 5 1 7, .prepare 5 2, .accept 5 1 8, .accept 5 3 9].map Input.ofRequest).map
            Input.p14)) i = Netro.Plugin.slot P i ∧
        Switch16.slot (after (Switch16.step fun _ => .forward 1 34953) (P4v16.Acceptor.init 1)
          (([.accept 5 1 7, .prepare 5 2, .accept 5 1 8, .accept 5 3 9].map Input.ofRequest).map
            Input.x16)) i = Netro.Plugin.slot P i := by
  apply acceptors_reply_alike rfl 1 1 _ [.accept 5 1 7, .prepare 5 2, .accept 5 1 8, .accept 5 3 9]
  rw [List.forall₂_map_left_iff, List.forall₂_same]
  intro q hq
  apply Input.ofRequest_carries
  revert q
  decide

end P4xos.Equiv
