import P4xos.Lib.Register
import P4xos.P4v16.Header

/-!
# The P4-16 acceptor switch

`p4-16/p4src/acceptor.p4` with the `acceptor_tbl` entries of `p4-16/commands.txt`. The entries of
`transport_tbl` decide where answers go and are a parameter `T`: for each value of `set_drop` the
action of the matching entry, or the default action `_drop`. Register accesses outside the array are
ignored on write and zero on read, as v1model leaves them.

* `ingress_cases` says everything one packet can do to the registers and to the Paxos header.
* `ingress_of_stale`: a packet below the stored round is neither answered nor marked to drop, since
  no table is applied to it. Its headers and its egress port stay as they were.
* `ingress_of_fresh`: any other packet goes where `transport_tbl` says for its `set_drop`.
* `discards_iff`: what is not answered is discarded exactly if somebody else has marked the stale
  packets to drop, and the entries of `transport_tbl` are right for the others (`Provided`).

`set_drop` is 1 until an action that answers clears it, so the entry for 1 should drop and the one
for 0 forward (`answersOnly`).
-/

namespace P4xos.P4v16

open P4xos.Lib

/-- The registers of an acceptor switch.
Source: `p4-16/p4src/acceptor.p4` `registerAcceptorID`, `registerRound`, `registerVRound`,
`registerValue` -/
@[ext] structure Acceptor where
  registerAcceptorID : BitVec 16
  registerRound : Register (BitVec 16) INSTANCE_COUNT
  registerVRound : Register (BitVec 16) INSTANCE_COUNT
  registerValue : Register (BitVec 256) INSTANCE_COUNT

namespace Acceptor

/-- A switch with zeroed registers and the given id. -/
def init (id : BitVec 16) : Acceptor where
  registerAcceptorID := id
  registerRound := Register.zero
  registerVRound := Register.zero
  registerValue := Register.zero

/-- The actions an entry of `transport_tbl` can name.
Source: `p4-16/p4src/acceptor.p4` `transport_tbl` -/
inductive Transport
  | _drop
  | forward (port : BitVec 4) (learnerPort : BitVec 16)
  deriving DecidableEq

/-- What the actions of the ingress control read and write: the registers, the headers that are
rewritten, the `set_drop` metadata and the egress port. -/
structure Flow where
  regs : Acceptor
  udp : Option UdpT
  paxos : PaxosT
  set_drop : BitVec 1
  egress_spec : Egress

/-- Another table may choose a port again.
Source: `p4-16/p4src/acceptor.p4` `_drop` -/
def _drop (f : Flow) : Flow := { f with egress_spec := .drop }

/-- The value of the request is replaced, its length field is not.
Source: `p4-16/p4src/acceptor.p4` `handle_1a` -/
def handle_1a (f : Flow) : Flow :=
  { f with
    regs := { f.regs with
      registerRound := f.regs.registerRound.write f.paxos.inst.toNat f.paxos.rnd }
    paxos := { f.paxos with
      msgtype := PAXOS_1B
      vrnd := f.regs.registerVRound.read f.paxos.inst.toNat
      paxosval := f.regs.registerValue.read f.paxos.inst.toNat
      acptid := f.regs.registerAcceptorID }
    set_drop := 0 }

/-- The header keeps the value it came with.
Source: `p4-16/p4src/acceptor.p4` `handle_2a` -/
def handle_2a (f : Flow) : Flow :=
  { f with
    regs := { f.regs with
      registerRound := f.regs.registerRound.write f.paxos.inst.toNat f.paxos.rnd
      registerVRound := f.regs.registerVRound.write f.paxos.inst.toNat f.paxos.rnd
      registerValue := f.regs.registerValue.write f.paxos.inst.toNat f.paxos.paxosval }
    paxos := { f.paxos with
      msgtype := PAXOS_2B
      acptid := f.regs.registerAcceptorID }
    set_drop := 0 }

/-- The default action drops, but `transport_tbl` is applied after it.
Source: `p4-16/p4src/acceptor.p4` `acceptor_tbl`; `p4-16/commands.txt` -/
def acceptor_tbl (f : Flow) : Flow :=
  if f.paxos.msgtype = PAXOS_1A then handle_1a f
  else if f.paxos.msgtype = PAXOS_2A then handle_2a f
  else _drop f

/-- Only the port of the UDP header is rewritten.
Source: `p4-16/p4src/acceptor.p4` `forward` -/
def forward (port : BitVec 4) (learnerPort : BitVec 16) (f : Flow) : Flow :=
  { f with
    egress_spec := .port (port.setWidth 9)
    udp := f.udp.map fun u => { u with dstPort := learnerPort } }

/-- The default action is one of the values of `T`.
Source: `p4-16/p4src/acceptor.p4` `transport_tbl` -/
def transport_tbl (T : BitVec 1 → Transport) (f : Flow) : Flow :=
  match T f.set_drop with
  | ._drop => _drop f
  | .forward port learnerPort => forward port learnerPort f

/-- The ingress control: registers, headers and egress port after it. The egress port on entry is
what the checksum verification left.
Source: `p4-16/p4src/acceptor.p4` `ingress` -/
def ingress (T : BitVec 1 → Transport) (A : Acceptor) (hdr : Headers) (egress_spec : Egress) :
    Acceptor × Headers × Egress :=
  match hdr.ipv4, hdr.paxos with
  | some _, some paxos =>
      let round := A.registerRound.read paxos.inst.toNat
      let f : Flow := { regs := A, udp := hdr.udp, paxos := paxos, set_drop := 1,
                        egress_spec := egress_spec }
      if paxos.rnd ≥ round then
        let f := transport_tbl T (acceptor_tbl f)
        (f.regs, { hdr with udp := f.udp, paxos := some f.paxos }, f.egress_spec)
      else (A, hdr, egress_spec)
  | _, _ => (A, hdr, egress_spec)

/-- The Paxos header that leaves the switch, if the packet leaves and has one. The ingress control
has decided; nothing behind it drops. -/
def emitted (T : BitVec 1 → Transport) (A : Acceptor) (hdr : Headers) (egress_spec : Egress) :
    Option PaxosT :=
  match ingress T A hdr egress_spec with
  | (_, _, .drop) => none
  | (_, hdr', .port _) => hdr'.paxos

/-! ## What one packet does -/

/-- The registers after answering a 1A. -/
def promise (A : Acceptor) (p : PaxosT) : Acceptor :=
  { A with registerRound := A.registerRound.write p.inst.toNat p.rnd }

/-- The 1B for a 1A. -/
def answer1b (A : Acceptor) (p : PaxosT) : PaxosT :=
  { p with
    msgtype := PAXOS_1B
    vrnd := A.registerVRound.read p.inst.toNat
    paxosval := A.registerValue.read p.inst.toNat
    acptid := A.registerAcceptorID }

/-- The registers after answering a 2A. -/
def accept (A : Acceptor) (p : PaxosT) : Acceptor :=
  { A with
    registerRound := A.registerRound.write p.inst.toNat p.rnd
    registerVRound := A.registerVRound.write p.inst.toNat p.rnd
    registerValue := A.registerValue.write p.inst.toNat p.paxosval }

/-- The 2B for a 2A. -/
def answer2b (A : Acceptor) (p : PaxosT) : PaxosT :=
  { p with
    msgtype := PAXOS_2B
    acptid := A.registerAcceptorID }

/-- The transport table touches neither the registers nor the Paxos header. -/
lemma transport_tbl_frame (T : BitVec 1 → Transport) (f : Flow) :
    (transport_tbl T f).regs = f.regs ∧ (transport_tbl T f).paxos = f.paxos := by
  unfold transport_tbl
  cases T f.set_drop <;> exact ⟨rfl, rfl⟩

/-- A packet that reaches the tables leaves with the registers and the Paxos header of the action
`acceptor_tbl` chose. -/
lemma ingress_fresh (T : BitVec 1 → Transport) (A : Acceptor) {hdr : Headers} (e : Egress)
    {ip : Ipv4T} {p : PaxosT} (hip : hdr.ipv4 = some ip) (hpx : hdr.paxos = some p)
    (hr : A.registerRound.read p.inst.toNat ≤ p.rnd) : ∃ udp e', ingress T A hdr e =
      ((acceptor_tbl ⟨A, hdr.udp, p, 1, e⟩).regs,
        { hdr with udp := udp, paxos := some (acceptor_tbl ⟨A, hdr.udp, p, 1, e⟩).paxos }, e') := by
  obtain ⟨hregs, hpaxos⟩ := transport_tbl_frame T (acceptor_tbl ⟨A, hdr.udp, p, 1, e⟩)
  rw [← hregs, ← hpaxos]
  refine ⟨(transport_tbl T (acceptor_tbl ⟨A, hdr.udp, p, 1, e⟩)).udp,
    (transport_tbl T (acceptor_tbl ⟨A, hdr.udp, p, 1, e⟩)).egress_spec, ?_⟩
  unfold ingress
  simp only [hip, hpx]
  rw [if_pos hr]

/-- A packet leaves with the Paxos header the ingress control gave it, or is dropped. -/
lemma emitted_of_ingress {T : BitVec 1 → Transport} {A A' : Acceptor} {hdr hdr' : Headers}
    {e e' : Egress} (h : ingress T A hdr e = (A', hdr', e')) :
    emitted T A hdr e = hdr'.paxos ∨ emitted T A hdr e = none := by
  unfold emitted
  rw [h]
  cases e' with
  | drop => exact .inr rfl
  | port n => exact .inl rfl

/-- **Everything one packet can do**: a 1A or 2A that is not stale is answered, with the answer sent
or dropped; any other packet changes no register and leaves, if it leaves, as it came. -/
lemma ingress_cases (T : BitVec 1 → Transport) (A : Acceptor) (hdr : Headers) (e : Egress) :
    (∃ p, hdr.paxos = some p ∧ p.msgtype = PAXOS_1A ∧
      A.registerRound.read p.inst.toNat ≤ p.rnd ∧ (ingress T A hdr e).1 = promise A p ∧
      (emitted T A hdr e = some (answer1b A p) ∨ emitted T A hdr e = none)) ∨
    (∃ p, hdr.paxos = some p ∧ p.msgtype = PAXOS_2A ∧
      A.registerRound.read p.inst.toNat ≤ p.rnd ∧ (ingress T A hdr e).1 = accept A p ∧
      (emitted T A hdr e = some (answer2b A p) ∨ emitted T A hdr e = none)) ∨
    ((ingress T A hdr e).1 = A ∧ (emitted T A hdr e = hdr.paxos ∨ emitted T A hdr e = none)) := by
  cases hip : hdr.ipv4 with
  | none =>
      have h : ingress T A hdr e = (A, hdr, e) := by simp [ingress, hip]
      exact .inr (.inr ⟨by rw [h], emitted_of_ingress h⟩)
  | some ip =>
      cases hpx : hdr.paxos with
      | none =>
          have h : ingress T A hdr e = (A, hdr, e) := by simp [ingress, hip, hpx]
          exact .inr (.inr ⟨by rw [h], hpx ▸ emitted_of_ingress h⟩)
      | some p =>
          by_cases hr : A.registerRound.read p.inst.toNat ≤ p.rnd
          · obtain ⟨udp, e', h⟩ := ingress_fresh T A e hip hpx hr
            unfold acceptor_tbl at h
            by_cases h₁ : p.msgtype = PAXOS_1A
            · rw [if_pos h₁] at h
              exact .inl ⟨p, rfl, h₁, hr, by rw [h]; rfl, emitted_of_ingress h⟩
            · rw [if_neg h₁] at h
              by_cases h₂ : p.msgtype = PAXOS_2A
              · rw [if_pos h₂] at h
                exact .inr (.inl ⟨p, rfl, h₂, hr, by rw [h]; rfl, emitted_of_ingress h⟩)
              · rw [if_neg h₂] at h
                exact .inr (.inr ⟨by rw [h]; rfl, emitted_of_ingress h⟩)
          · have h : ingress T A hdr e = (A, hdr, e) := by simp [ingress, hip, hpx, hr]
            exact .inr (.inr ⟨by rw [h], hpx ▸ emitted_of_ingress h⟩)

/-! ## What is not answered -/

/-- An entry that forwards. -/
def Transport.Forwards (t : Transport) : Prop := ∃ port learnerPort, t = .forward port learnerPort

/-- A packet has become the answer to it, and is forwarded. -/
def Answered (p : PaxosT) (r : Acceptor × Headers × Egress) : Prop :=
  ∃ n p', r.2.2 = .port n ∧ r.2.1.paxos = some p' ∧
    (p.msgtype = PAXOS_1A ∧ p'.msgtype = PAXOS_1B ∨ p.msgtype = PAXOS_2A ∧ p'.msgtype = PAXOS_2B)

/-- The registers are as before, and the packet is marked to drop. -/
def Discarded (A : Acceptor) (r : Acceptor × Headers × Egress) : Prop := r.1 = A ∧ r.2.2 = .drop

/-- A packet is answered or discarded, and a stale 1A or 2A is not sent on as one. -/
structure Discards (T : BitVec 1 → Transport) (A : Acceptor) (hdr : Headers) (p : PaxosT)
    (e : Egress) : Prop where
  outcome : Answered p (ingress T A hdr e) ∨ Discarded A (ingress T A hdr e)
  stale : p.msgtype = PAXOS_1A ∨ p.msgtype = PAXOS_2A →
    p.rnd < A.registerRound.read p.inst.toNat →
      ∀ p', emitted T A hdr e = some p' → p'.msgtype ≠ p.msgtype

/-- A stale packet is marked to drop before the ingress control; the answer to any other 1A or 2A
has an entry that forwards, unless it writes what the registers hold already; packets of the other
types have one that drops. -/
structure Provided (T : BitVec 1 → Transport) (A : Acceptor) (p : PaxosT) (e : Egress) : Prop where
  stale : p.rnd < A.registerRound.read p.inst.toNat → e = .drop
  prepare : A.registerRound.read p.inst.toNat ≤ p.rnd → p.msgtype = PAXOS_1A →
    (T 0).Forwards ∨ A.registerRound.read p.inst.toNat = p.rnd
  accept : A.registerRound.read p.inst.toNat ≤ p.rnd → p.msgtype = PAXOS_2A →
    (T 0).Forwards ∨ A.registerRound.read p.inst.toNat = p.rnd ∧
      A.registerVRound.read p.inst.toNat = p.rnd ∧
      A.registerValue.read p.inst.toNat = p.paxosval
  other : A.registerRound.read p.inst.toNat ≤ p.rnd → p.msgtype ≠ PAXOS_1A →
    p.msgtype ≠ PAXOS_2A → T 1 = ._drop

/-- A promise that changes nothing. -/
lemma promise_eq_self_iff (A : Acceptor) {p : PaxosT} (h : p.inst.toNat < INSTANCE_COUNT) :
    promise A p = A ↔ A.registerRound.read p.inst.toNat = p.rnd := by
  rw [← Register.write_eq_self_iff _ h, promise, Acceptor.ext_iff]
  simp

/-- A vote that changes nothing. -/
lemma accept_eq_self_iff (A : Acceptor) {p : PaxosT} (h : p.inst.toNat < INSTANCE_COUNT) :
    accept A p = A ↔ A.registerRound.read p.inst.toNat = p.rnd ∧
      A.registerVRound.read p.inst.toNat = p.rnd ∧
      A.registerValue.read p.inst.toNat = p.paxosval := by
  rw [← Register.write_eq_self_iff _ h, ← Register.write_eq_self_iff _ h,
    ← Register.write_eq_self_iff _ h, accept, Acceptor.ext_iff]
  simp

/-- Of a packet that is not stale only the outcome matters. -/
lemma discards_iff_of_fresh (T : BitVec 1 → Transport) {A : Acceptor} (hdr : Headers) {p : PaxosT}
    (e : Egress) (hr : A.registerRound.read p.inst.toNat ≤ p.rnd) :
    Discards T A hdr p e ↔ Answered p (ingress T A hdr e) ∨ Discarded A (ingress T A hdr e) := by
  constructor
  · intro h
    exact h.outcome
  · intro h
    exact ⟨h, fun _ hstale => absurd hstale (BitVec.not_lt.mpr hr)⟩

section

variable (T : BitVec 1 → Transport) (A : Acceptor) {hdr : Headers} {ip : Ipv4T} {p : PaxosT}
  (e : Egress) (hip : hdr.ipv4 = some ip) (hpx : hdr.paxos = some p)
include hip hpx

/-- No table is applied to a stale packet. -/
lemma ingress_of_stale (hr : p.rnd < A.registerRound.read p.inst.toNat) :
    ingress T A hdr e = (A, hdr, e) := by
  have hr' : ¬ A.registerRound.read p.inst.toNat ≤ p.rnd := BitVec.not_le.mpr hr
  simp [ingress, hip, hpx, hr']

/-- Any other packet is dropped or forwarded as the entry for its `set_drop` says. `transport_tbl`
comes last, and changes neither the registers nor the Paxos header. -/
lemma ingress_of_fresh (hr : A.registerRound.read p.inst.toNat ≤ p.rnd) {f : Flow}
    (hf : acceptor_tbl ⟨A, hdr.udp, p, 1, e⟩ = f) :
    (ingress T A hdr e).1 = f.regs ∧ (ingress T A hdr e).2.1.paxos = some f.paxos ∧
      (T f.set_drop = ._drop → (ingress T A hdr e).2.2 = .drop) ∧
      ((T f.set_drop).Forwards → ∃ n, (ingress T A hdr e).2.2 = .port n) := by
  have hingress : ingress T A hdr e = ((transport_tbl T f).regs,
      { hdr with udp := (transport_tbl T f).udp, paxos := some (transport_tbl T f).paxos },
      (transport_tbl T f).egress_spec) := by
    rw [← hf]
    unfold ingress
    simp only [hip, hpx]
    rw [if_pos hr]
  obtain ⟨hregs, hpaxos⟩ := transport_tbl_frame T f
  rw [hingress]
  refine ⟨hregs, congrArg some hpaxos, ?_, ?_⟩
  · intro hdrop
    show (transport_tbl T f).egress_spec = .drop
    rw [transport_tbl, hdrop]
    rfl
  · rintro ⟨port, learnerPort, hforward⟩
    show ∃ n, (transport_tbl T f).egress_spec = .port n
    rw [transport_tbl, hforward]
    exact ⟨_, rfl⟩

/-- An answer is forwarded, unless its entry drops it; then nothing may have been written. So an
answer that is dropped has left the registers changed, unless it has written what was there. -/
lemma outcome_of_answer (hr : A.registerRound.read p.inst.toNat ≤ p.rnd) {f : Flow}
    (hf : acceptor_tbl ⟨A, hdr.udp, p, 1, e⟩ = f) (hset : f.set_drop = 0)
    (htype : p.msgtype = PAXOS_1A ∧ f.paxos.msgtype = PAXOS_1B ∨
      p.msgtype = PAXOS_2A ∧ f.paxos.msgtype = PAXOS_2B) :
    Answered p (ingress T A hdr e) ∨ Discarded A (ingress T A hdr e) ↔
      (T 0).Forwards ∨ f.regs = A := by
  obtain ⟨hregs, hpaxos, hdrop, hforward⟩ := ingress_of_fresh T A e hip hpx hr hf
  rw [hset] at hdrop hforward
  cases hT : T 0 with
  | _drop =>
      have hegress := hdrop hT
      have hnot : ¬ Transport._drop.Forwards := by
        rintro ⟨port, learnerPort, h⟩
        cases h
      rw [or_iff_right hnot]
      constructor
      · rintro (⟨n, p', hport, -⟩ | ⟨hsame, -⟩)
        · rw [hegress] at hport
          cases hport
        · rw [← hregs, hsame]
      · intro hsame
        exact .inr ⟨hregs.trans hsame, hegress⟩
  | forward port learnerPort =>
      have hforwards : (Transport.forward port learnerPort).Forwards := ⟨port, learnerPort, rfl⟩
      rw [hT] at hforward
      obtain ⟨n, hport⟩ := hforward hforwards
      exact iff_of_true (.inl ⟨n, f.paxos, hport, hpaxos, htype⟩) (.inl hforwards)

/-- A stale packet leaves as it came, unless somebody else has marked it. It has no answer, since it
keeps its type, and it is dropped only if the checksum's test has marked it. -/
lemma discards_iff_of_stale (hr : p.rnd < A.registerRound.read p.inst.toNat) :
    Discards T A hdr p e ↔ e = .drop := by
  have hingress := ingress_of_stale T A e hip hpx hr
  constructor
  · intro h
    have houtcome := h.outcome
    rw [hingress] at houtcome
    rcases houtcome with ⟨n, p', -, hp', htype⟩ | ⟨-, hdrop⟩
    · obtain rfl : p = p' := Option.some_inj.mp (hpx.symm.trans hp')
      rcases htype with ⟨ht, ht'⟩ | ⟨ht, ht'⟩
      · rw [ht] at ht'
        exact absurd ht' (by decide)
      · rw [ht] at ht'
        exact absurd ht' (by decide)
    · exact hdrop
  · intro he
    refine ⟨.inr ?_, fun _ _ p' hp' => ?_⟩
    · rw [hingress]
      exact ⟨rfl, he⟩
    · rw [emitted, hingress, he] at hp'
      cases hp'

/-- A packet of another type keeps its type and `set_drop = 1`. Such a packet has no answer, so that
the entry for `set_drop = 1` has to drop it. -/
lemma outcome_of_other (hr : A.registerRound.read p.inst.toNat ≤ p.rnd) (h₁ : p.msgtype ≠ PAXOS_1A)
    (h₂ : p.msgtype ≠ PAXOS_2A) :
    Answered p (ingress T A hdr e) ∨ Discarded A (ingress T A hdr e) ↔ T 1 = ._drop := by
  have hf : acceptor_tbl ⟨A, hdr.udp, p, 1, e⟩ = _drop ⟨A, hdr.udp, p, 1, e⟩ :=
    (if_neg h₁).trans (if_neg h₂)
  obtain ⟨hregs, -, hdrop, hforward⟩ := ingress_of_fresh T A e hip hpx hr hf
  constructor
  · rintro (⟨n, p', -, -, ⟨ht, -⟩ | ⟨ht, -⟩⟩ | ⟨-, hegress⟩)
    · exact absurd ht h₁
    · exact absurd ht h₂
    · cases hT : T 1 with
      | _drop => rfl
      | forward port learnerPort =>
          obtain ⟨n, hport⟩ := hforward ⟨port, learnerPort, hT⟩
          rw [hegress] at hport
          cases hport
  · intro hT
    exact .inr ⟨hregs, hdrop hT⟩

/-- **What the acceptor does not answer it discards**, exactly under the conditions of `Provided`.
The instance has to be inside the registers, since outside them a write does nothing. -/
theorem discards_iff (hinst : p.inst.toNat < INSTANCE_COUNT) :
    Discards T A hdr p e ↔ Provided T A p e := by
  by_cases hr : A.registerRound.read p.inst.toNat ≤ p.rnd
  · have hnot : ¬ p.rnd < A.registerRound.read p.inst.toNat := BitVec.not_lt.mpr hr
    rw [discards_iff_of_fresh T hdr e hr]
    by_cases h₁ : p.msgtype = PAXOS_1A
    · have hf : acceptor_tbl ⟨A, hdr.udp, p, 1, e⟩ = handle_1a ⟨A, hdr.udp, p, 1, e⟩ := if_pos h₁
      have hne : p.msgtype ≠ PAXOS_2A := by
        rw [h₁]
        decide
      have hregs : (handle_1a ⟨A, hdr.udp, p, 1, e⟩).regs = promise A p := rfl
      rw [outcome_of_answer T A e hip hpx hr hf rfl (.inl ⟨h₁, rfl⟩), hregs,
        promise_eq_self_iff A hinst]
      constructor
      · intro h
        exact ⟨fun h' => absurd h' hnot, fun _ _ => h, fun _ h' => absurd h' hne,
          fun _ h' => absurd h₁ h'⟩
      · intro h
        exact h.prepare hr h₁
    · by_cases h₂ : p.msgtype = PAXOS_2A
      · have hf : acceptor_tbl ⟨A, hdr.udp, p, 1, e⟩ = handle_2a ⟨A, hdr.udp, p, 1, e⟩ :=
          (if_neg h₁).trans (if_pos h₂)
        have hregs : (handle_2a ⟨A, hdr.udp, p, 1, e⟩).regs = accept A p := rfl
        rw [outcome_of_answer T A e hip hpx hr hf rfl (.inr ⟨h₂, rfl⟩), hregs,
          accept_eq_self_iff A hinst]
        constructor
        · intro h
          exact ⟨fun h' => absurd h' hnot, fun _ h' => absurd h' h₁, fun _ _ => h,
            fun _ _ h' => absurd h₂ h'⟩
        · intro h
          exact h.accept hr h₂
      · rw [outcome_of_other T A e hip hpx hr h₁ h₂]
        constructor
        · intro h
          exact ⟨fun h' => absurd h' hnot, fun _ h' => absurd h' h₁, fun _ h' => absurd h' h₂,
            fun _ _ _ => h⟩
        · intro h
          exact h.other hr h₁ h₂
  · have hlt : p.rnd < A.registerRound.read p.inst.toNat := BitVec.not_le.mp hr
    rw [discards_iff_of_stale T A e hip hpx hlt]
    constructor
    · intro h
      exact ⟨fun _ => h, fun h' => absurd h' hr, fun h' => absurd h' hr, fun h' => absurd h' hr⟩
    · intro h
      exact h.stale hlt

end

/-- Entries that forward the answers and drop everything else. -/
def answersOnly (set_drop : BitVec 1) : Transport :=
  if set_drop = 0 then .forward 1 0x8890 else ._drop

/-- The headers of a 1A for instance 7. -/
def prepare7 (rnd : BitVec 16) : Headers where
  ethernet := { dstAddr := 0, srcAddr := 0, etherType := 0x0800 }
  ipv4 := some { version := 4, ihl := 5, diffserv := 0, totalLen := 76, identification := 1,
                 flags := 0, fragOffset := 0, ttl := 64, protocol := 17, hdrChecksum := 0,
                 srcAddr := 0, dstAddr := 0 }
  udp := some { srcPort := 34951, dstPort := 0x8888, length_ := 56, checksum := 0 }
  paxos := some { msgtype := PAXOS_1A, inst := 7, rnd := rnd, vrnd := 0, acptid := 0,
                  paxoslen := 32, paxosval := 0 }

/-- A new acceptor and a 1A of round 1. -/
theorem discards_prepare7 :
    Discards answersOnly (init 1) (prepare7 1) ⟨PAXOS_1A, 7, 1, 0, 0, 32, 0⟩ (.port 0) ↔
      Provided answersOnly (init 1) ⟨PAXOS_1A, 7, 1, 0, 0, 32, 0⟩ (.port 0) :=
  discards_iff answersOnly (init 1) (.port 0) rfl rfl (by decide)

/-- After a promise of round 5 a 1A of round 1 leaves on port 0, as it came. -/
theorem stale_not_discarded :
    ¬ ∀ (T : BitVec 1 → Transport) (A : Acceptor) (hdr : Headers) (ip : Ipv4T) (p : PaxosT),
      hdr.ipv4 = some ip → hdr.paxos = some p → p.inst.toNat < INSTANCE_COUNT →
        Discards T A hdr p (.port 0) := by
  intro h
  have hstale := (h answersOnly (promise (init 1) ⟨PAXOS_1A, 7, 5, 0, 0, 32, 0⟩) (prepare7 1) _ _ rfl
    rfl (by decide)).stale (.inl rfl) (by decide +kernel) ⟨PAXOS_1A, 7, 1, 0, 0, 32, 0⟩
    (by decide +kernel)
  exact hstale rfl

end Acceptor

end P4xos.P4v16
