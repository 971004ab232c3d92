import P4xos.Lib.Machine
import P4xos.Lib.Voting
import P4xos.P4v16.Acceptor

/-!
# Safety of the P4-16 acceptor switches

`N` acceptor switches with distinct ids, a network that loses, duplicates and reorders packets, and
proposers that may send anything that conforms to the protocol (`Conforms`). The network is the list
of all packets sent so far: delivering any of them, any number of times and in any order, or never,
gives every such behaviour.

* `Says` is what a packet says to the abstract voting component of one instance. `Simulates` relates
  the switches to it: the round and vote registers are what the voter remembers (a vote in round 0
  stands for none), the packets in the network are what has been said.
* `Simulates.send`, `Simulates.deliver`: one step of the system is a step of the component or none.
  An answer that the tables drop, or a packet that is delivered in a frame without IPv4, is a step
  that nobody hears of.
* `simulates_reach`: the relation holds along every run of conforming proposers.
* `acceptors_agree`: two values voted for by majorities are equal. Agreement itself is proved for
  the component (`Voting.agreement`); what is shown here is that the switches are one.
* `acceptors_agree_recovery`: a run with a recovery, in which a value is chosen in two rounds.

The proposers are not part of the repository's P4-16 programs. What is asked of them is what the
protocol asks; no fairness is assumed and nothing is said of progress.
-/

namespace P4xos.P4v16

open P4xos.Lib P4xos.P4v16.Acceptor

variable {N : ℕ}

/-! ## The system -/

/-- The switches, and every Paxos header that was ever sent. -/
structure System (N : ℕ) where
  acceptors : Fin N → Acceptor
  net : List PaxosT

/-- A proposer sends a packet, or a packet from the network reaches a switch, in any frame around
its Paxos header. -/
inductive Action (N : ℕ)
  | send (p : PaxosT)
  | deliver (a : Fin N) (hdr : Headers) (egress_spec : Egress)

/-- `T` are the entries of each switch's `transport_tbl`, `ids` the switch ids. -/
def system (T : Fin N → BitVec 1 → Transport) (ids : Fin N → BitVec 16) :
    Machine (System N) (Action N) where
  init := { acceptors := fun a => Acceptor.init (ids a), net := [] }
  step s
    | .send p => some { s with net := p :: s.net }
    | .deliver a hdr e =>
        if ∀ p ∈ hdr.paxos, p ∈ s.net then
          some {
            acceptors := Function.update s.acceptors a (ingress (T a) (s.acceptors a) hdr e).1
            net := (emitted (T a) (s.acceptors a) hdr e).toList ++ s.net }
        else none

/-- Switch `a` has emitted a packet of the given type for instance `i` and round `r`. -/
def Emitted (ids : Fin N → BitVec 16) (s : System N) (msgtype : BitVec 16) (i : BitVec 32)
    (r : BitVec 16) (a : Fin N) (p : PaxosT) : Prop :=
  p ∈ s.net ∧ p.msgtype = msgtype ∧ p.inst = i ∧ p.rnd = r ∧ p.acptid = ids a

/-- A set of more than half of the switches. For three switches that is two of them. -/
def Majority (q : Finset (Fin N)) : Prop := N < 2 * q.card

/-- What the proposers keep to when they send `p`: only acceptors send 1B and 2B packets; a 2A has a
round of at least 1 and the value of every earlier 2A of its instance and round; above round 1, a
majority has emitted 1B packets for this instance and round, and the value is that of one with the
largest `vrnd` among them, unless that `vrnd` is 0. -/
structure Conforms (ids : Fin N → BitVec 16) (s : System N) (p : PaxosT) : Prop where
  not_answer : p.msgtype ≠ PAXOS_1B ∧ p.msgtype ≠ PAXOS_2B
  base : p.msgtype = PAXOS_2A → 1 ≤ p.rnd
  unique : p.msgtype = PAXOS_2A → ∀ p' ∈ s.net, p'.msgtype = PAXOS_2A → p'.inst = p.inst →
    p'.rnd = p.rnd → p'.paxosval = p.paxosval
  justified : p.msgtype = PAXOS_2A → 1 < p.rnd → ∃ q : Finset (Fin N), Majority q ∧
    ∃ promise : Fin N → PaxosT, (∀ a ∈ q, Emitted ids s PAXOS_1B p.inst p.rnd a (promise a)) ∧
      ∃ b ∈ q, (∀ a ∈ q, (promise a).vrnd ≤ (promise b).vrnd) ∧
        (1 ≤ (promise b).vrnd → p.paxosval = (promise b).paxosval)

/-- The runs in which all proposers conform. -/
def Conforming (ids : Fin N → BitVec 16) (s : System N) : Action N → Prop
  | .send p => Conforms ids s p
  | .deliver _ _ _ => True

/-! ## The simulation -/

/-- A vote as the header and the registers spell it: round 0 means none. -/
def voteOf (vrnd : BitVec 16) (value : BitVec 256) : Option (ℕ × BitVec 256) :=
  if vrnd = 0 then none else some (vrnd.toNat, value)

/-- A vote that is there is of a round from 1 on. -/
lemma voteOf_eq_some {vrnd : BitVec 16} {value : BitVec 256} {k : ℕ} {w : BitVec 256}
    (h : voteOf vrnd value = some (k, w)) : vrnd ≠ 0 ∧ k = vrnd.toNat ∧ w = value := by
  unfold voteOf at h
  split_ifs at h with h0
  cases h
  exact ⟨h0, rfl, rfl⟩

/-- What a packet says about instance `i`. -/
inductive Says (ids : Fin N → BitVec 16) (i : BitVec 32) (p : PaxosT) :
    Voting.Saying (Fin N) (BitVec 256) → Prop
  | propose (hi : p.inst = i) (ht : p.msgtype = PAXOS_2A) :
      Says ids i p (.propose p.rnd.toNat p.paxosval)
  | promise (a : Fin N) (hi : p.inst = i) (ht : p.msgtype = PAXOS_1B) (ha : p.acptid = ids a) :
      Says ids i p (.promise a p.rnd.toNat (voteOf p.vrnd p.paxosval))
  | vote (a : Fin N) (hi : p.inst = i) (ht : p.msgtype = PAXOS_2B) (ha : p.acptid = ids a) :
      Says ids i p (.vote a p.rnd.toNat p.paxosval)

/-- The rounds the switches have reached at instance `i`. -/
def roundAt (i : BitVec 32) (acceptors : Fin N → Acceptor) (a : Fin N) : ℕ :=
  ((acceptors a).registerRound.read i.toNat).toNat

/-- The votes the switches remember at instance `i`. -/
def lastAt (i : BitVec 32) (acceptors : Fin N → Acceptor) (a : Fin N) :
    Option (ℕ × BitVec 256) :=
  voteOf ((acceptors a).registerVRound.read i.toNat) ((acceptors a).registerValue.read i.toNat)

/-- The switches at instance `i`, and the packets about it, as a state of the voting component. -/
structure Simulates (ids : Fin N → BitVec 16) (i : BitVec 32) (s : System N)
    (t : Voting.State (Fin N) (BitVec 256)) : Prop where
  id : ∀ a, (s.acceptors a).registerAcceptorID = ids a
  represents : Voting.Represents (roundAt i s.acceptors) (lastAt i s.acceptors)
    (Voting.said (Says ids i) s.net) t

/-- Zeroed registers remember no vote, and an empty network says nothing. -/
lemma simulates_init (T : Fin N → BitVec 1 → Transport) (ids : Fin N → BitVec 16) (i : BitVec 32) :
    Simulates ids i (system T ids).init Voting.State.init where
  id _ := rfl
  represents := by
    refine Voting.represents_init (fun a => ?_) (fun a => ?_) (fun m => ?_)
    · simp [roundAt, system, Acceptor.init]
    · simp [lastAt, system, Acceptor.init, voteOf]
    · rintro ⟨p, hp, -⟩
      simp [system] at hp

section simulation

variable {ids : Fin N → BitVec 16} {i : BitVec 32} {s : System N}
  {t : Voting.State (Fin N) (BitVec 256)}

/-- A 2A says its proposal. -/
lemma says_2a {p : PaxosT} (ht : p.msgtype = PAXOS_2A)
    {m : Voting.Saying (Fin N) (BitVec 256)} (hm : Says ids i p m) :
    m = .propose p.rnd.toNat p.paxosval := by
  cases hm with
  | propose => rfl
  | promise a _ ht' => exact absurd (ht.symm.trans ht') (by decide)
  | vote a _ ht' => exact absurd (ht.symm.trans ht') (by decide)

/-- A packet of another instance says nothing. -/
lemma not_says_of_inst_ne {p : PaxosT} (h : p.inst ≠ i)
    (m : Voting.Saying (Fin N) (BitVec 256)) : ¬ Says ids i p m := by
  intro hm
  cases hm with
  | propose hi => exact h hi
  | promise a hi => exact h hi
  | vote a hi => exact h hi

/-- A packet of a conforming proposer that is no 2A says nothing. -/
lemma Conforms.not_says {p : PaxosT} (hp : Conforms ids s p) (h : p.msgtype ≠ PAXOS_2A)
    (m : Voting.Saying (Fin N) (BitVec 256)) : ¬ Says ids i p m := by
  intro hm
  cases hm with
  | propose _ ht => exact h ht
  | promise a _ ht => exact hp.not_answer.1 ht
  | vote a _ ht => exact hp.not_answer.2 ht

/-- The promises a conforming 2A above round 1 rests on, as promises said. The promise of the
highest round reported is the one whose value the 2A carries; a promise that reports round 0 reports
no vote. -/
lemma Conforms.justifies {p : PaxosT} (hp : Conforms ids s p) (ht : p.msgtype = PAXOS_2A)
    (hlt : 1 < p.rnd) : ∃ q, Majority q ∧ ∃ report : Fin N → Option (ℕ × BitVec 256),
      (∀ a ∈ q, Voting.Saying.promise a p.rnd.toNat (report a) ∈
        Voting.said (Says ids p.inst) s.net) ∧
        ∀ a ∈ q, ∀ k w, report a = some (k, w) →
          ∃ b ∈ q, ∃ k', k ≤ k' ∧ report b = some (k', p.paxosval) := by
  obtain ⟨q, hq, prom, hprom, b, hb, hmax, hval⟩ := hp.justified ht hlt
  refine ⟨q, hq, fun a => voteOf (prom a).vrnd (prom a).paxosval, ?_, ?_⟩
  · intro a ha
    obtain ⟨hnet, ht', hi', hr', hid⟩ := hprom a ha
    rw [← hr']
    exact ⟨prom a, hnet, .promise a hi' ht' hid⟩
  · intro a ha k w hk
    obtain ⟨hne, rfl, -⟩ := voteOf_eq_some hk
    have hle : (prom a).vrnd.toNat ≤ (prom b).vrnd.toNat := hmax a ha
    have hpos : 0 < (prom a).vrnd.toNat :=
      Nat.pos_of_ne_zero fun h0 => hne (BitVec.eq_of_toNat_eq h0)
    have hneb : (prom b).vrnd ≠ 0 := by
      intro h0
      rw [h0, BitVec.ofNat_eq_ofNat, BitVec.toNat_zero] at hle
      omega
    refine ⟨b, hb, _, hle, ?_⟩
    rw [hval (by simp only [BitVec.le_def, BitVec.ofNat_eq_ofNat, BitVec.toNat_ofNat]; omega)]
    exact if_neg hneb

/-- **A conforming proposer's packet** is a proposal or says nothing. A 2A of the instance is the
proposal, and `Conforms` is what the abstract component asks of one. -/
lemma Simulates.send (h : Simulates ids i s t) {p : PaxosT} (hp : Conforms ids s p) :
    ∃ t', (t' = t ∨ Voting.Step Majority 1 t t') ∧
      Simulates ids i { s with net := p :: s.net } t' := by
  by_cases h2a : p.msgtype = PAXOS_2A ∧ p.inst = i
  · obtain ⟨ht, rfl⟩ := h2a
    have hbase : 1 ≤ p.rnd.toNat := by simpa [BitVec.le_def] using hp.base ht
    have huniq : ∀ w, Voting.Saying.propose p.rnd.toNat w ∈ Voting.said (Says ids p.inst) s.net →
        w = p.paxosval := by
      rintro w ⟨q, hq, hm⟩
      generalize hr : p.rnd.toNat = r at hm
      cases hm with
      | propose hi ht' => exact hp.unique ht q hq ht' hi (BitVec.eq_of_toNat_eq hr.symm)
    have hjust := hbase.eq_or_lt.imp Eq.symm fun hlt =>
      hp.justifies ht (by simpa [BitVec.lt_def] using hlt)
    obtain ⟨t', hstep, hrep⟩ := h.represents.propose hbase huniq hjust
      (Voting.said_cons_eq (.propose rfl ht) fun m hm => says_2a ht hm)
    exact ⟨t', hstep, h.id, hrep⟩
  · have hsilent : ∀ m, ¬ Says ids i p m := by
      by_cases ht : p.msgtype = PAXOS_2A
      · exact not_says_of_inst_ne fun hi => h2a ⟨ht, hi⟩
      · exact hp.not_says ht
    have hsaid : Voting.said (Says ids i) ([p] ++ s.net) = Voting.said (Says ids i) s.net := by
      refine Voting.said_append_eq fun q hq => .inr ?_
      rw [List.mem_singleton.mp hq]
      exact hsilent
    exact ⟨t, .inl rfl, h.id, hsaid ▸ h.represents⟩

/-- Replacing a switch by one with the same id. -/
lemma id_update (h : ∀ a, (s.acceptors a).registerAcceptorID = ids a) {a : Fin N} {A : Acceptor}
    (hA : A.registerAcceptorID = (s.acceptors a).registerAcceptorID) (b : Fin N) :
    (Function.update s.acceptors a A b).registerAcceptorID = ids b := by
  by_cases hb : b = a
  · subst hb
    rw [Function.update_self, hA]
    exact h b
  · rw [Function.update_of_ne hb]
    exact h b

/-- The rounds after a switch has been replaced. -/
lemma roundAt_update (acceptors : Fin N → Acceptor) (a : Fin N) (A : Acceptor) :
    roundAt i (Function.update acceptors a A) =
      Function.update (roundAt i acceptors) a (A.registerRound.read i.toNat).toNat :=
  Function.comp_update (fun A : Acceptor => (A.registerRound.read i.toNat).toNat) acceptors a A

/-- The votes after a switch has been replaced. -/
lemma lastAt_update (acceptors : Fin N → Acceptor) (a : Fin N) (A : Acceptor) :
    lastAt i (Function.update acceptors a A) = Function.update (lastAt i acceptors) a
      (voteOf (A.registerVRound.read i.toNat) (A.registerValue.read i.toNat)) :=
  Function.comp_update (fun A : Acceptor =>
    voteOf (A.registerVRound.read i.toNat) (A.registerValue.read i.toNat)) acceptors a A

/-- A switch that keeps its round register at the instance keeps its round. -/
lemma roundAt_same {acceptors : Fin N → Acceptor} {a : Fin N} {A : Acceptor}
    (h : A.registerRound.read i.toNat = (acceptors a).registerRound.read i.toNat) :
    roundAt i (Function.update acceptors a A) = roundAt i acceptors := by
  rw [roundAt_update, Function.update_eq_self_iff, h]
  rfl

/-- A switch that keeps the other two keeps its vote. -/
lemma lastAt_same {acceptors : Fin N → Acceptor} {a : Fin N} {A : Acceptor}
    (hvround : A.registerVRound.read i.toNat = (acceptors a).registerVRound.read i.toNat)
    (hvalue : A.registerValue.read i.toNat = (acceptors a).registerValue.read i.toNat) :
    lastAt i (Function.update acceptors a A) = lastAt i acceptors := by
  rw [lastAt_update, Function.update_eq_self_iff, hvround, hvalue]
  rfl

/-- What a 1B of switch `a` says. -/
lemma says_answer1b (hids : Function.Injective ids) {a : Fin N} {p : PaxosT}
    (ha : (s.acceptors a).registerAcceptorID = ids a) (hi : p.inst = i)
    {m : Voting.Saying (Fin N) (BitVec 256)} (hm : Says ids i (answer1b (s.acceptors a) p) m) :
    m = .promise a p.rnd.toNat (lastAt i s.acceptors a) := by
  subst hi
  cases hm with
  | propose _ ht => exact absurd ht (show PAXOS_1B ≠ PAXOS_2A by decide)
  | promise b _ _ hb =>
      rw [hids (ha.symm.trans hb)]
      rfl
  | vote b _ ht => exact absurd ht (show PAXOS_1B ≠ PAXOS_2B by decide)

/-- What a 2B of switch `a` says. -/
lemma says_answer2b (hids : Function.Injective ids) {a : Fin N} {p : PaxosT}
    (ha : (s.acceptors a).registerAcceptorID = ids a)
    {m : Voting.Saying (Fin N) (BitVec 256)} (hm : Says ids i (answer2b (s.acceptors a) p) m) :
    m = .vote a p.rnd.toNat p.paxosval := by
  cases hm with
  | propose _ ht => exact absurd ht (show PAXOS_2B ≠ PAXOS_2A by decide)
  | promise b _ ht => exact absurd ht (show PAXOS_2B ≠ PAXOS_1B by decide)
  | vote b _ _ hb =>
      rw [hids (ha.symm.trans hb)]
      rfl

/-- A delivery that leaves the registers at the instance, and says nothing about it. -/
lemma Simulates.stutter (h : Simulates ids i s t) {a : Fin N} {A : Acceptor} {o : Option PaxosT}
    (hA : A.registerAcceptorID = (s.acceptors a).registerAcceptorID)
    (hround : A.registerRound.read i.toNat = (s.acceptors a).registerRound.read i.toNat)
    (hvround : A.registerVRound.read i.toNat = (s.acceptors a).registerVRound.read i.toNat)
    (hvalue : A.registerValue.read i.toNat = (s.acceptors a).registerValue.read i.toNat)
    (ho : ∀ q ∈ o, q ∈ s.net ∨ q.inst ≠ i) :
    Simulates ids i ⟨Function.update s.acceptors a A, o.toList ++ s.net⟩ t := by
  refine ⟨id_update h.id hA, ?_⟩
  dsimp only
  rw [roundAt_same hround, lastAt_same hvround hvalue, Voting.said_append_eq ?_]
  · exact h.represents
  · intro q hq
    exact (ho q (by simpa using hq)).imp_right not_says_of_inst_ne

/-- A promise, with the 1B sent or lost on the way out. A 1A of the instance raises the round and
keeps the vote; one of another instance is no step. -/
lemma Simulates.promise (hids : Function.Injective ids) (h : Simulates ids i s t)
    (hlt : i.toNat < INSTANCE_COUNT) (a : Fin N) {p : PaxosT}
    (hr : (s.acceptors a).registerRound.read p.inst.toNat ≤ p.rnd) {o : Option PaxosT}
    (ho : ∀ q ∈ o, q = answer1b (s.acceptors a) p) :
    ∃ t', (t' = t ∨ Voting.Step Majority 1 t t') ∧ Simulates ids i
      ⟨Function.update s.acceptors a ((s.acceptors a).promise p), o.toList ++ s.net⟩ t' := by
  by_cases hi : p.inst = i
  · subst hi
    obtain ⟨t', hstep, hrep⟩ := h.represents.promise Majority 1 (a := a) hr
      (Voting.said_mono fun q hq => List.mem_append.mpr (.inr hq))
      (Voting.said_append_subset fun q hq => .inr fun m hm =>
        says_answer1b hids (h.id a) rfl (ho q (Option.mem_toList.mp hq) ▸ hm))
    refine ⟨t', hstep, id_update h.id rfl, ?_⟩
    dsimp only
    rw [roundAt_update, lastAt_same (A := (s.acceptors a).promise p) rfl rfl]
    simpa [Acceptor.promise, hlt] using hrep
  · have hne : i.toNat ≠ p.inst.toNat := fun h => hi (BitVec.eq_of_toNat_eq h.symm)
    refine ⟨t, .inl rfl, h.stutter rfl ?_ rfl rfl fun q hq => .inr ?_⟩
    · simp [Acceptor.promise, hne]
    · rw [ho q hq]
      exact hi

/-- A vote, with the 2B sent or lost on the way out. The registers hold the vote whether the 2B gets
out or not. A 2A of another instance changes neither. -/
lemma Simulates.accept (hids : Function.Injective ids) (h : Simulates ids i s t)
    (hlt : i.toNat < INSTANCE_COUNT) (hreach : Voting.Reachable Majority 1 t) (a : Fin N)
    {p : PaxosT} (hp : p ∈ s.net) (ht : p.msgtype = PAXOS_2A)
    (hr : (s.acceptors a).registerRound.read p.inst.toNat ≤ p.rnd) {o : Option PaxosT}
    (ho : ∀ q ∈ o, q = answer2b (s.acceptors a) p) :
    ∃ t', (t' = t ∨ Voting.Step Majority 1 t t') ∧ Simulates ids i
      ⟨Function.update s.acceptors a ((s.acceptors a).accept p), o.toList ++ s.net⟩ t' := by
  by_cases hi : p.inst = i
  · subst hi
    have hprop : Voting.Saying.propose p.rnd.toNat p.paxosval ∈
        Voting.said (Says ids p.inst) s.net := ⟨p, hp, .propose rfl ht⟩
    have hrnd : p.rnd ≠ 0 := by
      have hbase := hreach.inv.proposed_base _ _ ((h.represents.proposed _ _).mpr hprop)
      intro h0
      rw [h0] at hbase
      simp at hbase
    obtain ⟨t', hstep, hrep⟩ := h.represents.vote Majority 1 (a := a) hr hprop
      (Voting.said_mono fun q hq => List.mem_append.mpr (.inr hq))
      (Voting.said_append_subset fun q hq => .inr fun m hm =>
        says_answer2b hids (h.id a) (ho q (Option.mem_toList.mp hq) ▸ hm))
    refine ⟨t', hstep, id_update h.id rfl, ?_⟩
    dsimp only
    rw [roundAt_update, lastAt_update]
    simp only [Acceptor.accept, Register.read_write_self _ hlt, voteOf, if_neg hrnd]
    exact hrep
  · have hne : i.toNat ≠ p.inst.toNat := fun h => hi (BitVec.eq_of_toNat_eq h.symm)
    refine ⟨t, .inl rfl, h.stutter rfl ?_ ?_ ?_ fun q hq => .inr ?_⟩
    · simp [Acceptor.accept, hne]
    · simp [Acceptor.accept, hne]
    · simp [Acceptor.accept, hne]
    · rw [ho q hq]
      exact hi

/-- **One delivery**: the abstract component promises, votes, or does nothing. The three outcomes of
a packet are those of `ingress_cases`; in the last one the packet is passed on or dropped. -/
lemma Simulates.deliver (hids : Function.Injective ids) (h : Simulates ids i s t)
    (hlt : i.toNat < INSTANCE_COUNT) (hreach : Voting.Reachable Majority 1 t)
    (T : Fin N → BitVec 1 → Transport) (a : Fin N) {hdr : Headers} (e : Egress)
    (hnet : ∀ p ∈ hdr.paxos, p ∈ s.net) :
    ∃ t', (t' = t ∨ Voting.Step Majority 1 t t') ∧
      Simulates ids i ⟨Function.update s.acceptors a (ingress (T a) (s.acceptors a) hdr e).1,
        (emitted (T a) (s.acceptors a) hdr e).toList ++ s.net⟩ t' := by
  have hout : ∀ {x}, emitted (T a) (s.acceptors a) hdr e = some x ∨
      emitted (T a) (s.acceptors a) hdr e = none →
      ∀ q ∈ emitted (T a) (s.acceptors a) hdr e, q = x := by
    rintro x (h | h) q hq
    · rw [h, Option.mem_some_iff] at hq
      exact hq.symm
    · rw [h] at hq
      cases hq
  rcases ingress_cases (T a) (s.acceptors a) hdr e with
    ⟨p, hp, ht, hr, hregs, ho⟩ | ⟨p, hp, ht, hr, hregs, ho⟩ | ⟨hregs, ho⟩ <;> rw [hregs]
  · exact h.promise hids hlt a hr (hout ho)
  · exact h.accept hids hlt hreach a (hnet p hp) ht hr (hout ho)
  · refine ⟨t, .inl rfl, h.stutter rfl rfl rfl rfl fun q hq => .inl ?_⟩
    rcases ho with ho | ho <;> rw [ho] at hq
    · exact hnet q hq
    · cases hq

end simulation

/-- **The simulation along runs.** The instance has to be inside the registers, since a switch
forgets what is outside. -/
theorem simulates_reach (T : Fin N → BitVec 1 → Transport) {ids : Fin N → BitVec 16}
    (hids : Function.Injective ids) {i : BitVec 32} (hlt : i.toNat < INSTANCE_COUNT) {s : System N}
    (h : (system T ids).Reach (Conforming ids) s) :
    ∃ t, Voting.Reachable Majority 1 t ∧ Simulates ids i s t := by
  refine h.simulates (simulates_init T ids i) ?_
  intro s act s' t _ hreach hsim hP hstep
  cases act with
  | send p =>
      simp only [system, Option.some.injEq] at hstep
      subst hstep
      exact hsim.send hP
  | deliver a hdr e =>
      simp only [system] at hstep
      split_ifs at hstep with hnet
      cases hstep
      exact hsim.deliver hids hlt hreach T a e hnet

/-! ## Agreement -/

/-- More than half of the switches have emitted a 2B for the instance, round and value. -/
def Chosen (ids : Fin N → BitVec 16) (s : System N) (i : BitVec 32) (r : BitVec 16)
    (v : BitVec 256) : Prop :=
  ∃ q, Majority q ∧ ∀ a ∈ q, ∃ p, Emitted ids s PAXOS_2B i r a p ∧ p.paxosval = v

/-- The votes behind a chosen value have been said. -/
lemma Chosen.said {ids : Fin N → BitVec 16} {s : System N} {i : BitVec 32} {r : BitVec 16}
    {v : BitVec 256} (h : Chosen ids s i r v) :
    ∃ q, Majority q ∧ ∀ a ∈ q, Voting.Saying.vote a r.toNat v ∈ Voting.said (Says ids i) s.net := by
  obtain ⟨q, hq, hall⟩ := h
  refine ⟨q, hq, fun a ha => ?_⟩
  obtain ⟨p, ⟨hnet, ht, hpi, rfl, hid⟩, rfl⟩ := hall a ha
  exact ⟨p, hnet, .vote a hpi ht hid⟩

/-- **Safety of the switches.** In every run of conforming proposers, two values that majorities of
the switches emitted in 2B packets for one instance are equal. -/
theorem acceptors_agree (T : Fin N → BitVec 1 → Transport) (ids : Fin N → BitVec 16)
    (hids : Function.Injective ids) (s : System N)
    (h : (system T ids).Reach (Conforming ids) s) (i : BitVec 32) (hi : i.toNat < INSTANCE_COUNT)
    (r r' : BitVec 16) (v v' : BitVec 256) (hv : Chosen ids s i r v) (hv' : Chosen ids s i r' v') :
    v = v' := by
  obtain ⟨t, hreach, hsim⟩ := simulates_reach T hids hi h
  have hmeet : Voting.QuorumsMeet (Majority : Finset (Fin N) → Prop) := by
    have hm := Voting.majority_quorums_meet (α := Fin N)
    rw [Fintype.card_fin] at hm
    exact hm
  exact hsim.represents.agreement hreach hmeet hv.said hv'.said

/-! ### A run with a recovery -/

/-- A proposer sends `p`, which then reaches the listed switches, the last one first. -/
def broadcast (T : Fin N → BitVec 1 → Transport) (hdr : PaxosT → Headers) (s : System N)
    (p : PaxosT) : List (Fin N) → System N
  | [] => { s with net := p :: s.net }
  | a :: as =>
      let s' := broadcast T hdr s p as
      { acceptors := Function.update s'.acceptors a
          (ingress (T a) (s'.acceptors a) (hdr p) (.port 0)).1
        net := (emitted (T a) (s'.acceptors a) (hdr p) (.port 0)).toList ++ s'.net }

/-- The packet stays in the network. -/
lemma mem_broadcast (T : Fin N → BitVec 1 → Transport) (hdr : PaxosT → Headers) (s : System N)
    (p : PaxosT) (as : List (Fin N)) : p ∈ (broadcast T hdr s p as).net := by
  induction as with
  | nil => exact List.mem_cons_self
  | cons a as ih => exact List.mem_append.mpr (.inr ih)

/-- A conforming broadcast is a run. -/
lemma reach_broadcast {T : Fin N → BitVec 1 → Transport} {ids : Fin N → BitVec 16}
    {hdr : PaxosT → Headers} {s : System N} {p : PaxosT} (hhdr : (hdr p).paxos = some p)
    (h : (system T ids).Reach (Conforming ids) s) (hp : Conforms ids s p) (as : List (Fin N)) :
    (system T ids).Reach (Conforming ids) (broadcast T hdr s p as) := by
  induction as with
  | nil => exact h.step (a := .send p) hp rfl
  | cons a as ih =>
      refine ih.step (a := .deliver a (hdr p) (.port 0)) trivial (if_pos ?_)
      intro p' hp'
      rw [hhdr, Option.mem_some_iff] at hp'
      exact hp' ▸ mem_broadcast T hdr s p as

/-- The ids 1, 2, 3. -/
def threeIds (a : Fin 3) : BitVec 16 := BitVec.ofNat 16 (a.val + 1)

/-- Every answer is forwarded, everything else is dropped. -/
def forwardAnswers (_ : Fin 3) (set_drop : BitVec 1) : Transport :=
  if set_drop = 0 then .forward 2 34952 else ._drop

/-- A UDP frame around a Paxos header. -/
def udpFrame (p : PaxosT) : Headers :=
  ⟨⟨0, 0, 0x0800⟩, some ⟨4, 5, 0, 0, 0, 0, 0, 64, 17, 0, 0, 0⟩, some ⟨34953, 34952, 0, 0⟩, some p⟩

/-- Value 7 is voted for in round 1 by two of three switches. -/
def votedOnce (a b : Fin 3) : System 3 :=
  broadcast forwardAnswers udpFrame (system forwardAnswers threeIds).init
    ⟨PAXOS_2A, 1, 1, 0, 0, 1, 7⟩ [b, a]

/-- Round 2 is promised by one of them and the third switch. -/
def prepared (a b c : Fin 3) : System 3 :=
  broadcast forwardAnswers udpFrame (votedOnce a b) ⟨PAXOS_1A, 1, 2, 0, 0, 1, 0⟩ [c, b]

/-- The promises report value 7, which these switches vote for in round 2. -/
def votedTwice (a b c : Fin 3) : System 3 :=
  broadcast forwardAnswers udpFrame (prepared a b c) ⟨PAXOS_2A, 1, 2, 1, 0, 1, 7⟩ [c, b]

/-- The three packets conform, so the run is one of conforming proposers. Each of them is broadcast:
the 2A of round 1, the 1A of round 2, and the 2A of round 2. -/
lemma reach_votedTwice :
    (system forwardAnswers threeIds).Reach (Conforming threeIds) (votedTwice 0 1 2) := by
  have h₁ : (system forwardAnswers threeIds).Reach (Conforming threeIds) (votedOnce 0 1) := by
    refine reach_broadcast rfl .init ⟨by decide, by decide, by decide, ?_⟩ _
    exact fun _ h => absurd h (by decide)
  have h₂ : (system forwardAnswers threeIds).Reach (Conforming threeIds) (prepared 0 1 2) := by
    refine reach_broadcast rfl h₁ ⟨by decide, by decide, by decide, ?_⟩ _
    exact fun h => absurd h (by decide)
  refine reach_broadcast rfl h₂ ⟨by decide, by decide, by decide, fun _ _ => ?_⟩ _
  -- The 2A of round 2 rests on the promises of switches 1 and 2, of which 1 reports the vote
  refine ⟨{1, 2}, by unfold Majority; decide, fun a =>
    if a = 1 then ⟨PAXOS_1B, 1, 2, 1, 2, 1, 7⟩ else ⟨PAXOS_1B, 1, 2, 0, 3, 1, 0⟩, ?_, 1, ?_⟩
  · unfold Emitted
    decide
  · decide

/-- Both rounds have chosen value 7. In round 1 by switches 0 and 1, in round 2 by switches 1 and 2.
-/
lemma chosen_votedTwice :
    Chosen threeIds (votedTwice 0 1 2) 1 1 7 ∧ Chosen threeIds (votedTwice 0 1 2) 1 2 7 := by
  refine ⟨⟨{0, 1}, by unfold Majority; decide, fun a ha => ?_⟩,
    ⟨{1, 2}, by unfold Majority; decide, fun a ha => ?_⟩⟩
  · refine ⟨⟨PAXOS_2B, 1, 1, 0, threeIds a, 1, 7⟩, ?_, rfl⟩
    unfold Emitted
    revert a
    decide
  · refine ⟨⟨PAXOS_2B, 1, 2, 1, threeIds a, 1, 7⟩, ?_, rfl⟩
    unfold Emitted
    revert a
    decide

/-- Agreement in that run: the two values that were chosen are one. -/
theorem acceptors_agree_recovery : ∃ v v',
    (system forwardAnswers threeIds).Reach (Conforming threeIds) (votedTwice 0 1 2) ∧
      Chosen threeIds (votedTwice 0 1 2) 1 1 v ∧ Chosen threeIds (votedTwice 0 1 2) 1 2 v' ∧
      v = v' :=
  ⟨7, 7, reach_votedTwice, chosen_votedTwice.1, chosen_votedTwice.2,
    acceptors_agree forwardAnswers threeIds (by decide) (votedTwice 0 1 2) reach_votedTwice 1
      (by decide) 1 2 7 7 chosen_votedTwice.1 chosen_votedTwice.2⟩

end P4xos.P4v16
