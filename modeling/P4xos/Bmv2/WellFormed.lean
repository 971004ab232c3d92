import P4xos.Bmv2.System

/-!
# What holds in every run of the bmv2 system

No assumption on the run: any number of requests, any packets delivered in any order.

1. `Heard` ties the votes and promises a replica has counted to the packets of the network. 2.
`Origin` says where a packet of the network comes from: prepares and promises are of round 1,
accepts are of round 0 and numbered by the coordinator or of round 1 and sent by a replica, and
promises and votes carry the id of an acceptor. A value is either empty or the message of a request
with the instance's number (`Legit`). 3. `WellFormed` adds that the acceptors store such values,
that the coordinator's counter is the number of requests, and that what a replica has sent is in the
network. 4. Each action keeps it: a request (`WellFormed.request`), and a packet at an acceptor
(`WellFormed.toAcceptor`) or at a replica (`WellFormed.toReplica`). The network only grows, so what
is known of its packets stays true (`Origin.mono`, `Heard.mono`). 5. `wellFormed_reach`: it holds in
every reached state.

Beyond 2 ^ 16 requests the counter wraps around, and several requests have the number of an
instance; up to then `request_unique` tells them apart.
-/

namespace P4xos.Bmv2

open P4xos.Lib P4xos.P4v14

variable {ρ σ Cmd : Type*}

/-! ## Packets -/

/-- The packet is of round 0 and carries the value of the request it is numbered after. -/
def Carries (sequenced : List PaxosT) (p : PaxosT) : Prop :=
  p.round = 0 ∧ ∃ k q, sequenced[k]? = some q ∧ p.inst = BitVec.ofNat 16 (k + 1) ∧
    p.value = q.value

/-- The value's message is empty, or that of a request with the instance's number. -/
def Legit (sequenced : List PaxosT) (i : BitVec 16) (v : BitVec 512) : Prop :=
  payload v = [] ∨ ∃ k q, sequenced[k]? = some q ∧ i = BitVec.ofNat 16 (k + 1) ∧
    payload v = payload q.value

/-- A request keeps its number when others come. -/
lemma getElem?_append_of_some {sequenced : List PaxosT} {k : ℕ} {q : PaxosT}
    (h : sequenced[k]? = some q) (q' : PaxosT) : (sequenced ++ [q'])[k]? = some q := by
  rwa [List.getElem?_append_left (List.getElem?_eq_some_iff.mp h).1]

/-- Its request stays the one it is numbered after. -/
lemma Carries.append {sequenced : List PaxosT} {p : PaxosT} (h : Carries sequenced p)
    (q : PaxosT) : Carries (sequenced ++ [q]) p := by
  obtain ⟨hr, k, q', hk, hrest⟩ := h
  exact ⟨hr, k, q', getElem?_append_of_some hk q, hrest⟩

/-- What is legitimate stays so when other requests come. -/
lemma Legit.append {sequenced : List PaxosT} {i : BitVec 16} {v : BitVec 512}
    (h : Legit sequenced i v) (q : PaxosT) : Legit (sequenced ++ [q]) i v := by
  refine h.imp id ?_
  rintro ⟨k, q', hk, hrest⟩
  exact ⟨k, q', getElem?_append_of_some hk q, hrest⟩

/-- The value of a request is legitimate. -/
lemma Carries.legit {sequenced : List PaxosT} {p : PaxosT} (h : Carries sequenced p) :
    Legit sequenced p.inst p.value := by
  obtain ⟨-, k, q, hk, hi, hv⟩ := h
  exact .inr ⟨k, q, hk, hi, congrArg payload hv⟩

/-- The initial content of a register reads as the empty message. -/
lemma payload_zero : payload 0 = [] := by
  rw [payload, fieldBytes, BitVec.ofNat_eq_ofNat, BitVec.toNat_zero]
  decide

/-- The 2A of a request that the coordinator has just numbered. -/
lemma carries_numbered {C : Coordinator} {sequenced : List PaxosT}
    (h : C.instance_register = BitVec.ofNat 16 sequenced.length) (q : PaxosT) :
    Carries (sequenced ++ [q]) (numbered C q) := by
  refine ⟨rfl, sequenced.length, q, List.getElem?_concat_length, ?_, rfl⟩
  simp only [numbered, h]
  rw [BitVec.ofNat_add]
  rfl

/-- Up to `2 ^ 16` requests, the number of an instance tells its request. -/
lemma request_unique {sequenced : List PaxosT} {k k' : ℕ} {q q' : PaxosT}
    (hlen : sequenced.length ≤ 2 ^ 16) (hk : sequenced[k]? = some q)
    (hk' : sequenced[k']? = some q')
    (hi : BitVec.ofNat 16 (k + 1) = BitVec.ofNat 16 (k' + 1)) : q = q' := by
  have hlt : k < sequenced.length := (List.getElem?_eq_some_iff.mp hk).1
  have hlt' : k' < sequenced.length := (List.getElem?_eq_some_iff.mp hk').1
  have hkk : k = k' := by
    rw [← BitVec.toNat_inj, BitVec.toNat_ofNat, BitVec.toNat_ofNat] at hi
    omega
  subst hkk
  rw [hk, Option.some.injEq] at hk'
  exact hk'

/-! ## Replicas -/

/-- The message of some packet of the given type. The learner sees of a packet what `message` keeps.
-/
def Received (msgtype : BitVec 8) (net : List PaxosT) (m : PaxosMessage Bytes) : Prop :=
  ∃ p ∈ net, p.msgtype = msgtype ∧ m = message p

/-- In a larger network it was received, too. -/
lemma Received.mono {msgtype : BitVec 8} {net net' : List PaxosT} (h : ∀ p ∈ net, p ∈ net')
    (m : PaxosMessage Bytes) (hm : Received msgtype net m) : Received msgtype net' m := by
  obtain ⟨p, hp, hrest⟩ := hm
  exact ⟨p, h p hp, hrest⟩

/-- What a replica has counted was sent. -/
structure Heard (net : List PaxosT) (L : PaxosLearner Bytes) : Prop where
  votes : PaxosLearner.Inv (Received PAXOS_2B net) L
  promises : PaxosLearner.PromiseInv (Received PAXOS_1B net) L
  majority : L.majority = 2

/-- A new replica has counted nothing. -/
lemma heard_new (net : List PaxosT) : Heard net (PaxosLearner.new NUM_ACCEPTORS) :=
  ⟨PaxosLearner.inv_new _ _, PaxosLearner.promiseInv_new _ _, rfl⟩

/-- Packets are not taken out of the network. -/
lemma Heard.mono {net net' : List PaxosT} {L : PaxosLearner Bytes} (h : Heard net L)
    (hsub : ∀ p ∈ net, p ∈ net') : Heard net' L :=
  ⟨h.votes.mono (Received.mono hsub), h.promises.mono (Received.mono hsub), h.majority⟩

/-- A packet of the network at a replica. What is counted then is this packet. A vote is heard by
the state of its instance, a promise by that of its proposer; other packets change neither. -/
lemma Heard.handle_pkt {app : Application σ Cmd} {net : List PaxosT} {L L' : Learner σ} {p : PaxosT}
    {src : String} {sport dport : ℕ} {outs : List (Out Cmd)} {res : Except PyExc Unit}
    (h : Heard net L.learner) (hp : p ∈ net)
    (hcall : L.handle_pkt app (sniffed p src sport dport) = (L', outs, res)) :
    Heard net L'.learner := by
  rcases handle_pkt_cases h.promises hcall with
    ⟨-, hl, -⟩ | ⟨ht, ⟨o, ho⟩, -⟩ | ⟨ht, hl, -⟩ | ⟨ht, hl, -⟩
  · rw [hl]
    exact h
  · obtain ⟨hprom, hmaj⟩ := PaxosLearner.handle_p2b_frame ho
    exact ⟨h.votes.handle_p2b ⟨p, hp, ht, rfl⟩ ho, h.promises.congr hprom hmaj,
      hmaj.trans h.majority⟩
  all_goals
    obtain ⟨hlogs, hstates, hmaj⟩ := PaxosLearner.handle_p1b_frame L.learner (message p)
    rw [hl]
    exact ⟨h.votes.congr hlogs hstates hmaj, h.promises.handle_p1b ⟨p, hp, ht, rfl⟩,
      hmaj.trans h.majority⟩

/-! ## The invariant of every run -/

/-- Where a packet of the network comes from. -/
structure Origin (s : System ρ σ Cmd) (p : PaxosT) : Prop where
  prepare : p.msgtype = PAXOS_1A → p.round = 1
  promise : p.msgtype = PAXOS_1B → p.round = 1 ∧ ∃ a, p.acceptor = datapathId a
  accept : p.msgtype = PAXOS_2A → p.value ≠ 0 ∧
    (Carries s.sequenced p ∨ p.round = 1 ∧ ∃ r, p ∈ sent (s.replicas r).outs)
  vote : p.msgtype = PAXOS_2B → ∃ a, p.acceptor = datapathId a
  legit : p.msgtype ≠ PAXOS_1A → Legit s.sequenced p.inst p.value

/-- The invariant of every run. -/
structure WellFormed (s : System ρ σ Cmd) : Prop where
  counter : s.coordinator.instance_register = BitVec.ofNat 16 s.sequenced.length
  id : ∀ a, (s.acceptors a).datapath_id = datapathId a
  stored : ∀ a (i : BitVec 16), Legit s.sequenced i ((s.acceptors a).values_register.read i.toNat)
  net : ∀ p ∈ s.net, Origin s p
  heard : ∀ r, Heard s.net (s.replicas r).learner.learner
  sent_net : ∀ r, ∀ p ∈ sent (s.replicas r).outs, p ∈ s.net ∧
    (p.msgtype = PAXOS_2A → p.round = 1 ∧ p.value = valueField 10 (payload p.value))

section origin

variable {s : System ρ σ Cmd} {p : PaxosT}

/-- A promise reports a legitimate value. -/
lemma Origin.legit_1b (h : Origin s p) (ht : p.msgtype = PAXOS_1B) :
    Legit s.sequenced p.inst p.value := by
  apply h.legit
  rw [ht]
  decide

/-- So is the value of an accept. -/
lemma Origin.legit_2a (h : Origin s p) (ht : p.msgtype = PAXOS_2A) :
    Legit s.sequenced p.inst p.value := by
  apply h.legit
  rw [ht]
  decide

/-- A prepare is of round 1, and nothing else. -/
lemma Origin.of_1a (ht : p.msgtype = PAXOS_1A) (hr : p.round = 1) : Origin s p := by
  refine ⟨fun _ => hr, fun h => ?_, fun h => ?_, fun h => ?_, fun h => absurd ht h⟩ <;>
    exact absurd (ht.symm.trans h) (by decide)

/-- A promise needs the id of an acceptor. -/
lemma Origin.of_1b (ht : p.msgtype = PAXOS_1B) (hr : p.round = 1) {a : Fin 3}
    (ha : p.acceptor = datapathId a) (hl : Legit s.sequenced p.inst p.value) : Origin s p := by
  refine ⟨fun h => ?_, fun _ => ⟨hr, a, ha⟩, fun h => ?_, fun h => ?_, fun _ => hl⟩ <;>
    exact absurd (ht.symm.trans h) (by decide)

/-- An accept needs a value and a proposer. -/
lemma Origin.of_2a (ht : p.msgtype = PAXOS_2A) (hv : p.value ≠ 0)
    (ho : Carries s.sequenced p ∨ p.round = 1 ∧ ∃ r, p ∈ sent (s.replicas r).outs)
    (hl : Legit s.sequenced p.inst p.value) : Origin s p := by
  refine ⟨fun h => ?_, fun h => ?_, fun _ => ⟨hv, ho⟩, fun h => ?_, fun _ => hl⟩ <;>
    exact absurd (ht.symm.trans h) (by decide)

/-- A vote needs the id of an acceptor. -/
lemma Origin.of_2b (ht : p.msgtype = PAXOS_2B) {a : Fin 3} (ha : p.acceptor = datapathId a)
    (hl : Legit s.sequenced p.inst p.value) : Origin s p := by
  refine ⟨fun h => ?_, fun h => ?_, fun h => ?_, fun _ => ⟨a, ha⟩, fun _ => hl⟩ <;>
    exact absurd (ht.symm.trans h) (by decide)

end origin

/-- Origins are kept when requests and sent packets are added. A number keeps its request, and a
replica does not take back what it has sent. -/
lemma Origin.mono {s t : System ρ σ Cmd} {p : PaxosT} (h : Origin s p)
    (hseq : t.sequenced = s.sequenced ∨ ∃ q, t.sequenced = s.sequenced ++ [q])
    (hsent : ∀ r, ∀ q ∈ sent (s.replicas r).outs, q ∈ sent (t.replicas r).outs) :
    Origin t p := by
  have hcarries : Carries s.sequenced p → Carries t.sequenced p := by
    rcases hseq with heq | ⟨q, heq⟩ <;> rw [heq]
    · exact fun hc => hc
    · exact fun hc => hc.append q
  have hlegit : Legit s.sequenced p.inst p.value → Legit t.sequenced p.inst p.value := by
    rcases hseq with heq | ⟨q, heq⟩ <;> rw [heq]
    · exact fun hl => hl
    · exact fun hl => hl.append q
  refine ⟨h.prepare, h.promise, fun ht => ?_, h.vote, fun ht => hlegit (h.legit ht)⟩
  obtain ⟨hv, horigin⟩ := h.accept ht
  refine ⟨hv, horigin.imp hcarries ?_⟩
  rintro ⟨hr, r, hp⟩
  exact ⟨hr, r, hsent r p hp⟩

/-- A request reaches the coordinator. Its 2A carries the value of the request under its number. The
counter has grown by one, as the number of requests has, and everything that was said of the network
before is said of a larger one. -/
lemma WellFormed.request {s : System ρ σ Cmd} (h : WellFormed s) {q : PaxosT} (hq : q.value ≠ 0) :
    WellFormed { s with
      coordinator := ⟨s.coordinator.instance_register + 1⟩
      net := numbered s.coordinator q :: s.net
      sequenced := s.sequenced ++ [q] } := by
  have hcar : Carries (s.sequenced ++ [q]) (numbered s.coordinator q) :=
    carries_numbered h.counter q
  refine ⟨?_, h.id, fun a i => (h.stored a i).append q, fun p hp => ?_, fun r => ?_,
    fun r p hp => ?_⟩
  · simp only [h.counter, List.length_append, List.length_singleton]
    rw [BitVec.ofNat_add]
    rfl
  · rcases List.mem_cons.mp hp with rfl | hp
    · exact .of_2a rfl hq (.inl hcar) hcar.legit
    · exact (h.net p hp).mono (.inr ⟨q, rfl⟩) fun _ _ hm => hm
  · exact (h.heard r).mono fun p hp => List.mem_cons_of_mem _ hp
  · exact ⟨List.mem_cons_of_mem _ (h.sent_net r p hp).1, (h.sent_net r p hp).2⟩

/-- The values an acceptor stores stay legitimate. It stores what the packet brings, or nothing.
Only a vote writes the register, at the packet's instance, and the packet's value is legitimate
there. -/
lemma WellFormed.stored_ingress {s : System ρ σ Cmd} (h : WellFormed s) {a : Fin 3} {p : PaxosT}
    (hp : p ∈ s.net) (i : BitVec 16) :
    Legit s.sequenced i (((s.acceptors a).ingress p).1.values_register.read i.toNat) := by
  rcases (s.acceptors a).ingress_cases p with ⟨-, -, he⟩ | ⟨ht, -, he⟩ | ⟨-, -, -, he⟩ | ⟨-, he⟩ <;>
    rw [he]
  · exact h.stored a i
  · by_cases hi : i = p.inst
    · subst hi
      rw [Acceptor.handle_2a, Register.read_write_self _ p.inst_lt]
      exact (h.net p hp).legit_2a ht
    · have hne : i.toNat ≠ p.inst.toNat := fun heq => hi (BitVec.eq_of_toNat_eq heq)
      rw [Acceptor.handle_2a, Register.read_write_of_ne _ hne]
      exact h.stored a i
  · exact h.stored a i
  · exact h.stored a i

/-- What an acceptor sends has an origin. -/
lemma WellFormed.origin_ingress {s : System ρ σ Cmd} (h : WellFormed s) {a : Fin 3} {p q : PaxosT}
    (hp : p ∈ s.net) (hq : ((s.acceptors a).ingress p).2 = some q) : Origin s q := by
  have horigin := h.net p hp
  rcases (s.acceptors a).ingress_cases p with
    ⟨ht, -, he⟩ | ⟨ht, -, he⟩ | ⟨-, -, -, he⟩ | ⟨-, he⟩ <;>
    rw [he] at hq <;> cases hq
  · exact .of_1b rfl (horigin.prepare ht) (h.id a) (h.stored a p.inst)
  · exact .of_2b rfl (h.id a) (horigin.legit_2a ht)
  · exact horigin

/-- A packet reaches an acceptor. Its answer is a packet of the network then. The other acceptors
keep their registers, the replicas what they have heard, and the answer's origin is the packet's. -/
lemma WellFormed.toAcceptor {s : System ρ σ Cmd} (h : WellFormed s) (a : Fin 3) {p : PaxosT}
    (hp : p ∈ s.net) :
    WellFormed { s with
      acceptors := Function.update s.acceptors a ((s.acceptors a).ingress p).1
      net := ((s.acceptors a).ingress p).2.toList ++ s.net } := by
  have hsub : ∀ q ∈ s.net, q ∈ ((s.acceptors a).ingress p).2.toList ++ s.net :=
    fun q hq => List.mem_append.mpr (.inr hq)
  refine ⟨h.counter, fun b => ?_, fun b i => ?_, fun q hq => ?_, fun r => (h.heard r).mono hsub,
    fun r q hq => ⟨hsub q (h.sent_net r q hq).1, (h.sent_net r q hq).2⟩⟩
  · by_cases hb : b = a
    · subst hb
      simpa using h.id b
    · simpa [hb] using h.id b
  · by_cases hb : b = a
    · subst hb
      simpa using h.stored_ingress hp i
    · simpa [hb] using h.stored b i
  · refine Origin.mono (s := s) ?_ (.inl rfl) fun _ _ hm => hm
    rcases List.mem_append.mp hq with hq | hq
    · exact h.origin_ingress hp (by simpa using hq)
    · exact h.net q hq

/-- What a replica sends: a 1A, or a 2A for a promise of the network. The outcomes of `handle_pkt`
are those of `handle_pkt_cases`; a promise that does not complete a quorum, and a packet of another
type, make it send nothing. -/
lemma Heard.sent {app : Application σ Cmd} {net : List PaxosT} {L L' : Learner σ} {p q : PaxosT}
    {src : String} {sport dport : ℕ} {outs : List (Out Cmd)} {res : Except PyExc Unit}
    (h : Heard net L.learner)
    (hcall : L.handle_pkt app (sniffed p src sport dport) = (L', outs, res))
    (hq : q ∈ sent outs) :
    (∃ i, q = asked i) ∨
      (p.msgtype = PAXOS_1B ∧ L.learner.CompletesQuorum (message p) ∧ q = recovered p) := by
  rcases handle_pkt_cases h.promises hcall with
    ⟨-, -, hs⟩ | ⟨-, -, hs⟩ | ⟨-, -, -, hs⟩ | ⟨ht, -, hc, hs⟩
  · rw [hs] at hq
    cases hq
  · exact .inl (hs q hq)
  · rw [hs] at hq
    cases hq
  · rw [hs, List.mem_singleton] at hq
    exact .inr ⟨ht, hc, hq⟩

section run

variable [DecidableEq ρ] {app : Application σ Cmd} {a₀ : σ}

/-- A packet reaches a replica. A 2A that it sends is of round 1 and has the message of the promise,
packed again. Everything else that it sends are 1As, which carry no value. What a replica has
counted stays backed in the larger network. -/
lemma WellFormed.toReplica {s : System ρ σ Cmd} (h : WellFormed s) {r : ρ} {p : PaxosT}
    {src : String} {sport dport : ℕ} {L : Learner σ} {outs : List (Out Cmd)}
    {res : Except PyExc Unit} (hp : p ∈ s.net)
    (hcall : (s.replicas r).learner.handle_pkt app (sniffed p src sport dport) = (L, outs, res)) :
    WellFormed { s with
      replicas := Function.update s.replicas r ⟨L, res.toBool, (s.replicas r).outs ++ outs⟩
      net := sent outs ++ s.net } := by
  set t : System ρ σ Cmd := { s with
    replicas := Function.update s.replicas r ⟨L, res.toBool, (s.replicas r).outs ++ outs⟩
    net := sent outs ++ s.net } with ht
  have hsub : ∀ q ∈ s.net, q ∈ t.net := fun q hq => List.mem_append.mpr (.inr hq)
  have houts : ∀ r' q, q ∈ sent (t.replicas r').outs ↔
      q ∈ sent (s.replicas r').outs ∨ r' = r ∧ q ∈ sent outs := by
    intro r' q
    by_cases hr : r' = r
    · subst hr
      simp [ht]
    · simp [ht, hr]
  have hround : p.msgtype = PAXOS_1B → p.round = 1 := fun h1b => ((h.net p hp).promise h1b).1
  refine ⟨h.counter, h.id, h.stored, fun q hq => ?_, fun r' => ?_, fun r' q hq => ?_⟩
  · rcases List.mem_append.mp hq with hq | hq
    · rcases (h.heard r).sent hcall hq with ⟨i, rfl⟩ | ⟨h1b, -, rfl⟩
      · exact .of_1a rfl rfl
      · have hl := (h.net p hp).legit_1b h1b
        refine .of_2a rfl (valueField_ne_zero (by decide) (by decide) _)
          (.inr ⟨hround h1b, r, (houts r _).mpr (.inr ⟨rfl, hq⟩)⟩) ?_
        unfold Legit at hl ⊢
        rwa [recovered, payload_valueField_payload]
    · exact (h.net q hq).mono (.inl rfl) fun r' q' hq' => (houts r' q').mpr (.inl hq')
  · by_cases hr : r' = r
    · subst hr
      simpa [ht] using ((h.heard r').handle_pkt hp hcall).mono hsub
    · simpa [ht, hr] using (h.heard r').mono hsub
  · rcases (houts r' q).mp hq with hq | ⟨-, hq⟩
    · exact ⟨hsub q (h.sent_net r' q hq).1, (h.sent_net r' q hq).2⟩
    · refine ⟨List.mem_append.mpr (.inl hq), fun h2a => ?_⟩
      rcases (h.heard r).sent hcall hq with ⟨i, rfl⟩ | ⟨h1b, -, rfl⟩
      · exact absurd h2a (show PAXOS_1A ≠ PAXOS_2A by decide)
      · exact ⟨hround h1b, by rw [recovered, payload_valueField_payload]⟩

/-- At the start nothing is stored, counted or sent. -/
lemma wellFormed_init : WellFormed (system (ρ := ρ) app a₀).init where
  counter := rfl
  id _ := rfl
  stored a i := by
    left
    rw [← payload_zero]
    exact congrArg payload (Register.read_zero _)
  net p hp := by simp [system] at hp
  heard r := heard_new _
  sent_net r p hp := by simp [system] at hp

/-- **The invariant holds in every run**, whatever its side condition. By induction on the actions.
-/
theorem wellFormed_reach {P : System ρ σ Cmd → Action ρ → Prop} {s : System ρ σ Cmd}
    (h : (system app a₀).Reach P s) : WellFormed s := by
  apply h.invariant wellFormed_init
  intro s act t _ hwf _ hstep
  rcases step_cases hstep with ⟨P, msg, q, -, hq, rfl⟩ | ⟨a, p, -, hp, rfl⟩ |
    ⟨r, p, src, sport, dport, L, outs, res, -, hp, -, hcall, rfl⟩
  · exact hwf.request hq
  · exact hwf.toAcceptor a hp
  · exact hwf.toReplica hp hcall

end run

end P4xos.Bmv2
