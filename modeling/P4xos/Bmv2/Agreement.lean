import P4xos.Lib.Voting
import P4xos.Bmv2.Recovery

/-!
# Agreement with recovery

The logs of the replicas in runs with recovery. The coordinator proposes in round 0, the replicas in
round 1; a recovery is safe if the value of the completing promise is one that the counted promises
justify. It need not be: a completing promise with an empty message overrules a vote that a promise
counted before has reported.

1. `SafeChoice` is `OneChoice`, and a completing promise with an empty message follows only promises
with an empty message. It is a condition on the packet and on the state before the step. 2. `Says`:
what a packet says to the voting component at its instance: a 2A proposes, a 1B promises and reports
a vote, a 2B votes. `Simulates` relates the acceptors at an instance, and the packets about it, to a
state of that component with base round 0. 3. Each action is a step of the component or none: a
request proposes (`Simulates.request`), a packet at an acceptor makes it promise or vote
(`Simulates.toAcceptor`), and a replica that completes a quorum of promises proposes in round 1,
which the condition justifies (`Simulates.justified`, `Simulates.toReplica`). 4. `simulates_reach`:
in runs that keep to the condition, every instance is simulated. 5. `logs_agree`: what a replica has
logged was voted for by two of the three acceptors in one round (`Simulates.logged`), so by the
component's agreement the logs of any two replicas agree.

`logs_disagree` is a run of three acceptors and two replicas that breaks the condition.
-/

namespace P4xos.Bmv2

open P4xos.Lib P4xos.P4v14

variable {ρ σ Cmd : Type*}

/-! ## The condition -/

/-- Every acceptor whose promise the replica has counted before has sent a promise with an empty
message for the instance and round. -/
def NoVoteCounted (s : System ρ σ Cmd) (r : ρ) (p : PaxosT) : Prop :=
  ∀ n ∈ ((s.replicas r).learner.learner.promises (message p)).nids, ∃ p' ∈ s.net,
    p'.msgtype = PAXOS_1B ∧ p'.inst = p.inst ∧ p'.round = p.round ∧ p'.acceptor.toNat = n ∧
      payload p'.value = []

/-- The condition on a step for agreement: `OneChoice`, and a promise with an empty message
completes a quorum only if no vote is overruled. -/
def SafeChoice (s : System ρ σ Cmd) (act : Action ρ) : Prop :=
  OneChoice s act ∧ match act with
  | .request _ _ => True
  | .toAcceptor _ _ => True
  | .toReplica r p _ _ _ => p.msgtype = PAXOS_1B →
      (s.replicas r).learner.learner.CompletesQuorum (message p) → payload p.value = [] →
      NoVoteCounted s r p

/-- The senders counted are finitely many. -/
instance (s : System ρ σ Cmd) (r : ρ) (p : PaxosT) : Decidable (NoVoteCounted s r p) :=
  inferInstanceAs (Decidable (∀ n ∈ _, ∃ p' ∈ s.net, _))

/-- Each action is of one kind. -/
instance [Fintype ρ] (s : System ρ σ Cmd) : DecidablePred (SafeChoice s)
  | .request P msg => inferInstanceAs (Decidable (OneChoice s (.request P msg) ∧ True))
  | .toAcceptor a p => inferInstanceAs (Decidable (OneChoice s (.toAcceptor a p) ∧ True))
  | .toReplica r p src sport dport => inferInstanceAs (Decidable
      (OneChoice s (.toReplica r p src sport dport) ∧ (_ → _ → _ → NoVoteCounted s r p)))

/-! ## The voting component at an instance -/

/-- Two of the three acceptors. -/
def TwoOf (q : Finset (Fin 3)) : Prop := 2 ≤ q.card

/-- Two sets of two among three have a common member. -/
lemma twoOf_meet : Voting.QuorumsMeet TwoOf := by
  intro q q' hq hq'
  refine Voting.majority_quorums_meet q q' ?_ ?_ <;> rw [Fintype.card_fin] <;>
    unfold TwoOf at hq hq' <;> omega

/-- The acceptors with the given ids. -/
def acceptorsOf (nids : Finset ℕ) : Finset (Fin 3) :=
  Finset.univ.filter fun a => (datapathId a).toNat ∈ nids

/-- Each id is that of one acceptor. -/
@[simp] lemma mem_acceptorsOf {nids : Finset ℕ} {a : Fin 3} :
    a ∈ acceptorsOf nids ↔ (datapathId a).toNat ∈ nids := by
  simp [acceptorsOf]

/-- A replica's majority of senders, all of them acceptors, is two of the three. -/
lemma WellFormed.twoOf_acceptorsOf {s : System ρ σ Cmd} (hwf : WellFormed s) {r : ρ}
    {nids : Finset ℕ}
    (hmaj : (s.replicas r).learner.learner.majority ≤ nids.card)
    (hids : ∀ n ∈ nids, ∃ a, (datapathId a).toNat = n) : TwoOf (acceptorsOf nids) := by
  have hsub : nids ⊆ (acceptorsOf nids).image fun a => (datapathId a).toNat := by
    intro n hn
    obtain ⟨a, rfl⟩ := hids n hn
    exact Finset.mem_image.mpr ⟨a, mem_acceptorsOf.mpr hn, rfl⟩
  calc 2 = (s.replicas r).learner.learner.majority := (hwf.heard r).majority.symm
    _ ≤ nids.card := hmaj
    _ ≤ _ := Finset.card_le_card hsub
    _ ≤ (acceptorsOf nids).card := Finset.card_image_le

/-- A vote as the header and the registers spell it: a zero value means none, because no proposed
value is zero. -/
def voteOf (vround : BitVec 8) (value : BitVec 512) : Option (ℕ × Bytes) :=
  if value = 0 then none else some (vround.toNat, payload value)

/-- What a packet says about instance `i`; the values are the messages the learners read. -/
inductive Says (i : BitVec 16) (p : PaxosT) : Voting.Saying (Fin 3) Bytes → Prop
  | propose (hi : p.inst = i) (ht : p.msgtype = PAXOS_2A) :
      Says i p (.propose p.round.toNat (payload p.value))
  | promise (a : Fin 3) (hi : p.inst = i) (ht : p.msgtype = PAXOS_1B)
      (ha : p.acceptor = datapathId a) :
      Says i p (.promise a p.round.toNat (voteOf p.vround p.value))
  | vote (a : Fin 3) (hi : p.inst = i) (ht : p.msgtype = PAXOS_2B)
      (ha : p.acceptor = datapathId a) : Says i p (.vote a p.round.toNat (payload p.value))

/-- The rounds the acceptors have reached at instance `i`. -/
def roundAt (i : BitVec 16) (acceptors : Fin 3 → Acceptor) (a : Fin 3) : ℕ :=
  ((acceptors a).rounds_register.read i.toNat).toNat

/-- The votes the acceptors remember at instance `i`. -/
def lastAt (i : BitVec 16) (acceptors : Fin 3 → Acceptor) (a : Fin 3) : Option (ℕ × Bytes) :=
  voteOf ((acceptors a).vrounds_register.read i.toNat) ((acceptors a).values_register.read i.toNat)

/-- The acceptors at instance `i`, and the packets about it, as a state of the voting component. -/
def Simulates (i : BitVec 16) (s : System ρ σ Cmd) (t : Voting.State (Fin 3) Bytes) : Prop :=
  Voting.Represents (roundAt i s.acceptors) (lastAt i s.acceptors) (Voting.said (Says i) s.net) t

/-- The acceptors have different ids. -/
lemma datapathId_injective : Function.Injective datapathId := by decide

/-- A packet of another instance says nothing. -/
lemma not_says_of_inst_ne {i : BitVec 16} {p : PaxosT} (h : p.inst ≠ i)
    (m : Voting.Saying (Fin 3) Bytes) : ¬ Says i p m := by
  intro hm
  cases hm with
  | propose hi => exact h hi
  | promise a hi => exact h hi
  | vote a hi => exact h hi

/-- A 2A says its proposal. -/
lemma says_2a {i : BitVec 16} {p : PaxosT} (ht : p.msgtype = PAXOS_2A)
    {m : Voting.Saying (Fin 3) Bytes} (hm : Says i p m) :
    m = .propose p.round.toNat (payload p.value) := by
  cases hm with
  | propose => rfl
  | promise a _ ht' => exact absurd (ht.symm.trans ht') (by decide)
  | vote a _ ht' => exact absurd (ht.symm.trans ht') (by decide)

/-- A 1A says nothing. -/
lemma not_says_1a {i : BitVec 16} {p : PaxosT} (h : p.msgtype = PAXOS_1A)
    (m : Voting.Saying (Fin 3) Bytes) : ¬ Says i p m := by
  intro hm
  cases hm with
  | propose _ ht => exact absurd (h.symm.trans ht) (by decide)
  | promise a _ ht => exact absurd (h.symm.trans ht) (by decide)
  | vote a _ ht => exact absurd (h.symm.trans ht) (by decide)

/-- The rounds after an acceptor has changed. -/
lemma roundAt_update (i : BitVec 16) (acceptors : Fin 3 → Acceptor) (a : Fin 3) (A : Acceptor) :
    roundAt i (Function.update acceptors a A) =
      Function.update (roundAt i acceptors) a (A.rounds_register.read i.toNat).toNat :=
  Function.comp_update (fun A : Acceptor => (A.rounds_register.read i.toNat).toNat) acceptors a A

/-- The votes after an acceptor has changed. -/
lemma lastAt_update (i : BitVec 16) (acceptors : Fin 3 → Acceptor) (a : Fin 3) (A : Acceptor) :
    lastAt i (Function.update acceptors a A) = Function.update (lastAt i acceptors) a
      (voteOf (A.vrounds_register.read i.toNat) (A.values_register.read i.toNat)) :=
  Function.comp_update (fun A : Acceptor =>
    voteOf (A.vrounds_register.read i.toNat) (A.values_register.read i.toNat)) acceptors a A

/-- Answering a packet of another instance changes nothing at this one. -/
lemma memory_of_inst_ne {i : BitVec 16} {acceptors : Fin 3 → Acceptor} {a : Fin 3} {p : PaxosT}
    (hi : p.inst ≠ i) :
    roundAt i (Function.update acceptors a ((acceptors a).ingress p).1) = roundAt i acceptors ∧
      lastAt i (Function.update acceptors a ((acceptors a).ingress p).1) = lastAt i acceptors := by
  have hne : i.toNat ≠ p.inst.toNat := fun h => hi (BitVec.eq_of_toNat_eq h.symm)
  rw [roundAt_update, lastAt_update, Function.update_eq_self_iff, Function.update_eq_self_iff]
  rcases (acceptors a).ingress_cases p with ⟨-, -, he⟩ | ⟨-, -, he⟩ | ⟨-, -, -, he⟩ | ⟨-, he⟩ <;>
    rw [he] <;> simp [roundAt, lastAt, Acceptor.handle_1a, Acceptor.handle_2a, hne]

/-- What an acceptor answers to a 1A. -/
lemma says_handle_1a {A : Acceptor} {a : Fin 3} {p : PaxosT} (ha : A.datapath_id = datapathId a)
    {m : Voting.Saying (Fin 3) Bytes} (hm : Says p.inst (A.handle_1a p).2 m) :
    m = .promise a p.round.toNat (voteOf (A.vrounds_register.read p.inst.toNat)
      (A.values_register.read p.inst.toNat)) := by
  cases hm with
  | propose _ ht => exact absurd ht (show PAXOS_1B ≠ PAXOS_2A by decide)
  | promise b _ _ hb =>
      rw [datapathId_injective (ha.symm.trans hb)]
      rfl
  | vote b _ ht => exact absurd ht (show PAXOS_1B ≠ PAXOS_2B by decide)

/-- What an acceptor answers to a 2A. -/
lemma says_handle_2a {A : Acceptor} {a : Fin 3} {p : PaxosT} (ha : A.datapath_id = datapathId a)
    {m : Voting.Saying (Fin 3) Bytes} (hm : Says p.inst (A.handle_2a p).2 m) :
    m = .vote a p.round.toNat (payload p.value) := by
  cases hm with
  | propose _ ht => exact absurd ht (show PAXOS_2B ≠ PAXOS_2A by decide)
  | promise b _ ht => exact absurd ht (show PAXOS_2B ≠ PAXOS_1B by decide)
  | vote b _ _ hb =>
      rw [datapathId_injective (ha.symm.trans hb)]
      rfl

/-! ## Simulation -/

/-- A packet of this instance at an acceptor. A 1A answered is a promise of the abstract acceptor,
and a 2A answered is a vote, since the message the 2A carries was proposed in that round. A 1B or 2B
is in the network already, and a stale packet changes nothing. -/
lemma Simulates.ingress {s : System ρ σ Cmd} {t : Voting.State (Fin 3) Bytes} {p : PaxosT}
    (h : Simulates p.inst s t) (hwf : WellFormed s) (a : Fin 3) (hp : p ∈ s.net) :
    ∃ t', (t' = t ∨ Voting.Step TwoOf 0 t t') ∧ Simulates p.inst { s with
      acceptors := Function.update s.acceptors a ((s.acceptors a).ingress p).1
      net := ((s.acceptors a).ingress p).2.toList ++ s.net } t' := by
  unfold Simulates at h ⊢
  rcases (s.acceptors a).ingress_cases p with
    ⟨ht, hr, he⟩ | ⟨ht, hr, he⟩ | ⟨-, -, -, he⟩ | ⟨-, he⟩ <;>
    rw [he] <;> dsimp only
  · have hround : roundAt p.inst (Function.update s.acceptors a ((s.acceptors a).handle_1a p).1) =
        Function.update (roundAt p.inst s.acceptors) a p.round.toNat := by
      rw [roundAt_update, Acceptor.handle_1a, Register.read_write_self _ p.inst_lt]
    have hlast : lastAt p.inst (Function.update s.acceptors a ((s.acceptors a).handle_1a p).1) =
        lastAt p.inst s.acceptors := by
      rw [lastAt_update, Function.update_eq_self_iff]
      rfl
    rw [hround, hlast]
    refine h.promise TwoOf 0 hr (Voting.said_mono fun q hq => List.mem_append.mpr (.inr hq)) ?_
    refine Voting.said_append_subset fun q hq => .inr fun m hm => ?_
    rw [List.mem_singleton.mp hq] at hm
    exact says_handle_1a (hwf.id a) hm
  · have hround : roundAt p.inst (Function.update s.acceptors a ((s.acceptors a).handle_2a p).1) =
        Function.update (roundAt p.inst s.acceptors) a p.round.toNat := by
      rw [roundAt_update, Acceptor.handle_2a, Register.read_write_self _ p.inst_lt]
    have hlast : lastAt p.inst (Function.update s.acceptors a ((s.acceptors a).handle_2a p).1) =
        Function.update (lastAt p.inst s.acceptors) a (some (p.round.toNat, payload p.value)) := by
      rw [lastAt_update, Acceptor.handle_2a, Register.read_write_self _ p.inst_lt,
        Register.read_write_self _ p.inst_lt, voteOf, if_neg ((hwf.net p hp).accept ht).1]
    rw [hround, hlast]
    refine h.vote TwoOf 0 hr ⟨p, hp, .propose rfl ht⟩
      (Voting.said_mono fun q hq => List.mem_append.mpr (.inr hq)) ?_
    refine Voting.said_append_subset fun q hq => .inr fun m hm => ?_
    rw [List.mem_singleton.mp hq] at hm
    exact says_handle_2a (hwf.id a) hm
  · rw [Function.update_eq_self, Voting.said_append_eq fun q hq => .inl ?_]
    · exact ⟨t, .inl rfl, h⟩
    · rw [List.mem_singleton.mp hq]
      exact hp
  · rw [Function.update_eq_self]
    exact ⟨t, .inl rfl, h⟩

/-- **A packet at an acceptor**: the abstract component promises, votes, or does nothing. A packet
of another instance is a step of no one: it neither changes the registers of this instance nor says
anything about it. -/
lemma Simulates.toAcceptor {i : BitVec 16} {s : System ρ σ Cmd} {t : Voting.State (Fin 3) Bytes}
    (h : Simulates i s t) (hwf : WellFormed s) (a : Fin 3) {p : PaxosT} (hp : p ∈ s.net) :
    ∃ t', (t' = t ∨ Voting.Step TwoOf 0 t t') ∧ Simulates i { s with
      acceptors := Function.update s.acceptors a ((s.acceptors a).ingress p).1
      net := ((s.acceptors a).ingress p).2.toList ++ s.net } t' := by
  by_cases hi : p.inst = i
  · subst hi
    exact h.ingress hwf a hp
  · refine ⟨t, .inl rfl, ?_⟩
    unfold Simulates at h ⊢
    dsimp only
    rw [(memory_of_inst_ne hi).1, (memory_of_inst_ne hi).2,
      Voting.said_append_eq fun q hq => .inr ?_]
    · exact h
    · apply not_says_of_inst_ne
      rw [((s.acceptors a).ingress_out (by simpa using hq)).1]
      exact hi

/-- **A request at the coordinator** is a proposal of round 0, the first one of its instance. An
earlier proposal of round 0 for the instance would be another request under the same number, and
fewer than `2 ^ 16` requests have distinct numbers. -/
lemma Simulates.request {i : BitVec 16} {s : System ρ σ Cmd} {t : Voting.State (Fin 3) Bytes}
    (h : Simulates i s t) (hwf : WellFormed s) (hlen : s.sequenced.length < 2 ^ 16) (q : PaxosT) :
    ∃ t', (t' = t ∨ Voting.Step TwoOf 0 t t') ∧ Simulates i { s with
      coordinator := ⟨s.coordinator.instance_register + 1⟩
      net := numbered s.coordinator q :: s.net
      sequenced := s.sequenced ++ [q] } t' := by
  by_cases hi : (numbered s.coordinator q).inst = i
  · refine Voting.Represents.propose h (r := 0) le_rfl ?_ (.inl rfl)
      (Voting.said_cons_eq (.propose hi rfl) fun m hm => says_2a rfl hm)
    rintro w ⟨p, hp, hm⟩
    generalize hr : (0 : ℕ) = r at hm
    cases hm with
    | propose hi' ht =>
        -- an earlier proposal of round 0 would carry an earlier request under the same number
        exfalso
        rcases ((hwf.net p hp).accept ht).2 with ⟨-, k, q', hk, hik, -⟩ | ⟨h1, -⟩
        · have hlt : k < s.sequenced.length := (List.getElem?_eq_some_iff.mp hk).1
          rw [hik, ← hi, numbered, hwf.counter] at hi'
          have := congrArg BitVec.toNat hi'
          simp only [BitVec.ofNat_eq_ofNat, BitVec.toNat_ofNat, BitVec.toNat_add] at this
          omega
        · rw [h1] at hr
          exact absurd hr (by decide)
  · refine ⟨t, .inl rfl, ?_⟩
    have hsaid : Voting.said (Says i) ([numbered s.coordinator q] ++ s.net) =
        Voting.said (Says i) s.net := by
      refine Voting.said_append_eq fun p hp => .inr ?_
      rw [List.mem_singleton.mp hp]
      exact not_says_of_inst_ne hi
    unfold Simulates at h ⊢
    exact hsaid ▸ h

section recovery

variable {s : System ρ σ Cmd} {t : Voting.State (Fin 3) Bytes} {r : ρ} {p : PaxosT}

/-- A sender a replica has counted has sent a promise for the instance and round. -/
lemma WellFormed.counted_promise (hwf : WellFormed s)
    (hc : (s.replicas r).learner.learner.CountsPromise (message p)) {n : ℕ}
    (hn : n ∈ ((s.replicas r).learner.learner.promises (message p)).nids) :
    ∃ p' ∈ s.net, p'.msgtype = PAXOS_1B ∧ p'.inst = p.inst ∧ p'.round = p.round ∧
      p'.acceptor.toNat = n := by
  obtain ⟨m, ⟨p', hp', h1b, rfl⟩, hi, hr, hnid⟩ :=
    ((hwf.heard r).promises.promises (message p)).2 n hn
  exact ⟨p', hp', h1b, BitVec.eq_of_toNat_eq hi, BitVec.eq_of_toNat_eq (hr.trans hc.2.1), hnid⟩

/-- The acceptors a replica has counted when a promise completes its quorum. -/
def quorum (L : PaxosLearner Bytes) (p : PaxosT) : Finset (Fin 3) :=
  acceptorsOf (insert p.acceptor.toNat (L.promises (message p)).nids)

/-- The vote has the round and the message of the fields. -/
lemma voteOf_eq_some {vround : BitVec 8} {value : BitVec 512} {k : ℕ} {w : Bytes}
    (h : voteOf vround value = some (k, w)) : k = vround.toNat ∧ w = payload value := by
  unfold voteOf at h
  split_ifs at h
  cases h
  exact ⟨rfl, rfl⟩

/-- A promise of each member of the quorum: that of the completing sender is the completing one, and
if that one is empty, they all are. -/
structure Reports (s : System ρ σ Cmd) (r : ρ) (p : PaxosT) (prom : Fin 3 → PaxosT) : Prop where
  said : ∀ a ∈ quorum (s.replicas r).learner.learner p,
    Voting.Saying.promise a p.round.toNat (voteOf (prom a).vround (prom a).value) ∈
      Voting.said (Says p.inst) s.net
  empty : ∀ a ∈ quorum (s.replicas r).learner.learner p, payload p.value = [] →
    payload (prom a).value = []
  self : ∀ a ∈ quorum (s.replicas r).learner.learner p, p.acceptor = datapathId a → prom a = p

section completing

variable (hwf : WellFormed s) (hp : p ∈ s.net) (h1b : p.msgtype = PAXOS_1B)
  (hc : (s.replicas r).learner.learner.CompletesQuorum (message p))

include hwf hp h1b hc

/-- The quorum is two of the three. -/
lemma WellFormed.twoOf_quorum : TwoOf (quorum (s.replicas r).learner.learner p) := by
  refine hwf.twoOf_acceptorsOf hc.2 fun n hn => ?_
  have hsender : ∃ p' ∈ s.net, p'.msgtype = PAXOS_1B ∧ p'.acceptor.toNat = n := by
    rcases Finset.mem_insert.mp hn with rfl | hn'
    · exact ⟨p, hp, h1b, rfl⟩
    · obtain ⟨p', hp', h1b', -, -, hnid⟩ := hwf.counted_promise hc.1 hn'
      exact ⟨p', hp', h1b', hnid⟩
  obtain ⟨p', hp', h1b', rfl⟩ := hsender
  obtain ⟨-, a, ha⟩ := (hwf.net p' hp').promise h1b'
  exact ⟨a, by rw [ha]⟩

/-- One member's promise. It is the completing promise, for its own sender, or one that was counted
before. -/
lemma WellFormed.quorum_promise (hempty : payload p.value = [] → NoVoteCounted s r p) {a : Fin 3}
    (ha : a ∈ quorum (s.replicas r).learner.learner p) :
    ∃ p' ∈ s.net, p'.msgtype = PAXOS_1B ∧ p'.inst = p.inst ∧ p'.round = p.round ∧
      p'.acceptor = datapathId a ∧ (payload p.value = [] → payload p'.value = []) ∧
      (p.acceptor = datapathId a → p' = p) := by
  by_cases hpa : p.acceptor = datapathId a
  · exact ⟨p, hp, h1b, rfl, rfl, hpa, fun he => he, fun _ => rfl⟩
  · have hn : (datapathId a).toNat ∈
        ((s.replicas r).learner.learner.promises (message p)).nids := by
      refine (Finset.mem_insert.mp (mem_acceptorsOf.mp ha)).resolve_left fun heq => hpa ?_
      exact (BitVec.eq_of_toNat_eq heq).symm
    by_cases he : payload p.value = []
    · obtain ⟨p', hp', h1b', hi, hr, hnid, he'⟩ := hempty he _ hn
      exact ⟨p', hp', h1b', hi, hr, BitVec.eq_of_toNat_eq hnid, fun _ => he',
        fun h => absurd h hpa⟩
    · obtain ⟨p', hp', h1b', hi, hr, hnid⟩ := hwf.counted_promise hc.1 hn
      exact ⟨p', hp', h1b', hi, hr, BitVec.eq_of_toNat_eq hnid, fun h => absurd h he,
        fun h => absurd h hpa⟩

/-- Each member's promise is chosen, and the completing one for its sender. -/
lemma WellFormed.exists_reports (hempty : payload p.value = [] → NoVoteCounted s r p) :
    ∃ prom, Reports s r p prom := by
  have : Nonempty PaxosT := ⟨p⟩
  choose! prom hnet hprom1b hinst hrnd hacc hprom hself using
    fun a ha => hwf.quorum_promise hp h1b hc hempty (a := a) ha
  refine ⟨prom, fun a ha => ?_, hprom, hself⟩
  have hsays := Says.promise a (hinst a ha) (hprom1b a ha) (hacc a ha)
  rw [hrnd a ha] at hsays
  exact ⟨prom a, hnet a ha, hsays⟩

end completing

/-- Every proposal of the instance above round 0 carries the message of the completing promise. The
coordinator proposes in round 0 only, so that the proposal is a replica's, and two recoveries of one
instance are required to choose alike. -/
lemma WellFormed.proposed_payload (hwf : WellFormed s) (hlen : s.sequenced.length ≤ 2 ^ 16)
    (hp : p ∈ s.net) (h1b : p.msgtype = PAXOS_1B) (hone : SameChoice s p) {k : ℕ} {w : Bytes}
    (hk : k ≠ 0) (hsaid : Voting.Saying.propose k w ∈ Voting.said (Says p.inst) s.net) :
    w = payload p.value := by
  obtain ⟨q, hq, hm⟩ := hsaid
  cases hm with
  | propose hi h2a =>
      rcases ((hwf.net q hq).accept h2a).2 with hcar | ⟨h1, r', hsent⟩
      · rw [hcar.1] at hk
        exact absurd rfl hk
      · have hround := ((hwf.net p hp).promise h1b).1
        have hlq := (hwf.net q hq).legit_2a h2a
        rw [hi] at hlq
        exact hlq.payload_eq ((hwf.net p hp).legit_1b h1b) hlen
          (hone r' q hsent h2a hi (h1.trans hround.symm))

/-- **The choice is justified**: for each report there is one of a round at least as high for the
value of the completing promise. -/
lemma Simulates.justified (h : Simulates p.inst s t) (ht : Voting.Reachable TwoOf 0 t)
    (hsame : ∀ {k w}, k ≠ 0 → Voting.Saying.propose k w ∈ Voting.said (Says p.inst) s.net →
      w = payload p.value)
    {prom : Fin 3 → PaxosT} (hrep : Reports s r p prom) {a : Fin 3}
    (ha : p.acceptor = datapathId a) {b : Fin 3}
    (hb : b ∈ quorum (s.replicas r).learner.learner p) {k : ℕ} {w : Bytes}
    (hk : voteOf (prom b).vround (prom b).value = some (k, w)) :
    ∃ c ∈ quorum (s.replicas r).learner.learner p, ∃ k', k ≤ k' ∧
      voteOf (prom c).vround (prom c).value = some (k', payload p.value) := by
  by_cases he : payload p.value = []
  · -- every report is empty
    obtain ⟨-, rfl⟩ := voteOf_eq_some hk
    exact ⟨b, hb, k, le_rfl, by rw [hk, hrep.empty b hb he, he]⟩
  · rcases Nat.eq_zero_or_pos k with rfl | hpos
    · -- a vote of round 0: the completing promise reports one as well
      have hmem : a ∈ quorum (s.replicas r).learner.learner p := by
        refine mem_acceptorsOf.mpr (Finset.mem_insert.mpr (.inl ?_))
        rw [ha]
      have hv : p.value ≠ 0 := by
        intro h0
        apply he
        rw [h0]
        exact payload_zero
      refine ⟨a, hmem, (prom a).vround.toNat, Nat.zero_le _, ?_⟩
      rw [hrep.self a hmem ha]
      exact if_neg hv
    · -- a vote of round 1: it is for a value proposed in round 1
      have hvoted := (ht.inv.promised_sound b _ _ (h.promised _ _ _ (hrep.said b hb))).2 k w hk
      have hprop := (h.proposed k w).mp (ht.inv.voted_sound b k w hvoted).1
      exact ⟨b, hb, k, le_rfl, by rw [hk, hsame hpos.ne' hprop]⟩

/-- **A completed recovery** is a justified proposal of round 1. The promises that were counted are
a quorum of reports, and the value is one that they justify: that is where the condition on the
completing promise is used. -/
lemma Simulates.recovered (h : Simulates p.inst s t) (ht : Voting.Reachable TwoOf 0 t)
    (hwf : WellFormed s) (hlen : s.sequenced.length ≤ 2 ^ 16) (hp : p ∈ s.net)
    (h1b : p.msgtype = PAXOS_1B)
    (hc : (s.replicas r).learner.learner.CompletesQuorum (message p)) (hone : SameChoice s p)
    (hempty : payload p.value = [] → NoVoteCounted s r p) :
    ∃ t', (t' = t ∨ Voting.Step TwoOf 0 t t') ∧ Voting.Represents (roundAt p.inst s.acceptors)
      (lastAt p.inst s.acceptors) (Voting.said (Says p.inst) (Bmv2.recovered p :: s.net)) t' := by
  obtain ⟨hround, a, ha⟩ := (hwf.net p hp).promise h1b
  obtain ⟨prom, hrep⟩ := hwf.exists_reports hp h1b hc hempty
  have hpay : payload (Bmv2.recovered p).value = payload p.value := payload_valueField_payload 10 _
  refine Voting.Represents.propose h (Nat.zero_le _) ?_ (.inr ⟨_, hwf.twoOf_quorum hp h1b hc,
    fun b => voteOf (prom b).vround (prom b).value, hrep.said, ?_⟩)
    (Voting.said_cons_eq (.propose rfl rfl) fun m hm => says_2a rfl hm)
  · intro w hw
    rw [hpay]
    refine hwf.proposed_payload hlen hp h1b hone ?_ hw
    show p.round.toNat ≠ 0
    rw [hround]
    decide
  · intro b hb k w hk
    rw [hpay]
    exact h.justified ht (hwf.proposed_payload hlen hp h1b hone) hrep ha hb hk

end recovery

section agreement

variable [DecidableEq ρ] {app : Application σ Cmd} {a₀ : σ}

/-- **A packet at a replica** is a proposal if it completes a recovery of the instance, and says
nothing otherwise. The only 2A a replica sends is for a recovery it has completed, and then
`SafeChoice` says which value is proposed. Everything else that it sends is a 1A or for another
instance. -/
lemma Simulates.toReplica {i : BitVec 16} {s : System ρ σ Cmd} {t : Voting.State (Fin 3) Bytes}
    {r : ρ} {p : PaxosT} {src : String} {sport dport : ℕ} {L : Learner σ} {outs : List (Out Cmd)}
    {res : Except PyExc Unit} (h : Simulates i s t) (ht : Voting.Reachable TwoOf 0 t)
    (hwf : WellFormed s) (hlen : s.sequenced.length ≤ 2 ^ 16) (hp : p ∈ s.net)
    (hP : SafeChoice s (.toReplica r p src sport dport))
    (hcall : (s.replicas r).learner.handle_pkt app (sniffed p src sport dport) = (L, outs, res)) :
    ∃ t', (t' = t ∨ Voting.Step TwoOf 0 t t') ∧ Simulates i { s with
      replicas := Function.update s.replicas r ⟨L, res.toBool, (s.replicas r).outs ++ outs⟩
      net := sent outs ++ s.net } t' := by
  by_cases hrec : ∃ q ∈ sent outs, q.msgtype = PAXOS_2A ∧ q.inst = i
  · obtain ⟨q, hq, h2a, hi⟩ := hrec
    rcases handle_pkt_cases (hwf.heard r).promises hcall with
      ⟨-, -, hs⟩ | ⟨-, -, hs⟩ | ⟨-, -, -, hs⟩ | ⟨h1b, -, hc, hs⟩
    · rw [hs] at hq
      cases hq
    · obtain ⟨j, rfl⟩ := hs q hq
      exact absurd h2a (show PAXOS_1A ≠ PAXOS_2A by decide)
    · rw [hs] at hq
      cases hq
    · rw [hs, List.mem_singleton] at hq
      have hpi : p.inst = i := by
        rw [hq] at hi
        exact hi
      subst hpi
      obtain ⟨t', hstep, hrep⟩ := h.recovered ht hwf hlen hp h1b hc (hP.1 h1b hc) (hP.2 h1b hc)
      refine ⟨t', hstep, ?_⟩
      rw [hs]
      exact hrep
  · refine ⟨t, .inl rfl, ?_⟩
    unfold Simulates at h ⊢
    dsimp only
    rw [Voting.said_append_eq fun q hq => .inr ?_]
    · exact h
    · rcases (hwf.heard r).sent hcall hq with ⟨j, rfl⟩ | ⟨-, -, rfl⟩
      · exact not_says_1a rfl
      · exact not_says_of_inst_ne fun hi => hrec ⟨_, hq, rfl, hi⟩

/-- At the start nobody has said anything. -/
lemma simulates_init (i : BitVec 16) :
    Simulates i (system (ρ := ρ) app a₀).init Voting.State.init := by
  refine Voting.represents_init (fun a => ?_) (fun a => ?_) ?_
  · simp [roundAt, system, Acceptor.init]
  · simp [lastAt, system, Acceptor.init, voteOf]
  · rintro m ⟨p, hp, -⟩
    simp [system] at hp

/-- Runs that keep to `SafeChoice` keep to `OneChoice`. -/
lemma oneChoice_of_safeChoice {s : System ρ σ Cmd} (h : (system app a₀).Reach SafeChoice s) :
    (system app a₀).Reach OneChoice s :=
  h.mono fun _ _ hP => hP.1

/-- **The simulation along runs.** -/
lemma simulates_reach {s : System ρ σ Cmd} (h : (system app a₀).Reach SafeChoice s)
    (i : BitVec 16) : ∃ t, Voting.Reachable TwoOf 0 t ∧ Simulates i s t := by
  refine h.simulates (simulates_init i) ?_
  intro s act s' t hs ht hsim hP hstep
  have hwf := wellFormed_reach hs
  have hlen := length_sequenced_le (oneChoice_of_safeChoice hs)
  rcases step_cases hstep with ⟨P, msg, q, rfl, -, rfl⟩ | ⟨a, p, -, hp, rfl⟩ |
    ⟨r, p, src, sport, dport, L, outs, res, rfl, hp, -, hcall, rfl⟩
  · exact hsim.request hwf hP.1 q
  · exact hsim.toAcceptor hwf a hp
  · exact hsim.toReplica ht hwf hlen hp hP hcall

/-! ## The logs -/

omit [DecidableEq ρ] in
/-- What a replica has logged was voted for by two acceptors in one round. The votes counted for a
logged value have one round, and votes of one round are for one value, so that they are votes of the
abstract acceptors for what was logged. -/
lemma Simulates.logged {i : ℕ} {v : Bytes} {s : System ρ σ Cmd} {r : ρ} (hwf : WellFormed s)
    (hlog : (s.replicas r).learner.learner.logs i = some v) :
    ∃ j : BitVec 16, j.toNat = i ∧ ∀ t, Voting.Reachable TwoOf 0 t → Simulates j s t →
      ∃ k q, TwoOf q ∧ ∀ a ∈ q, Voting.Saying.vote a k v ∈ Voting.said (Says j) s.net := by
  obtain ⟨st, -, -, hb, hmaj, hval⟩ := (hwf.heard r).votes.logged_backed hlog
  obtain ⟨m, ⟨p, hp, h2b, rfl⟩, hi, hr, hm⟩ := hb.val
  refine ⟨p.inst, hi, fun t ht h => ?_⟩
  have hv : payload p.value = v := Option.some.inj (hm.symm.trans hval)
  obtain ⟨b, hb'⟩ := (hwf.net p hp).vote h2b
  have hsaid : Voting.Saying.vote b st.crnd v ∈ Voting.said (Says p.inst) s.net := by
    rw [← hr, ← hv]
    exact ⟨p, hp, .vote b rfl h2b hb'⟩
  -- the other votes of the round are for the same value
  have hvote : ∀ n ∈ st.nids, ∃ a, (datapathId a).toNat = n ∧
      Voting.Saying.vote a st.crnd v ∈ Voting.said (Says p.inst) s.net := by
    intro n hn
    obtain ⟨m', ⟨p', hp', h2b', rfl⟩, hi', hr', rfl⟩ := hb.nids n hn
    obtain ⟨a, ha⟩ := (hwf.net p' hp').vote h2b'
    have hinst : p'.inst = p.inst := BitVec.eq_of_toNat_eq (hi'.trans hi.symm)
    have hsaid' : Voting.Saying.vote a st.crnd (payload p'.value) ∈
        Voting.said (Says p.inst) s.net := by
      rw [← hr']
      exact ⟨p', hp', .vote a hinst h2b' ha⟩
    refine ⟨a, congrArg BitVec.toNat ha.symm, ?_⟩
    rwa [Voting.Represents.vote_unique h ht hsaid' hsaid] at hsaid'
  refine ⟨st.crnd, acceptorsOf st.nids, hwf.twoOf_acceptorsOf hmaj fun n hn => ?_, fun a ha => ?_⟩
  · obtain ⟨a, ha, -⟩ := hvote n hn
    exact ⟨a, ha⟩
  · obtain ⟨a', ha', hsaid'⟩ := hvote _ (mem_acceptorsOf.mp ha)
    rwa [datapathId_injective (BitVec.eq_of_toNat_eq ha')] at hsaid'

/-- **Agreement with recovery**, in every run whose steps meet the condition. -/
theorem logs_agree (app : Application σ Cmd) (a₀ : σ) (s : System ρ σ Cmd)
    (h : (system app a₀).Reach SafeChoice s) (r r' : ρ) (i : ℕ) (v v' : Bytes)
    (hv : (s.replicas r).learner.learner.logs i = some v)
    (hv' : (s.replicas r').learner.learner.logs i = some v') : v = v' := by
  have hwf := wellFormed_reach h
  obtain ⟨j, hj, hvoted⟩ := Simulates.logged hwf hv
  obtain ⟨j', hj', hvoted'⟩ := Simulates.logged hwf hv'
  have hjj : j' = j := BitVec.eq_of_toNat_eq (hj'.trans hj.symm)
  subst hjj
  obtain ⟨t, ht, hsim⟩ := simulates_reach h j'
  obtain ⟨k, hk⟩ := hvoted t ht hsim
  obtain ⟨k', hk'⟩ := hvoted' t ht hsim
  exact Voting.Represents.agreement hsim ht twoOf_meet hk hk'

end agreement

/-- Two requests. The first one is chosen and the first replica learns it; the second replica learns
the second one only. -/
def oneMisses (r r' : ρ) (a b c : Fin 3) : List (Action ρ) :=
  let first := accept 1 [49]
  let second := accept 2 [50]
  [.request (Proposer.new 0) [49], .request (Proposer.new 0) [50],
    .toAcceptor a first, .toAcceptor c first,
    toReplica r (accepted a first), toReplica r (accepted c first),
    .toAcceptor a second, .toAcceptor b second,
    toReplica r' (accepted a second), toReplica r' (accepted b second)]

/-- A replica recovers instance 1 with the promises of two acceptors, in the given order. -/
def recovery (r : ρ) (b c : Fin 3) (p q : PaxosT) : List (Action ρ) :=
  [.toAcceptor b (asked 1), .toAcceptor c (asked 1), toReplica r p, toReplica r q,
    .toAcceptor b (recovered q), .toAcceptor c (recovered q),
    toReplica r (accepted b (recovered q)), toReplica r (accepted c (recovered q))]

/-- The promise that reports the vote comes last: the replicas agree. -/
theorem logs_agree_recovered : ∃ s : System (Fin 2) (List ℕ) ℕ, ∃ v v',
    (system numbers []).Reach SafeChoice s ∧ (s.replicas 0).learner.learner.logs 1 = some v ∧
      (s.replicas 1).learner.learner.logs 1 = some v' ∧ v = v' := by
  obtain ⟨s, hs, htest⟩ := Machine.Reach.of_exec (M := system (ρ := Fin 2) numbers [])
    (P := SafeChoice)
    (oneMisses 0 1 0 1 2 ++ recovery 1 1 2 (promise 1 0) (promise 2 (valueField 1 [49])))
    (fun s => decide ((s.replicas 0).learner.learner.logs 1 = some [49] ∧
      (s.replicas 1).learner.learner.logs 1 = some [49])) (by decide +kernel)
  obtain ⟨h₀, h₁⟩ := of_decide_eq_true htest
  exact ⟨s, [49], [49], hs, h₀, h₁, logs_agree numbers [] s hs 0 1 1 [49] [49] h₀ h₁⟩

/-- The same promises in the other order: the second replica logs the empty message. -/
theorem logs_disagree : ¬ ∀ s : System (Fin 2) (List ℕ) ℕ,
    (system numbers []).Reach (fun _ _ => True) s → s.sequenced.length < 2 ^ 16 →
      ∀ i v v', (s.replicas 0).learner.learner.logs i = some v →
        (s.replicas 1).learner.learner.logs i = some v' → v = v' := by
  intro h
  obtain ⟨s, hs, htest⟩ := Machine.Reach.of_exec (M := system (ρ := Fin 2) numbers [])
    (P := fun _ _ => True)
    (oneMisses 0 1 0 1 2 ++ recovery 1 1 2 (promise 2 (valueField 1 [49])) (promise 1 0))
    (fun s => decide (s.sequenced.length < 2 ^ 16 ∧
      (s.replicas 0).learner.learner.logs 1 = some [49] ∧
      (s.replicas 1).learner.learner.logs 1 = some [])) (by decide +kernel)
  obtain ⟨hlen, h₀, h₁⟩ := of_decide_eq_true htest
  exact absurd (h s hs hlen 1 [49] [] h₀ h₁) (by decide)

end P4xos.Bmv2
