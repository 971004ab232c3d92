import P4xos.Bmv2.FastPath

/-!
# Recovery of gaps: one value per round

Runs of the bmv2 system in which replicas recover the instances they miss. Every replica recovers in
round 1, and proposes the value of the promise that completes its quorum, so two replicas may
propose different values in round 1.

1. `OneValuePerRound`: any two 2A packets the replicas have sent for one instance and round carry
the same value. 2. `OneChoice` says when a completing promise leads to no second value: it reports
an empty message exactly if the 2A packets already sent by replicas for the instance and round carry
one (`SameChoice`). It is enough to look at whether they are empty, since up to `2 ^ 16` requests an
instance has one message besides the empty one (`Legit.payload_eq`). 3. `WellFormed.mem_sent_iff`:
the 2A packets sent after a step are the old ones, and the one of a completed recovery. So a step
that meets the condition keeps 1 (`OneValuePerRound.step`), and one that keeps 1 meets it
(`OneValuePerRound.oneChoice`). 4. `one_value_per_round`: in runs that keep to the condition,
replicas send one value per instance and round, and the first packet that breaks it leads to a
second value.

`two_values_in_round` is a run of three acceptors and two replicas that breaks it.
-/

namespace P4xos.Bmv2

open P4xos.Lib P4xos.P4v14

variable {ρ σ Cmd : Type*}

/-- Any two 2A packets the replicas have sent for one instance and round carry the same value. -/
def OneValuePerRound (s : System ρ σ Cmd) : Prop :=
  ∀ r r' p p', p ∈ sent (s.replicas r).outs → p' ∈ sent (s.replicas r').outs →
    p.msgtype = PAXOS_2A → p'.msgtype = PAXOS_2A → p.inst = p'.inst → p.round = p'.round →
      p.value = p'.value

/-- The 2A packets the replicas have sent for the instance and round of a promise carry an empty
message exactly if the promise does. -/
def SameChoice (s : System ρ σ Cmd) (p : PaxosT) : Prop :=
  ∀ r, ∀ q ∈ sent (s.replicas r).outs, q.msgtype = PAXOS_2A → q.inst = p.inst →
    q.round = p.round → (payload q.value = [] ↔ payload p.value = [])

/-- The condition on a step: at most `2 ^ 16` requests are sequenced, and a promise that completes
the quorum of a replica makes no second choice. -/
def OneChoice (s : System ρ σ Cmd) : Action ρ → Prop
  | .request _ _ => s.sequenced.length < 2 ^ 16
  | .toAcceptor _ _ => True
  | .toReplica r p _ _ _ => p.msgtype = PAXOS_1B →
      (s.replicas r).learner.learner.CompletesQuorum (message p) → SameChoice s p

/-- The histories of the replicas are searched. -/
instance [Fintype ρ] (s : System ρ σ Cmd) (p : PaxosT) : Decidable (SameChoice s p) :=
  inferInstanceAs (Decidable (∀ r, ∀ q ∈ sent (s.replicas r).outs, _))

/-- Each action is of one kind. -/
instance [Fintype ρ] (s : System ρ σ Cmd) : DecidablePred (OneChoice s)
  | .request _ _ => inferInstanceAs (Decidable (_ < _))
  | .toAcceptor _ _ => inferInstanceAs (Decidable True)
  | .toReplica _ _ _ _ _ => inferInstanceAs (Decidable (_ → _ → SameChoice _ _))

/-- Up to `2 ^ 16` requests, legitimate values of an instance that are both empty or both not carry
the same message. -/
lemma Legit.payload_eq {sequenced : List PaxosT} {i : BitVec 16} {v v' : BitVec 512}
    (h : Legit sequenced i v) (h' : Legit sequenced i v') (hlen : sequenced.length ≤ 2 ^ 16)
    (hiff : payload v = [] ↔ payload v' = []) : payload v = payload v' := by
  rcases h with he | ⟨k, q, hk, hi, hv⟩
  · rw [he, hiff.mp he]
  · rcases h' with he' | ⟨k', q', hk', hi', hv'⟩
    · rw [he', hiff.mpr he']
    · rw [hv, hv', request_unique hlen hk hk' (hi ▸ hi')]

/-- A new 2A and an earlier one. Both are packed in the same way. -/
lemma WellFormed.recovered_value {s : System ρ σ Cmd} (h : WellFormed s)
    (hlen : s.sequenced.length ≤ 2 ^ 16) {p q : PaxosT} {r' : ρ} (hp : p ∈ s.net)
    (h1b : p.msgtype = PAXOS_1B) (hq : q ∈ sent (s.replicas r').outs) (h2a : q.msgtype = PAXOS_2A)
    (hi : q.inst = p.inst) (hiff : payload q.value = [] ↔ payload p.value = []) :
    q.value = (recovered p).value := by
  have hlp := (h.net p hp).legit_1b h1b
  obtain ⟨hnet, hform⟩ := h.sent_net r' q hq
  have hlq := (h.net q hnet).legit_2a h2a
  rw [hi] at hlq
  rw [(hform h2a).2, hlq.payload_eq hlp hlen hiff]
  rfl

section run

variable [DecidableEq ρ] {app : Application σ Cmd} {a₀ : σ}

/-- The bound on the requests, along runs. -/
lemma length_sequenced_le {s : System ρ σ Cmd} (h : (system app a₀).Reach OneChoice s) :
    s.sequenced.length ≤ 2 ^ 16 := by
  apply h.invariant (I := fun s => s.sequenced.length ≤ 2 ^ 16)
  · exact Nat.zero_le _
  · intro s act t _ hlen hP hstep
    rcases step_cases hstep with ⟨P, msg, q, rfl, -, rfl⟩ | ⟨a, p, -, -, rfl⟩ |
      ⟨r, p, src, sport, dport, L, outs, res, -, -, -, -, rfl⟩
    · rw [List.length_append]
      exact hP
    · exact hlen
    · exact hlen

/-- The 2A packets in the histories after a packet at a replica: the old ones, and the one the
packet leads to if it completes the quorum. -/
lemma WellFormed.mem_sent_iff {s : System ρ σ Cmd} (hwf : WellFormed s) {r : ρ}
    (r' : ρ) {p q : PaxosT} {src : String} {sport dport : ℕ} {L : Learner σ} {outs : List (Out Cmd)}
    {res : Except PyExc Unit}
    (hcall : (s.replicas r).learner.handle_pkt app (sniffed p src sport dport) = (L, outs, res))
    (h2a : q.msgtype = PAXOS_2A) :
    q ∈ sent (Function.update s.replicas r ⟨L, res.toBool, (s.replicas r).outs ++ outs⟩ r').outs ↔
      q ∈ sent (s.replicas r').outs ∨ (r' = r ∧ p.msgtype = PAXOS_1B ∧
        (s.replicas r).learner.learner.CompletesQuorum (message p) ∧ q = recovered p) := by
  have hout : q ∈ sent outs ↔ p.msgtype = PAXOS_1B ∧
      (s.replicas r).learner.learner.CompletesQuorum (message p) ∧ q = recovered p := by
    rcases handle_pkt_cases (hwf.heard r).promises hcall with
      ⟨hne, -, hs⟩ | ⟨h2b, -, hs⟩ | ⟨-, -, hc, hs⟩ | ⟨h1b, -, hc, hs⟩
    · simp [hs, hne]
    · constructor
      · intro hq
        obtain ⟨i, rfl⟩ := hs q hq
        exact absurd h2a (show PAXOS_1A ≠ PAXOS_2A by decide)
      · rintro ⟨h1b, -⟩
        exact absurd (h2b.symm.trans h1b) (by decide)
    · simp [hs, hc]
    · simp [hs, h1b, hc]
  by_cases hr : r' = r
  · subst hr
    rw [Function.update_self, sent_append, List.mem_append, hout]
    simp
  · rw [Function.update_of_ne hr]
    simp [hr]

/-- A step that meets the condition. Two 2As of one round were both sent before, or one of them is
sent now and the condition compares it with the other. -/
lemma OneValuePerRound.step {s t : System ρ σ Cmd} {act : Action ρ}
    (hone : OneValuePerRound s) (hwf : WellFormed s) (hlen : s.sequenced.length ≤ 2 ^ 16)
    (hP : OneChoice s act) (hstep : (system app a₀).step s act = some t) : OneValuePerRound t := by
  rcases step_cases hstep with ⟨P, msg, q, -, -, rfl⟩ | ⟨a, p, -, -, rfl⟩ |
    ⟨r, p, src, sport, dport, L, outs, res, rfl, hp, -, hcall, rfl⟩
  · exact hone
  · exact hone
  · intro r₁ r₂ p₁ p₂ hp₁ hp₂ ht₁ ht₂ hi hround
    rcases (hwf.mem_sent_iff r₁ hcall ht₁).mp hp₁ with hold₁ | ⟨-, h1b, hc, rfl⟩ <;>
      rcases (hwf.mem_sent_iff r₂ hcall ht₂).mp hp₂ with hold₂ | ⟨-, h1b', hc', rfl⟩
    · exact hone r₁ r₂ p₁ p₂ hold₁ hold₂ ht₁ ht₂ hi hround
    · exact hwf.recovered_value hlen hp h1b' hold₁ ht₁ hi
        (hP h1b' hc' r₁ p₁ hold₁ ht₁ hi hround)
    · exact (hwf.recovered_value hlen hp h1b hold₂ ht₂ hi.symm
        (hP h1b hc r₂ p₂ hold₂ ht₂ hi.symm hround.symm)).symm
    · rfl

/-- A packet at a replica that leaves one value per round meets the condition. The condition is read
off the state after the step, in which the new 2A has been sent. -/
lemma OneValuePerRound.oneChoice {s t : System ρ σ Cmd} {r : ρ} {p : PaxosT} {src : String}
    {sport dport : ℕ} (hone : OneValuePerRound t) (hwf : WellFormed s)
    (hstep : (system app a₀).step s (.toReplica r p src sport dport) = some t) :
    OneChoice s (.toReplica r p src sport dport) := by
  rcases step_cases hstep with ⟨P, msg, q, hact, -⟩ | ⟨a, p', hact, -⟩ |
    ⟨r₀, p₀, src₀, sport₀, dport₀, L, outs, res, hact, -, -, hcall, rfl⟩
  · cases hact
  · cases hact
  · cases hact
    intro h1b hc r' q hq h2a hi hround
    have hnew := (hwf.mem_sent_iff r hcall (q := recovered p) rfl).mpr
      (.inr ⟨rfl, h1b, hc, rfl⟩)
    have hold := (hwf.mem_sent_iff r' hcall h2a).mpr (.inl hq)
    rw [hone r' r q (recovered p) hold hnew h2a rfl hi hround, recovered,
      payload_valueField_payload]

/-- **One value per round**, in every run whose steps meet the condition; and a packet that reaches
a replica after such a run leaves one value per round exactly if it meets the condition. -/
theorem one_value_per_round (app : Application σ Cmd) (a₀ : σ) (s : System ρ σ Cmd)
    (h : (system app a₀).Reach OneChoice s) :
    OneValuePerRound s ∧ ∀ r p src sport dport t,
      (system app a₀).step s (.toReplica r p src sport dport) = some t →
        (OneValuePerRound t ↔ OneChoice s (.toReplica r p src sport dport)) := by
  have hone : ∀ {s : System ρ σ Cmd}, (system app a₀).Reach OneChoice s → OneValuePerRound s := by
    intro s h
    apply h.invariant
    · intro r r' p p' hp
      simp [system] at hp
    · intro s act t hs hone hP hstep
      exact hone.step (wellFormed_reach hs) (length_sequenced_le hs) hP hstep
  refine ⟨hone h, fun r p src sport dport t hstep => ⟨fun ht => ?_, fun hP => ?_⟩⟩
  · exact ht.oneChoice (wellFormed_reach h) hstep
  · exact hone (h.step hP hstep)

end run

/-- The promise of an acceptor for instance 1, with the value it reports. -/
def promise (a : Fin 3) (value : BitVec 512) : PaxosT :=
  ⟨PAXOS_1B, 1, 1, 0, datapathId a, value⟩

/-- Two requests. The last acceptor votes for the first one, the others for the second; both
replicas learn the second one, miss the first, and ask for it. All acceptors answer. -/
def bothMiss (r r' : ρ) (a b c : Fin 3) : List (Action ρ) :=
  let first := accept 1 [49]
  let second := accept 2 [50]
  [.request (Proposer.new 0) [49], .request (Proposer.new 0) [50],
    .toAcceptor c first, .toAcceptor a second, .toAcceptor b second,
    toReplica r (accepted a second), toReplica r (accepted b second),
    toReplica r' (accepted a second), toReplica r' (accepted b second),
    .toAcceptor a (asked 1), .toAcceptor b (asked 1), .toAcceptor c (asked 1)]

/-- Both replicas hear of the vote last, and recover the first request. -/
def bothRecover (r r' : ρ) (a b c : Fin 3) : List (Action ρ) :=
  [toReplica r (promise a 0), toReplica r (promise c (valueField 1 [49])),
    toReplica r' (promise b 0), toReplica r' (promise c (valueField 1 [49]))]

/-- The first replica hears of no vote, the second one does. -/
def halfRecover (r r' : ρ) (a b c : Fin 3) : List (Action ρ) :=
  [toReplica r (promise a 0), toReplica r (promise b 0),
    toReplica r' (promise b 0), toReplica r' (promise c (valueField 1 [49]))]

/-- Two replicas that send a 2A for the same instance and round. -/
theorem one_value_recovered : ∃ s : System (Fin 2) (List ℕ) ℕ,
    (system numbers []).Reach OneChoice s ∧
      (∀ r, recovered (promise 2 (valueField 1 [49])) ∈ sent (s.replicas r).outs) ∧
      OneValuePerRound s := by
  obtain ⟨s, hs, htest⟩ := Machine.Reach.of_exec (M := system (ρ := Fin 2) numbers [])
    (P := OneChoice)
    (bothMiss 0 1 0 1 2 ++ bothRecover 0 1 0 1 2)
    (fun s => decide (∀ r, recovered (promise 2 (valueField 1 [49])) ∈ sent (s.replicas r).outs))
    (by decide +kernel)
  exact ⟨s, hs, of_decide_eq_true htest, (one_value_per_round numbers [] s hs).1⟩

/-- A run in which two replicas send 2A packets with different values for one instance and round. -/
theorem two_values_in_round : ¬ ∀ s : System (Fin 2) (List ℕ) ℕ,
    (system numbers []).Reach (fun _ _ => True) s → OneValuePerRound s := by
  intro h
  obtain ⟨s, hs, htest⟩ := Machine.Reach.of_exec (M := system (ρ := Fin 2) numbers [])
    (P := fun _ _ => True)
    (bothMiss 0 1 0 1 2 ++ halfRecover 0 1 0 1 2)
    (fun s => decide (recovered (promise 1 0) ∈ sent (s.replicas 0).outs ∧
      recovered (promise 2 (valueField 1 [49])) ∈ sent (s.replicas 1).outs)) (by decide +kernel)
  obtain ⟨h₀, h₁⟩ := of_decide_eq_true htest
  have hne : (recovered (promise 1 0)).value ≠
      (recovered (promise 2 (valueField 1 [49]))).value := by
    decide +kernel
  exact hne (h s hs 0 1 _ _ h₀ h₁ rfl rfl rfl rfl)

end P4xos.Bmv2
