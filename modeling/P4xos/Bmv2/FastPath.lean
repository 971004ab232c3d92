import P4xos.Bmv2.WellFormed

/-!
# The fast path: no prepare reaches an acceptor

Runs of the bmv2 system in which the acceptors see no 1A (`Fast`), so that every vote is for a value
the coordinator has numbered.

1. `FastInv` is the invariant: every 2A and 2B in the network carries round 0 and the value of a
request. There are no promises, so no replica recovers anything (`FastInv.ne_1b`), and an acceptor
answers a 2A with the same value (`FastInv.ingress`). 2. Below `2 ^ 16` requests the number of a
packet tells the request it carries (`Carries.nth`), so what is logged is that request's message
(`FastInv.log`). 3. `inOrder_reach`: deliveries are in order at every replica, with room on the
stack at those that run. A decision that comes too far ahead ends the replica, which keeps what it
has delivered. 4. `fast_path_total_order`: below `2 ^ 16` requests, votes, logs and delivered
commands follow the coordinator's sequence. 5. `chosen_stable_iff`: a chosen value stays chosen
exactly up to `2 ^ 16` requests. With one more the counter has gone round, and an acceptor that has
voted for the first request votes for the last one under the same number (`exists_unstable`).
-/

namespace P4xos.Bmv2

open P4xos.Lib P4xos.P4v14

variable {ρ σ Cmd : Type*}

/-- No 1A is delivered to an acceptor. -/
def Fast (_ : System ρ σ Cmd) : Action ρ → Prop
  | .toAcceptor _ p => p.msgtype ≠ PAXOS_1A
  | _ => True

/-- The type of a packet is looked at. -/
instance (s : System ρ σ Cmd) : DecidablePred (Fast s)
  | .request _ _ => inferInstanceAs (Decidable True)
  | .toAcceptor _ p => inferInstanceAs (Decidable (p.msgtype ≠ PAXOS_1A))
  | .toReplica _ _ _ _ _ => inferInstanceAs (Decidable True)

/-! ## The invariant -/

/-- The invariant of the fast path: apart from 1A packets, the network has only 2A and 2B packets of
round 0 that carry requests. -/
def FastInv (s : System ρ σ Cmd) : Prop :=
  ∀ p ∈ s.net, p.msgtype = PAXOS_1A ∨
    (p.msgtype = PAXOS_2A ∨ p.msgtype = PAXOS_2B) ∧ Carries s.sequenced p

/-- There are no promises. -/
lemma FastInv.ne_1b {s : System ρ σ Cmd} (h : FastInv s) {p : PaxosT} (hp : p ∈ s.net) :
    p.msgtype ≠ PAXOS_1B := by
  intro ht
  rcases h p hp with h1 | ⟨h1 | h1, -⟩ <;> exact absurd (ht.symm.trans h1) (by decide)

/-- A packet at an acceptor: the answer to a 2A carries the same value. Without a 1A, the acceptor
votes for a 2A, passes on what is neither, or drops the packet. -/
lemma FastInv.ingress {s : System ρ σ Cmd} (h : FastInv s) {a : Fin 3} {p q : PaxosT}
    (hp : p ∈ s.net) (h1a : p.msgtype ≠ PAXOS_1A) (hq : ((s.acceptors a).ingress p).2 = some q) :
    q.msgtype = PAXOS_1A ∨ (q.msgtype = PAXOS_2A ∨ q.msgtype = PAXOS_2B) ∧
      Carries s.sequenced q := by
  rcases (s.acceptors a).ingress_cases p with ⟨ht, -⟩ | ⟨ht, -, he⟩ | ⟨-, -, -, he⟩ | ⟨-, he⟩
  · exact absurd ht h1a
  · rw [he] at hq
    cases hq
    exact .inr ⟨.inr rfl, ((h p hp).resolve_left h1a).2⟩
  · rw [he] at hq
    cases hq
    exact h p hp
  · rw [he] at hq
    cases hq

section run

variable [DecidableEq ρ] {app : Application σ Cmd} {a₀ : σ}

/-- **The invariant along runs.** Requests append to the log, so that what a 2A carries stays what
its number says; acceptors keep the value; and a replica sends 1A packets only, because no 1B ever
reaches it. -/
lemma fastInv_reach {s : System ρ σ Cmd} (h : (system app a₀).Reach Fast s) : FastInv s := by
  apply h.invariant
  · intro p hp
    simp [system] at hp
  · intro s act t hreach hinv hP hstep
    have hwf := wellFormed_reach hreach
    rcases step_cases hstep with ⟨P, msg, q, -, -, rfl⟩ | ⟨a, p, rfl, hp, rfl⟩ |
      ⟨r, p, src, sport, dport, L, outs, res, -, hp, -, hcall, rfl⟩
    · intro p hp
      rcases List.mem_cons.mp hp with rfl | hp
      · exact .inr ⟨.inl rfl, carries_numbered hwf.counter q⟩
      · exact (hinv p hp).imp id fun hc => ⟨hc.1, hc.2.append q⟩
    · intro q hq
      rcases List.mem_append.mp hq with hq | hq
      · exact hinv.ingress hp hP (by simpa using hq)
      · exact hinv q hq
    · intro q hq
      rcases List.mem_append.mp hq with hq | hq
      · -- without promises a replica sends nothing but 1A packets
        rcases (hwf.heard r).sent hcall hq with ⟨i, rfl⟩ | ⟨h1b, -⟩
        · exact .inl rfl
        · exact absurd h1b (hinv.ne_1b hp)
      · exact hinv q hq

/-! ## Total order -/

/-- Below `2 ^ 16` requests, the number of a packet tells the request it carries. -/
lemma Carries.nth {sequenced : List PaxosT} {p : PaxosT} (h : Carries sequenced p)
    (hlen : sequenced.length < 2 ^ 16) :
    1 ≤ p.inst.toNat ∧ ∃ q, sequenced[p.inst.toNat - 1]? = some q ∧ p.value = q.value := by
  obtain ⟨-, k, q, hk, hi, hv⟩ := h
  have hlt : k < sequenced.length := (List.getElem?_eq_some_iff.mp hk).1
  have hinst : p.inst.toNat = k + 1 := by
    rw [hi, BitVec.toNat_ofNat, Nat.mod_eq_of_lt (by omega)]
  rw [hinst]
  exact ⟨Nat.le_add_left 1 k, q, hk, hv⟩

omit [DecidableEq ρ] in
/-- A vote in the network carries a request. -/
lemma FastInv.carries_of_2b {s : System ρ σ Cmd} (h : FastInv s) {p : PaxosT} (hp : p ∈ s.net)
    (ht : p.msgtype = PAXOS_2B) : Carries s.sequenced p := by
  rcases h p hp with h1a | ⟨-, hc⟩
  · exact absurd (ht.symm.trans h1a) (by decide)
  · exact hc

omit [DecidableEq ρ] in
/-- What a learner that has received votes of the network has logged is a request's message. -/
lemma FastInv.log {s : System ρ σ Cmd} (h : FastInv s) (hlen : s.sequenced.length < 2 ^ 16)
    {L : PaxosLearner Bytes} (hL : PaxosLearner.Inv (Received PAXOS_2B s.net) L) {i : ℕ} {v : Bytes}
    (hlog : L.logs i = some v) :
    1 ≤ i ∧ i < 65536 ∧ ∃ q, s.sequenced[i - 1]? = some q ∧ v = payload q.value := by
  obtain ⟨st, -, -, hb, -, hval⟩ := hL.logged_backed hlog
  obtain ⟨m, ⟨p, hp, ht, rfl⟩, rfl, -, hm⟩ := hb.val
  obtain ⟨hpos, q, hq, hv⟩ := (h.carries_of_2b hp ht).nth hlen
  refine ⟨hpos, p.inst.isLt, q, hq, ?_⟩
  rw [hval, Option.some.injEq] at hm
  rw [hm, ← hv]
  rfl

/-- Fewer than `2 ^ 16` requests, and every message parses. -/
def Parses (app : Application σ Cmd) (sequenced : List PaxosT) : Prop :=
  sequenced.length < 2 ^ 16 ∧ ∀ q ∈ sequenced, ∃ c, app.loads (payload q.value) = .ok c

omit [DecidableEq ρ] in
/-- A packet at a replica keeps its deliveries in order, and leaves room on the stack if the call
returns. On the fast path what is decided is a request of the coordinator, which parses; a logged
instance is not decided again. Near enough the recursion catches up, and too far ahead it raises and
delivers nothing. -/
lemma FastInv.inOrder {s : System ρ σ Cmd} (h : FastInv s) (hwf : WellFormed s)
    (hparses : Parses app s.sequenced)
    (hdel : ∀ a c, (app.deliver a c).2.2 = none) {r : ρ} {p : PaxosT} {src : String}
    {sport dport : ℕ} {L : Learner σ} {outs : List (Out Cmd)} {res : Except PyExc Unit}
    (hp : p ∈ s.net) (hin : (s.replicas r).learner.InOrder app (s.replicas r).outs)
    (hroomy : (s.replicas r).learner.Roomy app)
    (hcall : (s.replicas r).learner.handle_pkt app (sniffed p src sport dport) = (L, outs, res)) :
    L.InOrder app ((s.replicas r).outs ++ outs) ∧ (res = .ok () → L.Roomy app) := by
  rw [handle_pkt_sniffed] at hcall
  split_ifs at hcall with h2b h1b
  · rcases hvote : (s.replicas r).learner.learner.handle_p2b (message p) with
      e | ⟨learner, _ | ⟨inst, v⟩⟩ <;> rw [hvote] at hcall
    · unfold Learner.catchIndexError at hcall
      dsimp only at hcall
      split_ifs at hcall <;> cases hcall <;> exact ⟨by simpa using hin, fun _ => hroomy⟩
    · cases hcall
      exact ⟨by simpa using hin.with_learner (PaxosLearner.handle_p2b_logs_of_none hvote),
        fun _ => hroomy⟩
    · obtain ⟨-, hlogs, -⟩ := PaxosLearner.handle_p2b_decides hvote
      have hinv : PaxosLearner.Inv (Received PAXOS_2B s.net) learner :=
        (hwf.heard r).votes.handle_p2b ⟨p, hp, h2b, rfl⟩ hvote
      obtain ⟨hpos, hlt, q, hq, rfl⟩ := h.log hparses.1 hinv (i := inst) (v := v) (by simp [hlogs])
      have hnew : (s.replicas r).learner.learner.logs inst = none := by
        -- a logged instance is finished, and is not decided again
        cases hlog : (s.replicas r).learner.learner.logs inst with
        | none => rfl
        | some w =>
            obtain ⟨st, hst, hf, -⟩ := (hwf.heard r).votes.logged_backed hlog
            exact absurd rfl ((PaxosLearner.handle_p2b_finished hst hf hvote).2.2 _)
      have hparse := hparses.2 q (List.mem_of_getElem? hq)
      dsimp only at hcall
      by_cases hnear : inst ≤ (s.replicas r).learner.minUncommitedIndex + app.depth
      · obtain ⟨-, hload, -⟩ := hin.logs_decided hlogs hpos hnew hparse
        obtain ⟨L', outs', he, -, -, -, hin', -⟩ := hin.deliverDecision hroomy learner hlogs
          (fun i w hw => Learner.accepts_of_loads hdel (hload i w hw)) ⟨hpos, hlt⟩ hnew hnear
          (requestId p.value) src (some (sport, dport))
        rw [he] at hcall
        cases hcall
        exact ⟨hin'.1, fun _ => hin'.2⟩
      · have hfar : (s.replicas r).learner.minUncommitedIndex + app.depth < inst :=
          Nat.lt_of_not_le hnear
        have he := Learner.deliverDecision_too_far app
          (L := { (s.replicas r).learner with learner := learner }) hfar (requestId p.value) src
          (some (sport, dport))
        rw [he] at hcall
        cases hcall
        refine ⟨?_, fun hreturns => by cases hreturns⟩
        rw [List.append_nil]
        exact hin.too_far learner hlogs hlt hnew hparse hfar
  · exact absurd h1b (h.ne_1b hp)
  · cases hcall
    exact ⟨by simpa using hin, fun _ => hroomy⟩

/-- **In-order delivery along runs** of the fast path: at every replica, and with room on the stack
at those that run. Only a packet at a replica that runs changes its deliveries, and a replica runs
after it if the call returned. -/
lemma inOrder_reach (hdel : ∀ a c, (app.deliver a c).2.2 = none) {s : System ρ σ Cmd}
    (h : (system app a₀).Reach Fast s) : Parses app s.sequenced →
      ∀ r, (s.replicas r).learner.InOrder app (s.replicas r).outs ∧
        ((s.replicas r).running = true → (s.replicas r).learner.Roomy app) := by
  apply h.invariant (I := fun s => Parses app s.sequenced →
    ∀ r, (s.replicas r).learner.InOrder app (s.replicas r).outs ∧
      ((s.replicas r).running = true → (s.replicas r).learner.Roomy app))
  · intro _ r
    exact ⟨Learner.inOrder_new app _ _ _ _, fun _ => Learner.roomy_new app _ _ _ _⟩
  · intro s act t hreach hin _ hstep hparses
    rcases step_cases hstep with ⟨P, msg, q, -, -, rfl⟩ | ⟨a, p, -, -, rfl⟩ |
      ⟨r, p, src, sport, dport, L, outs, res, -, hp, hrun, hcall, rfl⟩
    · -- the requests before this one parse as well
      refine hin ⟨?_, fun q' hq' => hparses.2 q' (List.mem_append.mpr (.inl hq'))⟩
      have hlen := hparses.1
      simp only [List.length_append, List.length_singleton] at hlen
      omega
    · exact hin hparses
    · intro r'
      by_cases hr : r' = r
      · subst hr
        obtain ⟨hin', hroomy⟩ := hin hparses r'
        obtain ⟨hin₁, hroomy₁⟩ := (fastInv_reach hreach).inOrder (wellFormed_reach hreach) hparses
          hdel hp hin' (hroomy hrun) hcall
        simp only [Function.update_self]
        refine ⟨hin₁, fun hok => hroomy₁ ?_⟩
        rcases res with e | _
        · cases hok
        · rfl
      · simpa [hr] using hin hparses r'

/-- The commands of the requests, in the order of the coordinator. -/
def commands (app : Application σ Cmd) (sequenced : List PaxosT) : List Cmd :=
  sequenced.filterMap fun q => (app.loads (payload q.value)).toOption

/-- The commands a replica has delivered, in order. -/
def delivered (s : System ρ σ Cmd) (r : ρ) : List Cmd :=
  (Learner.deliveries (s.replicas r).outs).map Prod.snd

/-- If every message parses, the commands are the requests' one by one. An induction on the
requests: with a text that did not parse the commands would be shifted. -/
lemma getElem?_commands {sequenced : List PaxosT}
    (h : ∀ q ∈ sequenced, ∃ c, app.loads (payload q.value) = .ok c) (k : ℕ) :
    (commands app sequenced)[k]? =
      sequenced[k]?.bind fun q => (app.loads (payload q.value)).toOption := by
  induction sequenced generalizing k with
  | nil => rfl
  | cons q sequenced ih =>
      obtain ⟨⟨c, hc⟩, hrest⟩ := List.forall_mem_cons.mp h
      have hcons : commands app (q :: sequenced) = c :: commands app sequenced := by
        simp [commands, hc, Except.toOption]
      rw [hcons]
      cases k with
      | zero => simp [hc, Except.toOption]
      | succ k => simpa using ih hrest k

omit [DecidableEq ρ] in
/-- What is delivered in order from the log is a prefix of the commands. The delivered instances are
`1, 2, …` in this order, and the log's value of each is the one the coordinator numbered so. -/
lemma FastInv.delivered_initial {s : System ρ σ Cmd} (h : FastInv s) (hwf : WellFormed s)
    (hparses : Parses app s.sequenced) {r : ρ}
    (hin : (s.replicas r).learner.InOrder app (s.replicas r).outs) :
    delivered s r <+: commands app s.sequenced := by
  rw [List.prefix_iff_getElem?]
  intro k hk
  unfold delivered at hk ⊢
  rw [List.length_map] at hk
  rw [List.getElem_map]
  set d := Learner.deliveries (s.replicas r).outs with hd
  -- the `k`-th delivery is of instance `k + 1`
  have hfst : (d[k]).1 = 1 + k := by
    have := List.getElem_map (f := Prod.fst) (l := d) (i := k) (h := by simpa using hk)
    rw [← this]
    simp only [hd, hin.order, List.getElem_range', one_mul]
  obtain ⟨v, hlog, hload⟩ := hin.commands d[k] (List.getElem_mem hk)
  obtain ⟨-, -, q, hq, rfl⟩ := h.log hparses.1 (hwf.heard r).votes hlog
  rw [hfst, Nat.add_sub_cancel_left] at hq
  rw [getElem?_commands hparses.2, hq]
  simp [hload, Except.toOption, hd]

/-- **Total order on the fast path.** In every run in which no 1A reaches an acceptor and fewer than
`2 ^ 16` requests are sequenced: every 2B for instance `i` is of round 0 and carries the value field
of the `i`-th request; every logged value is the message of that request; and if every message
parses and the handler does not raise, what a replica has delivered is a prefix of the coordinator's
sequence, so of two replicas one has delivered a prefix of what the other has. -/
theorem fast_path_total_order (app : Application σ Cmd) (a₀ : σ) (s : System ρ σ Cmd)
    (h : (system app a₀).Reach Fast s) (hlen : s.sequenced.length < 2 ^ 16) :
    (∀ p ∈ s.net, p.msgtype = PAXOS_2B → p.round = 0 ∧ 1 ≤ p.inst.toNat ∧
      ∃ q, s.sequenced[p.inst.toNat - 1]? = some q ∧ p.value = q.value) ∧
    (∀ r i v, (s.replicas r).learner.learner.logs i = some v → 1 ≤ i ∧
      ∃ q, s.sequenced[i - 1]? = some q ∧ v = payload q.value) ∧
    ((∀ q ∈ s.sequenced, ∃ c, app.loads (payload q.value) = .ok c) →
      (∀ a c, (app.deliver a c).2.2 = none) →
      (∀ r, delivered s r <+: commands app s.sequenced) ∧
        ∀ r r', delivered s r <+: delivered s r' ∨ delivered s r' <+: delivered s r) := by
  have hinv := fastInv_reach h
  have hwf := wellFormed_reach h
  refine ⟨?_, ?_, ?_⟩
  · intro p hp ht
    have hc := hinv.carries_of_2b hp ht
    exact ⟨hc.1, hc.nth hlen⟩
  · intro r i v hlog
    obtain ⟨hpos, -, hq⟩ := hinv.log hlen (hwf.heard r).votes hlog
    exact ⟨hpos, hq⟩
  · intro hloads hdel
    have hinitial : ∀ r, delivered s r <+: commands app s.sequenced := fun r =>
      hinv.delivered_initial hwf ⟨hlen, hloads⟩ (inOrder_reach hdel h ⟨hlen, hloads⟩ r).1
    exact ⟨hinitial, fun r r' => List.prefix_or_prefix_of_prefix (hinitial r) (hinitial r')⟩

/-- The header of a client's first request. -/
def firstRequest (msg : Bytes) : PaxosT := ((Proposer.new 0).request msg).header

/-- The 2A of the first request of a client, under a number. -/
def accept (i : BitVec 16) (msg : Bytes) : PaxosT :=
  { firstRequest msg with inst := i, round := 0 }

/-- The 2B of an acceptor for a 2A. -/
def accepted (a : Fin 3) (p : PaxosT) : PaxosT :=
  { p with msgtype := PAXOS_2B, acceptor := datapathId a }

/-- A packet at a replica, with the addresses of the client. -/
def toReplica (r : ρ) (p : PaxosT) : Action ρ := .toReplica r p "10.0.0.1" 34953 34952

/-- Two requests; the first replica learns the second one first and then catches up, the other hears
of the first one only. -/
def overtaken (r r' : ρ) (a b c : Fin 3) : List (Action ρ) :=
  let first := accept 1 [49]
  let second := accept 2 [50]
  [.request (Proposer.new 0) [49], .request (Proposer.new 0) [50],
    .toAcceptor a first, .toAcceptor b first, .toAcceptor b second, .toAcceptor c second,
    toReplica r (accepted b second), toReplica r (accepted c second),
    toReplica r (accepted b first), toReplica r (accepted b first),
    toReplica r (accepted a first), toReplica r' (accepted a first),
    toReplica r' (accepted b first)]

/-- One replica has delivered both commands, the other a prefix of them. The second replica has
received the votes for the first request only. -/
theorem fast_path_overtaken : ∃ s : System (Fin 2) (List ℕ) ℕ,
    (system numbers []).Reach Fast s ∧ delivered s 0 = [1, 2] ∧ delivered s 1 = [1] ∧
      (∀ r, delivered s r <+: commands numbers s.sequenced) ∧
      ∀ r r', delivered s r <+: delivered s r' ∨ delivered s r' <+: delivered s r := by
  obtain ⟨s, hs, htest⟩ := Machine.Reach.of_exec (M := system (ρ := Fin 2) numbers []) (P := Fast)
    (overtaken 0 1 0 1 2) (fun s => decide (s.sequenced.length < 2 ^ 16 ∧
      s.sequenced.map (fun q => payload q.value) = [[49], [50]] ∧
      delivered s 0 = [1, 2] ∧ delivered s 1 = [1])) (by decide +kernel)
  obtain ⟨hlen, hseq, h₀, h₁⟩ := of_decide_eq_true htest
  have hloads : ∀ q ∈ s.sequenced, ∃ c, numbers.loads (payload q.value) = .ok c := by
    intro q hq
    have hmem : payload q.value ∈ [[49], [50]] := by
      rw [← hseq]
      exact List.mem_map_of_mem hq
    rcases List.mem_pair.mp hmem with hpay | hpay <;> rw [hpay] <;> exact ⟨_, rfl⟩
  exact ⟨s, hs, h₀, h₁, (fast_path_total_order numbers [] s hs hlen).2.2 hloads fun _ _ => rfl⟩

/-! ## Stability of chosen values -/

/-- A majority of the acceptors has emitted a 2B for the instance and value. -/
def MajorityVoted (net : List PaxosT) (i : BitVec 16) (v : BitVec 512) : Prop :=
  ∃ q : Finset (Fin 3), 2 ≤ q.card ∧ ∀ a ∈ q, ∃ p ∈ net,
    p.msgtype = PAXOS_2B ∧ p.inst = i ∧ p.value = v ∧ p.acceptor = datapathId a

/-- In a network with the newest packet first: no 2B comes after a majority for another value of its
instance. -/
def Stable (net : List PaxosT) : Prop :=
  ∀ later p earlier, net = later ++ p :: earlier → p.msgtype = PAXOS_2B →
    ∀ v, MajorityVoted earlier p.inst v → p.value = v

/-- Up to `2 ^ 16` requests, packets of one instance carry one value. -/
lemma Carries.value_eq {sequenced : List PaxosT} {p p' : PaxosT} (h : Carries sequenced p)
    (h' : Carries sequenced p') (hlen : sequenced.length ≤ 2 ^ 16) (hi : p.inst = p'.inst) :
    p.value = p'.value := by
  obtain ⟨-, k, q, hk, hik, hv⟩ := h
  obtain ⟨-, k', q', hk', hik', hv'⟩ := h'
  rw [hik, hik'] at hi
  rw [hv, hv', request_unique hlen hk hk' hi]

omit [DecidableEq ρ] in
/-- Up to `2 ^ 16` requests, chosen values are stable. -/
lemma FastInv.stable {s : System ρ σ Cmd} (h : FastInv s) (hlen : s.sequenced.length ≤ 2 ^ 16) :
    Stable s.net := by
  intro later p earlier hnet ht v hv
  obtain ⟨q, hq, hall⟩ := hv
  obtain ⟨a, ha⟩ := Finset.card_pos.mp (by omega : 0 < q.card)
  obtain ⟨p', hp', ht', hi', rfl, -⟩ := hall a ha
  have hmem : p ∈ s.net := by simp [hnet]
  have hmem' : p' ∈ s.net := by simp [hnet, hp']
  exact (h.carries_of_2b hmem ht).value_eq (h.carries_of_2b hmem' ht') hlen hi'.symm

/-- A client can always submit its first request, and the coordinator numbers it. The proposer is a
new one, whose identifier and message fit the header. -/
lemma reach_request {s : System ρ σ Cmd} (h : (system app a₀).Reach Fast s) (msg : Bytes) :
    ∃ t : System ρ σ Cmd, (system app a₀).Reach Fast t ∧ t.acceptors = s.acceptors ∧
      t.net = numbered s.coordinator (firstRequest msg) :: s.net ∧
      t.sequenced = s.sequenced ++ [firstRequest msg] := by
  have hfits : ((Proposer.new 0).request msg).Fits := by
    simp [Fields.Fits, Proposer.request, Proposer.new, PHASE_2A]
  obtain ⟨datagram, hsubmit⟩ : ∃ datagram, ((Proposer.new 0).submit msg).2 = .ok datagram := by
    simp only [Proposer.submit, pack, if_pos hfits]
    exact ⟨_, rfl⟩
  obtain ⟨hextract, ht, -⟩ := Proposer.submit_header hsubmit
  refine ⟨{ s with
      coordinator := ⟨s.coordinator.instance_register + 1⟩
      net := numbered s.coordinator (firstRequest msg) :: s.net
      sequenced := s.sequenced ++ [firstRequest msg] },
    h.step (a := .request (Proposer.new 0) msg) trivial ?_, rfl, rfl, rfl⟩
  simp only [system, hsubmit, hextract, Coordinator.ingress_request ht]
  rfl

/-- An acceptor that is not ahead votes for a 2A of the network. The acceptor's next state and its
vote are those of `handle_2a`. -/
lemma reach_vote {s : System ρ σ Cmd} (h : (system app a₀).Reach Fast s) {a : Fin 3} {p : PaxosT}
    (hp : p ∈ s.net) (ht : p.msgtype = PAXOS_2A) (hr : (s.acceptors a).read_round p ≤ p.round) :
    ∃ t : System ρ σ Cmd, (system app a₀).Reach Fast t ∧
      t.acceptors = Function.update s.acceptors a ((s.acceptors a).handle_2a p).1 ∧
      t.net = ((s.acceptors a).handle_2a p).2 :: s.net ∧ t.sequenced = s.sequenced := by
  refine ⟨{ s with
      acceptors := Function.update s.acceptors a ((s.acceptors a).handle_2a p).1
      net := ((s.acceptors a).handle_2a p).2 :: s.net },
    h.step (a := .toAcceptor a p) ?_ ?_, rfl, rfl, rfl⟩
  · show p.msgtype ≠ PAXOS_1A
    rw [ht]
    decide
  · simp only [system, if_pos hp, Acceptor.ingress_2a ht hr]
    rfl

/-- Any number of requests can be sequenced while nothing else happens. -/
lemma reach_requests {s : System ρ σ Cmd} (h : (system app a₀).Reach Fast s) (msg : Bytes) (n : ℕ) :
    ∃ t : System ρ σ Cmd, (system app a₀).Reach Fast t ∧ t.acceptors = s.acceptors ∧
      (∀ p ∈ s.net, p ∈ t.net) ∧ t.sequenced.length = s.sequenced.length + n := by
  induction n with
  | zero => exact ⟨s, h, rfl, fun _ hp => hp, rfl⟩
  | succ n ih =>
      obtain ⟨t, ht, hacc, hnet, hlen⟩ := ih
      obtain ⟨u, hu, hacc', hnet', hseq⟩ := reach_request ht msg
      refine ⟨u, hu, hacc'.trans hacc, fun p hp => ?_, ?_⟩
      · rw [hnet']
        exact List.mem_cons_of_mem _ (hnet p hp)
      · rw [hseq, List.length_append, hlen]
        rfl

/-- Different messages make different value fields. -/
lemma firstRequest_value_ne : (firstRequest [49]).value ≠ (firstRequest [50]).value := by
  intro h
  have hpay : payload (valueField 1 [49]) = payload (valueField 1 [50]) := congrArg payload h
  rw [payload_valueField, payload_valueField] at hpay
  exact absurd hpay (by decide)

/-- The first request is chosen by the first two acceptors. A request at the coordinator, and its 2A
at acceptors 0 and 1, neither of which has promised anything. -/
lemma exists_chosen (app : Application σ Cmd) (a₀ : σ) :
    ∃ s : System ρ σ Cmd, (system app a₀).Reach Fast s ∧ s.sequenced.length = 1 ∧
      (s.acceptors 0).rounds_register.read 1 = 0 ∧
      MajorityVoted s.net 1 (firstRequest [49]).value := by
  obtain ⟨s₁, h₁, hacc₁, hnet₁, hseq₁⟩ :=
    reach_request (Machine.Reach.init (M := system (ρ := ρ) app a₀)) [49]
  have hp₁ : numbered Coordinator.init (firstRequest [49]) ∈ s₁.net := by
    rw [hnet₁]
    exact List.mem_cons_self
  obtain ⟨s₂, h₂, hacc₂, hnet₂, hseq₂⟩ := reach_vote h₁ (a := 0) hp₁ rfl (by
    rw [hacc₁]
    exact Acceptor.read_round_init_le _ _)
  obtain ⟨s₃, h₃, hacc₃, hnet₃, hseq₃⟩ := reach_vote h₂ (a := 1)
    (hnet₂ ▸ List.mem_cons_of_mem _ hp₁) rfl (by
      rw [hacc₂, Function.update_of_ne (by decide), hacc₁]
      exact Acceptor.read_round_init_le _ _)
  refine ⟨s₃, h₃, by rw [hseq₃, hseq₂, hseq₁]; rfl, ?_, {0, 1}, by decide, ?_⟩
  · rw [hacc₃, Function.update_of_ne (by decide), hacc₂, Function.update_self]
    exact Register.read_write_self _ (by decide) _
  · rw [hnet₃, hnet₂, hacc₂, Function.update_of_ne (by decide), hacc₁]
    intro a ha
    fin_cases ha
    · exact ⟨_, List.mem_cons_of_mem _ List.mem_cons_self, rfl, rfl, rfl, rfl⟩
    · exact ⟨_, List.mem_cons_self, rfl, rfl, rfl, rfl⟩

/-- With one request more, the counter has gone round: the first and the last request have the same
number, and an acceptor that has voted for the first votes for the last. -/
lemma exists_unstable (app : Application σ Cmd) (a₀ : σ) :
    ∃ s : System ρ σ Cmd, (system app a₀).Reach Fast s ∧ s.sequenced.length = 2 ^ 16 + 1 ∧
      ¬ Stable s.net := by
  obtain ⟨s, h, hlen, hround, q, hq, hvoted⟩ := exists_chosen (ρ := ρ) app a₀
  obtain ⟨t, ht, hacc, hnet, hlen'⟩ := reach_requests h [49] (2 ^ 16 - 1)
  obtain ⟨u, hu, hacc', hnet', hseq'⟩ := reach_request ht [50]
  have hinst : (numbered t.coordinator (firstRequest [50])).inst = 1 := by
    show t.coordinator.instance_register + 1 = 1
    rw [(wellFormed_reach ht).counter, hlen', hlen]
    decide
  obtain ⟨w, hw, -, hnet'', hseq''⟩ := reach_vote hu (a := 0) (hnet' ▸ List.mem_cons_self) rfl (by
    rw [Acceptor.read_round, hinst, hacc', hacc]
    exact BitVec.le_of_eq hround)
  refine ⟨w, hw, by rw [hseq'', hseq', List.length_append, hlen', hlen]; rfl, fun hstable => ?_⟩
  refine firstRequest_value_ne (hstable [] _ _ hnet'' rfl _ ?_).symm
  refine ⟨q, hq, fun a ha => ?_⟩
  obtain ⟨p, hp, ht', hi', hrest⟩ := hvoted a ha
  refine ⟨p, ?_, ht', hi'.trans hinst.symm, hrest⟩
  rw [hnet']
  exact List.mem_cons_of_mem _ (hnet p hp)

/-- **Chosen values are stable exactly up to `2 ^ 16` requests.** -/
theorem chosen_stable_iff (app : Application σ Cmd) (a₀ : σ) (n : ℕ) :
    (∀ s : System ρ σ Cmd, (system app a₀).Reach Fast s → s.sequenced.length ≤ n → Stable s.net) ↔
      n ≤ 2 ^ 16 := by
  constructor
  · intro h
    by_contra hn
    obtain ⟨s, hs, hlen, hunstable⟩ := exists_unstable (ρ := ρ) app a₀
    exact hunstable (h s hs (by omega))
  · intro hn s hs hlen
    exact (fastInv_reach hs).stable (hlen.trans hn)

/-- A run with `2 ^ 16 + 1` requests in which a chosen value is replaced. -/
theorem chosen_not_stable :
    ¬ ∀ s : System (Fin 2) (List ℕ) ℕ, (system numbers []).Reach Fast s → Stable s.net := by
  intro h
  obtain ⟨s, hs, -, hunstable⟩ := exists_unstable (ρ := Fin 2) numbers []
  exact hunstable (h s hs)

end run

end P4xos.Bmv2
