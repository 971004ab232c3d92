import P4xos.Lib.Machine
import P4xos.P4v14.Acceptor
import P4xos.P4v14.Coordinator
import P4xos.Bmv2.Learner
import P4xos.Bmv2.Proposer

/-!
# The bmv2 system

The demo of `bmv2/topo.py`: one coordinator switch, three acceptor switches with ids 1, 2 and 3, and
any number of replicas, configured by `bmv2/scripts/paxos.cfg`. The hosts of the replicas are
connected to the acceptors only, and an acceptor answers or drops every 2A, so the coordinator sees
no 2A but the clients' requests; the other packets that reach it pass through.

The network is the list of all Paxos headers sent so far. A step takes a header from it to an
acceptor or a replica, and leaves it there: any packet may be lost, repeated or overtaken. A replica
whose handler lets an exception escape stops listening, as `sniff` does.

* `handle_pkt_cases`: everything a packet of the network can do at a replica: nothing, be counted as
  a vote and lead to 1A packets, be counted as a promise, or complete a quorum of promises and lead
  to a 2A with its value (`recovered`).
* `step_cases`: everything a step can do: a request is numbered, an acceptor handles a packet, or a
  replica does.

The results about runs take a condition on the steps, and are about every run that keeps to it
(`Machine.Reach`). The number of packets after which a replica stops sniffing is not in this model,
of which a replica that hears nothing more is a run as well; `Demo` has it.
-/

namespace P4xos.Bmv2

open P4xos.Lib P4xos.P4v14

variable {ρ σ Cmd : Type*}

/-- A replica: the state of its `Learner`, whether it still listens, and all it has done. -/
structure Replica (σ Cmd : Type*) where
  learner : Learner σ
  running : Bool
  outs : List (Out Cmd)

/-- The switches, the replicas, every Paxos header sent so far, and the requests in the order in
which the coordinator has numbered them. -/
structure System (ρ σ Cmd : Type*) where
  coordinator : Coordinator
  acceptors : Fin 3 → Acceptor
  replicas : ρ → Replica σ Cmd
  net : List PaxosT
  sequenced : List PaxosT

/-- A client's request reaches the coordinator, or a packet of the network reaches an acceptor or a
replica. The addresses of a packet at a replica are any. -/
inductive Action (ρ : Type*)
  | request (P : Proposer) (msg : Bytes)
  | toAcceptor (a : Fin 3) (p : PaxosT)
  | toReplica (r : ρ) (p : PaxosT) (src : String) (sport dport : ℕ)

/-- The ids of the acceptors.
Source: `bmv2/topo.py` `main`, `register_write datapath_id` -/
def datapathId (a : Fin 3) : BitVec 64 := BitVec.ofNat 64 (a.val + 1)

/-- Source: `bmv2/scripts/paxos.cfg` -/
def NUM_ACCEPTORS : ℕ := 3

/-- A Paxos header as a replica sniffs it. -/
def sniffed (p : PaxosT) (src : String) (sport dport : ℕ) : Pkt where
  ip := some (0x11, src)
  udp := some (sport, dport)
  raw := some p.emit

/-- The headers of the datagrams a replica has sent to the acceptors. -/
def sent (outs : List (Out Cmd)) : List PaxosT :=
  outs.filterMap fun
    | .sendMsg msg _ _ => (extract_paxos msg).map Prod.fst
    | _ => none

/-- The system, with the given application on every replica. -/
def system [DecidableEq ρ] (app : Application σ Cmd) (a₀ : σ) :
    Machine (System ρ σ Cmd) (Action ρ) where
  init := {
    coordinator := Coordinator.init
    acceptors := fun a => Acceptor.init (datapathId a)
    replicas := fun _ => ⟨Learner.new NUM_ACCEPTORS "224.3.29.72" 34952 a₀, true, []⟩
    net := []
    sequenced := [] }
  step s
    | .request P msg =>
        match (P.submit msg).2 with
        | .error _ => none
        | .ok datagram =>
            match extract_paxos datagram with
            | none => none
            | some (p, _) =>
                let (C, p') := s.coordinator.ingress p
                some { s with
                  coordinator := C
                  net := p' :: s.net
                  sequenced := s.sequenced ++ [p] }
    | .toAcceptor a p =>
        if p ∈ s.net then
          let (A, out) := (s.acceptors a).ingress p
          some { s with
            acceptors := Function.update s.acceptors a A
            net := out.toList ++ s.net }
        else none
    | .toReplica r p src sport dport =>
        if p ∈ s.net ∧ (s.replicas r).running = true then
          match (s.replicas r).learner.handle_pkt app (sniffed p src sport dport) with
          | (L, outs, res) =>
              some { s with
                replicas := Function.update s.replicas r
                  ⟨L, res.toBool, (s.replicas r).outs ++ outs⟩
                net := sent outs ++ s.net }
        else none

/-! ## What a packet does at a replica -/

/-- The message a replica reads out of a Paxos header. -/
def message (p : PaxosT) : PaxosMessage Bytes where
  nid := p.acceptor.toNat
  inst := p.inst.toNat
  crnd := p.round.toNat
  vrnd := p.vround.toNat
  val := payload p.value

/-- Nothing was sent. -/
@[simp] lemma sent_nil : sent ([] : List (Out Cmd)) = [] := rfl

/-- What is sent later comes later. -/
@[simp] lemma sent_append (outs outs' : List (Out Cmd)) :
    sent (outs ++ outs') = sent outs ++ sent outs' := List.filterMap_append

/-- **A packet of the network at a replica**: votes and promises are counted, anything else is
ignored. A frame of the switches has exactly the bytes of the header, so that it unpacks. -/
lemma handle_pkt_sniffed (app : Application σ Cmd) (L : Learner σ) (p : PaxosT) (src : String)
    (sport dport : ℕ) :
    L.handle_pkt app (sniffed p src sport dport) =
      if p.msgtype = PAXOS_2B then
        match L.learner.handle_p2b (message p) with
        | .error e => Learner.catchIndexError L [] e
        | .ok (learner, none) => ({ L with learner := learner }, [], .ok ())
        | .ok (learner, some (inst, _)) =>
            Learner.deliverDecision app { L with learner := learner } inst (requestId p.value) src
              (some (sport, dport))
      else if p.msgtype = PAXOS_1B then
        match L.learner.handle_p1b (message p) with
        | (learner, none) => ({ L with learner := learner }, [], .ok ())
        | (learner, some res) =>
            match Learner.make_paxos PHASE_2A res.inst res.crnd res.vrnd res.val with
            | .error e => Learner.catchIndexError { L with learner := learner } [] e
            | .ok msg2a =>
                ({ L with learner := learner },
                  [.sendMsg msg2a L.learner_addr L.learner_port], .ok ())
      else (L, [], .ok ()) := by
  have htake : p.emit.take PAXOS_LEN = p.emit :=
    List.take_of_length_le (PaxosT.length_emit p).le
  have h2b : p.msgtype.toNat = PHASE_2B ↔ p.msgtype = PAXOS_2B := by
    rw [← BitVec.toNat_inj]
    rfl
  have h1b : p.msgtype.toNat = PHASE_1B ↔ p.msgtype = PAXOS_1B := by
    rw [← BitVec.toNat_inj]
    rfl
  unfold Learner.handle_pkt sniffed
  simp only [htake, unpack_emit, h2b, h1b, ne_eq, not_true_eq_false, if_false]
  rfl

/-- The 2A a replica sends when a promise completes its quorum. -/
def recovered (p : PaxosT) : PaxosT where
  msgtype := PAXOS_2A
  inst := p.inst
  round := p.round
  vround := 0
  acceptor := 10
  value := valueField 10 (payload p.value)

/-- The datagram with that 2A. Its fields come from a header, so that they fit one. -/
lemma make_paxos_recovered (p : PaxosT) :
    ∃ msg, Learner.make_paxos PHASE_2A p.inst.toNat p.round.toNat 0 (some (payload p.value)) =
        .ok msg ∧ extract_paxos msg = some (recovered p, []) := by
  have hfits : Fields.Fits ⟨PHASE_2A, p.inst.toNat, p.round.toNat, 0, 10, 10, payload p.value⟩ := by
    have hi := p.inst.isLt
    have hr := p.round.isLt
    refine ⟨?_, by simpa using hi, by simpa using hr, ?_, ?_, ?_⟩ <;> simp [PHASE_2A]
  obtain ⟨msg, hmsg⟩ : ∃ msg,
      pack ⟨PHASE_2A, p.inst.toNat, p.round.toNat, 0, 10, 10, payload p.value⟩ = .ok msg := by
    unfold pack
    rw [if_pos hfits]
    exact ⟨_, rfl⟩
  refine ⟨msg, hmsg, ?_⟩
  rw [(extract_paxos_pack hmsg).2]
  simp [Fields.header, recovered, PHASE_2A, PAXOS_2A]

/-- The header of a 1A that asks for an instance. -/
def asked (i : ℕ) : PaxosT := (Learner.request1a i).header

/-- **Everything a packet of the network can do at a replica**: if it is no promise, nothing; as a
vote, be counted and lead to 1A packets; as a promise, be counted or ignored, or complete a quorum
and lead to a 2A with its value. -/
lemma handle_pkt_cases {app : Application σ Cmd} {L L' : Learner σ} {p : PaxosT} {src : String}
    {sport dport : ℕ} {outs : List (Out Cmd)} {res : Except PyExc Unit}
    {R : PaxosMessage Bytes → Prop} (hinv : PaxosLearner.PromiseInv R L.learner)
    (h : L.handle_pkt app (sniffed p src sport dport) = (L', outs, res)) :
    (p.msgtype ≠ PAXOS_1B ∧ L'.learner = L.learner ∧ sent outs = []) ∨
    (p.msgtype = PAXOS_2B ∧ (∃ o, L.learner.handle_p2b (message p) = .ok (L'.learner, o)) ∧
      ∀ q ∈ sent outs, ∃ i, q = asked i) ∨
    (p.msgtype = PAXOS_1B ∧ L'.learner = (L.learner.handle_p1b (message p)).1 ∧
      ¬ L.learner.CompletesQuorum (message p) ∧ sent outs = []) ∨
    (p.msgtype = PAXOS_1B ∧ L'.learner = (L.learner.handle_p1b (message p)).1 ∧
      L.learner.CompletesQuorum (message p) ∧ sent outs = [recovered p]) := by
  rw [handle_pkt_sniffed] at h
  split_ifs at h with h2b h1b
  · rcases hcall : L.learner.handle_p2b (message p) with e | ⟨learner, _ | ⟨inst, v⟩⟩ <;>
      rw [hcall] at h
    · left
      unfold Learner.catchIndexError at h
      dsimp only at h
      have hne : p.msgtype ≠ PAXOS_1B := by
        rw [h2b]
        decide
      split_ifs at h <;> cases h <;> exact ⟨hne, rfl, rfl⟩
    · cases h
      exact .inr (.inl ⟨h2b, ⟨none, rfl⟩, by simp⟩)
    · obtain ⟨hlearner, hsent⟩ := Learner.deliverDecision_frame app { L with learner := learner }
        inst (requestId p.value) src (some (sport, dport))
      dsimp only at h
      rw [h] at hlearner hsent
      refine .inr (.inl ⟨h2b, ⟨some (inst, v), by rw [hlearner]⟩, fun q hq => ?_⟩)
      obtain ⟨o, ho, hq⟩ := List.mem_filterMap.mp hq
      cases o with
      | deliver i c => cases hq
      | respond data dst sp dp => cases hq
      | sendMsg msg dst dp =>
          obtain ⟨i, hi⟩ := hsent msg dst dp ho
          simp only [(extract_paxos_pack hi).2, Option.map_some, Option.some.injEq] at hq
          exact ⟨i, hq.symm⟩
  · rcases hcall : L.learner.handle_p1b (message p) with ⟨learner, _ | r⟩ <;> rw [hcall] at h
    · cases h
      exact .inr (.inr (.inl ⟨h1b, rfl, PaxosLearner.not_completesQuorum_of_none hcall, rfl⟩))
    · obtain ⟨hquorum, rfl⟩ := hinv.returns hcall
      obtain ⟨msg, hmsg, hextract⟩ := make_paxos_recovered p
      simp only [message] at h
      rw [hmsg] at h
      cases h
      refine .inr (.inr (.inr ⟨h1b, rfl, hquorum, ?_⟩))
      simp [sent, hextract]
  · cases h
    exact .inl ⟨h1b, rfl, rfl⟩

/-! ## What a step does -/

/-- The 2A the coordinator makes of a request. -/
def numbered (C : Coordinator) (q : PaxosT) : PaxosT :=
  { q with msgtype := PAXOS_2A, inst := C.instance_register + 1, round := 0 }

variable [DecidableEq ρ] {app : Application σ Cmd} {a₀ : σ} {s t : System ρ σ Cmd}

/-- **Everything a step can do.** A submission that raises makes no packet, and a replica that has
stopped does nothing, so neither is a step. -/
lemma step_cases {act : Action ρ} (h : (system app a₀).step s act = some t) :
    (∃ P msg q, act = .request P msg ∧ q.value ≠ 0 ∧ t = { s with
      coordinator := ⟨s.coordinator.instance_register + 1⟩
      net := numbered s.coordinator q :: s.net
      sequenced := s.sequenced ++ [q] }) ∨
    (∃ a p, act = .toAcceptor a p ∧ p ∈ s.net ∧ t = { s with
      acceptors := Function.update s.acceptors a ((s.acceptors a).ingress p).1
      net := ((s.acceptors a).ingress p).2.toList ++ s.net }) ∨
    (∃ r p src sport dport L outs res, act = .toReplica r p src sport dport ∧ p ∈ s.net ∧
      (s.replicas r).running = true ∧
      (s.replicas r).learner.handle_pkt app (sniffed p src sport dport) = (L, outs, res) ∧
      t = { s with
        replicas := Function.update s.replicas r ⟨L, res.toBool, (s.replicas r).outs ++ outs⟩
        net := sent outs ++ s.net }) := by
  cases act with
  | request P msg =>
      left
      simp only [system] at h
      rcases hsub : (P.submit msg).2 with e | datagram <;> rw [hsub] at h
      · cases h
      · obtain ⟨hextract, ht, hvalue⟩ := Proposer.submit_header hsub
        refine ⟨P, msg, (P.request msg).header, rfl, hvalue, ?_⟩
        dsimp only at h
        rw [hextract] at h
        simp only [Coordinator.ingress_request ht, Option.some.injEq] at h
        exact h.symm
  | toAcceptor a p =>
      right; left
      simp only [system] at h
      split_ifs at h with hp
      cases h
      exact ⟨a, p, rfl, hp, rfl⟩
  | toReplica r p src sport dport =>
      right; right
      simp only [system] at h
      split_ifs at h with hp
      cases h
      exact ⟨r, p, src, sport, dport, _, _, _, rfl, hp.1, hp.2, rfl, rfl⟩

end P4xos.Bmv2
