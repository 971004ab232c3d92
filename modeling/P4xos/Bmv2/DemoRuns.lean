import P4xos.Bmv2.Channels

/-!
# Runs of the demo

What the clients get of the demo when nothing is lost and nobody else speaks Paxos (`Serving`), and
the requests are few enough and such that the application accepts them (`Acceptable`).

1. `handle_switch`, `handle_replica`, `handle_foreign`, `handle_request`, `handle_accept` and
`handle_client` say what each node does with each kind of frame. 2. `Inv` is the invariant: the
acceptors have promised nothing, the coordinator's counter is the number of frames issued, a Paxos
frame is on a link of one of five kinds (`Placed`), what was submitted is issued or on its way, and
each replica has heard the votes as `ReplicaInv` says. 3. Every event keeps it: a submission
(`Inv.submit`), and the arrival of a Paxos frame at the coordinator (`Inv.number`), at an acceptor
(`Inv.answer`), at a replica (`Inv.hear`) or outside the protocol (`Inv.leave`). `Inv.arrive` puts
these together, and `inv_reach` is the invariant in every run. 4. `demo_serves`: every replica does
what a server does that executes the issued requests one after the other, and when nothing is on its
way any more it has served all of them. 5. `arrived_eq` counts the frames without a Paxos header, by
the accounting of the network (`Wires.worth`). With 4 this gives `demo_answers`: each reply has come
in once at the client.

The two theorems have a run as a witness, in which one request is submitted.
-/

namespace P4xos.Bmv2

open P4xos.Lib P4xos.P4v14 Node PaxosLearner

variable {σ Cmd : Type*}

/-! ## What the nodes do with a frame -/

section handle

variable {app : Application σ Cmd} {a₀ : σ} {H : Hosts} {n : Demo σ Cmd} {f : Frame Rest}

/-- A node other than a replica. It is a switch, or a host that takes frames off its link. -/
lemma handle_switch {e : End} (he : e.1.replica = none) :
    (demo app a₀ H).handle n e f =
      ({ n with
          switches := (n.switches.handle e f).1
          issued := n.issued ++ issues n.switches e f },
        (n.switches.handle e f).2) := by
  unfold demo
  dsimp only
  rw [he]

/-- A replica. -/
lemma handle_replica {e : End} {r : Fin 2} (he : e.1.replica = some r) :
    (demo app a₀ H).handle n e f = handleReplica app H n r f := by
  unfold demo
  dsimp only
  rw [he]

/-- A frame that is no Paxos datagram changes nothing, and goes on as it is. It is flooded by the
switches, and no replica sniffs it. -/
lemma handle_foreign (hf : Foreign f) (e : End) :
    ((demo app a₀ H).handle n e f).1 = n ∧
      ∀ x ∈ ((demo app a₀ H).handle n e f).2, x.2 = f := by
  rcases hr : e.1.replica with _ | r
  · rw [handle_switch hr]
    have hissues : issues n.switches e f = [] := by
      unfold issues
      rw [if_neg]
      rw [hf.paxos]
      rintro ⟨-, h⟩
      cases h
    have hswitches : (n.switches.handle e f).1 = n.switches := by
      unfold Switches.handle
      rcases ha : e.1.acceptor with _ | a
      · by_cases hs : e.1.isSwitch
        · simp only [hs, if_true]
          rw [(Coordinator.switch_eq n.switches.coordinator e.2 f).1, Coordinator.next, hf.paxos]
        · simp only [hs, Bool.false_eq_true, if_false]
      · dsimp only
        rw [(Acceptor.switch_eq (n.switches.acceptors a) e.2 f).1, Acceptor.next, hf.paxos,
          Function.update_eq_self]
    constructor
    · dsimp only
      rw [hissues, hswitches, List.append_nil]
    · intro x hx
      rw [n.switches.handle_out, n.switches.passed_of_none e hf.paxos, Option.toList_some,
        List.flatMap_singleton] at hx
      obtain ⟨e', -, rfl⟩ := List.mem_map.mp hx
      rfl
  · have hsniffs : sniffs f = none := by
      unfold sniffs
      rcases hu : f.rest.udp with _ | u
      · rfl
      · exact if_neg (hf.dport u hu)
    have hhandle : (demo app a₀ H).handle n e f = (n, []) := by
      rw [handle_replica hr]
      unfold handleReplica
      rw [hsniffs]
    rw [hhandle]
    exact ⟨rfl, fun x hx => absurd hx List.not_mem_nil⟩

/-- The frame of a request at the coordinator. It is given the next number, and flooded. The
coordinator adds 1 to its register, writes it into the frame, and sets round 0 (`issue`). -/
lemma handle_request {p : PaxosT} (hp : f.paxos = some p) (ht : p.msgtype = PAXOS_2A) (c : Fin 2) :
    (demo app a₀ H).handle n (fromClient c) f =
      ({ n with
          switches := { n.switches with
            coordinator := ⟨n.switches.coordinator.instance_register + 1⟩ }
          issued := n.issued ++ [issue (n.switches.coordinator.instance_register + 1) f] },
        (targets (fromClient c)).map fun e =>
          (e, issue (n.switches.coordinator.instance_register + 1) f)) := by
  have hpassed : n.switches.coordinator.passed f =
      issue (n.switches.coordinator.instance_register + 1) f := by
    rw [Coordinator.passed, hp]
    dsimp only
    rw [Coordinator.ingress_request ht, issue, hp]
    rfl
  have hissues : issues n.switches (fromClient c) f =
      [issue (n.switches.coordinator.instance_register + 1) f] := by
    rw [issues, if_pos ⟨rfl, by rw [hp, Option.map_some, ht]⟩, hpassed]
  have hnext : (n.switches.handle (fromClient c) f).1 =
      { n.switches with coordinator := ⟨n.switches.coordinator.instance_register + 1⟩ } := by
    show { n.switches with
      coordinator := (n.switches.coordinator.switch (fromClient c).2 f).1 } = _
    rw [(Coordinator.switch_eq n.switches.coordinator _ f).1, Coordinator.next, hp]
    dsimp only
    rw [Coordinator.ingress_request ht]
  have hout : (n.switches.handle (fromClient c) f).2 = (targets (fromClient c)).map fun e =>
      (e, issue (n.switches.coordinator.instance_register + 1) f) := by
    rw [n.switches.handle_out, ← hpassed]
    show (some (n.switches.coordinator.passed f)).toList.flatMap _ = _
    rw [Option.toList_some, List.flatMap_singleton]
  rw [handle_switch rfl, hissues, hnext, hout]

/-- The frame of a 2A at an acceptor. Nothing higher was promised, so it is answered with a vote,
which is flooded. The value and the round are stored, and the frame becomes a 2B with the acceptor's
identifier (`vote`). -/
lemma handle_accept {p : PaxosT} (hp : f.paxos = some p) (ht : p.msgtype = PAXOS_2A) (a : Fin 3)
    (hid : (n.switches.acceptors a).datapath_id = datapathId a)
    (hround : (n.switches.acceptors a).rounds_register.read p.inst.toNat ≤ p.round) :
    (demo app a₀ H).handle n (toAcceptor a) f =
      ({ n with
          switches := { n.switches with
            acceptors := Function.update n.switches.acceptors a
              ((n.switches.acceptors a).handle_2a p).1 } },
        (targets (toAcceptor a)).map fun e => (e, vote a f)) := by
  obtain ⟨hacceptor, hreplica, hne, -⟩ : (toAcceptor a).1.acceptor = some a ∧
      (toAcceptor a).1.replica = none ∧ (toAcceptor a).1 ≠ s1 ∧ _ := acceptor_acceptorNode a
  have hingress := Acceptor.ingress_2a ht hround
  have hpassed : n.switches.passed (toAcceptor a) f = some (vote a f) := by
    unfold Switches.passed
    rw [hacceptor]
    dsimp only
    rw [Acceptor.passed, hp]
    dsimp only
    rw [hingress, Option.map_some, vote, hp]
    show some _ = some { f with paxos := some (accepted a p) }
    rw [accepted, ← hid]
    rfl
  have hissues : issues n.switches (toAcceptor a) f = [] := if_neg fun h => hne h.1
  have hnext : (n.switches.handle (toAcceptor a) f).1 = { n.switches with
      acceptors := Function.update n.switches.acceptors a
        ((n.switches.acceptors a).handle_2a p).1 } := by
    unfold Switches.handle
    rw [hacceptor]
    dsimp only
    rw [(Acceptor.switch_eq (n.switches.acceptors a) _ f).1, Acceptor.next, hp]
    dsimp only
    rw [hingress]
  have hout : (n.switches.handle (toAcceptor a) f).2 =
      (targets (toAcceptor a)).map fun e => (e, vote a f) := by
    rw [n.switches.handle_out, hpassed, Option.toList_some, List.flatMap_singleton]
  rw [handle_switch hreplica, hissues, hnext, hout, List.append_nil]

/-- A frame at a client's host. The network ends there. -/
lemma handle_client {e : End} (he : e.1 = h1 ∨ e.1 = h4) :
    (demo app a₀ H).handle n e f = (n, []) := by
  obtain ⟨m, port⟩ := e
  rcases he with he | he <;> change m = _ at he <;> subst he
  · rw [handle_switch rfl]
    show ({ n with switches := n.switches, issued := n.issued ++ [] }, []) = (n, [])
    rw [List.append_nil]
  · rw [handle_switch rfl]
    show ({ n with switches := n.switches, issued := n.issued ++ [] }, []) = (n, [])
    rw [List.append_nil]

end handle

/-! ## The invariant -/

/-- Where a Paxos frame can be, and what it is there. -/
def Placed (e : End) (f : Frame Rest) : Prop :=
  ToLearners f ∧ ∃ p, f.paxos = some p ∧
    ((∃ c, e = fromClient c ∧ p.msgtype = PAXOS_2A) ∨
      (∃ a, e = toAcceptor a ∧ p.msgtype = PAXOS_2A ∧ p.round = 0) ∨
      (∃ r a, e = fromAcceptor r a) ∨ e.1 = h1 ∨ e.1 = h4)

/-- What is on its way to the coordinator. The first frames of the links from the clients. -/
def waiting (q : Wires End (Frame Rest)) : List (Frame Rest) :=
  (List.finRange 2).flatMap fun c => q (fromClient c)

/-- The two links. -/
lemma waiting_eq (q : Wires End (Frame Rest)) : waiting q = q (fromClient 0) ++ q (fromClient 1) := by
  simp [waiting, List.finRange_succ]

/-- The invariant: `q` are the Paxos frames on the wires, and `req` those that were submitted. -/
structure Inv (app : Application σ Cmd) (a₀ : σ) (n : Demo σ Cmd) (q : Wires End (Frame Rest))
    (req : List (Frame Rest)) : Prop where
  placed : ∀ e, ∀ f ∈ q e, Placed e f
  acceptors : ∀ a, (n.switches.acceptors a).datapath_id = datapathId a ∧
    ∀ i : BitVec 16, (n.switches.acceptors a).rounds_register.read i.toNat = 0
  counter : n.switches.coordinator.instance_register = BitVec.ofNat 16 n.issued.length
  issued : ∀ k f, n.issued[k]? = some f → Issued k f
  /-- What was submitted has been issued, or is on its way to the coordinator. -/
  requested : (req.map requestOf).Perm
    ((n.issued ++ waiting q).map requestOf)
  replicas : ∀ r, ∃ vs, ReplicaInv app a₀ n.issued q r (n.replicas r) (n.sniffed r) vs

section inv

variable {app : Application σ Cmd} {a₀ : σ} {H : Hosts} {n : Demo σ Cmd}
  {q : Wires End (Frame Rest)} {req : List (Frame Rest)} {f : Frame Rest}

/-- The same requests in another order, or fewer of them. There are no more of them, and each is one
of the requests. -/
lemma Acceptable.of_perm {rest : List (Frame Rest)} {issued : List (Frame Rest)}
    (h : Acceptable app req) (hperm : (req.map requestOf).Perm ((issued ++ rest).map requestOf)) :
    Acceptable app issued := by
  obtain ⟨hlen, haccepts⟩ := h
  constructor
  · have hlength := hperm.length_eq
    rw [List.length_map, List.length_map, List.length_append] at hlength
    exact (Nat.mul_le_mul_left _ (by omega)).trans_lt hlen
  · intro f hf
    have hmem : requestOf f ∈ (issued ++ rest).map requestOf :=
      List.mem_map_of_mem (List.mem_append_left _ hf)
    obtain ⟨f', hf', heq⟩ := List.mem_map.mp (hperm.mem_iff.mpr hmem)
    show Learner.Accepts app (requestOf f).value
    rw [← heq]
    exact haccepts f' hf'

/-- At the start. Nothing is stored, and nothing is on its way. -/
lemma inv_init : Inv app a₀ (demo app a₀ H).init (fun _ => []) [] where
  placed e f hf := absurd hf List.not_mem_nil
  acceptors a := ⟨rfl, fun i => Register.read_zero _⟩
  counter := rfl
  issued k f hk := by
    cases hk
  requested := .nil
  replicas r := ⟨[], rfl, rfl, Learner.fed_new _ _ _ _ _, sequential_nil,
    ⟨0, Learner.serves_new _ _ _ _ _ _⟩, fun v hv => absurd hv List.not_mem_nil, fun a => rfl⟩

/-- A frame of client `c` behind the others. The links of the others stay. -/
lemma waiting_concat {q' : Wires End (Frame Rest)} (c : Fin 2)
    (hself : q' (fromClient c) = q (fromClient c) ++ [f])
    (hother : ∀ c', c' ≠ c → q' (fromClient c') = q (fromClient c')) :
    (waiting q').Perm (waiting q ++ [f]) := by
  rw [waiting_eq, waiting_eq]
  match c with
  | 0 =>
      rw [hself, hother 1 (by decide), List.append_assoc, List.append_assoc]
      exact List.Perm.append_left _ List.perm_append_comm
  | 1 => rw [hself, hother 0 (by decide), List.append_assoc]

/-- The first frame of client `c` comes in. What is behind it stays on its way. -/
lemma waiting_tail {q' : Wires End (Frame Rest)} (c : Fin 2)
    (hself : q (fromClient c) = f :: q' (fromClient c))
    (hother : ∀ c', c' ≠ c → q' (fromClient c') = q (fromClient c')) :
    (waiting q).Perm (f :: waiting q') := by
  rw [waiting_eq, waiting_eq]
  match c with
  | 0 => rw [hself, hother 1 (by decide), List.cons_append]
  | 1 =>
      rw [hself, hother 0 (by decide)]
      exact List.perm_middle

/-- **A request is submitted.** It is on its way to the coordinator. It joins the requests that wait
on the link of its client, at the end, and nothing that an acceptor or a replica is to receive
changes. -/
lemma Inv.submit (h : Inv app a₀ n q req) (c : Fin 2) (hf : Placed (fromClient c) f) :
    Inv app a₀ n (q.send [(fromClient c, f)]) (req ++ [f]) where
  placed e f' hf' := by
    rcases Wires.mem_send.mp hf' with hold | hnew
    · exact h.placed e f' hold
    · cases List.mem_singleton.mp hnew
      exact hf
  acceptors := h.acceptors
  counter := h.counter
  issued := h.issued
  requested := by
    have hwaiting : (waiting (q.send [(fromClient c, f)])).Perm (waiting q ++ [f]) :=
      waiting_concat c send_one_self fun c' hc' => send_one_of_ne fun heq => hc' (fromClient_inj.mp heq)
    have hperm : (n.issued ++ waiting (q.send [(fromClient c, f)])).Perm
        (n.issued ++ waiting q ++ [f]) := by
      rw [List.append_assoc]
      exact hwaiting.append_left _
    have hreq := h.requested.append_right ([f].map requestOf)
    rw [← List.map_append, ← List.map_append] at hreq
    exact hreq.trans (hperm.map requestOf).symm
  replicas r := by
    obtain ⟨vs, hvs⟩ := h.replicas r
    refine ⟨vs, hvs.congr fun a => ?_⟩
    obtain ⟨hto, hfrom, -⟩ := ends_ne c a r a
    rw [send_one_of_ne hfrom.symm, send_one_of_ne hto.symm]

/-- What comes in at the coordinator from a client. Only requests are on the links from the clients.
-/
lemma Inv.at_coordinator (h : Inv app a₀ n q req) (c : Fin 2)
    (hf : (q (fromClient c)).head? = some f) :
    ToLearners f ∧ ∃ p, f.paxos = some p ∧ p.msgtype = PAXOS_2A := by
  obtain ⟨hdst, p, hp, hplace⟩ := h.placed _ f (List.mem_of_head? hf)
  refine ⟨hdst, p, hp, ?_⟩
  rcases hplace with ⟨-, -, ht⟩ | ⟨a, heq, ht, -⟩ | ⟨r, a, heq⟩ | heq | heq
  · exact ht
  · exact ht
  · exact absurd heq (ends_ne c a r a).2.1
  · cases heq
  · cases heq

/-- What comes in at an acceptor from the coordinator. Only 2As of round 0 are on the links from the
coordinator. -/
lemma Inv.at_acceptor (h : Inv app a₀ n q req) (a : Fin 3)
    (hf : (q (toAcceptor a)).head? = some f) :
    ToLearners f ∧ ∃ p, f.paxos = some p ∧ p.msgtype = PAXOS_2A ∧ p.round = 0 := by
  obtain ⟨hdst, p, hp, hplace⟩ := h.placed _ f (List.mem_of_head? hf)
  obtain ⟨-, -, -, hh1, hh4⟩ := acceptor_acceptorNode a
  refine ⟨hdst, p, hp, ?_⟩
  rcases hplace with ⟨c, heq, -⟩ | ⟨-, -, ht, hr⟩ | ⟨r, b, heq⟩ | heq | heq
  · exact absurd heq.symm (ends_ne c a 0 a).1
  · exact ⟨ht, hr⟩
  · exact absurd heq (ends_ne 0 b r a).2.2
  · exact absurd heq hh1
  · exact absurd heq hh4

/-- **The coordinator numbers a request.** The frame is issued, and goes out to the acceptors,
behind those issued before. The counter and the frames issued grow together, so the number is that
of the frame's place. The request leaves the link of its client and joins those issued, which keeps
what was submitted accounted for. In the channel of each replica to each acceptor the frame is the
last one. -/
lemma Inv.number (h : Inv app a₀ n q req) (c : Fin 2) (hf : (q (fromClient c)).head? = some f) :
    (∀ x ∈ ((demo app a₀ H).handle n (fromClient c) f).2, x.2.paxos.isSome) ∧
      Inv app a₀ ((demo app a₀ H).handle n (fromClient c) f).1
        ((q.take (fromClient c)).send ((demo app a₀ H).handle n (fromClient c) f).2) req := by
  obtain ⟨hdst, p, hp, ht⟩ := h.at_coordinator c hf
  rw [handle_request hp ht c]
  set i := n.switches.coordinator.instance_register + 1 with hi
  have hissue : (issue i f).paxos = some { p with msgtype := PAXOS_2A, inst := i, round := 0 } := by
    rw [issue, hp]
    rfl
  have hcounter : i = BitVec.ofNat 16 (n.issued.length + 1) := by
    rw [hi, h.counter, BitVec.ofNat_add]
    rfl
  obtain ⟨hto, hfrom, hclient⟩ := count_targets_fromClient c
  constructor
  · refine isSome_paxos_flood _ ?_
    rw [hissue]
    rfl
  · refine ⟨?_, h.acceptors, ?_, ?_, ?_, ?_⟩
    · intro e f' hf'
      rcases Wires.mem_send.mp hf' with hold | hnew
      · exact h.placed e f' (Wires.mem_take hold)
      · obtain ⟨e', he', heq⟩ := List.mem_map.mp hnew
        cases heq
        refine ⟨hdst, _, hissue, ?_⟩
        rcases mem_targets_fromClient he' with ⟨a, rfl⟩ | he' | he'
        · exact .inr (.inl ⟨a, rfl, rfl, rfl⟩)
        · exact .inr (.inr (.inr (.inl he')))
        · exact .inr (.inr (.inr (.inr he')))
    · show i = BitVec.ofNat 16 (n.issued ++ [issue i f]).length
      rw [List.length_append, List.length_singleton]
      exact hcounter
    · intro k f' hk
      by_cases hlt : k < n.issued.length
      · rw [List.getElem?_append_left hlt] at hk
        exact h.issued k f' hk
      · obtain ⟨rfl, rfl⟩ : k = n.issued.length ∧ issue i f = f' := by
          rw [List.getElem?_append_right (Nat.not_lt.mp hlt), List.getElem?_singleton] at hk
          split_ifs at hk with hzero
          exact ⟨by omega, Option.some_inj.mp hk⟩
        exact ⟨⟨_, hissue, rfl, hcounter, rfl⟩, hdst⟩
    · have htake : ∀ c', ((q.take (fromClient c)).send
          ((targets (fromClient c)).map fun e => (e, issue i f))) (fromClient c') =
          q.take (fromClient c) (fromClient c') := by
        intro c'
        rw [send_flood, hclient c', List.replicate_zero, List.append_nil]
      have hwaiting := waiting_tail c (q := q) (f := f) (by rw [htake, take_self hf])
        fun c' hc' => (htake c').trans (take_of_ne fun heq => hc' (fromClient_inj.mp heq))
      have hreq : requestOf (issue i f) = requestOf f := by
        unfold requestOf valueOf
        rw [hissue, hp]
        rfl
      refine h.requested.trans ?_
      rw [List.map_append, List.map_append, List.map_append, List.append_assoc,
        List.map_singleton, hreq]
      exact (hwaiting.map requestOf).append_left _
    · intro r
      obtain ⟨vs, hvs⟩ := h.replicas r
      refine ⟨vs, hvs.issue _ (fun a => ?_) fun a => ?_⟩
      · rw [send_flood, hfrom r a, List.replicate_zero, List.append_nil]
        exact take_of_ne (ends_ne c a r a).2.1.symm
      · rw [send_flood, hto a, List.replicate_one]
        congr 1
        exact take_of_ne (ends_ne c a r a).1.symm

/-- **An acceptor votes.** Its vote moves on to both replicas. The channels of the replicas to the
acceptor keep their frames, one of which has been answered. -/
lemma Inv.answer (h : Inv app a₀ n q req) (a : Fin 3) (hf : (q (toAcceptor a)).head? = some f) :
    (∀ x ∈ ((demo app a₀ H).handle n (toAcceptor a) f).2, x.2.paxos.isSome) ∧
      Inv app a₀ ((demo app a₀ H).handle n (toAcceptor a) f).1
        ((q.take (toAcceptor a)).send ((demo app a₀ H).handle n (toAcceptor a) f).2) req := by
  obtain ⟨hdst, p, hp, ht, hround⟩ := h.at_acceptor a hf
  obtain ⟨hid, hrounds⟩ := h.acceptors a
  rw [handle_accept hp ht a hid (by rw [hrounds, hround]; exact BitVec.le_refl _)]
  obtain ⟨hto, hfrom, hclient⟩ := count_targets_toAcceptor a
  have hvote : (vote a f).paxos = some (accepted a p) := by
    rw [vote, hp]
    rfl
  constructor
  · refine isSome_paxos_flood _ ?_
    rw [hvote]
    rfl
  · refine ⟨?_, ?_, h.counter, h.issued, ?_, ?_⟩
    · intro e f' hf'
      rcases Wires.mem_send.mp hf' with hold | hnew
      · exact h.placed e f' (Wires.mem_take hold)
      · obtain ⟨e', he', heq⟩ := List.mem_map.mp hnew
        cases heq
        obtain ⟨r, rfl⟩ := mem_targets_toAcceptor he'
        exact ⟨hdst, _, hvote, .inr (.inr (.inl ⟨r, a, rfl⟩))⟩
    · intro b
      dsimp only
      by_cases hb : b = a
      · subst hb
        rw [Function.update_self]
        refine ⟨hid, fun i => ?_⟩
        show ((n.switches.acceptors b).rounds_register.write p.inst.toNat p.round).read i.toNat = 0
        by_cases hi : i = p.inst
        · subst hi
          rw [Register.read_write_self _ p.inst_lt, hround]
        · rw [Register.read_write_of_ne _ fun heq => hi (BitVec.eq_of_toNat_eq heq)]
          exact hrounds i
      · rw [Function.update_of_ne hb]
        exact h.acceptors b
    · have hsame : ∀ c, ((q.take (toAcceptor a)).send
          ((targets (toAcceptor a)).map fun e => (e, vote a f))) (fromClient c) = q (fromClient c) := by
        intro c
        rw [send_flood, hclient c, List.replicate_zero, List.append_nil]
        exact take_of_ne (ends_ne c a 0 a).1
      have hwaiting : waiting ((q.take (toAcceptor a)).send
          ((targets (toAcceptor a)).map fun e => (e, vote a f))) = waiting q := by
        rw [waiting_eq, hsame, hsame, waiting_eq]
      rw [hwaiting]
      exact h.requested
    · intro r
      obtain ⟨vs, hvs⟩ := h.replicas r
      refine ⟨vs, hvs.congr fun b => ?_⟩
      have htake : q.take (toAcceptor a) (fromAcceptor r b) = q (fromAcceptor r b) :=
        take_of_ne (ends_ne 0 b r a).2.2.symm
      rw [send_flood, send_flood, hto b, hfrom r b, List.replicate_zero, List.append_nil, htake]
      by_cases hb : b = a
      · subst hb
        rw [if_pos rfl, List.replicate_one, List.append_assoc]
        conv_rhs => rw [take_self hf]
        rfl
      · rw [if_neg hb, List.replicate_zero, List.append_nil,
          take_of_ne fun heq => hb (toAcceptor_inj.mp heq)]

/-- **A replica hears a vote.** The channel loses its first frame, and the replica has heard one
vote more. The rest of the invariant is about links that the frame was not on. -/
lemma Inv.hear (h : Inv app a₀ n q req) (hok : Acceptable app n.issued) (r : Fin 2) (a : Fin 3)
    (hf : (q (fromAcceptor r a)).head? = some f) :
    (∀ x ∈ ((demo app a₀ H).handle n (fromAcceptor r a) f).2, Foreign x.2) ∧
      Inv app a₀ ((demo app a₀ H).handle n (fromAcceptor r a) f).1 (q.take (fromAcceptor r a)) req := by
  obtain ⟨vs, hvs⟩ := h.replicas r
  obtain ⟨R', v, hnodes, hout, hreplica⟩ := hvs.hear hok h.issued H hf
  rw [handle_replica (replica_host r)]
  refine ⟨hout, ?_⟩
  rw [hnodes]
  refine ⟨fun e f' hf' => h.placed e f' (Wires.mem_take hf'), h.acceptors, h.counter, h.issued, ?_, ?_⟩
  · have hwaiting : waiting (q.take (fromAcceptor r a)) = waiting q := by
      rw [waiting_eq, take_of_ne (ends_ne 0 a r a).2.1, take_of_ne (ends_ne 1 a r a).2.1, waiting_eq]
    rw [hwaiting]
    exact h.requested
  · intro r'
    dsimp only
    by_cases hr : r' = r
    · subst hr
      rw [Function.update_self, Function.update_self]
      exact ⟨_, hreplica⟩
    · rw [Function.update_of_ne hr, Function.update_of_ne hr]
      obtain ⟨vs', hvs'⟩ := h.replicas r'
      refine ⟨vs', hvs'.congr fun b => ?_⟩
      rw [take_of_ne fun heq => hr (fromAcceptor_inj.mp heq).1, take_of_ne (ends_ne 0 a r b).2.2]

/-- **A 2A leaves the network** at the client that did not ask for it. The interfaces of the clients
are not among the ends that the invariant counts frames at. -/
lemma Inv.leave (h : Inv app a₀ n q req) {e : End} (he : e.1 = h1 ∨ e.1 = h4) :
    Inv app a₀ n (q.take e) req := by
  have hne : ∀ c a r, fromClient c ≠ e ∧ toAcceptor a ≠ e ∧ fromAcceptor r a ≠ e := by
    revert e
    decide +kernel
  refine ⟨fun e f' hf' => h.placed e f' (Wires.mem_take hf'), h.acceptors, h.counter, h.issued, ?_, ?_⟩
  · have hwaiting : waiting (q.take e) = waiting q := by
      rw [waiting_eq, take_of_ne (hne 0 0 0).1, take_of_ne (hne 1 0 0).1, waiting_eq]
    rw [hwaiting]
    exact h.requested
  · intro r
    obtain ⟨vs, hvs⟩ := h.replicas r
    refine ⟨vs, hvs.congr fun a => ?_⟩
    obtain ⟨-, hto, hfrom⟩ := hne 0 a r
    rw [take_of_ne hto, take_of_ne hfrom]

/-- **A Paxos frame comes in**: it makes Paxos frames, at a switch, or replies, at a replica. The
frame's place says which of the four it is: a request at the coordinator, a 2A at an acceptor, a
vote at a replica, or a 2A at a client. -/
lemma Inv.arrive (h : Inv app a₀ n q req) (hok : Acceptable app n.issued) (H : Hosts) {e : End}
    (hf : (q e).head? = some f) :
    ((∀ x ∈ ((demo app a₀ H).handle n e f).2, x.2.paxos.isSome) ∧
        Inv app a₀ ((demo app a₀ H).handle n e f).1
          ((q.take e).send ((demo app a₀ H).handle n e f).2) req) ∨
      (∀ x ∈ ((demo app a₀ H).handle n e f).2, Foreign x.2) ∧
        Inv app a₀ ((demo app a₀ H).handle n e f).1 (q.take e) req := by
  have hleave : e.1 = h1 ∨ e.1 = h4 → (∀ x ∈ ((demo app a₀ H).handle n e f).2, Foreign x.2) ∧
      Inv app a₀ ((demo app a₀ H).handle n e f).1 (q.take e) req := by
    intro he
    rw [handle_client he]
    exact ⟨fun x hx => absurd hx List.not_mem_nil, h.leave he⟩
  obtain ⟨-, p, -, hplace⟩ := h.placed e f (List.mem_of_head? hf)
  rcases hplace with ⟨c, rfl, -⟩ | ⟨a, rfl, -, -⟩ | ⟨r, a, rfl⟩ | he | he
  · exact .inl (h.number c hf)
  · exact .inl (h.answer a hf)
  · exact .inr (h.hear hok r a hf)
  · exact .inr (hleave (.inl he))
  · exact .inr (hleave (.inr he))

/-- **Everything a Paxos frame can do**: it is numbered, it is voted for, a replica handles it, or
it leaves the network. By the link that the frame is on (`Placed`), with the lemmas on what the node
at its end does. -/
lemma Inv.arrive_cases (h : Inv app a₀ n q req) (H : Hosts) {e : End} (hf : (q e).head? = some f) :
    (∃ c f', e = fromClient c ∧ f'.paxos.isSome ∧ requestOf f' = requestOf f ∧
      ((demo app a₀ H).handle n e f).1.issued = n.issued ++ [f'] ∧
      ((demo app a₀ H).handle n e f).2 = (targets e).map fun e' => (e', f')) ∨
    (∃ a f', e = toAcceptor a ∧ f'.paxos.isSome ∧
      ((demo app a₀ H).handle n e f).1.issued = n.issued ∧
      ((demo app a₀ H).handle n e f).2 = (targets e).map fun e' => (e', f')) ∨
    (∃ r a, e = fromAcceptor r a ∧ (demo app a₀ H).handle n e f = handleReplica app H n r f) ∨
    ((e.1 = h1 ∨ e.1 = h4) ∧ (demo app a₀ H).handle n e f = (n, [])) := by
  obtain ⟨-, p, -, hplace⟩ := h.placed e f (List.mem_of_head? hf)
  rcases hplace with ⟨c, rfl, -⟩ | ⟨a, rfl, -, -⟩ | ⟨r, a, rfl⟩ | he | he
  · obtain ⟨-, p, hp, ht⟩ := h.at_coordinator c hf
    have heq := @handle_request _ _ app a₀ H n _ _ hp ht c
    refine .inl ⟨c, _, rfl, ?_, ?_, by rw [heq], by rw [heq]⟩
    · rw [issue, hp]
      rfl
    · unfold requestOf valueOf issue
      rw [hp]
      rfl
  · obtain ⟨-, p, hp, ht, hround⟩ := h.at_acceptor a hf
    obtain ⟨hid, hrounds⟩ := h.acceptors a
    have heq := @handle_accept _ _ app a₀ H n _ _ hp ht a hid
      (by rw [hrounds, hround]; exact BitVec.le_refl _)
    refine .inr (.inl ⟨a, _, rfl, ?_, by rw [heq], by rw [heq]⟩)
    rw [vote, hp]
    rfl
  · exact .inr (.inr (.inl ⟨r, a, rfl, handle_replica (replica_host r)⟩))
  · exact .inr (.inr (.inr ⟨.inl he, handle_client (.inl he)⟩))
  · exact .inr (.inr (.inr ⟨.inr he, handle_client (.inr he)⟩))

/-- A request that was submitted is a 2A at the coordinator. The clients' frames are UDP datagrams
to the port of the learners. -/
lemma placed_clientFrame (H : Hosts) (c : Fin 2) {P : Proposer} {msg datagram : Bytes}
    (h : (P.submit msg).2 = .ok datagram) :
    Placed (fromClient c) (clientFrame H c datagram) := by
  obtain ⟨hextract, ht, -⟩ := Proposer.submit_header h
  unfold clientFrame
  rw [udpFrame_of_extract _ _ rfl hextract]
  exact ⟨⟨_, rfl, rfl, fun hport => absurd (show 34953 = PAXOS_PROTOCOL from hport) (by decide)⟩,
    _, rfl, .inl ⟨c, rfl, ht⟩⟩

end inv

/-! ## Whole runs -/

/-- The requests that were submitted. -/
def submitted (s : Network.State (Demo σ Cmd) End (Frame Rest)) : List (Frame Rest) :=
  paxosOf (s.sent.map Prod.snd)

section run

variable {app : Application σ Cmd} {a₀ : σ} {H : Hosts}
  {s : Network.State (Demo σ Cmd) End (Frame Rest)}

/-- **The invariant along runs**, as long as what is submitted is acceptable. The induction is over
the steps of the run: a frame that comes in is a Paxos frame, which the lemmas above are about, or a
foreign one, which nobody handles. -/
lemma inv_reach (h : (demo app a₀ H).machine.Reach (Serving H) s)
    (hok : Acceptable app (submitted s)) :
    Inv app a₀ s.nodes (paxosAt s.wires) (submitted s) ∧
      ∀ e, ∀ f ∈ s.wires e, f.paxos = none → Foreign f := by
  revert hok
  apply h.invariant (I := fun s => Acceptable app (submitted s) →
    Inv app a₀ s.nodes (paxosAt s.wires) (submitted s) ∧
      ∀ e, ∀ f ∈ s.wires e, f.paxos = none → Foreign f)
  · intro _
    exact ⟨inv_init (H := H), fun e f hf => absurd hf List.not_mem_nil⟩
  · intro s act t _ ih hP hstep hok
    rcases Network.step_cases hstep with ⟨e, f, rfl, rfl⟩ | ⟨e, f, rfl, hf, rfl⟩ | ⟨e, f, rfl, -, -⟩
    · have hsent : submitted { s with wires := s.wires.send [(e, f)], sent := s.sent ++ [(e, f)] } =
          submitted s ++ paxosOf [f] := by
        unfold submitted
        rw [List.map_append, paxosOf_append]
        rfl
      rw [hsent] at hok ⊢
      obtain ⟨hinv, hforeign⟩ := ih ⟨by
        refine (Nat.mul_le_mul_left _ ?_).trans_lt hok.1
        rw [List.length_append]
        exact Nat.le_add_right _ _, fun f' hf' => hok.2 f' (List.mem_append_left _ hf')⟩
      obtain ⟨-, ⟨c, P, msg, datagram, hsubmit, rfl, rfl⟩ | hnone⟩ := hP
      · have hplaced := placed_clientFrame H c hsubmit
        obtain ⟨p, hp, -⟩ := hplaced.2
        rw [paxosOf_cons_of_some hp, paxosOf_nil, paxosAt_send_of_some fun x hx => by
          rw [List.mem_singleton.mp hx, hp]
          rfl]
        refine ⟨hinv.submit c hplaced, fun e f' hf' hnone => ?_⟩
        rcases Wires.mem_send.mp hf' with hold | hnew
        · exact hforeign e f' hold hnone
        · cases List.mem_singleton.mp hnew
          rw [hp] at hnone
          cases hnone
      · rw [paxosOf_cons_of_none hnone.paxos, paxosOf_nil, List.append_nil,
          paxosAt_send_of_none fun x hx => by
            rw [List.mem_singleton.mp hx]
            exact hnone.paxos]
        refine ⟨hinv, fun e' f' hf' h' => ?_⟩
        rcases Wires.mem_send.mp hf' with hold | hnew
        · exact hforeign e' f' hold h'
        · cases List.mem_singleton.mp hnew
          exact hnone
    · obtain ⟨hinv, hforeign⟩ := ih hok
      have hacceptable : Acceptable app s.nodes.issued := hok.of_perm hinv.requested
      show Inv app a₀ _ (paxosAt ((s.wires.take e).send ((demo app a₀ H).handle s.nodes e f).2))
        (submitted s) ∧ ∀ e', ∀ f' ∈ (s.wires.take e).send ((demo app a₀ H).handle s.nodes e f).2 e',
          f'.paxos = none → Foreign f'
      have hwires : (∀ x ∈ ((demo app a₀ H).handle s.nodes e f).2, x.2.paxos = none → Foreign x.2) →
          ∀ e', ∀ f' ∈ (s.wires.take e).send ((demo app a₀ H).handle s.nodes e f).2 e',
            f'.paxos = none → Foreign f' := by
        intro hout e' f' hf'
        rcases Wires.mem_send.mp hf' with hold | hnew
        · exact hforeign e' f' (Wires.mem_take hold)
        · exact hout _ hnew
      rcases hp : f.paxos with _ | p
      · have hf₀ := hforeign e f (List.mem_of_head? hf) hp
        obtain ⟨hnodes, hout⟩ : ((demo app a₀ H).handle s.nodes e f).1 = s.nodes ∧
            ∀ x ∈ ((demo app a₀ H).handle s.nodes e f).2, x.2 = f := handle_foreign hf₀ e
        rw [paxosAt_send_of_none fun x hx => by rw [hout x hx, hp], paxosAt_take_of_none hf hp]
        refine ⟨?_, hwires fun x hx _ => by rw [hout x hx]; exact hf₀⟩
        dsimp only
        rw [hnodes]
        exact hinv
      · obtain ⟨htake, hq⟩ := paxosAt_take_of_some hf hp
        rcases hinv.arrive hacceptable H hq with ⟨hout, hinv'⟩ | ⟨hout, hinv'⟩
        · rw [paxosAt_send_of_some hout, htake]
          refine ⟨hinv', hwires fun x hx hnone => ?_⟩
          have hsome := hout x hx
          rw [hnone] at hsome
          cases hsome
        · rw [paxosAt_send_of_none fun x hx => (hout x hx).paxos, htake]
          exact ⟨hinv', hwires fun x hx _ => hout x hx⟩
    · exact absurd hP id

/-- What the replicas' programs have sent, on the wires. -/
def replied (H : Hosts) (n : Demo σ Cmd) (r : Fin 2) : List (End × Frame Rest) :=
  (n.replicas r).outs.flatMap (transmit H r)

/-- A replica sends by its own interfaces. Both kinds of message go out by the host's own links. A
reply goes out by the host's route, a 1A by every interface. -/
lemma uplink_transmit (H : Hosts) (r : Fin 2) (o : Out Cmd) : ∀ x ∈ transmit H r o, Uplink x.1 := by
  have hhost : (host r).isSwitch = false := by
    revert r
    decide
  intro x hx
  cases o with
  | deliver i c => cases hx
  | sendMsg msg dst dport =>
      obtain ⟨a, -, ha⟩ := List.mem_filterMap.mp hx
      obtain ⟨e, he, rfl⟩ := Option.map_eq_some_iff.mp ha
      exact ⟨fromAcceptor r a, hhost, he⟩
  | respond data dst sport dport =>
      obtain ⟨e, he, rfl⟩ := List.mem_map.mp hx
      exact ⟨fromAcceptor r (H.route r), hhost, Option.mem_toList.mp he⟩

/-- What a replica makes of a frame is what it sends then. Other frames, and other replicas, are not
concerned. A replica that listens has sent, afterwards, what it had sent before and what the call
has made; one that does not, and a frame that is not sniffed, make nothing. -/
lemma handleReplica_made (n : Demo σ Cmd) (r : Fin 2) (f : Frame Rest)
    (v : End → Frame Rest → ℕ) :
    ∑ r', Wires.worth v (replied H (handleReplica app H n r f).1 r') =
      Wires.worth v (handleReplica app H n r f).2 + ∑ r', Wires.worth v (replied H n r') := by
  unfold handleReplica
  rcases sniffs f with _ | pkt
  · exact (zero_add _).symm
  · dsimp only
    by_cases hrun : n.listens r
    · rw [if_pos hrun]
      rcases (n.replicas r).learner.handle_pkt app pkt with ⟨L, outs, res⟩
      set n' : Demo σ Cmd := { n with
        replicas := Function.update n.replicas r ⟨L, res.toBool, (n.replicas r).outs ++ outs⟩
        sniffed := Function.update n.sniffed r
          (n.sniffed r + 1 + H.echoes * outs.countP Out.toGroup) }
      have hself : Wires.worth v (replied H n' r) =
          Wires.worth v (replied H n r) + Wires.worth v (outs.flatMap (transmit H r)) := by
        rw [← Wires.worth_append]
        show Wires.worth v ((Function.update n.replicas r _ r).outs.flatMap (transmit H r)) = _
        rw [Function.update_self, List.flatMap_append]
        rfl
      have hother : ∀ r' ∈ Finset.univ.erase r,
          Wires.worth v (replied H n' r') = Wires.worth v (replied H n r') := by
        intro r' hr'
        show Wires.worth v ((Function.update n.replicas r _ r').outs.flatMap (transmit H r')) = _
        rw [Function.update_of_ne (Finset.ne_of_mem_erase hr')]
        rfl
      show ∑ r', Wires.worth v (replied H n' r') =
        Wires.worth v (outs.flatMap (transmit H r)) + ∑ r', Wires.worth v (replied H n r')
      rw [← Finset.add_sum_erase _ _ (Finset.mem_univ r), hself, Finset.sum_congr rfl hother,
        ← Finset.add_sum_erase Finset.univ (fun r' => Wires.worth v (replied H n r'))
          (Finset.mem_univ r)]
      omega
    · rw [if_neg hrun]
      exact (zero_add _).symm

/-- **Nothing is lost or doubled**: on each interface, a frame without a Paxos header has been
received as often as the other hosts and the replicas' programs have sent it. The accounting of the
network with `v` for the worth of a frame on the wire, one for each time it will arrive at `t`: what
was sent and what replicas have made is worth what has arrived, when the wires are empty. -/
lemma arrived_eq (h : (demo app a₀ H).machine.Reach (Serving H) s) (hquiet : Network.Quiet s)
    {x : Frame Rest} (hx : x.paxos = none) {t : End} (ht : Interface t) :
    s.arrived.count (t, x) = (s.sent.countP fun y => y.2 = x ∧ peer t ≠ some y.1) +
      ∑ r, (replied H s.nodes r).countP fun y => y.2 = x ∧ peer t ≠ some y.1 := by
  have hsent : ∀ y ∈ s.sent, Uplink y.1 := Network.all_sent (fun _ _ _ hs => hs.1) h
  have harrived : ∀ y ∈ s.arrived, y.1 = t → y.2.deparsed = y.2 := fun y _ _ => deparsed_rest y.2
  set g : End → ℕ := fun e => if e = t then 1 else 0
  set v : End → Frame Rest → ℕ := fun e f => if f.deparsed = x then cost g e else 0
  have hall := Network.conserves (N := demo app a₀ H)
    (m := fun n => ∑ r, Wires.worth v (replied H n r))
    (r := fun e f => if f.deparsed = x then g e else 0)
    (v := v) (fun _ _ hs => hs) rfl (fun s e f _ _ => ?_) h
  · rw [funext hquiet, Wires.load_empty, worth_arrived harrived, worth_uplinks hsent ht,
      add_zero] at hall
    rw [hall]
    congr 1
    refine Finset.sum_congr rfl fun r _ => worth_uplinks (fun y hy => ?_) ht x
    obtain ⟨o, -, ho⟩ := List.mem_flatMap.mp hy
    exact uplink_transmit H r o y ho
  · rcases hr : e.1.replica with _ | r
    · rw [handle_switch hr]
      dsimp only
      rw [worth_handle_eq s.nodes.switches e f hx g]
      rfl
    · have hhost : e.1.isSwitch = false := by
        revert hr
        generalize e.1 = m
        cases m <;> simp [Node.replica, Node.isSwitch]
      have hcost : cost g e = g e := by
        rw [cost_eq, targets, if_neg (by rw [hhost]; exact Bool.false_ne_true)]
        rfl
      rw [handle_replica hr, handleReplica_made, add_assoc]
      congr 1
      show _ = if f.deparsed = x then cost g e else 0
      rw [hcost]

end run

/-- **The demo serves its clients.** No frame is lost, the clients submit requests that the
application accepts, at most 21845 of them, for which a replica sniffs fewer than `COUNT` votes, and
the hosts send whatever else is no Paxos datagram. Then, in whatever order the frames come in: what
the coordinator has issued are requests that were submitted, none of them more often than it was;
each replica listens, and has done exactly what a server does that executes the first of the issued
requests one after the other, and answers each of them whose result has a text. When nothing is on
its way any more, all requests have been issued, and both replicas have served all of them. -/
theorem demo_serves (app : Application σ Cmd) (a₀ : σ) (H : Hosts)
    (s : Network.State (Demo σ Cmd) End (Frame Rest))
    (h : (demo app a₀ H).machine.Reach (Serving H) s) (hok : Acceptable app (submitted s)) :
    (∃ rest, ((submitted s).map requestOf).Perm ((s.nodes.issued ++ rest).map requestOf)) ∧
      (∀ r, s.nodes.listens r = true ∧ ∃ k ≤ s.nodes.issued.length,
        ((s.nodes.replicas r).learner.app, (s.nodes.replicas r).outs) =
          Learner.served app a₀ (requests s.nodes.issued) k) ∧
      (Network.Quiet s → ((submitted s).map requestOf).Perm (s.nodes.issued.map requestOf) ∧
        ∀ r, ((s.nodes.replicas r).learner.app, (s.nodes.replicas r).outs) =
          Learner.served app a₀ (requests s.nodes.issued) s.nodes.issued.length) := by
  obtain ⟨hinv, -⟩ := inv_reach h hok
  refine ⟨⟨_, hinv.requested⟩, ?_, ?_⟩
  · intro r
    obtain ⟨vs, hvs⟩ := hinv.replicas r
    obtain ⟨k, hk⟩ := hvs.serves
    exact ⟨hvs.listens (hok.of_perm hinv.requested), k, hvs.serves_le hk, by rw [hk.state, hk.outs]⟩
  · intro hquiet
    have hempty : ∀ e, paxosAt s.wires e = [] := fun e => congrArg paxosOf (hquiet e)
    constructor
    · have hreq := hinv.requested
      rwa [waiting_eq, hempty, hempty, List.append_nil, List.append_nil] at hreq
    · intro r
      obtain ⟨vs, hvs⟩ := hinv.replicas r
      obtain ⟨k, hk⟩ := hvs.serves
      rw [hk.state, hk.outs, hvs.served_all (fun a => ⟨hempty _, hempty _⟩) hk]

/-- Addresses for the hosts. The second client's host is the fourth one. -/
def hosts : Hosts where
  mac _ := 0
  ip e := if e.1 = h1 then "10.0.0.1" else if e.1 = h2 then "10.0.0.2" else if e.1 = h3 then "10.0.0.3"
    else "10.0.0.4"
  arp _ := 0
  route r := r.castSucc
  echoes := 4

/-- The datagram of a client's first request. -/
def firstDatagram : Bytes := ((Proposer.new 0).submit [49]).2.toOption.getD []

/-- Nothing is sent but this request. -/
def OneRequest (c : Fin 2) (_ : Network.State (Demo (List ℕ) ℕ) End (Frame Rest)) :
    Network.Event End (Frame Rest) → Prop
  | .send e f => e = fromClient c ∧ f = clientFrame hosts c firstDatagram
  | .arrive _ => True
  | .lose _ => False

/-- The environment sends the client's frame only. -/
instance (c : Fin 2) (s : Network.State (Demo (List ℕ) ℕ) End (Frame Rest)) :
    DecidablePred (OneRequest c s)
  | .send _ _ => inferInstanceAs (Decidable (_ ∧ _))
  | .arrive _ => inferInstanceAs (Decidable True)
  | .lose _ => inferInstanceAs (Decidable False)

/-- The clients' hosts have the other ends of these links. -/
lemma uplink_fromClient (c : Fin 2) : Uplink (fromClient c) := by
  revert c
  decide +kernel

/-- It is a request that was submitted. -/
lemma serving_of_oneRequest (c : Fin 2) (s : Network.State (Demo (List ℕ) ℕ) End (Frame Rest))
    (a : Network.Event End (Frame Rest)) (h : OneRequest c s a) : Serving hosts s a := by
  have hsubmit : ((Proposer.new 0).submit [49]).2 = .ok firstDatagram := by decide +kernel
  cases a with
  | send e f =>
      obtain ⟨rfl, rfl⟩ := h
      exact ⟨uplink_fromClient c, .inl ⟨c, _, _, _, hsubmit, rfl, rfl⟩⟩
  | arrive e => exact trivial
  | lose e => exact h

/-- Where the replies of the replicas come in, in the end. -/
def repliesAt : List End :=
  (List.finRange 2).flatMap fun r => (peer (fromAcceptor r (hosts.route r))).toList.flatMap (spread 3)

/-- The request of a client is numbered, voted for, executed and answered. -/
def servedOnce (c : Fin 2) : List (Network.Event End (Frame Rest)) :=
  .send (fromClient c) (clientFrame hosts c firstDatagram) ::
    (fromClient c :: (targets (fromClient c) ++ (List.finRange 2).flatMap fun r =>
      (List.finRange 3).map (fromAcceptor r)) ++ repliesAt).map .arrive

/-- They are numbers, and few. -/
lemma acceptable_of_payloads {s : Network.State (Demo (List ℕ) ℕ) End (Frame Rest)}
    (h : (submitted s).map (fun f => payload (valueOf f)) = [[49]]) :
    Acceptable numbers (submitted s) := by
  constructor
  · have hlen := congrArg List.length h
    rw [List.length_map] at hlen
    rw [hlen]
    decide
  · intro f hf
    have hmem : payload (valueOf f) ∈ [[49]] := h ▸ List.mem_map_of_mem hf
    rw [List.mem_singleton.mp hmem]
    exact Learner.accepts_of_loads (fun _ _ => rfl) ⟨_, rfl⟩

/-- Both replicas execute the request. -/
theorem demo_serves_one : ∃ s : Network.State (Demo (List ℕ) ℕ) End (Frame Rest),
    (demo numbers [] hosts).machine.Reach (Serving hosts) s ∧ Network.Quiet s ∧
      s.nodes.issued.length = 1 ∧ (s.nodes.replicas 0).learner.app = [1] ∧
      ∀ r, ((s.nodes.replicas r).learner.app, (s.nodes.replicas r).outs) =
        Learner.served numbers [] (requests s.nodes.issued) s.nodes.issued.length := by
  obtain ⟨s, hs, htest⟩ := Machine.Reach.of_exec (M := (demo numbers [] hosts).machine)
    (P := OneRequest 0) (servedOnce 0) (fun s => decide ((∀ e, s.wires e = []) ∧
      (submitted s).map (fun f => payload (valueOf f)) = [[49]] ∧ s.nodes.issued.length = 1 ∧
      (s.nodes.replicas 0).learner.app = [1])) (by decide +kernel)
  obtain ⟨hquiet, hsubmitted, hissued, happ⟩ := of_decide_eq_true htest
  have hreach := hs.mono (serving_of_oneRequest 0)
  exact ⟨s, hreach, hquiet, hissued, happ,
    ((demo_serves numbers [] hosts s hreach (acceptable_of_payloads hsubmitted)).2.2 hquiet).2⟩

/-- **The clients get their answers.** When nothing is on its way any more, each interface has
received a frame without a Paxos header, up to its checksums, as often as the other hosts have sent
it and, for each replica, as often as it is the reply of a server that executes all requests one
after the other: every answer there is comes in once from each replica, and nothing else does. -/
theorem demo_answers (app : Application σ Cmd) (a₀ : σ) (H : Hosts)
    (s : Network.State (Demo σ Cmd) End (Frame Rest))
    (h : (demo app a₀ H).machine.Reach (Serving H) s) (hok : Acceptable app (submitted s))
    (hquiet : Network.Quiet s) (x : Frame Rest) (hx : x.paxos = none) (t : End) (ht : Interface t) :
    s.arrived.count (t, x) = (s.sent.countP fun y => y.2 = x ∧ peer t ≠ some y.1) +
      ∑ r, ((Learner.served app a₀ (requests s.nodes.issued) s.nodes.issued.length).2.flatMap
        (transmit H r)).countP fun y => y.2 = x ∧ peer t ≠ some y.1 := by
  obtain ⟨hinv, -⟩ := inv_reach h hok
  rw [arrived_eq h hquiet hx ht]
  congr 1
  refine Finset.sum_congr rfl fun r _ => ?_
  obtain ⟨vs, hvs⟩ := hinv.replicas r
  obtain ⟨k, hk⟩ := hvs.serves
  have hempty : ∀ e, paxosAt s.wires e = [] := fun e => congrArg paxosOf (hquiet e)
  rw [replied, hk.outs, hvs.served_all (fun a => ⟨hempty _, hempty _⟩) hk]

/-- The reply of the first replica comes in once at the client. The reply's frame is written out,
with the request's identifier and 64 bytes of zeros as the text of the result. -/
theorem demo_answers_one : ∃ (s : Network.State (Demo (List ℕ) ℕ) End (Frame Rest)) (x : Frame Rest),
    (demo numbers [] hosts).machine.Reach (Serving hosts) s ∧ Network.Quiet s ∧
      s.arrived.count ((h1, 0), x) = 1 ∧
      s.arrived.count ((h1, 0), x) = (s.sent.countP fun y => y.2 = x ∧ peer (h1, 0) ≠ some y.1) +
        ∑ r, ((Learner.served numbers [] (requests s.nodes.issued) s.nodes.issued.length).2.flatMap
          (transmit hosts r)).countP fun y => y.2 = x ∧ peer (h1, 0) ≠ some y.1 := by
  let x := udpFrame 0 0 ⟨"10.0.0.2", "10.0.0.1", 34952, 34953⟩ (1 :: List.replicate 64 0)
  obtain ⟨s, hs, htest⟩ := Machine.Reach.of_exec (M := (demo numbers [] hosts).machine)
    (P := OneRequest 0) (servedOnce 0) (fun s => decide ((∀ e, s.wires e = []) ∧
      (submitted s).map (fun f => payload (valueOf f)) = [[49]] ∧
      s.arrived.count ((h1, 0), x) = 1)) (by decide +kernel)
  obtain ⟨hquiet, hsubmitted, hcount⟩ := of_decide_eq_true htest
  have hreach := hs.mono (serving_of_oneRequest 0)
  exact ⟨s, x, hreach, hquiet, hcount,
    demo_answers numbers [] hosts s hreach (acceptable_of_payloads hsubmitted) hquiet x rfl (h1, 0)
      (by decide)⟩

end P4xos.Bmv2
