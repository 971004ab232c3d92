import P4xos.Bmv2.Demo

/-!
# The votes on their way to a replica

Between the coordinator and a replica there is, for each acceptor, one first-in-first-out channel:
the votes the replica has not heard yet are the frames on its own link, and then, answered, those on
the acceptor's.

1. Only the Paxos frames on the wires matter (`paxosAt`). A frame without a Paxos header comes and
goes without changing them, a Paxos frame takes part in them as on the wires themselves. 2. The tree
of links: the coordinator floods a request once to each acceptor, and an acceptor floods a vote once
to each replica (`count_targets_fromClient`, `count_targets_toAcceptor`). 3. `Issued` is a frame
that the coordinator has made, and `requestOf` the request in it. The vote of an acceptor for it is
read as such by a replica (`Issued.vote`). 4. `ReplicaInv`: a replica that has heard some votes, and
what is still to come to it. It serves the requests issued as a server does that executes them one
after the other. 5. `ReplicaInv.issue` puts one more frame into the channels. `ReplicaInv.hear`: the
next vote of an acceptor is for the instance behind that of the vote before, so the replica goes on
as such a server.

A replica hears at most three votes for each request, and stops listening after `COUNT` packets:
this bounds the number of requests in `Acceptable`.
-/

namespace P4xos.Bmv2

open P4xos.Lib P4xos.P4v14 Node PaxosLearner

variable {σ Cmd : Type*}

/-! ## Paxos frames on the wires -/

/-- The Paxos frames on the wires. -/
def paxosAt (w : Wires End (Frame Rest)) : Wires End (Frame Rest) := fun e => paxosOf (w e)

section wires

variable {w : Wires End (Frame Rest)} {e : End} {f : Frame Rest}

/-- Taking off a frame without a Paxos header. -/
lemma paxosAt_take_of_none (h : (w e).head? = some f) (hf : f.paxos = none) :
    paxosAt (w.take e) = paxosAt w := by
  obtain ⟨fs, hfs⟩ := List.head?_eq_some_iff.mp h
  funext e'
  unfold paxosAt Wires.take
  by_cases he : e' = e
  · subst he
    rw [Function.update_self, hfs, List.tail_cons, paxosOf_cons_of_none hf]
  · rw [Function.update_of_ne he]

/-- Taking off a Paxos frame. It is the first of the Paxos frames of its wire as well. -/
lemma paxosAt_take_of_some (h : (w e).head? = some f) {p : PaxosT} (hf : f.paxos = some p) :
    paxosAt (w.take e) = (paxosAt w).take e ∧ (paxosAt w e).head? = some f := by
  obtain ⟨fs, hfs⟩ := List.head?_eq_some_iff.mp h
  have hq : paxosAt w e = f :: paxosOf fs := by
    unfold paxosAt
    rw [hfs, paxosOf_cons_of_some hf]
  constructor
  · funext e'
    unfold Wires.take
    rw [hq]
    by_cases he : e' = e
    · subst he
      rw [Function.update_self, List.tail_cons, paxosAt, Function.update_self, hfs, List.tail_cons]
    · rw [Function.update_of_ne he, paxosAt, Function.update_of_ne he]
      rfl
  · rw [hq]
    rfl

/-- Sending frames without a Paxos header. -/
lemma paxosAt_send_of_none {out : List (End × Frame Rest)} (h : ∀ x ∈ out, x.2.paxos = none) :
    paxosAt (w.send out) = paxosAt w := by
  funext e
  have hnil : paxosOf (Wires.sentTo e out) = [] :=
    paxosOf_eq_nil fun f hf => h (e, f) (Wires.mem_sentTo.mp hf)
  unfold paxosAt Wires.send
  rw [paxosOf_append, hnil, List.append_nil]

/-- Sending Paxos frames. -/
lemma paxosAt_send_of_some {out : List (End × Frame Rest)} (h : ∀ x ∈ out, x.2.paxos.isSome) :
    paxosAt (w.send out) = (paxosAt w).send out := by
  funext e
  unfold paxosAt Wires.send
  rw [paxosOf_append]
  congr 1
  refine List.filter_eq_self.mpr fun f hf => ?_
  exact h (e, f) (Wires.mem_sentTo.mp hf)

/-- Every copy of a flooded frame has the header that the frame has. -/
lemma isSome_paxos_flood (es : List End) (h : f.paxos.isSome) :
    ∀ x ∈ es.map fun e => (e, f), x.2.paxos.isSome := by
  intro x hx
  obtain ⟨e, -, rfl⟩ := List.mem_map.mp hx
  exact h

/-- A flooded frame, at an end. -/
lemma send_flood (es : List End) (e : End) :
    w.send (es.map fun e' => (e', f)) e = w e ++ List.replicate (es.count e) f := by
  rw [Wires.send, sentTo_flood]

/-- One frame that is sent. At its end it is the last one. -/
lemma send_one_self : w.send [(e, f)] e = w e ++ [f] := by
  rw [Wires.send, Wires.sentTo_cons_self]
  rfl

/-- The other ends stay. -/
lemma send_one_of_ne {e' : End} (h : e' ≠ e) : w.send [(e, f)] e' = w e' := by
  rw [Wires.send, Wires.sentTo_cons_ne (Ne.symm h), Wires.sentTo_nil, List.append_nil]

/-- What is taken off was the first one. -/
lemma take_self (h : (w e).head? = some f) : w e = f :: w.take e e := by
  obtain ⟨fs, hfs⟩ := List.head?_eq_some_iff.mp h
  rw [Wires.take, Function.update_self, hfs, List.tail_cons]

/-- The other ends stay. -/
lemma take_of_ne {e' : End} (h : e' ≠ e) : w.take e e' = w e' := Function.update_of_ne h _ _

end wires

/-! ## What the links are -/

/-- An acceptor's switch is neither the coordinator nor a host. -/
lemma acceptor_acceptorNode (a : Fin 3) : (acceptorNode a).acceptor = some a ∧
    (acceptorNode a).replica = none ∧ acceptorNode a ≠ s1 ∧ acceptorNode a ≠ h1 ∧
    acceptorNode a ≠ h4 := by
  revert a
  decide

/-- The host of a replica. -/
lemma replica_host (r : Fin 2) : (host r).replica = some r := by
  revert r
  decide

/-- The coordinator floods a request to all acceptors and to the other client. -/
lemma count_targets_fromClient (c : Fin 2) :
    (∀ a, (targets (fromClient c)).count (toAcceptor a) = 1) ∧
      (∀ r a, (targets (fromClient c)).count (fromAcceptor r a) = 0) ∧
      ∀ c', (targets (fromClient c)).count (fromClient c') = 0 := by
  revert c
  decide +kernel

/-- An acceptor floods a vote to the replicas. -/
lemma count_targets_toAcceptor (a : Fin 3) :
    (∀ b, (targets (toAcceptor a)).count (toAcceptor b) = 0) ∧
      (∀ r b, (targets (toAcceptor a)).count (fromAcceptor r b) = if b = a then 1 else 0) ∧
      ∀ c, (targets (toAcceptor a)).count (fromClient c) = 0 := by
  revert a
  decide +kernel

/-- Where the coordinator floods to. -/
lemma mem_targets_fromClient {c : Fin 2} {e : End} (h : e ∈ targets (fromClient c)) :
    (∃ a, e = toAcceptor a) ∨ e.1 = h1 ∨ e.1 = h4 := by
  revert c e
  decide +kernel

/-- Where an acceptor floods to. -/
lemma mem_targets_toAcceptor {a : Fin 3} {e : End} (h : e ∈ targets (toAcceptor a)) :
    ∃ r, e = fromAcceptor r a := by
  revert a e
  decide +kernel

/-- The ends with a part in the protocol are different. -/
lemma ends_ne (c : Fin 2) (a : Fin 3) (r : Fin 2) (b : Fin 3) :
    fromClient c ≠ toAcceptor a ∧ fromClient c ≠ fromAcceptor r a ∧
      toAcceptor b ≠ fromAcceptor r a := by
  revert c a r b
  decide +kernel

/-- Each link to a replica has one end. -/
lemma fromAcceptor_inj {r r' : Fin 2} {a a' : Fin 3} :
    fromAcceptor r a = fromAcceptor r' a' ↔ r = r' ∧ a = a' := by
  revert r r' a a'
  decide +kernel

/-- Each acceptor has one link from the coordinator. -/
lemma toAcceptor_inj {a a' : Fin 3} : toAcceptor a = toAcceptor a' ↔ a = a' := by
  revert a a'
  decide +kernel

/-- Each client has one link to the coordinator. -/
lemma fromClient_inj {c c' : Fin 2} : fromClient c = fromClient c' ↔ c = c' := by
  revert c c'
  decide +kernel

/-! ## Votes and requests -/

/-- The value field of a Paxos frame. -/
def valueOf (f : Frame Rest) : BitVec 512 := (f.paxos.map PaxosT.value).getD 0

/-- The request of an issued frame. -/
def requestOf (f : Frame Rest) : Request where
  rnd := 0
  value := payload (valueOf f)
  req_id := requestId (valueOf f)
  src := (f.rest.udp.map UdpInfo.src).getD ""
  sport := (f.rest.udp.map UdpInfo.sport).getD 0
  dport := (f.rest.udp.map UdpInfo.dport).getD 0

/-- The requests by their numbers. -/
def requests (issued : List (Frame Rest)) (i : ℕ) : Request :=
  match issued[i - 1]? with
  | some f => requestOf f
  | none => ⟨0, [], 0, "", 0, 0⟩

/-- Those issued before keep their number. -/
lemma requests_append {issued : List (Frame Rest)} (f : Frame Rest) {i : ℕ} (h1 : 1 ≤ i)
    (h : i ≤ issued.length) : requests (issued ++ [f]) i = requests issued i := by
  unfold requests
  rw [List.getElem?_append_left (by omega)]

/-- A datagram to the learners' port, from another one. -/
def ToLearners (f : Frame Rest) : Prop :=
  ∃ u, f.rest.udp = some u ∧ u.dport = PAXOS_PROTOCOL ∧ u.sport ≠ PAXOS_PROTOCOL

/-- The `k`-th frame the coordinator has made, counted from 0. -/
structure Issued (k : ℕ) (f : Frame Rest) : Prop where
  header : ∃ p, f.paxos = some p ∧ p.msgtype = PAXOS_2A ∧ p.inst = BitVec.ofNat 16 (k + 1) ∧ p.round = 0
  udp : ToLearners f

/-- The vote a replica reads out of a 2B. -/
def vote2b (p : PaxosT) (u : UdpInfo) : Vote2b where
  fields := { typ := p.msgtype.toNat
              inst := p.inst.toNat
              rnd := p.round.toNat
              vrnd := p.vround.toNat
              acceptor_id := p.acceptor.toNat
              req_id := requestId p.value
              value := (fieldBytes p.value).drop 1 }
  src := u.src
  udp := some (u.sport, u.dport)

/-- A replica sniffs a 2B, and reads its vote. -/
lemma sniffs_2b {f : Frame Rest} {p : PaxosT} {u : UdpInfo} (hp : f.paxos = some p)
    (ht : p.msgtype = PAXOS_2B) (hu : f.rest.udp = some u) (hport : u.dport = PAXOS_PROTOCOL) :
    ∃ pkt, sniffs f = some pkt ∧ read2b pkt = some (vote2b p u) := by
  refine ⟨⟨some (0x11, u.src), some (u.sport, u.dport), some (p.emit ++ f.rest.data)⟩, ?_, ?_⟩
  · unfold sniffs
    simp only [hu, hport, if_true, hp, Option.map_some, Option.getD_some]
  · have htake : (p.emit ++ f.rest.data).take PAXOS_LEN = p.emit :=
      List.take_left' (PaxosT.length_emit p)
    unfold read2b
    simp only [htake, unpack_emit, ht]
    rw [if_pos ⟨trivial, rfl⟩, vote2b, ht]

/-- The vote of acceptor `a` for the `k`-th frame. The frame carries the number `k + 1`, round 0 and
the client's addresses. The acceptor changes the type and its own identifier only, so the replica
reads the request that was issued. -/
lemma Issued.vote {issued : List (Frame Rest)} {k : ℕ} {f : Frame Rest} (h : Issued k f)
    (hk : issued[k]? = some f) (hlt : k + 1 < 2 ^ 16) (a : Fin 3) :
    ∃ pkt v, sniffs (vote a f) = some pkt ∧ read2b pkt = some v ∧ v.fields.inst = k + 1 ∧
      v.message.nid = a + 1 ∧ v.IsFor (requests issued) := by
  obtain ⟨⟨p, hp, -, hi, hr⟩, u, hu, hport, -⟩ := h
  have hvote : (Bmv2.vote a f).paxos = some (accepted a p) := by
    rw [Bmv2.vote, hp]
    rfl
  obtain ⟨pkt, hpkt, hread⟩ := sniffs_2b hvote rfl (u := u) hu hport
  have hinst : (vote2b (accepted a p) u).fields.inst = k + 1 := by
    show p.inst.toNat = k + 1
    rw [hi, BitVec.toNat_ofNat, Nat.mod_eq_of_lt hlt]
  have hreq : requests issued (vote2b (accepted a p) u).fields.inst = requestOf f := by
    rw [hinst, requests, Nat.add_sub_cancel, hk]
  have hval : valueOf f = p.value := by
    rw [valueOf, hp]
    rfl
  refine ⟨pkt, _, hpkt, hread, hinst, ?_, ?_⟩
  · show (datapathId a).toNat = a + 1
    rw [datapathId, BitVec.toNat_ofNat]
    exact Nat.mod_eq_of_lt (by omega)
  · refine ⟨?_, ?_, ?_, ?_, ?_⟩ <;> rw [hreq]
    · show p.round.toNat = 0
      rw [hr]
      rfl
    · rw [requestOf, hval]
      rfl
    · rw [requestOf, hval]
      rfl
    · rw [requestOf, hu]
      rfl
    · rw [requestOf, hu]
      rfl

/-! ## The invariant of a replica -/

/-- A replica that has heard the votes `vs`, after as many packets as it has sniffed, when `q` are
the Paxos frames on the wires. -/
structure ReplicaInv (app : Application σ Cmd) (a₀ : σ) (issued : List (Frame Rest))
    (q : Wires End (Frame Rest)) (r : Fin 2) (R : Replica σ Cmd) (sniffed : ℕ) (vs : List Vote2b) :
    Prop where
  running : R.running = true
  /-- It has sniffed nothing but votes. -/
  sniffed : sniffed = ∑ a : Fin 3, heardFrom (a + 1) (vs.map Vote2b.message)
  fed : Learner.Fed app NUM_ACCEPTORS a₀ (vs.map Vote2b.message) R.learner R.outs
  seq : Sequential (vs.map Vote2b.message)
  serves : ∃ k, Learner.Serves app a₀ (requests issued) R.learner R.outs k
  votes : ∀ v ∈ vs, 1 ≤ v.fields.inst ∧ v.fields.inst ≤ issued.length ∧ v.IsFor (requests issued)
  /-- What is still to come from each acceptor. -/
  channel : ∀ a : Fin 3,
    (issued.map (vote a)).drop (heardFrom (a + 1) (vs.map Vote2b.message)) =
      q (fromAcceptor r a) ++ (q (toAcceptor a)).map (vote a)

section replica

variable {app : Application σ Cmd} {a₀ : σ} {issued : List (Frame Rest)}
  {q q' : Wires End (Frame Rest)} {r : Fin 2} {R : Replica σ Cmd} {m : ℕ} {vs : List Vote2b}

/-- No more votes were heard than 2A frames were made. -/
lemma ReplicaInv.heardFrom_le (h : ReplicaInv app a₀ issued q r R m vs) (a : ℕ) :
    heardFrom a (vs.map Vote2b.message) ≤ issued.length := by
  by_cases hzero : heardFrom a (vs.map Vote2b.message) = 0
  · omega
  · have hsender := h.seq.senders_iff.mpr ⟨Nat.pos_of_ne_zero hzero, le_rfl⟩
    obtain ⟨m, hm, hinst, -⟩ := mem_senders.mp hsender
    obtain ⟨v, hv, rfl⟩ := List.mem_map.mp hm
    rw [← hinst]
    exact (h.votes v hv).2.1

/-- It has sniffed at most three packets for each 2A. -/
lemma ReplicaInv.sniffed_le (h : ReplicaInv app a₀ issued q r R m vs) :
    m ≤ NUM_ACCEPTORS * issued.length := by
  rw [h.sniffed]
  calc
    ∑ a : Fin 3, heardFrom (a + 1) (vs.map Vote2b.message) ≤ ∑ _ : Fin 3, issued.length :=
      Finset.sum_le_sum fun a _ => h.heardFrom_le _
    _ = NUM_ACCEPTORS * issued.length := by
      rw [Finset.sum_const, Finset.card_univ, Fintype.card_fin, smul_eq_mul]
      rfl

/-- A replica has served no more requests than were issued. -/
lemma ReplicaInv.serves_le (h : ReplicaInv app a₀ issued q r R m vs) {k : ℕ}
    (hk : Learner.Serves app a₀ (requests issued) R.learner R.outs k) : k ≤ issued.length := by
  by_cases hzero : k = 0
  · omega
  · obtain ⟨m, hm, hinst⟩ := exists_vote (Finset.nonempty_iff_ne_empty.mp
      ((hk.quorate_iff h.fed).mpr ⟨Nat.pos_of_ne_zero hzero, le_rfl⟩).1)
    obtain ⟨v, hv, rfl⟩ := List.mem_map.mp hm
    rw [← hinst]
    exact (h.votes v hv).2.1

/-- When nothing is on its way to it, a replica has served everything. Each acceptor's votes for all
issued requests have then come in, and those of two acceptors for the last request are a quorum. -/
lemma ReplicaInv.served_all (h : ReplicaInv app a₀ issued q r R m vs)
    (hq : ∀ a, q (fromAcceptor r a) = [] ∧ q (toAcceptor a) = []) {k : ℕ}
    (hk : Learner.Serves app a₀ (requests issued) R.learner R.outs k) : k = issued.length := by
  refine le_antisymm (h.serves_le hk) ?_
  by_cases hzero : issued.length = 0
  · omega
  · have hsender : ∀ a : Fin 3, (a : ℕ) + 1 ∈ senders issued.length (vs.map Vote2b.message) := by
      intro a
      obtain ⟨hfrom, hto⟩ := hq a
      have hchannel := h.channel a
      rw [hfrom, hto, List.map_nil, List.append_nil, List.drop_eq_nil_iff, List.length_map] at hchannel
      exact h.seq.senders_iff.mpr ⟨Nat.pos_of_ne_zero hzero, hchannel⟩
    have hpair : ({1, 2} : Finset ℕ) ⊆ senders issued.length (vs.map Vote2b.message) := by
      intro a ha
      rcases Finset.mem_insert.mp ha with rfl | ha
      · exact hsender 0
      · rw [Finset.mem_singleton.mp ha]
        exact hsender 1
    have hquorate : Quorate ((NUM_ACCEPTORS + 1) / 2) issued.length (vs.map Vote2b.message) :=
      ⟨⟨_, hsender 0⟩, Finset.card_le_card hpair⟩
    exact ((hk.quorate_iff h.fed).mp hquorate).2

/-- Only the channels matter. -/
lemma ReplicaInv.congr (h : ReplicaInv app a₀ issued q r R m vs)
    (hq : ∀ a, q' (fromAcceptor r a) ++ (q' (toAcceptor a)).map (vote a) =
      q (fromAcceptor r a) ++ (q (toAcceptor a)).map (vote a)) :
    ReplicaInv app a₀ issued q' r R m vs where
  running := h.running
  sniffed := h.sniffed
  fed := h.fed
  seq := h.seq
  serves := h.serves
  votes := h.votes
  channel a := (h.channel a).trans (hq a).symm

/-- **A new 2A** is put behind everything on its way to the acceptors. The requests of before keep
their places, so that what the replica has received and done is read with the longer list in the
same way. -/
lemma ReplicaInv.issue (h : ReplicaInv app a₀ issued q r R m vs) (f : Frame Rest)
    (hfrom : ∀ a, q' (fromAcceptor r a) = q (fromAcceptor r a))
    (hto : ∀ a, q' (toAcceptor a) = q (toAcceptor a) ++ [f]) :
    ReplicaInv app a₀ (issued ++ [f]) q' r R m vs where
  running := h.running
  sniffed := h.sniffed
  fed := h.fed
  seq := h.seq
  serves := by
    obtain ⟨k, hk⟩ := h.serves
    have hle := h.serves_le hk
    exact ⟨k, hk.congr fun i h1 hi => (requests_append f h1 (hi.trans hle)).symm⟩
  votes v hv := by
    obtain ⟨h1, hle, hfor⟩ := h.votes v hv
    refine ⟨h1, hle.trans (by simp), ?_⟩
    have heq := requests_append f h1 hle
    exact ⟨heq ▸ hfor.rnd, heq ▸ hfor.value, heq ▸ hfor.req_id, heq ▸ hfor.src, heq ▸ hfor.udp⟩
  channel a := by
    have hle : heardFrom (a + 1) (vs.map Vote2b.message) ≤ (issued.map (vote a)).length := by
      rw [List.length_map]
      exact h.heardFrom_le _
    rw [List.map_append, List.drop_append_of_le_length hle, h.channel a, hfrom, hto,
      List.map_append, List.append_assoc]

/-- The next vote of acceptor `a` is for the next frame. -/
lemma ReplicaInv.next (h : ReplicaInv app a₀ issued q r R m vs) {a : Fin 3} {f : Frame Rest}
    {fs : List (Frame Rest)} (hq : q (fromAcceptor r a) = f :: fs) :
    ∃ f₀, issued[heardFrom (a + 1) (vs.map Vote2b.message)]? = some f₀ ∧ f = vote a f₀ := by
  have hdrop := h.channel a
  rw [hq, List.cons_append] at hdrop
  have hget : (issued.map (vote a))[heardFrom (a + 1) (vs.map Vote2b.message)]? = some f := by
    rw [← List.head?_drop, hdrop]
    rfl
  rw [List.getElem?_map] at hget
  obtain ⟨f₀, hf₀, hvote⟩ := Option.map_eq_some_iff.mp hget
  exact ⟨f₀, hf₀, hvote.symm⟩

/-- A server sends nothing to the group. -/
lemma countP_toGroup {outs : List (Out Cmd)} {k : ℕ}
    (h : ∀ o ∈ outs, o ∈ (Learner.served app a₀ (requests issued) k).2) :
    outs.countP Out.toGroup = 0 := by
  refine List.countP_eq_zero.mpr fun o ho => ?_
  rcases Learner.mem_served (h o ho) with ⟨i, c, rfl⟩ | ⟨i, text, -, -, rfl⟩
  · exact Bool.false_ne_true
  · exact Bool.false_ne_true

/-- What a server sends on the wires: replies, which are no Paxos datagrams. A reply goes to the
port the request was sent from, which is no Paxos port. -/
lemma foreign_transmit (H : Hosts) {o : Out Cmd} {k : ℕ} (hk : k ≤ issued.length)
    (hissued : ∀ i f, issued[i]? = some f → Issued i f)
    (ho : o ∈ (Learner.served app a₀ (requests issued) k).2) :
    ∀ x ∈ transmit H r o, Foreign x.2 := by
  rcases Learner.mem_served ho with ⟨i, c, rfl⟩ | ⟨i, text, h1, hi, rfl⟩
  · intro x hx
    cases hx
  · intro x hx
    obtain ⟨e, -, rfl⟩ := List.mem_map.mp hx
    refine foreign_udpFrame _ _ ?_ _
    obtain ⟨f, hf⟩ : ∃ f, issued[i - 1]? = some f :=
      ⟨_, List.getElem?_eq_getElem (by omega)⟩
    obtain ⟨u, hu, -, hport⟩ := (hissued _ f hf).udp
    show (requests issued i).sport ≠ PAXOS_PROTOCOL
    rw [requests, hf]
    show (f.rest.udp.map UdpInfo.sport).getD 0 ≠ PAXOS_PROTOCOL
    rw [hu]
    exact hport

/-- The requests are few enough for a replica to sniff all votes for them, and with that also to be
told apart by their numbers, and the application accepts them. -/
def Acceptable (app : Application σ Cmd) (issued : List (Frame Rest)) : Prop :=
  NUM_ACCEPTORS * issued.length < COUNT ∧ ∀ f ∈ issued, Learner.Accepts app (payload (valueOf f))

/-- Few enough: at most 21845 requests. -/
lemma Acceptable.length_le (h : Acceptable app issued) : issued.length ≤ 21845 := by
  have hcount : 3 * issued.length < 65536 := h.1
  omega

/-- A replica listens as long as the requests are few enough. -/
lemma ReplicaInv.listens {n : Demo σ Cmd}
    (h : ReplicaInv app a₀ n.issued q r (n.replicas r) (n.sniffed r) vs)
    (hok : Acceptable app n.issued) : n.listens r = true := by
  unfold Demo.listens
  rw [h.running, Bool.true_and, decide_eq_true_eq]
  exact h.sniffed_le.trans_lt hok.1

/-- **A replica hears a vote**: it is the next one of its acceptor, and the replica goes on as a
server that has not stopped. The channel of an acceptor holds the frames from the number of its
votes on, so that the one that comes in is for the next instance that the replica has not heard the
acceptor in. The votes stay in sequence, the quorum they complete, if any, is that of the next
request, and what is sent is a reply. One packet more has been sniffed: a reply is no Paxos packet.
-/
lemma ReplicaInv.hear {n : Demo σ Cmd}
    (h : ReplicaInv app a₀ n.issued q r (n.replicas r) (n.sniffed r) vs)
    (hok : Acceptable app n.issued) (hissued : ∀ k f, n.issued[k]? = some f → Issued k f)
    (H : Hosts)
    {a : Fin 3} {f : Frame Rest} (hf : (q (fromAcceptor r a)).head? = some f) :
    ∃ R' v, (handleReplica app H n r f).1 =
        { n with
          replicas := Function.update n.replicas r R'
          sniffed := Function.update n.sniffed r (n.sniffed r + 1) } ∧
      (∀ x ∈ (handleReplica app H n r f).2, Foreign x.2) ∧
      ReplicaInv app a₀ n.issued (q.take (fromAcceptor r a)) r R' (n.sniffed r + 1) (vs ++ [v]) := by
  obtain ⟨f₀, hf₀, rfl⟩ := h.next (take_self hf)
  have hlisten := h.listens hok
  have hlen := hok.length_le
  obtain ⟨-, haccepts⟩ := hok
  have hlt : heardFrom (a + 1) (vs.map Vote2b.message) < n.issued.length :=
    (List.getElem?_eq_some_iff.mp hf₀).1
  obtain ⟨pkt, v, hsniff, hread, hinst, hnid, hfor⟩ :=
    (hissued _ f₀ hf₀).vote hf₀ (by omega) a
  have hvs : ∀ w ∈ vs ++ [v], w.IsFor (requests n.issued) := by
    intro w hw
    rcases List.mem_append.mp hw with hw | hw
    · exact (h.votes w hw).2.2
    · exact List.mem_singleton.mp hw ▸ hfor
  have hone := oneBallot_of_isFor hvs
  rw [List.map_append, List.map_singleton] at hone
  have hseq : Sequential (vs.map Vote2b.message ++ [v.message]) := by
    refine sequential_concat.mpr ⟨h.seq, ?_⟩
    rw [hnid]
    exact hinst
  have hvalue : Learner.Accepts app (requests n.issued v.fields.inst).value := by
    rw [requests, hinst, Nat.add_sub_cancel, hf₀]
    exact haccepts f₀ (List.mem_of_getElem? hf₀)
  obtain ⟨k, hk⟩ := h.serves
  obtain ⟨L', outs', k', hcall, hserves, hfed⟩ :=
    hk.step h.fed hfor hone (by omega) hseq hvalue
  have hmem : ∀ o ∈ outs', o ∈ (Learner.served app a₀ (requests n.issued) k').2 := by
    intro o ho
    rw [← hserves.outs]
    exact List.mem_append_right _ ho
  have hhandle : handleReplica app H n r (vote a f₀) =
      ({ n with
          replicas := Function.update n.replicas r ⟨L', true, (n.replicas r).outs ++ outs'⟩
          sniffed := Function.update n.sniffed r (n.sniffed r + 1) },
        outs'.flatMap (transmit H r)) := by
    unfold handleReplica
    simp only [hsniff, hlisten, if_true]
    rw [Learner.handle_pkt_of_read2b app _ hread, hcall]
    dsimp only
    rw [countP_toGroup hmem, Nat.mul_zero, Nat.add_zero]
    rfl
  have hnew : ReplicaInv app a₀ n.issued (q.take (fromAcceptor r a)) r
      ⟨L', true, (n.replicas r).outs ++ outs'⟩ (n.sniffed r + 1) (vs ++ [v]) := by
    refine ⟨rfl, ?_, ?_, ?_, ⟨k', hserves⟩, ?_, ?_⟩
    · -- the vote is one more of its acceptor, and none of another
      rw [h.sniffed, List.map_append, List.map_singleton,
        ← Finset.add_sum_erase _ _ (Finset.mem_univ a), ← Finset.add_sum_erase _ _ (Finset.mem_univ a),
        heardFrom_concat, if_pos hnid]
      have hother : ∀ b ∈ Finset.univ.erase a,
          heardFrom (b + 1) (vs.map Vote2b.message ++ [v.message]) =
            heardFrom (b + 1) (vs.map Vote2b.message) := by
        intro b hb
        have hne := Finset.ne_of_mem_erase hb
        rw [heardFrom_concat, if_neg]
        rw [hnid]
        omega
      rw [Finset.sum_congr rfl hother]
      omega
    · rw [List.map_append, List.map_singleton]
      exact hfed
    · rw [List.map_append, List.map_singleton]
      exact hseq
    · intro w hw
      rcases List.mem_append.mp hw with hw | hw
      · exact h.votes w hw
      · rw [List.mem_singleton.mp hw]
        exact ⟨by omega, by omega, hfor⟩
    · intro b
      rw [List.map_append, List.map_singleton, heardFrom_concat, hnid]
      have hto : q.take (fromAcceptor r a) (toAcceptor b) = q (toAcceptor b) :=
        take_of_ne (ends_ne 0 a r b).2.2
      by_cases hb : b = a
      · subst hb
        have hchannel := h.channel b
        rw [take_self hf, List.cons_append] at hchannel
        rw [if_pos rfl, hto, ← List.tail_drop, hchannel, List.tail_cons]
      · rw [if_neg (by omega), hto, take_of_ne fun heq => hb (fromAcceptor_inj.mp heq).2]
        exact h.channel b
  refine ⟨_, v, by rw [hhandle], ?_, hnew⟩
  rw [hhandle]
  intro x hx
  obtain ⟨o, ho, hx⟩ := List.mem_flatMap.mp hx
  exact foreign_transmit H (hnew.serves_le hserves) hissued (hmem o ho) x hx

end replica

end P4xos.Bmv2
