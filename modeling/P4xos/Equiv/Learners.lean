import P4xos.P4v14.Learner
import P4xos.Bmv2.Ballots

/-!
# The P4-14 learner and the software learner

In the normal case, where every acceptor votes at most once in an instance and all votes of an
instance are for one round and one value, the learner switch forwards the very packets on which
`PaxosLearner(3)` returns a decision.

* `Normal` is the normal case, a condition on the packets only.
* `Normal.counted_card` links the two ways of counting: the voters the switch tests are the senders
  the software has heard, with the sender of the packet. The switch keeps a mask for the highest
  round, the software a set of senders for each instance; with one round they are the same.
* `Normal.decides_iff`: two of three senders are the software's quorum.
* `learners_agree` is the result, packet by packet, with instance and value of the decision.

Outside the normal case they differ: the software takes no vote for a decided instance and raises on
some votes of another round, the switch goes on counting (`P4v14.Learner.forwarded_twice`).
-/

namespace P4xos.Equiv

open P4xos.Lib P4xos.Bmv2
open P4v14 (PaxosT)
open P4v14.Learner
open P4xos.Bmv2.PaxosLearner (new run2b senders Quorate OneBallot counts_run2b)

variable {V : Type*}

/-- The message the software learner makes of a 2B packet; `f` reads the value field. -/
def message (f : BitVec 512 → V) (pk : Packet) : PaxosMessage V where
  nid := pk.paxos.acceptor.toNat
  inst := pk.paxos.inst.toNat
  crnd := pk.paxos.round.toNat
  vrnd := pk.paxos.vround.toNat
  val := f pk.paxos.value

/-- The normal case: 2B packets of three acceptors, each voting once in an instance at most, with
one round and one value for each instance. -/
structure Normal (pks : List Packet) : Prop where
  fromThree : ∀ pk ∈ pks, pk.FromThree
  once : (pks.map fun pk => (pk.paxos.inst, pk.paxos.acceptor)).Nodup
  ballot : ∀ p ∈ pks, ∀ q ∈ pks, p.paxos.inst = q.paxos.inst →
    p.paxos.round = q.paxos.round ∧ p.paxos.value = q.paxos.value

/-- The first packets of a normal run. -/
lemma Normal.of_append_left {pks pks' : List Packet} (h : Normal (pks ++ pks')) : Normal pks where
  fromThree pk hpk := h.fromThree pk (List.mem_append_left _ hpk)
  once := by
    have honce := h.once
    rw [List.map_append] at honce
    exact honce.of_append_left
  ballot p hp q hq := h.ballot p (List.mem_append_left _ hp) q (List.mem_append_left _ hq)

/-- The messages of such packets are one ballot for each instance. -/
lemma Normal.oneBallot {pks : List Packet} (h : Normal pks) (f : BitVec 512 → V) :
    OneBallot (pks.map (message f)) := by
  intro m hm m' hm' hi
  obtain ⟨p, hp, rfl⟩ := List.mem_map.mp hm
  obtain ⟨q, hq, rfl⟩ := List.mem_map.mp hm'
  obtain ⟨hround, hvalue⟩ := h.ballot p hp q hq (BitVec.eq_of_toNat_eq hi)
  exact ⟨congrArg BitVec.toNat hround, congrArg f hvalue⟩

/-- The sender of a packet has not voted in its instance before. -/
lemma Normal.sender_new {pre : List Packet} {pk : Packet} (h : Normal (pre ++ [pk]))
    (f : BitVec 512 → V) :
    (message f pk).nid ∉ senders (message f pk).inst (pre.map (message f)) := by
  intro hmem
  obtain ⟨m, hm, hi, ha⟩ := PaxosLearner.mem_senders.mp hmem
  obtain ⟨q, hq, rfl⟩ := List.mem_map.mp hm
  have hnodup := h.once
  rw [List.map_append, List.nodup_append] at hnodup
  have hpair : (q.paxos.inst, q.paxos.acceptor) = (pk.paxos.inst, pk.paxos.acceptor) :=
    Prod.ext (BitVec.eq_of_toNat_eq hi) (BitVec.eq_of_toNat_eq ha)
  exact hnodup.2.2 _ (List.mem_map.mpr ⟨q, hq, rfl⟩) _ (by simp) hpair

/-- In the packet's own round the switch has heard whom the software has heard. In a normal run
there is one round for an instance. -/
lemma Normal.voters_eq {pre : List Packet} {pk : Packet} (h : Normal (pre ++ [pk]))
    (f : BitVec 512 → V) :
    voters pk.vote.inst pk.vote.round (pre.map Packet.vote) =
      senders (message f pk).inst (pre.map (message f)) := by
  ext a
  rw [mem_voters, PaxosLearner.mem_senders]
  constructor
  · rintro ⟨v, hv, hi, -, ha⟩
    obtain ⟨q, hq, rfl⟩ := List.mem_map.mp hv
    exact ⟨message f q, List.mem_map.mpr ⟨q, hq, rfl⟩, hi, ha⟩
  · rintro ⟨m, hm, hi, ha⟩
    obtain ⟨q, hq, rfl⟩ := List.mem_map.mp hm
    obtain ⟨hround, -⟩ := h.ballot q (by simp [hq]) pk (by simp) (BitVec.eq_of_toNat_eq hi)
    exact ⟨q.vote, List.mem_map.mpr ⟨q, hq, rfl⟩, hi, congrArg BitVec.toNat hround, ha⟩

/-- Two voters are counted by the switch exactly when the software has heard one other sender. The
packet is the first of its instance for both, or all packets of the instance have its round, and the
mask tested holds the acceptors heard. -/
lemma Normal.counted_card {pre : List Packet} {pk : Packet} (h : Normal (pre ++ [pk]))
    (f : BitVec 512 → V) :
    (counted (pre.map Packet.vote) pk.vote).card = 2 ↔
      (senders (message f pk).inst (pre.map (message f))).card = 1 := by
  have hnew := h.sender_new f
  rw [← h.voters_eq f] at hnew ⊢
  by_cases hex : ∃ v ∈ pre.map Packet.vote, v.inst = pk.vote.inst
  · have hhighest : highest pk.vote.inst (pre.map Packet.vote) = pk.vote.round := by
      apply highest_eq _ hex
      intro v hv hi
      obtain ⟨q, hq, rfl⟩ := List.mem_map.mp hv
      obtain ⟨hround, -⟩ := h.ballot q (by simp [hq]) pk (by simp) (BitVec.eq_of_toNat_eq hi)
      exact congrArg BitVec.toNat hround
    have hcard := Finset.card_insert_of_notMem hnew
    have hvoter : pk.vote.voter = (message f pk).nid := rfl
    rw [counted, hhighest, if_pos rfl, hvoter]
    omega
  · -- the instance is new to both
    have hnone : ∀ r, voters pk.vote.inst r (pre.map Packet.vote) = ∅ := by
      intro r
      refine Finset.eq_empty_of_forall_notMem fun a ha => ?_
      obtain ⟨v, hv, hi, -⟩ := mem_voters.mp ha
      exact hex ⟨v, hv, hi⟩
    rw [counted, hnone, hnone]
    split_ifs <;> simp

/-- The software learner's quorum of two of three. -/
lemma Normal.decides_iff {pre : List Packet} {pk : Packet} (h : Normal (pre ++ [pk]))
    (f : BitVec 512 → V) :
    (¬ Quorate 2 (message f pk).inst (pre.map (message f)) ∧
      Quorate 2 (message f pk).inst (pre.map (message f) ++ [message f pk])) ↔
    (senders (message f pk).inst (pre.map (message f))).card = 1 := by
  have hcard := Finset.card_insert_of_notMem (h.sender_new f)
  unfold Quorate
  rw [PaxosLearner.senders_concat_self, ← Finset.card_pos, ← Finset.card_pos]
  omega

/-- **The two learners agree in the normal case.** The software learner does not raise, the switch
forwards a packet that came by a forwarding port exactly when the software returns a decision on it,
and the decision is the instance and the value of the forwarded packet. The value is read by any
function of the field. -/
theorem learners_agree (F : BitVec 9 → Option Forward) (f : BitVec 512 → V) (pks : List Packet)
    (h : Normal pks) (pre : List Packet) (pk : Packet) (post : List Packet)
    (hpks : pks = pre ++ pk :: post) :
    ∃ L' res, (run2b (new 3) (pre.map (message f))).handle_p2b (message f pk) = .ok (L', res) ∧
      ((step F (after (step F) init pre) pk).2.isSome = true ↔
        (outPort F pk.ingress_port).isSome = true ∧ res.isSome = true) ∧
      ∀ port q, (step F (after (step F) init pre) pk).2 = some (port, q) →
        res = some (q.inst.toNat, f q.value) := by
  subst hpks
  rw [List.append_cons] at h
  have hnormal := h.of_append_left
  have hone := hnormal.oneBallot f
  rw [List.map_append, List.map_singleton] at hone
  obtain ⟨hcall, -⟩ := (counts_run2b 3 hone.of_append_left).handle_p2b hone
  rw [PaxosLearner.run2b_new_majority] at hcall
  have hforward := forwarded_iff F hnormal.of_append_left.fromThree
    (hnormal.fromThree pk (by simp))
  rw [hnormal.counted_card f, ← hnormal.decides_iff f] at hforward
  refine ⟨_, _, hcall, ?_, ?_⟩
  · rw [hforward]
    simp
  · intro port q hq
    have hdecides := (hforward.mp (by rw [hq]; rfl)).2
    rw [if_pos hdecides]
    rw [step_eq] at hq
    have hq' : q = pk.paxos := by
      split_ifs at hq
      obtain ⟨_, -, heq⟩ := Option.map_eq_some_iff.mp hq
      exact (congrArg Prod.snd heq).symm
    rw [hq']
    rfl

/-- Two votes of the normal case: the second packet is the one both learners decide on. The packets
are normal, which is computed. -/
theorem learners_agree_two_votes :
    Normal [packet2b 5 1 0, packet2b 5 1 1] ∧
    ∃ L' res, (run2b (new 3) ([packet2b 5 1 0].map (message id))).handle_p2b
        (message id (packet2b 5 1 1)) = .ok (L', res) ∧
      ((step (fun _ => some (.forward 2))
          (after (step fun _ => some (.forward 2)) init [packet2b 5 1 0])
          (packet2b 5 1 1)).2.isSome = true ↔
        (outPort (fun _ => some (.forward 2)) (packet2b 5 1 1).ingress_port).isSome = true ∧
          res.isSome = true) ∧
      ∀ port q, (step (fun _ => some (.forward 2))
          (after (step fun _ => some (.forward 2)) init [packet2b 5 1 0])
          (packet2b 5 1 1)).2 = some (port, q) →
        res = some (q.inst.toNat, id q.value) := by
  have hnormal : Normal [packet2b 5 1 0, packet2b 5 1 1] :=
    ⟨by decide, by decide, by decide +kernel⟩
  exact ⟨hnormal, learners_agree _ id _ hnormal [packet2b 5 1 0] (packet2b 5 1 1) [] rfl⟩

end P4xos.Equiv
