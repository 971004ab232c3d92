import P4xos.Lib.Keyed
import P4xos.Bmv2.Ballots
import P4xos.Bmv2.Backend

/-!
# Replicas converge

Two fresh replicas that receive the same votes, in any orders and with any repetitions, end with the
same log, the same delivered commands and the same database, exactly if the stack of the interpreter
has room for the recursions of both.

* `read2b` reads the vote off a 2B packet, and `handle_2b` is what `handle_pkt` does with it
  (`handle_pkt_of_read2b`).
* `Replays` says what the recursion of `deliverInstance` did to the application: its state is the
  replay of the calls, and the calls that returned are those of the instances passed, in order.
* `Fed` is the invariant of a replica that was fed votes: the learner holds them, and the
  application is the replay of the deliveries. `Fed.handle_2b` is the step, `Fed.handleAll` the run.
* `NearVotes`: a vote that completes the quorum of an instance comes after the quorums of all
  instances that are more than the depth of the stack before it. `Fed.settles`: the calls return
  exactly under this condition, and deliveries are in order then.
* `replicas_agree_iff`: for any application that accepts the commands; `databases_converge_iff` is
  the case of `SimpleDatabase`.
* `order_matters`: with instances 1 and 1002 the order of the votes decides whether a replica stops.
-/

namespace P4xos.Bmv2

open P4xos.Lib PaxosLearner

/-! ## Votes on the wire -/

/-- The vote of a 2B packet, with the addresses its answer goes to. -/
structure Vote2b where
  fields : Fields
  src : String
  udp : Option (ℕ × ℕ)
  deriving DecidableEq

/-- The message the learner is handed. -/
def Vote2b.message (v : Vote2b) : PaxosMessage Bytes where
  nid := v.fields.acceptor_id
  inst := v.fields.inst
  crnd := v.fields.rnd
  vrnd := v.fields.vrnd
  val := rstrip stripChars v.fields.value

/-- It is for the same instance. -/
@[simp] lemma Vote2b.inst_message (v : Vote2b) : v.message.inst = v.fields.inst := rfl

/-- The vote of a packet, if it is a 2B packet. -/
def read2b (pkt : Pkt) : Option Vote2b :=
  match pkt.ip, pkt.raw with
  | some (proto, src), some datagram =>
      match unpack (datagram.take P4v14.PAXOS_LEN) with
      | .error _ => none
      | .ok f => if proto = 0x11 ∧ f.typ = PHASE_2B then some ⟨f, src, pkt.udp⟩ else none
  | _, _ => none

/-- The instance of an unpacked header has 16 bits. -/
lemma unpack_inst_lt {datagram : Bytes} {f : Fields} (h : unpack datagram = .ok f) :
    f.inst < 65536 := by
  unfold unpack at h
  split_ifs at h
  cases h
  have hlen : ((datagram.splitAt 1).2.splitAt 2).1.length ≤ 2 := by
    rw [List.splitAt_eq]
    exact List.length_take_le _ _
  exact (beDecode_lt _).trans_le (Nat.pow_le_pow_right (by decide) hlen)

/-- What a packet with a vote is. It is a UDP packet whose payload unpacks to a 2B. -/
lemma read2b_eq_some {pkt : Pkt} {v : Vote2b} (h : read2b pkt = some v) :
    pkt.ip = some (0x11, v.src) ∧ pkt.udp = v.udp ∧ v.fields.typ = PHASE_2B ∧
      ∃ datagram, pkt.raw = some datagram ∧
        unpack (datagram.take P4v14.PAXOS_LEN) = .ok v.fields := by
  unfold read2b at h
  split at h
  · rename_i proto src datagram hip hraw
    split at h
    · cases h
    · rename_i f hf
      split_ifs at h with hc
      cases h
      exact ⟨hc.1 ▸ hip, rfl, hc.2, datagram, hraw, hf⟩
  · cases h

/-- So is that of a vote that was read. -/
lemma inst_lt_of_read2b {pkt : Pkt} {v : Vote2b} (h : read2b pkt = some v) :
    v.fields.inst < 65536 := by
  obtain ⟨-, -, -, datagram, -, hf⟩ := read2b_eq_some h
  exact unpack_inst_lt hf

namespace Learner

variable {σ Cmd : Type*}

/-- The 2B branch of `handle_pkt`. -/
def handle_2b (app : Application σ Cmd) (L : Learner σ) (v : Vote2b) :
    Learner σ × List (Out Cmd) × Except PyExc Unit :=
  match L.learner.handle_p2b v.message with
  | .error e => catchIndexError L [] e
  | .ok (learner, none) => ({ L with learner := learner }, [], .ok ())
  | .ok (learner, some (inst, _)) =>
      deliverDecision app { L with learner := learner } inst v.fields.req_id v.src v.udp

/-- A packet with a vote is handled by this branch. -/
lemma handle_pkt_of_read2b (app : Application σ Cmd) (L : Learner σ) {pkt : Pkt} {v : Vote2b}
    (h : read2b pkt = some v) : handle_pkt app L pkt = handle_2b app L v := by
  obtain ⟨hip, hudp, htyp, datagram, hraw, hf⟩ := read2b_eq_some h
  unfold handle_pkt handle_2b
  simp only [hip, hraw, hf, htyp, hudp, ne_eq, not_true_eq_false, if_false, if_true]
  rfl

/-- The replica after a sequence of packets, with what it did for each of them; an exception ends
the run. -/
def handleAll (app : Application σ Cmd) (L : Learner σ) :
    List Pkt → Learner σ × List (List (Out Cmd)) × Except PyExc Unit
  | [] => (L, [], .ok ())
  | pkt :: pkts =>
      match handle_pkt app L pkt with
      | (L, outs, .error e) => (L, [outs], .error e)
      | (L, outs, .ok ()) =>
          let (L, trace, r) := handleAll app L pkts
          (L, outs :: trace, r)

/-! ## The calls of the handler -/

/-- The application after a sequence of calls. -/
def replay (app : Application σ Cmd) (a : σ) (calls : List (ℕ × Cmd)) : σ :=
  calls.foldl (fun a call => (app.deliver a call.2).1) a

/-- The calls that returned, by their instances, each with the result it called back with. -/
def executed (app : Application σ Cmd) : σ → List (ℕ × Cmd) → List (ℕ × Option PyText)
  | _, [] => []
  | a, (inst, c) :: calls =>
      match app.deliver a c with
      | (a, result, none) => (inst, result) :: executed app a calls
      | (a, _, some _) => executed app a calls

/-- One sequence of calls after the other. -/
lemma replay_append (app : Application σ Cmd) (a : σ) (calls calls' : List (ℕ × Cmd)) :
    replay app a (calls ++ calls') = replay app (replay app a calls) calls' := List.foldl_append

/-- The calls that returned, one sequence after the other. -/
lemma executed_append (app : Application σ Cmd) (a : σ) (calls calls' : List (ℕ × Cmd)) :
    executed app a (calls ++ calls') =
      executed app a calls ++ executed app (replay app a calls) calls' := by
  induction calls generalizing a with
  | nil => rfl
  | cons call calls ih =>
      obtain ⟨inst, c⟩ := call
      have hreplay : replay app a ((inst, c) :: calls) =
          replay app (app.deliver a c).1 calls := rfl
      rw [List.cons_append, executed, executed, hreplay]
      rcases app.deliver a c with ⟨a', result, _ | e⟩ <;> simp [ih]

/-- What a recursion did to the application: it is the replay of the calls, these are on logged
commands, and the calls that returned are those of the instances passed, in order. -/
structure Replays (app : Application σ Cmd) (L L' : Learner σ) (outs : List (Out Cmd)) : Prop where
  learner : L'.learner = L.learner
  maxInstance : L'.maxInstance = L.maxInstance
  state : L'.app = replay app L.app (deliveries outs)
  le : L.minUncommitedIndex ≤ L'.minUncommitedIndex
  passed : (executed app L.app (deliveries outs)).map Prod.fst =
    List.range' L.minUncommitedIndex (L'.minUncommitedIndex - L.minUncommitedIndex)
  logged : ∀ call ∈ deliveries outs, Logged app L call

variable {app : Application σ Cmd}

/-- Nothing happened. -/
lemma Replays.refl (L : Learner σ) : Replays app L L ([] : List (Out Cmd)) :=
  ⟨rfl, rfl, rfl, le_rfl, by simp [executed], by simp⟩

/-- What happens later is replayed later. The deliveries of both are of consecutive instances, from
the one's last to the other's first. -/
lemma Replays.trans {L L' L'' : Learner σ} {outs outs' : List (Out Cmd)}
    (h : Replays app L L' outs) (h' : Replays app L' L'' outs') :
    Replays app L L'' (outs ++ outs') where
  learner := h'.learner.trans h.learner
  maxInstance := h'.maxInstance.trans h.maxInstance
  state := by rw [deliveries_append, replay_append, ← h.state, h'.state]
  le := h.le.trans h'.le
  passed := by
    rw [deliveries_append, executed_append, ← h.state, List.map_append, h.passed, h'.passed]
    exact range'_append_range' h.le h'.le
  logged call hcall := by
    rw [deliveries_append] at hcall
    rcases List.mem_append.mp hcall with hcall | hcall
    · exact h.logged call hcall
    · unfold Logged
      rw [← h.learner]
      exact h'.logged call hcall

/-- What is sent is no call of the handler. -/
lemma Replays.of_sent (L : Learner σ) {outs : List (Out Cmd)} (h : deliveries outs = []) :
    Replays app L L outs :=
  ⟨rfl, rfl, by rw [h]; rfl, le_rfl, by simp [h, executed], by simp [h]⟩

/-- The `except` clauses do not touch the application. -/
lemma Replays.catchKeyError {L L' : Learner σ} {outs : List (Out Cmd)} (h : Replays app L L' outs)
    (inst : ℕ) (d : Deferred PyText) (r : Except PyExc (Option (Deferred PyText))) :
    Replays app L (catchKeyError inst L' outs d r).1 (catchKeyError inst L' outs d r).2.1 := by
  unfold Learner.catchKeyError
  split
  · rcases retryInstance_cases Cmd L' inst with ⟨-, he⟩ | ⟨-, msg, -, he⟩ <;> rw [he]
    · exact h
    · have hsent : Replays app L' L'
          ([.sendMsg msg L'.learner_addr L'.learner_port] : List (Out Cmd)) := .of_sent L' rfl
      dsimp only
      split_ifs <;> exact h.trans hsent
  · exact h

/-- A call that raises passes no instance. -/
lemma Replays.raised {L : Learner σ} {v : Bytes} {c : Cmd} {a : σ} {result : Option PyText}
    {e : PyExc} (inst : ℕ) (hlog : L.learner.logs inst = some v) (hload : app.loads v = .ok c)
    (hdel : app.deliver L.app c = (a, result, some e)) :
    Replays app L { L with app := a } [Out.deliver inst c] where
  learner := rfl
  maxInstance := rfl
  state := by simp [deliveries, replay, hdel]
  le := le_rfl
  passed := by simp [deliveries, executed, hdel]
  logged call hcall := by
    obtain rfl : call = (inst, c) := by simpa [deliveries] using hcall
    exact ⟨v, hlog, hload⟩

/-- A call that returns passes its instance. -/
lemma Replays.returned {L : Learner σ} {v : Bytes} {c : Cmd} {a : σ} {result : Option PyText}
    (hlog : L.learner.logs L.minUncommitedIndex = some v) (hload : app.loads v = .ok c)
    (hdel : app.deliver L.app c = (a, result, none)) :
    Replays app L { L with app := a, minUncommitedIndex := L.minUncommitedIndex + 1 }
      [Out.deliver L.minUncommitedIndex c] where
  learner := rfl
  maxInstance := rfl
  state := by simp [deliveries, replay, hdel]
  le := Nat.le_succ _
  passed := by simp [deliveries, executed, hdel]
  logged call hcall := by
    obtain rfl : call = (L.minUncommitedIndex, c) := by simpa [deliveries] using hcall
    exact ⟨v, hlog, hload⟩

/-- **The recursion**, whatever the handler does and whatever room there is. The cases are those of
the recursion: a call of the handler that raises is replayed for its state, one that returns moves
the counter too, and the nested call comes behind it. -/
lemma deliverInstance_replays (app : Application σ Cmd) (room : ℕ) (L : Learner σ) (inst : ℕ) :
    Replays app L (deliverInstance app room L inst).1 (deliverInstance app room L inst).2.1 := by
  fun_induction deliverInstance app room L inst with
  | case1 L => exact Replays.refl L
  | case2 room L _ => exact (Replays.refl L).catchKeyError _ _ _
  | case3 room L => exact (Replays.refl L).catchKeyError _ _ _
  | case4 room L cmd c hload a result e hdel hlog =>
      exact (Replays.raised _ hlog hload hdel).catchKeyError _ _ _
  | case5 room L cmd c hload a result hdel L' L'' outs' e hlog outs hlt heq ih =>
      rw [heq] at ih
      exact ((Replays.returned hlog hload hdel).trans ih).catchKeyError _ _ _
  | case6 room L cmd c hload a result hdel L' L'' outs' d hlog outs hlt heq ih =>
      rw [heq] at ih
      exact (Replays.returned hlog hload hdel).trans ih
  | case7 room L cmd c hload a result hdel L' hlog => exact Replays.returned hlog hload hdel
  | case8 room L inst _ _ L' outs r heq ih =>
      rw [heq] at ih
      exact ih.catchKeyError _ _ _
  | case9 room L => exact Replays.refl L

/-- What a callback sends is no call of the handler. -/
lemma deliveries_addCallback (result : Option PyText) (req_id : ℕ) (dst : String)
    (sport dport : ℕ) :
    deliveries (addCallback result req_id dst sport dport : List (Out Cmd)) = [] := by
  have hresponds : ∀ o ∈ (addCallback result req_id dst sport dport : List (Out Cmd)),
      ∃ data sport dport, o = Out.respond data dst sport dport := by
    intro o ho
    obtain ⟨data, rfl⟩ := mem_addCallback ho
    exact ⟨data, sport, dport, rfl⟩
  exact deliveries_eq_nil hresponds

/-- What follows a decision is the recursion, with the highest instance brought up to date, and an
answer. -/
lemma deliverDecision_replays (app : Application σ Cmd) (L : Learner σ) (inst req_id : ℕ)
    (src : String) (udp : Option (ℕ × ℕ)) :
    Replays app { L with maxInstance := max L.maxInstance inst }
      (deliverDecision app L inst req_id src udp).1
      (deliverDecision app L inst req_id src udp).2.1 := by
  have hr := deliverInstance_replays app (app.depth + 1)
    { L with maxInstance := max L.maxInstance inst } inst
  unfold deliverDecision
  rw [ite_maxInstance]
  dsimp only
  rcases he : deliverInstance app (app.depth + 1) { L with maxInstance := max L.maxInstance inst }
    inst with ⟨L₁, outs, e | d⟩ <;> rw [he] at hr
  · unfold catchIndexError
    dsimp only
    split_ifs <;> exact hr
  · rcases d with _ | d <;> rcases udp with _ | ⟨sport, dport⟩ <;> try exact hr
    exact hr.trans (.of_sent _ (deliveries_addCallback _ _ _ _ _))

/-! ## A replica that is fed votes -/

/-- The vote completes the quorum of its instance. -/
def Completes (n : ℕ) (ms : List (PaxosMessage Bytes)) (m : PaxosMessage Bytes) : Prop :=
  ¬ Quorate ((n + 1) / 2) m.inst ms ∧ Quorate ((n + 1) / 2) m.inst (ms ++ [m])

/-- Quorums are counted. -/
instance (n : ℕ) (ms : List (PaxosMessage Bytes)) (m : PaxosMessage Bytes) :
    Decidable (Completes n ms m) := inferInstanceAs (Decidable (_ ∧ _))

/-- **The invariant** of a replica of `n` acceptors that was fed the votes `ms` and has done `outs`,
whatever the handler does: the learner holds the votes, the application is the replay of the calls,
and the calls that returned are those of the instances up to the next one to deliver, in order. -/
structure Fed (app : Application σ Cmd) (n : ℕ) (a₀ : σ) (ms : List (PaxosMessage Bytes))
    (L : Learner σ) (outs : List (Out Cmd)) : Prop where
  learner : L.learner = (PaxosLearner.new n).run2b ms
  ballot : OneBallot ms
  min_pos : 1 ≤ L.minUncommitedIndex
  max_bound : L.maxInstance < 65536
  state : L.app = replay app a₀ (deliveries outs)
  passed : (executed app a₀ (deliveries outs)).map Prod.fst =
    List.range' 1 (L.minUncommitedIndex - 1)
  logged : ∀ call ∈ deliveries outs, Logged app L call

/-- A new replica was fed nothing. -/
lemma fed_new (app : Application σ Cmd) (n : ℕ) (addr : String) (port : ℕ) (a₀ : σ) :
    Fed app n a₀ [] (new n addr port a₀) [] where
  learner := rfl
  ballot m hm := by cases hm
  min_pos := le_rfl
  max_bound := by simp [new]
  state := rfl
  passed := rfl
  logged call hcall := by simp at hcall

variable {n : ℕ} {a₀ : σ} {ms : List (PaxosMessage Bytes)} {L : Learner σ} {outs : List (Out Cmd)}

/-- What the learner returns for a vote. -/
lemma handle_p2b_run2b {m : PaxosMessage Bytes} (hone : OneBallot (ms ++ [m])) :
    ((PaxosLearner.new n).run2b ms).handle_p2b m =
      .ok ((PaxosLearner.new n).run2b (ms ++ [m]),
        if Completes n ms m then some (m.inst, m.val) else none) := by
  have hstep := ((counts_run2b n hone.of_append_left).handle_p2b hone).1
  rw [run2b_new_majority] at hstep
  rw [run2b_append, run2b_cons]
  exact hstep

/-- A vote is counted, and one that completes its quorum is a decision. -/
lemma Fed.handle_2b_eq (h : Fed app n a₀ ms L outs) {v : Vote2b}
    (hone : OneBallot (ms ++ [v.message])) :
    handle_2b app L v =
      if Completes n ms v.message then
        deliverDecision app { L with learner := (PaxosLearner.new n).run2b (ms ++ [v.message]) }
          v.message.inst v.fields.req_id v.src v.udp
      else ({ L with learner := (PaxosLearner.new n).run2b (ms ++ [v.message]) }, [], .ok ()) := by
  unfold handle_2b
  rw [h.learner, handle_p2b_run2b hone]
  by_cases hc : Completes n ms v.message
  · rw [if_pos hc, if_pos hc]
  · rw [if_neg hc, if_neg hc]

/-- What is logged stays logged. -/
lemma logs_concat {m : PaxosMessage Bytes} (hone : OneBallot (ms ++ [m])) {i : ℕ} {w : Bytes}
    (hlog : ((PaxosLearner.new n).run2b ms).logs i = some w) :
    ((PaxosLearner.new n).run2b (ms ++ [m])).logs i = some w := by
  obtain ⟨hq, m', hm', hi, hv⟩ := (logs_run2b n hone.of_append_left i w).mp hlog
  exact (logs_run2b n hone i w).mpr ⟨hq.concat m, m', List.mem_append_left _ hm', hi, hv⟩

/-- After the vote is counted, whatever the recursion does keeps the invariant. What the recursion
delivers are the logged commands from the next instance on (`Replays`), so they continue those
delivered before; the state is that of the handler on all of them. -/
lemma Fed.concat (h : Fed app n a₀ ms L outs) {m : PaxosMessage Bytes}
    (hone : OneBallot (ms ++ [m])) {k : ℕ} (hk : k < 65536) {L' : Learner σ}
    {outs' : List (Out Cmd)} (hr : Replays app
      { L with learner := (PaxosLearner.new n).run2b (ms ++ [m]), maxInstance := k } L' outs') :
    Fed app n a₀ (ms ++ [m]) L' (outs ++ outs') where
  learner := hr.learner
  ballot := hone
  min_pos := h.min_pos.trans hr.le
  max_bound := hr.maxInstance.trans_lt hk
  state := by
    rw [deliveries_append, replay_append, ← h.state]
    exact hr.state
  passed := by
    rw [deliveries_append, executed_append, ← h.state, List.map_append, h.passed, hr.passed]
    exact range'_append_range' h.min_pos hr.le
  logged call hcall := by
    unfold Logged
    rw [hr.learner]
    rw [deliveries_append] at hcall
    rcases List.mem_append.mp hcall with hcall | hcall
    · obtain ⟨w, hw, hload⟩ := h.logged call hcall
      rw [h.learner] at hw
      exact ⟨w, logs_concat hone hw, hload⟩
    · exact hr.logged call hcall

/-- **One vote.** -/
lemma Fed.handle_2b (h : Fed app n a₀ ms L outs) {v : Vote2b}
    (hone : OneBallot (ms ++ [v.message])) (hlt : v.fields.inst < 65536) :
    Fed app n a₀ (ms ++ [v.message]) (handle_2b app L v).1 (outs ++ (handle_2b app L v).2.1) := by
  rw [h.handle_2b_eq hone]
  split_ifs
  · exact h.concat hone (max_lt h.max_bound hlt) (deliverDecision_replays app
      { L with learner := (PaxosLearner.new n).run2b (ms ++ [v.message]) } _ _ _ _)
  · exact h.concat hone h.max_bound (.refl _)

/-- **A sequence of votes**: the replica was fed all of them, or those up to the one whose call
raised. By induction on the votes: a call that raises ends the run with its own vote the last one
fed, and one that returns leaves a replica to which the rest is fed. -/
lemma Fed.handleAll (h : Fed app n a₀ ms L outs) {pkts : List Pkt} {vs : List Vote2b}
    (hpkts : pkts.map read2b = vs.map some) (hone : OneBallot (ms ++ vs.map Vote2b.message))
    {L' : Learner σ} {trace : List (List (Out Cmd))} {r : Except PyExc Unit}
    (hrun : handleAll app L pkts = (L', trace, r)) :
    ∃ fed, fed <+: vs.map Vote2b.message ∧ (r = .ok () → fed = vs.map Vote2b.message) ∧
      Fed app n a₀ (ms ++ fed) L' (outs ++ trace.flatten) := by
  induction vs generalizing pkts ms L outs trace with
  | nil =>
      obtain rfl : pkts = [] := by simpa using hpkts
      cases hrun
      exact ⟨[], List.nil_prefix, fun _ => rfl, by simpa using h⟩
  | cons v vs ih =>
      obtain ⟨pkt, pkts, rfl, hpkt, hpkts⟩ := List.map_eq_cons_iff.mp hpkts
      rw [List.map_cons, List.append_cons] at hone
      have hstep := h.handle_2b hone.of_append_left (inst_lt_of_read2b hpkt)
      rw [Learner.handleAll, handle_pkt_of_read2b app L hpkt] at hrun
      rcases he : Learner.handle_2b app L v with ⟨L₁, outs₁, e | _⟩ <;> rw [he] at hstep hrun
      · cases hrun
        exact ⟨[v.message], by simp, by simp, by simpa using hstep⟩
      · rcases hrest : Learner.handleAll app L₁ pkts with ⟨L₂, trace₂, r₂⟩
        simp only [hrest] at hrun
        cases hrun
        obtain ⟨fed, hprefix, hall, hfed⟩ := ih hstep hpkts hone hrest
        refine ⟨v.message :: fed, ?_, fun hr => ?_, ?_⟩
        · exact List.cons_prefix_cons.mpr ⟨rfl, hprefix⟩
        · rw [hall hr, List.map_cons]
        · simpa using hfed

/-! ## In-order delivery -/

/-- What is logged is the value of a vote. -/
lemma accepts_of_logged (hone : OneBallot ms) (hok : ∀ m ∈ ms, Accepts app m.val) (i : ℕ)
    (w : Bytes)
    (hlog : ((PaxosLearner.new n).run2b ms).logs i = some w) : Accepts app w := by
  obtain ⟨-, m, hm, -, rfl⟩ := (logs_run2b n hone i w).mp hlog
  exact hok m hm

/-- A vote that completes no quorum is only counted. -/
lemma Fed.waits (h : Fed app n a₀ ms L outs) (hin : InOrder app L outs) {v : Vote2b}
    (hone : OneBallot (ms ++ [v.message])) (hc : ¬ Completes n ms v.message) :
    ∃ L', Learner.handle_2b app L v = (L', [], .ok ()) ∧ InOrder app L' outs ∧
      (Roomy app L → Roomy app L') := by
  have hvote := handle_p2b_run2b (n := n) hone
  rw [if_neg hc, ← h.learner] at hvote
  rw [h.handle_2b_eq hone, if_neg hc]
  exact ⟨_, rfl, hin.with_learner (handle_p2b_logs_of_none hvote), id⟩

/-- A vote that completes the quorum logs the value. -/
lemma Fed.logs_of_completes (h : Fed app n a₀ ms L outs) {m : PaxosMessage Bytes}
    (hone : OneBallot (ms ++ [m])) (hc : Completes n ms m) :
    ((PaxosLearner.new n).run2b (ms ++ [m])).logs =
      Function.update L.learner.logs m.inst (some m.val) := by
  have hvote := handle_p2b_run2b (n := n) hone
  rw [if_pos hc, ← h.learner] at hvote
  exact (handle_p2b_decides hvote).2.1

/-- An instance whose quorum is not complete is not logged. -/
lemma Fed.logs_eq_none (h : Fed app n a₀ ms L outs) {i : ℕ}
    (hq : ¬ Quorate ((n + 1) / 2) i ms) : L.learner.logs i = none := by
  rw [h.learner, Option.eq_none_iff_forall_ne_some]
  intro w hw
  exact hq ((logs_run2b n h.ballot i w).mp hw).1

/-- For an instance before the next one to deliver the call raises: there is no `Deferred`. -/
lemma deliverDecision_of_lt (app : Application σ Cmd) {L : Learner σ} {inst : ℕ}
    (h : inst < L.minUncommitedIndex) (req_id : ℕ) (src : String) (udp : Option (ℕ × ℕ)) :
    ∃ L', deliverDecision app L inst req_id src udp = (L', [], .error .AttributeError) := by
  have hnone : deliverInstance app (app.depth + 1)
      { L with maxInstance := max L.maxInstance inst } inst =
      ({ L with maxInstance := max L.maxInstance inst }, [], .ok none) := by
    rw [deliverInstance, if_neg h.ne, if_neg h.not_gt]
  refine ⟨{ L with maxInstance := max L.maxInstance inst }, ?_⟩
  unfold deliverDecision
  rw [ite_maxInstance]
  dsimp only
  rw [hnone]

/-- A logged instance has a quorum. -/
lemma Fed.quorate_of_logged (h : Fed app n a₀ ms L outs) {i : ℕ}
    (hlog : (L.learner.logs i).isSome) : Quorate ((n + 1) / 2) i ms := by
  by_contra hq
  rw [h.logs_eq_none hq] at hlog
  cases hlog

/-- An instance with a quorum is logged. -/
lemma Fed.logged_of_quorate (h : Fed app n a₀ ms L outs) {i : ℕ}
    (hq : Quorate ((n + 1) / 2) i ms) : (L.learner.logs i).isSome := by
  obtain ⟨m, hm, hi⟩ := exists_vote (Finset.nonempty_iff_ne_empty.mp hq.1)
  rw [h.learner]
  exact Option.isSome_iff_exists.mpr ⟨m.val, (logs_run2b n h.ballot i m.val).mpr ⟨hq, m, hm, hi, rfl⟩⟩

/-- When a vote completes the quorum of an instance, those too far before it have theirs. -/
def FarQuorate (n depth : ℕ) (ms : List (PaxosMessage Bytes)) (m : PaxosMessage Bytes) : Prop :=
  Completes n ms m → ∀ j, 1 ≤ j → j + depth < m.inst → Quorate ((n + 1) / 2) j ms

/-- A vote that completes the quorum of an instance is delivered, exactly if the instance is near
enough to the first one not delivered; for instance 0 the call raises. -/
lemma Fed.decides (h : Fed app n a₀ ms L outs) (hin : InOrder app L outs) (hroomy : Roomy app L)
    {v : Vote2b} (hone : OneBallot (ms ++ [v.message])) (hc : Completes n ms v.message)
    (hlt : v.fields.inst < 65536) (hok : ∀ m ∈ ms ++ [v.message], Accepts app m.val) :
    ∃ L' outs' r, Learner.handle_2b app L v = (L', outs', r) ∧
      (r = .ok () → InOrder app L' (outs ++ outs') ∧ Roomy app L') ∧
      (1 ≤ v.fields.inst → (r = .ok () ↔ FarQuorate n app.depth ms v.message)) := by
  rw [h.handle_2b_eq hone, if_pos hc]
  by_cases hpos : 1 ≤ v.fields.inst
  · by_cases hnear : v.fields.inst ≤ L.minUncommitedIndex + app.depth
    · obtain ⟨L', outs', he, -, -, -, hin', -⟩ := hin.deliverDecision hroomy
        ((PaxosLearner.new n).run2b (ms ++ [v.message])) (h.logs_of_completes hone hc)
        (accepts_of_logged hone hok) ⟨hpos, hlt⟩ (h.logs_eq_none hc.1) hnear v.fields.req_id v.src
        v.udp
      refine ⟨L', outs', .ok (), he, fun _ => hin', fun _ => ?_⟩
      refine iff_of_true rfl fun _ j hj hfar => ?_
      -- what is further away than the first instance not delivered is logged
      rw [Vote2b.inst_message] at hfar
      exact h.quorate_of_logged (hin.logged j hj (by omega))
    · have hfar : L.minUncommitedIndex + app.depth < v.fields.inst := Nat.lt_of_not_le hnear
      have he := deliverDecision_too_far app
        (L := { L with learner := (PaxosLearner.new n).run2b (ms ++ [v.message]) }) hfar
        v.fields.req_id v.src v.udp
      refine ⟨_, _, _, he, by simp, fun _ => ⟨by simp, fun hquorate => ?_⟩⟩
      have hsome := h.logged_of_quorate (hquorate hc _ hin.min_pos hfar)
      rw [hin.gap] at hsome
      cases hsome
  · have hbelow : v.fields.inst < L.minUncommitedIndex := (Nat.lt_of_not_le hpos).trans_le hin.min_pos
    obtain ⟨L', he⟩ := deliverDecision_of_lt app
      (L := { L with learner := (PaxosLearner.new n).run2b (ms ++ [v.message]) }) hbelow
      v.fields.req_id v.src v.udp
    exact ⟨L', [], _, he, by simp, fun h1 => absurd h1 hpos⟩

/-- **The condition on votes** that come after others: whenever one completes the quorum of an
instance, every instance more than `depth` before it has its quorum. -/
def NearAfter (n depth : ℕ) (ms ms' : List (PaxosMessage Bytes)) : Prop :=
  ∀ before m after, ms' = before ++ m :: after → FarQuorate n depth (ms ++ before) m

/-- The condition on all the votes of a replica. -/
def NearVotes (n depth : ℕ) (ms : List (PaxosMessage Bytes)) : Prop :=
  ∀ before m after, ms = before ++ m :: after → FarQuorate n depth before m

/-- The condition on one more vote in front. -/
lemma nearAfter_cons {depth : ℕ} {m : PaxosMessage Bytes} {ms' : List (PaxosMessage Bytes)} :
    NearAfter n depth ms (m :: ms') ↔
      FarQuorate n depth ms m ∧ NearAfter n depth (ms ++ [m]) ms' := by
  unfold NearAfter
  rw [forall_split_cons (Q := fun before m => FarQuorate n depth (ms ++ before) m), List.append_nil]
  simp only [List.append_assoc, List.singleton_append]

/-- **A sequence of votes** with commands the application accepts: as long as the calls return,
deliveries are in order; and they all return, when the instances are from 1 on, exactly if the votes
are near enough. -/
lemma Fed.settles (h : Fed app n a₀ ms L outs) (hin : InOrder app L outs) (hroomy : Roomy app L)
    {pkts : List Pkt} {vs : List Vote2b} (hpkts : pkts.map read2b = vs.map some)
    (hone : OneBallot (ms ++ vs.map Vote2b.message))
    (hok : ∀ m ∈ ms ++ vs.map Vote2b.message, Accepts app m.val) :
    ∃ L' trace r, Learner.handleAll app L pkts = (L', trace, r) ∧
      (r = .ok () → InOrder app L' (outs ++ trace.flatten) ∧ Roomy app L') ∧
      ((∀ v ∈ vs, 1 ≤ v.fields.inst) →
        (r = .ok () ↔ NearAfter n app.depth ms (vs.map Vote2b.message))) := by
  induction vs generalizing pkts ms L outs with
  | nil =>
      obtain rfl : pkts = [] := by simpa using hpkts
      exact ⟨L, [], .ok (), rfl, fun _ => ⟨by simpa using hin, hroomy⟩,
        fun _ => ⟨fun _ => forall_split_nil, fun _ => rfl⟩⟩
  | cons v vs ih =>
      obtain ⟨pkt, pkts, rfl, hpkt, hpkts⟩ := List.map_eq_cons_iff.mp hpkts
      rw [List.map_cons, nearAfter_cons]
      rw [List.map_cons, List.append_cons] at hone hok
      have hok₁ : ∀ m ∈ ms ++ [v.message], Accepts app m.val :=
        fun m hm => hok m (List.mem_append_left _ hm)
      obtain ⟨L₁, outs₁, r, he, hin₁, hr⟩ : ∃ L' outs' r,
          Learner.handle_2b app L v = (L', outs', r) ∧
          (r = .ok () → InOrder app L' (outs ++ outs') ∧ Roomy app L') ∧
          (1 ≤ v.fields.inst → (r = .ok () ↔ FarQuorate n app.depth ms v.message)) := by
        by_cases hc : Completes n ms v.message
        · exact h.decides hin hroomy hone.of_append_left hc (inst_lt_of_read2b hpkt) hok₁
        · obtain ⟨L₁, he, hin₁, hroomy₁⟩ := h.waits hin hone.of_append_left hc
          exact ⟨L₁, [], .ok (), he, fun _ => ⟨by simpa using hin₁, hroomy₁ hroomy⟩,
            fun _ => ⟨fun _ hc' => absurd hc' hc, fun _ => rfl⟩⟩
      rw [Learner.handleAll, handle_pkt_of_read2b app L hpkt, he]
      rcases r with e | _
      · refine ⟨L₁, [outs₁], .error e, rfl, by simp, fun hpos => ?_⟩
        have hraised := hr (hpos v List.mem_cons_self)
        exact iff_of_false (by simp) fun hnear => absurd (hraised.mpr hnear.1) (by simp)
      · have hfed := h.handle_2b hone.of_append_left (inst_lt_of_read2b hpkt)
        rw [he] at hfed
        obtain ⟨L₂, trace, r, hrest, hin₂, hr₂⟩ := ih hfed (hin₁ rfl).1 (hin₁ rfl).2 hpkts
          hone hok
        refine ⟨L₂, outs₁ :: trace, r, ?_, fun hrok => ?_, fun hpos => ?_⟩
        · dsimp only
          rw [hrest]
        · simpa using hin₂ hrok
        · rw [hr₂ fun w hw => hpos w (List.mem_cons_of_mem _ hw),
            and_iff_right ((hr (hpos v List.mem_cons_self)).mp rfl)]

/-! ## Convergence -/

/-- A replica has not delivered more than another one with the same log. -/
lemma InOrder.min_le {L' : Learner σ} {outs' : List (Out Cmd)} (h : InOrder app L outs)
    (h' : InOrder app L' outs') (hlogs : L.learner.logs = L'.learner.logs) :
    L.minUncommitedIndex ≤ L'.minUncommitedIndex := by
  by_contra hlt
  have hsome := h.logged L'.minUncommitedIndex h'.min_pos (Nat.lt_of_not_le hlt)
  rw [hlogs, h'.gap] at hsome
  cases hsome

/-- The deliveries are read off the log. -/
lemma InOrder.deliveries_view (h : InOrder app L outs) :
    (deliveries outs).map (Prod.map id some) =
      (List.range' 1 (L.minUncommitedIndex - 1)).map fun i =>
        (i, (L.learner.logs i).bind fun v => (app.loads v).toOption) := by
  rw [← h.order, List.map_map]
  refine List.map_congr_left fun call hcall => ?_
  obtain ⟨v, hlog, hload⟩ := h.commands call hcall
  simp [hlog, hload, Except.toOption, Prod.map]

/-- Replicas with the same log have delivered the same commands in the same order. -/
lemma InOrder.deliveries_eq {L' : Learner σ} {outs' : List (Out Cmd)} (h : InOrder app L outs)
    (h' : InOrder app L' outs') (hlogs : L.learner.logs = L'.learner.logs) :
    deliveries outs = deliveries outs' := by
  have hmin : L.minUncommitedIndex = L'.minUncommitedIndex :=
    (h.min_le h' hlogs).antisymm (h'.min_le h hlogs.symm)
  have hinj : Function.Injective (Prod.map (id : ℕ → ℕ) (some : Cmd → Option Cmd)) :=
    Function.injective_id.prodMap (Option.some_injective Cmd)
  refine List.map_injective_iff.mpr hinj ?_
  rw [h.deliveries_view, h'.deliveries_view, hmin, hlogs]

/-- A fresh replica takes in all its votes exactly if they are near enough; then its log is that of
the votes, and deliveries are in order. -/
lemma handleAll_settles (addr : String) (port : ℕ) {pkts : List Pkt} {vs : List Vote2b}
    (hpkts : pkts.map read2b = vs.map some) (hpos : ∀ v ∈ vs, 1 ≤ v.fields.inst)
    (hone : OneBallot (vs.map Vote2b.message)) (hok : ∀ v ∈ vs, Accepts app v.message.val) (n : ℕ)
    (a₀ : σ) : ∃ L trace r, Learner.handleAll app (new n addr port a₀) pkts = (L, trace, r) ∧
      (r = .ok () ↔ NearVotes n app.depth (vs.map Vote2b.message)) ∧
      (r = .ok () → InOrder app L trace.flatten ∧
        Fed app n a₀ (vs.map Vote2b.message) L trace.flatten) := by
  obtain ⟨L, trace, r, he, hin, hr⟩ := (fed_new app n addr port a₀).settles
    (inOrder_new app n addr port a₀) (roomy_new app n addr port a₀) hpkts hone (by simpa using hok)
  obtain ⟨fed, -, hall, hfed⟩ := (fed_new app n addr port a₀).handleAll hpkts hone he
  refine ⟨L, trace, r, he, hr hpos, fun hreturns => ⟨(hin hreturns).1, ?_⟩⟩
  rw [← hall hreturns]
  exact hfed

/-- **Convergence**, for any application that accepts the commands. A run returns exactly if its
votes are near. After two runs that return, the same votes have logged the same values, a replica
has delivered its log up to the first gap, and the state is what the handler makes of the
deliveries. -/
lemma replicas_agree_iff (addr addr' : String) (port port' : ℕ) {pkts pkts' : List Pkt}
    {vs vs' : List Vote2b} (hpkts : pkts.map read2b = vs.map some)
    (hpkts' : pkts'.map read2b = vs'.map some) (hpos : ∀ v ∈ vs ++ vs', 1 ≤ v.fields.inst)
    (hone : OneBallot ((vs ++ vs').map Vote2b.message))
    (hsame : ∀ i, senders i (vs.map Vote2b.message) = senders i (vs'.map Vote2b.message))
    (hok : ∀ v ∈ vs ++ vs', Accepts app v.message.val) (n : ℕ) (a₀ : σ) :
    (∃ L trace L' trace',
      Learner.handleAll app (new n addr port a₀) pkts = (L, trace, .ok ()) ∧
      Learner.handleAll app (new n addr' port' a₀) pkts' = (L', trace', .ok ()) ∧
      L.learner.logs = L'.learner.logs ∧
      deliveries trace.flatten = deliveries trace'.flatten ∧ L.app = L'.app) ↔
      NearVotes n app.depth (vs.map Vote2b.message) ∧
        NearVotes n app.depth (vs'.map Vote2b.message) := by
  rw [List.map_append] at hone
  rw [List.forall_mem_append] at hpos hok
  obtain ⟨L, trace, r, he, hr, hall⟩ := handleAll_settles addr port hpkts hpos.1
    hone.of_append_left hok.1 n a₀
  obtain ⟨L', trace', r', he', hr', hall'⟩ := handleAll_settles addr' port' hpkts' hpos.2
    hone.of_append_right hok.2 n a₀
  rw [he, he', ← hr, ← hr']
  constructor
  · rintro ⟨L₁, trace₁, L₂, trace₂, h₁, h₂, -⟩
    cases h₁
    cases h₂
    exact ⟨rfl, rfl⟩
  · rintro ⟨rfl, rfl⟩
    obtain ⟨hin, hfed⟩ := hall rfl
    obtain ⟨hin', hfed'⟩ := hall' rfl
    have hlogs : L.learner.logs = L'.learner.logs := by
      rw [hfed.learner, hfed'.learner]
      exact logs_eq_of_same_votes n hone hsame
    have hdel := hin.deliveries_eq hin' hlogs
    exact ⟨L, trace, L', trace', rfl, rfl, hlogs, hdel, by rw [hfed.state, hfed'.state, hdel]⟩

/-- **Replica convergence.** Two fresh replicas with the same number of acceptors, before databases,
receive sequences of 2B packets that hold the same votes, as pairs of an instance from 1 on and an
acceptor, with one round and one message for each instance; the messages are JSON texts of commands
that do not make `execute` raise. The packets come in whatever orders and with whatever repetitions.
Every call returns, and in the end the logs, the delivered commands with their order, and the
databases are equal, exactly if in both sequences a vote that completes the quorum of an instance
comes after the quorums of all instances that are more than the interpreter's depth before it. -/
theorem databases_converge_iff (loads : Bytes → Except PyExc Json) (text : Json → Bytes)
    (depth n : ℕ) (addr addr' : String) (port port' : ℕ) (pkts pkts' : List Pkt)
    (vs vs' : List Vote2b) (hpkts : pkts.map read2b = vs.map some)
    (hpkts' : pkts'.map read2b = vs'.map some) (hpos : ∀ v ∈ vs ++ vs', 1 ≤ v.fields.inst)
    (hone : OneBallot ((vs ++ vs').map Vote2b.message))
    (hsame : ∀ i a, (∃ v ∈ vs, v.fields.inst = i ∧ v.fields.acceptor_id = a) ↔
      ∃ v ∈ vs', v.fields.inst = i ∧ v.fields.acceptor_id = a)
    (hexec : ∀ v ∈ vs ++ vs', ∃ cmd, loads v.message.val = .ok cmd ∧
      (SimpleDatabase.execute text SimpleDatabase.new cmd).2.2 = none) :
    (∃ L trace L' trace',
      handleAll (simpleDatabase loads text depth) (new n addr port SimpleDatabase.new) pkts =
        (L, trace, .ok ()) ∧
      handleAll (simpleDatabase loads text depth) (new n addr' port' SimpleDatabase.new) pkts' =
        (L', trace', .ok ()) ∧
      L.learner.logs = L'.learner.logs ∧
      deliveries trace.flatten = deliveries trace'.flatten ∧ L.app.db = L'.app.db) ↔
      NearVotes n depth (vs.map Vote2b.message) ∧ NearVotes n depth (vs'.map Vote2b.message) := by
  have hsenders : ∀ i, senders i (vs.map Vote2b.message) = senders i (vs'.map Vote2b.message) := by
    intro i
    ext a
    have hview : ∀ us : List Vote2b, a ∈ senders i (us.map Vote2b.message) ↔
        ∃ v ∈ us, v.fields.inst = i ∧ v.fields.acceptor_id = a := by
      intro us
      rw [mem_senders]
      simp [Vote2b.message]
    rw [hview, hview]
    exact hsame i a
  have hok : ∀ v ∈ vs ++ vs', Accepts (simpleDatabase loads text depth) v.message.val :=
    fun v hv => accepts_of_executes (hexec v hv)
  have hagree := replicas_agree_iff addr addr' port port' hpkts hpkts' hpos hone hsenders hok n
    SimpleDatabase.new
  refine Iff.trans ⟨?_, ?_⟩ hagree
  · rintro ⟨L, trace, L', trace', he, he', hlogs, hdel, hdb⟩
    exact ⟨L, trace, L', trace', he, he', hlogs, hdel, congrArg SimpleDatabase.mk hdb⟩
  · rintro ⟨L, trace, L', trace', he, he', hlogs, hdel, happ⟩
    exact ⟨L, trace, L', trace', he, he', hlogs, hdel, congrArg SimpleDatabase.db happ⟩

end Learner

/-- `{"action": "put", "key": ["k"], "value": ["v"]}` -/
def putText : Bytes :=
  [123, 34, 97, 99, 116, 105, 111, 110, 34, 58, 32, 34, 112, 117, 116, 34, 44, 32, 34, 107, 101,
   121, 34, 58, 32, 91, 34, 107, 34, 93, 44, 32, 34, 118, 97, 108, 117, 101, 34, 58, 32, 91, 34,
   118, 34, 93, 125]

/-- `{"action": "get", "key": ["k"]}` -/
def getText : Bytes :=
  [123, 34, 97, 99, 116, 105, 111, 110, 34, 58, 32, 34, 103, 101, 116, 34, 44, 32, 34, 107, 101,
   121, 34, 58, 32, 91, 34, 107, 34, 93, 125]

/-- What `json.loads` does with the two texts. -/
def loadsTexts (text : Bytes) : Except PyExc Json :=
  if text = putText then
    .ok (.obj [("action", .str "put"), ("key", .arr [.str "k"]), ("value", .arr [.str "v"])])
  else if text = getText then .ok (.obj [("action", .str "get"), ("key", .arr [.str "k"])])
  else .error .ValueError

/-- A vote in round 0 for a text. -/
def voteFor (inst acceptor : ℕ) (text : Bytes) : Vote2b where
  fields := { typ := PHASE_2B, inst := inst, rnd := 0, vrnd := 0, acceptor_id := acceptor,
              req_id := 1, value := padTo (VALUE_SIZE - 1) text }
  src := "10.0.0.1"
  udp := some (34951, 34952)

/-- The packet of a vote. -/
def Vote2b.pkt (v : Vote2b) : Pkt where
  ip := some (0x11, v.src)
  udp := v.udp
  raw := (pack v.fields).toOption

/-- `str(None)`: no other value that is not a text is read in the runs below. -/
def noneText : Json → Bytes := fun _ => [78, 111, 110, 101]

/-- Two of three acceptors vote for a put and then a get; another replica sees the second instance
first, and a repetition. -/
theorem databases_converge_two : ∃ L trace L' trace',
    Learner.handleAll (simpleDatabase loadsTexts noneText recursionLimit)
        (Learner.new 3 "224.3.29.73" 34952 SimpleDatabase.new)
        [(voteFor 1 0 putText).pkt, (voteFor 1 1 putText).pkt, (voteFor 2 0 getText).pkt,
          (voteFor 2 2 getText).pkt] = (L, trace, .ok ()) ∧
      Learner.handleAll (simpleDatabase loadsTexts noneText recursionLimit)
        (Learner.new 3 "224.3.29.74" 34952 SimpleDatabase.new)
        [(voteFor 2 2 getText).pkt, (voteFor 2 0 getText).pkt, (voteFor 1 1 putText).pkt,
          (voteFor 2 2 getText).pkt, (voteFor 1 0 putText).pkt] = (L', trace', .ok ()) ∧
      L.learner.logs = L'.learner.logs ∧
      Learner.deliveries trace.flatten = Learner.deliveries trace'.flatten ∧
      L.app.db = L'.app.db := by
  have hnear : ∀ vs : List Vote2b, (∀ v ∈ vs, v.fields.inst ≤ 2) →
      Learner.NearVotes 3 recursionLimit (vs.map Vote2b.message) := by
    intro vs hvs before m after hsplit _ j hj hfar
    have hm : m ∈ vs.map Vote2b.message := by
      rw [hsplit]
      simp
    obtain ⟨v, hv, rfl⟩ := List.mem_map.mp hm
    have hinst : v.fields.inst ≤ 2 := hvs v hv
    have hlimit : recursionLimit = 1000 := rfl
    rw [Vote2b.inst_message] at hfar
    omega
  apply (Learner.databases_converge_iff loadsTexts noneText recursionLimit 3 "224.3.29.73"
    "224.3.29.74" 34952 34952 _ _
    [voteFor 1 0 putText, voteFor 1 1 putText, voteFor 2 0 getText, voteFor 2 2 getText]
    [voteFor 2 2 getText, voteFor 2 0 getText, voteFor 1 1 putText, voteFor 2 2 getText,
      voteFor 1 0 putText] ?_ ?_ ?_ ?_ ?_ ?_).mpr ⟨hnear _ (by decide), hnear _ (by decide)⟩
  · decide +kernel
  · decide +kernel
  · decide
  · unfold OneBallot
    decide +kernel
  · intro i a
    simp only [List.mem_cons, List.not_mem_nil, or_false]
    constructor <;> rintro ⟨v, hv, h⟩ <;> exact ⟨v, by tauto, h⟩
  · intro v hv
    fin_cases hv
    all_goals exact ⟨_, rfl, rfl⟩

/-- A replica of one acceptor before a database that receives the votes. -/
def oneAcceptor (vs : List Vote2b) :
    Learner SimpleDatabase × List (List (Out Json)) × Except PyExc Unit :=
  Learner.handleAll (simpleDatabase loadsTexts noneText recursionLimit)
    (Learner.new 1 "224.3.29.73" 34952 SimpleDatabase.new) (vs.map Vote2b.pkt)

/-- Instances 1 and 1002 are decided: a replica that hears of the second one first raises on it, and
never takes in the other. -/
theorem order_matters : ¬ ∀ (vs vs' : List Vote2b),
    (vs.map Vote2b.pkt).map read2b = vs.map some → (vs'.map Vote2b.pkt).map read2b = vs'.map some →
    (∀ v ∈ vs ++ vs', 1 ≤ v.fields.inst) → OneBallot ((vs ++ vs').map Vote2b.message) →
    (∀ v, v ∈ vs ↔ v ∈ vs') →
    (∀ v ∈ vs ++ vs', ∃ cmd, loadsTexts v.message.val = .ok cmd ∧
      (SimpleDatabase.execute noneText SimpleDatabase.new cmd).2.2 = none) →
    (oneAcceptor vs).1.learner.logs = (oneAcceptor vs').1.learner.logs := by
  intro h
  have hlogs := h [voteFor 1 0 putText, voteFor 1002 0 putText]
    [voteFor 1002 0 putText, voteFor 1 0 putText] (by decide +kernel) (by decide +kernel)
    (by decide) (by unfold OneBallot; decide +kernel) (by simp [or_comm]) (by
      intro v hv
      fin_cases hv
      all_goals exact ⟨_, rfl, rfl⟩)
  have hone := congrFun hlogs 1
  have hfirst : (oneAcceptor [voteFor 1 0 putText, voteFor 1002 0 putText]).1.learner.logs 1 =
      some putText := by
    decide +kernel
  have hsecond : (oneAcceptor [voteFor 1002 0 putText, voteFor 1 0 putText]).1.learner.logs 1 =
      none := by
    decide +kernel
  rw [hfirst, hsecond] at hone
  cases hone

end P4xos.Bmv2
