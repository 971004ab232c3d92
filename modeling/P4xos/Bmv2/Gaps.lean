import P4xos.Bmv2.Recovery
import P4xos.Bmv2.Responses
import P4xos.Bmv2.Runs

/-!
# What recovery makes of a value

A replica that recovers an instance reads the value fields of the promises as a request id and a
message, and packs the message again, under the request id 10.

* `valueField_payload_iff`: packing gives a value field back exactly if its request id is 10 and its
  message does not end in a character that is stripped (`Reencodes`).
* `reproposed_iff`: so the acceptors store the value that was reported again exactly if it is such a
  one. It holds in every state that a replica reaches, whatever packets have come.
* `gap_never_passed`: the value of an instance without votes is the empty message, which
  `json.loads` rejects. A replica that has decided such an instance when its turn has come stops, so
  the log never gets past it.

For the last result `Gap` is the invariant of a run in which no acceptor votes for the coordinator's
proposal (`NoVote`): acceptors, network and logs have only the empty message for the instance, and
no replica is past it. A packet at an acceptor keeps it (`Gap.ingress`), so does one at a replica
(`Held.handle_pkt`, `Gap.toReplica`), and so does a run (`gap_reach`).
-/

namespace P4xos.Bmv2

open P4xos.Lib P4xos.P4v14

variable {ρ σ Cmd : Type*}

/-! ## Values that were voted for -/

/-- **The condition on a value field**: its request id is the one that recovery uses, and the last
of the other bytes that is not zero, if there is one, is not stripped. -/
def Reencodes (w : BitVec 512) : Prop :=
  requestId w = 10 ∧ ∀ b ∈ (rstrip [0] ((fieldBytes w).drop 1)).getLast?, b ∉ stripChars

/-- Two bytes are looked at. -/
instance (w : BitVec 512) : Decidable (Reencodes w) := inferInstanceAs (Decidable (_ ∧ _))

/-- A value field is its request id and the bytes of its message. -/
lemma fieldBytes_eq (w : BitVec 512) :
    fieldBytes w = beEncode 1 (requestId w) ++ (fieldBytes w).drop 1 := by
  have hlen : ((fieldBytes w).take 1).length = 1 := by simp
  have hid := beEncode_beDecode ((fieldBytes w).take 1)
  rw [hlen] at hid
  rw [requestId, hid, List.take_append_drop]

/-- The bytes of a field determine it. -/
lemma fieldBytes_inj {v w : BitVec 512} (h : fieldBytes v = fieldBytes w) : v = w := by
  rw [← ofNat_beDecode_beEncode (n := 64) rfl v, ← ofNat_beDecode_beEncode (n := 64) rfl w]
  exact congrArg (fun b => BitVec.ofNat 512 (beDecode b)) h

/-- **Packing the message of a value field** gives the field back exactly under the condition. The
message is packed behind request id 10 and filled with zeros. So the id has to be 10, and what
stripping takes off the field has to be zeros. -/
lemma valueField_payload_iff (w : BitVec 512) : valueField 10 (payload w) = w ↔ Reencodes w := by
  have hlen : ((fieldBytes w).drop 1).length = VALUE_SIZE - 1 := by simp [VALUE_SIZE]
  have hid : requestId w < 256 := by
    have hlt := beDecode_lt ((fieldBytes w).take 1)
    simpa [requestId] using hlt
  have hstrip : (0 : UInt8) ∈ stripChars := by decide
  have hpad := padTo_rstrip_iff hstrip ((fieldBytes w).drop 1)
  rw [hlen] at hpad
  have hfield : valueField 10 (payload w) = w ↔
      beEncode 1 10 ++ padTo (VALUE_SIZE - 1) (payload w) =
        beEncode 1 (requestId w) ++ (fieldBytes w).drop 1 := by
    rw [← fieldBytes_eq]
    constructor
    · intro h
      rw [← congrArg fieldBytes h, fieldBytes_valueField]
      rfl
    · intro h
      exact fieldBytes_inj (by rw [fieldBytes_valueField]; exact h)
  rw [hfield, Reencodes, ← hpad]
  constructor
  · intro h
    obtain ⟨hhead, htail⟩ := List.append_inj h (by simp)
    refine ⟨?_, htail⟩
    have hten := congrArg beDecode hhead
    rw [beDecode_beEncode_of_lt (by decide), beDecode_beEncode_of_lt (by simpa using hid)] at hten
    exact hten.symm
  · rintro ⟨hten, htail⟩
    rw [hten]
    exact congrArg _ htail

/-- A promise that completes a quorum leads to one 2A, and the call returns. What is sent is packed
from the promise, and the invariant says that `handle_p1b` returns the instance and the round of it.
-/
lemma handle_pkt_recovers (app : Application σ Cmd) {L : Learner σ} {p : PaxosT}
    {R : PaxosMessage Bytes → Prop} (hinv : PaxosLearner.PromiseInv R L.learner)
    (h1b : p.msgtype = PAXOS_1B) (hquorum : L.learner.CompletesQuorum (message p)) (src : String)
    (sport dport : ℕ) : ∃ L' outs,
      L.handle_pkt app (sniffed p src sport dport) = (L', outs, .ok ()) ∧
        sent outs = [recovered p] := by
  have h2b : p.msgtype ≠ PAXOS_2B := by
    rw [h1b]
    decide
  rw [handle_pkt_sniffed, if_neg h2b, if_pos h1b]
  rcases hcall : L.learner.handle_p1b (message p) with ⟨learner, _ | res⟩
  · exact absurd hquorum (PaxosLearner.not_completesQuorum_of_none hcall)
  · obtain ⟨-, rfl⟩ := hinv.returns hcall
    obtain ⟨msg, hmsg, hextract⟩ := make_paxos_recovered p
    refine ⟨{ L with learner := learner }, [.sendMsg msg L.learner_addr L.learner_port], ?_, ?_⟩
    · simp only [message, hmsg]
    · simp [sent, hextract]

/-- An acceptor that votes for a 2A stores its value. -/
lemma values_register_of_2a {B : Acceptor} {m : PaxosT} (ht : m.msgtype = PAXOS_2A)
    (hr : B.read_round m ≤ m.round) :
    (B.ingress m).1.values_register.read m.inst.toNat = m.value := by
  rw [Acceptor.ingress_2a ht hr]
  exact Register.read_write_self _ m.inst_lt _

/-- **Recovery re-proposes a reported value exactly under the condition.** In every state a replica
reaches, let a promise complete a quorum with the value in the acceptor's register. The replica
sends one 2A, for the same instance and round; its value field, and what any acceptor that votes for
it stores, is the reported value if and only if the condition holds. -/
theorem reproposed_iff (app : Application σ Cmd) (n : ℕ) (addr : String) (port : ℕ) (a : σ)
    (pkts : List Pkt) (L : Learner σ) (trace : List (List (Out Cmd)))
    (hrun : Learner.handleAll app (Learner.new n addr port a) pkts = (L, trace, .ok ()))
    (A : Acceptor) (q p : PaxosT) (hq : q.msgtype = PAXOS_1A) (hp : (A.ingress q).2 = some p)
    (hquorum : L.learner.CompletesQuorum (message p)) (src : String) (sport dport : ℕ) :
    ∃ L' outs m, L.handle_pkt app (sniffed p src sport dport) = (L', outs, .ok ()) ∧
      sent outs = [m] ∧ m.msgtype = PAXOS_2A ∧ m.inst = q.inst ∧ m.round = q.round ∧
      (m.value = A.values_register.read q.inst.toNat ↔
        Reencodes (A.values_register.read q.inst.toNat)) ∧
      ∀ B : Acceptor, B.read_round m ≤ m.round →
        ((B.ingress m).1.values_register.read q.inst.toNat =
            A.values_register.read q.inst.toNat ↔
          Reencodes (A.values_register.read q.inst.toNat)) := by
  obtain ⟨h1b, hinst, hround, hvalue⟩ : p.msgtype = PAXOS_1B ∧ p.inst = q.inst ∧
      p.round = q.round ∧ p.value = A.values_register.read q.inst.toNat := by
    rw [Acceptor.ingress_1a hq (Acceptor.ingress_out hp).2.2] at hp
    cases hp
    exact ⟨rfl, rfl, rfl, rfl⟩
  have hsound := Learner.sound_handleAll app n addr port a pkts
  rw [hrun] at hsound
  obtain ⟨L', outs, hcall, hsent⟩ :=
    handle_pkt_recovers app hsound.promises h1b hquorum src sport dport
  have hiff : (recovered p).value = A.values_register.read q.inst.toNat ↔
      Reencodes (A.values_register.read q.inst.toNat) := by
    rw [recovered, hvalue]
    exact valueField_payload_iff _
  refine ⟨L', outs, recovered p, hcall, hsent, rfl, hinst, hround, hiff, fun B hB => ?_⟩
  have hstored := values_register_of_2a (m := recovered p) rfl hB
  rw [show (recovered p).inst = q.inst from hinst] at hstored
  rw [hstored]
  exact hiff

/-- An acceptor that has voted for a value in round 0 of instance 1. -/
def votedFor (a : Fin 3) (w : BitVec 512) : Acceptor :=
  ((Acceptor.init (datapathId a)).ingress ⟨PAXOS_2A, 1, 0, 0, 0, w⟩).1

/-- What an acceptor that has voted answers when instance 1 is asked for, as replicas sniff it. -/
def report (a : Fin 3) (w : BitVec 512) : Option Pkt :=
  ((votedFor a w).ingress (asked 1)).2.map fun p => sniffed p "10.0.0.1" 34953 34952

/-- A value with request id 10 is re-proposed as it is. The field's first byte is 10, which is the
request id that `make_paxos` writes. -/
theorem reproposed_ten : ∃ L outs m,
    (Learner.handleAll numbers (Learner.new 3 "224.3.29.72" 34952 [])
      (report 0 (valueField 10 [49])).toList).1.handle_pkt numbers
        (sniffed (promise 1 (valueField 10 [49])) "10.0.0.1" 34953 34952) = (L, outs, .ok ()) ∧
      sent outs = [m] ∧ m.value = valueField 10 [49] := by
  have hread : (votedFor 1 (valueField 10 [49])).values_register.read (asked 1).inst.toNat =
      valueField 10 [49] := by
    decide +kernel
  obtain ⟨L, outs, m, hcall, hsent, -, -, -, hvalue, -⟩ := reproposed_iff numbers 3 "224.3.29.72"
    34952 [] (report 0 (valueField 10 [49])).toList _ _ rfl (votedFor 1 (valueField 10 [49]))
    (asked 1) (promise 1 (valueField 10 [49])) rfl (by decide +kernel) (by decide +kernel)
    "10.0.0.1" 34953 34952
  rw [hread] at hvalue
  exact ⟨L, outs, m, hcall, hsent, hvalue.mpr (by decide +kernel)⟩

/-- The first request of a client is re-proposed with another request id. -/
theorem reproposed_other : ¬ ∀ w : BitVec 512, ∀ m ∈ sent (Learner.handleAll numbers
    (Learner.new 3 "224.3.29.72" 34952 []) ([0, 1].filterMap fun a => report a w)).2.1.flatten,
      m.msgtype = PAXOS_2A → m.value = w := by
  intro h
  have hmem : recovered (promise 1 (valueField 1 [49])) ∈ sent (Learner.handleAll numbers
      (Learner.new 3 "224.3.29.72" 34952 [])
      ([0, 1].filterMap fun a => report a (valueField 1 [49]))).2.1.flatten := by
    decide +kernel
  have hne : (recovered (promise 1 (valueField 1 [49]))).value ≠ valueField 1 [49] := by
    decide +kernel
  exact hne (h _ _ hmem rfl)

/-! ## Instances without votes -/

/-- The condition on a step: no acceptor votes for the instance in the round of the coordinator. All
other votes are for what a replica proposes when it recovers the instance. -/
def NoVote (i : BitVec 16) (s : System ρ σ Cmd) : Action ρ → Prop
  | .toAcceptor a p => p.msgtype = PAXOS_2A → p.inst = i → p.round = 0 →
      ¬ (s.acceptors a).read_round p ≤ p.round
  | _ => True

/-- The registers of an acceptor are read. -/
instance (i : BitVec 16) (s : System ρ σ Cmd) : DecidablePred (NoVote i s)
  | .request _ _ => inferInstanceAs (Decidable True)
  | .toAcceptor _ _ => inferInstanceAs (Decidable (_ → _ → _ → ¬ _))
  | .toReplica _ _ _ _ _ => inferInstanceAs (Decidable True)

/-- A packet of the instance is empty, unless it comes from the coordinator. -/
def Blank (i : BitVec 16) (p : PaxosT) : Prop :=
  p.inst = i → p.msgtype ≠ PAXOS_1A → ¬ (p.msgtype = PAXOS_2A ∧ p.round = 0) → payload p.value = []

/-- The replica is not past the instance, and if it has decided it when its turn has come, it has
stopped. -/
def Held (i : ℕ) (R : Replica σ Cmd) : Prop :=
  R.learner.minUncommitedIndex ≤ i ∧
    (R.learner.minUncommitedIndex = i → (R.learner.learner.logs i).isSome → R.running = false)

/-- **The invariant** of an instance without votes: what the acceptors store for it, and what the
network and the logs have of it, is empty. -/
structure Gap (i : BitVec 16) (s : System ρ σ Cmd) : Prop where
  stored : ∀ a, payload ((s.acceptors a).values_register.read i.toNat) = []
  net : ∀ p ∈ s.net, Blank i p
  sound : ∀ r, (s.replicas r).learner.Sound
  held : ∀ r, Held i.toNat (s.replicas r)

/-- A packet at an acceptor. A promise carries what is stored, and a vote what the 2A carries; a 2A
of round 0 is not voted for (`NoVote`), and one of a higher round comes from a replica and is blank.
-/
lemma Gap.ingress {i : BitVec 16} {s : System ρ σ Cmd} (h : Gap i s) {a : Fin 3} {p : PaxosT}
    (hp : p ∈ s.net) (hP : NoVote i s (.toAcceptor a p)) :
    payload (((s.acceptors a).ingress p).1.values_register.read i.toNat) = [] ∧
      ∀ q, ((s.acceptors a).ingress p).2 = some q → Blank i q := by
  rcases (s.acceptors a).ingress_cases p with
    ⟨-, -, he⟩ | ⟨h2a, hr, he⟩ | ⟨-, -, -, he⟩ | ⟨-, he⟩ <;> rw [he]
  · refine ⟨h.stored a, fun q hq => ?_⟩
    cases hq
    rintro rfl - -
    exact h.stored a
  · -- the round of a 2A that is voted for is not 0, so it comes from a replica
    have hempty : p.inst = i → payload p.value = [] := fun hi =>
      h.net p hp hi (by rw [h2a]; decide) fun hround => hP h2a hi hround.2 hr
    refine ⟨?_, fun q hq => ?_⟩
    · by_cases hi : p.inst = i
      · have hread := Register.read_write_self (s.acceptors a).values_register p.inst_lt p.value
        rw [hi] at hread
        simp only [Acceptor.handle_2a, hi, hread]
        exact hempty hi
      · have hne : i.toNat ≠ p.inst.toNat := fun heq => hi (BitVec.toNat_inj.mp heq.symm)
        simp only [Acceptor.handle_2a, Register.read_write_of_ne _ hne]
        exact h.stored a
    · cases hq
      exact fun hi _ _ => hempty hi
  · refine ⟨h.stored a, fun q hq => ?_⟩
    cases hq
    exact h.net p hp
  · refine ⟨h.stored a, fun q hq => ?_⟩
    cases hq

/-- A promise or a vote of the instance. -/
lemma Blank.payload_eq {i : BitVec 16} {p : PaxosT} (h : Blank i p) (hi : p.inst = i)
    (ht : p.msgtype = PAXOS_1B ∨ p.msgtype = PAXOS_2B) : payload p.value = [] := by
  apply h hi
  · rcases ht with ht | ht <;> rw [ht] <;> decide
  · rintro ⟨h2a, -⟩
    rcases ht with ht | ht <;> rw [ht] at h2a <;> exact absurd h2a (by decide)

/-- What the log of a replica has for the instance. -/
lemma Heard.logged_blank {i : BitVec 16} {net : List PaxosT} {L : PaxosLearner Bytes}
    (h : Heard net L) (hnet : ∀ p ∈ net, Blank i p) {v : Bytes} (hv : L.logs i.toNat = some v) :
    v = [] := by
  obtain ⟨st, -, -, hbacked, -, hval⟩ := h.votes.logged_backed hv
  obtain ⟨m, ⟨p, hp, h2b, rfl⟩, hinst, -, hm⟩ := hbacked.val
  rw [hval, Option.some.injEq] at hm
  rw [hm]
  exact (hnet p hp).payload_eq (BitVec.toNat_inj.mp hinst) (.inr h2b)

section held

variable {app : Application σ Cmd} {i : ℕ} {L : Learner σ}

/-- Nothing that is delivered is the command of a blank instance. -/
lemma min_le_of_blank (hloads : app.loads [] = .error .ValueError) {L' : Learner σ}
    {outs : List (Out Cmd)} (h : Learner.Replays app L L' outs) (hmin : L.minUncommitedIndex ≤ i)
    (hempty : ∀ v, L.learner.logs i = some v → v = []) : L'.minUncommitedIndex ≤ i := by
  by_contra hlt
  have hmem : i ∈ (Learner.executed app L.app (Learner.deliveries outs)).map Prod.fst := by
    rw [h.passed, List.mem_range'_1]
    omega
  obtain ⟨⟨j, result⟩, hexec, rfl⟩ := List.mem_map.mp hmem
  obtain ⟨c, hc⟩ := Learner.mem_of_mem_executed hexec
  obtain ⟨v, hlog, hload⟩ := h.logged _ hc
  rw [hempty v hlog, hloads] at hload
  cases hload

/-- What follows a decision, at a replica that is not past the instance. The recursion delivers
nothing blank, so it stops at the instance, if not before. When it is the next one and is logged,
what stopped the recursion there was the exception of `loads`, which nobody catches, or the stack,
and the replica has stopped. -/
lemma held_deliverDecision (hloads : app.loads [] = .error .ValueError)
    (hmin : L.minUncommitedIndex ≤ i) (hempty : ∀ v, L.learner.logs i = some v → v = [])
    (inst : ℕ) (hbound : ∀ j v, L.learner.logs j = some v → j ≤ max L.maxInstance inst)
    (req_id : ℕ) (src : String) (udp : Option (ℕ × ℕ)) (outs : List (Out Cmd)) :
    Held i ⟨(Learner.deliverDecision app L inst req_id src udp).1,
      (Learner.deliverDecision app L inst req_id src udp).2.2.toBool, outs⟩ := by
  have hreplays := Learner.deliverDecision_replays app L inst req_id src udp
  refine ⟨min_le_of_blank hloads hreplays hmin hempty, fun hnext hsome => ?_⟩
  obtain ⟨v, hv⟩ := Option.isSome_iff_exists.mp hsome
  dsimp only at hnext hv ⊢
  rcases Nat.lt_or_ge inst L.minUncommitedIndex with hlt | hge
  · obtain ⟨L', hcall⟩ := Learner.deliverDecision_of_lt app hlt req_id src udp
    rw [hcall]
    rfl
  · have hlog : L.learner.logs i = some v := by rwa [hreplays.learner] at hv
    rcases Learner.deliverDecision_stops app hge req_id src udp with
      hdeep | hmax | hnone | ⟨w, e, hw, hfail, he⟩
    · rw [hdeep]
      rfl
    · have hle := hbound i v hlog
      rw [hreplays.maxInstance, hnext] at hmax
      exact absurd hmax (Nat.not_lt.mpr hle)
    · rw [hnext, hv] at hnone
      cases hnone
    · -- the command does not parse, and the exception is neither of the two that are caught
      rw [hnext, hv, Option.some.injEq] at hw
      rw [← hw, hempty v hlog] at hfail
      have hvalue : e = .ValueError := by
        rcases hfail with hfail | ⟨c, a, hc, -⟩
        · rw [hloads] at hfail
          exact (Except.error.inj hfail).symm
        · rw [hloads] at hc
          cases hc
      rcases he with he | he | he
      · rw [he]
        rfl
      · rw [hvalue] at he
        cases he
      · rw [hvalue] at he
        cases he

/-- A packet that leaves the log as it is, at a replica that is running. -/
lemma Held.of_logs {R : Replica σ Cmd} (h : Held i R) (hrun : R.running = true) {L' : Learner σ}
    (hmin : L'.minUncommitedIndex = R.learner.minUncommitedIndex)
    (hlogs : L'.learner.logs = R.learner.learner.logs) (running : Bool) (outs : List (Out Cmd)) :
    Held i ⟨L', running, outs⟩ := by
  refine ⟨hmin.trans_le h.1, fun hnext hsome => ?_⟩
  have hstopped := h.2 (hmin.symm.trans hnext) (hlogs ▸ hsome)
  rw [hrun] at hstopped
  cases hstopped

end held

/-- **A packet at a replica.** Only a decision moves the next instance or the log; the other packets
leave both. -/
lemma Held.handle_pkt {app : Application σ Cmd} (hloads : app.loads [] = .error .ValueError)
    {i : BitVec 16} {net : List PaxosT} (hnet : ∀ p ∈ net, Blank i p) {R : Replica σ Cmd}
    (h : Held i.toNat R) (hheard : Heard net R.learner.learner) (hsound : R.learner.Sound)
    (hrun : R.running = true) {p : PaxosT} (hp : p ∈ net) {src : String} {sport dport : ℕ}
    {L : Learner σ} {outs : List (Out Cmd)} {res : Except PyExc Unit}
    (hcall : R.learner.handle_pkt app (sniffed p src sport dport) = (L, outs, res))
    (outs' : List (Out Cmd)) : Held i.toNat ⟨L, res.toBool, outs'⟩ := by
  have hafter := hheard.handle_pkt hp hcall
  cases hv : read2b (sniffed p src sport dport) with
  | none =>
      have huntouched := Learner.handle_pkt_of_not_read2b app R.learner hv
      rw [hcall] at huntouched
      exact h.of_logs hrun huntouched.minUncommitedIndex huntouched.logs _ _
  | some v =>
      rw [Learner.handle_pkt_of_read2b app R.learner hv] at hcall
      rcases Learner.handle_2b_cases app R.learner v with
        ⟨-, he⟩ | ⟨-, -, learner, hvote, he⟩ | ⟨-, -, learner, hvote, he⟩ <;> rw [he] at hcall
      · cases hcall
        exact h.of_logs hrun rfl rfl _ _
      · cases hcall
        exact h.of_logs hrun (by rfl) (PaxosLearner.handle_p2b_logs_of_none hvote) _ _
      · have hreplays := Learner.deliverDecision_replays app
          { R.learner with learner := learner } v.fields.inst v.fields.req_id v.src v.udp
        rw [hcall] at hreplays
        rw [hreplays.learner] at hafter
        have hbound : ∀ j w, learner.logs j = some w →
            j ≤ max R.learner.maxInstance v.fields.inst :=
          fun j w hw => hsound.le_max_of_decides hvote hw
        have hheld := held_deliverDecision (L := { R.learner with learner := learner }) hloads h.1
          (fun w hw => hafter.logged_blank hnet hw) v.fields.inst hbound v.fields.req_id v.src
          v.udp outs'
        rw [hcall] at hheld
        exact hheld

section run

variable [DecidableEq ρ] {app : Application σ Cmd} {a₀ : σ}

/-- A packet at a replica: what it sends for the instance is blank. What a replica sends is a 1A, or
the 2A of a recovery, which carries the message of a blank promise. -/
lemma Gap.toReplica {i : BitVec 16} {s : System ρ σ Cmd} (h : Gap i s) (hwf : WellFormed s)
    (hloads : app.loads [] = .error .ValueError) {r : ρ} {p : PaxosT} (hp : p ∈ s.net)
    (hrun : (s.replicas r).running = true) {src : String} {sport dport : ℕ} {L : Learner σ}
    {outs : List (Out Cmd)} {res : Except PyExc Unit}
    (hcall : (s.replicas r).learner.handle_pkt app (sniffed p src sport dport) = (L, outs, res)) :
    Gap i { s with
      replicas := Function.update s.replicas r ⟨L, res.toBool, (s.replicas r).outs ++ outs⟩
      net := sent outs ++ s.net } := by
  have hsound : ((s.replicas r).learner.handle_pkt app (sniffed p src sport dport)).1.Sound :=
    (h.sound r).handle_pkt _
  rw [hcall] at hsound
  refine ⟨h.stored, fun q hq => ?_, fun r' => ?_, fun r' => ?_⟩
  · rcases List.mem_append.mp hq with hq | hq
    · rcases (hwf.heard r).sent hcall hq with ⟨k, rfl⟩ | ⟨h1b, -, rfl⟩
      · exact fun _ h1a => absurd rfl h1a
      · intro hi _ _
        rw [recovered, payload_valueField_payload]
        exact (h.net p hp).payload_eq hi (.inl h1b)
    · exact h.net q hq
  · by_cases hr : r' = r
    · subst hr
      simpa using hsound
    · simpa [hr] using h.sound r'
  · by_cases hr : r' = r
    · subst hr
      simpa using (h.held r').handle_pkt hloads h.net (hwf.heard r') (h.sound r') hrun hp hcall _
    · simpa [hr] using h.held r'

/-- **The invariant along runs.** A request makes a 2A of round 0, which is no concern of `Blank`; a
packet at an acceptor is `Gap.ingress`, and one at a replica `Gap.toReplica`. -/
lemma gap_reach (hloads : app.loads [] = .error .ValueError) {i : BitVec 16} (hi : 1 ≤ i.toNat)
    {s : System ρ σ Cmd} (h : (system app a₀).Reach (NoVote i) s) : Gap i s := by
  apply h.invariant
  · refine ⟨fun a => ?_, fun p hp => ?_, fun r => Learner.sound_new _ _ _ _, fun r => ⟨hi, ?_⟩⟩
    · rw [← payload_zero]
      exact congrArg payload (Register.read_zero _)
    · simp [system] at hp
    · simp [system, Learner.new, PaxosLearner.new]
  · intro s act t hreach hgap hP hstep
    have hwf := wellFormed_reach hreach
    rcases step_cases hstep with ⟨P, msg, q, -, -, rfl⟩ | ⟨a, p, rfl, hp, rfl⟩ |
      ⟨r, p, src, sport, dport, L, outs, res, -, hp, hrun, hcall, rfl⟩
    · refine ⟨hgap.stored, fun p hp => ?_, hgap.sound, hgap.held⟩
      rcases List.mem_cons.mp hp with rfl | hp
      · exact fun _ _ hround => absurd ⟨rfl, rfl⟩ hround
      · exact hgap.net p hp
    · obtain ⟨hstored, hout⟩ := hgap.ingress hp hP
      refine ⟨fun b => ?_, fun q hq => ?_, hgap.sound, hgap.held⟩
      · by_cases hb : b = a
        · subst hb
          simpa using hstored
        · simpa [hb] using hgap.stored b
      · rcases List.mem_append.mp hq with hq | hq
        · exact hout q (by simpa using hq)
        · exact hgap.net q hq
    · exact hgap.toReplica hwf hloads hp hrun hcall

/-- **A gap without votes is never passed.** In every run in which no acceptor votes for the
instance before it is recovered: no replica gets past the instance, and a replica that has decided
it, when everything before it is delivered, has stopped with an exception. -/
theorem gap_never_passed (app : Application σ Cmd) (hloads : app.loads [] = .error .ValueError)
    (a₀ : σ) (i : BitVec 16) (hi : 1 ≤ i.toNat) (s : System ρ σ Cmd)
    (h : (system app a₀).Reach (NoVote i) s) (r : ρ) :
    (s.replicas r).learner.minUncommitedIndex ≤ i.toNat ∧
      ((s.replicas r).learner.minUncommitedIndex = i.toNat →
        ((s.replicas r).learner.learner.logs i.toNat).isSome → (s.replicas r).running = false) :=
  (gap_reach hloads hi h).held r

/-- Two requests. The acceptors see the second one only; the replica learns it, asks for the first
and recovers it. -/
def lostRequest (r : ρ) (a b : Fin 3) : List (Action ρ) :=
  let second := accept 2 [50]
  let empty := recovered (promise b 0)
  [.request (Proposer.new 0) [49], .request (Proposer.new 0) [50],
    .toAcceptor a second, .toAcceptor b second,
    toReplica r (accepted a second), toReplica r (accepted b second),
    .toAcceptor a (asked 1), .toAcceptor b (asked 1),
    toReplica r (promise a 0), toReplica r (promise b 0),
    .toAcceptor a empty, .toAcceptor b empty,
    toReplica r (accepted a empty), toReplica r (accepted b empty)]

/-- The replica has decided instance 1, as the empty message, and has stopped. -/
lemma exists_stopped : ∃ s : System (Fin 1) (List ℕ) ℕ,
    (system numbers []).Reach (NoVote 1) s ∧ (s.replicas 0).learner.minUncommitedIndex = 1 ∧
      (s.replicas 0).learner.learner.logs 1 = some [] ∧
      ((s.replicas 0).learner.learner.logs 2).isSome := by
  obtain ⟨s, hs, htest⟩ := Machine.Reach.of_exec (M := system (ρ := Fin 1) numbers [])
    (P := NoVote 1) (lostRequest 0 0 1) (fun s => decide (
      (s.replicas 0).learner.minUncommitedIndex = 1 ∧
      (s.replicas 0).learner.learner.logs 1 = some [] ∧
      ((s.replicas 0).learner.learner.logs 2).isSome)) (by decide +kernel)
  obtain ⟨hmin, hlog, hlater⟩ := of_decide_eq_true htest
  exact ⟨s, hs, hmin, hlog, hlater⟩

/-- A replica that has recovered instance 1 and stopped. -/
theorem gap_stops_replica : ∃ s : System (Fin 1) (List ℕ) ℕ,
    (system numbers []).Reach (NoVote 1) s ∧
      (s.replicas 0).learner.learner.logs 1 = some [] ∧ (s.replicas 0).running = false := by
  obtain ⟨s, hs, hmin, hlog, -⟩ := exists_stopped
  exact ⟨s, hs, hlog, (gap_never_passed numbers rfl [] 1 (by decide) s hs 0).2 hmin
    (Option.isSome_iff_exists.mpr ⟨[], hlog⟩)⟩

/-- The replica that has decided instances 1 and 2 does not deliver them. -/
theorem gap_not_passed : ¬ ∀ s : System (Fin 1) (List ℕ) ℕ,
    (system numbers []).Reach (NoVote 1) s → ∀ r,
      ((s.replicas r).learner.learner.logs 1).isSome →
        1 < (s.replicas r).learner.minUncommitedIndex := by
  intro h
  obtain ⟨s, hs, hmin, hlog, -⟩ := exists_stopped
  have hlt := h s hs 0 (Option.isSome_iff_exists.mpr ⟨[], hlog⟩)
  omega

end run

end P4xos.Bmv2
