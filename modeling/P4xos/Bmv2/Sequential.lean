import P4xos.Bmv2.Responses
import P4xos.Lib.Keyed

/-!
# A replica that hears every acceptor in order

Each acceptor's votes reach the replica in the order of their instances, from 1 on and without a
gap; nothing is said of how the votes of different acceptors interleave. Then quorums are completed
in the order of the instances too: no decision is ever out of turn, no gap is seen, and the replica
behaves like a server that executes the requests one after the other (`served`).

* `Sequential.senders_iff`: an acceptor has voted in the instances up to the number of its votes. So
  a quorum in an instance is one in those before (`Sequential.quorate_of_le`).
* `served` is the server: it calls the handler for each request, and sends the text of the result,
  if there is one.
* `Serves`: a replica that has done its work up to a request, and knows of no decision behind it.
* `Serves.step`: a vote is only counted, or the next request is executed and answered.
-/

namespace P4xos.Bmv2

open P4xos.Lib PaxosLearner

variable {σ Cmd V : Type*}

/-! ## Votes in order -/

/-- The number of votes of an acceptor. -/
def heardFrom (a : ℕ) (ms : List (PaxosMessage V)) : ℕ := ms.countP fun m => m.nid = a

/-- A vote counts for its sender. -/
lemma heardFrom_concat (a : ℕ) (ms : List (PaxosMessage V)) (m : PaxosMessage V) :
    heardFrom a (ms ++ [m]) = if m.nid = a then heardFrom a ms + 1 else heardFrom a ms := by
  unfold heardFrom
  rw [List.countP_append, List.countP_singleton]
  by_cases h : m.nid = a
  · simp [h]
  · simp [h]

/-- Every vote is for the instance behind that of its acceptor's vote before. -/
def Sequential (ms : List (PaxosMessage V)) : Prop :=
  ∀ pre m post, ms = pre ++ m :: post → m.inst = heardFrom m.nid pre + 1

/-- Nothing is out of order. -/
lemma sequential_nil : Sequential ([] : List (PaxosMessage V)) := forall_split_nil

/-- One vote more. -/
lemma sequential_concat {ms : List (PaxosMessage V)} {m : PaxosMessage V} :
    Sequential (ms ++ [m]) ↔ Sequential ms ∧ m.inst = heardFrom m.nid ms + 1 := forall_split_concat

/-- **An acceptor has voted in the instances up to the number of its votes**, and in no other. By
induction on the votes: the last one is for the instance behind those of its acceptor, and adds this
one to them. -/
lemma Sequential.senders_iff {ms : List (PaxosMessage V)} (h : Sequential ms) {a i : ℕ} :
    a ∈ senders i ms ↔ 1 ≤ i ∧ i ≤ heardFrom a ms := by
  induction ms using List.reverseRecOn with
  | nil =>
      simp only [senders, heardFrom, List.filter_nil, List.map_nil, List.toFinset_nil,
        Finset.notMem_empty, List.countP_nil, false_iff]
      omega
  | append_singleton ms m ih =>
      obtain ⟨hms, hm⟩ := sequential_concat.mp h
      rw [heardFrom_concat]
      by_cases hi : m.inst = i
      · subst hi
        rw [senders_concat_self, Finset.mem_insert, ih hms]
        by_cases ha : m.nid = a
        · subst ha
          rw [if_pos rfl]
          constructor
          · intro _
            omega
          · intro _
            exact .inl rfl
        · rw [if_neg ha]
          constructor
          · rintro (heq | hmem)
            · exact absurd heq.symm ha
            · exact hmem
          · exact .inr
      · rw [senders_concat_of_ne hi, ih hms]
        by_cases ha : m.nid = a
        · subst ha
          rw [if_pos rfl]
          omega
        · rw [if_neg ha]

/-- A quorum in an instance is a quorum in those before. -/
lemma Sequential.quorate_of_le {ms : List (PaxosMessage V)} (h : Sequential ms) {maj i j : ℕ}
    (hi : 1 ≤ i) (hij : i ≤ j) (hq : Quorate maj j ms) : Quorate maj i ms := by
  have hsub : senders j ms ⊆ senders i ms := by
    intro a ha
    obtain ⟨-, hle⟩ := h.senders_iff.mp ha
    exact h.senders_iff.mpr ⟨hi, hij.trans hle⟩
  exact ⟨hq.1.mono hsub, hq.2.trans (Finset.card_le_card hsub)⟩

namespace Learner

/-! ## The requests one after the other -/

/-- What a server does that executes the requests `R 1, …, R k` one after the other from the state
`a₀`, and its state then: it calls the handler, and answers with the text of the result, if there is
one. -/
def served (app : Application σ Cmd) (a₀ : σ) (R : ℕ → Request) : ℕ → σ × List (Out Cmd)
  | 0 => (a₀, [])
  | k + 1 =>
      let (a, outs) := served app a₀ R k
      match app.loads (R (k + 1)).value with
      | .error _ => (a, outs)
      | .ok c =>
          match app.deliver a c with
          | (a', result, _) =>
              (a', outs ++ .deliver (k + 1) c ::
                ((resultText result).map (reply Cmd (R (k + 1)))).toList)

/-- One more request that the application accepts. -/
lemma served_succ {app : Application σ Cmd} {a₀ a : σ} {R : ℕ → Request} {k : ℕ} {c : Cmd}
    {result : Option PyText} (hload : app.loads (R (k + 1)).value = .ok c)
    (hdel : app.deliver (served app a₀ R k).1 c = (a, result, none)) :
    served app a₀ R (k + 1) = (a, (served app a₀ R k).2 ++ .deliver (k + 1) c ::
      ((resultText result).map (reply Cmd (R (k + 1)))).toList) := by
  rw [served]
  simp only [hload, hdel]

/-- Only the requests served matter. -/
lemma served_congr (app : Application σ Cmd) (a₀ : σ) {R R' : ℕ → Request} {k : ℕ}
    (h : ∀ i, 1 ≤ i → i ≤ k → R i = R' i) : served app a₀ R k = served app a₀ R' k := by
  induction k with
  | zero => rfl
  | succ k ih =>
      rw [served, served, ih fun i h1 hi => h i h1 (Nat.le_succ_of_le hi),
        h (k + 1) (Nat.le_add_left 1 k) le_rfl]

/-- A server calls the handler and answers; it answers requests it has served. By induction on the
requests: each adds its own call and, if its result has a text, its own reply. -/
lemma mem_served {app : Application σ Cmd} {a₀ : σ} {R : ℕ → Request} {k : ℕ} {o : Out Cmd}
    (ho : o ∈ (served app a₀ R k).2) : (∃ i c, o = .deliver i c) ∨
      ∃ i text, 1 ≤ i ∧ i ≤ k ∧ o = reply Cmd (R i) text := by
  induction k with
  | zero => cases ho
  | succ k ih =>
      have hold : o ∈ (served app a₀ R k).2 → (∃ i c, o = .deliver i c) ∨
          ∃ i text, 1 ≤ i ∧ i ≤ k + 1 ∧ o = reply Cmd (R i) text := by
        intro hmem
        rcases ih hmem with hdel | ⟨i, text, h1, hi, hresp⟩
        · exact .inl hdel
        · exact .inr ⟨i, text, h1, Nat.le_succ_of_le hi, hresp⟩
      rw [served] at ho
      rcases hload : app.loads (R (k + 1)).value with e | c
      · rw [hload] at ho
        exact hold ho
      · rw [hload] at ho
        rcases hdel : app.deliver (served app a₀ R k).1 c with ⟨a, result, e⟩
        simp only [hdel] at ho
        rcases List.mem_append.mp ho with hmem | hmem
        · exact hold hmem
        · rcases List.mem_cons.mp hmem with rfl | hmem
          · exact .inl ⟨k + 1, c, rfl⟩
          · obtain ⟨text, -, rfl⟩ := Option.map_eq_some_iff.mp (Option.mem_toList.mp hmem)
            exact .inr ⟨k + 1, text, Nat.le_add_left 1 k, le_rfl, rfl⟩

/-- A replica that has done all of its work up to request `k`, and knows of no decision behind it.
-/
structure Serves (app : Application σ Cmd) (a₀ : σ) (R : ℕ → Request) (L : Learner σ)
    (outs : List (Out Cmd)) (k : ℕ) : Prop where
  min : L.minUncommitedIndex = k + 1
  max : L.maxInstance = Max.max 1 k
  state : L.app = (served app a₀ R k).1
  outs : outs = (served app a₀ R k).2
  logged : ∀ i, (L.learner.logs i).isSome ↔ 1 ≤ i ∧ i ≤ k

/-- A new replica has served nothing. -/
lemma serves_new (app : Application σ Cmd) (n : ℕ) (addr : String) (port : ℕ) (a₀ : σ)
    (R : ℕ → Request) : Serves app a₀ R (new n addr port a₀) [] 0 where
  min := rfl
  max := rfl
  state := rfl
  outs := rfl
  logged i := by
    simp only [new, PaxosLearner.new, Option.isSome_none, Bool.false_eq_true, false_iff]
    omega

variable {app : Application σ Cmd} {a₀ : σ} {R : ℕ → Request} {n : ℕ}
  {ms : List (PaxosMessage Bytes)} {L : Learner σ} {outs : List (Out Cmd)} {k : ℕ}

/-- Only the requests served matter. -/
lemma Serves.congr (h : Serves app a₀ R L outs k) {R' : ℕ → Request}
    (hR : ∀ i, 1 ≤ i → i ≤ k → R i = R' i) : Serves app a₀ R' L outs k where
  min := h.min
  max := h.max
  state := by
    rw [h.state, served_congr app a₀ hR]
  outs := by
    rw [h.outs, served_congr app a₀ hR]
  logged := h.logged

/-- The requests served are those with a quorum. -/
lemma Serves.quorate_iff (h : Serves app a₀ R L outs k) (hfed : Fed app n a₀ ms L outs) {i : ℕ} :
    Quorate ((n + 1) / 2) i ms ↔ 1 ≤ i ∧ i ≤ k := by
  rw [← h.logged i, hfed.learner, Option.isSome_iff_exists]
  constructor
  · intro hq
    obtain ⟨m, hm, hi⟩ := exists_vote (Finset.nonempty_iff_ne_empty.mp hq.1)
    exact ⟨m.val, (logs_run2b n hfed.ballot i m.val).mpr ⟨hq, m, hm, hi, rfl⟩⟩
  · rintro ⟨w, hw⟩
    exact ((logs_run2b n hfed.ballot i w).mp hw).1

/-- A vote that completes a quorum is for the next request. -/
lemma Serves.inst_of_completes (h : Serves app a₀ R L outs k) (hfed : Fed app n a₀ ms L outs)
    {m : PaxosMessage Bytes} (hseq : Sequential (ms ++ [m])) (hc : Completes n ms m) :
    m.inst = k + 1 := by
  obtain ⟨-, hm⟩ := sequential_concat.mp hseq
  have hpos : 1 ≤ m.inst := by omega
  have hlt : ¬ m.inst ≤ k := fun hle => hc.1 ((h.quorate_iff hfed).mpr ⟨hpos, hle⟩)
  by_contra hne
  -- otherwise request `k + 1` had a quorum before
  have hq := hseq.quorate_of_le (i := k + 1) (by omega) (by omega) hc.2
  rw [quorate_concat_of_ne hne, h.quorate_iff hfed] at hq
  omega

/-- The next request is decided: it is executed and answered, and nothing else happens. The request
is logged at the next instance to deliver, so the recursion executes it there, and it ends with it,
since nothing higher has been seen. -/
lemma Serves.decided (h : Serves app a₀ R L outs k) {learner : PaxosLearner Bytes}
    (hlogs : learner.logs = Function.update L.learner.logs (k + 1) (some (R (k + 1)).value))
    (hok : Accepts app (R (k + 1)).value) :
    ∃ L' outs', deliverDecision app { L with learner := learner } (k + 1) (R (k + 1)).req_id
        (R (k + 1)).src (some ((R (k + 1)).sport, (R (k + 1)).dport)) = (L', outs', .ok ()) ∧
      Serves app a₀ R L' (outs ++ outs') (k + 1) ∧ L'.learner = learner := by
  obtain ⟨c, a, result, hload, hdel⟩ := hok.returns L.app
  let K : Learner σ := { L with learner := learner, maxInstance := Max.max L.maxInstance (k + 1) }
  have hturn : K.minUncommitedIndex = k + 1 := h.min
  have hmax : K.maxInstance = k + 1 := by
    show Max.max L.maxInstance (k + 1) = k + 1
    rw [h.max]
    omega
  have hlog : K.learner.logs K.minUncommitedIndex = some (R (k + 1)).value := by
    rw [hturn]
    exact (congrFun hlogs _).trans (Function.update_self _ _ _)
  -- nothing behind the request is decided, so the recursion ends with it
  have hnext := deliverInstance_next hlog hload hdel app.depth
  rw [hturn, hmax, if_neg (lt_irrefl _)] at hnext
  have hdecision := deliverDecision_of_ok (L := { L with learner := learner }) hnext
    (R (k + 1)).req_id (R (k + 1)).src (R (k + 1)).sport (R (k + 1)).dport
  have hserved := served_succ hload (h.state ▸ hdel)
  refine ⟨_, _, hdecision, ⟨rfl, ?_, ?_, ?_, ?_⟩, rfl⟩
  · show k + 1 = Max.max 1 (k + 1)
    omega
  · rw [hserved]
  · rw [hserved, h.outs, addCallback_eq]
    rfl
  · intro i
    show (learner.logs i).isSome ↔ _
    rw [hlogs]
    by_cases hi : i = k + 1
    · subst hi
      rw [Function.update_self]
      simp
    · rw [Function.update_of_ne hi, h.logged i]
      omega

/-- **One vote.** It is only counted, or it completes the quorum of the next request, which is
executed and answered. That the instance is the next one is `Serves.inst_of_completes`: behind it an
instance would have its quorum before the next one has. -/
lemma Serves.step (h : Serves app a₀ R L outs k) (hfed : Fed app n a₀ ms L outs) {v : Vote2b}
    (hv : v.IsFor R) (hone : OneBallot (ms ++ [v.message])) (hlt : v.fields.inst < 65536)
    (hseq : Sequential (ms ++ [v.message])) (hok : Accepts app (R v.fields.inst).value) :
    ∃ L' outs' k', handle_2b app L v = (L', outs', .ok ()) ∧
      Serves app a₀ R L' (outs ++ outs') k' ∧ Fed app n a₀ (ms ++ [v.message]) L' (outs ++ outs') := by
  have hfed' := hfed.handle_2b hone hlt
  by_cases hc : Completes n ms v.message
  · have hinst : v.fields.inst = k + 1 := h.inst_of_completes hfed hseq hc
    have hlogs := hfed.logs_of_completes hone hc
    rw [hv.value, Vote2b.inst_message, hinst] at hlogs
    obtain ⟨L', outs', hcall, hserves, -⟩ := h.decided hlogs (hinst ▸ hok)
    have heq := hfed.handle_2b_eq hone
    rw [if_pos hc, Vote2b.inst_message, hv.req_id, hv.src, hv.udp, hinst, hcall] at heq
    rw [heq] at hfed'
    exact ⟨L', outs', k + 1, heq, hserves, hfed'⟩
  · have heq := hfed.handle_2b_eq hone
    have hvote := handle_p2b_run2b (n := n) hone
    rw [if_neg hc] at heq
    rw [if_neg hc, ← hfed.learner] at hvote
    rw [heq] at hfed'
    refine ⟨_, [], k, heq, ⟨h.min, h.max, h.state, ?_, fun i => ?_⟩, hfed'⟩
    · rw [List.append_nil]
      exact h.outs
    · rw [← h.logged i]
      show ((run2b _ _).logs i).isSome ↔ _
      rw [handle_p2b_logs_of_none hvote]

end Learner

end P4xos.Bmv2
