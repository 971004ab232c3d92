import P4xos.Equiv.Acceptors
import P4xos.P4v16.Leader

/-!
# Instances outside the arrays

Instance numbers have 32 bits, and the coordinators give all of them to requests
(`P4v16.Leader.exists_request_of_inst`), but the P4-16 acceptor has registers for `65536` instances
and the plugin arrays of `MAX_INST` entries. Neither checks the number. An access outside the P4-16
registers is ignored on write and zero on read; one outside the plugin's arrays is undefined.

* `answers_outside`: outside its registers the switch answers every request, with no vote to report.
  It forgets what it has answered, so a promise binds it to nothing (`not_kept_outside`).
* `kept_inside`: inside its registers it keeps its promises, with any entries in `transport_tbl`.
* `promises_kept_iff`: promises are kept exactly inside the registers, and for the plugin exactly
  where no request is outside the arrays.
-/

namespace P4xos.Equiv

open P4xos.Lib

namespace Switch16

open P4xos.P4v16 (Acceptor PaxosT Headers Egress PAXOS_1A PAXOS_1B PAXOS_2A PAXOS_2B INSTANCE_COUNT)
open P4xos.P4v16.Acceptor

/-- Nothing is stored outside the registers. -/
lemma slot_outside (A : Acceptor) {i : ℕ} (hi : ¬ i < INSTANCE_COUNT) : slot A i = ⟨0, 0, 0⟩ := by
  simp only [slot, Register.read, if_neg hi]
  rfl

/-- Outside the registers every request is answered, and a promise reports no vote. There a read
gives zero, so that no round is stale, and a write is lost. -/
lemma answers_outside {T : BitVec 1 → Transport} {port : BitVec 4} {learnerPort : BitVec 16}
    (hT : T 0 = .forward port learnerPort) (A : Acceptor) {x : Packet} {q : Request ℕ}
    (hq : ask x = some q) (hi : ¬ q.inst < INSTANCE_COUNT) :
    (step T A x).2 = ((⟨0, 0, 0⟩ : Slot ℕ).handle q).2 := by
  rcases step_cases hT A x with ⟨p, -, -, hask, -, he⟩ | ⟨p, -, -, hask, -, he⟩ | ⟨hstale, he⟩
  · rw [hask] at hq
    cases hq
    have hslot := slot_outside A hi
    rw [Request.inst_prepare] at hslot
    rw [he, hslot, Slot.handle_prepare (Nat.zero_le _)]
  · rw [hask] at hq
    cases hq
    rw [he, Slot.handle_accept (Nat.zero_le _)]
  · have hlt := hstale q hq
    rw [slot_outside A hi] at hlt
    exact absurd hlt (Nat.not_lt_zero _)

/-- With `transport_tbl` dropping answers, nothing is answered. An answer has `set_drop` 0, and the
entry for 0 drops it; a stale packet that leaves is none. -/
lemma step_silent {T : BitVec 1 → Transport} (hT : T 0 = ._drop) (A : Acceptor) (x : Packet) :
    (step T A x).2 = none := by
  by_cases hsome : (ask x).isSome = true
  · obtain ⟨ip, p, hip, hpx, hask⟩ := exists_of_ask hsome
    rw [hask] at hsome
    by_cases hr : A.registerRound.read p.inst.toNat ≤ p.rnd
    · have hset : (acceptor_tbl ⟨A, x.hdr.udp, p, 1, x.egress_spec⟩).set_drop = 0 := by
        unfold askPaxos at hsome
        unfold acceptor_tbl
        split_ifs at hsome ⊢
        · rfl
        · rfl
        · cases hsome
      have hout : emitted T A x.hdr x.egress_spec = none := by
        unfold emitted ingress
        simp only [hip, hpx]
        rw [if_pos hr, transport_tbl, hset, hT]
        rfl
      rw [step, hout]
      simp
    · have hdecode := decode_of_ask hsome
      obtain ⟨-, hout⟩ := ingress_stale T A hpx hr
      rw [step]
      rcases hout with hout | hout <;> simp [hout, hdecode]
  · simp [step, hsome]

/-- **Inside the registers promises are kept**, whatever `transport_tbl` does with the answers. An
acceptor whose answers are dropped has said nothing, and otherwise it serves requests as the
abstract slot does. -/
lemma kept_inside (T : BitVec 1 → Transport) (id : BitVec 16) {i : ℕ} (hi : i < INSTANCE_COUNT)
    (xs : List Packet) : Kept i (0, 0) (replies (step T) (init id) xs) := by
  cases hT : T 0 with
  | _drop =>
      apply kept_of_forall_ne
      intro x hx
      obtain ⟨⟨p, out⟩, hmem, hout⟩ := List.mem_filterMap.mp hx
      obtain ⟨pre, post, -, he⟩ := mem_trace.mp hmem
      rw [step_silent hT] at he
      simp only at he hout
      rw [he] at hout
      cases hout
  | forward port learnerPort =>
      have hkept := (serves hT).kept hi (init id) xs
      rwa [slot_init] at hkept

/-- A 1A for round 5 and a 2A for round 1 of instance `i`. -/
def promiseThenVote (i : BitVec 32) : List Packet :=
  [packet16 { msgtype := PAXOS_1A, inst := i, rnd := 5, vrnd := 0, acptid := 0, paxoslen := 0,
              paxosval := 0 },
   packet16 { msgtype := PAXOS_2A, inst := i, rnd := 1, vrnd := 0, acptid := 0, paxoslen := 0,
              paxosval := 0 }]

/-- Outside the registers the switch votes in round 1 after its promise for round 5. Both requests
are answered as a new acceptor would. -/
lemma not_kept_outside {i : BitVec 32} (hi : ¬ i.toNat < INSTANCE_COUNT) :
    ¬ Kept i.toNat (0, 0)
      (replies (step fun _ => .forward 1 34953) (init 1) (promiseThenVote i)) := by
  intro hkept
  have hask₁ : ∀ x y, promiseThenVote i = [x, y] →
      ask x = some (.prepare i.toNat 5) ∧ ask y = some (.accept i.toNat 1 0) := by
    rintro x y ⟨⟩
    exact ⟨rfl, rfl⟩
  obtain ⟨hx, hy⟩ := hask₁ _ _ rfl
  have hreplies : replies (step fun _ => .forward 1 34953) (init 1) (promiseThenVote i) =
      [.promise i.toNat 5 0 0, .accepted i.toNat 1 0] := by
    unfold promiseThenVote
    rw [Serves.replies_cons, Serves.replies_cons, answers_outside rfl _ hx hi,
      answers_outside rfl _ hy hi]
    rfl
  rw [hreplies] at hkept
  exact hkept.promise [] 5 0 0 _ rfl 1 0 (by simp) (by decide)

end Switch16

/-- What the plugin's acceptor functions do on a sequence of calls: every array access is inside,
and promises for instance `i` are kept. -/
def PluginKeeps (i : ℕ) (cs : List Netro.Plugin.Call) : Prop :=
  ∃ P outs, Netro.Plugin.run Netro.Plugin.call Netro.Plugin.init cs = some (P, outs) ∧
    Kept i (0, 0) (outs.filterMap fun out => out.bind Netro.Plugin.decode)

/-- With every access inside the arrays the plugin keeps its promises, for whatever instance. The
run is defined, and an instance from `MAX_INST` on is not asked about in it. -/
lemma pluginKeeps_of_inside (i : ℕ) {cs : List Netro.Plugin.Call}
    (h : ∀ c ∈ cs, c.paxos.inst.toNat < Netro.MAX_INST) : PluginKeeps i cs := by
  obtain ⟨outs, hrun, houts⟩ := Netro.Plugin.run_call_eq Netro.Plugin.init h
  refine ⟨_, outs, hrun, ?_⟩
  have hreplies : outs.filterMap (fun out => out.bind Netro.Plugin.decode) =
      replies Netro.Plugin.step Netro.Plugin.init cs := by
    have hid := congrArg (List.filterMap id) houts
    rw [List.filterMap_map, List.filterMap_map] at hid
    exact hid
  rw [hreplies]
  by_cases hi : i < Netro.MAX_INST
  · have hkept := Netro.Plugin.serves.kept hi Netro.Plugin.init cs
    rwa [Netro.Plugin.slot_init] at hkept
  · apply Netro.Plugin.serves.kept_of_not_asked
    intro c hc q hq hqi
    have hlt := h c hc
    cases c with
    | phase1a p =>
        cases hq
        exact hi (hqi ▸ hlt)
    | phase2a p =>
        cases hq
        exact hi (hqi ▸ hlt)

/-- **Promises are kept exactly inside the arrays.** For an instance of 32 bits, the P4-16 acceptor
keeps its promises on all packet sequences exactly when the instance has registers; the plugin's
functions behave as defined and keep their promises exactly when all calls are inside the arrays.
For the plugin a single call outside is enough, whatever instance it is for: nothing is known of the
arrays after it. -/
theorem promises_kept_iff (i : BitVec 32) :
    ((∀ (T : BitVec 1 → P4v16.Acceptor.Transport) (id : BitVec 16) (xs : List Switch16.Packet),
        Kept i.toNat (0, 0) (replies (Switch16.step T) (P4v16.Acceptor.init id) xs)) ↔
      i.toNat < P4v16.INSTANCE_COUNT) ∧
    ∀ cs : List Netro.Plugin.Call,
      PluginKeeps i.toNat cs ↔ ∀ c ∈ cs, c.paxos.inst.toNat < Netro.MAX_INST := by
  refine ⟨⟨?_, ?_⟩, fun cs => ⟨?_, ?_⟩⟩
  · intro hkept
    by_contra hi
    exact Switch16.not_kept_outside hi (hkept _ _ _)
  · intro hi T id xs
    exact Switch16.kept_inside T id hi xs
  · rintro ⟨P, outs, hrun, -⟩
    apply (Netro.Plugin.run_call_isSome_iff Netro.Plugin.init cs).mp
    rw [hrun]
    rfl
  · exact pluginKeeps_of_inside i.toNat

/-- In the first instance without registers a promise is broken. It is number `65536`, which the
leader gives to a request after as many others. -/
theorem promises_not_kept :
    ¬ ∀ (i : BitVec 32) (T : BitVec 1 → P4v16.Acceptor.Transport) (id : BitVec 16)
      (xs : List Switch16.Packet) (cs : List Netro.Plugin.Call),
      Kept i.toNat (0, 0) (replies (Switch16.step T) (P4v16.Acceptor.init id) xs) ∧
        PluginKeeps i.toNat cs := by
  intro h
  exact Switch16.not_kept_outside (i := 65536) (by decide) (h 65536 _ _ _ []).1

end P4xos.Equiv
