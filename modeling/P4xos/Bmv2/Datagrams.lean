import P4xos.Bmv2.Runs
import P4xos.Lib.Keyed

/-!
# Which datagrams stop a replica

`sniff` hands every datagram to the learners' port to `handle_pkt`, and an exception that leaves it
ends the replica. `handle_pkt` catches an `IndexError`, `deliverInstance` takes a `KeyError` for a
gap; everything else escapes, the `RuntimeError` of a stack without room included.

What `handle_pkt` reads is the Raw layer of the dissected packet. scapy dissects some source ports
as other protocols and leaves a part of the payload or nothing at all as Raw, so the layer is a
parameter here: any function of the source port and the payload.

* `Survives` is the condition on a datagram and the state it meets: there is no Raw layer, or it is
  long enough; a vote does not raise the round of an open instance; and if it decides, the instance
  is not before the next one to deliver, and what is delivered then fails with the two exceptions
  only that are caught, with enough room on the stack for going down to the next instance and up
  again (`Harmless`).
* `handle_pkt_returns_iff` is one call; `no_datagram_stops_iff` is the run.
-/

namespace P4xos.Bmv2

open P4xos.Lib PaxosLearner

/-- A UDP datagram to the learners' port. -/
structure Datagram where
  src : String
  sport : ℕ
  payload : Bytes

/-- The packet that is sniffed; `raw` gives what scapy leaves as the Raw layer of a datagram from a
source port. -/
def Datagram.pkt (raw : ℕ → Bytes → Option Bytes) (d : Datagram) : Pkt where
  ip := some (0x11, d.src)
  udp := some (d.sport, 34952)
  raw := raw d.sport d.payload

/-- The Raw layer of a port that scapy binds no protocol to: the payload, if there is one. -/
def plainRaw (_sport : ℕ) (payload : Bytes) : Option Bytes :=
  if payload = [] then none else some payload

/-- The vote in a datagram with these fields. -/
def Datagram.vote (d : Datagram) (f : Fields) : Vote2b where
  fields := f
  src := d.src
  udp := some (d.sport, 34952)

namespace Learner

variable {σ Cmd : Type*}

/-- Catching up from instance `i` in state `a`, over `k` instances at most and with room for so many
calls, raises nothing but what is caught: up to the next gap each command is read and executed, or
fails with an `IndexError`, or with a `KeyError` before it calls back. -/
def Harmless (app : Application σ Cmd) (logs : ℕ → Option Bytes) : ℕ → ℕ → σ → ℕ → Prop
  | _, 0, _, _ => True
  | 0, _ + 1, _, _ => False
  | room + 1, k + 1, a, i => ∀ v, logs i = some v →
      match app.loads v with
      | .error e => e = .IndexError ∨ e = .KeyError
      | .ok c =>
          match app.deliver a c with
          | (a, _, none) => Harmless app logs room k a (i + 1)
          | (_, result, some e) => e = .IndexError ∨ e = .KeyError ∧ result = none

/-- **The condition on a vote**: it does not raise the round of an open instance; if it completes
the majority, the instance is not before the next one to deliver, and what is delivered then, with
the instance's value logged and with the room that the recursion downwards leaves, is harmless. -/
def VoteSurvives (app : Application σ Cmd) (L : Learner σ) (v : Vote2b) : Prop :=
  ¬ L.learner.Raises v.message ∧
    (CompletesMajority L.learner v.message → L.minUncommitedIndex ≤ v.fields.inst ∧
      Harmless app (Function.update L.learner.logs v.fields.inst
          (some ((L.learner.votes v.message).val.getD v.message.val)))
        (app.depth + 1 - (v.fields.inst - L.minUncommitedIndex))
        (max L.maxInstance v.fields.inst + 1 - L.minUncommitedIndex) L.app L.minUncommitedIndex)

/-- **The condition on a datagram**: it has no Raw layer, or one of at least the header's 77 bytes,
and if these are a vote, the condition on the vote holds. -/
def Survives (app : Application σ Cmd) (raw : ℕ → Bytes → Option Bytes) (L : Learner σ)
    (d : Datagram) : Prop :=
  ∀ load, raw d.sport d.payload = some load → P4v14.PAXOS_LEN ≤ load.length ∧
    ∀ f, unpack (load.take P4v14.PAXOS_LEN) = .ok f → f.typ = PHASE_2B →
      VoteSurvives app L (d.vote f)

/-! ## The recursion -/

/-- The result does not make `handle_pkt` raise, unless it is `None`. -/
def Returns (r : Except PyExc (Option (Deferred PyText))) : Prop :=
  (∃ d, r = .ok d) ∨ r = .error .IndexError

variable {app : Application σ Cmd}

/-- What the `except` clauses let pass. -/
lemma returns_catchKeyError {inst : ℕ} (hinst : inst < 65536) (L : Learner σ)
    (outs : List (Out Cmd))
    (d : Deferred PyText) (e : PyExc) :
    Returns (catchKeyError inst L outs d (.error e)).2.2 ↔
      e = .IndexError ∨ e = .KeyError ∧ d.result = none := by
  by_cases he : e = .KeyError
  · subst he
    rcases retryInstance_cases Cmd L inst with ⟨hle, -⟩ | ⟨-, msg, -, hsent⟩
    · omega
    · rcases d with ⟨_ | result⟩ <;> simp [catchKeyError, hsent, Returns]
  · rw [catchKeyError_of_ne (by simpa using he)]
    simp [Returns, he]

/-- From the next instance to deliver on there is a `Deferred`. By the cases of the recursion:
`None` is what the last one returns, for an instance below the next one, and the way down ends at
the next one. -/
lemma deliverInstance_ne_none (app : Application σ Cmd) (room : ℕ) {L : Learner σ} {inst : ℕ}
    (h : L.minUncommitedIndex ≤ inst) : (deliverInstance app room L inst).2.2 ≠ .ok none := by
  have hcatch : ∀ (inst : ℕ) (L : Learner σ) (outs : List (Out Cmd)) (d : Deferred PyText)
      (r : Except PyExc (Option (Deferred PyText))), r ≠ .ok none →
      (catchKeyError inst L outs d r).2.2 ≠ .ok none := by
    intro inst L outs d r hr
    unfold catchKeyError
    split
    · rcases retryInstance_cases Cmd L inst with ⟨-, h⟩ | ⟨-, msg, -, h⟩ <;> rw [h]
      · simp
      · dsimp only
        split_ifs <;> simp
    · exact hr
  fun_induction deliverInstance app room L inst with
  | case1 L => simp
  | case2 room L _ => exact hcatch _ _ _ _ _ (by simp)
  | case3 room L => exact hcatch _ _ _ _ _ (by simp)
  | case4 room L => exact hcatch _ _ _ _ _ (by simp)
  | case5 room L => exact hcatch _ _ _ _ _ (by simp)
  | case6 room L => simp
  | case7 room L => simp
  | case8 room L inst hne hlt L' outs r heq ih =>
      have hprev := ih (by omega)
      rw [heq] at hprev
      exact hcatch _ _ _ _ _ hprev
  | case9 room L inst hne hlt => exact absurd (lt_of_le_of_ne h (Ne.symm hne)) hlt

/-- **When catching up raises nothing but what is caught.** The induction is on the room on the
stack. Each level parses and executes the command of its instance, and calls the next level if
anything above was seen; an exception of a level is caught if it is a `KeyError` before the call
back. -/
lemma returns_deliverInstance_iff (app : Application σ Cmd) (room : ℕ) {L : Learner σ}
    (hle : L.minUncommitedIndex ≤ L.maxInstance) (hmax : L.maxInstance < 65536) :
    Returns (deliverInstance app room L L.minUncommitedIndex).2.2 ↔
      Harmless app L.learner.logs room (L.maxInstance + 1 - L.minUncommitedIndex) L.app
        L.minUncommitedIndex := by
  rw [Nat.succ_sub hle]
  induction room generalizing L with
  | zero => simp [deliverInstance, Returns, Harmless]
  | succ room ih =>
      have hfits : L.minUncommitedIndex < 65536 := hle.trans_lt hmax
      rw [Harmless]
      cases hlog : L.learner.logs L.minUncommitedIndex with
      | none =>
          obtain ⟨msg, -, he⟩ := deliverInstance_gap app hlog hfits room
          rw [he]
          constructor
          · intro _ v hv
            cases hv
          · intro _
            exact .inl ⟨_, rfl⟩
      | some v =>
          simp only [Option.some.injEq, forall_eq']
          rcases hload : app.loads v with e | c
          · rw [deliverInstance, if_pos rfl, hlog]
            simp only [hload, returns_catchKeyError hfits, and_true]
          · dsimp only
            rcases hdel : app.deliver L.app c with ⟨a, result, _ | e⟩
            · dsimp only
              rw [deliverInstance_next hlog hload hdel]
              by_cases hlt : L.minUncommitedIndex < L.maxInstance
              · have hrest := ih
                  (L := { L with app := a, minUncommitedIndex := L.minUncommitedIndex + 1 }) hlt hmax
                dsimp only at hrest
                rw [show L.maxInstance - L.minUncommitedIndex =
                  L.maxInstance - (L.minUncommitedIndex + 1) + 1 by omega, if_pos hlt, ← hrest]
                have hne := deliverInstance_ne_keyError app room
                  { L with app := a, minUncommitedIndex := L.minUncommitedIndex + 1 }
                  (L.minUncommitedIndex + 1)
                generalize deliverInstance app room
                  { L with app := a, minUncommitedIndex := L.minUncommitedIndex + 1 }
                  (L.minUncommitedIndex + 1) = next at hne ⊢
                rcases next with ⟨L', outs, e | d⟩
                · dsimp only
                  rw [catchKeyError_of_ne (by simpa using hne)]
                · exact ⟨fun _ => .inl ⟨_, rfl⟩, fun _ => .inl ⟨_, rfl⟩⟩
              · rw [if_neg hlt, show L.maxInstance - L.minUncommitedIndex = 0 by omega]
                exact iff_of_true (.inl ⟨_, rfl⟩) (by simp [Harmless])
            · rw [deliverInstance, if_pos rfl, hlog]
              simp only [hload, hdel, returns_catchKeyError hfits]

/-- **When the whole recursion raises nothing but what is caught**: the way down takes a call for
each instance, and what is left is the room for catching up. -/
lemma returns_deliverInstance_from_iff (app : Application σ Cmd) {L : Learner σ} {inst : ℕ}
    (hmin : L.minUncommitedIndex ≤ inst) (hle : inst ≤ L.maxInstance)
    (hmax : L.maxInstance < 65536) :
    Returns (deliverInstance app (app.depth + 1) L inst).2.2 ↔
      Harmless app L.learner.logs (app.depth + 1 - (inst - L.minUncommitedIndex))
        (L.maxInstance + 1 - L.minUncommitedIndex) L.app L.minUncommitedIndex := by
  rw [← returns_deliverInstance_iff app _ (hmin.trans hle) hmax]
  by_cases hnear : inst ≤ L.minUncommitedIndex + app.depth
  · rw [deliverInstance_of_near app hmin hnear,
      show app.depth + 1 - (inst - L.minUncommitedIndex) =
        app.depth - (inst - L.minUncommitedIndex) + 1 by omega]
  · rw [deliverInstance_too_deep app (by omega),
      show app.depth + 1 - (inst - L.minUncommitedIndex) = 0 by omega]
    simp [deliverInstance]

/-! ## One datagram -/

/-- **When a decision does not make `handle_pkt` raise.** Below the next instance `None` comes back,
and `addCallback` on it raises an `AttributeError`. From it on there is a `Deferred`, so that only
the recursion can raise. -/
lemma deliverDecision_returns_iff {L : Learner σ} {inst : ℕ} (hmax : L.maxInstance < 65536)
    (hinst : inst < 65536) (req_id : ℕ) (src : String) (sport dport : ℕ) :
    (deliverDecision app L inst req_id src (some (sport, dport))).2.2 = .ok () ↔
      L.minUncommitedIndex ≤ inst ∧ Harmless app L.learner.logs
        (app.depth + 1 - (inst - L.minUncommitedIndex))
        (max L.maxInstance inst + 1 - L.minUncommitedIndex) L.app L.minUncommitedIndex := by
  by_cases hle : L.minUncommitedIndex ≤ inst
  · have hreturns := returns_deliverInstance_from_iff app
      (L := { L with maxInstance := max L.maxInstance inst }) hle (le_max_right _ _)
      (max_lt hmax hinst)
    have hsome := deliverInstance_ne_none app (app.depth + 1)
      (L := { L with maxInstance := max L.maxInstance inst }) hle
    dsimp only at hreturns
    rw [and_iff_right hle, ← hreturns]
    unfold deliverDecision
    rw [ite_maxInstance]
    dsimp only
    generalize deliverInstance app (app.depth + 1)
      { L with maxInstance := max L.maxInstance inst } inst = call at hsome ⊢
    rcases call with ⟨L', outs, e | _ | d⟩
    · unfold catchIndexError
      by_cases he : e = .IndexError <;> simp [he, Returns]
    · exact absurd rfl hsome
    · simp [Returns]
  · obtain ⟨L', he⟩ := deliverDecision_of_lt app (Nat.lt_of_not_le hle) req_id src
      (some (sport, dport))
    rw [he]
    simp [hle]

/-- **When a vote does not make `handle_pkt` raise.** -/
lemma handle_2b_returns_iff {L : Learner σ} (h : Sound L) {d : Datagram} {f : Fields}
    (hinst : f.inst < 65536) :
    (handle_2b app L (d.vote f)).2.2 = .ok () ↔ VoteSurvives app L (d.vote f) := by
  unfold VoteSurvives
  rcases handle_2b_cases app L (d.vote f) with
    ⟨hr, he⟩ | ⟨hr, hc, learner, hcall, he⟩ | ⟨hr, hc, learner, hcall, he⟩
  · rw [he]
    simp [hr]
  · rw [he]
    exact ⟨fun _ => ⟨hr, fun hc' => absurd hc' hc⟩, fun _ => rfl⟩
  · rw [he, and_iff_right hr, forall_prop_of_true hc, ← (handle_p2b_decides hcall).2.1]
    exact deliverDecision_returns_iff (L := { L with learner := learner }) h.max_bound hinst _ _ _ _

/-- The round of an unpacked header has 8 bits. -/
lemma unpack_rnd_lt {datagram : Bytes} {f : Fields} (h : unpack datagram = .ok f) :
    f.rnd < 256 := by
  unfold unpack at h
  split_ifs at h
  cases h
  have hlen : ((((datagram.splitAt 1).2.splitAt 2).2).splitAt 1).1.length ≤ 1 := by
    rw [List.splitAt_eq]
    exact List.length_take_le _ _
  exact (beDecode_lt _).trans_le (Nat.pow_le_pow_right (by decide) hlen)

/-- The 2A for a promise always fits. -/
lemma make_paxos_of_promise {L : PaxosLearner Bytes} (h : PromiseInv (fun _ => True) L)
    {datagram : Bytes} {f : Fields} (hf : unpack datagram = .ok f) {learner : PaxosLearner Bytes}
    {res : PaxosMessage (Option Bytes)}
    (hcall : L.handle_p1b ⟨f.acceptor_id, f.inst, f.rnd, f.vrnd, rstrip stripChars f.value⟩ =
      (learner, some res)) :
    ∃ msg2a, make_paxos PHASE_2A res.inst res.crnd res.vrnd res.val = .ok msg2a := by
  obtain ⟨-, rfl⟩ := h.returns hcall
  have hinst := unpack_inst_lt hf
  have hrnd := unpack_rnd_lt hf
  have hfits : Fields.Fits ⟨PHASE_2A, f.inst, f.rnd, 0, 10, 10, rstrip stripChars f.value⟩ := by
    refine ⟨?_, hinst, hrnd, ?_, ?_, ?_⟩ <;> simp [PHASE_2A]
  exact ⟨_, if_pos hfits⟩

/-- **One datagram**, in any state a run can reach. A payload too short for the header makes
`unpack` raise. Of the messages that it reads, a vote is handled by `handle_2b`, a promise makes a
2A that always fits, and the others are ignored. -/
lemma handle_pkt_returns_iff (raw : ℕ → Bytes → Option Bytes) {L : Learner σ} (h : Sound L)
    (d : Datagram) : (handle_pkt app L (d.pkt raw)).2.2 = .ok () ↔ Survives app raw L d := by
  unfold Survives Datagram.pkt
  rcases hraw : raw d.sport d.payload with _ | load
  · simp [handle_pkt, catchIndexError]
  · simp only [Option.some.injEq, forall_eq']
    cases hf : unpack (load.take P4v14.PAXOS_LEN) with
    | error e =>
        have hshort : ¬ P4v14.PAXOS_LEN ≤ load.length ∧ e = .StructError := by
          unfold unpack at hf
          split_ifs at hf with hlen
          cases hf
          rw [List.length_take] at hlen
          exact ⟨by omega, rfl⟩
        obtain ⟨hlen, rfl⟩ := hshort
        simp [handle_pkt, hf, catchIndexError, hlen]
    | ok f =>
        have hlen : P4v14.PAXOS_LEN ≤ load.length := by
          unfold unpack at hf
          split_ifs at hf with hlen
          rw [List.length_take] at hlen
          omega
        simp only [hlen, true_and, Except.ok.injEq, forall_eq']
        by_cases h2b : f.typ = PHASE_2B
        · have hread : read2b ⟨some (0x11, d.src), some (d.sport, 34952), some load⟩ =
              some (d.vote f) := by
            simp [read2b, hf, h2b, Datagram.vote]
          rw [handle_pkt_of_read2b app L hread, forall_prop_of_true h2b]
          exact handle_2b_returns_iff h (unpack_inst_lt hf)
        · simp only [h2b, IsEmpty.forall_iff, iff_true]
          unfold handle_pkt
          simp only [ne_eq, not_true_eq_false, if_false, hf, if_neg h2b]
          split_ifs
          · rcases hcall : L.learner.handle_p1b
              ⟨f.acceptor_id, f.inst, f.rnd, f.vrnd, rstrip stripChars f.value⟩ with
              ⟨learner, _ | res⟩
            · rfl
            · obtain ⟨msg2a, hmsg⟩ := make_paxos_of_promise h.promises hf hcall
              simp only [hmsg]
          · rfl

/-! ## Whole runs -/

/-- A run returns exactly if every call does. An induction on the packets; the run stops at the
first call that raises. -/
lemma handleAll_returns_iff (app : Application σ Cmd) (L : Learner σ) (pkts : List Pkt) :
    (handleAll app L pkts).2.2 = .ok () ↔ ∀ pre pkt post, pkts = pre ++ pkt :: post →
      (handle_pkt app (handleAll app L pre).1 pkt).2.2 = .ok () := by
  induction pkts generalizing L with
  | nil => exact iff_of_true rfl forall_split_nil
  | cons p pkts ih =>
      refine Iff.trans ?_ forall_split_cons.symm
      rw [handleAll, handleAll]
      rcases he : handle_pkt app L p with ⟨L₁, outs, e | _⟩
      · have hraised : (.error e : Except PyExc Unit) ≠ .ok () := by
          intro h
          cases h
        exact iff_of_false hraised fun h => hraised h.1
      · have hpre : ∀ pre, (handleAll app L (p :: pre)).1 = (handleAll app L₁ pre).1 := by
          intro pre
          rw [handleAll, he]
        simp only [hpre, true_and]
        exact ih L₁

/-- **No datagram stops the replica exactly if each meets the condition** in the state it finds, for
whatever scapy leaves as the Raw layers. -/
theorem no_datagram_stops_iff (app : Application σ Cmd) (raw : ℕ → Bytes → Option Bytes) (n : ℕ)
    (addr : String) (port : ℕ) (a : σ) (ds : List Datagram) :
    (handleAll app (new n addr port a) (ds.map (Datagram.pkt raw))).2.2 = .ok () ↔
      ∀ pre d post, ds = pre ++ d :: post →
        Survives app raw (handleAll app (new n addr port a) (pre.map (Datagram.pkt raw))).1 d := by
  rw [handleAll_returns_iff]
  constructor
  · rintro h pre d post rfl
    have hcall := h (pre.map (Datagram.pkt raw)) (d.pkt raw) (post.map (Datagram.pkt raw)) (by simp)
    exact (handle_pkt_returns_iff raw (sound_handleAll app n addr port a _) d).mp hcall
  · intro h pre pkt post hp
    obtain ⟨pre', rest, rfl, rfl, hrest⟩ := List.map_eq_append_iff.mp hp
    obtain ⟨d, post', rfl, rfl, rfl⟩ := List.map_eq_cons_iff.mp hrest
    exact (handle_pkt_returns_iff raw (sound_handleAll app n addr port a _) d).mpr
      (h pre' d post' rfl)

/-- One byte: `struct` raises, and the exception escapes. -/
theorem short_datagram_stops : ¬ ∀ (ds : List Datagram),
    (handleAll numbers (new 3 "224.3.29.72" 34952 []) (ds.map (Datagram.pkt plainRaw))).2.2 =
      .ok () := by
  intro h
  have hone := h [⟨"10.0.0.1", 34951, [4]⟩]
  revert hone
  decide +kernel

end Learner

end P4xos.Bmv2
