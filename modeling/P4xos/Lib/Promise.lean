import Mathlib.Logic.Function.Basic
import P4xos.Lib.Keyed

/-!
# Acceptors: promises and votes

What an acceptor has to do, apart from any program. It is asked to *prepare* a round of an instance,
and then promises to answer nothing below it and reports its last vote; or to *accept* a value in a
round, and then votes. A request below the stored round gets no answer.

* `Slot.handle` is one request on the state of its instance.
* `Kept i d rs` says of a sequence of replies that the promises for instance `i` were kept and that
  every promise reports the last vote, `d` before the first one.
* `acceptor` is the component that consists of a slot for each instance and nothing else.
* `Serves` says that a component serves the instances below `N` as `Slot.handle` does. Then it keeps
  its promises (`Serves.kept`), and when it is asked for these instances only, it replies and stores
  what `acceptor` does (`Serves.refines`).
-/

namespace P4xos.Lib

variable {V : Type*}

/-! ## Requests, replies, and the state of an instance -/

/-- What an acceptor is asked. The rounds and instances have no bound here; a component with fields
of a fixed width serves those that fit. -/
inductive Request (V : Type*)
  | prepare (inst round : ℕ)
  | accept (inst round : ℕ) (value : V)
  deriving DecidableEq

/-- The instance a request is for. -/
def Request.inst : Request V → ℕ
  | .prepare i _ => i
  | .accept i _ _ => i

/-- The round of a request. -/
def Request.round : Request V → ℕ
  | .prepare _ r => r
  | .accept _ r _ => r

/-- The instance of a prepare. -/
@[simp] lemma Request.inst_prepare (i r : ℕ) : (Request.prepare i r : Request V).inst = i := rfl

/-- The instance of an accept. -/
@[simp] lemma Request.inst_accept (i r : ℕ) (v : V) : (Request.accept i r v).inst = i := rfl

/-- What an acceptor answers: a promise with its last vote, or a vote. -/
inductive Reply (V : Type*)
  | promise (inst round vround : ℕ) (value : V)
  | accepted (inst round : ℕ) (value : V)
  deriving DecidableEq

/-- The instance a reply is for. -/
def Reply.inst : Reply V → ℕ
  | .promise i _ _ _ => i
  | .accepted i _ _ => i

/-- The round of a reply. -/
def Reply.round : Reply V → ℕ
  | .promise _ r _ _ => r
  | .accepted _ r _ => r

/-- What is stored for an instance. -/
@[ext] structure Slot (V : Type*) where
  /-- The highest round answered. -/
  round : ℕ
  /-- The round of the last vote. -/
  vround : ℕ
  /-- The value of the last vote. -/
  value : V

/-- One request for the slot's instance. -/
def Slot.handle (s : Slot V) : Request V → Slot V × Option (Reply V)
  | .prepare i r =>
      if s.round ≤ r then ({ s with round := r }, some (.promise i r s.vround s.value))
      else (s, none)
  | .accept i r v =>
      if s.round ≤ r then (⟨r, r, v⟩, some (.accepted i r v))
      else (s, none)

/-- A prepare that is not stale is promised, with the last vote. -/
lemma Slot.handle_prepare {s : Slot V} {r : ℕ} (h : s.round ≤ r) (i : ℕ) :
    s.handle (.prepare i r) = ({ s with round := r }, some (.promise i r s.vround s.value)) := by
  rw [Slot.handle, if_pos h]

/-- An accept that is not stale is voted for. -/
lemma Slot.handle_accept {s : Slot V} {r : ℕ} (h : s.round ≤ r) (i : ℕ) (v : V) :
    s.handle (.accept i r v) = (⟨r, r, v⟩, some (.accepted i r v)) := by
  rw [Slot.handle, if_pos h]

/-- A stale request is not answered and changes nothing. -/
lemma Slot.handle_stale {s : Slot V} {q : Request V} (h : q.round < s.round) :
    s.handle q = (s, none) := by
  cases q with
  | prepare i r =>
      have h : ¬ s.round ≤ r := Nat.not_le.mpr h
      rw [Slot.handle, if_neg h]
  | accept i r v =>
      have h : ¬ s.round ≤ r := Nat.not_le.mpr h
      rw [Slot.handle, if_neg h]

/-- **Everything a request can do**: a promise, a vote, or nothing when it is stale. -/
lemma Slot.handle_cases (s : Slot V) (q : Request V) :
    (∃ i r, q = .prepare i r ∧ s.round ≤ r ∧
      s.handle q = ({ s with round := r }, some (.promise i r s.vround s.value))) ∨
    (∃ i r v, q = .accept i r v ∧ s.round ≤ r ∧
      s.handle q = (⟨r, r, v⟩, some (.accepted i r v))) ∨
    s.handle q = (s, none) := by
  rcases Nat.lt_or_ge q.round s.round with h | h
  · exact .inr (.inr (Slot.handle_stale h))
  · cases q with
    | prepare i r => exact .inl ⟨i, r, rfl, h, Slot.handle_prepare h i⟩
    | accept i r v => exact .inr (.inl ⟨i, r, v, rfl, h, Slot.handle_accept h i v⟩)

/-- The round of a slot does not decrease. -/
lemma Slot.round_le_handle (s : Slot V) (q : Request V) : s.round ≤ (s.handle q).1.round := by
  rcases s.handle_cases q with ⟨i, r, -, hr, h⟩ | ⟨i, r, v, -, hr, h⟩ | h
  · rw [h]
    exact hr
  · rw [h]
    exact hr
  · have hsame : (s.handle q).1 = s := by rw [h]
    exact Nat.le_of_eq (congrArg Slot.round hsame).symm

/-- An answer is in a round that is not below the slot's. -/
lemma Slot.round_le_reply {s : Slot V} {q : Request V} {x : Reply V}
    (hx : (s.handle q).2 = some x) : s.round ≤ x.round := by
  rcases s.handle_cases q with ⟨i, r, -, hr, h⟩ | ⟨i, r, v, -, hr, h⟩ | h <;> rw [h] at hx <;>
    cases hx
  · exact hr
  · exact hr

/-! ## Kept promises -/

/-- The round and the value of the last vote for instance `i` among the replies, `d` if there is
none. -/
def lastAccepted (i : ℕ) (d : ℕ × V) : List (Reply V) → ℕ × V
  | [] => d
  | .promise _ _ _ _ :: rs => lastAccepted i d rs
  | .accepted j r v :: rs => lastAccepted i (if j = i then (r, v) else d) rs

/-- The replies keep the promises made for instance `i`, and report its votes. -/
structure Kept (i : ℕ) (d : ℕ × V) (rs : List (Reply V)) : Prop where
  /-- After a promise there is no vote in a lower round. -/
  promise : ∀ pre r vr v post, rs = pre ++ .promise i r vr v :: post →
    ∀ r' v', .accepted i r' v' ∈ post → ¬ r' < r
  /-- A promise reports the last vote before it. -/
  report : ∀ pre r vr v post, rs = pre ++ .promise i r vr v :: post →
    (vr, v) = lastAccepted i d pre

/-- No replies, no promises to keep. -/
lemma kept_nil (i : ℕ) (d : ℕ × V) : Kept i d [] := by
  constructor <;> intro pre r vr v post h <;> simp at h

/-- A promise that reports `d`, and is kept afterwards. The first reply is this promise, or else the
split is one of the replies behind it. -/
lemma Kept.cons_promise {i : ℕ} {d : ℕ × V} {rs : List (Reply V)} (h : Kept i d rs) {r : ℕ}
    (hr : ∀ x ∈ rs, x.inst = i → r ≤ x.round) : Kept i d (.promise i r d.1 d.2 :: rs) where
  promise pre r₀ vr v post heq r' v' hmem := by
    cases pre with
    | nil =>
        obtain ⟨heq, rfl⟩ := List.cons.inj heq
        cases heq
        exact Nat.not_lt.mpr (hr _ hmem rfl)
    | cons x pre =>
        obtain ⟨-, rfl⟩ := List.cons.inj heq
        exact h.promise pre r₀ vr v post rfl r' v' hmem
  report pre r₀ vr v post heq := by
    cases pre with
    | nil =>
        obtain ⟨heq, rfl⟩ := List.cons.inj heq
        cases heq
        rfl
    | cons x pre =>
        obtain ⟨rfl, rfl⟩ := List.cons.inj heq
        exact h.report pre r₀ vr v post rfl

/-- A vote is the last one for what follows. A promise behind it reports this vote as long as no
other has come. -/
lemma Kept.cons_accepted {i r : ℕ} {v : V} {rs : List (Reply V)} (h : Kept i (r, v) rs)
    (d : ℕ × V) : Kept i d (.accepted i r v :: rs) where
  promise pre r₀ vr v₀ post heq r' v' hmem := by
    cases pre with
    | nil => cases (List.cons.inj heq).1
    | cons x pre =>
        obtain ⟨-, rfl⟩ := List.cons.inj heq
        exact h.promise pre r₀ vr v₀ post rfl r' v' hmem
  report pre r₀ vr v₀ post heq := by
    cases pre with
    | nil => cases (List.cons.inj heq).1
    | cons x pre =>
        obtain ⟨rfl, rfl⟩ := List.cons.inj heq
        rw [h.report pre r₀ vr v₀ post rfl, lastAccepted, if_pos rfl]

/-- Replies for other instances do not matter. The first reply is neither a promise nor a vote of
the instance. -/
lemma Kept.cons_of_ne {i : ℕ} {d : ℕ × V} {rs : List (Reply V)} (h : Kept i d rs) {x : Reply V}
    (hx : x.inst ≠ i) : Kept i d (x :: rs) where
  promise pre r vr v post heq r' v' hmem := by
    cases pre with
    | nil =>
        rw [(List.cons.inj heq).1] at hx
        exact absurd rfl hx
    | cons y pre =>
        obtain ⟨-, rfl⟩ := List.cons.inj heq
        exact h.promise pre r vr v post rfl r' v' hmem
  report pre r vr v post heq := by
    cases pre with
    | nil =>
        rw [(List.cons.inj heq).1] at hx
        exact absurd rfl hx
    | cons y pre =>
        obtain ⟨rfl, rfl⟩ := List.cons.inj heq
        rw [h.report pre r vr v post rfl]
        cases x with
        | promise => rfl
        | accepted j r v =>
            have hj : j ≠ i := hx
            rw [lastAccepted, if_neg hj]

/-- Where nothing is answered for an instance, its promises are kept. -/
lemma kept_of_forall_ne {i : ℕ} {rs : List (Reply V)} (h : ∀ x ∈ rs, x.inst ≠ i) (d : ℕ × V) :
    Kept i d rs := by
  induction rs with
  | nil => exact kept_nil i d
  | cons x rs ih =>
      exact (ih fun y hy => h y (List.mem_cons_of_mem _ hy)).cons_of_ne (h x List.mem_cons_self)

/-! ## Components that serve requests -/

variable {S P : Type*}

/-- The replies of a run, in order. -/
def replies (step : S → P → S × Option (Reply V)) (s : S) (ps : List P) : List (Reply V) :=
  (trace step s ps).filterMap Prod.snd

/-- The acceptor that is a slot for each instance. -/
def acceptor (A : ℕ → Slot V) (q : Request V) : (ℕ → Slot V) × Option (Reply V) :=
  (Function.update A q.inst ((A q.inst).handle q).1, ((A q.inst).handle q).2)

/-- The component handles requests for instances below `N` as the slots do, leaves the slots of
other instances alone, and only answers what it was asked. -/
structure Serves (step : S → P → S × Option (Reply V)) (ask : P → Option (Request V))
    (slot : S → ℕ → Slot V) (N : ℕ) : Prop where
  own : ∀ s p q, ask p = some q → q.inst < N →
    (slot (step s p).1 q.inst, (step s p).2) = (slot s q.inst).handle q
  other : ∀ s p i, i < N → (∀ q, ask p = some q → q.inst ≠ i) → slot (step s p).1 i = slot s i
  answers : ∀ s p x, (step s p).2 = some x → ∃ q, ask p = some q ∧ q.inst = x.inst

namespace Serves

variable {step : S → P → S × Option (Reply V)} {ask : P → Option (Request V)}
  {slot : S → ℕ → Slot V} {N : ℕ}

/-- The replies of a run, from the first packet on. -/
lemma replies_cons (s : S) (p : P) (ps : List P) :
    replies step s (p :: ps) = (step s p).2.toList ++ replies step (step s p).1 ps := by
  unfold replies
  rw [trace]
  cases (step s p).2 <;> simp

/-- A packet that asks nothing of instance `i` leaves its slot and is not answered for it. -/
lemma frame (h : Serves step ask slot N) {i : ℕ} (hi : i < N) (s : S) {p : P}
    (hp : ∀ q, ask p = some q → q.inst ≠ i) :
    slot (step s p).1 i = slot s i ∧ ∀ x, (step s p).2 = some x → x.inst ≠ i := by
  refine ⟨h.other s p i hi hp, fun x hx => ?_⟩
  obtain ⟨q, hq, hinst⟩ := h.answers s p x hx
  rw [← hinst]
  exact hp q hq

/-- From a state on, instance `i` is answered in no round below its slot's. By induction on the
inputs: the round of the slot only grows, and a reply has the round the slot has then. -/
lemma slot_round_le (h : Serves step ask slot N) {i : ℕ} (hi : i < N) (s : S) (ps : List P) :
    ∀ x ∈ replies step s ps, x.inst = i → (slot s i).round ≤ x.round := by
  induction ps generalizing s with
  | nil => intro x hx; cases hx
  | cons p ps ih =>
      intro x hx hxi
      rw [replies_cons] at hx
      by_cases hask : ∃ q, ask p = some q ∧ q.inst = i
      · obtain ⟨q, hq, rfl⟩ := hask
        obtain ⟨hslot, hout⟩ := Prod.ext_iff.mp (h.own s p q hq hi)
        simp only at hslot hout
        rcases List.mem_append.mp hx with hx | hx
        · apply Slot.round_le_reply (q := q)
          rw [← hout]
          simpa using hx
        · calc (slot s q.inst).round ≤ ((slot s q.inst).handle q).1.round :=
                Slot.round_le_handle _ _
            _ = (slot (step s p).1 q.inst).round := by rw [hslot]
            _ ≤ x.round := ih _ x hx hxi
      · have hp : ∀ q, ask p = some q → q.inst ≠ i := fun q hq hqi => hask ⟨q, hq, hqi⟩
        obtain ⟨hslot, hout⟩ := h.frame hi s hp
        rcases List.mem_append.mp hx with hx | hx
        · exact absurd hxi (hout x (by simpa using hx))
        · rw [← hslot]
          exact ih (step s p).1 x hx hxi

/-- Nothing is answered for an instance that is not asked for. -/
lemma kept_of_not_asked (h : Serves step ask slot N) {i : ℕ} (s : S) {ps : List P}
    (hps : ∀ p ∈ ps, ∀ q, ask p = some q → q.inst ≠ i) (d : ℕ × V) :
    Kept i d (replies step s ps) := by
  apply kept_of_forall_ne
  intro x hx
  obtain ⟨⟨p, out⟩, hmem, hout⟩ := List.mem_filterMap.mp hx
  obtain ⟨pre, post, rfl, he⟩ := mem_trace.mp hmem
  obtain ⟨q, hq, hinst⟩ := h.answers _ p x (he.symm.trans hout)
  rw [← hinst]
  exact hps p (by simp) q hq

/-- **A component that serves an instance keeps its promises for it.** By induction on the inputs. A
promise conveys the slot, and what follows is answered in no lower round; a vote is what the next
promise conveys. -/
theorem kept (h : Serves step ask slot N) {i : ℕ} (hi : i < N) (s : S) (ps : List P) :
    Kept i ((slot s i).vround, (slot s i).value) (replies step s ps) := by
  induction ps generalizing s with
  | nil => exact kept_nil _ _
  | cons p ps ih =>
      rw [replies_cons]
      have hlater := ih (step s p).1
      have hround := h.slot_round_le hi (step s p).1 ps
      by_cases hask : ∃ q, ask p = some q ∧ q.inst = i
      · obtain ⟨q, hq, rfl⟩ := hask
        obtain ⟨hslot, hout⟩ := Prod.ext_iff.mp (h.own s p q hq hi)
        simp only at hslot hout
        rw [hslot] at hlater hround
        rw [hout]
        rcases (slot s q.inst).handle_cases q with ⟨i, r, rfl, -, he⟩ | ⟨i, r, v, rfl, -, he⟩ | he
        · rw [he] at hlater hround ⊢
          exact hlater.cons_promise hround
        · rw [he] at hlater ⊢
          exact hlater.cons_accepted _
        · rw [he] at hlater ⊢
          exact hlater
      · have hp : ∀ q, ask p = some q → q.inst ≠ i := fun q hq hqi => hask ⟨q, hq, hqi⟩
        obtain ⟨hslot, hout⟩ := h.frame hi s hp
        rw [hslot] at hlater
        cases hx : (step s p).2 with
        | none => exact hlater
        | some x => exact hlater.cons_of_ne (hout x hx)

/-- It serves fewer instances as well. -/
lemma mono (h : Serves step ask slot N) {M : ℕ} (hM : M ≤ N) : Serves step ask slot M where
  own s p q hq hi := h.own s p q hq (Nat.lt_of_lt_of_le hi hM)
  other s p i hi hp := h.other s p i (Nat.lt_of_lt_of_le hi hM) hp
  answers := h.answers

/-- **A component that serves instances refines the abstract acceptor on them**: the replies, packet
by packet, and what is stored in the end. -/
theorem refines (h : Serves step ask slot N) {s : S} {A : ℕ → Slot V}
    (hslots : ∀ i < N, slot s i = A i) {ps : List P} {qs : List (Request V)}
    (hps : List.Forall₂ (fun p q => ask p = some q ∧ q.inst < N) ps qs) :
    (trace step s ps).map Prod.snd = (trace acceptor A qs).map Prod.snd ∧
      ∀ i < N, slot (after step s ps) i = after acceptor A qs i := by
  induction hps generalizing s A with
  | nil => exact ⟨rfl, hslots⟩
  | @cons p q ps qs hpq _ ih =>
      obtain ⟨hask, hq⟩ := hpq
      obtain ⟨hslot, hout⟩ := Prod.ext_iff.mp (h.own s p q hask hq)
      rw [hslots q.inst hq] at hslot hout
      have hnext : ∀ i < N, slot (step s p).1 i = (acceptor A q).1 i := by
        intro i hi
        by_cases hqi : q.inst = i
        · subst hqi
          have hA : (acceptor A q).1 q.inst = ((A q.inst).handle q).1 := Function.update_self _ _ _
          rw [hA]
          exact hslot
        · have hA : (acceptor A q).1 i = A i := Function.update_of_ne (Ne.symm hqi) _ _
          rw [hA, ← hslots i hi]
          apply h.other s p i hi
          intro q' hq'
          rw [hask] at hq'
          cases hq'
          exact hqi
      obtain ⟨houts, hslots'⟩ := ih hnext
      refine ⟨?_, hslots'⟩
      rw [trace, trace, List.map_cons, List.map_cons, houts]
      exact congrArg (· :: _) hout

end Serves

end P4xos.Lib
