import Mathlib.Data.List.Induction
import Mathlib.Tactic.Common
import P4xos.Lib.Keyed

/-!
# Serving in order

A component serves the positions 1, 2, 3, … in order. The inputs close positions, in any order, and
a position can be served once it is closed. When an input closes the next position and the ones
behind it are closed already, they can all be served at once; a component that serves one position
with each input then falls behind.

* `FirstMissing Q n` is the first position without the property `Q`; there is one at most
  (`FirstMissing.unique`).
* `ServesOne` says of one step what such a component does: it serves the next position with an input
  that finds it closed or closes it, and serves nothing else. `exists_next` lifts it to runs: what
  was served are the positions before the next one, in order and each once.
* `ServesOne.caughtUp_iff`: it never is behind exactly when no input makes two positions ready. The
  condition speaks of what the inputs close only, not of what the component does.
-/

namespace P4xos.Lib

variable {S P O I : Type*}

/-- The first position that does not have the property. In front of it all positions have it. -/
structure FirstMissing (Q : ℕ → Prop) (n : ℕ) : Prop where
  pos : 1 ≤ n
  missing : ¬ Q n
  below : ∀ i, 1 ≤ i → i < n → Q i

/-- There is one such position at most. -/
lemma FirstMissing.unique {Q : ℕ → Prop} {m n : ℕ} (hm : FirstMissing Q m)
    (hn : FirstMissing Q n) : m = n := by
  rcases Nat.lt_trichotomy m n with hlt | heq | hgt
  · exact absurd (hn.below m hm.pos hlt) hm.missing
  · exact heq
  · exact absurd (hm.below n hn.pos hgt) hn.missing

/-- The positions that some inputs close: none at the start, and what is closed stays closed. -/
structure Closing (closed : List P → ℕ → Prop) : Prop where
  start : ∀ n, ¬ closed [] n
  mono : ∀ ps p n, closed ps n → closed (ps ++ [p]) n

/-- What was served in a run, in order. -/
def servedIn (step : S → P → S × O) (served : O → Option I) (s : S) (ps : List P) : List I :=
  (trace step s ps).filterMap fun x => served x.2

/-- What was served grows by what the last input lets the component serve. -/
lemma servedIn_concat (step : S → P → S × O) (served : O → Option I) (s : S) (ps : List P) (p : P) :
    servedIn step served s (ps ++ [p]) =
      servedIn step served s ps ++ (served (step (after step s ps) p).2).toList := by
  rw [servedIn, trace_append, List.filterMap_append]
  cases hp : served (step (after step s ps) p).2 with
  | none => simp [servedIn, trace, hp]
  | some i => simp [servedIn, trace, hp]

/-- Every position up to the first one that is not closed has been served. A component that is
caught up has served all that it can serve in order. -/
def CaughtUp (step : S → P → S × O) (served : O → Option I) (label : ℕ → I)
    (closed : List P → ℕ → Prop) (s : S) (ps : List P) : Prop :=
  ∃ n, FirstMissing (closed ps) n ∧ servedIn step served s ps = (List.range' 1 (n - 1)).map label

/-- With each input that is `ok`, the next position is served if it is closed, and no other.
`R t ps n` says that `n` is the next position in the state `t`, after the inputs `ps`. -/
structure ServesOne (step : S → P → S × O) (served : O → Option I) (label : ℕ → I)
    (closed : List P → ℕ → Prop) (ok : P → Prop) (R : S → List P → ℕ → Prop) (s : S) : Prop where
  init : R s [] 1
  serve : ∀ t ps n p, ok p → R t ps n → closed (ps ++ [p]) n →
    R (step t p).1 (ps ++ [p]) (n + 1) ∧ served (step t p).2 = some (label n)
  wait : ∀ t ps n p, ok p → R t ps n → ¬ closed (ps ++ [p]) n →
    R (step t p).1 (ps ++ [p]) n ∧ served (step t p).2 = none

namespace ServesOne

variable {step : S → P → S × O} {served : O → Option I} {label : ℕ → I}
  {closed : List P → ℕ → Prop} {ok : P → Prop} {R : S → List P → ℕ → Prop} {s : S}

/-- `n` is the next position after a run, and the ones before it have been closed and served. -/
structure Next (step : S → P → S × O) (served : O → Option I) (label : ℕ → I)
    (closed : List P → ℕ → Prop) (R : S → List P → ℕ → Prop) (s : S) (ps : List P) (n : ℕ) :
    Prop where
  rel : R (after step s ps) ps n
  pos : 1 ≤ n
  below : ∀ i, 1 ≤ i → i < n → closed ps i
  done : servedIn step served s ps = (List.range' 1 (n - 1)).map label

section

variable (h : ServesOne step served label closed ok R s) (hc : Closing closed)
include h hc

omit hc in
/-- Before the first input the next position is 1, and nothing has been served. -/
lemma next_nil : Next step served label closed R s [] 1 where
  rel := h.init
  pos := Nat.le_refl 1
  below := by
    intro i hi hlt
    omega
  done := rfl

/-- An input that closes the next position. It is served, and the next position is the one behind
it. -/
lemma next_serve {ps : List P} {n : ℕ} {p : P} (hp : ok p)
    (hn : Next step served label closed R s ps n) (hclosed : closed (ps ++ [p]) n) :
    Next step served label closed R s (ps ++ [p]) (n + 1) := by
  obtain ⟨hrel, hout⟩ := h.serve _ ps n p hp hn.rel hclosed
  refine ⟨?_, by omega, fun i hi hlt => ?_, ?_⟩
  · rw [after_concat]
    exact hrel
  · rcases Nat.lt_succ_iff_lt_or_eq.mp hlt with hlt | heq
    · exact hc.mono ps p i (hn.below i hi hlt)
    · rw [heq]
      exact hclosed
  · obtain ⟨k, hk⟩ : ∃ k, n = k + 1 := ⟨n - 1, by have := hn.pos; omega⟩
    rw [servedIn_concat, hn.done, hout, hk]
    simp [List.range'_concat, Nat.add_comm]

/-- An input that leaves it open. Nothing is served, and the next position stays. -/
lemma next_wait {ps : List P} {n : ℕ} {p : P} (hp : ok p)
    (hn : Next step served label closed R s ps n) (hopen : ¬ closed (ps ++ [p]) n) :
    Next step served label closed R s (ps ++ [p]) n := by
  obtain ⟨hrel, hout⟩ := h.wait _ ps n p hp hn.rel hopen
  refine ⟨?_, hn.pos, fun i hi hlt => hc.mono ps p i (hn.below i hi hlt), ?_⟩
  · rw [after_concat]
    exact hrel
  · rw [servedIn_concat, hn.done, hout]
    simp

/-- The next position after a run. -/
lemma exists_next {ps : List P} (hok : ∀ p ∈ ps, ok p) :
    ∃ n, Next step served label closed R s ps n := by
  induction ps using List.reverseRecOn with
  | nil => exact ⟨1, next_nil h⟩
  | append_singleton ps p ih =>
      obtain ⟨n, hn⟩ := ih fun p' hp' => hok p' (List.mem_append_left _ hp')
      have hp : ok p := hok p (by simp)
      by_cases hclosed : closed (ps ++ [p]) n
      · exact ⟨n + 1, next_serve h hc hp hn hclosed⟩
      · exact ⟨n, next_wait h hc hp hn hclosed⟩

omit h hc in
/-- The component is behind when the next position is closed. What has been served says how far it
is, so that the first missing position is the next one. -/
lemma Next.caughtUp_iff {ps : List P} {n : ℕ} (hn : Next step served label closed R s ps n) :
    CaughtUp step served label closed s ps ↔ ¬ closed ps n := by
  constructor
  · rintro ⟨m, hm, hdone⟩
    have hlen : ((List.range' 1 (n - 1)).map label).length =
        ((List.range' 1 (m - 1)).map label).length := by rw [← hn.done, ← hdone]
    simp only [List.length_map, List.length_range'] at hlen
    have hmn : m = n := by
      have hpos := hn.pos
      have hpos' := hm.pos
      omega
    rw [← hmn]
    exact hm.missing
  · intro hopen
    exact ⟨n, ⟨hn.pos, hopen, hn.below⟩, hn.done⟩

/-- **The component is never behind exactly when no input closes the first open position while the
one behind it is closed then too.** -/
theorem caughtUp_iff {ps : List P} (hok : ∀ p ∈ ps, ok p) :
    (∀ pre post, ps = pre ++ post → CaughtUp step served label closed s pre) ↔
    ∀ pre p post, ps = pre ++ p :: post → ∀ n, FirstMissing (closed pre) n →
      ¬ (closed (pre ++ [p]) n ∧ closed (pre ++ [p]) (n + 1)) := by
  constructor
  · rintro hup pre p post rfl n hmissing ⟨hclosed, hclosed'⟩
    have hp : ok p := hok p (by simp)
    have hpre : ∀ p' ∈ pre, ok p' := fun p' hp' => hok p' (List.mem_append_left _ hp')
    obtain ⟨m, hm⟩ := exists_next h hc hpre
    have hopen := hm.caughtUp_iff.mp (hup pre (p :: post) rfl)
    have hmn : m = n := FirstMissing.unique ⟨hm.pos, hopen, hm.below⟩ hmissing
    subst hmn
    have hnext := next_serve h hc hp hm hclosed
    exact hnext.caughtUp_iff.mp (hup (pre ++ [p]) post (by simp)) hclosed'
  · intro hone pre post hps
    induction pre using List.reverseRecOn generalizing post with
    | nil => exact (next_nil h).caughtUp_iff.mpr (hc.start 1)
    | append_singleton pre p ih =>
        have hps' : ps = pre ++ p :: post := by rw [hps, List.append_assoc, List.singleton_append]
        have hp : ok p := hok p (by rw [hps']; simp)
        have hpre : ∀ p' ∈ pre, ok p' := by
          intro p' hp'
          apply hok
          rw [hps']
          exact List.mem_append_left _ hp'
        obtain ⟨n, hn⟩ := exists_next h hc hpre
        have hopen := hn.caughtUp_iff.mp (ih (p :: post) hps')
        by_cases hclosed : closed (pre ++ [p]) n
        · refine (next_serve h hc hp hn hclosed).caughtUp_iff.mpr fun hclosed' => ?_
          exact hone pre p post hps' n ⟨hn.pos, hopen, hn.below⟩ ⟨hclosed, hclosed'⟩
        · exact (next_wait h hc hp hn hclosed).caughtUp_iff.mpr hclosed

end

end ServesOne

end P4xos.Lib
