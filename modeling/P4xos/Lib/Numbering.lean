import Mathlib.Data.List.Induction
import Mathlib.Tactic.Common
import P4xos.Lib.Keyed

/-!
# Sequencers

A sequencer gives numbers to some of the packets that pass it, its requests, and lets the others
pass. What it should do is `Numbers`: the `k`-th request leaves with number `k`, and every other
packet keeps its number and leaves the counter where it is.

A program that counts may fail at this in two ways. It may begin with another number than 1, and it
may count packets that are no requests. Which packets it counts (`takes`) is therefore kept apart
from which it should count (`request`), and so is the first number (`first`).

* `Counts` says of one step what a counter does, as long as its numbers fit: a packet that is
  counted gets the next number and moves the counter, another one does neither.
* `Counts.after_run`: what the counter is after a run, by the packets counted.
* `Counts.numbers_iff`: the exact condition for `Numbers` over whole runs. Every packet that is
  counted is a request, and the number of those before a request, shifted by the first number, is
  that of the requests.
-/

namespace P4xos.Lib

variable {S P O : Type*}

/-- A component that numbers packets. -/
structure Sequencer (S P O : Type*) where
  /-- One packet. -/
  step : S → P → S × O
  /-- The packets to be numbered. -/
  request : P → Bool
  /-- The number a packet arrives with. -/
  arrives : P → ℕ
  /-- The number it leaves with, if it leaves (`some none` when it is dropped), and if that is
  defined. -/
  leaves : O → Option (Option ℕ)
  /-- The counter that is kept in the state, if the state is defined. -/
  counter : S → Option ℕ

namespace Sequencer

/-- The `k`-th request leaves with number `k`; another packet keeps the number it has, or is
dropped, and consumes none: the counter stays. -/
def Numbers (q : Sequencer S P O) (s : S) (ps : List P) : Prop :=
  ∀ pre p post, ps = pre ++ p :: post →
    let before := after q.step s pre
    let out := q.leaves (q.step before p).2
    if q.request p then out = some (some (pre.countP q.request + 1))
    else (out = some none ∨ out = some (some (q.arrives p))) ∧
      q.counter (q.step before p).1 = q.counter before

/-- What one step does when `n` packets have been numbered: `n` is kept in the state by `R`, up to
`bound`; the packets that `takes` selects, all requests among them, get the next number from `first`
on. Nothing is said of packets that are not `ok`. -/
structure Counts (q : Sequencer S P O) (ok : P → Prop) (takes : P → Bool) (first bound : ℕ)
    (R : ℕ → S → Prop) : Prop where
  /-- Requests are numbered. -/
  request : ∀ p, q.request p = true → takes p = true
  /-- A packet that takes a number moves the counter. -/
  take : ∀ n s p, ok p → R n s → n < bound → takes p = true →
    R (n + 1) (q.step s p).1 ∧ q.leaves (q.step s p).2 = some (some (first + n)) ∧
      q.counter (q.step s p).1 ≠ q.counter s
  /-- A packet that does not leaves it. -/
  pass : ∀ n s p, ok p → R n s → takes p = false →
    R n (q.step s p).1 ∧
      (q.leaves (q.step s p).2 = some none ∨ q.leaves (q.step s p).2 = some (some (q.arrives p))) ∧
      q.counter (q.step s p).1 = q.counter s

namespace Counts

variable {q : Sequencer S P O} {ok : P → Prop} {takes : P → Bool} {first bound : ℕ}
  {R : ℕ → S → Prop}

/-- The counter after a run. -/
lemma after_run (h : q.Counts ok takes first bound R) {s : S} (hs : R 0 s) {ps : List P}
    (hok : ∀ p ∈ ps, ok p) (hlen : ps.length ≤ bound) :
    R (ps.countP takes) (after q.step s ps) := by
  refine after_invariant (I := fun ps s => R (ps.countP takes) s) hs fun pre p post hps hpre => ?_
  have hp : ok p := hok p (by simp [hps])
  have hlt : pre.length < bound := by
    rw [hps, List.length_append, List.length_cons] at hlen
    omega
  rw [List.countP_append, List.countP_singleton]
  cases ht : takes p with
  | true => exact (h.take _ _ p hp hpre (Nat.lt_of_le_of_lt List.countP_le_length hlt) ht).1
  | false => exact (h.pass _ _ p hp hpre ht).1

/-- **When a counter numbers the requests**: when the number of packets numbered before a request is
that of the requests before it, shifted by the first number, and when nothing else takes a number.
-/
theorem numbers_iff (h : q.Counts ok takes first bound R) {s : S} (hs : R 0 s) {ps : List P}
    (hok : ∀ p ∈ ps, ok p) (hlen : ps.length ≤ bound) :
    q.Numbers s ps ↔ ∀ pre p post, ps = pre ++ p :: post →
      if q.request p then first + pre.countP takes = pre.countP q.request + 1
      else takes p = false := by
  refine forall_congr' fun pre => forall_congr' fun p => forall_congr' fun post => ?_
  refine imp_congr_right fun hps => ?_
  subst hps
  have hp : ok p := hok p (by simp)
  have hpre : R (pre.countP takes) (after q.step s pre) := by
    refine h.after_run hs (fun p' hp' => hok p' (List.mem_append_left _ hp')) ?_
    rw [List.length_append] at hlen
    omega
  have hlt : pre.countP takes < bound := by
    have hle := List.countP_le_length (p := takes) (l := pre)
    rw [List.length_append, List.length_cons] at hlen
    omega
  cases hr : q.request p with
  | true =>
      have hout := (h.take _ _ p hp hpre hlt (h.request p hr)).2.1
      simp [hout]
  | false =>
      cases ht : takes p with
      | true =>
          have hmoved := (h.take _ _ p hp hpre hlt ht).2.2
          simp [hmoved]
      | false =>
          have hout := (h.pass _ _ p hp hpre ht).2
          simpa using hout

end Counts

end Sequencer

end P4xos.Lib
