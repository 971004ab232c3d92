import Mathlib.Data.List.Induction
import Mathlib.Tactic.Common
import P4xos.Lib.Keyed

/-!
# Loops that poll a clock

A loop looks at the time when an iteration starts, and attempts something that is due, for which it
has to know when it was last attempted. Attempts can be made between two iterations as well.

* `Poller.lastAttempt` is the time of the last attempt, and `Poller.OnTime` says that whenever
  something waits and more than `d` has passed since then, the iteration attempts it.
* `Poller.exists_quiet` splits a run after its last attempt: what follows is quiet.
* `Poller.onTime_iff`: a loop is on time exactly if no stretch of a run without attempts, at the end
  of which something waits, is longer than `d`. What remains to be shown of a loop is when it does
  not attempt anything, which is a condition on its own clock.
* `Poller.Simulates.onTime_iff` carries it over to a loop with more in its state, so that the three
  programs that share a loop are treated as one.
-/

namespace P4xos.Lib

/-- A loop: what its events do, when they are, which of them start an iteration, and which make an
attempt. -/
structure Poller (S E : Type*) where
  step : S → E → S
  time : E → ℕ
  polls : E → Prop
  attempts : S → E → Bool
  waiting : S → Prop

namespace Poller

variable {S E : Type*} (p : Poller S E)

/-- The state after a sequence of events. -/
def run (s : S) (es : List E) : S := es.foldl p.step s

/-- The time of the last attempt, or of the start. -/
def lastAttempt : ℕ → S → List E → ℕ
  | start, _, [] => start
  | start, s, e :: es => lastAttempt (if p.attempts s e then p.time e else start) (p.step s e) es

/-- The time of the last event, or of the start. -/
def lastTime (start : ℕ) (es : List E) : ℕ := (es.map p.time).getLastD start

/-- The times do not decrease. -/
def Timed (start : ℕ) (es : List E) : Prop := (start :: es.map p.time).Pairwise (· ≤ ·)

/-- Whenever an iteration starts when something waits and more than `d` has passed since the last
attempt, it attempts it. -/
def OnTime (d start : ℕ) (s : S) (es : List E) : Prop :=
  ∀ pre e post, es = pre ++ e :: post → p.polls e → p.waiting (p.run s pre) →
    p.lastAttempt start s pre + d < p.time e → p.attempts (p.run s pre) e = true

/-- No event makes an attempt. -/
def Quiet (s : S) (es : List E) : Prop :=
  ∀ pre e post, es = pre ++ e :: post → p.attempts (p.run s pre) e = false

variable {p} {s : S} {start d : ℕ} {es : List E}

/-- A run in two parts. -/
lemma run_append (s : S) (es fs : List E) : p.run s (es ++ fs) = p.run (p.run s es) fs :=
  List.foldl_append

/-- The last event is the one at the end. -/
lemma lastTime_concat (start : ℕ) (es : List E) (e : E) :
    p.lastTime start (es ++ [e]) = p.time e := by
  rw [lastTime, List.map_append, List.map_singleton, List.getLastD_concat]

/-- An attempt of the last event is the last one; otherwise it is the one before. -/
lemma lastAttempt_concat (start : ℕ) (s : S) (es : List E) (e : E) :
    p.lastAttempt start s (es ++ [e]) =
      if p.attempts (p.run s es) e then p.time e else p.lastAttempt start s es := by
  induction es generalizing start s with
  | nil => rfl
  | cons f es ih =>
      rw [List.cons_append, lastAttempt, ih]
      rfl

/-- Nothing is attempted when nothing happens. -/
lemma quiet_nil (s : S) : p.Quiet s [] := forall_split_nil

/-- A stretch stays quiet with an event that makes no attempt. -/
lemma quiet_concat {e : E} :
    p.Quiet s (es ++ [e]) ↔ p.Quiet s es ∧ p.attempts (p.run s es) e = false :=
  forall_split_concat

/-- The events before a time are not later. -/
lemma Timed.of_append {fs : List E} (h : p.Timed start (es ++ fs)) : p.Timed start es := by
  rw [Timed, List.map_append, ← List.cons_append] at h
  exact (List.pairwise_append.mp h).1

/-- The last event is the latest. -/
lemma Timed.lastTime_le {e : E} (h : p.Timed start (es ++ [e])) :
    p.lastTime start es ≤ p.time e := by
  rw [Timed, List.map_append, ← List.cons_append] at h
  have hle := (List.pairwise_append.mp h).2.2
  rcases List.eq_nil_or_concat' es with rfl | ⟨es, f, rfl⟩
  · exact hle start (by simp) (p.time e) (by simp)
  · rw [lastTime_concat]
    exact hle (p.time f) (by simp) (p.time e) (by simp)

/-- The last attempt was not later than the last event. -/
lemma lastAttempt_le_lastTime (h : p.Timed start es) :
    p.lastAttempt start s es ≤ p.lastTime start es := by
  induction es using List.reverseRecOn with
  | nil => exact Nat.le_refl start
  | append_singleton es e ih =>
      rw [lastAttempt_concat, lastTime_concat]
      split_ifs
      · exact Nat.le_refl _
      · exact Nat.le_trans (ih h.of_append) h.lastTime_le

/-- Nothing is attempted in a quiet stretch. -/
lemma lastAttempt_append_of_quiet {fs : List E} (h : p.Quiet (p.run s es) fs) :
    p.lastAttempt start s (es ++ fs) = p.lastAttempt start s es := by
  induction fs using List.reverseRecOn with
  | nil => rw [List.append_nil]
  | append_singleton fs f ih =>
      obtain ⟨hquiet, hf⟩ := quiet_concat.mp h
      rw [← run_append] at hf
      rw [← List.append_assoc, lastAttempt_concat, hf, ih hquiet]
      rfl

/-- Since the last attempt it has been quiet. An induction from the back: an attempt starts a new
stretch, any other event goes on with the quiet one. -/
lemma exists_quiet (start : ℕ) (s : S) (es : List E) :
    ∃ fs gs, es = fs ++ gs ∧ p.lastAttempt start s es = p.lastTime start fs ∧
      p.Quiet (p.run s fs) gs := by
  induction es using List.reverseRecOn with
  | nil => exact ⟨[], [], rfl, rfl, quiet_nil s⟩
  | append_singleton es e ih =>
      rcases he : p.attempts (p.run s es) e with _ | _
      · obtain ⟨fs, gs, rfl, hlast, hquiet⟩ := ih
        refine ⟨fs, gs ++ [e], List.append_assoc .., ?_, quiet_concat.mpr ⟨hquiet, ?_⟩⟩
        · rw [lastAttempt_concat, he, ← hlast]
          rfl
        · rw [← run_append, he]
      · refine ⟨es ++ [e], [], (List.append_nil _).symm, ?_, quiet_nil _⟩
        rw [lastAttempt_concat, lastTime_concat, if_pos he]

/-- **Every iteration is on time** exactly if no quiet stretch that ends with an iteration, at which
something waits, is longer than `d`. -/
theorem onTime_iff (htimed : p.Timed start es) :
    p.OnTime d start s es ↔
      ∀ pre mid e post, es = pre ++ (mid ++ e :: post) → p.polls e → p.waiting (p.run s (pre ++ mid)) →
        p.Quiet (p.run s pre) (mid ++ [e]) → p.time e ≤ p.lastTime start pre + d := by
  constructor
  · rintro hontime pre mid e post rfl hpolls hwaiting hquiet
    by_contra hlong
    obtain ⟨hmid, he⟩ := quiet_concat.mp hquiet
    rw [← run_append] at he
    have hlast : p.lastAttempt start s (pre ++ mid) + d < p.time e := by
      rw [lastAttempt_append_of_quiet hmid]
      have hle := lastAttempt_le_lastTime (s := s) htimed.of_append
      omega
    have hattempt := hontime (pre ++ mid) e post (List.append_assoc ..).symm hpolls hwaiting hlast
    rw [he] at hattempt
    cases hattempt
  · rintro hshort pre e post rfl hpolls hwaiting hlate
    by_contra he
    rw [Bool.not_eq_true] at he
    obtain ⟨fs, gs, rfl, hlast, hquiet⟩ := exists_quiet (p := p) start s pre
    have hstretch : p.Quiet (p.run s fs) (gs ++ [e]) := by
      rw [quiet_concat, ← run_append]
      exact ⟨hquiet, he⟩
    have hle := hshort fs gs e post (List.append_assoc ..) hpolls hwaiting hstretch
    omega

/-! ## More in the state -/

/-- A loop with more in its state and its events does the same. -/
structure Simulates {S' E' : Type*} (p : Poller S E) (q : Poller S' E') (state : S → S')
    (event : E → E') : Prop where
  step : ∀ s e, state (p.step s e) = q.step (state s) (event e)
  time : ∀ e, p.time e = q.time (event e)
  polls : ∀ e, p.polls e ↔ q.polls (event e)
  attempts : ∀ s e, p.attempts s e = q.attempts (state s) (event e)
  waiting : ∀ s, p.waiting s ↔ q.waiting (state s)

namespace Simulates

variable {S' E' : Type*} {q : Poller S' E'} {state : S → S'} {event : E → E'}
  (h : Simulates p q state event)
include h

/-- The state of the smaller loop, after the events it sees. -/
lemma run (s : S) (es : List E) : state (p.run s es) = q.run (state s) (es.map event) := by
  induction es generalizing s with
  | nil => rfl
  | cons e es ih =>
      rw [List.map_cons]
      show state (p.run (p.step s e) es) = q.run (q.step (state s) (event e)) (es.map event)
      rw [ih, h.step]

/-- Both make their last attempt at the same time. -/
lemma lastAttempt (start : ℕ) (s : S) (es : List E) :
    p.lastAttempt start s es = q.lastAttempt start (state s) (es.map event) := by
  induction es generalizing start s with
  | nil => rfl
  | cons e es ih =>
      rw [List.map_cons, Poller.lastAttempt, Poller.lastAttempt, ih, h.step, h.attempts, h.time]

/-- It is on time when the other is. Splits of the one run are images of splits of the other, and
the state, the time and the attempts correspond. -/
theorem onTime_iff (d start : ℕ) (s : S) (es : List E) :
    p.OnTime d start s es ↔ q.OnTime d start (state s) (es.map event) := by
  constructor
  · intro hontime pre' e' post' hsplit hpolls hwaiting hlate
    obtain ⟨pre, rest, rfl, rfl, hrest⟩ := List.map_eq_append_iff.mp hsplit
    obtain ⟨e, post, rfl, rfl, rfl⟩ := List.map_eq_cons_iff.mp hrest
    rw [← h.run] at hwaiting ⊢
    rw [← h.lastAttempt, ← h.time] at hlate
    rw [← h.attempts]
    exact hontime pre e post rfl ((h.polls e).mpr hpolls) ((h.waiting _).mpr hwaiting) hlate
  · rintro hontime pre e post rfl hpolls hwaiting hlate
    rw [h.lastAttempt, h.time] at hlate
    rw [h.attempts, h.run]
    refine hontime _ (event e) (post.map event) (by rw [List.map_append, List.map_cons])
      ((h.polls e).mp hpolls) ?_ hlate
    rw [← h.run]
    exact (h.waiting _).mp hwaiting

end Simulates

end Poller

end P4xos.Lib
