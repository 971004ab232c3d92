import Mathlib.Logic.Relation
import Mathlib.Tactic.Common

/-!
# Machines, their runs, and what holds along a run

A `Machine` is a state type with one initial state and a partial step function: the environment
picks an action, and the action either is not possible in the current state (`none`) or has one
result. Everything that is said about *every run* of a component is said through `Reach P`: the
states reached by runs all of whose steps satisfy the side condition `P` (a predicate on the state
before the step and the action). `P := fun _ _ => True` gives all runs.

* `Reach.invariant` is the induction rule: what holds initially and is kept by every permitted step
  holds in every reached state.
* `Reach.simulates` is the refinement rule: a relation that holds of the initial states and that
  every step keeps, with a step of `R` or none on the other side, relates every reached state to an
  `R`-reachable one.
* `exec` runs a list of actions; `Reach.exec` turns a concrete execution into reachability.
-/

namespace P4xos.Lib

/-- A machine driven by an environment that picks the actions. -/
structure Machine (S A : Type*) where
  /-- The state every run starts from. -/
  init : S
  /-- The result of an action, or `none` where the action is not possible. -/
  step : S → A → Option S

namespace Machine

variable {S A T : Type*} {M : Machine S A} {P : S → A → Prop}

/-- The states reached by the runs whose steps all satisfy `P`. -/
inductive Reach (M : Machine S A) (P : S → A → Prop) : S → Prop
  | init : Reach M P M.init
  | step {s t : S} {a : A} : Reach M P s → P s a → M.step s a = some t → Reach M P t

/-- **The invariant rule.** The step premise may also use that the state before is reached. -/
theorem Reach.invariant {I : S → Prop} (hinit : I M.init)
    (hstep : ∀ s a t, M.Reach P s → I s → P s a → M.step s a = some t → I t) {s : S}
    (h : M.Reach P s) : I s := by
  induction h with
  | init => exact hinit
  | step hs hP ht ih => exact hstep _ _ _ hs ih hP ht

/-- A weaker side condition reaches more. -/
theorem Reach.mono {Q : S → A → Prop} (hPQ : ∀ s a, P s a → Q s a) {s : S}
    (h : M.Reach P s) : M.Reach Q s := by
  induction h with
  | init => exact .init
  | step _ hP ht ih => exact .step ih (hPQ _ _ hP) ht

/-- **The simulation rule.** The step premise may use that both states are reachable. -/
theorem Reach.simulates {R : T → T → Prop} {t₀ : T} {Sim : S → T → Prop} (hinit : Sim M.init t₀)
    (hstep : ∀ s a s' t, M.Reach P s → Relation.ReflTransGen R t₀ t → Sim s t → P s a →
      M.step s a = some s' → ∃ t', (t' = t ∨ R t t') ∧ Sim s' t')
    {s : S} (h : M.Reach P s) : ∃ t, Relation.ReflTransGen R t₀ t ∧ Sim s t := by
  induction h with
  | init => exact ⟨t₀, .refl, hinit⟩
  | step hs hP hst ih =>
      obtain ⟨t, ht, hsim⟩ := ih
      obtain ⟨t', rfl | hR, hsim'⟩ := hstep _ _ _ t hs ht hsim hP hst
      · exact ⟨t', ht, hsim'⟩
      · exact ⟨t', ht.tail hR, hsim'⟩

/-- Run a list of actions, stopping at the first one that is not possible or not permitted. -/
def exec (M : Machine S A) (P : S → A → Prop) [∀ s a, Decidable (P s a)] :
    S → List A → Option S
  | s, [] => some s
  | s, a :: as => if P s a then (M.step s a).bind fun t => exec M P t as else none

/-- What a concrete execution ends in is reached. -/
theorem Reach.exec [∀ s a, Decidable (P s a)] {s t : S} {as : List A} (hs : M.Reach P s)
    (h : M.exec P s as = some t) : M.Reach P t := by
  induction as generalizing s with
  | nil =>
      simp only [Machine.exec, Option.some.injEq] at h
      rw [← h]
      exact hs
  | cons a as ih =>
      simp only [Machine.exec] at h
      split_ifs at h with hP
      obtain ⟨u, hu, h⟩ := Option.bind_eq_some_iff.mp h
      exact ih (.step hs hP hu) h

/-- A test on the last state of a concrete execution holds of some reached state. -/
theorem Reach.of_exec [∀ s a, Decidable (P s a)] (as : List A) (p : S → Bool)
    (h : (M.exec P M.init as).map p = some true) : ∃ s, M.Reach P s ∧ p s = true := by
  obtain ⟨s, hs, hp⟩ := Option.map_eq_some_iff.mp h
  exact ⟨s, Reach.init.exec hs, hp⟩

end Machine

end P4xos.Lib
