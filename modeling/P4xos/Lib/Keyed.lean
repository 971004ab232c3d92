import Mathlib.Data.List.Basic
import Mathlib.Data.List.Induction
import Mathlib.Tactic.Common

/-!
# Transducers whose state is split by a key

A transducer takes inputs one by one, changes its state and makes an output on each of them. Here
every input has a key, and the state has a view for each key. The transducer does not mix keys when
the *unwinding* conditions hold: what an input does to the view of its own key, and the output on
it, depend on that view only, and the views of the other keys stay as they are.

* `after`, `trace` and `collect` are the three things that are said of a run: the state it ends in,
  its inputs with their outputs, and what each input contributes in the state before it.
* `forall_split_concat` and `forall_prefix_concat` take apart what is said of every input, or of
  every first part, of a run. They are what inductions over runs go by.
* `after_invariant` is the induction rule for the state: what holds at the start, and is kept by
  every input of the run in the state that those before it led to, holds at the end.
* `collect_concat`: what a run contributes grows by what its last input does.
* `length_outputs_le_one_iff`: a key has one output at most when nothing is output on it after one.
* `Unwinding.nonInterference` lifts the three conditions, which speak of one step, to whole runs:
  the view of a key and the outputs on its inputs are those of the run restricted to that key, and
  two neighbouring inputs of different keys may be swapped.
-/

namespace P4xos.Lib

variable {S P O X K L : Type*}

/-! ## Runs of a transducer -/

/-- The state after a sequence of inputs. -/
def after (step : S → P → S × O) (s : S) (ps : List P) : S := ps.foldl (fun s p => (step s p).1) s

/-- The inputs of a run, each with the output made on it. -/
def trace (step : S → P → S × O) : S → List P → List (P × O)
  | _, [] => []
  | s, p :: ps => (p, (step s p).2) :: trace step (step s p).1 ps

/-- What the inputs of a run contribute, in order, each of them depending on the state before it. -/
def collect (step : S → P → S × O) (f : S → P → List X) : S → List P → List X
  | _, [] => []
  | s, p :: ps => f s p ++ collect step f (step s p).1 ps

variable {step : S → P → S × O}

/-- No input, no change. -/
@[simp] lemma after_nil (s : S) : after step s [] = s := rfl

/-- The first input, then the others. -/
@[simp] lemma after_cons (s : S) (p : P) (ps : List P) :
    after step s (p :: ps) = after step (step s p).1 ps := rfl

/-- A run in two parts: the second starts where the first ends. -/
lemma after_append (s : S) (ps qs : List P) :
    after step s (ps ++ qs) = after step (after step s ps) qs := List.foldl_append

/-- **A run grows at its end**: the last input is handled in the state that the others led to. -/
lemma after_concat (s : S) (ps : List P) (p : P) :
    after step s (ps ++ [p]) = (step (after step s ps) p).1 := by
  rw [after_append, after_cons, after_nil]

/-- The trace of a run in two parts. -/
lemma trace_append (s : S) (ps qs : List P) :
    trace step s (ps ++ qs) = trace step s ps ++ trace step (after step s ps) qs := by
  induction ps generalizing s with
  | nil => rfl
  | cons p ps ih =>
      rw [List.cons_append, trace, ih]
      rfl

/-- No input contributes nothing. -/
@[simp] lemma collect_nil (f : S → P → List X) (s : S) : collect step f s [] = [] := rfl

/-- **A run grows at its end**: it contributes what it contributed, and then what its last input
does in the state the others led to. -/
lemma collect_concat (f : S → P → List X) (s : S) (ps : List P) (p : P) :
    collect step f s (ps ++ [p]) = collect step f s ps ++ f (after step s ps) p := by
  induction ps generalizing s with
  | nil => simp [collect]
  | cons q ps ih =>
      rw [List.cons_append, collect, ih, collect, List.append_assoc]
      rfl

/-- What holds at every input of a run holds at every input of its first part. -/
lemma forall_split_of_append {Q : List P → P → Prop} {ps qs : List P}
    (h : ∀ pre p post, ps ++ qs = pre ++ p :: post → Q pre p) :
    ∀ pre p post, ps = pre ++ p :: post → Q pre p := by
  rintro pre p post rfl
  exact h pre p (post ++ qs) (by simp)

/-- **The invariant rule**, for what is said of the inputs taken and of the state after them. The
step premise is about the inputs of this run only, so that it may use what is known of each of them
at its place in the run. -/
theorem after_invariant {I : List P → S → Prop} {s : S} {ps : List P} (hinit : I [] s)
    (hstep : ∀ pre p post, ps = pre ++ p :: post → I pre (after step s pre) →
      I (pre ++ [p]) (step (after step s pre) p).1) : I ps (after step s ps) := by
  induction ps using List.reverseRecOn with
  | nil => exact hinit
  | append_singleton ps p ih =>
      rw [after_concat]
      exact hstep ps p [] rfl (ih (forall_split_of_append hstep))

/-- Nothing happens in the empty run. -/
lemma forall_split_nil {Q : List P → P → Prop} :
    ∀ pre p post, ([] : List P) = pre ++ p :: post → Q pre p := by
  intro pre p post h
  simp at h

/-- What holds at every input of a run holds at the first one, and at those behind it. A run on
fixed inputs is followed with this rule input by input. -/
lemma forall_split_cons {Q : List P → P → Prop} {q : P} {ps : List P} :
    (∀ pre p post, q :: ps = pre ++ p :: post → Q pre p) ↔
      Q [] q ∧ ∀ pre p post, ps = pre ++ p :: post → Q (q :: pre) p := by
  constructor
  · intro h
    refine ⟨h [] q ps rfl, ?_⟩
    rintro pre p post rfl
    exact h (q :: pre) p post rfl
  · rintro ⟨hfirst, hrest⟩ pre p post h
    cases pre with
    | nil =>
        obtain ⟨rfl, rfl⟩ := List.cons.inj h
        exact hfirst
    | cons q' pre =>
        obtain ⟨rfl, rfl⟩ := List.cons.inj h
        exact hrest pre p post rfl

/-- What holds at every input of a run holds at those before the last one, and at the last one. -/
lemma forall_split_concat {Q : List P → P → Prop} {ps : List P} {q : P} :
    (∀ pre p post, ps ++ [q] = pre ++ p :: post → Q pre p) ↔
      (∀ pre p post, ps = pre ++ p :: post → Q pre p) ∧ Q ps q := by
  constructor
  · intro h
    exact ⟨forall_split_of_append h, h ps q [] rfl⟩
  · rintro ⟨hrest, hlast⟩ pre p post h
    rcases List.eq_nil_or_concat' post with rfl | ⟨post, q', rfl⟩
    · obtain ⟨rfl, hp⟩ := List.append_inj' h rfl
      rw [← List.singleton_inj.mp hp]
      exact hlast
    · rw [← List.cons_append, ← List.append_assoc] at h
      exact hrest pre p post (List.append_inj' h rfl).1

/-- What holds of every first part of a run holds of those without the last input, and of the run.
-/
lemma forall_prefix_concat {Q : List P → Prop} {ps : List P} {q : P} :
    (∀ pre post, ps ++ [q] = pre ++ post → Q pre) ↔
      (∀ pre post, ps = pre ++ post → Q pre) ∧ Q (ps ++ [q]) := by
  constructor
  · intro h
    refine ⟨?_, h (ps ++ [q]) [] (List.append_nil _).symm⟩
    rintro pre post rfl
    exact h pre (post ++ [q]) (List.append_assoc pre post [q])
  · rintro ⟨hrest, hall⟩ pre post h
    rcases List.eq_nil_or_concat' post with rfl | ⟨post, q', rfl⟩
    · rw [List.append_nil] at h
      rw [← h]
      exact hall
    · rw [← List.append_assoc] at h
      exact hrest pre post (List.append_inj' h rfl).1

/-- An entry of the trace is an input with the output made on it in the state the inputs before it
led to. -/
lemma mem_trace {s : S} {ps : List P} {e : P × O} :
    e ∈ trace step s ps ↔
      ∃ pre post, ps = pre ++ e.1 :: post ∧ e.2 = (step (after step s pre) e.1).2 := by
  induction ps generalizing s with
  | nil => simp [trace]
  | cons p ps ih =>
      rw [trace, List.mem_cons, ih]
      constructor
      · rintro (rfl | ⟨pre, post, rfl, he⟩)
        · exact ⟨[], ps, rfl, rfl⟩
        · exact ⟨p :: pre, post, rfl, he⟩
      · rintro ⟨pre, post, hps, he⟩
        cases pre with
        | nil =>
            obtain ⟨rfl, rfl⟩ := List.cons.inj hps
            exact .inl (Prod.ext rfl he)
        | cons q pre =>
            obtain ⟨rfl, rfl⟩ := List.cons.inj hps
            exact .inr ⟨pre, post, rfl, he⟩

/-! ## Keys -/

variable [DecidableEq K] {key : P → K} {view : S → K → L}

/-- The inputs of a run that have the key `k`. -/
def restrict (key : P → K) (k : K) (ps : List P) : List P := ps.filter fun p => key p = k

/-- An input of the key stays. -/
lemma restrict_cons_self {k : K} {p : P} (h : key p = k) (ps : List P) :
    restrict key k (p :: ps) = p :: restrict key k ps :=
  List.filter_cons_of_pos (by simpa using h)

/-- An input of another key is left out. -/
lemma restrict_cons_ne {k : K} {p : P} (h : key p ≠ k) (ps : List P) :
    restrict key k (p :: ps) = restrict key k ps :=
  List.filter_cons_of_neg (by simpa using h)

/-- Restricting does not see the order of two neighbours with different keys. -/
lemma restrict_swap {p q : P} (h : key p ≠ key q) (k : K) (ps qs : List P) :
    restrict key k (ps ++ p :: q :: qs) = restrict key k (ps ++ q :: p :: qs) := by
  have hswap : restrict key k (p :: q :: qs) = restrict key k (q :: p :: qs) := by
    by_cases hp : key p = k
    · have hq : key q ≠ k := fun hq => h (hp.trans hq.symm)
      rw [restrict_cons_self hp, restrict_cons_ne hq, restrict_cons_ne hq, restrict_cons_self hp]
    · by_cases hq : key q = k
      · rw [restrict_cons_ne hp, restrict_cons_self hq, restrict_cons_self hq, restrict_cons_ne hp]
      · rw [restrict_cons_ne hp, restrict_cons_ne hq, restrict_cons_ne hq, restrict_cons_ne hp]
  unfold restrict at hswap ⊢
  rw [List.filter_append, List.filter_append, hswap]

/-- The entries of a trace whose input has the key `k`. -/
def restrictTrace (key : P → K) (k : K) (t : List (P × O)) : List (P × O) :=
  t.filter fun e => key e.1 = k

/-- The outputs of a run on the inputs of a key, where an input makes one. -/
def outputs (step : S → P → S × Option O) (key : P → K) (k : K) (s : S) (ps : List P) : List O :=
  (restrictTrace key k (trace step s ps)).filterMap Prod.snd

section outputs

variable {step : S → P → S × Option O} {k : K}

/-- The outputs on a key, from the first input on. -/
lemma outputs_cons (s : S) (p : P) (ps : List P) :
    outputs step key k s (p :: ps) =
      (if key p = k then (step s p).2.toList else []) ++
        outputs step key k (step s p).1 ps := by
  unfold outputs restrictTrace
  rw [trace, List.filter_cons]
  by_cases hp : key p = k
  · rw [if_pos (by simpa using hp), if_pos hp, List.filterMap_cons]
    cases (step s p).2 <;> rfl
  · rw [if_neg (by simpa using hp), if_neg hp, List.nil_append]

/-- There are no outputs on a key when none of its inputs makes one. Both sides look at the inputs
of the key, one in the trace and the other in the list. -/
lemma outputs_eq_nil_iff {s : S} {ps : List P} :
    outputs step key k s ps = [] ↔
      ∀ pre p post, ps = pre ++ p :: post → key p = k → (step (after step s pre) p).2 = none := by
  unfold outputs restrictTrace
  rw [List.filterMap_eq_nil_iff]
  constructor
  · intro h pre p post hps hp
    apply h (p, (step (after step s pre) p).2)
    exact List.mem_filter.mpr ⟨mem_trace.mpr ⟨pre, post, hps, rfl⟩, by simpa using hp⟩
  · intro h e he
    obtain ⟨hmem, hkey⟩ := List.mem_filter.mp he
    obtain ⟨pre, post, hps, hout⟩ := mem_trace.mp hmem
    rw [hout]
    exact h pre e.1 post hps (by simpa using hkey)

/-- **At most one output on a key**: after an input that makes one, no other does. By induction on
the inputs: the first one makes an output and the rest none, or the rest makes one at most. -/
lemma length_outputs_le_one_iff {s : S} {ps : List P} :
    (outputs step key k s ps).length ≤ 1 ↔
      ∀ pre p mid q post, ps = pre ++ p :: (mid ++ q :: post) → key p = k → key q = k →
        (step (after step s pre) p).2 ≠ none → (step (after step s (pre ++ p :: mid)) q).2 = none := by
  induction ps generalizing s with
  | nil => simp [outputs, trace, restrictTrace]
  | cons p ps ih =>
      have hhead : (outputs step key k s (p :: ps)).length ≤ 1 ↔
          (key p = k → (step s p).2 ≠ none → outputs step key k (step s p).1 ps = []) ∧
            (outputs step key k (step s p).1 ps).length ≤ 1 := by
        rw [outputs_cons]
        by_cases hp : key p = k
        · rw [if_pos hp, List.length_append]
          rcases (step s p).2 with _ | o
          · simp
          · simp only [Option.toList_some, List.length_singleton, ← List.length_eq_zero_iff]
            constructor
            · intro h
              exact ⟨fun _ _ => by omega, by omega⟩
            · intro h
              have hnil := h.1 hp (Option.some_ne_none o)
              omega
        · simp [hp]
      rw [hhead, ih, outputs_eq_nil_iff]
      constructor
      · rintro ⟨hfirst, hrest⟩ pre r mid q post hps hr hq hout
        cases pre with
        | nil =>
            obtain ⟨rfl, rfl⟩ := List.cons.inj hps
            exact hfirst hr hout mid q post rfl hq
        | cons p' pre =>
            obtain ⟨rfl, rfl⟩ := List.cons.inj hps
            exact hrest pre r mid q post rfl hr hq hout
      · intro h
        refine ⟨?_, ?_⟩
        · intro hp hout mid q post hps hq
          exact h [] p mid q post (by rw [hps]; rfl) hp hq hout
        · intro pre r mid q post hps hr hq hout
          exact h (p :: pre) r mid q post (by rw [hps]; rfl) hr hq hout

end outputs

/-- The conditions on one step under which keys are not mixed. -/
structure Unwinding (step : S → P → S × O) (key : P → K) (view : S → K → L) : Prop where
  /-- The output depends on the view of the input's key. -/
  output : ∀ s t p, view s (key p) = view t (key p) → (step s p).2 = (step t p).2
  /-- So does the new view of that key. -/
  own : ∀ s t p, view s (key p) = view t (key p) →
    view (step s p).1 (key p) = view (step t p).1 (key p)
  /-- The other views stay. -/
  other : ∀ s p k, key p ≠ k → view (step s p).1 k = view s k

/-- Keys do not interfere: what a key's run looks like, its view and its outputs, is what it looks
like alone, and swapping neighbours of different keys changes neither any view nor any output. -/
structure NonInterference (step : S → P → S × O) (key : P → K) (view : S → K → L) : Prop where
  /-- The view of a key is that of the run restricted to the key. -/
  state : ∀ s ps k, view (after step s ps) k = view (after step s (restrict key k ps)) k
  /-- So are the outputs on the key's inputs. -/
  outputs : ∀ s ps k,
    restrictTrace key k (trace step s ps) = trace step s (restrict key k ps)
  /-- Neighbouring inputs of different keys commute. -/
  commute : ∀ s ps p q qs, key p ≠ key q → ∀ k,
    view (after step s (ps ++ p :: q :: qs)) k = view (after step s (ps ++ q :: p :: qs)) k ∧
    restrictTrace key k (trace step s (ps ++ p :: q :: qs)) =
      restrictTrace key k (trace step s (ps ++ q :: p :: qs))

namespace Unwinding

variable (h : Unwinding step key view)
include h

/-- Two states with the same view of `k` end, one after all inputs and one after those of `k`, with
the same view of `k`. -/
lemma view_after {s t : S} {k : K} (hst : view s k = view t k) (ps : List P) :
    view (after step s ps) k = view (after step t (restrict key k ps)) k := by
  induction ps generalizing s t with
  | nil => exact hst
  | cons p ps ih =>
      by_cases hp : key p = k
      · subst hp
        rw [restrict_cons_self rfl]
        exact ih (h.own s t p hst)
      · rw [restrict_cons_ne hp]
        apply ih
        rw [h.other s p k hp]
        exact hst

/-- Likewise, they make the same outputs on the inputs of `k`. An induction on the inputs: one of
the key finds equal views, and one of another key leaves the view. -/
lemma outputs_after {s t : S} {k : K} (hst : view s k = view t k) (ps : List P) :
    restrictTrace key k (trace step s ps) = trace step t (restrict key k ps) := by
  induction ps generalizing s t with
  | nil => rfl
  | cons p ps ih =>
      by_cases hp : key p = k
      · subst hp
        rw [restrict_cons_self rfl, trace, trace, restrictTrace,
          List.filter_cons_of_pos (by simp), h.output s t p hst]
        exact congrArg _ (ih (h.own s t p hst))
      · rw [restrict_cons_ne hp, trace, restrictTrace, List.filter_cons_of_neg (by simpa using hp)]
        apply ih
        rw [h.other s p k hp]
        exact hst

/-- **The unwinding conditions give noninterference over whole runs.** -/
theorem nonInterference : NonInterference step key view where
  state s ps k := h.view_after rfl ps
  outputs s ps k := h.outputs_after rfl ps
  commute s ps p q qs hpq k := by
    refine ⟨?_, ?_⟩
    · rw [h.view_after rfl (ps ++ p :: q :: qs), restrict_swap hpq, ← h.view_after rfl]
    · rw [h.outputs_after rfl (ps ++ p :: q :: qs), restrict_swap hpq, ← h.outputs_after rfl]

end Unwinding

end P4xos.Lib
