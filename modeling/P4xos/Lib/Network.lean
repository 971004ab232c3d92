import Mathlib.Algebra.BigOperators.Group.List.Basic
import Mathlib.Algebra.BigOperators.Pi
import Mathlib.Algebra.Order.BigOperators.Group.Finset
import Mathlib.Algebra.Order.BigOperators.Group.List
import Mathlib.Data.Fintype.Basic
import Mathlib.Tactic.Abel
import P4xos.Lib.Machine

/-!
# Networks of nodes and wires

A wire ends somewhere: its end `e` is where its frames come in, first in first out. A `Network` says
what happens when the first frame on a wire comes in: the nodes change their state, and frames are
put on other wires. From outside, frames are put on wires (`send`), and a frame may be lost. Every
interleaving of the three is a run, so the delays of the wires are not bounded, and two wires are
not ordered with respect to each other.

* `load v w` is what the frames on the wires are worth together, when a frame is worth `v e f` on
  the wire that ends in `e`. Sending adds to it (`load_send`), and what comes in is taken off
  (`load_take`).
* `on_wires`, `all_arrived` and `all_sent` are invariant rules: what is true of every frame that may
  be sent, and is handed on by the nodes, is true of every frame on its way and of every one that
  came in.
* `Reach.conserves`: when no frame is lost, and what comes in is worth what it leaves behind and
  what it puts on the wires, nothing is ever gained or lost on the way.
* `Reach.arrivals_le`: when every frame that comes in is worth more than those it puts on the wires,
  what has been sent bounds the number of arrivals, whatever is lost.

The worths are taken in any commutative monoid that lets them be compared or cancelled, so that one
run can be counted by kind, by end or by sender.
-/

namespace P4xos.Lib

variable {S E F M : Type*}

/-! ## Wires -/

/-- The frames on each wire, by the end where they will come in; the first one is next. -/
abbrev Wires (E F : Type*) := E → List F

namespace Wires

variable [DecidableEq E]

/-- The frames of a list that go to one end. -/
def sentTo (e : E) (out : List (E × F)) : List F :=
  out.filterMap fun x => if x.1 = e then some x.2 else none

/-- Put frames on wires, behind those that are there. -/
def send (w : Wires E F) (out : List (E × F)) : Wires E F := fun e => w e ++ sentTo e out

/-- Nothing was sent. -/
@[simp] lemma sentTo_nil (e : E) : sentTo e ([] : List (E × F)) = [] := rfl

/-- A frame that goes to the end. -/
lemma sentTo_cons_self (e : E) (f : F) (out : List (E × F)) :
    sentTo e ((e, f) :: out) = f :: sentTo e out := by
  simp [sentTo]

/-- A frame that goes to another end. -/
lemma sentTo_cons_ne {e e' : E} (h : e' ≠ e) (f : F) (out : List (E × F)) :
    sentTo e ((e', f) :: out) = sentTo e out := by
  simp [sentTo, h]

/-- What goes to an end, of two lists one behind the other. -/
lemma sentTo_append (e : E) (out out' : List (E × F)) :
    sentTo e (out ++ out') = sentTo e out ++ sentTo e out' := List.filterMap_append

/-- The frames that go to an end are those that are addressed to it. -/
lemma mem_sentTo {e : E} {f : F} {out : List (E × F)} : f ∈ sentTo e out ↔ (e, f) ∈ out := by
  unfold sentTo
  rw [List.mem_filterMap]
  constructor
  · rintro ⟨⟨e', f'⟩, hmem, h⟩
    split_ifs at h with he
    cases h
    exact he ▸ hmem
  · intro h
    exact ⟨(e, f), h, if_pos rfl⟩

/-- Sending nothing changes no wire. -/
@[simp] lemma send_nil (w : Wires E F) : w.send [] = w := by
  funext e
  simp [send]

/-- Sending frames one by one: the first is put on its wire before the others. -/
lemma send_cons (w : Wires E F) (e : E) (f : F) (out : List (E × F)) :
    w.send ((e, f) :: out) = send (Function.update w e (w e ++ [f])) out := by
  funext e'
  by_cases h : e' = e
  · subst h
    rw [send, send, sentTo_cons_self, Function.update_self, List.append_assoc,
      List.singleton_append]
  · rw [send, send, sentTo_cons_ne (Ne.symm h), Function.update_of_ne h]

/-- Take the first frame off a wire. -/
def take (w : Wires E F) (e : E) : Wires E F := Function.update w e (w e).tail

/-- Taking a frame off puts none on. -/
lemma mem_take {w : Wires E F} {e e' : E} {f : F} (h : f ∈ w.take e e') : f ∈ w e' := by
  unfold take at h
  by_cases he : e' = e
  · subst he
    rw [Function.update_self] at h
    exact List.mem_of_mem_tail h
  · rwa [Function.update_of_ne he] at h

/-- A frame that is on a wire after sending was there before or was sent. -/
lemma mem_send {w : Wires E F} {out : List (E × F)} {e : E} {f : F} :
    f ∈ w.send out e ↔ f ∈ w e ∨ (e, f) ∈ out := by
  rw [send, List.mem_append, mem_sentTo]

/-! ### What the frames are worth -/

variable [Fintype E] [AddCommMonoid M]

/-- What the frames on the wires are worth together. -/
def load (v : E → F → M) (w : Wires E F) : M := ∑ e, ((w e).map (v e)).sum

/-- What the frames of a list are worth together. -/
def worth (v : E → F → M) (out : List (E × F)) : M := (out.map fun x => v x.1 x.2).sum

omit [DecidableEq E] [Fintype E] in
/-- No frames are worth nothing. -/
@[simp] lemma worth_nil (v : E → F → M) : worth v [] = 0 := rfl

omit [DecidableEq E] [Fintype E] in
/-- The worth of the first frame, and of the others. -/
@[simp] lemma worth_cons (v : E → F → M) (x : E × F) (out : List (E × F)) :
    worth v (x :: out) = v x.1 x.2 + worth v out := by
  simp [worth]

omit [DecidableEq E] [Fintype E] in
/-- The worth of two lists together. -/
lemma worth_append (v : E → F → M) (out out' : List (E × F)) :
    worth v (out ++ out') = worth v out + worth v out' := by
  simp [worth]

omit [DecidableEq E] in
/-- Empty wires carry nothing. -/
@[simp] lemma load_empty (v : E → F → M) : load v (fun _ => []) = 0 := by
  simp [load]

omit [DecidableEq E] [Fintype E] in
/-- Two valuations that agree on the frames of a list. -/
lemma worth_congr {v v' : E → F → M} {out : List (E × F)} (h : ∀ x ∈ out, v x.1 x.2 = v' x.1 x.2) :
    worth v out = worth v' out := by
  unfold worth
  rw [List.map_congr_left h]

omit [DecidableEq E] [Fintype E] in
/-- Frames that are all worth the same. -/
lemma worth_const (c : ℕ) (out : List (E × F)) : worth (fun _ _ => c) out = c * out.length := by
  rw [worth, List.map_const', List.sum_replicate, smul_eq_mul, mul_comm]

omit [DecidableEq E] [Fintype E] in
/-- Counting the frames of a kind, each of them with a factor. -/
lemma worth_ite (c : ℕ) (p : E → F → Prop) [∀ e f, Decidable (p e f)] (out : List (E × F)) :
    worth (fun e f => if p e f then c else 0) out = c * out.countP fun x => p x.1 x.2 := by
  induction out with
  | nil => rfl
  | cons x out ih =>
      rw [worth_cons, ih, List.countP_cons, Nat.mul_add, add_comm]
      by_cases hp : p x.1 x.2
      · simp [hp]
      · simp [hp]

omit [DecidableEq E] in
/-- A valuation that is higher everywhere gives a higher load. -/
lemma load_mono {v v' : E → F → ℕ} (h : ∀ e f, v e f ≤ v' e f) (w : Wires E F) :
    load v w ≤ load v' w :=
  Finset.sum_le_sum fun e _ => List.sum_le_sum fun f _ => h e f

/-- One wire apart from the others. -/
lemma load_update (v : E → F → M) (w : Wires E F) (e : E) (fs : List F) :
    load v (Function.update w e fs) =
      (fs.map (v e)).sum + ∑ e' ∈ Finset.univ.erase e, ((w e').map (v e')).sum := by
  unfold load
  rw [← Finset.add_sum_erase Finset.univ _ (Finset.mem_univ e), Function.update_self]
  congr 1
  refine Finset.sum_congr rfl fun e' he' => ?_
  rw [Function.update_of_ne (Finset.ne_of_mem_erase he')]

/-- **Sending adds to the load** what is sent. -/
lemma load_send (v : E → F → M) (w : Wires E F) (out : List (E × F)) :
    load v (w.send out) = load v w + worth v out := by
  induction out generalizing w with
  | nil => simp
  | cons x out ih =>
      obtain ⟨e, f⟩ := x
      have hone : load v (Function.update w e (w e ++ [f])) = load v w + v e f := by
        have hw := load_update v w e (w e)
        rw [Function.update_eq_self] at hw
        rw [load_update, hw, List.map_append, List.sum_append, List.map_singleton,
          List.sum_singleton]
        abel
      rw [send_cons, ih, hone, worth_cons, add_assoc]

/-- **Taking a frame off a wire** takes its worth off the load. -/
lemma load_take (v : E → F → M) {w : Wires E F} {e : E} {f : F} (h : (w e).head? = some f) :
    load v w = v e f + load v (w.take e) := by
  obtain ⟨fs, hfs⟩ := List.head?_eq_some_iff.mp h
  have hw := load_update v w e (w e)
  rw [Function.update_eq_self] at hw
  rw [take, load_update, hw, hfs, List.map_cons, List.sum_cons, List.tail_cons, add_assoc]

end Wires

/-! ## Networks -/

/-- What the nodes of a network do with a frame that comes in. -/
structure Network (S E F : Type*) where
  /-- The nodes at the start. -/
  init : S
  /-- The nodes after a frame has come in at an end, and what is put on the wires. -/
  handle : S → E → F → S × List (E × F)

namespace Network

/-- The nodes and the wires, with everything that was put on a wire from outside and everything that
came in so far. The last two are not read by any node: they are the history that is spoken of. -/
structure State (S E F : Type*) where
  nodes : S
  wires : Wires E F
  sent : List (E × F)
  arrived : List (E × F)

/-- What happens in a network. -/
inductive Event (E F : Type*)
  /-- A frame is put on a wire from outside. -/
  | send (e : E) (f : F)
  /-- The first frame of a wire comes in. -/
  | arrive (e : E)
  /-- The first frame of a wire is lost. -/
  | lose (e : E)

variable [DecidableEq E]

/-- The runs of a network. -/
def machine (N : Network S E F) : Machine (State S E F) (Event E F) where
  init := ⟨N.init, fun _ => [], [], []⟩
  step s
    | .send e f => some { s with wires := s.wires.send [(e, f)], sent := s.sent ++ [(e, f)] }
    | .arrive e => (s.wires e).head?.map fun f =>
        { s with
          nodes := (N.handle s.nodes e f).1
          wires := (s.wires.take e).send (N.handle s.nodes e f).2
          arrived := s.arrived ++ [(e, f)] }
    | .lose e => (s.wires e).head?.map fun _ => { s with wires := s.wires.take e }

/-- No frame is lost. -/
def Lossless (_ : State S E F) : Event E F → Prop
  | .lose _ => False
  | _ => True

/-- A step is tested by its kind. -/
instance (s : State S E F) : DecidablePred (Lossless s)
  | .send _ _ => inferInstanceAs (Decidable True)
  | .arrive _ => inferInstanceAs (Decidable True)
  | .lose _ => inferInstanceAs (Decidable False)

/-- Nothing is on its way. -/
def Quiet (s : State S E F) : Prop := ∀ e, s.wires e = []

variable {N : Network S E F} {P : State S E F → Event E F → Prop}

/-- **Everything a step can do.** A frame is sent by a host, or the first one at an end comes in
there or is lost. -/
lemma step_cases {s t : State S E F} {a : Event E F} (h : N.machine.step s a = some t) :
    (∃ e f, a = .send e f ∧
      t = { s with wires := s.wires.send [(e, f)], sent := s.sent ++ [(e, f)] }) ∨
    (∃ e f, a = .arrive e ∧ (s.wires e).head? = some f ∧
      t = { s with
        nodes := (N.handle s.nodes e f).1
        wires := (s.wires.take e).send (N.handle s.nodes e f).2
        arrived := s.arrived ++ [(e, f)] }) ∨
    (∃ e f, a = .lose e ∧ (s.wires e).head? = some f ∧ t = { s with wires := s.wires.take e }) := by
  cases a with
  | send e f => exact .inl ⟨e, f, rfl, (Option.some_inj.mp h).symm⟩
  | arrive e =>
      obtain ⟨f, hf, ht⟩ := Option.map_eq_some_iff.mp h
      exact .inr (.inl ⟨e, f, rfl, hf, ht.symm⟩)
  | lose e =>
      obtain ⟨f, hf, ht⟩ := Option.map_eq_some_iff.mp h
      exact .inr (.inr ⟨e, f, rfl, hf, ht.symm⟩)

/-- **What is true of every frame on its way**: it is true of what is sent, and of what the nodes
put on the wires when it is true of what comes in. -/
theorem on_wires {Q : E → F → Prop} (hsend : ∀ s e f, P s (.send e f) → Q e f)
    (h : ∀ s e f, N.machine.Reach P s → (∀ e, ∀ f ∈ s.wires e, Q e f) → (s.wires e).head? = some f →
      P s (.arrive e) → ∀ x ∈ (N.handle s.nodes e f).2, Q x.1 x.2)
    {s : State S E F} (hs : N.machine.Reach P s) : ∀ e, ∀ f ∈ s.wires e, Q e f := by
  refine hs.invariant (I := fun s => ∀ e, ∀ f ∈ s.wires e, Q e f) ?_ ?_
  · intro e f hf
    cases hf
  · intro s a t hs ih ha hstep
    rcases step_cases hstep with ⟨e, f, rfl, rfl⟩ | ⟨e, f, rfl, hf, rfl⟩ | ⟨e, f, -, -, rfl⟩
    · intro e' f' hf'
      rcases Wires.mem_send.mp hf' with hold | hnew
      · exact ih e' f' hold
      · cases List.mem_singleton.mp hnew
        exact hsend s e f ha
    · intro e' f' hf'
      rcases Wires.mem_send.mp hf' with hold | hnew
      · exact ih e' f' (Wires.mem_take hold)
      · exact h s e f hs ih hf ha _ hnew
    · intro e' f' hf'
      exact ih e' f' (Wires.mem_take hf')

/-- What is true of every frame on its way is true of every frame that has come in. A frame that
comes in was on its way. -/
theorem all_arrived {Q : E → F → Prop}
    (hwires : ∀ s, N.machine.Reach P s → ∀ e, ∀ f ∈ s.wires e, Q e f) {s : State S E F}
    (hs : N.machine.Reach P s) : ∀ x ∈ s.arrived, Q x.1 x.2 := by
  refine hs.invariant (I := fun s => ∀ x ∈ s.arrived, Q x.1 x.2) ?_ ?_
  · intro x hx
    cases hx
  · intro s a t hs ih _ hstep
    rcases step_cases hstep with ⟨e, f, -, rfl⟩ | ⟨e, f, -, hf, rfl⟩ | ⟨e, f, -, -, rfl⟩
    · exact ih
    · intro x hx
      rcases List.mem_append.mp hx with hold | hnew
      · exact ih x hold
      · cases List.mem_singleton.mp hnew
        exact hwires s hs e f (List.mem_of_head? hf)
    · exact ih

/-- What is true of everything that may be sent is true of everything that was sent. The frames that
are sent are in the events only. -/
theorem all_sent {Q : E → F → Prop} (hsend : ∀ s e f, P s (.send e f) → Q e f) {s : State S E F}
    (hs : N.machine.Reach P s) : ∀ x ∈ s.sent, Q x.1 x.2 := by
  refine hs.invariant (I := fun s => ∀ x ∈ s.sent, Q x.1 x.2) ?_ ?_
  · intro x hx
    cases hx
  · intro s a t _ ih ha hstep
    rcases step_cases hstep with ⟨e, f, rfl, rfl⟩ | ⟨e, f, -, -, rfl⟩ | ⟨e, f, -, -, rfl⟩
    · intro x hx
      rcases List.mem_append.mp hx with hold | hnew
      · exact ih x hold
      · cases List.mem_singleton.mp hnew
        exact hsend s e f ha
    · exact ih
    · exact ih

section worth

variable [Fintype E]

/-- **What is conserved.** Each arrival is worth `r`, the nodes have made `m` so far, and no frame
is lost. If a frame that comes in, with what the nodes make then, is worth what it was worth on its
wire, so is everything that was ever sent or made. -/
theorem conserves [AddCancelCommMonoid M] {v r : E → F → M} {m : S → M}
    (hP : ∀ s e, ¬ P s (.lose e)) (hinit : m N.init = 0)
    (h : ∀ s e f, N.machine.Reach P s → (s.wires e).head? = some f →
      r e f + Wires.worth v (N.handle s.nodes e f).2 + m s.nodes =
        v e f + m (N.handle s.nodes e f).1)
    {s : State S E F} (hs : N.machine.Reach P s) :
    Wires.worth r s.arrived + Wires.load v s.wires = Wires.worth v s.sent + m s.nodes := by
  refine hs.invariant (I := fun s => Wires.worth r s.arrived + Wires.load v s.wires =
    Wires.worth v s.sent + m s.nodes) ?_ ?_
  · show Wires.worth r [] + Wires.load v (fun _ => []) = Wires.worth v [] + m N.init
    rw [hinit, Wires.load_empty]
    rfl
  · intro s a t hs ih ha hstep
    rcases step_cases hstep with ⟨e, f, -, rfl⟩ | ⟨e, f, -, hf, rfl⟩ | ⟨e, f, rfl, -, -⟩
    · dsimp only
      rw [Wires.load_send, Wires.worth_append, ← add_assoc, ih]
      abel
    · dsimp only
      have hone := h s e f hs hf
      rw [Wires.load_take v hf] at ih
      rw [Wires.load_send, Wires.worth_append, Wires.worth_cons, Wires.worth_nil, add_zero]
      refine add_right_cancel (b := m s.nodes) ?_
      calc
        Wires.worth r s.arrived + r e f +
              (Wires.load v (s.wires.take e) + Wires.worth v (N.handle s.nodes e f).2) +
              m s.nodes
            = Wires.worth r s.arrived + Wires.load v (s.wires.take e) +
                (r e f + Wires.worth v (N.handle s.nodes e f).2 + m s.nodes) := by abel
        _ = Wires.worth r s.arrived + (v e f + Wires.load v (s.wires.take e)) +
                m (N.handle s.nodes e f).1 := by
              rw [hone]
              abel
        _ = Wires.worth v s.sent + m (N.handle s.nodes e f).1 + m s.nodes := by
              rw [ih]
              abel
    · exact absurd ha (hP s e)

/-- **What bounds the traffic.** If a frame that comes in is worth at least `r` more than those it
puts on the wires, the arrivals of a run are worth no more than what was sent, whatever is lost. -/
theorem arrivals_le [AddCommMonoid M] [PartialOrder M] [IsOrderedAddMonoid M] [CanonicallyOrderedAdd M]
    {v r : E → F → M}
    (h : ∀ s e f, N.machine.Reach P s → (s.wires e).head? = some f →
      r e f + Wires.worth v (N.handle s.nodes e f).2 ≤ v e f)
    {s : State S E F} (hs : N.machine.Reach P s) :
    Wires.worth r s.arrived + Wires.load v s.wires ≤ Wires.worth v s.sent := by
  refine hs.invariant (I := fun s => Wires.worth r s.arrived + Wires.load v s.wires ≤
    Wires.worth v s.sent) ?_ ?_
  · show Wires.worth r [] + Wires.load v (fun _ => []) ≤ Wires.worth v []
    rw [Wires.load_empty]
    exact le_of_eq (add_zero _)
  · intro s a t hs ih _ hstep
    rcases step_cases hstep with ⟨e, f, -, rfl⟩ | ⟨e, f, -, hf, rfl⟩ | ⟨e, f, -, hf, rfl⟩
    · dsimp only
      rw [Wires.load_send, Wires.worth_append, ← add_assoc]
      exact add_le_add_left ih _
    · dsimp only
      rw [Wires.load_take v hf] at ih
      rw [Wires.load_send, Wires.worth_append, Wires.worth_cons, Wires.worth_nil, add_zero]
      calc
        Wires.worth r s.arrived + r e f +
              (Wires.load v (s.wires.take e) + Wires.worth v (N.handle s.nodes e f).2)
            = Wires.worth r s.arrived + (r e f + Wires.worth v (N.handle s.nodes e f).2 +
                Wires.load v (s.wires.take e)) := by abel
        _ ≤ Wires.worth r s.arrived + (v e f + Wires.load v (s.wires.take e)) :=
              add_le_add_right (add_le_add_left (h s e f hs hf) _) _
        _ ≤ Wires.worth v s.sent := ih
    · dsimp only
      rw [Wires.load_take v hf] at ih
      exact (add_le_add_right le_add_self _).trans ih

end worth

end Network

end P4xos.Lib
