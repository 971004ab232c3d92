import P4xos.Bmv2.Backend
import P4xos.Bmv2.Sequential
import P4xos.Lib.LastWrite

/-!
# The replicated database as a key-value store

A server that executes requests one after the other (`served`), with the database of
`bmv2/scripts/backend.py` behind it.

1. `resultAt` is what the handler calls back with for a request, and `textAt` the bytes of it that
`str` gives. `respond_mem_served_iff`: the server sends these, each to the client of its own
request, and no other replies. 2. `execute_eq`: `SimpleDatabase.execute` is a write, a read or
nothing, by what it reads out of the command (`Json.op`); `opAt` is that of a request. 3.
`served_database`: the database has the last value that the requests served have put for each key,
as the library's `stored` says. 4. `Answers` is what a store answers: that a put succeeded, the
value of the last put of the key, or the text for a missing value. `resultAt_database`: the database
answers like a store, and in one way (`Answers.unique`). 5. `textAt_database` adds what `str` does
to the result: a value with a character outside ASCII is read, but has no text to be sent.
-/

namespace P4xos.Bmv2

open P4xos.Lib PaxosLearner

variable {σ Cmd : Type*}

namespace Learner

/-! ## Results -/

/-- What the handler calls back with for request `i`. -/
def resultAt (app : Application σ Cmd) (a₀ : σ) (R : ℕ → Request) (i : ℕ) : Option PyText :=
  match app.loads (R i).value with
  | .error _ => none
  | .ok c => (app.deliver (served app a₀ R (i - 1)).1 c).2.1

/-- The text that request `i` is answered with, if the handler calls back and `str` takes the
result. -/
def textAt (app : Application σ Cmd) (a₀ : σ) (R : ℕ → Request) (i : ℕ) : Option Bytes :=
  resultText (resultAt app a₀ R i)

/-- Only the requests up to `i` matter. Later requests are executed later. -/
lemma resultAt_congr (app : Application σ Cmd) (a₀ : σ) {R R' : ℕ → Request} {i : ℕ} (h1 : 1 ≤ i)
    (h : ∀ j, 1 ≤ j → j ≤ i → R j = R' j) : resultAt app a₀ R i = resultAt app a₀ R' i := by
  unfold resultAt
  rw [h i h1 le_rfl, served_congr app a₀ fun j hj hle => h j hj (hle.trans (Nat.sub_le i 1))]

/-- Only the requests up to `i` matter. -/
lemma textAt_congr (app : Application σ Cmd) (a₀ : σ) {R R' : ℕ → Request} {i : ℕ} (h1 : 1 ≤ i)
    (h : ∀ j, 1 ≤ j → j ≤ i → R j = R' j) : textAt app a₀ R i = textAt app a₀ R' i := by
  unfold textAt
  rw [resultAt_congr app a₀ h1 h]

/-- The state after one more request. -/
lemma served_state (app : Application σ Cmd) (a₀ : σ) (R : ℕ → Request) (k : ℕ) :
    (served app a₀ R (k + 1)).1 =
      match app.loads (R (k + 1)).value with
      | .error _ => (served app a₀ R k).1
      | .ok c => (app.deliver (served app a₀ R k).1 c).1 := by
  rw [served]
  rcases app.loads (R (k + 1)).value with e | c
  · rfl
  · rfl

/-- The call of the handler for request `i`, if it parses. -/
def callOf (app : Application σ Cmd) (R : ℕ → Request) (i : ℕ) : List (Out Cmd) :=
  match app.loads (R i).value with
  | .error _ => []
  | .ok c => [.deliver i c]

/-- What is done for one more request. -/
lemma served_outs (app : Application σ Cmd) (a₀ : σ) (R : ℕ → Request) (k : ℕ) :
    (served app a₀ R (k + 1)).2 = (served app a₀ R k).2 ++
      (callOf app R (k + 1) ++ ((textAt app a₀ R (k + 1)).map (reply Cmd (R (k + 1)))).toList) := by
  rw [served, textAt, resultAt, callOf, Nat.add_sub_cancel]
  rcases app.loads (R (k + 1)).value with e | c
  · exact (List.append_nil _).symm
  · rfl

/-- One more request: its result is sent, if there is one. The call of the handler is another kind
of output. -/
lemma respond_mem_served_succ {app : Application σ Cmd} {a₀ : σ} {R : ℕ → Request} {k : ℕ}
    {data : Bytes} {dst : String} {sport dport : ℕ} :
    .respond data dst sport dport ∈ (served app a₀ R (k + 1)).2 ↔
      .respond data dst sport dport ∈ (served app a₀ R k).2 ∨
        ∃ text, textAt app a₀ R (k + 1) = some text ∧
          reply Cmd (R (k + 1)) text = .respond data dst sport dport := by
  have hcall : (.respond data dst sport dport : Out Cmd) ∉ callOf app R (k + 1) := by
    unfold callOf
    rcases app.loads (R (k + 1)).value with e | c
    · exact List.not_mem_nil
    · intro h
      cases List.mem_singleton.mp h
  rw [served_outs, List.mem_append, List.mem_append, Option.mem_toList, Option.map_eq_some_iff]
  constructor
  · rintro (h | h | h)
    · exact .inl h
    · exact absurd h hcall
    · exact .inr h
  · rintro (h | h)
    · exact .inl h
    · exact .inr (.inr h)

/-- **A server sends the texts of the results of its requests**, and no other replies. By induction
on the number of requests. -/
lemma respond_mem_served_iff {app : Application σ Cmd} {a₀ : σ} {R : ℕ → Request} {k : ℕ}
    {data : Bytes} {dst : String} {sport dport : ℕ} :
    .respond data dst sport dport ∈ (served app a₀ R k).2 ↔
      ∃ i text, 1 ≤ i ∧ i ≤ k ∧ textAt app a₀ R i = some text ∧
        reply Cmd (R i) text = .respond data dst sport dport := by
  induction k with
  | zero =>
      constructor
      · intro h
        cases h
      · rintro ⟨i, text, h1, h0, -⟩
        omega
  | succ k ih =>
      rw [respond_mem_served_succ, ih]
      constructor
      · rintro (⟨i, text, h1, hi, h⟩ | ⟨text, h⟩)
        · exact ⟨i, text, h1, Nat.le_succ_of_le hi, h⟩
        · exact ⟨k + 1, text, Nat.le_add_left 1 k, le_rfl, h⟩
      · rintro ⟨i, text, h1, hi, h⟩
        rcases hi.eq_or_lt with rfl | hlt
        · exact .inr ⟨text, h⟩
        · exact .inl ⟨i, text, h1, Nat.le_of_lt_succ hlt, h⟩

end Learner

/-! ## The database -/

/-- What a command asks the database for. -/
inductive Op
  | put (k : Key) (v : Json)
  | get (k : Key)
  /-- Another action, which does nothing. -/
  | other

/-- What `execute` reads out of a command. -/
def Json.op (cmd : Json) : Except PyExc Op :=
  match cmd.item "action" with
  | .error e => .error e
  | .ok (.str "put") => do
      let k ← (← cmd.item "key").first
      let v ← (← cmd.item "value").first
      return .put (← k.key) v
  | .ok (.str "get") => do
      let k ← (← cmd.item "key").first
      return .get (← k.key)
  | .ok _ => .ok .other

/-- Another action. The cases are those of `Json.op`: no action, a put, a get, and anything else. -/
lemma Json.op_other {cmd action : Json} (h : cmd.item "action" = .ok action)
    (hput : action ≠ .str "put") (hget : action ≠ .str "get") : cmd.op = .ok .other := by
  unfold Json.op
  rw [h]
  split
  · rename_i heq
    cases heq
  · rename_i heq
    cases heq
    exact absurd rfl hput
  · rename_i heq
    cases heq
    exact absurd rfl hget
  · rfl

namespace SimpleDatabase

/-- It leaves the database as it is, and calls back with nothing. The cases are those of `execute`.
-/
lemma execute_other (text : Json → Bytes) (self : SimpleDatabase) {cmd action : Json}
    (h : cmd.item "action" = .ok action) (hput : action ≠ .str "put") (hget : action ≠ .str "get") :
    execute text self cmd = (self, none, none) := by
  unfold execute
  rw [h]
  split
  · rename_i heq
    cases heq
  · rename_i heq
    cases heq
    exact absurd rfl hput
  · rename_i heq
    cases heq
    exact absurd rfl hget
  · rfl

/-- **A command is a write, a read or nothing**, or it raises. By the action, with the exceptions in
the order in which the source looks up the items. -/
lemma execute_eq (text : Json → Bytes) (self : SimpleDatabase) (cmd : Json) :
    execute text self cmd =
      match cmd.op with
      | .error e => (self, none, some e)
      | .ok (.put k v) => (⟨Function.update self.db k (some v)⟩, some (.bytes successText), none)
      | .ok (.get k) => (self, some (format text ((self.db k).getD .null)), none)
      | .ok .other => (self, none, none) := by
  rcases haction : cmd.item "action" with e | action
  · unfold execute Json.op
    rw [haction]
  · by_cases hput : action = .str "put"
    · subst hput
      unfold execute Json.op
      rw [haction]
      dsimp only
      rcases cmd.item "key" with e | ks
      · rfl
      · rcases hk : ks.first with e | k
        · simp only [bind, Except.bind, hk]
        · rcases cmd.item "value" with e | vs
          · simp only [bind, Except.bind, hk]
          · rcases hv : vs.first with e | v
            · simp only [bind, Except.bind, hk, hv]
            · rcases hkey : k.key with e | k'
              · simp only [bind, Except.bind, hk, hv, hkey]
              · simp only [bind, Except.bind, pure, Except.pure, hk, hv, hkey]
    · by_cases hget : action = .str "get"
      · subst hget
        unfold execute Json.op
        rw [haction]
        dsimp only
        rcases cmd.item "key" with e | ks
        · rfl
        · rcases hk : ks.first with e | k
          · simp only [bind, Except.bind, hk]
          · rcases hkey : k.key with e | k'
            · simp only [bind, Except.bind, hk, hkey]
            · simp only [bind, Except.bind, pure, Except.pure, hk, hkey]
      · rw [execute_other text self haction hput hget, Json.op_other haction hput hget]

end SimpleDatabase

/-- What request `i` asks for, if it can be read. -/
def opAt (loads : Bytes → Except PyExc Json) (R : ℕ → Request) (i : ℕ) : Option Op :=
  (loads (R i).value >>= Json.op).toOption

/-- What request `i` writes. -/
def writeAt (loads : Bytes → Except PyExc Json) (R : ℕ → Request) (i : ℕ) : Option (Key × Json) :=
  match opAt loads R i with
  | some (.put k v) => some (k, v)
  | _ => none

section database

variable {loads : Bytes → Except PyExc Json} {text : Json → Bytes} {depth : ℕ} {R : ℕ → Request}

/-- **The database is a store** of what the requests write. An induction on the requests: a put
writes its key, and a text that is no command, a get and another action write nothing. -/
lemma served_database (n : ℕ) :
    (Learner.served (simpleDatabase loads text depth) SimpleDatabase.new R n).1.db =
      stored (writeAt loads R) n := by
  induction n with
  | zero => rfl
  | succ n ih =>
      rw [Learner.served_state, stored, writeAt, opAt]
      unfold simpleDatabase at ih ⊢
      dsimp only
      rcases loads (R (n + 1)).value with e | c
      · exact ih
      · dsimp only [bind, Except.bind]
        rw [SimpleDatabase.execute_eq]
        rcases c.op with e | ⟨k, v⟩ | k | _
        · exact ih
        · exact congrArg (fun db => Function.update db k (some v)) ih
        · exact ih
        · exact ih

/-- What a store answers request `i` with: that a put succeeded, or the value of the last put of the
key that is asked for. -/
inductive Answers (loads : Bytes → Except PyExc Json) (text : Json → Bytes) (R : ℕ → Request) (i : ℕ) :
    PyText → Prop
  | put {k : Key} {v : Json} (h : opAt loads R i = some (.put k v)) :
      Answers loads text R i (.bytes SimpleDatabase.successText)
  | get {k : Key} {v : Json} (h : opAt loads R i = some (.get k))
      (hlast : LastWrite (writeAt loads R) (i - 1) k v) :
      Answers loads text R i (SimpleDatabase.format text v)
  | missing {k : Key} (h : opAt loads R i = some (.get k))
      (hnone : ∀ j, 1 ≤ j → j ≤ i - 1 → ∀ v, writeAt loads R j ≠ some (k, v)) :
      Answers loads text R i (SimpleDatabase.format text .null)

/-- What the handler calls back with, by what the request asks for. The database before the request
is the store of what was written before it. -/
lemma resultAt_eq (i : ℕ) :
    Learner.resultAt (simpleDatabase loads text depth) SimpleDatabase.new R i =
      match opAt loads R i with
      | some (.put _ _) => some (.bytes SimpleDatabase.successText)
      | some (.get k) =>
          some (SimpleDatabase.format text ((stored (writeAt loads R) (i - 1) k).getD .null))
      | some .other => none
      | none => none := by
  rw [← @served_database loads text depth, Learner.resultAt, opAt]
  generalize (Learner.served (simpleDatabase loads text depth) SimpleDatabase.new R (i - 1)).1 = db
  unfold simpleDatabase
  dsimp only
  rcases loads (R i).value with e | c
  · rfl
  · dsimp only [bind, Except.bind]
    rw [SimpleDatabase.execute_eq]
    rcases c.op with e | ⟨k, v⟩ | k | _
    · rfl
    · rfl
    · rfl
    · rfl

/-- **The database answers like a store.** By the kind of request: a put answers success, a get the
value that the last put of its key before it has written, or `None` without one, and another command
does not call back. -/
lemma resultAt_database {i : ℕ} {res : PyText} :
    Learner.resultAt (simpleDatabase loads text depth) SimpleDatabase.new R i = some res ↔
      Answers loads text R i res := by
  rw [resultAt_eq]
  rcases hop : opAt loads R i with _ | ⟨k, v⟩ | k | _
  · constructor
    · intro h
      cases h
    · rintro (h | ⟨h, -⟩ | ⟨h, -⟩) <;> rw [hop] at h <;> cases h
  · constructor
    · intro h
      cases h
      exact .put hop
    · rintro (h | ⟨h, -⟩ | ⟨h, -⟩)
      · rfl
      · rw [hop] at h
        cases h
      · rw [hop] at h
        cases h
  · dsimp only
    constructor
    · intro h
      rcases hstored : stored (writeAt loads R) (i - 1) k with _ | v
      · rw [hstored] at h
        cases h
        exact .missing hop (stored_eq_none_iff.mp hstored)
      · rw [hstored] at h
        cases h
        exact .get hop (stored_eq_some_iff.mp hstored)
    · rintro (h | ⟨h, hlast⟩ | ⟨h, hnone⟩)
      · rw [hop] at h
        cases h
      · rw [hop] at h
        cases h
        rw [stored_eq_some_iff.mpr hlast]
        rfl
      · rw [hop] at h
        cases h
        rw [stored_eq_none_iff.mpr hnone]
        rfl
  · constructor
    · intro h
      cases h
    · rintro (h | ⟨h, -⟩ | ⟨h, -⟩) <;> rw [hop] at h <;> cases h

/-- A store answers a request in one way. -/
lemma Answers.unique {i : ℕ} {res res' : PyText} (h : Answers loads text R i res)
    (h' : Answers loads text R i res') : res = res' :=
  have hres : Learner.resultAt (simpleDatabase loads text 0) SimpleDatabase.new R i = some res :=
    resultAt_database.mpr h
  Option.some_inj.mp (hres.symm.trans (resultAt_database.mpr h'))

/-- The text a request of the database is answered with is that of what a store answers. -/
lemma textAt_database {i : ℕ} {b : Bytes} :
    Learner.textAt (simpleDatabase loads text depth) SimpleDatabase.new R i = some b ↔
      ∃ res, Answers loads text R i res ∧ res.str = .ok b := by
  unfold Learner.textAt
  rw [Learner.resultText_eq_some]
  exact exists_congr fun res => and_congr_left fun _ => resultAt_database

end database

end P4xos.Bmv2
