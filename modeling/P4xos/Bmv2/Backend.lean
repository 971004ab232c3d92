import P4xos.Bmv2.Learner

/-!
# The replicated application: a database

`SimpleDatabase` of `bmv2/scripts/backend.py`, whose method `execute` is the handler of a replica's
commands.

A command is what `json.loads` makes of a message (`Json`). Reading it can fail in every way
Python's subscripts can: a name or an index that is missing, a value that has no subscripts, a key
that cannot be hashed. Python takes equal numbers for one key of a dictionary, so `1`, `1.0` and
`True` are one `Key`. `json.loads`, the text `str(v)` of a value that is no text itself, and the
depth of the interpreter are parameters (`simpleDatabase`). The texts that `json.loads` returns are
of type `unicode`, and so is the result of a `get` that finds one (`format`).

* `execute_raises`: whether a command raises does not depend on the database, so
  `accepts_of_executes`: it is enough to try it on an empty one.
-/

namespace P4xos.Bmv2

open P4xos.Lib

/-- A number as `json.loads` reads it. A float has a sign of its own, so that `-0.0` is not `0.0`,
and a literal out of the range of floats is infinite. -/
inductive Number
  | int (n : ℤ)
  | float (negative : Bool) (magnitude : ℚ)
  | inf (negative : Bool)

/-- What `json.loads` returns; a dictionary by its items. -/
inductive Json
  | null
  | bool (b : Bool)
  | num (x : Number)
  | str (s : String)
  | arr (elems : List Json)
  | obj (items : List (String × Json))

/-- A key of a dictionary, up to Python's `==`. -/
inductive Key
  | none
  | num (x : ℚ)
  | inf (negative : Bool)
  | str (s : String)
  deriving DecidableEq

/-- The key a number is. -/
def Number.key : Number → Key
  | .int n => .num n
  | .float false magnitude => .num magnitude
  | .float true magnitude => .num (-magnitude)
  | .inf negative => .inf negative

namespace Json

/-- The key a value is; lists and dictionaries cannot be hashed. Python compares keys by `==`, so
equal numbers are one. -/
def key : Json → Except PyExc Key
  | .null => .ok .none
  | .bool b => .ok (.num (if b then 1 else 0))
  | .num x => .ok x.key
  | .str s => .ok (.str s)
  | .arr _ | .obj _ => .error .TypeError

/-- `v[name]`, for a text `name`. Other values have no names. -/
def item (name : String) : Json → Except PyExc Json
  | .obj items =>
      match items.lookup name with
      | some v => .ok v
      | none => .error .KeyError
  | _ => .error .TypeError

/-- `v[0]`; the names of a dictionary are texts, and 0 is none of them. -/
def first : Json → Except PyExc Json
  | .arr [] => .error .IndexError
  | .arr (v :: _) => .ok v
  | .str s =>
      match s.toList with
      | [] => .error .IndexError
      | c :: _ => .ok (.str (String.singleton c))
  | .obj _ => .error .KeyError
  | _ => .error .TypeError

end Json

/-- Source: `bmv2/scripts/backend.py` `SimpleDatabase` -/
structure SimpleDatabase where
  db : Key → Option Json

namespace SimpleDatabase

/-- It is empty.
Source: `bmv2/scripts/backend.py` `SimpleDatabase.__init__` -/
def new : SimpleDatabase := ⟨fun _ => none⟩

/-- The bytes of `"Success\n"`. -/
def successText : Bytes := [83, 117, 99, 99, 101, 115, 115, 10]

/-- `'%s\n' % v`. With a text in the place of `%s` the result is a `unicode` as well; `text v` is
`str(v)` of the other values, which is a byte string.
Source: `bmv2/scripts/backend.py` `execute` -/
def format (text : Json → Bytes) : Json → PyText
  | .str s => .unicode (s ++ "\n")
  | v => .bytes (text v ++ [10])

/-- Execute a command: the database after it, the result the `Deferred` is called back with, and the
exception. Another action does nothing, and does not call back. `self.db.get(k)` gives `None` for a
missing key, and never a `KeyError`.
Source: `bmv2/scripts/backend.py` `execute` -/
def execute (text : Json → Bytes) (self : SimpleDatabase) (cmd : Json) :
    SimpleDatabase × Option PyText × Option PyExc :=
  match cmd.item "action" with
  | .error e => (self, none, some e)
  | .ok (.str "put") =>
      let read : Except PyExc (Key × Json) := do
        let k ← (← cmd.item "key").first
        let v ← (← cmd.item "value").first
        return (← k.key, v)
      match read with
      | .error e => (self, none, some e)
      | .ok (k, v) => (⟨Function.update self.db k (some v)⟩, some (.bytes successText), none)
  | .ok (.str "get") =>
      let read : Except PyExc Key := do
        let k ← (← cmd.item "key").first
        k.key
      match read with
      | .error e => (self, none, some e)
      | .ok k => (self, some (format text ((self.db k).getD .null)), none)
  | .ok _ => (self, none, none)

/-- Whether a command raises, and what, does not depend on the database. -/
lemma execute_raises (text : Json → Bytes) (s t : SimpleDatabase) (cmd : Json) :
    (execute text s cmd).2.2 = (execute text t cmd).2.2 := by
  unfold execute
  split
  · rfl
  · dsimp only
    split <;> rfl
  · dsimp only
    split <;> rfl
  · rfl

end SimpleDatabase

/-- The database behind a replica.
Source: `bmv2/scripts/backend.py` `main`, `learner.addDeliver(dbserver.execute)` -/
def simpleDatabase (loads : Bytes → Except PyExc Json) (text : Json → Bytes) (depth : ℕ) :
    Application SimpleDatabase Json where
  loads := loads
  deliver := SimpleDatabase.execute text
  depth := depth

/-- A message whose command an empty database executes. -/
lemma accepts_of_executes {loads : Bytes → Except PyExc Json} {text : Json → Bytes} {depth : ℕ}
    {v : Bytes} (h : ∃ cmd, loads v = .ok cmd ∧
      (SimpleDatabase.execute text SimpleDatabase.new cmd).2.2 = none) :
    Learner.Accepts (simpleDatabase loads text depth) v := by
  obtain ⟨cmd, hload, hexec⟩ := h
  exact ⟨cmd, hload, fun s => (SimpleDatabase.execute_raises text s _ cmd).trans hexec⟩

end P4xos.Bmv2
