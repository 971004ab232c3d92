import Mathlib
import P4xos.Lib.Promise

/-!
# The Netronome plugin

`netrodemo/paxos.c`: the acceptor and the sequencer as C functions that the pipeline of `cans.p4`
calls on a parsed header; `netrodemo/commands.rules` selects the function by the message type. The
state is in arrays of `MAX_INST` entries that are indexed with the instance field of the packet. An
access outside an array is undefined behaviour, here `none`: nothing is known of a run from there
on.

* `phase1a_eq`, `phase2a_eq` and `call_eq_none` say everything a call of the acceptor can do: it
  promises, votes, drops what is stale, or goes outside the arrays with its first access.
* `slot_promise` and `slot_accept` are the two updates on the slot of an instance.
* `serves`: with every access inside the arrays, the plugin serves all `MAX_INST` instances as the
  abstract acceptor does. Its value, eight words in the program, is one number there.
* `run_call_eq`: a run is defined exactly when all its packets have an instance below `MAX_INST`
  (`run_call_isSome_iff`), and its replies are those of the component.

The instance field has 32 bits and the arrays two million entries, so a packet can be outside them.
-/

namespace P4xos.Netro

open P4xos.Lib

/-- The length of every array.
Source: `netrodemo/paxos.c` `MAX_INST` -/
def MAX_INST : ℕ := 2000000

/-- Every switch answers under this id.
Source: `netrodemo/paxos.c` `SWITCH_ID` -/
def SWITCH_ID : BitVec 16 := 1

/-! ## Message types -/

/-- A request to the sequencer.
Source: `netrodemo/paxos.c` `enum Paxos` -/
def Phase0 : BitVec 16 := 0

/-- Prepare.
Source: `netrodemo/paxos.c` `enum Paxos` -/
def Phase1A : BitVec 16 := 1

/-- Promise.
Source: `netrodemo/paxos.c` `enum Paxos` -/
def Phase1B : BitVec 16 := 2

/-- Accept.
Source: `netrodemo/paxos.c` `enum Paxos` -/
def Phase2A : BitVec 16 := 3

/-- Accepted.
Source: `netrodemo/paxos.c` `enum Paxos` -/
def Phase2B : BitVec 16 := 4

/-! ## Header and state -/

/-- A value: eight words, the first one the most significant. -/
@[ext] structure Words where
  val0 : BitVec 32
  val1 : BitVec 32
  val2 : BitVec 32
  val3 : BitVec 32
  val4 : BitVec 32
  val5 : BitVec 32
  val6 : BitVec 32
  val7 : BitVec 32
  deriving DecidableEq

/-- The number the eight words stand for, as one field of 256 bits. -/
def Words.toNat (w : Words) : ℕ :=
  [w.val0, w.val1, w.val2, w.val3, w.val4, w.val5, w.val6, w.val7].foldl
    (fun n x => n * 2 ^ 32 + BitVec.toNat x) 0

/-- The eight words of a number below `2 ^ 256`. -/
def Words.ofNat (v : ℕ) : Words where
  val0 := BitVec.ofNat 32 (v / 2 ^ 224)
  val1 := BitVec.ofNat 32 (v / 2 ^ 192)
  val2 := BitVec.ofNat 32 (v / 2 ^ 160)
  val3 := BitVec.ofNat 32 (v / 2 ^ 128)
  val4 := BitVec.ofNat 32 (v / 2 ^ 96)
  val5 := BitVec.ofNat 32 (v / 2 ^ 64)
  val6 := BitVec.ofNat 32 (v / 2 ^ 32)
  val7 := BitVec.ofNat 32 v

/-- A number that fits into the eight words is the number they stand for. -/
lemma Words.toNat_ofNat {v : ℕ} (h : v < 2 ^ 256) : (Words.ofNat v).toNat = v := by
  simp only [Words.toNat, Words.ofNat, List.foldl, BitVec.toNat_ofNat]
  omega

/-- The fields of the header that the plugin's Paxos functions read or write.
Source: `netrodemo/cans.p4` `paxos_t` -/
structure PaxosT extends Words where
  inst : BitVec 32
  rnd : BitVec 16
  vrnd : BitVec 16
  acpt : BitVec 16
  msgtype : BitVec 16
  deriving DecidableEq

/-- The plugin's global variables.
Source: `netrodemo/paxos.c` `cur_instance`, `rnds`, `vrnds`, `value0s` .. `value7s` -/
structure Plugin where
  cur_instance : BitVec 32
  rnds : ℕ → BitVec 16
  vrnds : ℕ → BitVec 16
  value0s : ℕ → BitVec 32
  value1s : ℕ → BitVec 32
  value2s : ℕ → BitVec 32
  value3s : ℕ → BitVec 32
  value4s : ℕ → BitVec 32
  value5s : ℕ → BitVec 32
  value6s : ℕ → BitVec 32
  value7s : ℕ → BitVec 32

namespace Plugin

/-- The variables at start-up. -/
def init : Plugin where
  cur_instance := 0
  rnds _ := 0
  vrnds _ := 0
  value0s _ := 0
  value1s _ := 0
  value2s _ := 0
  value3s _ := 0
  value4s _ := 0
  value5s _ := 0
  value6s _ := 0
  value7s _ := 0

/-- `a[i]` as a value. -/
def load {α : Type*} (a : ℕ → α) (i : BitVec 32) : Option α :=
  if i.toNat < MAX_INST then some (a i.toNat) else none

/-- `a[i] = x`. -/
def store {α : Type*} (a : ℕ → α) (i : BitVec 32) (x : α) : Option (ℕ → α) :=
  if i.toNat < MAX_INST then some (Function.update a i.toNat x) else none

/-- The packet is dropped (`none`) or forwarded.
Source: `netrodemo/paxos.c` `pif_plugin_paxos_phase1a` -/
def phase1a (P : Plugin) (paxos : PaxosT) : Option (Plugin × Option PaxosT) := do
  let pkt_inst := paxos.inst
  let rnd ← load P.rnds pkt_inst
  if paxos.rnd < rnd then
    return (P, none)
  else
    let rnds ← store P.rnds pkt_inst paxos.rnd
    let vrnd ← load P.vrnds pkt_inst
    let val0 ← load P.value0s pkt_inst
    let val1 ← load P.value1s pkt_inst
    let val2 ← load P.value2s pkt_inst
    let val3 ← load P.value3s pkt_inst
    let val4 ← load P.value4s pkt_inst
    let val5 ← load P.value5s pkt_inst
    let val6 ← load P.value6s pkt_inst
    let val7 ← load P.value7s pkt_inst
    return ({ P with rnds := rnds },
      some { inst := paxos.inst, rnd := paxos.rnd, vrnd := vrnd, acpt := SWITCH_ID,
             msgtype := Phase1B, val0 := val0, val1 := val1, val2 := val2, val3 := val3,
             val4 := val4, val5 := val5, val6 := val6, val7 := val7 })

/-- Everything that is stored is taken from the packet.
Source: `netrodemo/paxos.c` `pif_plugin_paxos_phase2a` -/
def phase2a (P : Plugin) (paxos : PaxosT) : Option (Plugin × Option PaxosT) := do
  let pkt_inst := paxos.inst
  let rnd ← load P.rnds pkt_inst
  if paxos.rnd < rnd then
    return (P, none)
  else
    let rnds ← store P.rnds pkt_inst paxos.rnd
    let vrnds ← store P.vrnds pkt_inst paxos.rnd
    let value0s ← store P.value0s pkt_inst paxos.val0
    let value1s ← store P.value1s pkt_inst paxos.val1
    let value2s ← store P.value2s pkt_inst paxos.val2
    let value3s ← store P.value3s pkt_inst paxos.val3
    let value4s ← store P.value4s pkt_inst paxos.val4
    let value5s ← store P.value5s pkt_inst paxos.val5
    let value6s ← store P.value6s pkt_inst paxos.val6
    let value7s ← store P.value7s pkt_inst paxos.val7
    return ({ cur_instance := P.cur_instance, rnds := rnds, vrnds := vrnds,
              value0s := value0s, value1s := value1s, value2s := value2s, value3s := value3s,
              value4s := value4s, value5s := value5s, value6s := value6s, value7s := value7s },
      some { paxos with acpt := SWITCH_ID, msgtype := Phase2B })

/-- The first request gets the number 0.
Source: `netrodemo/paxos.c` `pif_plugin_seq_func` -/
def seq_func (P : Plugin) (paxos : PaxosT) : Plugin × PaxosT :=
  ({ P with cur_instance := P.cur_instance + 1 },
    { paxos with inst := P.cur_instance, msgtype := Phase2A })

/-- The counter and all entries of the arrays are zeroed.
Source: `netrodemo/paxos.c` `pif_plugin_reset_registers` -/
def reset_registers (_ : Plugin) : Plugin := init

/-- The functions by message type; a packet of another type is left alone.
Source: `netrodemo/commands.rules` `paxos_tbl` -/
def paxos_tbl (P : Plugin) (paxos : PaxosT) : Option (Plugin × Option PaxosT) :=
  if paxos.msgtype = 1 then phase1a P paxos
  else if paxos.msgtype = 3 then phase2a P paxos
  else if paxos.msgtype = 0 then some ((seq_func P paxos).1, some (seq_func P paxos).2)
  else if paxos.msgtype = 255 then some (reset_registers P, some paxos)
  else some (P, some paxos)

/-- A call of one of the two acceptor functions. -/
inductive Call
  | phase1a (paxos : PaxosT)
  | phase2a (paxos : PaxosT)

/-- The header a call is made on. -/
def Call.paxos : Call → PaxosT
  | .phase1a paxos => paxos
  | .phase2a paxos => paxos

/-- The call. -/
def call (P : Plugin) : Call → Option (Plugin × Option PaxosT)
  | .phase1a paxos => phase1a P paxos
  | .phase2a paxos => phase2a P paxos

/-- The functions called on one input after the other, for as long as their behaviour is defined:
the variables in the end, and what became of each packet. -/
def run {I O : Type*} (f : Plugin → I → Option (Plugin × O)) :
    Plugin → List I → Option (Plugin × List O)
  | P, [] => some (P, [])
  | P, x :: xs => do
      let (P, o) ← f P x
      let (P, os) ← run f P xs
      return (P, o :: os)

/-! ## What one call does -/

/-- The value stored for an instance. -/
def words (P : Plugin) (i : ℕ) : Words where
  val0 := P.value0s i
  val1 := P.value1s i
  val2 := P.value2s i
  val3 := P.value3s i
  val4 := P.value4s i
  val5 := P.value5s i
  val6 := P.value6s i
  val7 := P.value7s i

/-- The variables after answering a 1A. -/
def promise (P : Plugin) (p : PaxosT) : Plugin :=
  { P with rnds := Function.update P.rnds p.inst.toNat p.rnd }

/-- The 1B for a 1A. -/
def answer1b (P : Plugin) (p : PaxosT) : PaxosT where
  toWords := P.words p.inst.toNat
  inst := p.inst
  rnd := p.rnd
  vrnd := P.vrnds p.inst.toNat
  acpt := SWITCH_ID
  msgtype := Phase1B

/-- The variables after answering a 2A. -/
def accept (P : Plugin) (p : PaxosT) : Plugin where
  cur_instance := P.cur_instance
  rnds := Function.update P.rnds p.inst.toNat p.rnd
  vrnds := Function.update P.vrnds p.inst.toNat p.rnd
  value0s := Function.update P.value0s p.inst.toNat p.val0
  value1s := Function.update P.value1s p.inst.toNat p.val1
  value2s := Function.update P.value2s p.inst.toNat p.val2
  value3s := Function.update P.value3s p.inst.toNat p.val3
  value4s := Function.update P.value4s p.inst.toNat p.val4
  value5s := Function.update P.value5s p.inst.toNat p.val5
  value6s := Function.update P.value6s p.inst.toNat p.val6
  value7s := Function.update P.value7s p.inst.toNat p.val7

/-- The 2B for a 2A. -/
def answer2b (p : PaxosT) : PaxosT := { p with acpt := SWITCH_ID, msgtype := Phase2B }

/-- Inside the arrays a 1A is answered, or dropped when it is stale. -/
lemma phase1a_eq (P : Plugin) {p : PaxosT} (h : p.inst.toNat < MAX_INST) :
    phase1a P p = some (if p.rnd < P.rnds p.inst.toNat then (P, none)
      else (promise P p, some (answer1b P p))) := by
  unfold phase1a
  by_cases hr : p.rnd < P.rnds p.inst.toNat
  · simp [load, h, hr]
  · simp [load, store, h, hr]
    exact ⟨rfl, rfl⟩

/-- Inside the arrays a 2A is answered, or dropped when it is stale. -/
lemma phase2a_eq (P : Plugin) {p : PaxosT} (h : p.inst.toNat < MAX_INST) :
    phase2a P p = some (if p.rnd < P.rnds p.inst.toNat then (P, none)
      else (accept P p, some (answer2b p))) := by
  unfold phase2a
  by_cases hr : p.rnd < P.rnds p.inst.toNat
  · simp [load, h, hr]
  · simp [load, store, h, hr]
    exact ⟨rfl, rfl⟩

/-- Outside the arrays the first access is undefined. -/
lemma call_eq_none (P : Plugin) {c : Call} (h : ¬ c.paxos.inst.toNat < MAX_INST) :
    call P c = none := by
  cases c with
  | phase1a p =>
      have h : ¬ p.inst.toNat < MAX_INST := h
      simp [call, phase1a, load, h]
  | phase2a p =>
      have h : ¬ p.inst.toNat < MAX_INST := h
      simp [call, phase2a, load, h]

/-! ## The acceptor as a component -/

/-- What is stored for an instance. -/
def slot (P : Plugin) (i : ℕ) : Slot ℕ where
  round := (P.rnds i).toNat
  vround := (P.vrnds i).toNat
  value := (P.words i).toNat

/-- At the start nothing has been promised and no vote cast. -/
lemma slot_init (i : ℕ) : slot init i = ⟨0, 0, 0⟩ := by
  simp [slot, init, words, Words.toNat]

/-- What a call asks for. -/
def ask : Call → Option (Request ℕ)
  | .phase1a p => some (.prepare p.inst.toNat p.rnd.toNat)
  | .phase2a p => some (.accept p.inst.toNat p.rnd.toNat p.toWords.toNat)

/-- The reply a forwarded header is. -/
def decode (p : PaxosT) : Option (Reply ℕ) :=
  if p.msgtype = Phase1B then
    some (.promise p.inst.toNat p.rnd.toNat p.vrnd.toNat p.toWords.toNat)
  else if p.msgtype = Phase2B then some (.accepted p.inst.toNat p.rnd.toNat p.toWords.toNat)
  else none

/-- One call with its reply, if the behaviour is defined. -/
def step (P : Plugin) (c : Call) : Plugin × Option (Reply ℕ) :=
  match call P c with
  | some (P, out) => (P, out.bind decode)
  | none => (P, none)

/-- A promise raises the round of its own instance. -/
lemma slot_promise (P : Plugin) (p : PaxosT) (i : ℕ) :
    slot (promise P p) i =
      if i = p.inst.toNat then { slot P i with round := p.rnd.toNat } else slot P i := by
  unfold slot promise
  by_cases h : i = p.inst.toNat
  · subst h
    simp [words]
  · simp [words, h]

/-- A vote replaces the slot of its own instance. -/
lemma slot_accept (P : Plugin) (p : PaxosT) (i : ℕ) :
    slot (accept P p) i =
      if i = p.inst.toNat then ⟨p.rnd.toNat, p.rnd.toNat, p.toWords.toNat⟩ else slot P i := by
  unfold slot accept
  by_cases h : i = p.inst.toNat
  · subst h
    simp [words]
  · simp [words, h]

/-- A 1A inside the arrays, with its reply. -/
lemma step_phase1a (P : Plugin) {p : PaxosT} (h : p.inst.toNat < MAX_INST) :
    step P (.phase1a p) = if p.rnd < P.rnds p.inst.toNat then (P, none)
      else (promise P p, some (.promise p.inst.toNat p.rnd.toNat (slot P p.inst.toNat).vround
        (slot P p.inst.toNat).value)) := by
  rw [step, call, phase1a_eq P h]
  split_ifs <;> rfl

/-- A 2A inside the arrays, with its reply. -/
lemma step_phase2a (P : Plugin) {p : PaxosT} (h : p.inst.toNat < MAX_INST) :
    step P (.phase2a p) = if p.rnd < P.rnds p.inst.toNat then (P, none)
      else (accept P p, some (.accepted p.inst.toNat p.rnd.toNat p.toWords.toNat)) := by
  rw [step, call, phase2a_eq P h]
  split_ifs <;> rfl

/-- Outside the arrays there is no reply, and nothing is known of the state. -/
lemma step_of_not_lt (P : Plugin) {c : Call} (h : ¬ c.paxos.inst.toNat < MAX_INST) :
    step P c = (P, none) := by
  rw [step, call_eq_none P h]

/-- **The plugin serves the instances its arrays have room for.** The fields have the width of the
rounds, so no comparison wraps. -/
theorem serves : Serves step ask slot MAX_INST where
  own P c q hq hlt := by
    cases c with
    | phase1a p =>
        cases hq
        rw [Request.inst_prepare] at hlt ⊢
        rw [step_phase1a P hlt]
        by_cases hr : p.rnd < P.rnds p.inst.toNat
        · rw [if_pos hr]
          refine (Slot.handle_stale ?_).symm
          exact hr
        · rw [if_neg hr, slot_promise, if_pos rfl, Slot.handle_prepare (Nat.not_lt.mp hr)]
    | phase2a p =>
        cases hq
        rw [Request.inst_accept] at hlt ⊢
        rw [step_phase2a P hlt]
        by_cases hr : p.rnd < P.rnds p.inst.toNat
        · rw [if_pos hr]
          refine (Slot.handle_stale ?_).symm
          exact hr
        · rw [if_neg hr, slot_accept, if_pos rfl, Slot.handle_accept (Nat.not_lt.mp hr)]
  other P c i _ hne := by
    by_cases hlt : c.paxos.inst.toNat < MAX_INST
    · cases c with
      | phase1a p =>
          have hlt : p.inst.toNat < MAX_INST := hlt
          have hi : i ≠ p.inst.toNat := (hne _ rfl).symm
          rw [step_phase1a P hlt]
          split_ifs
          · rfl
          · exact (slot_promise P p i).trans (if_neg hi)
      | phase2a p =>
          have hlt : p.inst.toNat < MAX_INST := hlt
          have hi : i ≠ p.inst.toNat := (hne _ rfl).symm
          rw [step_phase2a P hlt]
          split_ifs
          · rfl
          · exact (slot_accept P p i).trans (if_neg hi)
    · rw [step_of_not_lt P hlt]
  answers P c x hx := by
    by_cases hlt : c.paxos.inst.toNat < MAX_INST
    · cases c with
      | phase1a p =>
          have hlt : p.inst.toNat < MAX_INST := hlt
          rw [step_phase1a P hlt] at hx
          split_ifs at hx
          cases hx
          exact ⟨_, rfl, rfl⟩
      | phase2a p =>
          have hlt : p.inst.toNat < MAX_INST := hlt
          rw [step_phase2a P hlt] at hx
          split_ifs at hx
          cases hx
          exact ⟨_, rfl, rfl⟩
    · rw [step_of_not_lt P hlt] at hx
      cases hx

/-! ## Runs -/

/-- A call inside the arrays is defined. -/
lemma call_isSome (P : Plugin) {c : Call} (h : c.paxos.inst.toNat < MAX_INST) :
    ∃ P' out, call P c = some (P', out) ∧ step P c = (P', out.bind decode) := by
  have hsome : ∃ r, call P c = some r := by
    cases c with
    | phase1a p => exact ⟨_, phase1a_eq P h⟩
    | phase2a p => exact ⟨_, phase2a_eq P h⟩
  obtain ⟨⟨P', out⟩, hr⟩ := hsome
  exact ⟨P', out, hr, by rw [step, hr]⟩

/-- A run inside the arrays is defined, and is the run of the component. -/
lemma run_call_eq (P : Plugin) {cs : List Call} (h : ∀ c ∈ cs, c.paxos.inst.toNat < MAX_INST) :
    ∃ outs, run call P cs = some (after step P cs, outs) ∧
      outs.map (fun out => out.bind decode) = (trace step P cs).map Prod.snd := by
  induction cs generalizing P with
  | nil => exact ⟨[], rfl, rfl⟩
  | cons c cs ih =>
      obtain ⟨P', out, hcall, hstep⟩ := call_isSome P (h c List.mem_cons_self)
      obtain ⟨outs, hrun, houts⟩ := ih P' fun c' hc' => h c' (List.mem_cons_of_mem _ hc')
      refine ⟨out :: outs, ?_, ?_⟩
      · rw [run, hcall, after_cons, hstep]
        simp [hrun]
      · rw [List.map_cons, houts, trace, List.map_cons, hstep]

/-- The acceptor call that the table makes on a 1A or 2A. -/
def acceptorCall (p : PaxosT) : Call := if p.msgtype = 1 then .phase1a p else .phase2a p

/-- The call is made on the packet's header. -/
lemma acceptorCall_paxos (p : PaxosT) : (acceptorCall p).paxos = p := by
  unfold acceptorCall
  split_ifs <;> rfl

/-- On 1A and 2A packets the table makes acceptor calls only. An induction on the packets. -/
lemma run_paxos_tbl (P : Plugin) {ps : List PaxosT} (h : ∀ p ∈ ps, p.msgtype = 1 ∨ p.msgtype = 3) :
    run paxos_tbl P ps = run call P (ps.map acceptorCall) := by
  induction ps generalizing P with
  | nil => rfl
  | cons p ps ih =>
      have htbl : paxos_tbl P p = call P (acceptorCall p) := by
        unfold paxos_tbl acceptorCall
        rcases h p List.mem_cons_self with ht | ht
        · rw [if_pos ht, if_pos ht]
          rfl
        · have h₁ : ¬ p.msgtype = 1 := by simp [ht]
          rw [if_neg h₁, if_neg h₁, if_pos ht]
          rfl
      have hrest : ∀ P', run paxos_tbl P' ps = run call P' (ps.map acceptorCall) :=
        fun P' => ih P' fun p' hp' => h p' (List.mem_cons_of_mem _ hp')
      rw [List.map_cons, run, run, htbl]
      simp only [hrest]

/-- **A run is defined exactly when every access is inside the arrays.** The first packet outside
them ends what is known of the run. -/
lemma run_call_isSome_iff (P : Plugin) (cs : List Call) :
    (run call P cs).isSome = true ↔ ∀ c ∈ cs, c.paxos.inst.toNat < MAX_INST := by
  constructor
  · induction cs generalizing P with
    | nil => simp
    | cons c cs ih =>
        intro hrun
        by_cases hc : c.paxos.inst.toNat < MAX_INST
        · obtain ⟨P', out, hcall, -⟩ := call_isSome P hc
          have hrest : (run call P' cs).isSome = true := by
            rw [run, hcall] at hrun
            simp only [Option.bind_eq_bind, Option.bind_some] at hrun
            cases hr : run call P' cs with
            | none => simp [hr] at hrun
            | some r => rfl
          intro c' hc'
          rcases List.mem_cons.mp hc' with rfl | hc'
          · exact hc
          · exact ih P' hrest c' hc'
        · simp [run, call_eq_none P hc] at hrun
  · intro h
    obtain ⟨outs, hrun, -⟩ := run_call_eq P h
    rw [hrun]
    rfl

end Plugin

end P4xos.Netro
