import P4xos.Bmv2.Codec

/-!
# The software learner: collecting promises and votes

`PaxosLearner` of `bmv2/scripts/paxoscore/learner.py`: one `ProposerState` per instance for the
promises of a recovery, one `LearnerState` per instance for the votes, and the log of decided
values. The values of messages are opaque to it, so everything is stated for a type `V` of values.
The scripts are Python 2: `(num_acceptors + 1) / 2` is an integer division, and the `ceil` around it
has nothing left to round (its conversion to a float is exact below `2 ^ 53`).

* `CountsVote`, `Raises`, `CountsPromise` and `CompletesQuorum` are conditions on a message and the
  state before it; `voted` and `promised` are the states it is counted in. `handle_p2b_cases` and
  `handle_p1b_cases` say everything one message can do, in these terms.
* `Inv R` ties the vote states and the log to the messages received, for any set `R` of messages:
  each sender counted has sent a vote of the state's round (`Backed`), and what is logged has its
  majority. It is kept by every call (`Inv.handle_p2b`), and a finished instance never changes again
  (`handle_p2b_finished`).
* `PromiseInv R` is the same for the promises. It also says that `hvrnd` keeps its initial value,
  since `handle_p1b` compares it with the round of every promise but never assigns it.
* `handle_p2b_frame`, `handle_p1b_frame`: votes and promises leave each other's states alone.
-/

namespace P4xos.Bmv2

open P4xos.Lib

/-- A Paxos message.
Source: `bmv2/scripts/paxoscore/learner.py` `PaxosMessage` -/
structure PaxosMessage (V : Type*) where
  /-- node-id -/
  nid : ℕ
  /-- paxos instance -/
  inst : ℕ
  /-- proposer round -/
  crnd : ℕ
  /-- accepted round -/
  vrnd : ℕ
  /-- accepted value -/
  val : V
  deriving DecidableEq

/-- The promises collected for an instance.
Source: `bmv2/scripts/paxoscore/learner.py` `ProposerState` -/
structure ProposerState (V : Type*) where
  crnd : ℕ
  nids : Finset ℕ
  hval : Option V
  hvrnd : ℕ
  finished : Bool

/-- Source: `bmv2/scripts/paxoscore/learner.py` `ProposerState.__init__` -/
def ProposerState.new {V : Type*} (crnd : ℕ) : ProposerState V where
  crnd := crnd
  nids := ∅
  hval := none
  hvrnd := 0
  finished := false

/-- The votes collected for an instance.
Source: `bmv2/scripts/paxoscore/learner.py` `LearnerState` -/
structure LearnerState (V : Type*) where
  crnd : ℕ
  nids : Finset ℕ
  val : Option V
  finished : Bool

/-- Source: `bmv2/scripts/paxoscore/learner.py` `LearnerState.__init__` -/
def LearnerState.new {V : Type*} (crnd : ℕ) : LearnerState V where
  crnd := crnd
  nids := ∅
  val := none
  finished := false

/-- The learner; its dictionaries are functions to `Option`.
Source: `bmv2/scripts/paxoscore/learner.py` `PaxosLearner` -/
structure PaxosLearner (V : Type*) where
  logs : ℕ → Option V
  states : ℕ → Option (LearnerState V)
  proposerState : ℕ → Option (ProposerState V)
  majority : ℕ

namespace PaxosLearner

variable {V : Type*}

/-- Source: `bmv2/scripts/paxoscore/learner.py` `PaxosLearner.__init__` -/
def new (num_acceptors : ℕ) : PaxosLearner V where
  logs _ := none
  states _ := none
  proposerState _ := none
  majority := (num_acceptors + 1) / 2

/-- The promise state a message of the instance is counted in.
Source: `bmv2/scripts/paxoscore/learner.py` `handle_p1b`, the first three lines -/
def promises (L : PaxosLearner V) (msg : PaxosMessage V) : ProposerState V :=
  (L.proposerState msg.inst).getD (ProposerState.new msg.crnd)

/-- The vote state a message of the instance is counted in.
Source: `bmv2/scripts/paxoscore/learner.py` `handle_p2b`, the first three lines -/
def votes (L : PaxosLearner V) (msg : PaxosMessage V) : LearnerState V :=
  (L.states msg.inst).getD (LearnerState.new msg.crnd)

/-- Count a promise; on a majority return the 2A to send. `hvrnd` is never assigned.
Source: `bmv2/scripts/paxoscore/learner.py` `handle_p1b` -/
def handle_p1b (L : PaxosLearner V) (msg : PaxosMessage V) :
    PaxosLearner V × Option (PaxosMessage (Option V)) :=
  let state := L.promises msg
  if state.finished = false then
    if state.crnd = msg.crnd then
      if msg.nid ∉ state.nids then
        let state := { state with nids := insert msg.nid state.nids }
        let state := if state.hvrnd ≤ msg.vrnd then { state with hval := some msg.val } else state
        if L.majority ≤ state.nids.card then
          let state := { state with finished := true }
          ({ L with proposerState := Function.update L.proposerState msg.inst (some state) },
            some { nid := 10, inst := msg.inst, crnd := state.crnd, vrnd := state.hvrnd,
                   val := state.hval })
        else
          ({ L with proposerState := Function.update L.proposerState msg.inst (some state) }, none)
      else (L, none)
    else (L, none)
  else (L, none)

/-- Count a vote; on a majority log the value and return the decision. In the branch for a higher
round the class name `LearnerState` is looked up among the globals, where it is not defined.
Source: `bmv2/scripts/paxoscore/learner.py` `handle_p2b` -/
def handle_p2b (L : PaxosLearner V) (msg : PaxosMessage V) :
    Except PyExc (PaxosLearner V × Option (ℕ × V)) :=
  let state := L.votes msg
  if state.finished = false then
    if state.crnd < msg.crnd then .error .NameError
    else if state.crnd = msg.crnd then
      if msg.nid ∉ state.nids then
        let val := state.val.getD msg.val
        let state := { state with nids := insert msg.nid state.nids, val := some val }
        if L.majority ≤ state.nids.card then
          let state := { state with finished := true }
          .ok ({ L with
                  logs := Function.update L.logs msg.inst (some val)
                  states := Function.update L.states msg.inst (some state) },
            some (msg.inst, val))
        else .ok ({ L with states := Function.update L.states msg.inst (some state) }, none)
      else .ok (L, none)
    else .ok (L, none)
  else .ok (L, none)

/-! ## What one vote does -/

/-- The vote state after counting a message. -/
def voted (L : PaxosLearner V) (msg : PaxosMessage V) : LearnerState V where
  crnd := (L.votes msg).crnd
  nids := insert msg.nid (L.votes msg).nids
  val := some ((L.votes msg).val.getD msg.val)
  finished := decide (L.majority ≤ (insert msg.nid (L.votes msg).nids).card)

/-- A vote is counted: the instance is open, in the message's round, and the sender is new. -/
def CountsVote (L : PaxosLearner V) (msg : PaxosMessage V) : Prop :=
  (L.votes msg).finished = false ∧ (L.votes msg).crnd = msg.crnd ∧ msg.nid ∉ (L.votes msg).nids

/-- A state is looked at. -/
instance (L : PaxosLearner V) (msg : PaxosMessage V) : Decidable (L.CountsVote msg) :=
  inferInstanceAs (Decidable (_ ∧ _))

/-- A vote makes the call raise: the instance is open, and below the message's round. -/
def Raises (L : PaxosLearner V) (msg : PaxosMessage V) : Prop :=
  (L.votes msg).finished = false ∧ (L.votes msg).crnd < msg.crnd

/-- So it is here. -/
instance (L : PaxosLearner V) (msg : PaxosMessage V) : Decidable (L.Raises msg) :=
  inferInstanceAs (Decidable (_ ∧ _))

/-- **Everything one vote can do**: raise, be ignored, be counted, or decide. The cases are the
tests of the source in their order: finished or not, the round, the sender, the majority. -/
lemma handle_p2b_cases (L : PaxosLearner V) (msg : PaxosMessage V) :
    (handle_p2b L msg = .error .NameError ∧ (L.votes msg).finished = false ∧
      (L.votes msg).crnd < msg.crnd) ∨
    (¬ L.CountsVote msg ∧ handle_p2b L msg = .ok (L, none)) ∨
    (L.CountsVote msg ∧ (L.voted msg).finished = false ∧
      handle_p2b L msg = .ok
        ({ L with states := Function.update L.states msg.inst (some (L.voted msg)) }, none)) ∨
    (L.CountsVote msg ∧ (L.voted msg).finished = true ∧
      handle_p2b L msg = .ok
        ({ L with
            logs := Function.update L.logs msg.inst (some ((L.votes msg).val.getD msg.val))
            states := Function.update L.states msg.inst (some (L.voted msg)) },
          some (msg.inst, (L.votes msg).val.getD msg.val))) := by
  unfold handle_p2b
  by_cases hfin : (L.votes msg).finished = false
  · by_cases hlt : (L.votes msg).crnd < msg.crnd
    · left
      simp [hfin, hlt]
    · by_cases heq : (L.votes msg).crnd = msg.crnd
      · by_cases hnid : msg.nid ∈ (L.votes msg).nids
        · right; left
          exact ⟨fun h => h.2.2 hnid, by simp [hfin, heq, hnid]⟩
        · by_cases hmaj : L.majority ≤ (insert msg.nid (L.votes msg).nids).card
          · right; right; right
            refine ⟨⟨hfin, heq, hnid⟩, decide_eq_true hmaj, ?_⟩
            rw [Finset.card_insert_of_notMem hnid] at hmaj
            simp [hfin, heq, hnid, hmaj, voted]
          · right; right; left
            refine ⟨⟨hfin, heq, hnid⟩, decide_eq_false hmaj, ?_⟩
            rw [Finset.card_insert_of_notMem hnid] at hmaj
            simp [hfin, heq, hnid, hmaj, voted]
      · right; left
        exact ⟨fun h => heq h.2.1, by simp [hfin, hlt, heq]⟩
  · right; left
    exact ⟨fun h => hfin h.1, by simp [hfin]⟩

/-- A vote that is counted does not make the call raise. -/
lemma CountsVote.not_raises {L : PaxosLearner V} {msg : PaxosMessage V} (h : L.CountsVote msg) :
    ¬ L.Raises msg := fun hr => absurd h.2.1 hr.2.ne

/-- What a vote returns, or raises. The four outcomes of `handle_p2b`, of which only the last
returns something. -/
lemma handle_p2b_result (L : PaxosLearner V) (msg : PaxosMessage V) :
    (L.handle_p2b msg).map Prod.snd =
      if L.Raises msg then .error .NameError
      else .ok (if L.CountsVote msg ∧ (L.voted msg).finished = true then
          some (msg.inst, (L.votes msg).val.getD msg.val)
        else none) := by
  rcases handle_p2b_cases L msg with ⟨he, hr⟩ | ⟨hc, he⟩ | ⟨hc, hfin, he⟩ | ⟨hc, hfin, he⟩
  · have hr : L.Raises msg := hr
    rw [he, if_pos hr]
    rfl
  · have hr : ¬ L.Raises msg := by
      intro hr
      unfold handle_p2b at he
      simp [hr.1, hr.2] at he
    rw [he, if_neg hr, if_neg fun h => hc h.1]
    rfl
  · rw [he, if_neg hc.not_raises, if_neg (by simp [hfin])]
    rfl
  · rw [he, if_neg hc.not_raises, if_pos ⟨hc, hfin⟩]
    rfl

/-! ## What one promise does -/

/-- A promise is counted: the instance is open, in the message's round, and the sender is new. -/
def CountsPromise (L : PaxosLearner V) (msg : PaxosMessage V) : Prop :=
  (L.promises msg).finished = false ∧ (L.promises msg).crnd = msg.crnd ∧
    msg.nid ∉ (L.promises msg).nids

/-- And here. -/
instance (L : PaxosLearner V) (msg : PaxosMessage V) : Decidable (L.CountsPromise msg) :=
  inferInstanceAs (Decidable (_ ∧ _))

/-- A promise completes a quorum: it is counted, and with it there is a majority. -/
def CompletesQuorum (L : PaxosLearner V) (msg : PaxosMessage V) : Prop :=
  L.CountsPromise msg ∧ L.majority ≤ (insert msg.nid (L.promises msg).nids).card

/-- A number of senders is compared with the majority. -/
instance (L : PaxosLearner V) (msg : PaxosMessage V) : Decidable (L.CompletesQuorum msg) :=
  inferInstanceAs (Decidable (_ ∧ _))

/-- The promise state after counting a message. -/
def promised (L : PaxosLearner V) (msg : PaxosMessage V) : ProposerState V where
  crnd := (L.promises msg).crnd
  nids := insert msg.nid (L.promises msg).nids
  hval := if (L.promises msg).hvrnd ≤ msg.vrnd then some msg.val else (L.promises msg).hval
  hvrnd := (L.promises msg).hvrnd
  finished := decide (L.majority ≤ (insert msg.nid (L.promises msg).nids).card)

/-- **Everything one promise can do**: be ignored, be counted, or complete a quorum. The tests are
those of a vote, but a higher round is ignored, and the highest round reported stays 0. -/
lemma handle_p1b_cases (L : PaxosLearner V) (msg : PaxosMessage V) :
    (¬ L.CountsPromise msg ∧ handle_p1b L msg = (L, none)) ∨
    (L.CountsPromise msg ∧ ¬ L.CompletesQuorum msg ∧
      handle_p1b L msg =
        ({ L with proposerState :=
            Function.update L.proposerState msg.inst (some (L.promised msg)) }, none)) ∨
    (L.CompletesQuorum msg ∧
      handle_p1b L msg =
        ({ L with proposerState :=
            Function.update L.proposerState msg.inst (some (L.promised msg)) },
          some { nid := 10, inst := msg.inst, crnd := (L.promised msg).crnd,
                 vrnd := (L.promised msg).hvrnd, val := (L.promised msg).hval })) := by
  by_cases hc : L.CountsPromise msg
  · obtain ⟨hfin, heq, hnid⟩ := id hc
    by_cases hmaj : L.majority ≤ (insert msg.nid (L.promises msg).nids).card
    · right; right
      refine ⟨⟨hc, hmaj⟩, ?_⟩
      rw [Finset.card_insert_of_notMem hnid] at hmaj
      unfold handle_p1b promised
      by_cases hv : (L.promises msg).hvrnd ≤ msg.vrnd <;> simp [hfin, heq, hnid, hmaj, hv]
    · right; left
      refine ⟨hc, fun h => hmaj h.2, ?_⟩
      rw [Finset.card_insert_of_notMem hnid] at hmaj
      unfold handle_p1b promised
      by_cases hv : (L.promises msg).hvrnd ≤ msg.vrnd <;> simp [hfin, heq, hnid, hmaj, hv]
  · left
    refine ⟨hc, ?_⟩
    unfold handle_p1b
    by_cases hfin : (L.promises msg).finished = false
    · by_cases heq : (L.promises msg).crnd = msg.crnd
      · have hnid : msg.nid ∈ (L.promises msg).nids := by
          by_contra h
          exact hc ⟨hfin, heq, h⟩
        simp [hfin, heq, hnid]
      · simp [hfin, heq]
    · simp [hfin]

/-- The learner after a promise. -/
lemma handle_p1b_fst (L : PaxosLearner V) (msg : PaxosMessage V) :
    (L.handle_p1b msg).1 =
      if L.CountsPromise msg then
        { L with proposerState :=
            Function.update L.proposerState msg.inst (some (L.promised msg)) }
      else L := by
  rcases handle_p1b_cases L msg with ⟨hc, he⟩ | ⟨hc, -, he⟩ | ⟨hq, he⟩ <;> rw [he]
  · rw [if_neg hc]
  · rw [if_pos hc]
  · rw [if_pos hq.1]

/-- What a promise returns. -/
lemma handle_p1b_snd (L : PaxosLearner V) (msg : PaxosMessage V) :
    (L.handle_p1b msg).2 =
      if L.CompletesQuorum msg then
        some { nid := 10, inst := msg.inst, crnd := (L.promised msg).crnd,
               vrnd := (L.promised msg).hvrnd, val := (L.promised msg).hval }
      else none := by
  rcases handle_p1b_cases L msg with ⟨hc, he⟩ | ⟨-, hq, he⟩ | ⟨hq, he⟩ <;> rw [he]
  · rw [if_neg fun hq => hc hq.1]
  · rw [if_neg hq]
  · rw [if_pos hq]

/-! ## The invariant of the votes -/

/-- A vote state is backed by a set of messages: each counted sender sent a vote of the state's
round, and the state's value is that of such a vote. -/
structure Backed (R : PaxosMessage V → Prop) (i : ℕ) (st : LearnerState V) : Prop where
  nids : ∀ n ∈ st.nids, ∃ m, R m ∧ m.inst = i ∧ m.crnd = st.crnd ∧ m.nid = n
  val : ∃ m, R m ∧ m.inst = i ∧ m.crnd = st.crnd ∧ st.val = some m.val

/-- The states and the log of a learner that has received the messages `R`. -/
structure Inv (R : PaxosMessage V → Prop) (L : PaxosLearner V) : Prop where
  /-- Every vote state is backed. -/
  backed : ∀ i st, L.states i = some st → Backed R i st
  /-- A finished instance has its majority, and its value is logged. -/
  finished : ∀ i st, L.states i = some st → st.finished = true →
    L.majority ≤ st.nids.card ∧ L.logs i = st.val
  /-- Only finished instances are logged. -/
  logged : ∀ i v, L.logs i = some v → ∃ st, L.states i = some st ∧ st.finished = true

/-- A new learner has no states. -/
lemma inv_new (R : PaxosMessage V → Prop) (n : ℕ) : Inv R (new n : PaxosLearner V) := by
  constructor <;> simp [new]

/-- More messages back what fewer do. -/
lemma Backed.mono {R R' : PaxosMessage V → Prop} (hR : ∀ m, R m → R' m) {i : ℕ}
    {st : LearnerState V} (h : Backed R i st) : Backed R' i st := by
  refine ⟨fun n hn => ?_, ?_⟩
  · obtain ⟨m, hm, h'⟩ := h.nids n hn
    exact ⟨m, hR m hm, h'⟩
  · obtain ⟨m, hm, h'⟩ := h.val
    exact ⟨m, hR m hm, h'⟩

/-- More messages, the same states. -/
lemma Inv.mono {R R' : PaxosMessage V → Prop} (hR : ∀ m, R m → R' m) {L : PaxosLearner V}
    (h : Inv R L) : Inv R' L :=
  ⟨fun i st hst => (h.backed i st hst).mono hR, h.finished, h.logged⟩

/-- The states and the log are all the invariant is about. -/
lemma Inv.congr {R : PaxosMessage V → Prop} {L L' : PaxosLearner V} (h : Inv R L)
    (hl : L'.logs = L.logs) (hs : L'.states = L.states) (hm : L'.majority = L.majority) :
    Inv R L' := by
  refine ⟨?_, ?_, ?_⟩
  · rw [hs]
    exact h.backed
  · rw [hs, hl, hm]
    exact h.finished
  · rw [hs, hl]
    exact h.logged

/-- A counted vote leaves a backed state. The state is a new one, with this vote alone, or one that
was backed and keeps its round and its value. -/
lemma Inv.backed_voted {R : PaxosMessage V → Prop} {L : PaxosLearner V} {msg : PaxosMessage V}
    (h : Inv R L) (hmsg : R msg) (hc : L.CountsVote msg) : Backed R msg.inst (L.voted msg) := by
  have hself : (L.voted msg).crnd = msg.crnd := hc.2.1
  cases hst : L.states msg.inst with
  | none =>
      have hvotes : L.votes msg = LearnerState.new msg.crnd := by simp [votes, hst]
      refine ⟨fun n hn => ⟨msg, hmsg, rfl, hself.symm, ?_⟩, msg, hmsg, rfl, hself.symm, ?_⟩
      · simpa [voted, hvotes, LearnerState.new, eq_comm] using hn
      · simp [voted, hvotes, LearnerState.new]
  | some st =>
      have hvotes : L.votes msg = st := by simp [votes, hst]
      have hb := h.backed msg.inst st hst
      have hcrnd : (L.voted msg).crnd = st.crnd := by simp [voted, hvotes]
      refine ⟨fun n hn => ?_, ?_⟩
      · rcases Finset.mem_insert.mp hn with rfl | hn'
        · exact ⟨msg, hmsg, rfl, hself.symm, rfl⟩
        · rw [hvotes] at hn'
          rw [hcrnd]
          exact hb.nids n hn'
      · obtain ⟨m, hm, hi, hcr, hval⟩ := hb.val
        refine ⟨m, hm, hi, hcr.trans hcrnd.symm, ?_⟩
        simp [voted, hvotes, hval]

/-- **Every call keeps the invariant.** Only the state and the log of the message's instance change;
the value logged there is that of its state, which is finished then. -/
lemma Inv.handle_p2b {R : PaxosMessage V → Prop} {L L' : PaxosLearner V} {msg : PaxosMessage V}
    {res : Option (ℕ × V)} (h : Inv R L) (hmsg : R msg)
    (hcall : L.handle_p2b msg = .ok (L', res)) : Inv R L' := by
  rcases handle_p2b_cases L msg with ⟨he, -⟩ | ⟨-, he⟩ | ⟨hc, hfin, he⟩ | ⟨hc, hfin, he⟩ <;>
    rw [he] at hcall <;> cases hcall
  · exact h
  · have hb := h.backed_voted hmsg hc
    refine ⟨fun i st hst => ?_, fun i st hst hf => ?_, fun i v hv => ?_⟩
    · by_cases hi : i = msg.inst
      · subst hi
        simp only [Function.update_self, Option.some.injEq] at hst
        exact hst ▸ hb
      · simp only [Function.update_of_ne hi] at hst
        exact h.backed i st hst
    · by_cases hi : i = msg.inst
      · subst hi
        simp only [Function.update_self, Option.some.injEq] at hst
        rw [← hst, hfin] at hf
        cases hf
      · simp only [Function.update_of_ne hi] at hst
        exact h.finished i st hst hf
    · -- a logged instance is finished, so it is not the one counted here
      obtain ⟨st, hst, hf⟩ := h.logged i v hv
      have hi : i ≠ msg.inst := by
        rintro rfl
        have : L.votes msg = st := by simp [votes, hst]
        rw [CountsVote, this, hf] at hc
        cases hc.1
      exact ⟨st, by simpa [Function.update_of_ne hi] using hst, hf⟩
  · have hb := h.backed_voted hmsg hc
    refine ⟨fun i st hst => ?_, fun i st hst hf => ?_, fun i v hv => ?_⟩
    · by_cases hi : i = msg.inst
      · subst hi
        simp only [Function.update_self, Option.some.injEq] at hst
        exact hst ▸ hb
      · simp only [Function.update_of_ne hi] at hst
        exact h.backed i st hst
    · by_cases hi : i = msg.inst
      · subst hi
        simp only [Function.update_self, Option.some.injEq] at hst
        subst hst
        exact ⟨of_decide_eq_true hfin, by simp [voted]⟩
      · simp only [Function.update_of_ne hi] at hst ⊢
        exact h.finished i st hst hf
    · by_cases hi : i = msg.inst
      · exact ⟨L.voted msg, by simp [hi], hfin⟩
      · simp only [Function.update_of_ne hi] at hv ⊢
        exact h.logged i v hv

/-- A logged value has a majority of senders in one round behind it, and is the value of one of
their votes. -/
lemma Inv.logged_backed {R : PaxosMessage V → Prop} {L : PaxosLearner V} (h : Inv R L) {i : ℕ}
    {v : V} (hlog : L.logs i = some v) :
    ∃ st, L.states i = some st ∧ st.finished = true ∧ Backed R i st ∧
      L.majority ≤ st.nids.card ∧ st.val = some v := by
  obtain ⟨st, hst, hf⟩ := h.logged i v hlog
  obtain ⟨hmaj, hval⟩ := h.finished i st hst hf
  exact ⟨st, hst, hf, h.backed i st hst, hmaj, hval ▸ hlog⟩

/-- **A finished instance is left alone**: its state and its log entry stay, and no call returns it
again. -/
lemma handle_p2b_finished {L L' : PaxosLearner V} {msg : PaxosMessage V} {res : Option (ℕ × V)}
    {i : ℕ} {st : LearnerState V} (hst : L.states i = some st) (hf : st.finished = true)
    (hcall : L.handle_p2b msg = .ok (L', res)) :
    L'.states i = some st ∧ L'.logs i = L.logs i ∧ ∀ v, res ≠ some (i, v) := by
  have hopen : L.CountsVote msg → i ≠ msg.inst := by
    rintro hc rfl
    have : L.votes msg = st := by simp [votes, hst]
    rw [CountsVote, this, hf] at hc
    cases hc.1
  rcases handle_p2b_cases L msg with ⟨he, -⟩ | ⟨-, he⟩ | ⟨hc, -, he⟩ | ⟨hc, -, he⟩ <;>
    rw [he] at hcall <;> cases hcall
  · exact ⟨hst, rfl, by simp⟩
  · exact ⟨by simpa [Function.update_of_ne (hopen hc)] using hst, rfl, by simp⟩
  · refine ⟨by simpa [Function.update_of_ne (hopen hc)] using hst, ?_, ?_⟩
    · simp [Function.update_of_ne (hopen hc)]
    · intro v hv
      cases hv
      exact hopen hc rfl

/-- A returned decision is the logged value of an instance that has just been finished. -/
lemma handle_p2b_decides {L L' : PaxosLearner V} {msg : PaxosMessage V} {i : ℕ} {v : V}
    (hcall : L.handle_p2b msg = .ok (L', some (i, v))) :
    i = msg.inst ∧ L'.logs = Function.update L.logs i (some v) ∧
      ∃ st, L'.states i = some st ∧ st.finished = true := by
  rcases handle_p2b_cases L msg with ⟨he, -⟩ | ⟨-, he⟩ | ⟨-, -, he⟩ | ⟨-, hfin, he⟩ <;>
    rw [he] at hcall <;> cases hcall
  exact ⟨rfl, rfl, L.voted msg, by simp, hfin⟩

/-- A call that returns no decision leaves the log as it was. -/
lemma handle_p2b_logs_of_none {L L' : PaxosLearner V} {msg : PaxosMessage V}
    (hcall : L.handle_p2b msg = .ok (L', none)) : L'.logs = L.logs := by
  rcases handle_p2b_cases L msg with ⟨he, -⟩ | ⟨-, he⟩ | ⟨-, -, he⟩ | ⟨-, -, he⟩ <;>
    rw [he] at hcall <;> cases hcall <;> rfl

/-- Votes do not touch the promises or the majority. -/
lemma handle_p2b_frame {L L' : PaxosLearner V} {msg : PaxosMessage V} {res : Option (ℕ × V)}
    (hcall : L.handle_p2b msg = .ok (L', res)) :
    L'.proposerState = L.proposerState ∧ L'.majority = L.majority := by
  rcases handle_p2b_cases L msg with ⟨he, -⟩ | ⟨-, he⟩ | ⟨-, -, he⟩ | ⟨-, -, he⟩ <;>
    rw [he] at hcall <;> cases hcall <;> exact ⟨rfl, rfl⟩

/-- Promises do not touch the votes, the log or the majority. -/
lemma handle_p1b_frame (L : PaxosLearner V) (msg : PaxosMessage V) :
    (L.handle_p1b msg).1.logs = L.logs ∧ (L.handle_p1b msg).1.states = L.states ∧
      (L.handle_p1b msg).1.majority = L.majority := by
  rcases handle_p1b_cases L msg with ⟨-, he⟩ | ⟨-, -, he⟩ | ⟨-, he⟩ <;> rw [he] <;>
    exact ⟨rfl, rfl, rfl⟩

/-! ## The invariant of the promises -/

/-- The promise states of a learner that has received the messages `R`. The last field is the
defect of `handle_p1b`: the highest reported round is never recorded. -/
structure PromiseInv (R : PaxosMessage V → Prop) (L : PaxosLearner V) : Prop where
  /-- Each counted sender sent a promise of the state's round. -/
  nids : ∀ i st, L.proposerState i = some st →
    ∀ n ∈ st.nids, ∃ m, R m ∧ m.inst = i ∧ m.crnd = st.crnd ∧ m.nid = n
  /-- A finished instance has its majority. -/
  finished : ∀ i st, L.proposerState i = some st → st.finished = true →
    L.majority ≤ st.nids.card
  /-- `hvrnd` keeps its initial value. -/
  hvrnd : ∀ i st, L.proposerState i = some st → st.hvrnd = 0

/-- A new learner has no promises. -/
lemma promiseInv_new (R : PaxosMessage V → Prop) (n : ℕ) :
    PromiseInv R (new n : PaxosLearner V) := by
  constructor <;> simp [new]

/-- More messages, the same promises. -/
lemma PromiseInv.mono {R R' : PaxosMessage V → Prop} (hR : ∀ m, R m → R' m) {L : PaxosLearner V}
    (h : PromiseInv R L) : PromiseInv R' L := by
  refine ⟨fun i st hst n hn => ?_, h.finished, h.hvrnd⟩
  obtain ⟨m, hm, h'⟩ := h.nids i st hst n hn
  exact ⟨m, hR m hm, h'⟩

/-- The promise states and the majority are all the invariant is about. -/
lemma PromiseInv.congr {R : PaxosMessage V → Prop} {L L' : PaxosLearner V} (h : PromiseInv R L)
    (hs : L'.proposerState = L.proposerState) (hm : L'.majority = L.majority) :
    PromiseInv R L' := by
  refine ⟨?_, ?_, ?_⟩
  · rw [hs]
    exact h.nids
  · rw [hs, hm]
    exact h.finished
  · rw [hs]
    exact h.hvrnd

/-- The state a promise is counted in has senders that sent, and `hvrnd` at its initial value. -/
lemma PromiseInv.promises {R : PaxosMessage V → Prop} {L : PaxosLearner V} (h : PromiseInv R L)
    (msg : PaxosMessage V) : (L.promises msg).hvrnd = 0 ∧ ∀ n ∈ (L.promises msg).nids,
      ∃ m, R m ∧ m.inst = msg.inst ∧ m.crnd = (L.promises msg).crnd ∧ m.nid = n := by
  cases hst : L.proposerState msg.inst with
  | none => simp [PaxosLearner.promises, hst, ProposerState.new]
  | some st =>
      have hp : L.promises msg = st := by simp [PaxosLearner.promises, hst]
      rw [hp]
      exact ⟨h.hvrnd _ st hst, h.nids _ st hst⟩

/-- **Every call keeps the invariant of the promises.** Only the state of the message's instance
changes, when the promise is counted; and nothing ever writes its `hvrnd`. -/
lemma PromiseInv.handle_p1b {R : PaxosMessage V → Prop} {L : PaxosLearner V}
    {msg : PaxosMessage V} (h : PromiseInv R L) (hmsg : R msg) :
    PromiseInv R (L.handle_p1b msg).1 := by
  have hcount : L.CountsPromise msg → PromiseInv R
      { L with proposerState :=
          Function.update L.proposerState msg.inst (some (L.promised msg)) } := by
    intro hc
    obtain ⟨hv, hn⟩ := h.promises msg
    refine ⟨fun i st hst n hn' => ?_, fun i st hst hf => ?_, fun i st hst => ?_⟩ <;>
      by_cases hi : i = msg.inst
    · subst hi
      simp only [Function.update_self, Option.some.injEq] at hst
      subst hst
      rcases Finset.mem_insert.mp hn' with rfl | hn''
      · exact ⟨msg, hmsg, rfl, hc.2.1.symm, rfl⟩
      · exact hn n hn''
    · simp only [Function.update_of_ne hi] at hst
      exact h.nids i st hst n hn'
    · subst hi
      simp only [Function.update_self, Option.some.injEq] at hst
      subst hst
      exact of_decide_eq_true hf
    · simp only [Function.update_of_ne hi] at hst
      exact h.finished i st hst hf
    · subst hi
      simp only [Function.update_self, Option.some.injEq] at hst
      subst hst
      exact hv
    · simp only [Function.update_of_ne hi] at hst
      exact h.hvrnd i st hst
  rcases handle_p1b_cases L msg with ⟨-, he⟩ | ⟨hc, -, he⟩ | ⟨hc, he⟩ <;> rw [he]
  · exact h
  · exact hcount hc
  · exact hcount hc.1

/-- **The 2A a learner sends carries the value of the promise that completed the quorum**, and
reports round 0, whatever the promises counted before reported. -/
lemma PromiseInv.returns {R : PaxosMessage V → Prop} {L L' : PaxosLearner V}
    {msg : PaxosMessage V} {res : PaxosMessage (Option V)} (h : PromiseInv R L)
    (hcall : L.handle_p1b msg = (L', some res)) :
    L.CompletesQuorum msg ∧
      res = { nid := 10, inst := msg.inst, crnd := msg.crnd, vrnd := 0, val := some msg.val } := by
  rcases handle_p1b_cases L msg with ⟨-, he⟩ | ⟨-, -, he⟩ | ⟨hc, he⟩ <;> rw [he] at hcall <;>
    cases hcall
  have hv := (h.promises msg).1
  refine ⟨hc, ?_⟩
  simp [promised, hv, hc.1.2.1]

/-- A promise that leads to no answer completes no quorum. -/
lemma not_completesQuorum_of_none {L L' : PaxosLearner V} {msg : PaxosMessage V}
    (hcall : L.handle_p1b msg = (L', none)) : ¬ L.CompletesQuorum msg := by
  rcases handle_p1b_cases L msg with ⟨hn, -⟩ | ⟨-, hn, -⟩ | ⟨-, he⟩
  · exact fun hc => hn hc.1
  · exact hn
  · rw [he] at hcall
    cases hcall

/-- A finished recovery is left alone. -/
lemma handle_p1b_finished {L : PaxosLearner V} {msg : PaxosMessage V} {i : ℕ}
    {st : ProposerState V} (hst : L.proposerState i = some st) (hf : st.finished = true) :
    (L.handle_p1b msg).1.proposerState i = some st := by
  have hopen : L.CountsPromise msg → i ≠ msg.inst := by
    rintro hc rfl
    have : L.promises msg = st := by simp [promises, hst]
    rw [CountsPromise, this, hf] at hc
    cases hc.1
  rcases handle_p1b_cases L msg with ⟨-, he⟩ | ⟨hc, -, he⟩ | ⟨hc, he⟩ <;> rw [he]
  · exact hst
  · simpa [Function.update_of_ne (hopen hc)] using hst
  · simpa [Function.update_of_ne (hopen hc.1)] using hst

end PaxosLearner

end P4xos.Bmv2
