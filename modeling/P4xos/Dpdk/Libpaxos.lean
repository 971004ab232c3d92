import Mathlib.Logic.Function.Basic
import P4xos.Dpdk.Received

/-!
# The learner of libpaxos

The DPDK learner and the backup link `dpdk/lib/libpaxos.a`, of which the repository has the headers
and the compiled archive only. The definitions here follow the machine code of `learner.c.o` and
`paxos.c.o` in the archive, function by function. Hash tables are functions, and the log lines, the
assertions and the memory that the library allocates for itself are left out. Results that hold for
every learner take the library as a parameter (`LibLearner`) instead, with what they need of it as a
hypothesis.

The learner keeps the votes of an instance until the instance is delivered. It delivers from
`current_iid` on, and would report holes between that and `highest_iid_closed`. A gap is an instance
of which it runs the first phase itself.

* `learner` has the functions of `learner.h` as the programs call them, `started` is the learner
  that both programs make.
* `Fresh`: no instance is closed, and no gap open. It holds at the start (`fresh_started`), and
  votes and deliveries keep it (`fresh_receive_accepted`, `fresh_deliver_next`): nothing but
  `learner_set_instance_id` writes `highest_iid_closed`, and nothing but `learner_prepare` opens a
  gap.
* `has_holes_of_fresh`, `receive_promise_of_fresh`: a fresh learner reports no holes, and no quorum
  of promises.
* `learner_prepares`: a prepare is for the instance that was asked for.
-/

namespace P4xos.Dpdk.Libpaxos

open P4xos.Lib

/-- Source: `dpdk/lib/libpaxos.a` `paxos_quorum` -/
def paxos_quorum (acceptors : ℕ) : ℕ := acceptors / 2 + 1

/-! ## Instances -/

/-- The votes of one instance, the last one of each acceptor. The first vote of all says which
instance it is, and each vote that is kept which ballot is counted.
Source: `dpdk/lib/libpaxos.a` `struct instance` -/
structure Instance where
  iid : BitVec 32
  last_update_ballot : BitVec 16
  acks : List (Option PaxosAccept)
  final_value : Option PaxosAccept
  deriving DecidableEq

/-- Source: `dpdk/lib/libpaxos.a` `instance_new` -/
def instance_new (acceptors : ℕ) : Instance := ⟨0, 0, List.replicate acceptors none, none⟩

/-- The votes that are counted: those in the ballot of the last one. -/
def Instance.votes (inst : Instance) : List PaxosAccept :=
  inst.acks.reduceOption.filter fun ack => ack.ballot = inst.last_update_ballot

/-- The instance after the call, and the return value: 1 when the quorum is found, 2 when it was
found before.
Source: `dpdk/lib/libpaxos.a` `instance_has_quorum` -/
def instance_has_quorum (acceptors : ℕ) (inst : Instance) : Instance × ℕ :=
  if inst.final_value.isSome then (inst, 2)
  else if paxos_quorum acceptors ≤ inst.votes.length then
    ({ inst with final_value := inst.votes.getLast? }, 1)
  else (inst, 0)

/-- Source: `dpdk/lib/libpaxos.a` `instance_add_accept` -/
def instance_add_accept (inst : Instance) (ack : PaxosAccept) : Instance :=
  { inst with acks := inst.acks.set ack.aid.toNat (some ack), last_update_ballot := ack.ballot }

/-- A vote is kept when there is no quorum yet, its acceptor is one of the array's, and its ballot
is above that of the acceptor's last vote.
Source: `dpdk/lib/libpaxos.a` `instance_update` -/
def instance_update (acceptors : ℕ) (inst : Instance) (ack : PaxosAccept) : Instance :=
  let inst := if inst.iid = 0 then { inst with iid := ack.iid, last_update_ballot := ack.ballot }
              else inst
  match instance_has_quorum acceptors inst with
  | (inst, 0) =>
      if ack.aid.toNat < acceptors then
        match inst.acks.getD ack.aid.toNat none with
        | none => instance_add_accept inst ack
        | some prev => if prev.ballot < ack.ballot then instance_add_accept inst ack else inst
      else inst
  | (inst, _) => inst

/-! ## Gaps -/

/-- The promises for one instance, which is the key that the gap is found under. The mask has a bit
for each of eight acceptors.
Source: `dpdk/lib/libpaxos.a` `struct gap` -/
structure Gap where
  ballot : BitVec 32
  value_ballot : BitVec 32
  value : Bytes
  mask : BitVec 8
  quorum : ℕ
  deriving DecidableEq

/-- Source: `dpdk/lib/libpaxos.a` `gap_new` -/
def gap_new (acceptors : ℕ) : Gap := ⟨3, 0, [], 0, paxos_quorum acceptors⟩

/-- The next ballot, without any promise.
Source: `dpdk/lib/libpaxos.a` `gap_reset` -/
def gap_reset (gap : Gap) : Gap :=
  { gap with ballot := gap.ballot + 11, value_ballot := 0, value := [], mask := 0 }

/-- The bit of an acceptor, in one byte.
Source: `dpdk/lib/libpaxos.a` `is_duplicated` -/
def bit (aid : BitVec 16) : BitVec 8 := ((1 : BitVec 32) <<< (aid.toNat % 32)).setWidth 8

/-- The value of the highest ballot. An empty one does not replace another.
Source: `dpdk/lib/libpaxos.a` `update_accepted_value` -/
def update_accepted_value (gap : Gap) (promise : PaxosPromise) : Gap :=
  if gap.value_ballot < promise.value_ballot.setWidth 32 then
    { gap with
      value_ballot := promise.value_ballot.setWidth 32
      value := if promise.value = [] then gap.value else promise.value }
  else gap

/-- Source: `dpdk/lib/libpaxos.a` `is_majority_promised` -/
def is_majority_promised (gap : Gap) : Bool :=
  gap.quorum ≤ (List.range 8).countP fun i => gap.mask.getLsbD i

/-- The gap after a promise, and whether there is a quorum then. A second promise of an acceptor is
ignored.
Source: `dpdk/lib/libpaxos.a` `update_gap` -/
def update_gap (gap : Gap) (promise : PaxosPromise) : Gap × Bool :=
  if gap.mask &&& bit promise.aid ≠ 0 then (gap, false)
  else
    let gap := update_accepted_value { gap with mask := gap.mask ||| bit promise.aid } promise
    (gap, is_majority_promised gap)

/-! ## The learner -/

/-- An entry is put into a table, or taken out of it. -/
def put {α : Type*} (table : BitVec 32 → Option α) (iid : BitVec 32) (entry : Option α) :
    BitVec 32 → Option α :=
  fun i => if i = iid then entry else table i

/-- Source: `dpdk/lib/libpaxos.a` `struct learner` -/
structure Learner where
  acceptors : ℕ
  late_start : Bool
  current_iid : BitVec 32
  highest_iid_closed : BitVec 32
  instances : BitVec 32 → Option Instance
  gaps : BitVec 32 → Option Gap

/-- `paxos_config.learner_catch_up` is 1 in the archive, and no program sets it, so that the learner
starts with the first instance.
Source: `dpdk/lib/libpaxos.a` `learner_new` -/
def learner_new (acceptors : ℕ) : Learner := ⟨acceptors, false, 1, 1, fun _ => none, fun _ => none⟩

/-- Source: `dpdk/lib/libpaxos.a` `learner_set_instance_id` -/
def learner_set_instance_id (l : Learner) (iid : BitVec 32) : Learner :=
  { l with current_iid := iid + 1, highest_iid_closed := iid }

/-- Source: `dpdk/lib/libpaxos.a` `learner_delete_instance` -/
def learner_delete_instance (l : Learner) (inst : Instance) : Learner :=
  { l with instances := put l.instances inst.iid none }

/-- A vote for an instance that has a quorum already makes the learner forget the instance, whether
it was delivered or not.
Source: `dpdk/lib/libpaxos.a` `learner_receive_accepted` -/
def learner_receive_accepted (l : Learner) (ack : PaxosAccept) : Learner × Bool :=
  let l := if l.late_start then { l with late_start := false, current_iid := ack.iid } else l
  if ack.iid < l.current_iid then (l, false)
  else
    let inst := instance_update l.acceptors ((l.instances ack.iid).getD (instance_new l.acceptors)) ack
    let (inst, quorum) := instance_has_quorum l.acceptors inst
    let l := { l with instances := put l.instances ack.iid (some inst) }
    if quorum = 2 then (learner_delete_instance l inst, false) else (l, quorum ≠ 0)

/-- Source: `dpdk/lib/libpaxos.a` `learner_deliver_next` -/
def learner_deliver_next (l : Learner) : Learner × Option PaxosAccept :=
  match l.instances l.current_iid with
  | none => (l, none)
  | some inst =>
      let (inst, quorum) := instance_has_quorum l.acceptors inst
      let l := { l with instances := put l.instances l.current_iid (some inst) }
      if quorum = 0 then (l, none)
      else
        ({ learner_delete_instance l inst with current_iid := l.current_iid + 1 }, inst.final_value)

/-- Source: `dpdk/lib/libpaxos.a` `learner_has_holes` -/
def learner_has_holes (l : Learner) : Option (BitVec 32 × BitVec 32) :=
  if l.current_iid < l.highest_iid_closed then some (l.current_iid, l.highest_iid_closed) else none

/-- The gap of an instance is opened, or moved to its next ballot.
Source: `dpdk/lib/libpaxos.a` `get_gap_or_create` -/
def get_gap_or_create (l : Learner) (iid : BitVec 32) : Gap :=
  match l.gaps iid with
  | some gap => gap_reset gap
  | none => gap_new l.acceptors

/-- Source: `dpdk/lib/libpaxos.a` `learner_prepare` -/
def learner_prepare (l : Learner) (iid : BitVec 32) : Learner × PaxosAccept :=
  let gap := get_gap_or_create l iid
  ({ l with gaps := put l.gaps iid (some gap) },
    { iid := iid, ballot := gap.ballot.setWidth 16, value_ballot := 0, aid := 0, value := [] })

/-- The accept's ballot of the value, and its acceptor, are not assigned: they are what the caller's
variable held.
Source: `dpdk/lib/libpaxos.a` `learner_receive_promise` -/
def learner_receive_promise (held : BitVec 16 × BitVec 16) (l : Learner) (promise : PaxosPromise) :
    Learner × Option PaxosAccept :=
  match l.gaps promise.iid with
  | none => (l, none)
  | some gap =>
      let (gap, majority) := update_gap gap promise
      ({ l with gaps := put l.gaps promise.iid (some gap) },
        if majority then
          some { iid := promise.iid, ballot := gap.ballot.setWidth 16, value_ballot := held.1,
                 aid := held.2, value := gap.value }
        else none)

/-- The library as the programs call it.
Source: `dpdk/include/learner.h` -/
def learner (held : BitVec 16 × BitVec 16) : LibLearner Learner where
  learner_receive_promise := learner_receive_promise held
  learner_receive_accepted := learner_receive_accepted
  learner_deliver_next := learner_deliver_next
  learner_has_holes := learner_has_holes
  learner_prepare := learner_prepare
  paxos_value_new v s := v.take s

/-- The library, called with variables that held zeros. -/
def learner₀ : LibLearner Learner := learner (0, 0)

/-- The learner of a program.
Source: `dpdk/learner/main.c` `main`, `dpdk/backup/main.c` `main` -/
def started (acceptors : ℕ) : Learner := learner_set_instance_id (learner_new acceptors) 0

/-! ## What a learner never reports -/

/-- No instance is closed, and no gap open. -/
structure Fresh (l : Learner) : Prop where
  highest_iid_closed : l.highest_iid_closed = 0
  gaps : l.gaps = fun _ => none

/-- So it is at the start of both programs. -/
lemma fresh_started (acceptors : ℕ) : Fresh (started acceptors) := ⟨rfl, rfl⟩

/-- There is no instance below the first one. -/
lemma has_holes_of_fresh {l : Learner} (h : Fresh l) : learner_has_holes l = none := by
  have hlow : ¬ l.current_iid < l.highest_iid_closed := by
    rw [h.highest_iid_closed]
    exact BitVec.not_lt_zero
  exact if_neg hlow

/-- A promise finds no gap, and changes nothing. -/
lemma receive_promise_of_fresh {l : Learner} (h : Fresh l) (held : BitVec 16 × BitVec 16)
    (promise : PaxosPromise) : learner_receive_promise held l promise = (l, none) := by
  have hgap : l.gaps promise.iid = none := congrFun h.gaps promise.iid
  rw [learner_receive_promise, hgap]

/-- A vote closes no instance, and opens no gap. -/
lemma fresh_receive_accepted {l : Learner} (h : Fresh l) (ack : PaxosAccept) :
    Fresh (learner_receive_accepted l ack).1 := by
  unfold learner_receive_accepted
  simp only
  split_ifs <;> exact ⟨h.highest_iid_closed, h.gaps⟩

/-- Nor does a delivery: the counter of closed instances is not moved. -/
lemma fresh_deliver_next {l : Learner} (h : Fresh l) : Fresh (learner_deliver_next l).1 := by
  unfold learner_deliver_next
  rcases l.instances l.current_iid with _ | inst
  · exact h
  · simp only
    split_ifs <;> exact ⟨h.highest_iid_closed, h.gaps⟩

/-- A prepare is for the instance asked for. -/
lemma learner_prepares (held : BitVec 16 × BitVec 16) : (learner held).Prepares :=
  fun _ _ => rfl

/-- That holds whatever the variables held. -/
lemma learner₀_prepares : learner₀.Prepares := learner_prepares (0, 0)

end P4xos.Dpdk.Libpaxos
