import P4xos.Lib.Register
import P4xos.P4v14.Header

/-!
# The P4-14 acceptor switch

`p4src/paxos_acceptor.p4` with the table entries of `bmv2/acceptor_commands.txt`: one register cell
per instance for the round, the round of the last vote and its value. The MAC learning and multicast
tables of `l2_control.p4`, applied first, touch no Paxos field and no Paxos register, so a packet
that the Paxos part does not drop is flooded as the Paxos part leaves it; `ingress` returns that
packet, or `none` for a dropped one. The two parts together are in `L2`.

* `ingress_cases` says everything one packet can do: a 1A or 2A that is not stale is answered, a
  stale packet is dropped, and any other packet passes through. A packet is stale when its round is
  below the one stored for its instance, whatever its type.
* `answered` are the 2A packets of a history that were answered. `run_rounds`, `run_vote` read the
  three registers off the history: the round is the largest round asked for, the vote is the last
  answered 2A.
* `ingress_round` and `ingress_vote` are what one packet does to them, and what both are induced
  from.
* `acceptor_over_runs` is the whole characterisation: registers, replies, drops, and the promise
  kept by every later packet.

An instance number has 16 bits and the registers have 65536 cells, so no packet is outside them.
-/

namespace P4xos.P4v14

open P4xos.Lib

/-- The registers of an acceptor switch.
Source: `p4src/paxos_acceptor.p4` `datapath_id`, `rounds_register`, `vrounds_register`,
`values_register` -/
@[ext] structure Acceptor where
  /-- The switch's own id, written at start-up by `bmv2/topo.py`. -/
  datapath_id : BitVec 64
  /-- The highest round seen, for each instance. -/
  rounds_register : Register (BitVec 8) INSTANCE_COUNT
  /-- The round of the last vote. -/
  vrounds_register : Register (BitVec 8) INSTANCE_COUNT
  /-- The value of the last vote. -/
  values_register : Register (BitVec 512) INSTANCE_COUNT

namespace Acceptor

/-- A switch with zeroed registers and the given id. The id is written by the controller before any
packet comes. -/
def init (id : BitVec 64) : Acceptor where
  datapath_id := id
  rounds_register := Register.zero
  vrounds_register := Register.zero
  values_register := Register.zero

/-- The round stored for the packet's instance.
Source: `p4src/paxos_acceptor.p4` `read_round` -/
def read_round (A : Acceptor) (p : PaxosT) : BitVec 8 := A.rounds_register.read p.inst.toNat

/-- Turn a 1A into the 1B that reports the last vote, and store the round.
Source: `p4src/paxos_acceptor.p4` `handle_1a` -/
def handle_1a (A : Acceptor) (p : PaxosT) : Acceptor × PaxosT :=
  ({ A with rounds_register := A.rounds_register.write p.inst.toNat p.round },
   { p with
      msgtype := PAXOS_1B
      vround := A.vrounds_register.read p.inst.toNat
      value := A.values_register.read p.inst.toNat
      acceptor := A.datapath_id })

/-- Turn a 2A into a 2B, and store its round and value.
Source: `p4src/paxos_acceptor.p4` `handle_2a` -/
def handle_2a (A : Acceptor) (p : PaxosT) : Acceptor × PaxosT :=
  ({ A with
      rounds_register := A.rounds_register.write p.inst.toNat p.round
      vrounds_register := A.vrounds_register.write p.inst.toNat p.round
      values_register := A.values_register.write p.inst.toNat p.value },
   { p with
      msgtype := PAXOS_2B
      acceptor := A.datapath_id })

/-- The table has entries for 1A and 2A only, and no default action: a miss changes nothing.
Source: `p4src/paxos_acceptor.p4` `tbl_acceptor`; `bmv2/acceptor_commands.txt` -/
def tbl_acceptor (A : Acceptor) (p : PaxosT) : Acceptor × PaxosT :=
  if p.msgtype = PAXOS_1A then handle_1a A p
  else if p.msgtype = PAXOS_2A then handle_2a A p
  else (A, p)

/-- The Paxos part of the ingress control, for a packet with a Paxos header: the registers after it
and the packet that is sent on, if any.
Source: `p4src/paxos_acceptor.p4` `ingress` -/
def ingress (A : Acceptor) (p : PaxosT) : Acceptor × Option PaxosT :=
  if read_round A p ≤ p.round then
    let (A, p) := tbl_acceptor A p
    (A, some p)
  else (A, none)

/-- The registers after a history of packets.
Source: none: the switch handles one packet after the other -/
def run (A : Acceptor) (ps : List PaxosT) : Acceptor := ps.foldl (fun A p => (ingress A p).1) A

/-- No packet leaves the switch as it is. -/
@[simp] lemma run_nil (A : Acceptor) : run A [] = A := rfl

/-- The first packet, then the others. -/
@[simp] lemma run_cons (A : Acceptor) (p : PaxosT) (ps : List PaxosT) :
    run A (p :: ps) = run (ingress A p).1 ps := rfl

/-- A history in two parts. -/
lemma run_append (A : Acceptor) (ps qs : List PaxosT) : run A (ps ++ qs) = run (run A ps) qs :=
  List.foldl_append

/-! ## What one packet does -/

/-- No packet is stale for a switch with zeroed registers. -/
lemma read_round_init_le (id : BitVec 64) (p : PaxosT) : read_round (init id) p ≤ p.round := by
  simp [read_round, init, BitVec.le_def]

/-- A 1A that is not stale becomes a 1B. -/
lemma ingress_1a {A : Acceptor} {p : PaxosT} (ht : p.msgtype = PAXOS_1A)
    (hr : read_round A p ≤ p.round) :
    ingress A p = ((handle_1a A p).1, some (handle_1a A p).2) := by
  simp [ingress, tbl_acceptor, ht, hr]

/-- A 2A that is not stale becomes a 2B. -/
lemma ingress_2a {A : Acceptor} {p : PaxosT} (ht : p.msgtype = PAXOS_2A)
    (hr : read_round A p ≤ p.round) :
    ingress A p = ((handle_2a A p).1, some (handle_2a A p).2) := by
  simp [ingress, tbl_acceptor, ht, hr, PAXOS_1A, PAXOS_2A]

/-- A packet below the stored round is dropped and changes nothing, whatever its type. -/
lemma ingress_stale {A : Acceptor} {p : PaxosT} (hr : ¬ read_round A p ≤ p.round) :
    ingress A p = (A, none) := by
  simp [ingress, hr]

/-- A packet that is neither 1A nor 2A passes through unchanged. -/
lemma ingress_transit {A : Acceptor} {p : PaxosT} (h₁ : p.msgtype ≠ PAXOS_1A)
    (h₂ : p.msgtype ≠ PAXOS_2A) (hr : read_round A p ≤ p.round) :
    ingress A p = (A, some p) := by
  simp [ingress, tbl_acceptor, h₁, h₂, hr]

/-- **Everything one packet can do.** The round is compared first, and the type selects the action
after that. -/
lemma ingress_cases (A : Acceptor) (p : PaxosT) :
    (p.msgtype = PAXOS_1A ∧ read_round A p ≤ p.round ∧
      ingress A p = ((handle_1a A p).1, some (handle_1a A p).2)) ∨
    (p.msgtype = PAXOS_2A ∧ read_round A p ≤ p.round ∧
      ingress A p = ((handle_2a A p).1, some (handle_2a A p).2)) ∨
    (p.msgtype ≠ PAXOS_1A ∧ p.msgtype ≠ PAXOS_2A ∧ read_round A p ≤ p.round ∧
      ingress A p = (A, some p)) ∨
    (¬ read_round A p ≤ p.round ∧ ingress A p = (A, none)) := by
  by_cases hr : read_round A p ≤ p.round
  · by_cases h₁ : p.msgtype = PAXOS_1A
    · exact .inl ⟨h₁, hr, ingress_1a h₁ hr⟩
    · by_cases h₂ : p.msgtype = PAXOS_2A
      · exact .inr (.inl ⟨h₂, hr, ingress_2a h₂ hr⟩)
      · exact .inr (.inr (.inl ⟨h₁, h₂, hr, ingress_transit h₁ h₂ hr⟩))
  · exact .inr (.inr (.inr ⟨hr, ingress_stale hr⟩))

/-- The id never changes. -/
@[simp] lemma ingress_datapath_id (A : Acceptor) (p : PaxosT) :
    (ingress A p).1.datapath_id = A.datapath_id := by
  rcases ingress_cases A p with ⟨-, -, h⟩ | ⟨-, -, h⟩ | ⟨-, -, -, h⟩ | ⟨-, h⟩ <;> rw [h] <;> rfl

/-- The id stays along a history. -/
@[simp] lemma run_datapath_id (A : Acceptor) (ps : List PaxosT) :
    (run A ps).datapath_id = A.datapath_id := by
  induction ps generalizing A with
  | nil => rfl
  | cons p ps ih => rw [run_cons, ih, ingress_datapath_id]

/-- A sent packet keeps its instance and round. -/
lemma ingress_out {A : Acceptor} {p q : PaxosT} (h : (ingress A p).2 = some q) :
    q.inst = p.inst ∧ q.round = p.round ∧ read_round A p ≤ p.round := by
  rcases ingress_cases A p with ⟨-, hr, he⟩ | ⟨-, hr, he⟩ | ⟨-, -, hr, he⟩ | ⟨-, he⟩ <;>
    rw [he] at h
  · cases h
    exact ⟨rfl, rfl, hr⟩
  · cases h
    exact ⟨rfl, rfl, hr⟩
  · cases h
    exact ⟨rfl, rfl, hr⟩
  · cases h

/-! ## What a history does -/

/-- The packet is a 1A or a 2A for instance `i`. -/
def Asks (i : BitVec 16) (p : PaxosT) : Prop :=
  p.inst = i ∧ (p.msgtype = PAXOS_1A ∨ p.msgtype = PAXOS_2A)

/-- The type and the instance of a packet can be read. -/
instance (i : BitVec 16) (p : PaxosT) : Decidable (Asks i p) :=
  inferInstanceAs (Decidable (_ ∧ _))

/-- The maximum of the rounds of the 1A and 2A packets for `i`, `0` if there are none. -/
def maxRound (i : BitVec 16) (ps : List PaxosT) : ℕ :=
  ((ps.filter fun p => Asks i p).map fun p => p.round.toNat).foldr max 0

/-- The 2A packets of a history that are answered, in order. Whether a 2A is answered depends on the
packets before it, so the state is carried along. -/
def answered (A : Acceptor) : List PaxosT → List PaxosT
  | [] => []
  | p :: ps =>
      if p.msgtype = PAXOS_2A ∧ (ingress A p).2.isSome then p :: answered (ingress A p).1 ps
      else answered (ingress A p).1 ps

/-- The stored vote for an instance. -/
def vote (A : Acceptor) (i : BitVec 16) : BitVec 8 × BitVec 512 :=
  (A.vrounds_register.read i.toNat, A.values_register.read i.toNat)

/-- The round and value of the last answered 2A for `i`, `d` if there is none. -/
def lastVote (A : Acceptor) (i : BitVec 16) (d : BitVec 8 × BitVec 512) (ps : List PaxosT) :
    BitVec 8 × BitVec 512 :=
  (((answered A ps).filter fun p => p.inst = i).getLast?.map fun p => (p.round, p.value)).getD d

/-- A packet that asks for the instance counts with its round, another one does not count. -/
lemma maxRound_cons (i : BitVec 16) (p : PaxosT) (ps : List PaxosT) :
    maxRound i (p :: ps) =
      if Asks i p then max p.round.toNat (maxRound i ps) else maxRound i ps := by
  unfold maxRound
  by_cases h : Asks i p <;> simp [h]

/-- No 1A or 2A of the history is above the maximum. -/
lemma round_le_maxRound {i : BitVec 16} {p : PaxosT} {ps : List PaxosT} (hp : p ∈ ps)
    (h : Asks i p) : p.round.toNat ≤ maxRound i ps := by
  induction ps with
  | nil => cases hp
  | cons q ps ih =>
      rw [maxRound_cons]
      rcases List.mem_cons.mp hp with rfl | hp'
      · rw [if_pos h]
        exact le_max_left _ _
      · split_ifs
        · exact (ih hp').trans (le_max_right _ _)
        · exact ih hp'

/-- A bound on every 1A and 2A of the history is a bound on the maximum. Together with
`round_le_maxRound` it says that the maximum is the least bound. -/
lemma maxRound_le {i : BitVec 16} {ps : List PaxosT} {r : ℕ}
    (h : ∀ p ∈ ps, Asks i p → p.round.toNat ≤ r) : maxRound i ps ≤ r := by
  induction ps with
  | nil => simp [maxRound]
  | cons q ps ih =>
      have hps := ih fun p hp => h p (List.mem_cons_of_mem _ hp)
      rw [maxRound_cons]
      split_ifs with hq
      · exact max_le (h q List.mem_cons_self hq) hps
      · exact hps

/-- One packet raises the stored round to the round it asks for. A packet that is answered writes
its round, which is not below the stored one; every other one leaves the register. -/
lemma ingress_round (A : Acceptor) (p : PaxosT) (i : BitVec 16) :
    ((ingress A p).1.rounds_register.read i.toNat).toNat =
      if Asks i p then max p.round.toNat (A.rounds_register.read i.toNat).toNat
      else (A.rounds_register.read i.toNat).toNat := by
  have hwrite : ∀ q : PaxosT, (A.rounds_register.write q.inst.toNat q.round).read i.toNat =
      if q.inst = i then q.round else A.rounds_register.read i.toNat := by
    intro q
    by_cases hq : q.inst = i
    · subst hq
      simp [q.inst_lt]
    · have hne : i.toNat ≠ q.inst.toNat := fun h => hq (BitVec.eq_of_toNat_eq h.symm)
      simp [hq, hne]
  rcases ingress_cases A p with ⟨ht, hr, he⟩ | ⟨ht, hr, he⟩ | ⟨h₁, h₂, -, he⟩ | ⟨hr, he⟩ <;>
    rw [he]
  · by_cases hi : p.inst = i
    · subst hi
      simp only [handle_1a, hwrite, Asks, ht, true_or, and_self, if_true]
      exact (max_eq_left hr).symm
    · simp [handle_1a, hwrite, Asks, hi]
  · by_cases hi : p.inst = i
    · subst hi
      simp only [handle_2a, hwrite, Asks, ht, or_true, and_self, if_true]
      exact (max_eq_left hr).symm
    · simp [handle_2a, hwrite, Asks, hi]
  · simp [Asks, h₁, h₂]
  · by_cases hi : p.inst = i
    · subst hi
      have hlt : p.round.toNat ≤ (A.rounds_register.read p.inst.toNat).toNat :=
        Nat.le_of_lt (BitVec.not_le.mp hr)
      simp [max_eq_right hlt]
    · simp [Asks, hi]

/-- **The round register is the largest round asked for.** -/
lemma run_rounds (A : Acceptor) (ps : List PaxosT) (i : BitVec 16) :
    ((run A ps).rounds_register.read i.toNat).toNat =
      max (maxRound i ps) (A.rounds_register.read i.toNat).toNat := by
  induction ps generalizing A with
  | nil => simp [maxRound]
  | cons p ps ih =>
      rw [run_cons, ih, ingress_round, maxRound_cons]
      split_ifs
      · rw [max_left_comm, ← max_assoc]
      · rfl

/-- One packet changes the stored vote exactly when it is an answered 2A for the instance. A 1A
writes the round only, and a 2A the vote at its own instance. -/
lemma ingress_vote (A : Acceptor) (p : PaxosT) (i : BitVec 16) :
    vote (ingress A p).1 i =
      if p.inst = i ∧ p.msgtype = PAXOS_2A ∧ (ingress A p).2.isSome then (p.round, p.value)
      else vote A i := by
  rcases ingress_cases A p with ⟨ht, -, he⟩ | ⟨ht, -, he⟩ | ⟨-, h₂, -, he⟩ | ⟨-, he⟩ <;>
    simp only [he]
  · simp [vote, handle_1a, ht, PAXOS_1A, PAXOS_2A]
  · by_cases hi : p.inst = i
    · subst hi
      simp [vote, handle_2a, ht, p.inst_lt]
    · have hne : i.toNat ≠ p.inst.toNat := fun h => hi (BitVec.eq_of_toNat_eq h.symm)
      simp [vote, handle_2a, hi, hne]
  · simp [h₂]
  · simp

/-- **The stored vote is the last answered 2A.** An induction on the packets, whose first one is the
default for those behind it. -/
lemma run_vote (A : Acceptor) (ps : List PaxosT) (i : BitVec 16) :
    vote (run A ps) i = lastVote A i (vote A i) ps := by
  induction ps generalizing A with
  | nil => rfl
  | cons p ps ih =>
      rw [run_cons, ih, ingress_vote]
      unfold lastVote
      by_cases ha : p.msgtype = PAXOS_2A ∧ (ingress A p).2.isSome = true
      · by_cases hi : p.inst = i
        · -- the packet heads the answered packets for `i`: it is the default of the later ones
          rw [if_pos ⟨hi, ha⟩, answered, if_pos ha, List.filter_cons_of_pos (by simpa using hi),
            List.getLast?_cons]
          cases ((answered (ingress A p).1 ps).filter fun p => p.inst = i).getLast? <;> rfl
        · rw [if_neg (fun h => hi h.1), answered, if_pos ha,
            List.filter_cons_of_neg (by simpa using hi)]
      · rw [if_neg (fun h => ha h.2), answered, if_neg ha]

/-- The round of the vote never exceeds the round register. Both are written by the same action, the
round by one more. -/
lemma run_vround_le (A : Acceptor) (ps : List PaxosT) (i : BitVec 16)
    (h : A.vrounds_register.read i.toNat ≤ A.rounds_register.read i.toNat) :
    (run A ps).vrounds_register.read i.toNat ≤ (run A ps).rounds_register.read i.toNat := by
  induction ps generalizing A with
  | nil => exact h
  | cons p ps ih =>
      apply ih
      have hv := congrArg Prod.fst (ingress_vote A p i)
      have hr := ingress_round A p i
      simp only [vote] at hv
      rw [hv]
      split_ifs with hc
      · have hasks : Asks i p := ⟨hc.1, .inr hc.2.1⟩
        rw [if_pos hasks] at hr
        rw [BitVec.le_def, hr]
        exact le_max_left _ _
      · rw [BitVec.le_def] at h ⊢
        rw [hr]
        split_ifs
        · exact h.trans (le_max_right _ _)
        · exact h

/-- From zeroed registers, the round register is the largest round asked for. -/
lemma run_init_rounds (id : BitVec 64) (ps : List PaxosT) (i : BitVec 16) :
    ((run (init id) ps).rounds_register.read i.toNat).toNat = maxRound i ps := by
  rw [run_rounds]
  simp [init]

/-- After a history, the packet's round is at least the stored one exactly when it is at least every
round asked for before. -/
lemma read_round_run_le_iff (id : BitVec 64) (ps : List PaxosT) (p : PaxosT) :
    read_round (run (init id) ps) p ≤ p.round ↔
      ∀ p' ∈ ps, Asks p.inst p' → p'.round ≤ p.round := by
  unfold read_round
  rw [BitVec.le_def, run_init_rounds]
  constructor
  · intro h p' hp' hasks
    exact (round_le_maxRound hp' hasks).trans h
  · intro h
    exact maxRound_le h

/-- A 1A or 2A that is not stale is answered under the switch's own id. -/
lemma ingress_asks {A : Acceptor} {i : BitVec 16} {p : PaxosT} (h : Asks i p)
    (hr : read_round A p ≤ p.round) :
    ∃ q, (ingress A p).2 = some q ∧
      q.msgtype = (if p.msgtype = PAXOS_1A then PAXOS_1B else PAXOS_2B) ∧
      q.acceptor = A.datapath_id ∧ q.inst = i ∧ q.round = p.round := by
  obtain ⟨hi, ht | ht⟩ := h
  · refine ⟨(handle_1a A p).2, by rw [ingress_1a ht hr], ?_, rfl, hi, rfl⟩
    simp [handle_1a, ht]
  · refine ⟨(handle_2a A p).2, by rw [ingress_2a ht hr], ?_, rfl, hi, rfl⟩
    simp [handle_2a, ht, PAXOS_1A, PAXOS_2A]

/-- The stored round never decreases along a history. -/
lemma le_run_rounds (A : Acceptor) (ps : List PaxosT) (i : BitVec 16) :
    A.rounds_register.read i.toNat ≤ (run A ps).rounds_register.read i.toNat := by
  rw [BitVec.le_def, run_rounds]
  exact le_max_right _ _

/-- A 1B reports the last vote. -/
lemma report_eq_lastVote (id : BitVec 64) (ps : List PaxosT) {i : BitVec 16} {p q : PaxosT}
    (hi : p.inst = i) (ht : p.msgtype = PAXOS_1A)
    (hq : (ingress (run (init id) ps) p).2 = some q) :
    (q.vround, q.value) = lastVote (init id) i (0, 0) ps := by
  have hr := (ingress_out hq).2.2
  rw [ingress_1a ht hr] at hq
  cases hq
  have hv := run_vote (init id) ps i
  rw [show vote (init id) i = (0, 0) by simp [vote, init]] at hv
  rw [← hv, ← hi]
  rfl

/-- After a 1A or 2A nothing of a lower round is answered. -/
lemma not_lt_of_asked {A : Acceptor} {i : BitVec 16} {p p' q' : PaxosT} (hp : Asks i p)
    (later : List PaxosT) (hq' : (ingress (run A (p :: later)) p').2 = some q')
    (hi' : q'.inst = i) : ¬ q'.round < p.round := by
  obtain ⟨hinst, hround, hr'⟩ := ingress_out hq'
  have hprom : p.round ≤ (ingress A p).1.rounds_register.read i.toNat := by
    rw [BitVec.le_def, ingress_round, if_pos hp]
    exact le_max_left _ _
  have hkept := le_run_rounds (ingress A p).1 later i
  rw [run_cons, read_round, ← hinst, hi', ← hround] at hr'
  exact BitVec.not_lt.mpr (BitVec.le_trans hprom (BitVec.le_trans hkept hr'))

/-- Packets of other types change no register. -/
lemma ingress_other {A : Acceptor} {p : PaxosT} (h₁ : p.msgtype ≠ PAXOS_1A)
    (h₂ : p.msgtype ≠ PAXOS_2A) : (ingress A p).1 = A := by
  rcases ingress_cases A p with ⟨ht, -⟩ | ⟨ht, -⟩ | ⟨-, -, -, he⟩ | ⟨-, he⟩
  · exact absurd ht h₁
  · exact absurd ht h₂
  · rw [he]
  · rw [he]

/-- **The acceptor over whole runs**, from zeroed registers: (1) the round register is the largest
round asked for, and the vote's round does not exceed it; (2) a 1A or 2A is answered under the
switch's id exactly when no earlier one asked for a higher round, and otherwise dropped with all
registers unchanged; (3) the 1B made from a 1A reports the last answered 2A, or zeros; (4) once a
1A for round `r` is answered, no 2B below `r` leaves the switch, not even one in transit; (5) other
packets change no register. -/
theorem acceptor_over_runs (id : BitVec 64) (ps : List PaxosT) (i : BitVec 16) :
    (((run (init id) ps).rounds_register.read i.toNat).toNat = maxRound i ps ∧
      (run (init id) ps).vrounds_register.read i.toNat ≤
        (run (init id) ps).rounds_register.read i.toNat) ∧
    (∀ p, Asks i p →
      ((∃ q, (ingress (run (init id) ps) p).2 = some q ∧
          q.msgtype = (if p.msgtype = PAXOS_1A then PAXOS_1B else PAXOS_2B) ∧
          q.acceptor = id ∧ q.inst = i ∧ q.round = p.round) ↔
        ∀ p' ∈ ps, Asks i p' → p'.round ≤ p.round) ∧
      (¬ (∀ p' ∈ ps, Asks i p' → p'.round ≤ p.round) →
        ingress (run (init id) ps) p = (run (init id) ps, none))) ∧
    (∀ p q, p.inst = i → p.msgtype = PAXOS_1A → (ingress (run (init id) ps) p).2 = some q →
      (q.vround, q.value) = lastVote (init id) i (0, 0) ps) ∧
    (∀ p q, p.inst = i → p.msgtype = PAXOS_1A → (ingress (run (init id) ps) p).2 = some q →
      ∀ later p' q', (ingress (run (init id) (ps ++ p :: later)) p').2 = some q' →
        q'.msgtype = PAXOS_2B → q'.inst = i → ¬ q'.round < p.round) ∧
    (∀ p, p.msgtype ≠ PAXOS_1A → p.msgtype ≠ PAXOS_2A →
      (ingress (run (init id) ps) p).1 = run (init id) ps) := by
  have hid : (run (init id) ps).datapath_id = id := run_datapath_id (init id) ps
  refine ⟨⟨?_, ?_⟩, ?_, ?_, ?_, ?_⟩
  · exact run_init_rounds id ps i
  · exact run_vround_le (init id) ps i (by simp [init])
  · intro p hp
    have hiff := read_round_run_le_iff id ps p
    rw [hp.1] at hiff
    refine ⟨⟨?_, ?_⟩, ?_⟩
    · rintro ⟨q, hq, -⟩
      exact hiff.mp (ingress_out hq).2.2
    · intro h
      have hans := ingress_asks hp (hiff.mpr h)
      rwa [hid] at hans
    · intro h
      exact ingress_stale fun hr => h (hiff.mp hr)
  · intro p q hi ht hq
    exact report_eq_lastVote id ps hi ht hq
  · intro p q hi ht hq later p' q' hq' _ hi'
    rw [run_append] at hq'
    exact not_lt_of_asked ⟨hi, .inl ht⟩ later hq' hi'
  · intro p h₁ h₂
    exact ingress_other h₁ h₂

end Acceptor

end P4xos.P4v14
