import P4xos.Lib.Keyed
import P4xos.P4v14.Acceptor
import P4xos.P4v14.Learner
import P4xos.Bmv2.Quorums

/-!
# Instances do not interfere

The switches keep the state of all instances in shared register arrays and use one metadata record
for whatever packet comes; the software learner keeps it in three dictionaries. Each of them meets
the unwinding conditions of `Lib.Unwinding`, with the instance number as the key and what is stored
at it as the view, and so the instances do not interfere over whole runs.

* `Acceptor.unwinding`, `Learner.unwinding`, `PaxosLearner.unwinding` are the conditions on one
  packet, of any type and in any state. Each has three parts: the output and the new view of the
  packet's instance are made of the packet and the old view, and the other views stay.
* `instances_do_not_interfere` puts the three together, and lifts them to runs by the general rule.

The learner's forwarding table is a parameter, and the value type of the software learner is any.
-/

namespace P4xos.Equiv

open P4xos.Lib

/-! ## The P4-14 acceptor -/

namespace Acceptor

open P4v14 (Acceptor PaxosT)
open P4v14.Acceptor

/-- What an acceptor switch answers with, as far as instance `i` goes: its id and the three
registers at `i`. -/
def view (A : Acceptor) (i : BitVec 16) : BitVec 64 × BitVec 8 × BitVec 8 × BitVec 512 :=
  (A.datapath_id, A.rounds_register.read i.toNat, A.vrounds_register.read i.toNat,
    A.values_register.read i.toNat)

/-- Different instances have different cells. -/
lemma toNat_ne {w : ℕ} {i j : BitVec w} (h : i ≠ j) : j.toNat ≠ i.toNat :=
  fun hc => h (BitVec.eq_of_toNat_eq hc.symm)

/-- The reply is made of the packet and the view. -/
lemma ingress_snd_eq {A B : Acceptor} {p : PaxosT} (h : view A p.inst = view B p.inst) :
    (ingress A p).2 = (ingress B p).2 := by
  simp only [view, Prod.mk.injEq] at h
  obtain ⟨hid, hround, hvround, hvalue⟩ := h
  have hread : read_round A p = read_round B p := hround
  unfold ingress tbl_acceptor handle_1a handle_2a
  rw [hread]
  split_ifs
  · simp only [hid, hvround, hvalue]
  · simp only [hid]
  · rfl
  · rfl

/-- So is the new view. -/
lemma view_ingress_self {A B : Acceptor} {p : PaxosT} (h : view A p.inst = view B p.inst) :
    view (ingress A p).1 p.inst = view (ingress B p).1 p.inst := by
  have hview := h
  simp only [view, Prod.mk.injEq] at h
  obtain ⟨hid, hround, hvround, hvalue⟩ := h
  have hread : read_round A p = read_round B p := hround
  unfold ingress tbl_acceptor handle_1a handle_2a
  rw [hread]
  split_ifs
  · simp [view, p.inst_lt, hid, hvround, hvalue]
  · simp [view, p.inst_lt, hid]
  · exact hview
  · exact hview

/-- A packet of another instance leaves the view. -/
lemma view_ingress_of_ne (A : Acceptor) {p : PaxosT} {i : BitVec 16} (h : p.inst ≠ i) :
    view (ingress A p).1 i = view A i := by
  unfold ingress tbl_acceptor handle_1a handle_2a
  split_ifs
  · simp [view, toNat_ne h]
  · simp [view, toNat_ne h]
  · rfl
  · rfl

/-- The conditions on one packet, of any type. -/
theorem unwinding : Unwinding ingress PaxosT.inst view where
  output _ _ _ h := ingress_snd_eq h
  own _ _ _ h := view_ingress_self h
  other A _ _ h := view_ingress_of_ne A h

end Acceptor

/-! ## The P4-14 learner -/

namespace Learner

open P4v14 (Learner PaxosT)
open P4v14.Learner

/-- The three registers of a learner switch at instance `i`. -/
def view (L : Learner) (i : BitVec 16) : BitVec 8 × BitVec 512 × BitVec 8 :=
  (L.rounds_register.read i.toNat, L.values_register.read i.toNat, L.history2B.read i.toNat)

/-- The tested mask is made of the packet and the view. -/
lemma testedMask_eq {L M : Learner} {p : PaxosT} (h : view L p.inst = view M p.inst) :
    testedMask L p = testedMask M p := by
  simp only [view, Prod.mk.injEq] at h
  unfold testedMask storedRound storedMask
  rw [h.1, h.2.2]

/-- The view of an instance in which a packet was recorded is the packet's. -/
lemma view_record (L : Learner) (p : PaxosT) (mask : BitVec 8) :
    view (record L p mask) p.inst = (p.round, p.value, mask) := by
  simp [view, record, p.inst_lt]

/-- The new view of the packet's instance is made of the packet and the old one. -/
lemma view_update_self {L M : Learner} {p : PaxosT} (h : view L p.inst = view M p.inst) :
    view (update L p) p.inst = view (update M p) p.inst := by
  have hview := h
  simp only [view, Prod.mk.injEq] at h
  have hround : storedRound L p = storedRound M p := h.1
  have hmask : storedMask L p = storedMask M p := h.2.2
  unfold update
  rw [hround, hmask]
  split_ifs
  · exact hview
  · rw [view_record, view_record]
  · rw [view_record, view_record]
  · exact hview

/-- A packet of another instance leaves the view. -/
lemma view_update_of_ne (L : Learner) {p : PaxosT} {i : BitVec 16} (h : p.inst ≠ i) :
    view (update L p) i = view L i := by
  unfold update record
  split_ifs <;> simp [view, Acceptor.toNat_ne h]

/-- The conditions on one packet, with any forwarding table. -/
theorem unwinding (F : BitVec 9 → Option Forward) :
    Unwinding (step F) (fun pk => pk.paxos.inst) view where
  output L M pk h := by
    rw [step_eq, step_eq, testedMask_eq h]
  own L M pk h := by
    rw [step_eq, step_eq]
    exact view_update_self h
  other L pk i h := by
    rw [step_eq]
    exact view_update_of_ne L h

end Learner

/-! ## The software learner -/

namespace PaxosLearner

open Bmv2 (PaxosLearner PaxosMessage LearnerState ProposerState PyExc)

variable {V : Type*}

/-- A call of the learner. -/
inductive Call (V : Type*)
  | p1b (msg : PaxosMessage V)
  | p2b (msg : PaxosMessage V)

/-- The instance of the message. -/
def Call.inst : Call V → ℕ
  | .p1b msg => msg.inst
  | .p2b msg => msg.inst

/-- What a call returns, or raises. -/
inductive Result (V : Type*)
  | p1b (res : Option (PaxosMessage (Option V)))
  | p2b (res : Except PyExc (Option (ℕ × V)))

/-- A call on the learner; one that raises leaves the learner as it was.
Source: `bmv2/scripts/paxoscore/learner.py` `PaxosLearner.handle_p1b`, `PaxosLearner.handle_p2b` -/
def call (L : PaxosLearner V) : Call V → PaxosLearner V × Result V
  | .p1b msg => ((L.handle_p1b msg).1, .p1b (L.handle_p1b msg).2)
  | .p2b msg => (L.after2b msg, .p2b ((L.handle_p2b msg).map Prod.snd))

/-- What the learner keeps of instance `i` in its three dictionaries, with the quorum size. -/
def view (L : PaxosLearner V) (i : ℕ) :
    ℕ × Option V × Option (LearnerState V) × Option (ProposerState V) :=
  (L.majority, L.logs i, L.states i, L.proposerState i)

/-- Whether and how a promise is counted depends on the view. -/
lemma promised_eq {L M : PaxosLearner V} {msg : PaxosMessage V}
    (h : view L msg.inst = view M msg.inst) :
    (L.CountsPromise msg ↔ M.CountsPromise msg) ∧
    (L.CompletesQuorum msg ↔ M.CompletesQuorum msg) ∧ L.promised msg = M.promised msg := by
  simp only [view, Prod.mk.injEq] at h
  obtain ⟨hmaj, -, -, hprop⟩ := h
  have hstate : L.promises msg = M.promises msg := by
    unfold PaxosLearner.promises
    rw [hprop]
  simp only [PaxosLearner.CompletesQuorum, PaxosLearner.CountsPromise, PaxosLearner.promised,
    hstate, hmaj, and_self]

/-- Whether and how a vote is counted depends on the view. -/
lemma voted_eq {L M : PaxosLearner V} {msg : PaxosMessage V}
    (h : view L msg.inst = view M msg.inst) :
    (L.CountsVote msg ↔ M.CountsVote msg) ∧ (L.Raises msg ↔ M.Raises msg) ∧
    L.votes msg = M.votes msg ∧ L.voted msg = M.voted msg := by
  simp only [view, Prod.mk.injEq] at h
  obtain ⟨hmaj, -, hstates, -⟩ := h
  have hstate : L.votes msg = M.votes msg := by
    unfold PaxosLearner.votes
    rw [hstates]
  simp only [PaxosLearner.Raises, PaxosLearner.CountsVote, PaxosLearner.voted, hstate, hmaj,
    and_self]

/-- A promise returns the same, and leaves the same view. -/
lemma handle_p1b_eq {L M : PaxosLearner V} {msg : PaxosMessage V}
    (h : view L msg.inst = view M msg.inst) :
    (L.handle_p1b msg).2 = (M.handle_p1b msg).2 ∧
    view (L.handle_p1b msg).1 msg.inst = view (M.handle_p1b msg).1 msg.inst := by
  obtain ⟨hcounts, hquorum, hpromised⟩ := promised_eq h
  rw [PaxosLearner.handle_p1b_snd, PaxosLearner.handle_p1b_snd, PaxosLearner.handle_p1b_fst,
    PaxosLearner.handle_p1b_fst, hpromised]
  refine ⟨if_congr hquorum rfl rfl, ?_⟩
  by_cases hc : M.CountsPromise msg
  · rw [if_pos hc, if_pos (hcounts.mpr hc)]
    simp only [view, Prod.mk.injEq] at h
    simp [view, h]
  · rw [if_neg hc, if_neg (mt hcounts.mp hc), h]

/-- A vote returns or raises the same, and leaves the same view. Both are functions of the vote and
of what the view holds. -/
lemma handle_p2b_eq {L M : PaxosLearner V} {msg : PaxosMessage V}
    (h : view L msg.inst = view M msg.inst) :
    (L.handle_p2b msg).map Prod.snd = (M.handle_p2b msg).map Prod.snd ∧
    view (L.after2b msg) msg.inst = view (M.after2b msg) msg.inst := by
  obtain ⟨hcounts, hraises, hvotes, hvoted⟩ := voted_eq h
  rw [PaxosLearner.handle_p2b_result, PaxosLearner.handle_p2b_result, PaxosLearner.after2b_eq,
    PaxosLearner.after2b_eq, hvotes, hvoted]
  refine ⟨if_congr hraises rfl ?_, ?_⟩
  · rw [if_congr (and_congr_left' hcounts) rfl rfl]
  · by_cases hc : M.CountsVote msg
    · rw [if_pos hc, if_pos (hcounts.mpr hc)]
      simp only [view, Prod.mk.injEq] at h
      by_cases hfin : (M.voted msg).finished = true <;> simp [view, h, hfin]
    · rw [if_neg hc, if_neg (mt hcounts.mp hc), h]

/-- A call for another instance leaves the view. A call writes the state and the log of its own
instance. -/
lemma view_call_of_ne (L : PaxosLearner V) {c : Call V} {i : ℕ} (h : c.inst ≠ i) :
    view (call L c).1 i = view L i := by
  have hi : i ≠ c.inst := Ne.symm h
  cases c with
  | p1b msg =>
      simp only [Call.inst] at hi
      rw [call, PaxosLearner.handle_p1b_fst]
      split_ifs
      · simp [view, hi]
      · rfl
  | p2b msg =>
      simp only [Call.inst] at hi
      rw [call, PaxosLearner.after2b_eq]
      split_ifs
      · simp [view, hi]
      · simp [view, hi]
      · rfl

/-- The conditions on one call, of either method. -/
theorem unwinding : Unwinding (call (V := V)) Call.inst view where
  output L M c h := by
    cases c with
    | p1b msg => exact congrArg Result.p1b (handle_p1b_eq h).1
    | p2b msg => exact congrArg Result.p2b (handle_p2b_eq h).1
  own L M c h := by
    cases c with
    | p1b msg => exact (handle_p1b_eq h).2
    | p2b msg => exact (handle_p2b_eq h).2
  other L _ _ h := view_call_of_ne L h

end PaxosLearner

/-! ## The three components -/

/-- **Instances do not interfere.** In every run of the P4-14 acceptor, of the P4-14 learner with
any forwarding table, and of the software learner fed promises and votes in any order: what is
stored for an instance and what is put out on its packets are as in the run restricted to it, and
two neighbouring packets of different instances may be swapped. -/
theorem instances_do_not_interfere {V : Type*} (F : BitVec 9 → Option P4v14.Learner.Forward) :
    NonInterference P4v14.Acceptor.ingress P4v14.PaxosT.inst Acceptor.view ∧
    NonInterference (P4v14.Learner.step F) (fun pk => pk.paxos.inst) Learner.view ∧
    NonInterference (PaxosLearner.call (V := V)) PaxosLearner.Call.inst PaxosLearner.view :=
  ⟨Acceptor.unwinding.nonInterference, (Learner.unwinding F).nonInterference,
    PaxosLearner.unwinding.nonInterference⟩

end P4xos.Equiv
