import P4xos.Lib.Keyed
import P4xos.Lib.Register
import P4xos.Lib.Tally
import P4xos.P4v14.Header

/-!
# The P4-14 learner switch

`p4src/paxos_learner.p4`: for each instance the highest round of the 2B packets seen, the value of
the last counted one, and a bit mask of the acceptors counted in that round. The tables
`learner_tbl` and `reset_tbl` send 2B packets to `handle_2b` and `handle_new_value`, `drop_tbl`
drops the packets that still have `set_drop = 1`; none has a default action, so a miss changes
nothing. The entries of `forward_tbl`, one action for each ingress port at most, are a parameter
`F`.

* `cell_after`: the registers hold the tally of the votes received, to which every packet adds its
  own (`cell_update`).
* `forwarded_iff`: a packet is forwarded when two acceptors are in the mask *read before the round
  comparison*, updated only for a packet of the stored round.
* `forwards_backed_iff`: so a forwarded packet has two acceptors behind its own round exactly when
  no packet of another round comes while two acceptors are stored, those apart that repeat an old
  round in which somebody else was heard.
* `second_voter_forwarded`: the packet that makes two acceptors in the highest round is forwarded.
* `forwarded_once_iff`: an instance is forwarded once when no packet repeats a vote between its
  second and its third voter.
-/

namespace P4xos.P4v14

open P4xos.Lib

/-- The registers of a learner switch.
Source: `p4src/paxos_learner.p4` `rounds_register`, `values_register`, `history2B` -/
@[ext] structure Learner where
  /-- The highest round seen, for each instance. -/
  rounds_register : Register (BitVec 8) INSTANCE_COUNT
  /-- The value of the last counted vote. -/
  values_register : Register (BitVec 512) INSTANCE_COUNT
  /-- The acceptors that have cast a vote in the stored round. -/
  history2B : Register (BitVec 8) INSTANCE_COUNT

namespace Learner

/-- A switch with zeroed registers. -/
def init : Learner where
  rounds_register := Register.zero
  values_register := Register.zero
  history2B := Register.zero

/-- A packet with a Paxos header, and the port it came in by. -/
structure Packet where
  /-- `standard_metadata.ingress_port` -/
  ingress_port : BitVec 9
  /-- The Paxos header. -/
  paxos : PaxosT
  deriving DecidableEq

/-- The actions an entry of `forward_tbl` can name.
Source: `p4src/paxos_learner.p4` `forward_tbl` -/
inductive Forward
  | forward (port : BitVec 9)
  | _drop
  deriving DecidableEq

/-- What the actions read and write: the registers, the metadata and the egress port, `none` once
`drop()` was called. -/
structure Flow where
  regs : Learner
  /-- `paxos_packet_metadata.round` -/
  round : BitVec 8
  /-- `paxos_packet_metadata.set_drop` -/
  set_drop : BitVec 1
  /-- `paxos_packet_metadata.acceptors` -/
  acceptors : BitVec 8
  /-- `standard_metadata.egress_spec` -/
  egress_spec : Option (BitVec 9)

/-- A later `forward` would bring it back; none is applied after it.
Source: `p4src/paxos_learner.p4` `_drop` -/
def _drop (f : Flow) : Flow := { f with egress_spec := none }

/-- The bit of the packet's acceptor in a mask of 8 bits: `1 << paxos.acceptor`. The acceptor field
has 64 bits and the mask 8, so an id from 8 on has no bit. -/
def acceptorBit (p : PaxosT) : BitVec 8 := (1 : BitVec 8) <<< p.acceptor.toNat

/-- It is called first, marks the packet to be dropped, and reads round and mask of its instance.
Source: `p4src/paxos_learner.p4` `read_round` -/
def read_round (p : PaxosT) (f : Flow) : Flow :=
  { f with
    round := f.regs.rounds_register.read p.inst.toNat
    set_drop := 1
    acceptors := f.regs.history2B.read p.inst.toNat }

/-- The mask in the metadata is the new one, and the one that is tested.
Source: `p4src/paxos_learner.p4` `handle_2b` -/
def handle_2b (p : PaxosT) (f : Flow) : Flow :=
  { f with
    acceptors := f.acceptors ||| acceptorBit p
    regs := {
      rounds_register := f.regs.rounds_register.write p.inst.toNat p.round
      values_register := f.regs.values_register.write p.inst.toNat p.value
      history2B := f.regs.history2B.write p.inst.toNat (f.acceptors ||| acceptorBit p) } }

/-- The metadata keeps the mask that was read.
Source: `p4src/paxos_learner.p4` `handle_new_value` -/
def handle_new_value (p : PaxosT) (f : Flow) : Flow :=
  { f with
    regs := {
      rounds_register := f.regs.rounds_register.write p.inst.toNat p.round
      values_register := f.regs.values_register.write p.inst.toNat p.value
      history2B := f.regs.history2B.write p.inst.toNat (acceptorBit p) } }

/-- Only a 2B has an entry.
Source: `p4src/paxos_learner.p4` `learner_tbl` -/
def learner_tbl (p : PaxosT) (f : Flow) : Flow :=
  if p.msgtype = PAXOS_2B then handle_2b p f else f

/-- Only a 2B has an entry.
Source: `p4src/paxos_learner.p4` `reset_tbl` -/
def reset_tbl (p : PaxosT) (f : Flow) : Flow :=
  if p.msgtype = PAXOS_2B then handle_new_value p f else f

/-- Forwarding takes the mark off the packet.
Source: `p4src/paxos_learner.p4` `forward` -/
def forward (port : BitVec 9) (f : Flow) : Flow :=
  { f with egress_spec := some port, set_drop := 0 }

/-- A port without an entry forwards nothing, and leaves the mark.
Source: `p4src/paxos_learner.p4` `forward_tbl` -/
def forward_tbl (F : BitVec 9 → Option Forward) (ingress_port : BitVec 9) (f : Flow) : Flow :=
  match F ingress_port with
  | some (.forward port) => forward port f
  | some ._drop => _drop f
  | none => f

/-- It is applied in the egress control, and drops what is still marked.
Source: `p4src/paxos_learner.p4` `drop_tbl` -/
def drop_tbl (f : Flow) : Flow := if f.set_drop = 1 then _drop f else f

/-- Two of three acceptors, as the program tests it.
Source: `p4src/paxos_learner.p4` `ingress`, the last condition -/
def quorum (acceptors : BitVec 8) : Prop := acceptors = 6 ∨ acceptors = 5 ∨ acceptors = 3

/-- Three masks to compare with. -/
instance (acceptors : BitVec 8) : Decidable (quorum acceptors) :=
  inferInstanceAs (Decidable (_ ∨ _))

/-- The ingress control, for a packet with a Paxos header.
Source: `p4src/paxos_learner.p4` `ingress` -/
def ingress (F : BitVec 9 → Option Forward) (pk : Packet) (f : Flow) : Flow :=
  let f := read_round pk.paxos f
  let f :=
    if f.round < pk.paxos.round then reset_tbl pk.paxos f
    else if pk.paxos.round = f.round then learner_tbl pk.paxos f
    else f
  if quorum f.acceptors then forward_tbl F pk.ingress_port f else f

/-- The one table of the egress control is `drop_tbl`.
Source: `p4src/paxos_learner.p4` `egress` -/
def egress (f : Flow) : Flow := drop_tbl f

/-- One packet through the switch: the registers after it, and the egress port with the packet if it
is forwarded. No action writes a header field. -/
def step (F : BitVec 9 → Option Forward) (L : Learner) (pk : Packet) :
    Learner × Option (BitVec 9 × PaxosT) :=
  let f := egress (ingress F pk ⟨L, 0, 0, 0, some 0⟩)
  (f.regs, f.egress_spec.map fun port => (port, pk.paxos))

/-! ## What one packet does -/

/-- The round stored for the packet's instance. -/
def storedRound (L : Learner) (p : PaxosT) : BitVec 8 := L.rounds_register.read p.inst.toNat

/-- The mask stored for the packet's instance. -/
def storedMask (L : Learner) (p : PaxosT) : BitVec 8 := L.history2B.read p.inst.toNat

/-- The registers with the packet's round and value, and the given mask, in the packet's instance.
-/
def record (L : Learner) (p : PaxosT) (mask : BitVec 8) : Learner where
  rounds_register := L.rounds_register.write p.inst.toNat p.round
  values_register := L.values_register.write p.inst.toNat p.value
  history2B := L.history2B.write p.inst.toNat mask

/-- The registers after a packet. -/
def update (L : Learner) (p : PaxosT) : Learner :=
  if p.msgtype ≠ PAXOS_2B then L
  else if storedRound L p < p.round then record L p (acceptorBit p)
  else if p.round = storedRound L p then record L p (storedMask L p ||| acceptorBit p)
  else L

/-- The mask that is tested for a quorum. -/
def testedMask (L : Learner) (p : PaxosT) : BitVec 8 :=
  if p.msgtype = PAXOS_2B ∧ p.round = storedRound L p then storedMask L p ||| acceptorBit p
  else storedMask L p

/-- The port an ingress port's packets are forwarded to, if they are. -/
def outPort (F : BitVec 9 → Option Forward) (ingress_port : BitVec 9) : Option (BitVec 9) :=
  match F ingress_port with
  | some (.forward port) => some port
  | _ => none

/-- The forwarding table leaves the registers alone. -/
lemma forward_tbl_regs (F : BitVec 9 → Option Forward) (port : BitVec 9) (f : Flow) :
    (forward_tbl F port f).regs = f.regs := by
  unfold forward_tbl
  rcases F port with _ | _ | _ <;> rfl

/-- Nor does the egress control. -/
lemma egress_regs (f : Flow) : (egress f).regs = f.regs := by
  unfold egress drop_tbl
  split_ifs <;> rfl

/-- A packet that is still marked leaves by the port of its ingress port's entry, or not at all. -/
lemma egress_forward_tbl (F : BitVec 9 → Option Forward) (port : BitVec 9) {f : Flow}
    (h : f.set_drop = 1) :
    (egress (forward_tbl F port f)).egress_spec = outPort F port := by
  unfold egress drop_tbl forward_tbl outPort
  rcases F port with _ | _ | _ <;> simp [forward, _drop, h]

/-- What the round comparison and the tables behind it leave. By the type and by the comparison with
the stored round. A packet of another type misses in both tables. -/
lemma tables_eq (L : Learner) (p : PaxosT) (f : Flow) (hf : f.regs = L) :
    (if (read_round p f).round < p.round then reset_tbl p (read_round p f)
      else if p.round = (read_round p f).round then learner_tbl p (read_round p f)
      else read_round p f) =
    { regs := update L p, round := storedRound L p, set_drop := 1, acceptors := testedMask L p,
      egress_spec := f.egress_spec } := by
  subst hf
  have hround : (read_round p f).round = storedRound f.regs p := rfl
  rw [hround]
  unfold update testedMask
  by_cases ht : p.msgtype = PAXOS_2B
  · rw [if_neg (not_not.mpr ht)]
    by_cases hlt : storedRound f.regs p < p.round
    · have hne : ¬ (p.msgtype = PAXOS_2B ∧ p.round = storedRound f.regs p) :=
        fun h => BitVec.lt_irrefl _ (h.2 ▸ hlt)
      rw [if_pos hlt, if_pos hlt, if_neg hne, reset_tbl, if_pos ht]
      rfl
    · rw [if_neg hlt, if_neg hlt]
      by_cases heq : p.round = storedRound f.regs p
      · rw [if_pos heq, if_pos heq, if_pos ⟨ht, heq⟩, learner_tbl, if_pos ht]
        rfl
      · rw [if_neg heq, if_neg heq, if_neg fun h => heq h.2]
        rfl
  · -- a miss in either table
    have hmiss : ¬ (p.msgtype = PAXOS_2B ∧ p.round = storedRound f.regs p) := fun h => ht h.1
    rw [if_pos ht, if_neg hmiss, reset_tbl, if_neg ht, learner_tbl, if_neg ht, ite_self, ite_self]
    rfl

/-- **Everything one packet does**: the registers after it, and whether it is forwarded. -/
lemma step_eq (F : BitVec 9 → Option Forward) (L : Learner) (pk : Packet) :
    step F L pk = (update L pk.paxos,
      if quorum (testedMask L pk.paxos) then
        (outPort F pk.ingress_port).map fun port => (port, pk.paxos)
      else none) := by
  unfold step ingress
  simp only []
  rw [tables_eq L pk.paxos _ rfl]
  by_cases hq : quorum (testedMask L pk.paxos)
  · rw [if_pos hq, if_pos hq, egress_regs, forward_tbl_regs, egress_forward_tbl F _ rfl]
  · rw [if_neg hq, if_neg hq, egress_regs]
    rfl

/-! ## The registers are a tally -/

/-- The vote a 2B packet carries. -/
def Packet.vote (pk : Packet) : Vote ℕ ℕ where
  inst := pk.paxos.inst.toNat
  round := pk.paxos.round.toNat
  voter := pk.paxos.acceptor.toNat

/-- A 2B packet of one of the acceptors 0, 1 and 2. -/
def Packet.FromThree (pk : Packet) : Prop :=
  pk.paxos.msgtype = PAXOS_2B ∧ pk.paxos.acceptor.toNat < 3

/-- The type and the acceptor of a packet can be read. -/
instance (pk : Packet) : Decidable pk.FromThree := inferInstanceAs (Decidable (_ ∧ _))

/-- The round and the acceptors stored for an instance. -/
def cell (L : Learner) (i : ℕ) : Cell ℕ where
  round := (L.rounds_register.read i).toNat
  voters := members (L.history2B.read i)

/-- Before the first packet nothing has been counted. -/
lemma cell_init (i : ℕ) : cell init i = tally i ([] : List (Vote ℕ ℕ)) := by
  simp [cell, init, tally]

/-- What is recorded for an instance is read back. -/
lemma cell_record_self (L : Learner) (p : PaxosT) (mask : BitVec 8) :
    cell (record L p mask) p.inst.toNat = ⟨p.round.toNat, members mask⟩ := by
  simp [cell, record, p.inst_lt]

/-- The other instances keep what they have. -/
lemma cell_record_of_ne (L : Learner) (p : PaxosT) (mask : BitVec 8) {i : ℕ}
    (h : p.inst.toNat ≠ i) : cell (record L p mask) i = cell L i := by
  simp [cell, record, Ne.symm h]

/-- The three ids have a bit in the mask. -/
lemma Packet.FromThree.voter_lt {pk : Packet} (h : pk.FromThree) : pk.vote.voter < 8 :=
  h.2.trans (by decide)

/-- **A packet of the three acceptors is counted in the cell of its instance**, and in no other. A
packet of a lower round is not counted, one of a higher round starts the count again. -/
lemma cell_update (L : Learner) {pk : Packet} (h : pk.FromThree) (i : ℕ) :
    cell (update L pk.paxos) i =
      if pk.vote.inst = i then (cell L i).count pk.vote else cell L i := by
  by_cases hi : pk.vote.inst = i
  · subst hi
    have hcount : (cell L pk.vote.inst).count pk.vote =
        if storedRound L pk.paxos < pk.paxos.round then
          ⟨pk.paxos.round.toNat, members (acceptorBit pk.paxos)⟩
        else if pk.paxos.round = storedRound L pk.paxos then
          ⟨pk.paxos.round.toNat, members (storedMask L pk.paxos ||| acceptorBit pk.paxos)⟩
        else cell L pk.vote.inst := count_members rfl h.voter_lt
    rw [if_pos rfl, hcount, update, if_neg (not_not.mpr h.1)]
    split_ifs
    · exact cell_record_self L pk.paxos _
    · exact cell_record_self L pk.paxos _
    · rfl
  · rw [if_neg hi]
    unfold update
    split_ifs <;> first | exact cell_record_of_ne L pk.paxos _ hi | rfl

/-- **After a run of such packets the registers hold the tally of their votes.** -/
lemma cell_after (F : BitVec 9 → Option Forward) {pks : List Packet}
    (hpks : ∀ pk ∈ pks, pk.FromThree) (i : ℕ) :
    cell (after (step F) init pks) i = tally i (pks.map Packet.vote) := by
  have h : cell (after (step F) init pks) i = tally i ([] ++ pks.map Packet.vote) := by
    refine tally_foldl (fun L pk hpk j => ?_) cell_init i
    rw [step_eq]
    exact cell_update L (hpks pk hpk) j
  rwa [List.nil_append] at h

/-- **When a packet is forwarded**: its ingress port forwards, and two acceptors are counted. The
mask that is tested has the voters counted as its members, and two of three are what `quorum` asks
for. -/
lemma forwarded_iff (F : BitVec 9 → Option Forward) {pre : List Packet} {pk : Packet}
    (hpre : ∀ q ∈ pre, q.FromThree) (hpk : pk.FromThree) :
    (step F (after (step F) init pre) pk).2.isSome = true ↔
      (outPort F pk.ingress_port).isSome = true ∧
        (counted (pre.map Packet.vote) pk.vote).card = 2 := by
  set L := after (step F) init pre
  have hmask : members (testedMask L pk.paxos) = counted (pre.map Packet.vote) pk.vote := by
    rw [← members_counted rfl hpk.voter_lt (cell_after F hpre pk.vote.inst), testedMask]
    simp only [hpk.1, true_and]
    rfl
  have hvoters : ∀ v ∈ pre.map Packet.vote, v.voter < 3 := by
    intro v hv
    obtain ⟨q, hq, rfl⟩ := List.mem_map.mp hv
    exact (hpre q hq).2
  have hquorum : quorum (testedMask L pk.paxos) ↔
      (counted (pre.map Packet.vote) pk.vote).card = 2 :=
    (card_counted_eq_two hvoters hpk.2 hmask).symm
  rw [step_eq, ← hquorum]
  by_cases hq : quorum (testedMask L pk.paxos) <;> simp [hq]

/-! ## Soundness of forwarding -/

/-- Two acceptors have voted in the packet's own instance and round, up to and including the
packet. -/
def Backed (pre : List Packet) (pk : Packet) : Prop :=
  2 ≤ (voters pk.vote.inst pk.vote.round ((pre ++ [pk]).map Packet.vote)).card

/-- A packet of a forwarding port comes when exactly two acceptors have voted in the highest round
of its instance, and is itself of a higher round, or of a lower one in which no other acceptor has
voted. -/
def CrossRound (F : BitVec 9 → Option Forward) (pre : List Packet) (pk : Packet) : Prop :=
  let vs := pre.map Packet.vote
  let top := highest pk.vote.inst vs
  (outPort F pk.ingress_port).isSome = true ∧ (voters pk.vote.inst top vs).card = 2 ∧
    (top < pk.vote.round ∨
      pk.vote.round < top ∧ ∀ a ∈ voters pk.vote.inst pk.vote.round vs, a = pk.vote.voter)

/-- One packet: it is forwarded without two acceptors behind it exactly when it crosses rounds. A
forwarded packet is counted with those of the highest round, whether that is its own or not, so that
its own round can lack a second acceptor. -/
lemma crossRound_iff (F : BitVec 9 → Option Forward) {pre : List Packet} {pk : Packet}
    (hpre : ∀ q ∈ pre, q.FromThree) (hpk : pk.FromThree) :
    CrossRound F pre pk ↔
      (step F (after (step F) init pre) pk).2.isSome = true ∧ ¬ Backed pre pk := by
  rw [forwarded_iff F hpre hpk]
  unfold CrossRound Backed
  rw [List.map_append, List.map_singleton]
  constructor
  · rintro ⟨hport, hcard, hcross⟩
    have hne : pk.vote.round ≠ highest pk.vote.inst (pre.map Packet.vote) := by
      rcases hcross with hlt | ⟨hlt, -⟩ <;> omega
    have htwo : (counted (pre.map Packet.vote) pk.vote).card = 2 := by rw [counted, if_neg hne, hcard]
    refine ⟨⟨hport, htwo⟩, ?_⟩
    rw [two_le_voters_iff htwo]
    rintro (heq | ⟨a, ha, hother⟩)
    · exact hne heq
    · rcases hcross with hlt | ⟨-, honly⟩
      · rw [voters_eq_empty hlt] at ha
        simp at ha
      · exact hother (honly a ha)
  · rintro ⟨⟨hport, htwo⟩, hnot⟩
    rw [two_le_voters_iff htwo] at hnot
    have hne : pk.vote.round ≠ highest pk.vote.inst (pre.map Packet.vote) := fun h => hnot (.inl h)
    have hcard := htwo
    rw [counted, if_neg hne] at hcard
    refine ⟨hport, hcard, ?_⟩
    rcases lt_or_gt_of_ne hne with hlt | hlt
    · refine .inr ⟨hlt, fun a ha => ?_⟩
      by_contra hother
      exact hnot (.inr ⟨a, ha, hother⟩)
    · exact .inl hlt

/-- **Every forwarded packet has two acceptors behind its own round exactly when no packet crosses
rounds.** -/
theorem forwards_backed_iff (F : BitVec 9 → Option Forward) (pks : List Packet)
    (hpks : ∀ pk ∈ pks, pk.FromThree) :
    (∀ pre pk post, pks = pre ++ pk :: post →
      (step F (after (step F) init pre) pk).2.isSome = true → Backed pre pk) ↔
    ∀ pre pk post, pks = pre ++ pk :: post → ¬ CrossRound F pre pk := by
  have hiff : ∀ pre pk post, pks = pre ++ pk :: post → (CrossRound F pre pk ↔
      (step F (after (step F) init pre) pk).2.isSome = true ∧ ¬ Backed pre pk) := by
    intro pre pk post h
    have hpre : ∀ q ∈ pre, q.FromThree := fun q hq => hpks q (by simp [h, hq])
    exact crossRound_iff F hpre (hpks pk (by simp [h]))
  constructor
  · intro hsound pre pk post h hcross
    obtain ⟨hforward, hnot⟩ := (hiff pre pk post h).mp hcross
    exact hnot (hsound pre pk post h hforward)
  · intro hcross pre pk post h hforward
    by_contra hnot
    exact hcross pre pk post h ((hiff pre pk post h).mpr ⟨hforward, hnot⟩)

/-- A 2B packet with value zero, from port 1. -/
def packet2b (i : BitVec 16) (r : BitVec 8) (a : BitVec 64) : Packet where
  ingress_port := 1
  paxos := { msgtype := PAXOS_2B, inst := i, round := r, vround := 0, acceptor := a, value := 0 }

/-- Two acceptors vote in round 1: the second packet is forwarded, and is backed. -/
theorem forwards_backed_two_votes :
    (∀ pk ∈ [packet2b 5 1 0, packet2b 5 1 1], pk.FromThree) ∧
    ((∀ pre pk post, [packet2b 5 1 0, packet2b 5 1 1] = pre ++ pk :: post →
      (step (fun _ => some (.forward 2)) (after (step fun _ => some (.forward 2)) init pre)
        pk).2.isSome = true → Backed pre pk) ↔
    ∀ pre pk post, [packet2b 5 1 0, packet2b 5 1 1] = pre ++ pk :: post →
      ¬ CrossRound (fun _ => some (.forward 2)) pre pk) :=
  ⟨by decide, forwards_backed_iff _ _ (by decide)⟩

/-- Two acceptors vote in round 1 and one of them in round 2: its packet is forwarded alone in its
round. -/
theorem forwards_unbacked :
    ¬ ∀ (F : BitVec 9 → Option Forward) (pks : List Packet), (∀ pk ∈ pks, pk.FromThree) →
      ∀ pre pk post, pks = pre ++ pk :: post →
        (step F (after (step F) init pre) pk).2.isSome = true → Backed pre pk := by
  intro h
  have hlast := h (fun _ => some (.forward 2)) [packet2b 5 1 0, packet2b 5 1 1, packet2b 5 2 0]
    (by decide) [packet2b 5 1 0, packet2b 5 1 1] (packet2b 5 2 0) [] rfl (by decide +kernel)
  revert hlast
  unfold Backed
  decide +kernel

/-! ## Completeness of forwarding -/

/-- A packet of the highest round of its instance so far, in which one other acceptor, and only that
one, has voted: the first packet of the second acceptor. -/
def SecondVoter (pre : List Packet) (pk : Packet) : Prop :=
  highest pk.vote.inst ((pre ++ [pk]).map Packet.vote) = pk.vote.round ∧
    ∃ a, a ≠ pk.vote.voter ∧ voters pk.vote.inst pk.vote.round (pre.map Packet.vote) = {a}

/-- The second acceptor is counted with the first. The first voter's round is the highest, and the
second one's is the same. -/
lemma SecondVoter.card_counted {pre : List Packet} {pk : Packet} (h : SecondVoter pre pk) :
    (counted (pre.map Packet.vote) pk.vote).card = 2 := by
  obtain ⟨htop, a, hne, ha⟩ := h
  rw [List.map_append, List.map_singleton, highest_concat, if_pos rfl] at htop
  -- the other acceptor's vote has brought the round already
  have hle : pk.vote.round ≤ highest pk.vote.inst (pre.map Packet.vote) := by
    have hmem : a ∈ voters pk.vote.inst pk.vote.round (pre.map Packet.vote) := by
      rw [ha]
      exact Finset.mem_singleton_self a
    obtain ⟨v, hv, hi, hr, -⟩ := mem_voters.mp hmem
    rw [← hi, ← hr]
    exact round_le_highest hv
  have heq : pk.vote.round = highest pk.vote.inst (pre.map Packet.vote) :=
    hle.antisymm (htop ▸ le_max_left _ _)
  rw [counted_of_eq heq, voters_concat_self, ha]
  exact Finset.card_pair hne.symm

/-- **The first packet of the second acceptor is forwarded**, whatever came before it, to the port
that the table has for its ingress port. No condition is put on the packets before it: neither a
repeated vote nor one of an old round can take its delivery away. -/
theorem second_voter_forwarded (F : BitVec 9 → Option Forward) (pks : List Packet)
    (hpks : ∀ pk ∈ pks, pk.FromThree) {pre post : List Packet} {pk : Packet}
    (h : pks = pre ++ pk :: post) (hsecond : SecondVoter pre pk) {port : BitVec 9}
    (hport : F pk.ingress_port = some (.forward port)) :
    (step F (after (step F) init pre) pk).2 = some (port, pk.paxos) := by
  have hpre : ∀ q ∈ pre, q.FromThree := fun q hq => hpks q (by simp [h, hq])
  have hout : outPort F pk.ingress_port = some port := by rw [outPort, hport]
  have hfwd : (step F (after (step F) init pre) pk).2.isSome = true := by
    rw [forwarded_iff F hpre (hpks pk (by simp [h])), hout]
    exact ⟨rfl, hsecond.card_counted⟩
  rw [step_eq] at hfwd ⊢
  dsimp only at hfwd ⊢
  split_ifs at hfwd ⊢ with hq
  · rw [hout]
    rfl
  · cases hfwd

/-- Acceptor 0 votes in rounds 1 and 2, and again in 1; acceptor 1 is the second of round 2. -/
theorem second_voter_round_two :
    (step (fun _ => some (.forward 2)) (after (step fun _ => some (.forward 2)) init
      [packet2b 5 1 0, packet2b 5 2 0, packet2b 5 1 0]) (packet2b 5 2 1)).2 =
      some (2, (packet2b 5 2 1).paxos) :=
  second_voter_forwarded _ [packet2b 5 1 0, packet2b 5 2 0, packet2b 5 1 0, packet2b 5 2 1]
    (by decide) rfl ⟨by decide, 0, by decide, by decide⟩ rfl

/-! ## Delivering once -/

/-- All packets of an instance are of one round. -/
def OneRound (pks : List Packet) : Prop :=
  ∀ p ∈ pks, ∀ q ∈ pks, p.paxos.inst = q.paxos.inst → p.paxos.round = q.paxos.round

/-- The packets of a list can be compared in pairs. -/
instance (pks : List Packet) : Decidable (OneRound pks) :=
  inferInstanceAs (Decidable (∀ p ∈ pks, ∀ q ∈ pks, _))

/-- What is forwarded of an instance. Each entry is a packet with the port it was sent to. -/
def forwarded (F : BitVec 9 → Option Forward) (pks : List Packet) (i : BitVec 16) :
    List (BitVec 9 × PaxosT) := outputs (step F) (fun pk => pk.paxos.inst) i init pks

/-- The packet's ingress port has an entry that forwards. -/
def FromForwarding (F : BitVec 9 → Option Forward) (pk : Packet) : Prop :=
  (outPort F pk.ingress_port).isSome = true

/-- The acceptors that have voted in the packet's instance, up to and including the packet. -/
def heardWith (pre : List Packet) (pk : Packet) : Finset ℕ :=
  voters pk.vote.inst pk.vote.round ((pre ++ [pk]).map Packet.vote)

/-- With one round for each instance, a packet is forwarded whenever two acceptors have voted. The
stored round is that of the instance from its first packet on, and the first packet has no other
acceptor beside it. -/
lemma forwarded_iff_of_oneRound (F : BitVec 9 → Option Forward) {pre post : List Packet}
    {pk : Packet} (hpks : ∀ q ∈ pre ++ pk :: post, q.FromThree)
    (hround : OneRound (pre ++ pk :: post)) :
    (step F (after (step F) init pre) pk).2 ≠ none ↔
      FromForwarding F pk ∧ (heardWith pre pk).card = 2 := by
  have hpre : ∀ q ∈ pre, q.FromThree := fun q hq => hpks q (List.mem_append_left _ hq)
  have hmem : pk ∈ pre ++ pk :: post := by simp
  have hvotes : ∀ v ∈ pre.map Packet.vote, v.inst = pk.vote.inst → v.round = pk.vote.round := by
    intro v hv hinst
    obtain ⟨q, hq, rfl⟩ := List.mem_map.mp hv
    exact congrArg BitVec.toNat
      (hround q (List.mem_append_left _ hq) pk hmem (BitVec.eq_of_toNat_eq hinst))
  have hcounted : (counted (pre.map Packet.vote) pk.vote).card = 2 ↔ (heardWith pre pk).card = 2 := by
    unfold heardWith
    rw [List.map_append, List.map_singleton]
    by_cases heq : pk.vote.round = highest pk.vote.inst (pre.map Packet.vote)
    · rw [counted_of_eq heq]
    · -- the first packet of its instance
      have hnone : ∀ r, voters pk.vote.inst r (pre.map Packet.vote) = ∅ := by
        intro r
        apply Finset.eq_empty_of_forall_notMem
        intro a ha
        obtain ⟨v, hv, hinst, -, -⟩ := mem_voters.mp ha
        exact heq (highest_eq hvotes ⟨v, hv, hinst⟩).symm
      rw [counted, if_neg heq, voters_concat_self, hnone, hnone]
      simp
  rw [Option.ne_none_iff_isSome, forwarded_iff F hpre (hpks pk hmem), hcounted]
  rfl

/-- Acceptors that were heard stay heard. -/
lemma heardWith_subset {pre mid : List Packet} {p q : Packet} (hinst : p.vote.inst = q.vote.inst)
    (hround : p.vote.round = q.vote.round) : heardWith pre p ⊆ heardWith (pre ++ p :: mid) q := by
  intro a ha
  obtain ⟨v, hv, hv'⟩ := mem_voters.mp ha
  apply mem_voters.mpr
  refine ⟨v, ?_, hinst ▸ hround ▸ hv'⟩
  obtain ⟨r, hr, rfl⟩ := List.mem_map.mp hv
  apply List.mem_map_of_mem
  rcases List.mem_append.mp hr with hr | hr
  · simp [hr]
  · simp [List.mem_singleton.mp hr]

/-- **At most one packet of an instance is forwarded** exactly when, after a packet on a forwarding
port with which two acceptors have voted, no other of the instance comes on such a port before the
third one has. While exactly two have voted, every further packet of the two is forwarded again. -/
theorem forwarded_once_iff (F : BitVec 9 → Option Forward) (pks : List Packet)
    (hpks : ∀ pk ∈ pks, pk.FromThree) (hround : OneRound pks) :
    (∀ i, (forwarded F pks i).length ≤ 1) ↔
      ∀ pre p mid q post, pks = pre ++ p :: (mid ++ q :: post) → p.paxos.inst = q.paxos.inst →
        FromForwarding F p → FromForwarding F q → (heardWith pre p).card = 2 →
          3 ≤ (heardWith (pre ++ p :: mid) q).card := by
  have hfirst : ∀ pre p mid q post, pks = pre ++ p :: (mid ++ q :: post) →
      ((step F (after (step F) init pre) p).2 ≠ none ↔
        FromForwarding F p ∧ (heardWith pre p).card = 2) := by
    intro pre p mid q post h
    exact forwarded_iff_of_oneRound F (h ▸ hpks) (h ▸ hround)
  have hsecond : ∀ pre p mid q post, pks = pre ++ p :: (mid ++ q :: post) →
      ((step F (after (step F) init (pre ++ p :: mid)) q).2 ≠ none ↔
        FromForwarding F q ∧ (heardWith (pre ++ p :: mid) q).card = 2) := by
    intro pre p mid q post h
    have h' : pks = (pre ++ p :: mid) ++ q :: post := by simp [h]
    exact forwarded_iff_of_oneRound F (h' ▸ hpks) (h' ▸ hround)
  have hgrows : ∀ pre p mid q post, pks = pre ++ p :: (mid ++ q :: post) →
      p.paxos.inst = q.paxos.inst →
      (heardWith pre p).card ≤ (heardWith (pre ++ p :: mid) q).card := by
    intro pre p mid q post h hinst
    have hsame : p.paxos.round = q.paxos.round :=
      hround p (by simp [h]) q (by simp [h]) hinst
    exact Finset.card_le_card
      (heardWith_subset (congrArg BitVec.toNat hinst) (congrArg BitVec.toNat hsame))
  constructor
  · intro honce pre p mid q post h hinst hp hq htwo
    have hout := (hfirst pre p mid q post h).mpr ⟨hp, htwo⟩
    have hnone := length_outputs_le_one_iff.mp (honce q.paxos.inst) pre p mid q post h hinst rfl hout
    have hle := hgrows pre p mid q post h hinst
    by_contra hlt
    apply (hsecond pre p mid q post h).mpr ⟨hq, by omega⟩
    exact hnone
  · intro hthird i
    apply length_outputs_le_one_iff.mpr
    intro pre p mid q post h hpi hqi hout
    obtain ⟨hp, htwo⟩ := (hfirst pre p mid q post h).mp hout
    by_contra hout'
    obtain ⟨hq, htwo'⟩ := (hsecond pre p mid q post h).mp hout'
    have hthree := hthird pre p mid q post h (hpi.trans hqi.symm) hp hq htwo
    omega

/-- Three acceptors vote, one after the other. -/
theorem forwarded_once_three :
    (∀ pk ∈ [packet2b 5 1 0, packet2b 5 1 1, packet2b 5 1 2], pk.FromThree) ∧
    OneRound [packet2b 5 1 0, packet2b 5 1 1, packet2b 5 1 2] ∧
    ((∀ i, (forwarded (fun _ => some (.forward 2))
        [packet2b 5 1 0, packet2b 5 1 1, packet2b 5 1 2] i).length ≤ 1) ↔
      ∀ pre p mid q post, [packet2b 5 1 0, packet2b 5 1 1, packet2b 5 1 2] =
          pre ++ p :: (mid ++ q :: post) → p.paxos.inst = q.paxos.inst →
        FromForwarding (fun _ => some (.forward 2)) p →
        FromForwarding (fun _ => some (.forward 2)) q → (heardWith pre p).card = 2 →
          3 ≤ (heardWith (pre ++ p :: mid) q).card) :=
  ⟨by decide, by decide, forwarded_once_iff _ _ (by decide) (by decide)⟩

/-- The packet of the second acceptor comes twice, and is forwarded twice. -/
theorem forwarded_twice :
    ¬ ∀ (F : BitVec 9 → Option Forward) (pks : List Packet), (∀ pk ∈ pks, pk.FromThree) →
      OneRound pks → ∀ i, (forwarded F pks i).length ≤ 1 := by
  intro h
  have htwice := h (fun _ => some (.forward 2)) [packet2b 5 1 0, packet2b 5 1 1, packet2b 5 1 1]
    (by decide) (by decide) 5
  revert htwice
  decide +kernel

end Learner

end P4xos.P4v14
