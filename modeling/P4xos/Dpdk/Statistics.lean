import P4xos.Dpdk.Learner

/-!
# The statistics of the DPDK learner

`dpdk/learner/main.c`: `consensus_counter` grows when an instance is delivered, `tot_cycles` when
the answers are transmitted, and once a second `report_stat` divides one by the other and sets both
to 0. It divides when there are cycles.

1. `Traffic` is what happens to the answers, and what it adds to the counters; `Statistics` has the
   counters. The traffic does not depend on the counters (`traffic_run`).
2. `traffic_counted`: between two reports the counters grow by what is added, with 32 and 64 bits.
3. `cycles_of_consensuses_eq_zero`: in an interval without a consensus only those answers are
   transmitted that the buffer had at its start (`leftover`).
4. `report_defined_iff`: a report divides by 0 when the answers that the report before it found in
   the transmit buffer are all that was transmitted since, or when the number of consensuses is a
   multiple of 2 ^ 32.

The events come in any order: a packet, a transmission, a report.
-/

namespace P4xos.Dpdk

open P4xos.Lib

variable {L : Type*}

/-! ## What is counted -/

/-- A packet is received, and the buffer of its answer has `udata64`; the transmit buffer is sent,
since it is full or since the main loop drains it; the timer expires. A run need not send a buffer
when it is full. -/
inductive StatEvent
  | rx (r : Rx) (udata64 : BitVec 64)
  | transmit (now : BitVec 64)
  | report

/-- The timer has expired. -/
def StatEvent.isReport : StatEvent → Bool
  | rx _ _ => false
  | transmit _ => false
  | report => true

/-- The cycles of the packets that are transmitted, each with its `udata64`.
Source: `dpdk/learner/main.c` `calc_cycles` -/
def calc_cycles (now : BitVec 64) (pkts : List (BitVec 64)) : BitVec 64 :=
  pkts.foldl (fun cycles udata64 => cycles + (now - udata64)) 0

/-- The learner, and the answers in its transmit buffer. -/
structure Traffic (L : Type*) where
  dl : DpLearner L
  tx_buffer : List (BitVec 64)

/-- What an event adds to the counters. -/
structure Added where
  consensus : Bool
  cycles : BitVec 64

namespace Traffic

variable (lib : LibLearner L)

/-- One event.
Source: `dpdk/learner/main.c` `paxos_rx_process`, `calc_cycles` -/
def step (t : Traffic L) : StatEvent → Traffic L × Added
  | .rx r udata64 =>
      let (dl, out) := DpLearner.paxos_rx_process lib t.dl r
      let answers := out.transmitted.map fun _ => udata64
      (⟨dl, t.tx_buffer ++ answers⟩, ⟨out.delivered.isSome, 0⟩)
  | .transmit now => ({ t with tx_buffer := [] }, ⟨false, calc_cycles now t.tx_buffer⟩)
  | .report => (t, ⟨false, 0⟩)

/-- The number of instances that are delivered in a run. -/
def consensuses (t : Traffic L) (es : List StatEvent) : ℕ :=
  (trace (step lib) t es).countP fun e => e.2.consensus

/-- The cycles of the answers that are transmitted in a run. -/
def cycles (t : Traffic L) (es : List StatEvent) : BitVec 64 :=
  ((trace (step lib) t es).map fun e => e.2.cycles).sum

/-- The cycles of the answers that are in the buffer already, when it is sent. -/
def leftover (tx_buffer : List (BitVec 64)) : List StatEvent → BitVec 64
  | [] => 0
  | .transmit now :: _ => calc_cycles now tx_buffer
  | .rx _ _ :: es => leftover tx_buffer es
  | .report :: es => leftover tx_buffer es

variable {lib} {t : Traffic L} {e : StatEvent} {es : List StatEvent}

/-- The first event counts, and then the rest in the state it leads to. -/
lemma consensuses_cons :
    consensuses lib t (e :: es) =
      consensuses lib (t.step lib e).1 es + if (t.step lib e).2.consensus then 1 else 0 := by
  rw [consensuses, trace, List.countP_cons]
  rfl

/-- The same for the cycles. -/
lemma cycles_cons :
    cycles lib t (e :: es) = (t.step lib e).2.cycles + cycles lib (t.step lib e).1 es := by
  rw [cycles, trace, List.map_cons, List.sum_cons]
  rfl

/-- An empty buffer has no cycles. -/
lemma leftover_nil (es : List StatEvent) : leftover [] es = 0 := by
  induction es with
  | nil => rfl
  | cons e es ih =>
      cases e with
      | rx r udata64 => exact ih
      | transmit now => rfl
      | report => exact ih

/-- A call that delivers nothing answers nobody. `deliver` is called with what
`learner_deliver_next` returns, and nothing else transmits. -/
lemma transmitted_of_delivered_eq_none {dl : DpLearner L} {r : Rx}
    (h : (DpLearner.paxos_rx_process lib dl r).2.delivered = none) :
    (DpLearner.paxos_rx_process lib dl r).2.transmitted = [] := by
  unfold DpLearner.paxos_rx_process at h ⊢
  split_ifs at h ⊢ with hpromise haccepted
  · unfold DpLearner.rx_promise
    dsimp only
    split <;> rfl
  · rw [(DpLearner.rx_accepted_spec lib dl r).1] at h
    simp only [DpLearner.rx_accepted]
    split
    · rfl
    · next hnext =>
        rw [hnext] at h
        exact absurd h (Option.some_ne_none _)
  · rfl

/-- **Without a consensus** only the answers that are in the buffer already are transmitted. An
induction on the events: a packet leaves the buffer as it is, and the first transmission empties it.
-/
lemma cycles_of_consensuses_eq_zero (h : consensuses lib t es = 0) :
    cycles lib t es = leftover t.tx_buffer es := by
  induction es generalizing t with
  | nil => rfl
  | cons e es ih =>
      rw [consensuses_cons, Nat.add_eq_zero_iff] at h
      obtain ⟨hes, he⟩ := h
      rw [cycles_cons, ih hes]
      cases e with
      | rx r udata64 =>
          have hnone : (DpLearner.paxos_rx_process lib t.dl r).2.delivered = none := by
            simpa [step] using he
          have hbuffer : (t.step lib (.rx r udata64)).1.tx_buffer = t.tx_buffer := by
            show t.tx_buffer ++ (DpLearner.paxos_rx_process lib t.dl r).2.transmitted.map _ = _
            rw [transmitted_of_delivered_eq_none hnone, List.map_nil, List.append_nil]
          rw [hbuffer]
          exact BitVec.zero_add _
      | transmit now =>
          show calc_cycles now t.tx_buffer + leftover [] es = calc_cycles now t.tx_buffer
          rw [leftover_nil]
          exact BitVec.add_zero _
      | report => exact BitVec.zero_add _

end Traffic

/-! ## The counters -/

/-- The counters of the learner. -/
structure Statistics (L : Type*) where
  traffic : Traffic L
  consensus_counter : BitVec 32
  tot_cycles : BitVec 64

namespace Statistics

variable (lib : LibLearner L)

/-- When the learner starts. -/
def init (dl : DpLearner L) : Statistics L := ⟨⟨dl, []⟩, 0, 0⟩

/-- What is printed as the average, unless it is divided by 0.
Source: `dpdk/learner/main.c` `report_stat` -/
def report_stat (s : Statistics L) : Option (BitVec 64) :=
  let nb_consensus := s.consensus_counter
  let avg_cycles := s.tot_cycles
  if avg_cycles > 0 then
    -- `nb_consensus` is an `int`, and `avg_cycles` has 64 bits
    if nb_consensus.signExtend 64 = 0 then none else some (avg_cycles / nb_consensus.signExtend 64)
  else some avg_cycles

/-- One event. A report sets the counters to 0. -/
def step (s : Statistics L) (e : StatEvent) : Statistics L :=
  let (traffic, added) := s.traffic.step lib e
  if e.isReport then ⟨traffic, 0, 0⟩
  else
    { traffic := traffic
      consensus_counter := if added.consensus then s.consensus_counter + 1 else s.consensus_counter
      tot_cycles := s.tot_cycles + added.cycles }

/-- A sequence of events. -/
def run (s : Statistics L) (es : List StatEvent) : Statistics L := es.foldl (step lib) s

/-- No report of a run divides by 0. -/
def NeverDividesByZero (dl : DpLearner L) (es : List StatEvent) : Prop :=
  ∀ pre post, es = pre ++ .report :: post → report_stat (run lib (init dl) pre) ≠ none

/-- The events of `mid` are those since the last report, or since the start. -/
structure Interval (pre mid : List StatEvent) : Prop where
  opens : pre = [] ∨ ∃ fs, pre = fs ++ [.report]
  inside : ∀ e ∈ mid, e.isReport = false

variable {lib} {s : Statistics L} {dl : DpLearner L} {es pre mid : List StatEvent}

/-- A report divides when there are cycles. -/
lemma report_stat_eq_none_iff :
    report_stat s = none ↔ s.tot_cycles ≠ 0 ∧ s.consensus_counter = 0 := by
  have hpos : s.tot_cycles > 0 ↔ s.tot_cycles ≠ 0 := BitVec.pos_iff_ne_zero s.tot_cycles
  have hzero : s.consensus_counter.signExtend 64 = 0 ↔ s.consensus_counter = 0 := by
    rw [← BitVec.toInt_inj, ← BitVec.toInt_inj, BitVec.toInt_signExtend_of_le (by decide)]
    rfl
  simp only [report_stat, hpos, hzero]
  split_ifs with hcycles hconsensus
  · exact iff_of_true rfl ⟨hcycles, hconsensus⟩
  · exact iff_of_false not_false fun h => hconsensus h.2
  · exact iff_of_false not_false fun h => hcycles h.1

/-- A run goes on where another one ends. -/
lemma run_append (s : Statistics L) (es fs : List StatEvent) :
    run lib s (es ++ fs) = run lib (run lib s es) fs := List.foldl_append

/-- The counters do not matter to the traffic. -/
lemma traffic_run : (run lib s es).traffic = after (Traffic.step lib) s.traffic es := by
  induction es generalizing s with
  | nil => rfl
  | cons e es ih =>
      have hstep : (step lib s e).traffic = (s.traffic.step lib e).1 := by
        unfold step
        split_ifs <;> rfl
      rw [after_cons, ← hstep, ← ih]
      rfl

/-- **Between two reports** the counters grow by what is added. By induction on the events, none of
which is a report: each adds what it adds, and no counter is reset. -/
lemma traffic_counted (lib : LibLearner L) (s : Statistics L)
    (hmid : ∀ e ∈ mid, e.isReport = false) :
    (run lib s mid).consensus_counter =
        s.consensus_counter + BitVec.ofNat 32 (Traffic.consensuses lib s.traffic mid) ∧
      (run lib s mid).tot_cycles = s.tot_cycles + Traffic.cycles lib s.traffic mid := by
  induction mid generalizing s with
  | nil => simp [run, Traffic.consensuses, Traffic.cycles, trace]
  | cons e es ih =>
      have he : e.isReport = false := hmid e List.mem_cons_self
      have hstep : step lib s e =
          { traffic := (s.traffic.step lib e).1
            consensus_counter :=
              if (s.traffic.step lib e).2.consensus then s.consensus_counter + 1
              else s.consensus_counter
            tot_cycles := s.tot_cycles + (s.traffic.step lib e).2.cycles } := by
        simp only [step, he]
        rfl
      obtain ⟨hconsensus, hcycles⟩ := ih (step lib s e) fun f hf =>
        hmid f (List.mem_cons_of_mem e hf)
      rw [hstep] at hconsensus hcycles
      constructor
      · rw [Traffic.consensuses_cons]
        refine Eq.trans (by rw [← hstep]; rfl) (hconsensus.trans ?_)
        split_ifs
        · rw [BitVec.ofNat_add]
          grind
        · rfl
      · rw [Traffic.cycles_cons, ← BitVec.add_assoc]
        exact Eq.trans (by rw [← hstep]; rfl) hcycles

/-- A report leaves nothing behind. -/
lemma counters_eq_zero (lib : LibLearner L) (dl : DpLearner L)
    (h : pre = [] ∨ ∃ fs, pre = fs ++ [.report]) :
    (run lib (init dl) pre).consensus_counter = 0 ∧ (run lib (init dl) pre).tot_cycles = 0 := by
  rcases h with rfl | ⟨fs, rfl⟩
  · exact ⟨rfl, rfl⟩
  · rw [run_append]
    exact ⟨rfl, rfl⟩

/-- The events since the last report. An induction from the back: a report starts a new stretch, any
other event belongs to the one before it. -/
lemma exists_interval (es : List StatEvent) : ∃ pre mid, es = pre ++ mid ∧ Interval pre mid := by
  induction es using List.reverseRecOn with
  | nil => exact ⟨[], [], rfl, .inl rfl, by simp⟩
  | append_singleton es e ih =>
      by_cases he : e.isReport
      · have hreport : e = .report := by
          cases e <;> simp [StatEvent.isReport] at he ⊢
        exact ⟨es ++ [e], [], (List.append_nil _).symm, .inr ⟨es, by rw [hreport]⟩, by simp⟩
      · obtain ⟨pre, mid, rfl, hopens, hinside⟩ := ih
        refine ⟨pre, mid ++ [e], List.append_assoc .., hopens, ?_⟩
        intro f hf
        rcases List.mem_append.mp hf with hf | hf
        · exact hinside f hf
        · rw [List.mem_singleton.mp hf]
          exact Bool.eq_false_iff.mpr he

/-- A report divides by 0 when what is transmitted since the last one has cycles, and the number of
consensuses since is 0 with 32 bits. -/
lemma report_stat_run_eq_none_iff (h : Interval pre mid) :
    report_stat (run lib (init dl) (pre ++ mid)) = none ↔
      Traffic.cycles lib (after (Traffic.step lib) ⟨dl, []⟩ pre) mid ≠ 0 ∧
        2 ^ 32 ∣ Traffic.consensuses lib (after (Traffic.step lib) ⟨dl, []⟩ pre) mid := by
  obtain ⟨hconsensus, hcycles⟩ := traffic_counted lib (run lib (init dl) pre) h.inside
  obtain ⟨hconsensus₀, hcycles₀⟩ := counters_eq_zero lib dl h.opens
  rw [report_stat_eq_none_iff, run_append, hconsensus, hcycles, hconsensus₀, hcycles₀, traffic_run]
  have hmultiple (n : ℕ) : (0 : BitVec 32) + BitVec.ofNat 32 n = 0 ↔ 2 ^ 32 ∣ n := by
    bv_omega
  rw [hmultiple, show ∀ c : BitVec 64, (0 : BitVec 64) + c = c from BitVec.zero_add]
  rfl

/-- **No report divides by 0** exactly when, in each interval between reports without a consensus,
the answers that were in the buffer before it take no cycles, and in each interval with a multiple
of 2 ^ 32 consensuses no answers do. -/
theorem report_defined_iff (lib : LibLearner L) (dl : DpLearner L) (es : List StatEvent) :
    NeverDividesByZero lib dl es ↔
      ∀ pre mid post, es = pre ++ (mid ++ .report :: post) → Interval pre mid →
        let t := after (Traffic.step lib) ⟨dl, []⟩ pre
        (Traffic.consensuses lib t mid = 0 → Traffic.leftover t.tx_buffer mid = 0) ∧
        (0 < Traffic.consensuses lib t mid → 2 ^ 32 ∣ Traffic.consensuses lib t mid →
          Traffic.cycles lib t mid = 0) := by
  constructor
  · intro h pre mid post hes hinterval
    have hdefined := h (pre ++ mid) post (by rw [hes, List.append_assoc])
    rw [Ne, report_stat_run_eq_none_iff hinterval] at hdefined
    constructor
    · intro hnone
      rw [← Traffic.cycles_of_consensuses_eq_zero hnone]
      by_contra hcycles
      exact hdefined ⟨hcycles, by rw [hnone]; exact dvd_zero _⟩
    · intro _ hmultiple
      by_contra hcycles
      exact hdefined ⟨hcycles, hmultiple⟩
  · intro h fs post hes hdivides
    obtain ⟨pre, mid, rfl, hinterval⟩ := exists_interval fs
    obtain ⟨hcycles, hmultiple⟩ := (report_stat_run_eq_none_iff hinterval).mp hdivides
    obtain ⟨hnone, hsome⟩ := h pre mid post (by rw [hes, List.append_assoc]) hinterval
    rcases Nat.eq_zero_or_pos (Traffic.consensuses lib
      (after (Traffic.step lib) ⟨dl, []⟩ pre) mid) with hzero | hpos
    · apply hcycles
      rw [Traffic.cycles_of_consensuses_eq_zero hzero]
      exact hnone hzero
    · exact hcycles (hsome hpos hmultiple)

/-- The answer to the first instance is still in the buffer at the first report, and it is all that
is transmitted before the second one. -/
theorem divides_by_zero :
    ¬ ∀ es, NeverDividesByZero Libpaxos.learner₀ (DpLearner.init 3 0 fun _ => emptyMbuf) es := by
  intro h
  exact h [.rx (DpLearner.vote 1 0) 0, .rx (DpLearner.vote 1 1) 5, .report, .transmit 10, .report]
    [.rx (DpLearner.vote 1 0) 0, .rx (DpLearner.vote 1 1) 5, .report, .transmit 10] [] rfl
    (by decide +kernel)

end Statistics

end P4xos.Dpdk
