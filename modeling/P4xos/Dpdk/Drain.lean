import P4xos.Dpdk.Coordinator
import P4xos.Dpdk.Transmit
import P4xos.Dpdk.Acceptor
import P4xos.Lib.Polling

/-!
# Draining the transmit buffers

`lcore_main` of `dpdk/coordinator/main.c`, `dpdk/acceptor/main.c` and `dpdk/learner/main.c`: an
iteration flushes the transmit buffer when more than `drain_tsc` cycles have passed since
`prev_tsc`, which every iteration sets, and not only one that flushes.

* `Loop` is the loop with the number of packets in the buffer, the same for the three programs but
  for `drain_tsc`. `DpLearner.lcore_main_simulates` connects it to the `Transmitter`.
* `Loop.short_iff`: a stretch of events is without a flush exactly when each iteration starts within
  `drain_tsc` of the one before, and the buffer does not fill up on the way.
* `Loop.onTime_iff`: the buffer is drained on time when no stretch of short iterations is longer
  than `drain_tsc`. With iterations that are always short nothing is flushed, however long it waits.
* `drained_on_time_iff`: the same of the three programs, each with its own `drain_tsc`.

The times are those of the 64-bit time stamp counter, and do not decrease along a run.
-/

namespace P4xos.Dpdk

open P4xos.Lib

/-! ## The loop -/

/-- What is kept from one iteration to the next, and the number of packets in the buffer. What the
packets are does not matter for the loop. -/
structure Loop where
  prev_tsc : BitVec 64
  length : ℕ

/-- An iteration starts, or `paxos_rx_process` hands a packet to `rte_eth_tx_buffer`. -/
inductive LoopEvent
  | iterate (cur_tsc : BitVec 64) (d : Driver)
  | buffer (now : BitVec 64) (d : Driver)

namespace LoopEvent

/-- The time stamp counter. -/
def tsc : LoopEvent → BitVec 64
  | iterate cur_tsc _ => cur_tsc
  | buffer now _ => now

/-- An iteration of the main loop, and no call in between. -/
def IsIterate : LoopEvent → Prop
  | iterate _ _ => True
  | buffer _ _ => False

end LoopEvent

namespace Loop

/-- Before the first iteration. The first iteration compares with 0, and so it flushes. -/
def start : Loop := ⟨0, 0⟩

/-- One event.
Source: `dpdk/coordinator/main.c`, `dpdk/acceptor/main.c`, `dpdk/learner/main.c` `lcore_main` -/
def step (drain_tsc : BitVec 64) (s : Loop) : LoopEvent → Loop
  | .iterate cur_tsc d =>
      let diff_tsc := cur_tsc - s.prev_tsc
      { prev_tsc := cur_tsc
        length := if diff_tsc > drain_tsc then (rte_eth_tx_buffer_flush s.length d).1 else s.length }
  | .buffer _ d => { s with length := (rte_eth_tx_buffer s.length d).1 }

/-- The event calls `rte_eth_tx_buffer_flush`, or has `rte_eth_tx_buffer` flush a full buffer. -/
def flushes (drain_tsc : BitVec 64) (s : Loop) : LoopEvent → Bool
  | .iterate cur_tsc _ => decide (cur_tsc - s.prev_tsc > drain_tsc)
  | .buffer _ _ => decide (BURST_SIZE ≤ s.length + 1)

/-- The loop as one that polls the clock. -/
def poller (drain_tsc : BitVec 64) : Poller Loop LoopEvent where
  step := step drain_tsc
  time e := e.tsc.toNat
  polls := LoopEvent.IsIterate
  attempts := flushes drain_tsc
  waiting s := 0 < s.length

/-! ## Stretches of short iterations -/

/-- The time of the last iteration, or 0. -/
def prevTsc (es : List LoopEvent) : BitVec 64 :=
  es.foldl (fun t e => match e with
    | .iterate cur_tsc _ => cur_tsc
    | .buffer _ _ => t) 0

/-- In the events of `mid`, behind those of `pre`, every iteration starts within `drain_tsc` of the
one before, and the buffer does not fill up. -/
def Short (drain_tsc : BitVec 64) (pre mid : List LoopEvent) : Prop :=
  ∀ fs e gs, mid = fs ++ e :: gs →
    match e with
    | .iterate cur_tsc _ => cur_tsc.toNat - (prevTsc (pre ++ fs)).toNat ≤ drain_tsc.toNat
    | .buffer _ _ => ((poller drain_tsc).run start (pre ++ fs)).length + 1 < BURST_SIZE

variable {drain_tsc : BitVec 64} {began : ℕ} {es : List LoopEvent}

/-- The loop keeps the time of its last iteration. -/
lemma prev_tsc_run : ((poller drain_tsc).run start es).prev_tsc = prevTsc es := by
  induction es using List.reverseRecOn with
  | nil => rfl
  | append_singleton es e ih =>
      rw [Poller.run_append, prevTsc, List.foldl_append, ← prevTsc, ← ih]
      cases e <;> rfl

/-- It is not later than the last event. -/
lemma prevTsc_le (htimed : (poller drain_tsc).Timed began es) :
    (prevTsc es).toNat ≤ (poller drain_tsc).lastTime began es := by
  induction es using List.reverseRecOn with
  | nil => exact Nat.zero_le _
  | append_singleton es e ih =>
      rw [Poller.lastTime_concat, prevTsc, List.foldl_append, ← prevTsc]
      cases e with
      | iterate cur_tsc d => exact le_rfl
      | buffer now d => exact (ih htimed.of_append).trans htimed.lastTime_le

/-- A short stretch is one without a flush. An iteration flushes if more than `drain_tsc` cycles
have passed since the one before it, and a packet that is buffered if it fills the burst. -/
lemma short_iff {pre mid : List LoopEvent} (htimed : (poller drain_tsc).Timed began (pre ++ mid)) :
    Short drain_tsc pre mid ↔ (poller drain_tsc).Quiet ((poller drain_tsc).run start pre) mid := by
  unfold Short Poller.Quiet
  refine forall_congr' fun fs => forall_congr' fun e => forall_congr' fun gs => ?_
  apply imp_congr_right
  rintro rfl
  rw [← Poller.run_append]
  have hsplit : pre ++ (fs ++ e :: gs) = ((pre ++ fs) ++ [e]) ++ gs := by simp
  rw [hsplit] at htimed
  have hprefix := htimed.of_append
  cases e with
  | iterate cur_tsc d =>
      have hle : (prevTsc (pre ++ fs)).toNat ≤ cur_tsc.toNat :=
        (prevTsc_le hprefix.of_append).trans hprefix.lastTime_le
      show cur_tsc.toNat - (prevTsc (pre ++ fs)).toNat ≤ drain_tsc.toNat ↔
        flushes drain_tsc ((poller drain_tsc).run start (pre ++ fs)) (.iterate cur_tsc d) = false
      rw [flushes, decide_eq_false_iff_not, prev_tsc_run, gt_iff_lt, BitVec.lt_def,
        BitVec.toNat_sub_of_le (BitVec.le_def.mpr hle), not_lt]
  | buffer now d =>
      show ((poller drain_tsc).run start (pre ++ fs)).length + 1 < BURST_SIZE ↔
        flushes drain_tsc ((poller drain_tsc).run start (pre ++ fs)) (.buffer now d) = false
      rw [flushes, decide_eq_false_iff_not, not_le]

/-- The buffer is not empty when an iteration starts, and the stretch up to it is short: then it is
not longer than `drain_tsc`. -/
def Drainable (drain_tsc : BitVec 64) (began : ℕ) (es : List LoopEvent) : Prop :=
  ∀ pre mid e post, es = pre ++ (mid ++ e :: post) → e.IsIterate →
    0 < ((poller drain_tsc).run start (pre ++ mid)).length → Short drain_tsc pre (mid ++ [e]) →
      e.tsc.toNat ≤ (poller drain_tsc).lastTime began pre + drain_tsc.toNat

/-- **A buffer is drained on time** exactly if no stretch of short iterations, at the end of which
there are packets in it, is longer than `drain_tsc`. -/
theorem onTime_iff (htimed : (poller drain_tsc).Timed began es) :
    (poller drain_tsc).OnTime drain_tsc.toNat began start es ↔ Drainable drain_tsc began es := by
  rw [Poller.onTime_iff htimed]
  refine forall_congr' fun pre => forall_congr' fun mid => forall_congr' fun e =>
    forall_congr' fun post => imp_congr_right ?_
  rintro rfl
  refine imp_congr_right fun _ => imp_congr_right fun _ => ?_
  have hsplit : pre ++ (mid ++ e :: post) = (pre ++ (mid ++ [e])) ++ post := by simp
  rw [hsplit] at htimed
  rw [short_iff htimed.of_append]
  rfl

end Loop

/-! ## The three programs -/

/-- Nanoseconds in a second.
Source: `rte_cycles.h` -/
def NS_PER_S : BitVec 64 := 1000000000

/-- Microseconds in a second.
Source: `rte_cycles.h` -/
def US_PER_S : BitVec 64 := 1000000

/-- About 100 ns, in the unit of the division.
Source: `dpdk/coordinator/main.c`, `dpdk/acceptor/main.c`, `dpdk/learner/main.c` -/
def BURST_TX_DRAIN_NS : BitVec 64 := 100

namespace Coordinator

/-- At least 100 cycles, whatever the frequency.
Source: `dpdk/coordinator/main.c` `lcore_main` -/
def drain_tsc (tsc_hz : BitVec 64) : BitVec 64 :=
  (tsc_hz + NS_PER_S - 1) / NS_PER_S * BURST_TX_DRAIN_NS

/-- The loop with the coordinator's interval.
Source: `dpdk/coordinator/main.c` `lcore_main` -/
def lcore_main (tsc_hz : BitVec 64) : Poller Loop LoopEvent := Loop.poller (drain_tsc tsc_hz)

end Coordinator

namespace Acceptor

/-- The same formula as the coordinator's.
Source: `dpdk/acceptor/main.c` `lcore_main` -/
def drain_tsc (tsc_hz : BitVec 64) : BitVec 64 :=
  (tsc_hz + NS_PER_S - 1) / NS_PER_S * BURST_TX_DRAIN_NS

/-- The loop with the acceptor's interval.
Source: `dpdk/acceptor/main.c` `lcore_main` -/
def lcore_main (tsc_hz : BitVec 64) : Poller Loop LoopEvent := Loop.poller (drain_tsc tsc_hz)

end Acceptor

variable {L : Type*}

/-- The loop of the learner, with its packet buffers. -/
structure LearnerLoop (L : Type*) where
  prev_tsc : BitVec 64
  tx : Transmitter L

/-- An iteration starts, or `dp_learner_send` is called. -/
inductive LearnerEvent
  | iterate (cur_tsc : BitVec 64) (d : Driver)
  | answer (now : BitVec 64) (h : Host) (data : Bytes) (dest : SockaddrIn) (d : Driver)

namespace LearnerLoop

/-- One event.
Source: `dpdk/learner/main.c` `lcore_main` -/
def step (drain_tsc : BitVec 64) (s : LearnerLoop L) : LearnerEvent → LearnerLoop L
  | .iterate cur_tsc d =>
      let diff_tsc := cur_tsc - s.prev_tsc
      { prev_tsc := cur_tsc
        tx := if diff_tsc > drain_tsc then s.tx.step (.drain d) else s.tx }
  | .answer _ h data dest d => { s with tx := s.tx.step (.send h data dest d) }

/-- Without the packet buffers. -/
def toLoop (s : LearnerLoop L) : Loop := ⟨s.prev_tsc, s.tx.length⟩

end LearnerLoop

/-- Without what is answered. -/
def LearnerEvent.toLoopEvent : LearnerEvent → LoopEvent
  | .iterate cur_tsc d => .iterate cur_tsc d
  | .answer now _ _ _ d => .buffer now d

namespace DpLearner

/-- Here the division is by microseconds.
Source: `dpdk/learner/main.c` `lcore_main` -/
def drain_tsc (tsc_hz : BitVec 64) : BitVec 64 :=
  (tsc_hz + US_PER_S - 1) / US_PER_S * BURST_TX_DRAIN_NS

/-- The loop with the learner's interval and its packet buffers.
Source: `dpdk/learner/main.c` `lcore_main` -/
def lcore_main (L : Type*) (tsc_hz : BitVec 64) : Poller (LearnerLoop L) LearnerEvent where
  step := LearnerLoop.step (drain_tsc tsc_hz)
  time e := e.toLoopEvent.tsc.toNat
  polls e := e.toLoopEvent.IsIterate
  attempts s e := Loop.flushes (drain_tsc tsc_hz) s.toLoop e.toLoopEvent
  waiting s := 0 < s.tx.length

/-- The queue of the transmitter is the buffer of the loop. What is delivered and answered besides
does not bear on the time or the length. -/
lemma lcore_main_simulates (tsc_hz : BitVec 64) :
    (lcore_main L tsc_hz).Simulates (Loop.poller (drain_tsc tsc_hz)) LearnerLoop.toLoop
      LearnerEvent.toLoopEvent where
  step s e := by
    cases e with
    | iterate cur_tsc d =>
        simp only [lcore_main, LearnerLoop.step, LearnerLoop.toLoop, LearnerEvent.toLoopEvent,
          Loop.poller, Loop.step]
        split_ifs <;> rfl
    | answer now h data dest d => rfl
  time _ := rfl
  polls _ := Iff.rfl
  attempts _ _ := rfl
  waiting _ := Iff.rfl

/-- **The learner's loop** over whole runs. -/
lemma onTime_iff (tsc_hz : BitVec 64) (tx : Transmitter L) (hempty : tx.length = 0) {began : ℕ}
    {es : List LearnerEvent} (htimed : (lcore_main L tsc_hz).Timed began es) :
    (lcore_main L tsc_hz).OnTime (drain_tsc tsc_hz).toNat began ⟨0, tx⟩ es ↔
      Loop.Drainable (drain_tsc tsc_hz) began (es.map LearnerEvent.toLoopEvent) := by
  have hstart : LearnerLoop.toLoop ⟨0, tx⟩ = Loop.start := by
    rw [LearnerLoop.toLoop, hempty]
    rfl
  have htimed' : (Loop.poller (drain_tsc tsc_hz)).Timed began (es.map LearnerEvent.toLoopEvent) := by
    unfold Poller.Timed
    rw [List.map_map]
    exact htimed
  rw [(lcore_main_simulates tsc_hz).onTime_iff, hstart, Loop.onTime_iff htimed']

end DpLearner

/-- **The three programs drain their buffers on time** exactly if no stretch of short iterations
that ends with packets in the buffer is longer than their `drain_tsc`. -/
theorem drained_on_time_iff (tsc_hz : BitVec 64) (began : ℕ) (learner_id : ℤ) (l : L)
    (tx_mbufs : ℕ → Mbuf) :
    (∀ es, (Coordinator.lcore_main tsc_hz).Timed began es →
      ((Coordinator.lcore_main tsc_hz).OnTime (Coordinator.drain_tsc tsc_hz).toNat began Loop.start es ↔
        Loop.Drainable (Coordinator.drain_tsc tsc_hz) began es)) ∧
    (∀ es, (Acceptor.lcore_main tsc_hz).Timed began es →
      ((Acceptor.lcore_main tsc_hz).OnTime (Acceptor.drain_tsc tsc_hz).toNat began Loop.start es ↔
        Loop.Drainable (Acceptor.drain_tsc tsc_hz) began es)) ∧
    ∀ es, (DpLearner.lcore_main L tsc_hz).Timed began es →
      ((DpLearner.lcore_main L tsc_hz).OnTime (DpLearner.drain_tsc tsc_hz).toNat began
          ⟨0, .start learner_id l tx_mbufs⟩ es ↔
        Loop.Drainable (DpLearner.drain_tsc tsc_hz) began (es.map LearnerEvent.toLoopEvent)) := by
  refine ⟨fun es htimed => ?_, fun es htimed => ?_, fun es htimed => ?_⟩
  · exact Loop.onTime_iff htimed
  · exact Loop.onTime_iff htimed
  · exact DpLearner.onTime_iff tsc_hz _ rfl htimed

/-- What a flush finds around it. -/
def anyDriver : Driver := ⟨0, fun _ => emptyMbuf, fun _ => 0⟩

/-- At 1 GHz `drain_tsc` is 100: iterations 60 cycles apart, the first of which buffers a packet. -/
def shortIterations : List LoopEvent :=
  [.iterate 1000 anyDriver, .buffer 1010 anyDriver, .iterate 1060 anyDriver, .iterate 1120 anyDriver]

/-- The events are in the order of their times. -/
lemma timed_shortIterations (tsc_hz : BitVec 64) :
    (Coordinator.lcore_main tsc_hz).Timed 900 shortIterations := by
  show List.Pairwise (· ≤ ·) [900, 1000, 1010, 1060, 1120]
  decide

/-- The coordinator with these iterations. -/
theorem drained_on_time_short :
    (Coordinator.lcore_main 1000000000).Timed 900 shortIterations ∧
    ((Coordinator.lcore_main 1000000000).OnTime (Coordinator.drain_tsc 1000000000).toNat 900 Loop.start
        shortIterations ↔
      Loop.Drainable (Coordinator.drain_tsc 1000000000) 900 shortIterations) :=
  ⟨timed_shortIterations _,
    (drained_on_time_iff (L := Libpaxos.Learner) 1000000000 900 0 (Libpaxos.started 3)
    fun _ => emptyMbuf).1 shortIterations (timed_shortIterations _)⟩

/-- The packet has waited for more than 100 cycles, and the iteration does not flush. -/
theorem drain_postponed :
    ¬ ∀ (tsc_hz : BitVec 64) (began : ℕ) (es : List LoopEvent),
      (Coordinator.lcore_main tsc_hz).Timed began es →
      (Coordinator.lcore_main tsc_hz).OnTime (Coordinator.drain_tsc tsc_hz).toNat began
        Loop.start es := by
  intro h
  have hontime := h 1000000000 900 shortIterations (timed_shortIterations _)
  have hflush := hontime (shortIterations.take 3) (.iterate 1120 anyDriver) [] rfl trivial
    (show 0 < ((Coordinator.lcore_main 1000000000).run Loop.start (shortIterations.take 3)).length by
      decide +kernel) (by decide +kernel)
  exact absurd hflush (by decide +kernel)

end P4xos.Dpdk
