import P4xos.Dpdk.Learner

/-!
# The transmit buffers of the DPDK learner

`dp_learner_send` of `dpdk/learner/main.c` takes the next of 32 packet buffers for an answer and
hands it to the driver, which collects packets until it has 32 or its queue is drained. What the
driver says that it has sent decides which buffers are allocated again, and that the next answer
takes the first one.

* `Transmitter` is the learner with the driver's queue, and which buffers it has handed over.
* `Flow` counts what goes in and out, without buffers; `Counted` relates the two in every run
  (`counted_run`).
* `Slots` says which buffers are handed over while every answer found one ready. An answer and a
  flush keep it (`Slots.send`, `Slots.flush`, `Slots.step`), and so does a run (`slots_run`).
* `slots_ready_iff`: every answer gets a buffer of its own exactly if no more answers follow a flush
  that sent a part of its packets than the packets of that part.

The device takes as many packets of a flush as it likes, and the others are freed.
-/

namespace P4xos.Dpdk

open P4xos.Lib

variable {L : Type*}

/-! ## The driver's queue -/

/-- The packets in the queue after a flush, and the number that the device has taken of those
offered. The others are freed. The device takes `nb_tx` packets at most. -/
def rte_eth_tx_buffer_flush (length : ℕ) (d : Driver) : ℕ × Driver :=
  (0, { d with nb_tx := min d.nb_tx length })

/-- The packets in the queue after one more, and the number that was sent: the queue is flushed when
it is full. -/
def rte_eth_tx_buffer (length : ℕ) (d : Driver) : ℕ × Driver :=
  if length + 1 < BURST_SIZE then (length + 1, { d with nb_tx := 0 })
  else rte_eth_tx_buffer_flush (length + 1) d

/-- What happens to the learner's packet buffers: an answer is sent, or the main loop drains the
queue. -/
inductive TxEvent
  | send (h : Host) (data : Bytes) (dest : SockaddrIn) (d : Driver)
  | drain (d : Driver)

namespace TxEvent

/-- The event is a call of `dp_learner_send`. -/
def isSend : TxEvent → Bool
  | .send _ _ _ _ => true
  | .drain _ => false

/-- The packets in the queue after the event, and the number that was sent. -/
def driver (length : ℕ) : TxEvent → ℕ × Driver
  | .send _ _ _ d => rte_eth_tx_buffer length d
  | .drain d => rte_eth_tx_buffer_flush length d

/-- The number of packets that the event adds. -/
def added (e : TxEvent) : ℕ := if e.isSend then 1 else 0

/-- What is sent was in the queue. -/
lemma nb_tx_driver_le (length : ℕ) (e : TxEvent) : (e.driver length).2.nb_tx ≤ length + e.added := by
  cases e with
  | send h data dest d =>
      unfold driver rte_eth_tx_buffer rte_eth_tx_buffer_flush
      split_ifs
      · exact Nat.zero_le _
      · exact min_le_right _ _
  | drain d => exact min_le_right _ _

/-- A flush empties the queue. -/
lemma length_driver (length : ℕ) (e : TxEvent) :
    (e.driver length).1 ≤ length + e.added ∧
      ((e.driver length).2.nb_tx ≠ 0 → (e.driver length).1 = 0) := by
  cases e with
  | send h data dest d =>
      unfold driver rte_eth_tx_buffer rte_eth_tx_buffer_flush
      split_ifs with hroom
      · exact ⟨le_rfl, fun hne => absurd rfl hne⟩
      · exact ⟨Nat.zero_le _, fun _ => rfl⟩
  | drain d => exact ⟨Nat.zero_le _, fun _ => rfl⟩

end TxEvent

/-! ## The learner and the queue -/

/-- The learner, the number of packets in the driver's queue, and the slots whose buffer has been
handed to the queue since it was allocated. -/
structure Transmitter (L : Type*) where
  dl : DpLearner L
  length : ℕ
  handed : ℕ → Bool

namespace Transmitter

/-- All buffers have just been allocated.
Source: `dpdk/learner/main.c` `main`, `lcore_main` -/
def start (learner_id : ℤ) (paxos_learner : L) (tx_mbufs : ℕ → Mbuf) : Transmitter L where
  dl := { learner_id := learner_id, nb_pkt_buf := 0, paxos_learner := paxos_learner,
          tx_mbufs := tx_mbufs }
  length := 0
  handed _ := false

/-- The first `nb_tx` slots get buffers that were just allocated. -/
def allocated (handed : ℕ → Bool) (nb_tx : ℕ) : ℕ → Bool := fun i => handed i && decide (nb_tx ≤ i)

/-- One event.
Source: `dpdk/learner/main.c` `dp_learner_send`, `lcore_main` -/
def step (t : Transmitter L) (e : TxEvent) : Transmitter L :=
  let (length, d) := e.driver t.length
  match e with
  | .send h data dest _ =>
      { dl := (t.dl.dp_learner_send h d data dest).1
        length := length
        handed := allocated (Function.update t.handed t.dl.nb_pkt_buf true) d.nb_tx }
  | .drain _ =>
      { dl := if d.nb_tx ≠ 0 then t.dl.reset_tx_mbufs d else t.dl
        length := length
        handed := allocated t.handed d.nb_tx }

/-- A sequence of events. -/
def run (t : Transmitter L) (es : List TxEvent) : Transmitter L := es.foldl step t

/-- The next answer finds a slot, with a buffer that was not handed over since it was allocated. -/
def Ready (t : Transmitter L) : Prop :=
  t.dl.nb_pkt_buf < BURST_SIZE ∧ t.handed t.dl.nb_pkt_buf = false

/-- Two comparisons. -/
instance (t : Transmitter L) : Decidable t.Ready := inferInstanceAs (Decidable (_ ∧ _))

/-- What an event does to the index. -/
lemma nb_pkt_buf_step (t : Transmitter L) (e : TxEvent) :
    (t.step e).dl.nb_pkt_buf =
      if (e.driver t.length).2.nb_tx = 0 then t.dl.nb_pkt_buf + e.added else 0 := by
  cases e with
  | send h data dest d =>
      simp only [step, DpLearner.dp_learner_send, ne_eq, ite_not]
      split_ifs <;> rfl
  | drain d =>
      simp only [step, ne_eq, ite_not]
      split_ifs <;> rfl

end Transmitter

/-! ## Counting -/

/-- The packets in the queue, the answers since the last flush that sent anything, and the number
that the last short flush sent: it sent something, but less than there were answers. -/
structure Flow where
  length : ℕ
  queued : ℕ
  short : ℕ

namespace Flow

/-- No flush was short so far. -/
def start : Flow := ⟨0, 0, BURST_SIZE⟩

/-- One event. -/
def next (f : Flow) (e : TxEvent) : Flow :=
  let queued := f.queued + e.added
  let (length, d) := e.driver f.length
  if d.nb_tx = 0 then { f with length := length, queued := queued }
  else { length := length
         queued := 0
         short := if d.nb_tx < queued then d.nb_tx else f.short }

end Flow

/-- The counts after a sequence of events. -/
def flow (es : List TxEvent) : Flow := es.foldl Flow.next Flow.start

/-- Fewer answers have been sent since the last flush that sent anything than the last short flush
has sent, or than there are slots. -/
def Flow.Roomy (f : Flow) : Prop := f.queued < f.short

/-- A comparison of numbers. -/
instance (f : Flow) : Decidable f.Roomy := inferInstanceAs (Decidable (_ < _))

/-- One event more. -/
lemma flow_concat (es : List TxEvent) (e : TxEvent) : flow (es ++ [e]) = (flow es).next e :=
  List.foldl_concat ..

/-- The same for the learner and the queue. -/
lemma Transmitter.run_concat (t : Transmitter L) (es : List TxEvent) (e : TxEvent) :
    t.run (es ++ [e]) = (t.run es).step e := List.foldl_concat ..

/-- The counts of a transmitter, whatever happened to the slots. -/
structure Counted (t : Transmitter L) (f : Flow) : Prop where
  length : t.length = f.length
  nb_pkt_buf : t.dl.nb_pkt_buf = f.queued
  le : f.length ≤ f.queued

/-- What is counted is counted in an event. The driver's answer decides: without a flush both counts
grow by what the event adds, and after one both are zero. -/
lemma Counted.step {t : Transmitter L} {f : Flow} (h : Counted t f) (e : TxEvent) :
    Counted (t.step e) (f.next e) := by
  obtain ⟨hle, hempty⟩ := e.length_driver f.length
  have hindex := t.nb_pkt_buf_step e
  have hlength : (t.step e).length = (e.driver f.length).1 := by
    rw [← h.length]
    cases e <;> rfl
  rw [h.length, h.nb_pkt_buf] at hindex
  have hle' := h.le
  by_cases hzero : (e.driver f.length).2.nb_tx = 0
  · rw [if_pos hzero] at hindex
    simp only [Flow.next, if_pos hzero]
    exact ⟨hlength, hindex, by dsimp only; omega⟩
  · rw [if_neg hzero] at hindex
    simp only [Flow.next, if_neg hzero]
    exact ⟨hlength, hindex, (hempty hzero).le⟩

/-- And in a run from the start. -/
lemma counted_run (learner_id : ℤ) (l : L) (tx_mbufs : ℕ → Mbuf) (es : List TxEvent) :
    Counted ((Transmitter.start learner_id l tx_mbufs).run es) (flow es) := by
  induction es using List.reverseRecOn with
  | nil => exact ⟨rfl, rfl, le_rfl⟩
  | append_singleton es e ih =>
      rw [Transmitter.run_concat, flow_concat]
      exact ih.step e

/-! ## The slots -/

/-- **The slots while every answer finds one ready**: the first `queued` were handed over, the
others below `short` are ready, and the one at `short` is not. -/
structure Slots (handed : ℕ → Bool) (queued short : ℕ) : Prop where
  le : queued ≤ short
  bound : short ≤ BURST_SIZE
  used : ∀ i < queued, handed i = true
  fresh : ∀ i, queued ≤ i → i < short → handed i = false
  stale : short < BURST_SIZE → handed short = true

/-- The buffer of an answer. The slot at `queued` is ready, and is handed over now. -/
lemma Slots.send {handed : ℕ → Bool} {queued short : ℕ} (h : Slots handed queued short)
    (hroom : queued < short) : Slots (Function.update handed queued true) (queued + 1) short where
  le := hroom
  bound := h.bound
  used i hi := by
    by_cases heq : i = queued
    · rw [heq, Function.update_self]
    · rw [Function.update_of_ne heq]
      exact h.used i (by omega)
  fresh i hle hlt := by
    rw [Function.update_of_ne (by omega)]
    exact h.fresh i (by omega) hlt
  stale hshort := by
    rw [Function.update_of_ne (by omega)]
    exact h.stale hshort

/-- A flush that sends nothing allocates nothing. -/
lemma allocated_zero (handed : ℕ → Bool) : Transmitter.allocated handed 0 = handed := by
  funext i
  simp [Transmitter.allocated]

/-- A flush that sends something. The driver's count of sent packets is where the slots that are
allocated again end; if it is less than what was queued, the slot there is the first stale one. -/
lemma Slots.flush {handed : ℕ → Bool} {queued short nb_tx : ℕ} (h : Slots handed queued short)
    (hle : nb_tx ≤ queued) :
    Slots (Transmitter.allocated handed nb_tx) 0 (if nb_tx < queued then nb_tx else short) := by
  have hallocated : ∀ i < nb_tx, Transmitter.allocated handed nb_tx i = false := by
    intro i hi
    simp [Transmitter.allocated, hi]
  have hkept : ∀ i, nb_tx ≤ i → Transmitter.allocated handed nb_tx i = handed i := by
    intro i hi
    simp [Transmitter.allocated, hi]
  have hqueued := h.le
  have hshort := h.bound
  split_ifs with hpart
  · refine ⟨Nat.zero_le _, by omega, nofun, fun i _ hi => hallocated i hi, fun _ => ?_⟩
    rw [hkept nb_tx le_rfl]
    exact h.used nb_tx hpart
  · -- all the buffers that were handed over are allocated again
    refine ⟨Nat.zero_le _, hshort, nofun, fun i _ hi => ?_, fun hlt => ?_⟩
    · by_cases hi' : i < nb_tx
      · exact hallocated i hi'
      · rw [hkept i (by omega)]
        exact h.fresh i (by omega) hi
    · rw [hkept short (by omega)]
      exact h.stale hlt

section

variable {t : Transmitter L} {f : Flow}

/-- What an answer finds. -/
lemma Slots.ready_iff (hcounted : Counted t f) (h : Slots t.handed f.queued f.short) :
    t.Ready ↔ f.Roomy := by
  rw [Transmitter.Ready, hcounted.nb_pkt_buf, Flow.Roomy]
  constructor
  · rintro ⟨hlt, hfresh⟩
    rcases h.le.lt_or_eq with hroom | heq
    · exact hroom
    · rw [heq, h.stale (heq ▸ hlt)] at hfresh
      cases hfresh
  · intro hroom
    exact ⟨hroom.trans_le h.bound, h.fresh f.queued le_rfl hroom⟩

/-- An event, unless it is an answer that does not find a slot ready. What the event hands over
comes first, the driver's flush after it. -/
lemma Slots.step (hcounted : Counted t f) (h : Slots t.handed f.queued f.short) {e : TxEvent}
    (hroom : e.isSend = true → f.Roomy) :
    Slots (t.step e).handed (f.next e).queued (f.next e).short := by
  have hle := (e.nb_tx_driver_le f.length).trans (Nat.add_le_add_right hcounted.le e.added)
  -- the slots before the driver's answer
  obtain ⟨handed, hslots, hhanded⟩ : ∃ handed, Slots handed (f.queued + e.added) f.short ∧
      (t.step e).handed = Transmitter.allocated handed (e.driver f.length).2.nb_tx := by
    rw [← hcounted.length]
    cases e with
    | send h' data dest d =>
        refine ⟨Function.update t.handed f.queued true, h.send (hroom rfl), ?_⟩
        rw [← hcounted.nb_pkt_buf]
        rfl
    | drain d => exact ⟨t.handed, h, rfl⟩
  rw [hhanded]
  by_cases hzero : (e.driver f.length).2.nb_tx = 0
  · simp only [Flow.next, hzero, allocated_zero]
    exact hslots
  · simp only [Flow.next, if_neg hzero]
    exact hslots.flush hle

end

/-- The slots after a run in which every answer found one ready. -/
lemma slots_run (learner_id : ℤ) (l : L) (tx_mbufs : ℕ → Mbuf) {es : List TxEvent}
    (h : ∀ pre e post, es = pre ++ e :: post → e.isSend = true → (flow pre).Roomy) :
    Slots ((Transmitter.start learner_id l tx_mbufs).run es).handed (flow es).queued
      (flow es).short := by
  induction es using List.reverseRecOn with
  | nil => exact ⟨Nat.zero_le _, le_rfl, nofun, fun _ _ _ => rfl, fun hlt => absurd hlt (lt_irrefl _)⟩
  | append_singleton es e ih =>
      have hslots := ih (forall_split_of_append h)
      rw [Transmitter.run_concat, flow_concat]
      exact hslots.step (counted_run learner_id l tx_mbufs es) (h es e [] rfl)

/-- **Every answer finds a slot ready exactly if there is room for it**: fewer answers have been
sent since the last flush that sent anything than the last short flush has sent, or than there are
slots if none was short. -/
theorem slots_ready_iff (learner_id : ℤ) (l : L) (tx_mbufs : ℕ → Mbuf) (es : List TxEvent) :
    (∀ pre e post, es = pre ++ e :: post → e.isSend = true →
      ((Transmitter.start learner_id l tx_mbufs).run pre).Ready) ↔
    ∀ pre e post, es = pre ++ e :: post → e.isSend = true → (flow pre).Roomy := by
  constructor
  · intro h pre
    -- by the answers before it, which found their slots ready
    induction hn : pre.length using Nat.strong_induction_on generalizing pre with
    | _ n ih =>
        intro e post hes hsend
        have hbefore : ∀ pre' e' post', pre = pre' ++ e' :: post' → e'.isSend = true →
            (flow pre').Roomy := by
          rintro pre' e' post' rfl
          refine ih pre'.length ?_ pre' rfl e' (post' ++ e :: post) (by rw [hes]; simp)
          rw [← hn, List.length_append, List.length_cons]
          omega
        exact ((slots_run learner_id l tx_mbufs hbefore).ready_iff
          (counted_run learner_id l tx_mbufs pre)).mp (h pre e post hes hsend)
  · rintro h pre e post rfl hsend
    exact ((slots_run learner_id l tx_mbufs (forall_split_of_append h)).ready_iff
      (counted_run learner_id l tx_mbufs pre)).mpr (h pre e post rfl hsend)

/-- An answer, when the device would take `n` packets. -/
def answerTaken (n : ℕ) : TxEvent := .send host [] ⟨0, 0⟩ ⟨n, fun _ => emptyMbuf, fun _ => 0⟩

/-- A transmitter that has just started. -/
def started : Transmitter Libpaxos.Learner := .start 0 (Libpaxos.started 3) fun _ => emptyMbuf

/-- When the device takes none of the first 32 packets, the next answer is beyond the last slot. -/
example : (started.run (List.replicate 32 (answerTaken 0))).dl.nb_pkt_buf = 32 := by decide +kernel

/-- Of two answers one is sent; the second of the next two takes the buffer of the other again. -/
theorem slot_taken_again : ¬ ∀ es pre e post, es = pre ++ e :: post → e.isSend = true →
    (started.run pre).Ready := by
  intro h
  have hready := h _
    [answerTaken 0, answerTaken 0, .drain ⟨1, fun _ => emptyMbuf, fun _ => 0⟩, answerTaken 0]
    (answerTaken 0) [] rfl rfl
  exact absurd hready (by decide +kernel)

end P4xos.Dpdk
