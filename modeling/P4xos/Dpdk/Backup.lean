import P4xos.Dpdk.Libpaxos
import P4xos.Lib.Keyed

/-!
# The DPDK backup coordinator

`dpdk/backup/main.c`: a learner that takes over from the primary coordinator when a client's accept
reaches it. It then prepares the instance behind the last one accepted (`start_recovery`), and from
then on one more for every instance accepted; the promises turn into accepts for the values of the
clients. The learner of libpaxos, of which the repository has the compiled archive
`dpdk/lib/libpaxos.a`, is a parameter in the general results; the runs are with `Libpaxos`, which
does what the archive does.

* `rx_promise_effect`, `rx_accept_effect`, `rx_accepted_effect` and `step_effect` say everything one
  packet does to the flag, the counters and the queue (`Effect`).
* `passive_iff`: prepares and accepts are queued on a quorum, whether the primary is alive or not.
  The backup is passive while it is exactly as long as the learner reports no quorum.
* `skipped`: `start_recovery` prepares one instance and counts two, since the index of its loop is
  one too high when the loop ends; with a full buffer it counts one and prepares none.
* `consecutive_or`: so no run with a recovery prepares consecutive instances, unless the counter
  `latest_prepare_iid` has wrapped around before or when it starts (`Wraps`).

Of the learner it is assumed only that `learner_prepare` makes a prepare for the instance it is
given (`LibLearner.Prepares`).
-/

namespace P4xos.Dpdk

open P4xos.Lib

/-- The stack of client values has room for as many.
Source: `dpdk/backup/main.c` `NB_VALUE_BUFFER` -/
def NB_VALUE_BUFFER : ℕ := 1024

/-- The variables of the backup. The client values are a stack, the last one first.
Source: `dpdk/backup/main.c` `struct dp_learner`, `primary_alive` -/
structure Backup (L : Type*) where
  primary_alive : Bool
  nb_pkt_buf : ℕ
  latest_accepted_iid : BitVec 32
  latest_prepare_iid : BitVec 32
  paxos_learner : L
  tx_mbufs : ℕ → Mbuf
  values : List Bytes

namespace Backup

variable {L : Type*}

/-- The primary is taken to be alive.
Source: `dpdk/backup/main.c` `main` -/
def init (paxos_learner : L) (tx_mbufs : ℕ → Mbuf) : Backup L where
  primary_alive := true
  nb_pkt_buf := 0
  latest_accepted_iid := 0
  latest_prepare_iid := 0
  paxos_learner := paxos_learner
  tx_mbufs := tx_mbufs
  values := []

/-- The packets that were sent are replaced.
Source: `dpdk/backup/main.c` `reset_tx_mbufs` -/
def reset_tx_mbufs (dl : Backup L) (d : Driver) : Backup L :=
  { dl with
    tx_mbufs := fun i => if i < d.nb_tx then d.alloc i else dl.tx_mbufs i
    nb_pkt_buf := 0 }

/-- After a call of `rte_eth_tx_buffer`. -/
def tx_buffer (dl : Backup L) (d : Driver) : Backup L :=
  if d.nb_tx ≠ 0 then dl.reset_tx_mbufs d else dl

/-- The loop has one round. Its index is 1 after a `break`, and 2 otherwise.
Source: `dpdk/backup/main.c` `start_recovery` -/
def start_recovery (lib : LibLearner L) (dl : Backup L) (d : Driver) : Backup L × List Tx :=
  if dl.nb_pkt_buf ≥ BURST_SIZE then
    ({ dl with latest_prepare_iid := dl.latest_prepare_iid + 1 }, [])
  else
    let pkt := dl.tx_mbufs dl.nb_pkt_buf
    let dl := { dl with nb_pkt_buf := dl.nb_pkt_buf + 1 }
    let (l, prepare) := lib.learner_prepare dl.paxos_learner (dl.latest_accepted_iid + 1)
    let dl := { dl with paxos_learner := l }
    let tx : Tx := { pm := { type := .PAXOS_PREPARE, accept := prepare }, pkt := pkt,
                     sport := LEARNER_PORT, dport := ACCEPTOR_PORT, dstIP := ACCEPTOR_ADDR }
    let dl := dl.tx_buffer d
    ({ dl with latest_prepare_iid := dl.latest_prepare_iid + 2 }, [tx])

/-- The branch for `PAXOS_PROMISE`. An accept without a value gets a client's, of which the length
and the pointer are copied; what it points to is freed before `add_paxos_message` reads it. -/
def rx_promise (lib : LibLearner L) (dl : Backup L) (d : Driver) (pkt : Mbuf) :
    Backup L × List Tx :=
  let promise := read_promise lib.paxos_value_new pkt.frame
  match lib.learner_receive_promise dl.paxos_learner promise with
  | (l, none) => ({ dl with paxos_learner := l }, [])
  | (l, some accept) =>
      let dl := { dl with paxos_learner := l }
      let (dl, accept) :=
        match accept.value, dl.values with
        | [], v :: values =>
            ({ dl with values := values }, { accept with value := d.freed.read 0 v.length })
        | _, _ => (dl, accept)
      let tx : Tx := { pm := { type := .PAXOS_ACCEPT, accept := accept }, pkt := pkt,
                       sport := bits 16 34 pkt.frame, dport := ACCEPTOR_PORT,
                       dstIP := ACCEPTOR_ADDR }
      (dl.tx_buffer d, [tx])

/-- The branch for `PAXOS_ACCEPT`, a client's value. -/
def rx_accept (lib : LibLearner L) (dl : Backup L) (d : Driver) (pkt : Mbuf) : Backup L × List Tx :=
  let dl :=
    if 0 < (vsize pkt.frame).toInt ∧ dl.values.length < NB_VALUE_BUFFER then
      { dl with values := read_value lib.paxos_value_new pkt.frame :: dl.values }
    else dl
  if dl.primary_alive then
    let (dl, txs) := start_recovery lib dl d
    ({ dl with primary_alive := false }, txs)
  else (dl, [])

/-- The branch for `PAXOS_ACCEPTED`. Both counters catch up with the instance of the message before
the next one is prepared. -/
def rx_accepted (lib : LibLearner L) (dl : Backup L) (d : Driver) (pkt : Mbuf) :
    Backup L × List Tx :=
  let ack := read_accepted lib.paxos_value_new pkt.frame
  match lib.learner_receive_accepted dl.paxos_learner ack with
  | (l, false) => ({ dl with paxos_learner := l }, [])
  | (l, true) =>
      let dl := { dl with paxos_learner := l }
      let dl := if dl.latest_accepted_iid < ack.iid then { dl with latest_accepted_iid := ack.iid }
                else dl
      let dl := if dl.latest_prepare_iid < ack.iid then { dl with latest_prepare_iid := ack.iid }
                else dl
      let (l, prepare) := lib.learner_prepare dl.paxos_learner (dl.latest_prepare_iid + 1)
      let dl := { dl with paxos_learner := l }
      let tx : Tx := { pm := { type := .PAXOS_PREPARE, accept := prepare }, pkt := pkt,
                       sport := LEARNER_PORT, dport := ACCEPTOR_PORT, dstIP := ACCEPTOR_ADDR }
      let dl := dl.tx_buffer d
      ({ dl with latest_prepare_iid := dl.latest_prepare_iid + 1 }, [tx])

/-- What happens to the backup: it receives a packet, or its main loop flushes the queue. -/
inductive Event
  | rx (x : Received) (d : Driver)
  | flush (d : Driver)

/-- The type of the packet that is received and not refused. -/
def Event.msgtype : Event → Option (BitVec 16)
  | .rx x _ => rx_msgtype [LEARNER_PORT, ACCEPTOR_PORT] x.tunnel x.pkt.frame
  | .flush _ => none

/-- The backup after an event, and what is queued for transmission.
Source: `dpdk/backup/main.c` `paxos_rx_process`, `lcore_main` -/
def step (lib : LibLearner L) (dl : Backup L) : Event → Backup L × List Tx
  | .flush d => (dl.tx_buffer d, [])
  | .rx x d =>
      let msgtype := (Event.rx x d).msgtype
      if msgtype = some PaxosMessageType.PAXOS_PROMISE.code then rx_promise lib dl d x.pkt
      else if msgtype = some PaxosMessageType.PAXOS_ACCEPT.code then rx_accept lib dl d x.pkt
      else if msgtype = some PaxosMessageType.PAXOS_ACCEPTED.code then rx_accepted lib dl d x.pkt
      else (dl, [])

/-! ## What one event does -/

/-- Queueing a packet does not change the flag. -/
@[simp] lemma tx_buffer_primary_alive (dl : Backup L) (d : Driver) :
    (dl.tx_buffer d).primary_alive = dl.primary_alive := by
  unfold tx_buffer
  split_ifs <;> rfl

/-- Nor what has been accepted. -/
@[simp] lemma tx_buffer_latest_accepted_iid (dl : Backup L) (d : Driver) :
    (dl.tx_buffer d).latest_accepted_iid = dl.latest_accepted_iid := by
  unfold tx_buffer
  split_ifs <;> rfl

/-- Nor what has been prepared. -/
@[simp] lemma tx_buffer_latest_prepare_iid (dl : Backup L) (d : Driver) :
    (dl.tx_buffer d).latest_prepare_iid = dl.latest_prepare_iid := by
  unfold tx_buffer
  split_ifs <;> rfl

/-- Nor the learner. -/
@[simp] lemma tx_buffer_paxos_learner (dl : Backup L) (d : Driver) :
    (dl.tx_buffer d).paxos_learner = dl.paxos_learner := by
  unfold tx_buffer
  split_ifs <;> rfl

/-- Nor the values. -/
@[simp] lemma tx_buffer_values (dl : Backup L) (d : Driver) :
    (dl.tx_buffer d).values = dl.values := by
  unfold tx_buffer
  split_ifs <;> rfl

/-- A client's accept reaches the backup while the primary is alive. -/
def Starts (dl : Backup L) (e : Event) : Prop :=
  dl.primary_alive = true ∧ e.msgtype = some PaxosMessageType.PAXOS_ACCEPT.code

/-- The learner reports a quorum of promises, or of accepted messages. -/
def Reports (lib : LibLearner L) (dl : Backup L) : Event → Prop
  | .flush _ => False
  | .rx x d =>
      (Event.rx x d).msgtype = some PaxosMessageType.PAXOS_PROMISE.code ∧
        (lib.learner_receive_promise dl.paxos_learner
          (read_promise lib.paxos_value_new x.pkt.frame)).2 ≠ none ∨
      (Event.rx x d).msgtype = some PaxosMessageType.PAXOS_ACCEPTED.code ∧
        (lib.learner_receive_accepted dl.paxos_learner
          (read_accepted lib.paxos_value_new x.pkt.frame)).2 = true

/-- A flag and a message type. -/
instance (dl : Backup L) (e : Event) : Decidable (Starts dl e) := inferInstanceAs (Decidable (_ ∧ _))

/-- The results of two calls of the learner. -/
instance (lib : LibLearner L) (dl : Backup L) : DecidablePred (Reports lib dl)
  | .flush _ => inferInstanceAs (Decidable False)
  | .rx _ _ => inferInstanceAs (Decidable (_ ∧ _ ∨ _ ∧ _))

/-- The number that an accepted message raises `latest_prepare_iid` to, before the next instance is
prepared. -/
def caughtUp (lib : LibLearner L) (dl : Backup L) (x : Received) : BitVec 32 :=
  if dl.latest_prepare_iid < (read_accepted lib.paxos_value_new x.pkt.frame).iid then
    (read_accepted lib.paxos_value_new x.pkt.frame).iid
  else dl.latest_prepare_iid

/-- **Everything one event can do** to the flag, the counters and the queue. -/
inductive Effect (lib : LibLearner L) (dl : Backup L) (e : Event) : Backup L × List Tx → Prop
  /-- Nothing. -/
  | quiet (dl' : Backup L) (hstarts : ¬ Starts dl e) (hreports : ¬ Reports lib dl e)
      (halive : dl'.primary_alive = dl.primary_alive)
      (haccepted : dl'.latest_accepted_iid = dl.latest_accepted_iid)
      (hprepare : dl'.latest_prepare_iid = dl.latest_prepare_iid) : Effect lib dl e (dl', [])
  /-- An accept is queued on a quorum of promises. -/
  | accept (dl' : Backup L) (t : Tx) (hstarts : ¬ Starts dl e) (hreports : Reports lib dl e)
      (halive : dl'.primary_alive = dl.primary_alive)
      (haccepted : dl'.latest_accepted_iid = dl.latest_accepted_iid)
      (hprepare : dl'.latest_prepare_iid = dl.latest_prepare_iid)
      (ht : t.pm.type = .PAXOS_ACCEPT) : Effect lib dl e (dl', [t])
  /-- The next instance is prepared on a quorum of accepted messages. -/
  | prepare (dl' : Backup L) (x : Received) (d : Driver) (he : e = .rx x d) (t : Tx)
      (hx : e.msgtype = some PaxosMessageType.PAXOS_ACCEPTED.code)
      (hstarts : ¬ Starts dl e) (hreports : Reports lib dl e)
      (halive : dl'.primary_alive = dl.primary_alive)
      (haccepted : dl'.latest_accepted_iid = dl.latest_accepted_iid ∨
        dl'.latest_accepted_iid = (read_accepted lib.paxos_value_new x.pkt.frame).iid)
      (hprepare : dl'.latest_prepare_iid = caughtUp lib dl x + 1)
      (ht : t.pm.type = .PAXOS_PREPARE) (hiid : t.pm.accept.iid = caughtUp lib dl x + 1) :
      Effect lib dl e (dl', [t])
  /-- Recovery starts, without room in the buffer. -/
  | full (dl' : Backup L) (hstarts : Starts dl e) (hfull : BURST_SIZE ≤ dl.nb_pkt_buf)
      (halive : dl'.primary_alive = false)
      (hprepare : dl'.latest_prepare_iid = dl.latest_prepare_iid + 1) : Effect lib dl e (dl', [])
  /-- Recovery starts with a prepare for the instance behind the last one accepted. -/
  | start (dl' : Backup L) (t : Tx) (hstarts : Starts dl e) (hroom : ¬ BURST_SIZE ≤ dl.nb_pkt_buf)
      (halive : dl'.primary_alive = false)
      (hprepare : dl'.latest_prepare_iid = dl.latest_prepare_iid + 2)
      (hiid : t.pm.accept.iid = dl.latest_accepted_iid + 1) : Effect lib dl e (dl', [t])

/-- **A promise** does nothing, or has an accept queued. A quorum is the one report that this branch
knows, and it queues an accept with a value from the stack or with its own. -/
lemma rx_promise_effect (lib : LibLearner L) (dl : Backup L) (x : Received) (d : Driver)
    (hx : (Event.rx x d).msgtype = some PaxosMessageType.PAXOS_PROMISE.code) :
    Effect lib dl (.rx x d) (rx_promise lib dl d x.pkt) := by
  have hstarts : ¬ Starts dl (.rx x d) := by
    rintro ⟨-, htype⟩
    cases msgtype_unique hx htype
  unfold rx_promise
  simp only
  rcases hrecv : lib.learner_receive_promise dl.paxos_learner
    (read_promise lib.paxos_value_new x.pkt.frame) with ⟨l, _ | accept⟩
  · refine .quiet _ hstarts ?_ rfl rfl rfl
    rintro (⟨-, hreport⟩ | ⟨htype, -⟩)
    · rw [hrecv] at hreport
      exact hreport rfl
    · cases msgtype_unique hx htype
  · have hreports : Reports lib dl (.rx x d) := .inl ⟨hx, by simp [hrecv]⟩
    simp only
    split
    · exact .accept _ _ hstarts hreports (by simp) (by simp) (by simp) rfl
    · exact .accept _ _ hstarts hreports (by simp) (by simp) (by simp) rfl

/-- What `start_recovery` does to the counters and the queue. -/
lemma start_recovery_cases {lib : LibLearner L} (hlib : lib.Prepares) (dl : Backup L) (d : Driver) :
    (BURST_SIZE ≤ dl.nb_pkt_buf ∧ ∃ dl', start_recovery lib dl d = (dl', []) ∧
      dl'.latest_prepare_iid = dl.latest_prepare_iid + 1) ∨
    ¬ BURST_SIZE ≤ dl.nb_pkt_buf ∧ ∃ dl' t, start_recovery lib dl d = (dl', [t]) ∧
      dl'.latest_prepare_iid = dl.latest_prepare_iid + 2 ∧
      t.pm.accept.iid = dl.latest_accepted_iid + 1 := by
  unfold start_recovery
  by_cases hfull : dl.nb_pkt_buf ≥ BURST_SIZE
  · rw [if_pos hfull]
    exact .inl ⟨hfull, _, rfl, rfl⟩
  · rw [if_neg hfull]
    exact .inr ⟨hfull, _, _, rfl, by simp, hlib _ _⟩

/-- **A client's accept** starts recovery, or does nothing but keep the value. The value is buffered
first, if there is room, which is no concern of the counters. Recovery starts if the primary counts
as alive. -/
lemma rx_accept_effect {lib : LibLearner L} (hlib : lib.Prepares) (dl : Backup L) (x : Received)
    (d : Driver) (hx : (Event.rx x d).msgtype = some PaxosMessageType.PAXOS_ACCEPT.code) :
    Effect lib dl (.rx x d) (rx_accept lib dl d x.pkt) := by
  have hreports : ¬ Reports lib dl (.rx x d) := by
    rintro (⟨htype, -⟩ | ⟨htype, -⟩)
    · cases msgtype_unique hx htype
    · cases msgtype_unique hx htype
  unfold rx_accept
  simp only
  -- the backup with the client's value, or without it when there is no room
  generalize hdl₁ : (if 0 < (vsize x.pkt.frame).toInt ∧ dl.values.length < NB_VALUE_BUFFER then
    { dl with values := read_value lib.paxos_value_new x.pkt.frame :: dl.values } else dl) = dl₁
  have hsame : dl₁.primary_alive = dl.primary_alive ∧
      dl₁.latest_accepted_iid = dl.latest_accepted_iid ∧
      dl₁.latest_prepare_iid = dl.latest_prepare_iid ∧ dl₁.nb_pkt_buf = dl.nb_pkt_buf := by
    rw [← hdl₁]
    split_ifs <;> exact ⟨rfl, rfl, rfl, rfl⟩
  obtain ⟨halive, haccepted, hprepare, hbuf⟩ := hsame
  by_cases hstarts : dl.primary_alive = true
  · rw [if_pos (halive.trans hstarts)]
    rcases start_recovery_cases hlib dl₁ d with
      ⟨hfull, dl', hrec, hnext⟩ | ⟨hroom, dl', t, hrec, hnext, hiid⟩
    · rw [hrec]
      exact .full _ ⟨hstarts, hx⟩ (hbuf ▸ hfull) rfl (hnext.trans (by rw [hprepare]))
    · rw [hrec]
      exact .start _ t ⟨hstarts, hx⟩ (hbuf ▸ hroom) rfl (hnext.trans (by rw [hprepare]))
        (hiid.trans (by rw [haccepted]))
  · rw [if_neg (by rw [halive]; exact hstarts)]
    exact .quiet _ (fun h => hstarts h.1) hreports halive haccepted hprepare

/-- **An accepted message** does nothing, or has the next instance prepared. What
`learner_receive_accepted` returns decides: on a quorum the counter catches up with the packet's
instance, moves one on, and that instance is prepared. -/
lemma rx_accepted_effect {lib : LibLearner L} (hlib : lib.Prepares) (dl : Backup L) (x : Received)
    (d : Driver) (hx : (Event.rx x d).msgtype = some PaxosMessageType.PAXOS_ACCEPTED.code) :
    Effect lib dl (.rx x d) (rx_accepted lib dl d x.pkt) := by
  have hstarts : ¬ Starts dl (.rx x d) := by
    rintro ⟨-, htype⟩
    cases msgtype_unique hx htype
  unfold rx_accepted
  simp only
  rcases hrecv : lib.learner_receive_accepted dl.paxos_learner
    (read_accepted lib.paxos_value_new x.pkt.frame) with ⟨l, _ | _⟩
  · refine .quiet _ hstarts ?_ rfl rfl rfl
    rintro (⟨htype, -⟩ | ⟨-, hreport⟩)
    · cases msgtype_unique hx htype
    · rw [hrecv] at hreport
      cases hreport
  · have hreports : Reports lib dl (.rx x d) := .inr ⟨hx, by simp [hrecv]⟩
    refine .prepare _ x d rfl _ hx hstarts hreports ?_ ?_ ?_ rfl ?_
    · simp only [tx_buffer_primary_alive]
      split_ifs <;> rfl
    · simp only [tx_buffer_latest_accepted_iid]
      split_ifs
      · exact .inr rfl
      · exact .inr rfl
      · exact .inl rfl
      · exact .inl rfl
    · simp only [tx_buffer_latest_prepare_iid, caughtUp]
      split_ifs <;> rfl
    · simp only [hlib _ _, caughtUp]
      split_ifs <;> rfl

/-- The effect of one event. One case per branch of `paxos_rx_process`; a packet of another type and
a flush queue nothing. -/
lemma step_effect {lib : LibLearner L} (hlib : lib.Prepares) (dl : Backup L) (e : Event) :
    Effect lib dl e (step lib dl e) := by
  cases e with
  | flush d =>
      refine .quiet _ ?_ id (by simp) (by simp) (by simp)
      rintro ⟨-, htype⟩
      cases htype
  | rx x d =>
      unfold step
      simp only
      split_ifs with h₁ h₂ h₃
      · exact rx_promise_effect lib dl x d h₁
      · exact rx_accept_effect hlib dl x d h₂
      · exact rx_accepted_effect hlib dl x d h₃
      · refine .quiet _ (fun h => h₂ h.2) ?_ rfl rfl rfl
        rintro (⟨htype, -⟩ | ⟨htype, -⟩)
        · exact h₁ htype
        · exact h₃ htype

/-- What `start_recovery` adds to `latest_prepare_iid`: the index of its loop, after a `break` or
without. -/
def counted (dl : Backup L) : ℕ := if BURST_SIZE ≤ dl.nb_pkt_buf then 1 else 2

/-- What happens when recovery starts: one instance is counted and none prepared, or two counted and
one prepared. -/
lemma effect_of_starts {lib : LibLearner L} (hlib : lib.Prepares) {dl : Backup L} {e : Event}
    (hstarts : Starts dl e) :
    (counted dl = 1 ∧ (step lib dl e).2 = [] ∧
      (step lib dl e).1.latest_prepare_iid = dl.latest_prepare_iid + 1) ∨
    counted dl = 2 ∧ ∃ t, (step lib dl e).2 = [t] ∧
      (step lib dl e).1.latest_prepare_iid = dl.latest_prepare_iid + 2 ∧
      t.pm.accept.iid = dl.latest_accepted_iid + 1 := by
  have heffect := step_effect hlib dl e
  rcases hstep : step lib dl e with ⟨dl', txs⟩
  rw [hstep] at heffect
  cases heffect with
  | quiet _ hs => exact absurd hstarts hs
  | accept _ _ hs => exact absurd hstarts hs
  | prepare _ _ _ _ _ _ hs => exact absurd hstarts hs
  | full _ _ hfull _ hprepare => exact .inl ⟨if_pos hfull, rfl, hprepare⟩
  | start _ t _ hroom _ hprepare hiid => exact .inr ⟨if_neg hroom, t, rfl, hprepare, hiid⟩

/-! ## Runs -/

/-- What was queued in a run, in order. -/
def queued (lib : LibLearner L) (dl : Backup L) (es : List Event) : List Tx :=
  ((trace (step lib) dl es).map Prod.snd).flatten

/-- The last event queues behind what was queued. -/
lemma queued_concat (lib : LibLearner L) (dl : Backup L) (es : List Event) (e : Event) :
    queued lib dl (es ++ [e]) =
      queued lib dl es ++ (step lib (after (step lib) dl es) e).2 := by
  simp [queued, trace_append, trace]

section

variable {lib : LibLearner L} (hlib : lib.Prepares)
include hlib

/-- Once the primary has failed, it stays failed. -/
lemma alive_of_concat {dl : Backup L} {es : List Event} {e : Event}
    (h : (after (step lib) dl (es ++ [e])).primary_alive = true) :
    (after (step lib) dl es).primary_alive = true ∧ ¬ Starts (after (step lib) dl es) e := by
  rw [after_concat] at h
  have heffect := step_effect hlib (after (step lib) dl es) e
  rcases hstep : step lib (after (step lib) dl es) e with ⟨dl', txs⟩
  rw [hstep] at heffect h
  cases heffect with
  | quiet _ hstarts _ halive => exact ⟨halive ▸ h, hstarts⟩
  | accept _ _ hstarts _ halive => exact ⟨halive ▸ h, hstarts⟩
  | prepare _ _ _ _ _ _ hstarts _ halive => exact ⟨halive ▸ h, hstarts⟩
  | full _ _ _ halive => exact absurd h (by simp [halive])
  | start _ _ _ _ halive => exact absurd h (by simp [halive])

/-- It was alive before if it is alive in the end. -/
lemma alive_of_append {dl : Backup L} {pre post : List Event}
    (h : (after (step lib) dl (pre ++ post)).primary_alive = true) :
    (after (step lib) dl pre).primary_alive = true := by
  induction post using List.reverseRecOn with
  | nil => rwa [List.append_nil] at h
  | append_singleton post e ih =>
      rw [← List.append_assoc] at h
      exact ih (alive_of_concat hlib h).1

/-! ## While the primary is alive -/

/-- Nothing is queued while the primary is alive, and no quorum is reported. An induction on the
events from the back: of the five effects only the quiet one is left. -/
lemma queued_of_silent {dl : Backup L} {es : List Event}
    (halive : (after (step lib) dl es).primary_alive = true)
    (hsilent : ∀ pre e post, es = pre ++ e :: post → ¬ Reports lib (after (step lib) dl pre) e) :
    queued lib dl es = [] := by
  induction es using List.reverseRecOn with
  | nil => rfl
  | append_singleton es e ih =>
      obtain ⟨hbefore, hstarts⟩ := alive_of_concat hlib halive
      have hes := ih hbefore (forall_split_of_append hsilent)
      have hreports := hsilent es e [] rfl
      have heffect := step_effect hlib (after (step lib) dl es) e
      rw [queued_concat, hes, List.nil_append]
      rcases hstep : step lib (after (step lib) dl es) e with ⟨dl', txs⟩
      rw [hstep] at heffect
      cases heffect with
      | quiet => rfl
      | accept _ _ _ hr => exact absurd hr hreports
      | prepare _ _ _ _ _ _ _ hr => exact absurd hr hreports
      | full _ hs => exact absurd hs hstarts
      | start _ _ hs => exact absurd hs hstarts

/-- What is queued on a report, and the primary is alive after it if it was before. A client's
accept is no report, so the event does not start recovery. -/
lemma queued_of_reports {dl : Backup L} {e : Event} (halive : dl.primary_alive = true)
    (hreports : Reports lib dl e) :
    (step lib dl e).1.primary_alive = true ∧ ∃ t ∈ (step lib dl e).2,
      t.pm.type = .PAXOS_PREPARE ∨ t.pm.type = .PAXOS_ACCEPT := by
  have hstarts : ¬ Starts dl e := by
    rintro ⟨-, htype⟩
    cases e with
    | flush d => exact hreports
    | rx x d =>
        rcases hreports with ⟨h, -⟩ | ⟨h, -⟩
        · cases msgtype_unique htype h
        · cases msgtype_unique htype h
  have heffect := step_effect hlib dl e
  rcases hstep : step lib dl e with ⟨dl', txs⟩
  rw [hstep] at heffect
  cases heffect with
  | quiet _ _ hr => exact absurd hreports hr
  | accept _ t _ _ ha _ _ ht => exact ⟨ha.trans halive, t, List.mem_singleton_self t, .inr ht⟩
  | prepare _ _ _ _ t _ _ _ ha _ _ ht =>
      exact ⟨ha.trans halive, t, List.mem_singleton_self t, .inl ht⟩
  | full _ hs => exact absurd hs hstarts
  | start _ _ hs => exact absurd hs hstarts

/-- **The backup is passive while the primary is alive** exactly as long as the learner reports no
quorum to it. A reported quorum is answered with a prepare or an accept in the same step, which does
not start recovery. Without one nothing is queued as long as the primary is alive. -/
theorem passive_iff (l : L) (tx_mbufs : ℕ → Mbuf) (es : List Event) :
    (∀ pre post, es = pre ++ post →
      (after (step lib) (init l tx_mbufs) pre).primary_alive = true →
        ∀ t ∈ queued lib (init l tx_mbufs) pre,
          t.pm.type ≠ .PAXOS_PREPARE ∧ t.pm.type ≠ .PAXOS_ACCEPT) ↔
    ∀ pre e post, es = pre ++ e :: post →
      (after (step lib) (init l tx_mbufs) pre).primary_alive = true →
        ¬ Reports lib (after (step lib) (init l tx_mbufs) pre) e := by
  constructor
  · intro hpassive pre e post hes halive hreports
    obtain ⟨halive', t, ht, htype⟩ := queued_of_reports hlib halive hreports
    have hmem : t ∈ queued lib (init l tx_mbufs) (pre ++ [e]) := by
      rw [queued_concat]
      exact List.mem_append_right _ ht
    obtain ⟨hprepare, haccept⟩ := hpassive (pre ++ [e]) post (by rw [hes]; simp)
      (by rw [after_concat]; exact halive') t hmem
    rcases htype with htype | htype
    · exact hprepare htype
    · exact haccept htype
  · intro hsilent pre post hes halive t ht
    have hall : ∀ pre' e post', pre = pre' ++ e :: post' →
        ¬ Reports lib (after (step lib) (init l tx_mbufs) pre') e := by
      intro pre' e post' hpre
      rw [hpre] at halive
      exact hsilent pre' e (post' ++ post) (by rw [hes, hpre]; simp) (alive_of_append hlib halive)
    rw [queued_of_silent hlib halive hall] at ht
    cases ht

end

/-- A driver that has sent nothing. -/
def idle : Driver := ⟨0, fun _ => emptyMbuf, fun _ => 0⟩

/-- A vote of an acceptor for an instance. -/
def vote (iid : BitVec 32) (aid : BitVec 16) : Event :=
  .rx (packet .PAXOS_ACCEPTED iid aid LEARNER_PORT) idle

/-- The backup at the start, with empty buffers. -/
def backup : Backup Libpaxos.Learner := init (Libpaxos.started 3) fun _ => emptyMbuf

/-- A client's value. -/
def clientAccept : Event := .rx (packet .PAXOS_ACCEPT 1 0 ACCEPTOR_PORT) idle

/-- Votes for two instances, each from one acceptor, and then a client's value: the backup is
passive until that, and prepares instances 1 and 8 from then on. -/
theorem passive_until_client :
    Libpaxos.learner₀.Prepares ∧
    (∀ pre post, [vote 7 0, vote 8 1, vote 7 0, clientAccept, vote 7 1] = pre ++ post →
      (after (step Libpaxos.learner₀) (init (Libpaxos.started 3) fun _ => emptyMbuf)
        pre).primary_alive = true →
        ∀ t ∈ queued Libpaxos.learner₀ (init (Libpaxos.started 3) fun _ => emptyMbuf) pre,
          t.pm.type ≠ .PAXOS_PREPARE ∧ t.pm.type ≠ .PAXOS_ACCEPT) ∧
    (queued Libpaxos.learner₀ backup [vote 7 0, vote 8 1, vote 7 0, clientAccept, vote 7 1]).map
      (fun t => (t.pm.type, t.pm.accept.iid)) = [(.PAXOS_PREPARE, 1), (.PAXOS_PREPARE, 8)] := by
  refine ⟨Libpaxos.learner₀_prepares, ?_, by decide +kernel⟩
  apply (passive_iff Libpaxos.learner₀_prepares (Libpaxos.started 3) (fun _ => emptyMbuf)
    [vote 7 0, vote 8 1, vote 7 0, clientAccept, vote 7 1]).mpr
  refine forall_split_cons.mpr ⟨by decide +kernel, ?_⟩
  refine forall_split_cons.mpr ⟨by decide +kernel, ?_⟩
  refine forall_split_cons.mpr ⟨by decide +kernel, ?_⟩
  refine forall_split_cons.mpr ⟨by decide +kernel, ?_⟩
  exact forall_split_cons.mpr ⟨by decide +kernel, forall_split_nil⟩

/-- Two votes for instance 7: the backup prepares instance 8 while the primary is alive. -/
theorem not_passive :
    (after (step Libpaxos.learner₀) backup [vote 7 0, vote 7 1]).primary_alive = true ∧
    ¬ ∀ t ∈ queued Libpaxos.learner₀ backup [vote 7 0, vote 7 1],
      t.pm.type ≠ .PAXOS_PREPARE ∧ t.pm.type ≠ .PAXOS_ACCEPT := by
  refine ⟨by decide +kernel, fun h => ?_⟩
  have hqueued : (queued Libpaxos.learner₀ backup [vote 7 0, vote 7 1]).map (fun t => t.pm.type) =
      [.PAXOS_PREPARE] := by decide +kernel
  have hmem : PaxosMessageType.PAXOS_PREPARE ∈
      (queued Libpaxos.learner₀ backup [vote 7 0, vote 7 1]).map (fun t => t.pm.type) := by
    rw [hqueued]
    exact List.mem_singleton_self _
  obtain ⟨t, ht, htype⟩ := List.mem_map.mp hmem
  exact (h t ht).1 htype

/-! ## The instances prepared -/

/-- A prepare for the instance has been queued. -/
def Prepared (q : List Tx) (i : BitVec 32) : Prop :=
  ∃ t ∈ q, t.pm.type = .PAXOS_PREPARE ∧ t.pm.accept.iid = i

/-- From the moment recovery starts, the instances behind the last one accepted then, up to
`latest_prepare_iid`, have been prepared. -/
def Consecutive (lib : LibLearner L) (dl : Backup L) (es : List Event) : Prop :=
  ∀ pre e mid post, es = pre ++ e :: (mid ++ post) → Starts (after (step lib) dl pre) e →
    ∀ i, (after (step lib) dl pre).latest_accepted_iid < i →
      i ≤ (after (step lib) dl (pre ++ e :: mid)).latest_prepare_iid →
      Prepared (queued lib dl (pre ++ e :: mid)) i

/-- `latest_prepare_iid` is moved past its last value: by an accepted message that completes a
quorum, or by the start of recovery. -/
def Wraps (lib : LibLearner L) (dl : Backup L) : Event → Prop
  | .flush _ => False
  | .rx x d =>
      (Event.rx x d).msgtype = some PaxosMessageType.PAXOS_ACCEPTED.code ∧
        Reports lib dl (.rx x d) ∧ 2 ^ 32 ≤ (caughtUp lib dl x).toNat + 1 ∨
      Starts dl (.rx x d) ∧ 2 ^ 32 ≤ dl.latest_prepare_iid.toNat + counted dl

/-- A message type, a report and a number. -/
instance (lib : LibLearner L) (dl : Backup L) : DecidablePred (Wraps lib dl)
  | .flush _ => inferInstanceAs (Decidable False)
  | .rx _ _ => inferInstanceAs (Decidable (_ ∧ _ ∧ _ ∨ _ ∧ _))

/-- No instance above `latest_prepare_iid` has been accepted or prepared. -/
structure Bounded (dl : Backup L) (q : List Tx) : Prop where
  accepted : dl.latest_accepted_iid ≤ dl.latest_prepare_iid
  prepared : ∀ i, Prepared q i → i ≤ dl.latest_prepare_iid

/-- A prepare is in one of two queues. -/
lemma prepared_append {q r : List Tx} {i : BitVec 32} (h : Prepared (q ++ r) i) :
    Prepared q i ∨ Prepared r i := by
  obtain ⟨t, ht, htype, hiid⟩ := h
  rcases List.mem_append.mp ht with ht | ht
  · exact .inl ⟨t, ht, htype, hiid⟩
  · exact .inr ⟨t, ht, htype, hiid⟩

/-- What was caught up with is not below the counter, nor below the packet's instance. -/
lemma le_caughtUp (lib : LibLearner L) (dl : Backup L) (x : Received) :
    dl.latest_prepare_iid ≤ caughtUp lib dl x ∧
      (read_accepted lib.paxos_value_new x.pkt.frame).iid ≤ caughtUp lib dl x := by
  unfold caughtUp
  split_ifs with hlt
  · exact ⟨BitVec.le_of_lt hlt, BitVec.le_refl _⟩
  · exact ⟨BitVec.le_refl _, BitVec.not_lt.mp hlt⟩

/-- The next instance is above, unless the counter wraps around. The condition is that of `Wraps`
for a packet that is reported. -/
lemma le_succ_caughtUp {lib : LibLearner L} {dl : Backup L} {x : Received} {d : Driver}
    (hx : (Event.rx x d).msgtype = some PaxosMessageType.PAXOS_ACCEPTED.code)
    (hreports : Reports lib dl (.rx x d)) (hwraps : ¬ Wraps lib dl (.rx x d)) {y : BitVec 32}
    (hy : y ≤ caughtUp lib dl x) :
    y ≤ caughtUp lib dl x + 1 := by
  have hnowrap : (caughtUp lib dl x).toNat + 1 < 2 ^ 32 := by
    by_contra hge
    exact hwraps (.inl ⟨hx, hreports, not_lt.mp hge⟩)
  have hnext : (caughtUp lib dl x + 1).toNat = (caughtUp lib dl x).toNat + 1 :=
    toNat_add_ofNat hnowrap
  rw [BitVec.le_def] at hy ⊢
  omega

section

variable {lib : LibLearner L} (hlib : lib.Prepares)
include hlib

/-- One event before recovery. A report moves the counter up to the packet's instance and one on,
without a wrap, and so not below anything prepared. -/
lemma Bounded.step {dl : Backup L} {q : List Tx} (h : Bounded dl q) {e : Event}
    (hstarts : ¬ Starts dl e) (hwraps : ¬ Wraps lib dl e) :
    Bounded (step lib dl e).1 (q ++ (step lib dl e).2) := by
  have heffect := step_effect hlib dl e
  rcases hstep : Backup.step lib dl e with ⟨dl', txs⟩
  rw [hstep] at heffect
  cases heffect with
  | quiet _ _ _ _ haccepted hprepare =>
      rw [List.append_nil]
      exact ⟨by rw [haccepted, hprepare]; exact h.accepted, by rw [hprepare]; exact h.prepared⟩
  | accept _ t _ _ _ haccepted hprepare ht =>
      refine ⟨by rw [haccepted, hprepare]; exact h.accepted, fun i hi => ?_⟩
      rw [hprepare]
      rcases prepared_append hi with hi | ⟨t', ht', htype, -⟩
      · exact h.prepared i hi
      · rw [List.mem_singleton.mp ht', ht] at htype
        cases htype
  | prepare _ x d he t hx _ hreports _ haccepted hprepare _ hiid =>
      subst he
      obtain ⟨hcounter, hpacket⟩ := le_caughtUp lib dl x
      have hup : ∀ y : BitVec 32, y ≤ caughtUp lib dl x → y ≤ caughtUp lib dl x + 1 :=
        fun y => le_succ_caughtUp hx hreports hwraps
      refine ⟨?_, fun i hi => ?_⟩
      · rw [hprepare]
        rcases haccepted with hsame | hnew
        · rw [hsame]
          exact hup _ (BitVec.le_trans h.accepted hcounter)
        · rw [hnew]
          exact hup _ hpacket
      · rw [hprepare]
        rcases prepared_append hi with hi | ⟨t', ht', -, hi⟩
        · exact hup _ (BitVec.le_trans (h.prepared i hi) hcounter)
        · rw [List.mem_singleton.mp ht', hiid] at hi
          rw [← hi]
          exact BitVec.le_refl _
  | full _ hs => exact absurd hs hstarts
  | start _ _ hs => exact absurd hs hstarts

/-- The counters before recovery. `Bounded.step` is the step; it needs that recovery does not start
with the event, which holds because the primary is alive in the end. -/
lemma bounded_after {l : L} {tx_mbufs : ℕ → Mbuf} {es : List Event}
    (halive : (after (Backup.step lib) (init l tx_mbufs) es).primary_alive = true)
    (hwraps : ∀ pre e post, es = pre ++ e :: post →
      (after (Backup.step lib) (init l tx_mbufs) pre).primary_alive = true →
        ¬ Wraps lib (after (Backup.step lib) (init l tx_mbufs) pre) e) :
    Bounded (after (Backup.step lib) (init l tx_mbufs) es) (queued lib (init l tx_mbufs) es) := by
  refine after_invariant (I := fun es dl => Bounded dl (queued lib (init l tx_mbufs) es)) ?_ ?_
  · refine ⟨BitVec.le_refl _, fun i hi => ?_⟩
    obtain ⟨t, ht, -⟩ := hi
    cases ht
  · intro pre e post hes hpre
    rw [hes, List.append_cons] at halive
    obtain ⟨hbefore, hstarts⟩ := alive_of_concat hlib (alive_of_append hlib halive)
    rw [queued_concat]
    exact hpre.step hlib hstarts (hwraps pre e post hes hbefore)

/-- **The instance skipped**: recovery counts up to one that has not been prepared. The counter
moves two on with one prepare, for the instance behind the accepted one, or one on with none. So the
instance it shows is above everything prepared before, and is not the one prepared now. -/
lemma skipped {dl : Backup L} {q : List Tx} (h : Bounded dl q) {e : Event} (hstarts : Starts dl e)
    (hwraps : ¬ Wraps lib dl e) :
    dl.latest_accepted_iid < (Backup.step lib dl e).1.latest_prepare_iid ∧
      ¬ Prepared (q ++ (Backup.step lib dl e).2) (Backup.step lib dl e).1.latest_prepare_iid := by
  have hroom : dl.latest_prepare_iid.toNat + counted dl < 2 ^ 32 := by
    cases e with
    | flush d => cases hstarts.2
    | rx x d =>
        by_contra hge
        exact hwraps (.inr ⟨hstarts, not_lt.mp hge⟩)
  have haccepted := BitVec.le_def.mp h.accepted
  rcases effect_of_starts hlib hstarts with
    ⟨hone, hqueue, hprepare⟩ | ⟨htwo, t, hqueue, hprepare, hiid⟩
  · have hnext : (Backup.step lib dl e).1.latest_prepare_iid.toNat =
        dl.latest_prepare_iid.toNat + 1 := by
      rw [hprepare]
      exact toNat_add_ofNat (k := 1) (by omega)
    refine ⟨BitVec.lt_def.mpr (by omega), fun hp => ?_⟩
    rw [hqueue, List.append_nil] at hp
    have hle := BitVec.le_def.mp (h.prepared _ hp)
    omega
  · have hnext : (Backup.step lib dl e).1.latest_prepare_iid.toNat =
        dl.latest_prepare_iid.toNat + 2 := by
      rw [hprepare]
      rw [htwo] at hroom
      exact toNat_add_ofNat hroom
    have hprepared : (dl.latest_accepted_iid + 1).toNat = dl.latest_accepted_iid.toNat + 1 :=
      toNat_add_ofNat (k := 1) (by omega)
    refine ⟨BitVec.lt_def.mpr (by omega), fun hp => ?_⟩
    rw [hqueue] at hp
    rcases prepared_append hp with hp | ⟨t', ht', -, hp⟩
    · have hle := BitVec.le_def.mp (h.prepared _ hp)
      omega
    · have hsame := congrArg BitVec.toNat hp
      rw [List.mem_singleton.mp ht', hiid] at hsame
      omega

/-- **No run with a recovery prepares consecutive instances**, unless the counter has wrapped around
while the primary was alive, or does when recovery starts. What happens after that makes no
difference. -/
theorem consecutive_or (l : L) (tx_mbufs : ℕ → Mbuf) (es : List Event) :
    ((∀ pre e post, es = pre ++ e :: post →
        ¬ Starts (after (Backup.step lib) (init l tx_mbufs) pre) e) →
      Consecutive lib (init l tx_mbufs) es) ∧
    (Consecutive lib (init l tx_mbufs) es →
      (∀ pre e post, es = pre ++ e :: post →
        ¬ Starts (after (Backup.step lib) (init l tx_mbufs) pre) e) ∨
      ∃ pre e post, es = pre ++ e :: post ∧
        (after (Backup.step lib) (init l tx_mbufs) pre).primary_alive = true ∧
        Wraps lib (after (Backup.step lib) (init l tx_mbufs) pre) e) := by
  constructor
  · intro hnever pre e mid post hes hstarts
    exact absurd hstarts (hnever pre e (mid ++ post) hes)
  · intro hconsecutive
    by_contra hc
    push Not at hc
    obtain ⟨⟨pre, e, post, hes, hstarts⟩, hwraps⟩ := hc
    have hbounded := bounded_after hlib hstarts.1 fun pre' e' post' hpre =>
      hwraps pre' e' (post' ++ e :: post) (by rw [hes, hpre]; simp)
    obtain ⟨hlt, hnot⟩ := skipped hlib hbounded hstarts (hwraps pre e post hes hstarts.1)
    have hprepared := hconsecutive pre e [] post hes hstarts _ hlt (by
      rw [after_concat]
      exact BitVec.le_refl _)
    rw [queued_concat] at hprepared
    exact hnot hprepared

end

/-- The client's value starts recovery. -/
lemma starts_backup : Starts backup clientAccept := ⟨rfl, by decide +kernel⟩

/-- A quorum for instance 7, and then a recovery: instance 9 is counted and not prepared. None of
the four events makes the counter wrap, and the third one starts recovery. -/
theorem consecutive_or_quorum :
    Libpaxos.learner₀.Prepares ∧
    ¬ Consecutive Libpaxos.learner₀ (init (Libpaxos.started 3) fun _ => emptyMbuf)
      [vote 7 0, vote 7 1, clientAccept, vote 8 0] := by
  refine ⟨Libpaxos.learner₀_prepares, fun hconsecutive => ?_⟩
  rcases (consecutive_or Libpaxos.learner₀_prepares (Libpaxos.started 3) (fun _ => emptyMbuf)
    [vote 7 0, vote 7 1, clientAccept, vote 8 0]).2 hconsecutive with
    hnever | ⟨pre, e, post, hes, halive, hwraps⟩
  · exact hnever [vote 7 0, vote 7 1] clientAccept [vote 8 0] rfl (by decide +kernel)
  · revert halive hwraps
    revert pre e post
    refine forall_split_cons.mpr ⟨by decide +kernel, ?_⟩
    refine forall_split_cons.mpr ⟨by decide +kernel, ?_⟩
    refine forall_split_cons.mpr ⟨by decide +kernel, ?_⟩
    exact forall_split_cons.mpr ⟨by decide +kernel, forall_split_nil⟩

/-- The first event is a client's value: instance 1 is prepared, instance 2 is counted too. -/
theorem not_consecutive : ¬ Consecutive Libpaxos.learner₀ backup [clientAccept] := by
  intro h
  have hprepared := h [] clientAccept [] [] rfl starts_backup 2 (by decide) (by decide +kernel)
  obtain ⟨t, ht, -, hiid⟩ := hprepared
  have hqueued : (queued Libpaxos.learner₀ backup [clientAccept]).map (fun t => t.pm.accept.iid) =
      [1] := by decide +kernel
  have hmem : (2 : BitVec 32) ∈
      (queued Libpaxos.learner₀ backup [clientAccept]).map (fun t => t.pm.accept.iid) :=
    List.mem_map.mpr ⟨t, ht, hiid⟩
  rw [hqueued] at hmem
  revert hmem
  decide

end Backup

end P4xos.Dpdk
