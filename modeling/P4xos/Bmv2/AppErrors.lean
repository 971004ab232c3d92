import P4xos.Bmv2.Runs

/-!
# What an error of the application does to the log

`deliverInstance` takes every `KeyError` for a missing log entry, also one that the handler raises,
and moves `minUncommitedIndex` on only after the handler has returned. So a command on which
`SimpleDatabase.execute` raises stays the next one to deliver: it is executed again on every later
decision, and nothing behind it is delivered (`called_again`).

* `Settled` says what in-order delivery leaves: the handler was called once on each instance up to
  the next one to deliver, which is not decided.
* `Orderly`: no command whose turn has come fails. A packet then keeps `Settled`
  (`Settled.handle_pkt`): it decides nothing, or an instance that was passed
  (`Settled.decided_before`), or one so far ahead that the call raises (`Settled.decided_far`), or
  one that lets the log move on (`Settled.decided_from`).
* `settled_handleAll` is the run, up to the packet whose call raises, if one does.
* `applied_once`: in every run without such a command, whatever packets come, every instance is
  executed at most once, and as soon as all instances up to it are decided.
* `called_twice`: a put without a key is called twice, and the get behind it never.
-/

namespace P4xos.Bmv2

open P4xos.Lib PaxosLearner

namespace Learner

variable {σ Cmd : Type*} {app : Application σ Cmd}

/-- No command whose turn has come, with all instances before it decided, fails. -/
def Orderly (app : Application σ Cmd) (L : Learner σ) : Prop :=
  ∀ i v, 1 ≤ i → (∀ j, 1 ≤ j → j < i → (L.learner.logs j).isSome) →
    L.learner.logs i = some v → Accepts app v

/-- **In-order delivery**: the handler was called on the instances from 1 up to the next one to
deliver, which are decided, and that one is not. -/
structure Settled (L : Learner σ) (outs : List (Out Cmd)) : Prop where
  min_pos : 1 ≤ L.minUncommitedIndex
  logged : ∀ j, 1 ≤ j → j < L.minUncommitedIndex → (L.learner.logs j).isSome
  gap : L.learner.logs L.minUncommitedIndex = none
  order : (deliveries outs).map Prod.fst = List.range' 1 (L.minUncommitedIndex - 1)

/-- A new replica has called nothing. -/
lemma settled_new (n : ℕ) (addr : String) (port : ℕ) (a : σ) :
    Settled (new n addr port a) ([] : List (Out Cmd)) where
  min_pos := le_rfl
  logged _ hj hlt := absurd hlt (Nat.not_lt.mpr hj)
  gap := rfl
  order := rfl

/-- The log, the next instance and the calls of the handler are all it is about. -/
lemma Settled.congr {L L' : Learner σ} {outs outs' : List (Out Cmd)} (h : Settled L outs)
    (hlogs : L'.learner.logs = L.learner.logs)
    (hmin : L'.minUncommitedIndex = L.minUncommitedIndex) (houts : deliveries outs' = []) :
    Settled L' (outs ++ outs') := by
  refine ⟨?_, ?_, ?_, ?_⟩
  · rw [hmin]
    exact h.min_pos
  · rw [hmin, hlogs]
    exact h.logged
  · rw [hmin, hlogs]
    exact h.gap
  · rw [hmin, deliveries_append, houts, List.append_nil]
    exact h.order

/-- An instance that is decided is executed when its turn has come. -/
lemma Settled.mem_deliveries {L : Learner σ} {outs : List (Out Cmd)} (h : Settled L outs) {i : ℕ}
    (hi : 1 ≤ i) (hlogged : ∀ j, 1 ≤ j → j ≤ i → (L.learner.logs j).isSome) :
    i ∈ (deliveries outs).map Prod.fst := by
  have hlt : i < L.minUncommitedIndex := by
    by_contra hge
    have hsome := hlogged L.minUncommitedIndex h.min_pos (Nat.le_of_not_lt hge)
    rw [h.gap] at hsome
    cases hsome
  rw [h.order, List.mem_range'_1]
  omega

/-- An orderly log was orderly with less in it. -/
lemma Orderly.of_logs {L L' : Learner σ} (h : Orderly app L')
    (hkeep : ∀ i v, L.learner.logs i = some v → L'.learner.logs i = some v) : Orderly app L := by
  intro i v hi hlogged hv
  refine h i v hi (fun j hj hlt => ?_) (hkeep i v hv)
  obtain ⟨w, hw⟩ := Option.isSome_iff_exists.mp (hlogged j hj hlt)
  exact Option.isSome_iff_exists.mpr ⟨w, hkeep j w hw⟩

/-- What a vote decides is new. -/
lemma logs_keep {L : Learner σ} (h : Sound L) {learner : PaxosLearner Bytes}
    {msg : PaxosMessage Bytes} {i : ℕ} {w : Bytes}
    (hcall : L.learner.handle_p2b msg = .ok (learner, some (i, w))) (j : ℕ) (u : Bytes)
    (hu : L.learner.logs j = some u) : learner.logs j = some u := by
  rw [(handle_p2b_decides hcall).2.1]
  by_cases hj : j = i
  · subst hj
    rw [logs_eq_none_of_decides h.votes hcall] at hu
    cases hu
  · rw [Function.update_of_ne hj]
    exact hu

/-- A decision of another instance than the next one to deliver, on which the handler is not called.
-/
lemma Settled.logs_update {L L' : Learner σ} {outs outs' : List (Out Cmd)} (h : Settled L outs)
    {inst : ℕ} {w : Bytes} (hne : inst ≠ L.minUncommitedIndex)
    (hlogs : L'.learner.logs = Function.update L.learner.logs inst (some w))
    (hmin : L'.minUncommitedIndex = L.minUncommitedIndex) (houts : deliveries outs' = []) :
    Settled L' (outs ++ outs') := by
  refine ⟨hmin ▸ h.min_pos, fun j hj hlt => ?_, ?_, ?_⟩
  · rw [hlogs]
    by_cases hji : j = inst
    · simp [hji]
    · rw [Function.update_of_ne hji]
      exact h.logged j hj (hmin ▸ hlt)
  · rw [hlogs, hmin, Function.update_of_ne (Ne.symm hne)]
    exact h.gap
  · rw [hmin, deliveries_append, houts, List.append_nil]
    exact h.order

/-- A decision before the next instance to deliver changes nothing there. `deliverInstance` returns
`None` for it, and the only instance whose log has changed is behind the next one to deliver. -/
lemma Settled.decided_before {L : Learner σ} {outs : List (Out Cmd)} (h : Settled L outs)
    {learner : PaxosLearner Bytes} {v : Vote2b} {w : Bytes}
    (hcall : L.learner.handle_p2b v.message = .ok (learner, some (v.fields.inst, w)))
    (hlt : v.fields.inst < L.minUncommitedIndex) :
    Settled (deliverDecision app { L with learner := learner } v.fields.inst v.fields.req_id v.src
        v.udp).1
      (outs ++ (deliverDecision app { L with learner := learner } v.fields.inst v.fields.req_id
        v.src v.udp).2.1) := by
  have hr := deliverDecision_replays app { L with learner := learner } v.fields.inst
    v.fields.req_id v.src v.udp
  obtain ⟨L', he⟩ := deliverDecision_of_lt app (L := { L with learner := learner }) hlt
    v.fields.req_id v.src v.udp
  rw [he] at hr ⊢
  refine h.logs_update (w := w) hlt.ne ?_ ?_ rfl
  · rw [hr.learner]
    exact (handle_p2b_decides hcall).2.1
  · show L'.minUncommitedIndex = L.minUncommitedIndex
    have hle : L.minUncommitedIndex ≤ L'.minUncommitedIndex := hr.le
    have hlen := congrArg List.length hr.passed
    simp only [deliveries_nil, executed, List.map_nil, List.length_nil, List.length_range'] at hlen
    omega

/-- A decision that comes too far ahead changes nothing at the next instance to deliver. -/
lemma Settled.decided_far {L : Learner σ} {outs : List (Out Cmd)} (h : Settled L outs)
    {learner : PaxosLearner Bytes} {v : Vote2b} {w : Bytes}
    (hcall : L.learner.handle_p2b v.message = .ok (learner, some (v.fields.inst, w)))
    (hfar : L.minUncommitedIndex + app.depth < v.fields.inst) :
    Settled (deliverDecision app { L with learner := learner } v.fields.inst v.fields.req_id v.src
        v.udp).1
      (outs ++ (deliverDecision app { L with learner := learner } v.fields.inst v.fields.req_id
        v.src v.udp).2.1) := by
  rw [deliverDecision_too_far app (L := { L with learner := learner }) hfar]
  exact h.logs_update (by omega) (handle_p2b_decides hcall).2.1 rfl rfl

/-- **A packet whose call returns leaves room**, whatever it is: a decision that comes too far ahead
makes the call raise. The highest instance seen rises only to that of the decision, and a call that
has returned was for one near the next instance to deliver. -/
lemma Roomy.handle_pkt {L : Learner σ} (h : Roomy app L) (pkt : Pkt)
    (hok : (handle_pkt app L pkt).2.2 = .ok ()) : Roomy app (handle_pkt app L pkt).1 := by
  cases hv : read2b pkt with
  | none =>
      have hu := handle_pkt_of_not_read2b app L hv
      unfold Roomy
      rw [hu.maxInstance, hu.minUncommitedIndex]
      exact h
  | some v =>
      rw [handle_pkt_of_read2b app L hv] at hok ⊢
      rcases handle_2b_cases app L v with
        ⟨-, he⟩ | ⟨-, -, learner, -, he⟩ | ⟨-, -, learner, -, he⟩ <;> rw [he] at hok ⊢
      · exact h
      · exact h
      · have hr := deliverDecision_replays app { L with learner := learner } v.fields.inst
          v.fields.req_id v.src v.udp
        have hle : L.minUncommitedIndex ≤ (deliverDecision app { L with learner := learner }
          v.fields.inst v.fields.req_id v.src v.udp).1.minUncommitedIndex := hr.le
        have hnear : v.fields.inst ≤ L.minUncommitedIndex + app.depth := by
          by_contra hfar
          rw [deliverDecision_too_far app (L := { L with learner := learner })
            (Nat.lt_of_not_le hfar)] at hok
          cases hok
        unfold Roomy at h ⊢
        rw [hr.maxInstance]
        exact (max_le h hnear).trans (Nat.add_le_add_right hle _)

/-- A decision from the next instance on: everything up to the next gap is delivered. The recursion
upwards stops at the first instance not logged. What it has delivered is a range from the old next
instance, which continues the range delivered before. -/
lemma Settled.decided_from {L : Learner σ} {outs : List (Out Cmd)} (h : Settled L outs)
    (hs : Sound L) (hroom : Roomy app L) {learner : PaxosLearner Bytes} {v : Vote2b} {w : Bytes}
    (hinst : v.fields.inst < 65536)
    (hcall : L.learner.handle_p2b v.message = .ok (learner, some (v.fields.inst, w)))
    (hle : L.minUncommitedIndex ≤ v.fields.inst)
    (hnear : v.fields.inst ≤ L.minUncommitedIndex + app.depth)
    (hok : Orderly app { L with learner := learner }) :
    Settled (deliverDecision app { L with learner := learner } v.fields.inst v.fields.req_id v.src
        v.udp).1
      (outs ++ (deliverDecision app { L with learner := learner } v.fields.inst v.fields.req_id
        v.src v.udp).2.1) := by
  have hkeep := logs_keep hs hcall
  have hbefore : ∀ j, 1 ≤ j → j < L.minUncommitedIndex → (learner.logs j).isSome := by
    intro j hj hlt
    obtain ⟨u, hu⟩ := Option.isSome_iff_exists.mp (h.logged j hj hlt)
    exact Option.isSome_iff_exists.mpr ⟨u, hkeep j u hu⟩
  let K : Learner σ := { L with learner := learner, maxInstance := max L.maxInstance v.fields.inst }
  have hnext : AcceptsNext app K := by
    intro j u hj hlogged hu
    refine hok j u (h.min_pos.trans hj) (fun k hk hkj => ?_) hu
    rcases lt_or_ge k L.minUncommitedIndex with hlt | hge
    · exact hbefore k hk hlt
    · exact hlogged k hge hkj
  obtain ⟨n, a, outs₁, d, he, hup⟩ := deliverInstance_decided (K := K) hnext hle (le_max_right _ _)
    (max_lt hs.max_bound hinst) (max_le hroom hnear) fun hturn => by
      rw [show K.learner.logs = _ from (handle_p2b_decides hcall).2.1,
        Function.update_of_ne (Ne.symm hturn)]
      exact h.gap
  obtain ⟨outs₂, hcalled, hreply⟩ := deliverDecision_of_returns
    (L := { L with learner := learner }) he v.fields.req_id v.src v.udp
  rw [hcalled]
  have hmin : L.minUncommitedIndex ≤ n := hup.le
  refine ⟨h.min_pos.trans hmin, fun j hj hjn => ?_, ?_, ?_⟩
  · rcases lt_or_ge j L.minUncommitedIndex with hlt | hge
    · exact hbefore j hj hlt
    · exact hup.logged j hge hjn
  · by_cases hn : n ≤ K.maxInstance
    · exact (hup.gap hn).1
    · have hbound := (hs.decided hinst hcall (Replays.refl K : Replays app K K [])).bound n
      cases hlog : learner.logs n with
      | none => rfl
      | some u => exact absurd (hbound u hlog) hn
  · rw [deliveries_append, deliveries_append, deliveries_eq_nil hreply, List.append_nil,
      List.map_append, h.order, hup.order]
    exact range'_append_range' h.min_pos hmin

/-- **One packet** keeps in-order delivery, if no command whose turn has come then fails. Only a
vote that completes a quorum calls `deliverInstance`, and its instance is below the next one, near
it, or too far ahead for the stack. -/
lemma Settled.handle_pkt {L : Learner σ} {outs : List (Out Cmd)} (h : Settled L outs)
    (hs : Sound L) (hroom : Roomy app L) (pkt : Pkt) (hok : Orderly app (handle_pkt app L pkt).1) :
    Settled (handle_pkt app L pkt).1 (outs ++ (handle_pkt app L pkt).2.1) := by
  cases hv : read2b pkt with
  | none =>
      have hu := handle_pkt_of_not_read2b app L hv
      exact h.congr hu.logs hu.minUncommitedIndex hu.outs
  | some v =>
      rw [handle_pkt_of_read2b app L hv] at hok ⊢
      rcases handle_2b_cases app L v with
        ⟨-, he⟩ | ⟨-, -, learner, hcall, he⟩ | ⟨-, -, learner, hcall, he⟩ <;> rw [he] at hok ⊢
      · exact h.congr rfl rfl rfl
      · exact h.congr (handle_p2b_logs_of_none hcall) rfl rfl
      · have hr := deliverDecision_replays app { L with learner := learner } v.fields.inst
          v.fields.req_id v.src v.udp
        have hok' : Orderly app { L with learner := learner } :=
          hok.of_logs fun i u hu => by rw [hr.learner]; exact hu
        rcases lt_or_ge v.fields.inst L.minUncommitedIndex with hlt | hge
        · exact h.decided_before hcall hlt
        · by_cases hnear : v.fields.inst ≤ L.minUncommitedIndex + app.depth
          · exact h.decided_from hs hroom (inst_lt_of_read2b hv) hcall hge hnear hok'
          · exact h.decided_far hcall (Nat.lt_of_not_le hnear)

/-- What is logged stays logged, whatever packet comes. A quorum is completed once for an instance,
and `deliverInstance` does not write the log. -/
lemma Sound.logs_handle_pkt {L : Learner σ} (h : Sound L) (pkt : Pkt) (i : ℕ) (u : Bytes)
    (hu : L.learner.logs i = some u) : (Learner.handle_pkt app L pkt).1.learner.logs i = some u := by
  cases hv : read2b pkt with
  | none =>
      rw [(handle_pkt_of_not_read2b app L hv).logs]
      exact hu
  | some v =>
      rw [handle_pkt_of_read2b app L hv]
      rcases handle_2b_cases app L v with
        ⟨-, he⟩ | ⟨-, -, learner, hcall, he⟩ | ⟨-, -, learner, hcall, he⟩ <;> rw [he]
      · exact hu
      · rw [← hu]
        exact congrFun (handle_p2b_logs_of_none hcall) i
      · rw [(deliverDecision_replays app { L with learner := learner } _ _ _ _).learner]
        exact logs_keep h hcall i u hu

/-- **A run** in which no command whose turn comes fails, whatever packets come. -/
lemma settled_handleAll (app : Application σ Cmd) (n : ℕ) (addr : String) (port : ℕ) (a : σ)
    (pkts : List Pkt) (hok : Orderly app (handleAll app (new n addr port a) pkts).1) :
    Settled (handleAll app (new n addr port a) pkts).1
      (handleAll app (new n addr port a) pkts).2.1.flatten := by
  -- a log that is orderly now was orderly before
  have hrun := handleAll_invariant app
    (I := fun L outs r => Sound L ∧ (r = .ok () → Roomy app L) ∧ (Orderly app L → Settled L outs)) []
    pkts ⟨sound_new n addr port a, fun _ => roomy_new app n addr port a,
      fun _ => settled_new n addr port a⟩ ?_
  · simpa using hrun.2.2 hok
  · rintro L outs pkt - ⟨hs, hroom, hsettled⟩
    refine ⟨hs.handle_pkt pkt, (hroom rfl).handle_pkt pkt, fun hok' => ?_⟩
    exact (hsettled (hok'.of_logs (hs.logs_handle_pkt pkt))).handle_pkt hs (hroom rfl) pkt hok'

/-- **An application error does not block or repeat the log, if there is none**: in every run in
which `execute` raises on no decided command whose turn comes, whatever packets come and whatever
else raises, the handler is called at most once for an instance, and it has been called for every
instance that is decided together with all instances before it. -/
theorem applied_once (loads : Bytes → Except PyExc Json) (text : Json → Bytes) (depth n : ℕ)
    (addr : String) (port : ℕ) (pkts : List Pkt) (L : Learner SimpleDatabase)
    (trace : List (List (Out Json))) (r : Except PyExc Unit)
    (hrun : handleAll (simpleDatabase loads text depth) (new n addr port SimpleDatabase.new) pkts =
      (L, trace, r))
    (hexec : ∀ i v, 1 ≤ i → (∀ j, 1 ≤ j → j < i → (L.learner.logs j).isSome) →
      L.learner.logs i = some v → ∃ cmd, loads v = .ok cmd ∧
        (SimpleDatabase.execute text SimpleDatabase.new cmd).2.2 = none) :
    ((deliveries trace.flatten).map Prod.fst).Nodup ∧
      ∀ i, 1 ≤ i → (∀ j, 1 ≤ j → j ≤ i → (L.learner.logs j).isSome) →
        i ∈ (deliveries trace.flatten).map Prod.fst := by
  have hok : Orderly (simpleDatabase loads text depth) L := fun i v hi hlogged hv =>
    accepts_of_executes (hexec i v hi hlogged hv)
  have hsettled := settled_handleAll (simpleDatabase loads text depth) n addr port SimpleDatabase.new
    pkts (by rw [hrun]; exact hok)
  rw [hrun] at hsettled
  refine ⟨?_, fun i hi hlogged => hsettled.mem_deliveries hi hlogged⟩
  rw [hsettled.order]
  exact List.nodup_range'

/-- A command that raises a `KeyError` when its turn has come is called, and stays the next one. The
`KeyError` is taken for a gap: a 1A is sent for an instance that is logged. -/
lemma deliverInstance_blocked {L : Learner σ} {v : Bytes} {c : Cmd} {a : σ}
    {result : Option PyText} (hlog : L.learner.logs L.minUncommitedIndex = some v)
    (hload : app.loads v = .ok c) (hdel : app.deliver L.app c = (a, result, some .KeyError))
    (room : ℕ) :
    (deliverInstance app (room + 1) L L.minUncommitedIndex).1 = { L with app := a } ∧
      deliveries (deliverInstance app (room + 1) L L.minUncommitedIndex).2.1 =
        [(L.minUncommitedIndex, c)] := by
  rw [deliverInstance, if_pos rfl, hlog]
  simp only [hload, hdel]
  refine ⟨catchKeyError_fst _ _ _ _ _, ?_⟩
  unfold catchKeyError
  dsimp only
  rcases retryInstance_cases Cmd { L with app := a } L.minUncommitedIndex with
    ⟨-, he⟩ | ⟨-, msg, -, he⟩ <;> rw [he]
  · rfl
  · dsimp only
    split_ifs <;> rfl

/-- **It is called again on every decision** from then on that is near enough, and nothing behind it
is delivered. The result of the earlier call is lost. -/
lemma called_again {L : Learner σ} {v w : Bytes} {c : Cmd} {a : σ} {result : Option PyText}
    (hs : Sound L) (hlog : L.learner.logs L.minUncommitedIndex = some w)
    (hload : app.loads w = .ok c) (hdel : app.deliver L.app c = (a, result, some .KeyError))
    {learner : PaxosLearner Bytes} {msg : PaxosMessage Bytes} {inst : ℕ}
    (hcall : L.learner.handle_p2b msg = .ok (learner, some (inst, v)))
    (hle : L.minUncommitedIndex ≤ inst) (hnear : inst ≤ L.minUncommitedIndex + app.depth)
    (req_id : ℕ) (src : String) (udp : Option (ℕ × ℕ)) :
    (deliverDecision app { L with learner := learner } inst req_id src udp).1.minUncommitedIndex =
        L.minUncommitedIndex ∧
      deliveries (deliverDecision app { L with learner := learner } inst req_id src udp).2.1 =
        [(L.minUncommitedIndex, c)] := by
  let K : Learner σ := { L with learner := learner, maxInstance := max L.maxInstance inst }
  have hkept : K.learner.logs K.minUncommitedIndex = some w := logs_keep hs hcall _ w hlog
  obtain ⟨hstate, houts⟩ := deliverInstance_blocked (L := K) hkept hload hdel
    (app.depth - (inst - K.minUncommitedIndex))
  obtain ⟨hfst, hdeliveries⟩ := deliverDecision_view app { L with learner := learner } inst req_id
    src udp
  rw [← deliverInstance_of_near app (L := K) hle hnear] at hstate houts
  have hlast := hfst.trans hstate
  refine ⟨?_, hdeliveries.trans houts⟩
  rw [hlast]

end Learner

/-- `{"action": "put"}` -/
def keylessText : Bytes :=
  [123, 34, 97, 99, 116, 105, 111, 110, 34, 58, 32, 34, 112, 117, 116, 34, 125]

/-- What `json.loads` does with this text, and with the other two. -/
def loadsKeyless (text : Bytes) : Except PyExc Json :=
  if text = keylessText then .ok (.obj [("action", .str "put")]) else loadsTexts text

/-- Two of three acceptors vote for a first command and then for a get. -/
def thenGet (text : Bytes) : List Pkt :=
  [(voteFor 1 0 text).pkt, (voteFor 1 1 text).pkt, (voteFor 2 0 getText).pkt,
    (voteFor 2 1 getText).pkt]

/-- A replica of three acceptors before a database that receives these votes. -/
def databaseRun (loads : Bytes → Except PyExc Json) (text : Bytes) :
    Learner SimpleDatabase × List (List (Out Json)) × Except PyExc Unit :=
  Learner.handleAll (simpleDatabase loads noneText recursionLimit)
    (Learner.new 3 "224.3.29.73" 34952 SimpleDatabase.new) (thenGet text)

/-- What is logged in such a run, if nothing is logged for another instance than the two. -/
lemma logs_databaseRun {loads : Bytes → Except PyExc Json} {text : Bytes}
    (hmax : (databaseRun loads text).1.maxInstance ≤ 2) {P : Bytes → Prop}
    (hlogs : ∀ j ∈ [0, 1, 2], ∀ v ∈ (databaseRun loads text).1.learner.logs j, P v) (i : ℕ)
    (v : Bytes) (hv : (databaseRun loads text).1.learner.logs i = some v) : P v := by
  have hle := (Learner.sound_handleAll (simpleDatabase loads noneText recursionLimit) 3 "224.3.29.73"
    34952 SimpleDatabase.new (thenGet text)).bound i v hv
  have hi : i ≤ 2 := hle.trans hmax
  exact hlogs i (by simp; omega) v hv

/-- A put and a get are executed once each. -/
theorem applied_once_put_get :
    ((Learner.deliveries (databaseRun loadsTexts putText).2.1.flatten).map Prod.fst).Nodup := by
  refine (Learner.applied_once loadsTexts noneText recursionLimit 3 "224.3.29.73" 34952
    (thenGet putText) (databaseRun loadsTexts putText).1 (databaseRun loadsTexts putText).2.1
    (databaseRun loadsTexts putText).2.2 rfl fun i v _ _ hv => ?_).1
  have htext := logs_databaseRun (P := fun v => v = putText ∨ v = getText) (by decide +kernel)
    (by decide +kernel) i v hv
  rcases htext with rfl | rfl <;> exact ⟨_, rfl, rfl⟩

/-- A put without a key is decided, and then a get: the put is called twice, the get never. The put
raises a `KeyError` before `minUncommitedIndex` moves, so that the get's decision calls it again. -/
theorem called_twice : ¬ ∀ (loads : Bytes → Except PyExc Json) (text : Json → Bytes) (depth n : ℕ)
    (addr : String) (port : ℕ) (pkts : List Pkt) (L : Learner SimpleDatabase)
    (trace : List (List (Out Json))) (r : Except PyExc Unit),
    Learner.handleAll (simpleDatabase loads text depth) (Learner.new n addr port SimpleDatabase.new)
      pkts = (L, trace, r) →
    (∀ i v, L.learner.logs i = some v → ∃ cmd, loads v = .ok cmd) →
    ((Learner.deliveries trace.flatten).map Prod.fst).Nodup ∧
      ∀ i, 1 ≤ i → (∀ j, 1 ≤ j → j ≤ i → (L.learner.logs j).isSome) →
        i ∈ (Learner.deliveries trace.flatten).map Prod.fst := by
  intro h
  have hcalls : (Learner.deliveries (databaseRun loadsKeyless keylessText).2.1.flatten).map
      Prod.fst = [1, 1] := by
    decide +kernel
  have hrun := h loadsKeyless noneText recursionLimit 3 "224.3.29.73" 34952 (thenGet keylessText)
    (databaseRun loadsKeyless keylessText).1 (databaseRun loadsKeyless keylessText).2.1
    (databaseRun loadsKeyless keylessText).2.2 rfl fun i v hv => ?_
  · rw [hcalls] at hrun
    exact absurd hrun.1 (by decide)
  · have htext := logs_databaseRun (P := fun v => v = keylessText ∨ v = getText)
      (by decide +kernel) (by decide +kernel) i v hv
    rcases htext with rfl | rfl <;> exact ⟨_, rfl⟩

end P4xos.Bmv2
