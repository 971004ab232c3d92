import P4xos.Bmv2.DemoRuns
import P4xos.Bmv2.Requests
import P4xos.Bmv2.Store

/-!
# The demo with its web servers

On a client's host runs the web server of `bmv2/scripts/httpServer.py`: `bmv2/topo.py` starts one on
`h1`, and a second one may be started on `h4`. It submits what it is asked for, and answers with the
first reply that comes in. A `Site` is the demo with both web servers, one of which may be asked
nothing; what their users ask, and when, is up to the environment.

* A web server is a proposer. Its state and its effects follow from the events that happened at it,
  in order (`Tracks`, `tracks_reach`).
* `written_run`: what a web server sends are its requests, numbered from 1, up to its 255th request.
  `Keeps` says that it keeps a `Deferred` for each of them and calls back with every result; so a
  reply to a request means that the request is answered then (`Keeps.reply`).
* `Site.happen` is an event at a web server, and `site` the machine. `step_cases` lists what a step
  can be: a request, something in the network, and in the second case a datagram may come in at a
  web server.
* `Using` are the runs considered: no frame is lost, and nobody but the web servers and the replicas
  sends Paxos datagrams or anything to a proposer's port.
* `reach_net`: the network of a site is a run of the demo, so the results about the demo hold of it.
-/

namespace P4xos.Bmv2

open P4xos.Lib P4xos.P4v14 Node

variable {σ Cmd : Type*}

/-! ## A web server -/

/-- The port a proposer listens on.
Source: `bmv2/scripts/paxos.cfg` -/
def PROPOSER_PORT : ℕ := 34953

/-- The body of the response to a web request. A result is cut at its end, as a value is.
Source: `bmv2/scripts/httpServer.py` `_waitResponse` -/
def waitResponse (result : Bytes) : Bytes := rstrip stripChars result

/-- The datagrams that are written. -/
def written (effects : List Effect) : List Bytes :=
  effects.filterMap fun
    | .write datagram => some datagram
    | .callback _ _ => none

/-- The requests a web server got, in order. -/
def webRequests (es : List Event) : List Bytes :=
  es.filterMap fun
    | .submit msg => some msg
    | .datagram _ => none

/-- The datagrams of the effects, one list after the other. -/
@[simp] lemma written_append (effects effects' : List Effect) :
    written (effects ++ effects') = written effects ++ written effects' := List.filterMap_append

/-- The same for the requests. -/
@[simp] lemma webRequests_append (es es' : List Event) :
    webRequests (es ++ es') = webRequests es ++ webRequests es' := List.filterMap_append

/-- As many as there were submissions. -/
lemma length_webRequests (es : List Event) : (webRequests es).length = submissions es := by
  unfold webRequests submissions
  induction es with
  | nil => rfl
  | cons e es ih =>
      cases e with
      | submit msg => simp [ih]
      | datagram datagram => simp [ih]

/-- Request `j` of a client, as the replicas read it. -/
def requestNumber (H : Hosts) (c : Fin 2) (j : ℕ) (msg : Bytes) : Request where
  rnd := 0
  value := rstrip stripChars (padTo (VALUE_SIZE - 1) msg)
  req_id := j
  src := H.ip (client c, port 0)
  sport := PROPOSER_PORT
  dport := PAXOS_PROTOCOL

/-- The requests of a client, numbered from 1. -/
def requestsFrom (H : Hosts) (c : Fin 2) (msgs : List Bytes) : List Request :=
  (msgs.zipIdx 1).map fun x => requestNumber H c x.2 x.1

/-- One request more has the next number. -/
lemma requestsFrom_concat (H : Hosts) (c : Fin 2) (msgs : List Bytes) (msg : Bytes) :
    requestsFrom H c (msgs ++ [msg]) =
      requestsFrom H c msgs ++ [requestNumber H c (msgs.length + 1) msg] := by
  unfold requestsFrom
  rw [List.zipIdx_append, List.map_append, List.zipIdx_singleton, List.map_singleton, Nat.add_comm 1]

/-- The request that a submitted datagram carries. The id is one byte in the datagram. -/
lemma requestOf_clientFrame (H : Hosts) (c : Fin 2) {P : Proposer} {msg datagram : Bytes}
    (h : pack (P.request msg) = .ok datagram) (hid : P.req_id + 1 < 256) :
    requestOf (clientFrame H c datagram) = requestNumber H c (P.req_id + 1) msg := by
  have hextract := (extract_paxos_pack h).2
  have hframe : clientFrame H c datagram = _ := udpFrame_of_extract _ _ rfl hextract
  have hvalue : (P.request msg).header.value = valueField (P.req_id + 1) msg := rfl
  rw [hframe]
  unfold requestOf valueOf requestNumber
  simp only [Option.map_some, Option.getD_some, hvalue, payload_valueField,
    requestId_valueField hid]
  rfl

namespace Proposer

/-- A datagram is written by a submission that returns. A datagram that comes in makes the proposer
call back at most. -/
lemma mem_written_handle {P : Proposer} {e : Event} {datagram : Bytes}
    (h : datagram ∈ written (P.handle e).2.1) :
    ∃ msg, e = .submit msg ∧ (P.submit msg).2 = .ok datagram := by
  cases e with
  | submit msg =>
      refine ⟨msg, rfl, ?_⟩
      simp only [handle] at h
      rcases P.submit_cases msg with ⟨-, -, datagram', -, he⟩ | ⟨-, he⟩
      · rw [he] at h ⊢
        cases List.mem_singleton.mp h
        rfl
      · rw [he] at h
        cases h
  | datagram datagram' =>
      simp only [handle] at h
      rcases P.datagramReceived_cases datagram' with ⟨-, heffects⟩ | ⟨k, r, -, -, he⟩
      · rw [heffects] at h
        cases h
      · rw [he] at h
        cases h

/-- Nothing is written for a datagram. It is answered by a callback, if at all. -/
lemma written_datagram (P : Proposer) (datagram : Bytes) :
    written (P.handle (.datagram datagram)).2.1 = [] := by
  refine List.eq_nil_iff_forall_not_mem.mpr fun d hd => ?_
  obtain ⟨msg, he, -⟩ := mem_written_handle hd
  cases he

/-- **What a web server sends**: its requests, numbered, as long as the numbers fit their byte. By
induction on the events: a submission writes its message under its own number, and a datagram writes
nothing. -/
lemma written_run (H : Hosts) (c : Fin 2) (es : List Event) (h : submissions es ≤ 255) :
    (written ((new 0).run es).2).map (fun d => requestOf (clientFrame H c d)) =
      requestsFrom H c (webRequests es) := by
  induction es using List.reverseRecOn with
  | nil => rfl
  | append_singleton es e ih =>
      have hwaits := waits_run 0 es
      rw [submissions_concat] at h
      rw [run_concat, written_append, List.map_append, ih (by omega), webRequests_append]
      cases e with
      | submit msg =>
          have hone : submissions [.submit msg] = 1 := rfl
          rw [hone] at h
          rcases ((new 0).run es).1.submit_cases msg with ⟨-, hid, datagram, hpack, he⟩ | ⟨hnot, -⟩
          · have hwritten : written (((new 0).run es).1.handle (.submit msg)).2.1 = [datagram] := by
              simp only [handle, he]
              rfl
            rw [hwritten, List.map_singleton, requestOf_clientFrame H c hpack hid, hwaits.req_id,
              ← length_webRequests]
            exact (requestsFrom_concat H c (webRequests es) msg).symm
          · rw [hwaits.rnd, hwaits.req_id] at hnot
            exact absurd (by omega) hnot
      | datagram datagram =>
          rw [written_datagram]
          exact (List.append_nil _).trans (congrArg _ (List.append_nil _).symm)

/-- What a web server keeps of its requests: a `Deferred` for each, and every result. -/
structure Keeps (es : List Event) (P : Proposer) (effects : List Effect) : Prop where
  defers : ∀ k, 1 ≤ k → k ≤ submissions es → (P.defers k).isSome
  back : ∀ k r, P.defers k = some ⟨some r⟩ → (k, r) ∈ callbacks effects

section keeps

variable {es : List Event} {P : Proposer} {effects : List Effect}

/-- A submission whose request id fits its byte. It puts the `Deferred` of its number, which has no
result, and leaves the others. -/
lemma Keeps.submit (h : Keeps es P effects) (hwaits : Waits 0 es P effects)
    (hfew : submissions es < 255) (msg : Bytes) :
    Keeps (es ++ [.submit msg]) (P.handle (.submit msg)).1
      (effects ++ (P.handle (.submit msg)).2.1) := by
  have hcount : submissions (es ++ [.submit msg]) = submissions es + 1 := submissions_concat es _
  have hreq := hwaits.req_id
  rcases P.submit_cases msg with ⟨-, -, datagram, -, he⟩ | ⟨hnot, -⟩
  · simp only [handle, he]
    constructor
    · intro k h1 hk
      rw [hcount] at hk
      dsimp only
      by_cases hnew : k = P.req_id + 1
      · rw [hnew, Function.update_self]
        rfl
      · rw [Function.update_of_ne hnew]
        exact h.defers k h1 (by omega)
    · intro k r hk
      dsimp only at hk
      rw [callbacks_append]
      by_cases hnew : k = P.req_id + 1
      · rw [hnew, Function.update_self] at hk
        cases hk
      · rw [Function.update_of_ne hnew] at hk
        exact List.mem_append_left _ (h.back k r hk)
  · rw [hwaits.rnd, hreq] at hnot
    exact absurd (by omega) hnot

/-- A datagram. The callback is the first one for its request. It gives its result to one `Deferred`
and calls back with the same, or changes nothing. -/
lemma Keeps.datagram (h : Keeps es P effects) (datagram : Bytes) :
    Keeps (es ++ [.datagram datagram]) (P.handle (.datagram datagram)).1
      (effects ++ (P.handle (.datagram datagram)).2.1) := by
  have hcount : submissions (es ++ [.datagram datagram]) = submissions es := submissions_concat es _
  simp only [handle]
  rcases P.datagramReceived_cases datagram with ⟨hP, heffects⟩ | ⟨j, r', -, -, he⟩
  · rw [hP, heffects, List.append_nil]
    exact ⟨fun k h1 hk => h.defers k h1 (hcount ▸ hk), h.back⟩
  · rw [he]
    constructor
    · intro k h1 hk
      dsimp only
      by_cases hkj : k = j
      · rw [hkj, Function.update_self]
        rfl
      · rw [Function.update_of_ne hkj]
        exact h.defers k h1 (hcount ▸ hk)
    · intro k r hk
      dsimp only at hk
      rw [callbacks_append]
      by_cases hkj : k = j
      · rw [hkj, Function.update_self] at hk
        cases hk
        exact List.mem_append_right _ (hkj ▸ List.mem_singleton.mpr rfl)
      · rw [Function.update_of_ne hkj] at hk
        exact List.mem_append_left _ (h.back k r hk)

/-- As long as the request ids fit their byte. By induction on the events. -/
lemma keeps_run (es : List Event) (h : submissions es ≤ 255) :
    Keeps es ((new 0).run es).1 ((new 0).run es).2 := by
  induction es using List.reverseRecOn with
  | nil => exact ⟨fun k h1 h0 => absurd (h1.trans h0) (by decide), nofun⟩
  | append_singleton es e ih =>
      rw [submissions_concat] at h
      rw [run_concat]
      cases e with
      | submit msg =>
          have hone : submissions [.submit msg] = 1 := rfl
          exact (ih (by omega)).submit (waits_run 0 es) (by omega) msg
      | datagram datagram => exact (ih (by omega)).datagram datagram

/-- **A reply to a request that was submitted**: the request has been answered then. It was answered
by this datagram, or before. -/
lemma Keeps.reply (h : Keeps es P effects) {k : ℕ} (h1 : 1 ≤ k) (hk : k ≤ submissions es)
    (hlt : k < 256) (text : Bytes) :
    ∃ r, (k, r) ∈ callbacks (effects ++
      (P.handle (.datagram (beEncode 1 k ++ padTo VALUE_SIZE text))).2.1) := by
  set datagram := beEncode 1 k ++ padTo VALUE_SIZE text with hd
  have hlen : datagram.length = 1 + VALUE_SIZE := by
    rw [hd, List.length_append, length_beEncode, length_padTo]
  have htake : datagram.take (1 + VALUE_SIZE) = datagram := List.take_of_length_le hlen.le
  have hid : beDecode (datagram.take 1) = k := by
    rw [hd, List.take_left' (length_beEncode 1 k)]
    exact beDecode_beEncode_of_lt (by simpa using hlt)
  obtain ⟨d, hdefer⟩ := Option.isSome_iff_exists.mp (h.defers k h1 hk)
  rw [callbacks_append]
  obtain ⟨result⟩ := d
  rcases result with _ | r
  · refine ⟨datagram.drop 1, List.mem_append_right _ ?_⟩
    simp only [handle, datagramReceived, htake]
    rw [if_neg (by omega)]
    simp only [hid, hdefer, Deferred.callback]
    exact List.mem_singleton.mpr rfl
  · exact ⟨r, List.mem_append_left _ (h.back k r hdefer)⟩

end keeps

end Proposer

/-! ## The site -/

/-- The client on a host. -/
def clientAt (n : Node) : Option (Fin 2) := (List.finRange 2).find? fun c => client c = n

/-- What the proposer on a client's host receives of a frame: the payload of a datagram to its port.
-/
def received (H : Hosts) (c : Fin 2) (f : Frame Rest) : Option Bytes :=
  match f.rest.udp with
  | some u =>
      if f.dstAddr = H.mac (client c, port 0) ∧ u.dst = H.ip (client c, port 0) ∧
          u.dport = PROPOSER_PORT then
        some ((f.paxos.map PaxosT.emit).getD [] ++ f.rest.data)
      else none
  | none => none

/-- The datagrams of a client, on the wires. -/
def writes (H : Hosts) (c : Fin 2) (effects : List Effect) : List (End × Frame Rest) :=
  (written effects).map fun datagram => (fromClient c, clientFrame H c datagram)

/-- The demo with the two web servers, and everything that has happened at these, in order. -/
structure Site (σ Cmd : Type*) where
  net : Network.State (Demo σ Cmd) End (Frame Rest)
  proposers : Fin 2 → Proposer
  effects : Fin 2 → List Effect
  events : List (Fin 2 × Event)

/-- What happens at a site. -/
inductive Act
  /-- A web server is asked for something. -/
  | request (c : Fin 2) (msg : Bytes)
  /-- Something happens in the network. -/
  | net (a : Network.Event End (Frame Rest))

/-- What happens at one web server. -/
def eventsAt (c : Fin 2) (es : List (Fin 2 × Event)) : List Event := Wires.sentTo c es

namespace Site

/-- An event at a web server. -/
def happen (H : Hosts) (s : Site σ Cmd) (c : Fin 2) (e : Event) : Site σ Cmd :=
  match (s.proposers c).handle e with
  | (P, effects, _) =>
      { net := { s.net with
          wires := s.net.wires.send (writes H c effects)
          sent := s.net.sent ++ writes H c effects }
        proposers := Function.update s.proposers c P
        effects := Function.update s.effects c (s.effects c ++ effects)
        events := s.events ++ [(c, e)] }

end Site

/-- The datagram that comes in at a web server, if one does. -/
def incoming (H : Hosts) (w : Wires End (Frame Rest)) :
    Network.Event End (Frame Rest) → Option (Fin 2 × Bytes)
  | .arrive e => do
      let f ← (w e).head?
      let c ← clientAt e.1
      let datagram ← received H c f
      return (c, datagram)
  | _ => none

/-- The runs of a site. -/
def site (app : Application σ Cmd) (a₀ : σ) (H : Hosts) : Machine (Site σ Cmd) Act where
  init := {
    net := (demo app a₀ H).machine.init
    proposers := fun _ => Proposer.new 0
    effects := fun _ => []
    events := [] }
  step s
    | .request c msg => some (s.happen H c (.submit msg))
    | .net a => ((demo app a₀ H).machine.step s.net a).map fun net =>
        match incoming H s.net.wires a with
        | some (c, datagram) => { s with net := net }.happen H c (.datagram datagram)
        | none => { s with net := net }

/-- The runs in which no frame is lost, and nobody but the web servers and the replicas sends Paxos
datagrams or datagrams to a proposer. -/
def Using : Site σ Cmd → Act → Prop
  | _, .request _ _ => True
  | _, .net (.send e f) =>
      Uplink e ∧ Foreign f ∧ ∀ u ∈ f.rest.udp, u.dport ≠ PROPOSER_PORT
  | _, .net (.arrive _) => True
  | _, .net (.lose _) => False

/-- Each act is of one kind. -/
instance (s : Site σ Cmd) : DecidablePred (Using s)
  | .request _ _ => inferInstanceAs (Decidable True)
  | .net (.send _ _) => inferInstanceAs (Decidable (_ ∧ _))
  | .net (.arrive _) => inferInstanceAs (Decidable True)
  | .net (.lose _) => inferInstanceAs (Decidable False)

namespace Site

variable {app : Application σ Cmd} {a₀ : σ} {H : Hosts} {s t : Site σ Cmd}

/-- A datagram at a web server puts nothing on the wires. It is answered by a callback, which is no
datagram. -/
lemma happen_datagram_net (c : Fin 2) (datagram : Bytes) :
    (s.happen H c (.datagram datagram)).net = s.net := by
  show ({ s.net with
    wires := s.net.wires.send (writes H c ((s.proposers c).handle (.datagram datagram)).2.1)
    sent := s.net.sent ++ writes H c ((s.proposers c).handle (.datagram datagram)).2.1 } :
      Network.State (Demo σ Cmd) End (Frame Rest)) = s.net
  rw [writes, Proposer.written_datagram, List.map_nil, Wires.send_nil, List.append_nil]

/-- **Everything a step can do.** A request at a web server is one of its own events; a step of the
network is one too if it brings a datagram to a proposer. -/
lemma step_cases {a : Act} (h : (site app a₀ H).step s a = some t) :
    (∃ c msg, a = .request c msg ∧ t = s.happen H c (.submit msg)) ∨
    ∃ b net, a = .net b ∧ (demo app a₀ H).machine.step s.net b = some net ∧
      ((incoming H s.net.wires b = none ∧ t = { s with net := net }) ∨
        ∃ c datagram, incoming H s.net.wires b = some (c, datagram) ∧
          t = { s with net := net }.happen H c (.datagram datagram)) := by
  cases a with
  | request c msg => exact .inl ⟨c, msg, rfl, (Option.some_inj.mp h).symm⟩
  | net b =>
      obtain ⟨net, hnet, ht⟩ := Option.map_eq_some_iff.mp h
      refine .inr ⟨b, net, rfl, hnet, ?_⟩
      rcases hin : incoming H s.net.wires b with _ | ⟨c, datagram⟩
      · rw [hin] at ht
        exact .inl ⟨rfl, ht.symm⟩
      · rw [hin] at ht
        exact .inr ⟨c, datagram, rfl, ht.symm⟩

/-- The network after a step of the network. An event at a web server changes the network only by
what the web server writes. -/
lemma net_of_step {b : Network.Event End (Frame Rest)}
    {net : Network.State (Demo σ Cmd) End (Frame Rest)}
    (h : (incoming H s.net.wires b = none ∧ t = { s with net := net }) ∨
      ∃ c datagram, incoming H s.net.wires b = some (c, datagram) ∧
        t = { s with net := net }.happen H c (.datagram datagram)) : t.net = net := by
  rcases h with ⟨-, rfl⟩ | ⟨c, datagram, -, rfl⟩
  · rfl
  · exact happen_datagram_net c datagram

/-- **The network of a site is a run of the demo.** What a web server writes is a request that was
submitted. By induction on the steps: a submission is one `send` of the demo, or none when `submit`
raises, and a step of the network is itself. What a datagram makes a web server do is no matter of
the network. -/
lemma reach_net (h : (site app a₀ H).Reach Using s) :
    (demo app a₀ H).machine.Reach (Serving H) s.net := by
  refine h.invariant (I := fun s => (demo app a₀ H).machine.Reach (Serving H) s.net) .init ?_
  intro s a t _ ih hP hstep
  rcases step_cases hstep with ⟨c, msg, rfl, rfl⟩ | ⟨b, net, rfl, hnet, ht⟩
  · rcases (s.proposers c).submit_cases msg with ⟨-, -, datagram, -, he⟩ | ⟨-, he⟩
    · -- the datagram is put on the wire of the client
      have hsubmit : ((s.proposers c).submit msg).2 = .ok datagram := by rw [he]
      refine ih.step (a := .send (fromClient c) (clientFrame H c datagram)) ?_ ?_
      · exact ⟨uplink_fromClient c, .inl ⟨c, _, msg, datagram, hsubmit, rfl, rfl⟩⟩
      · have hwrites : writes H c ((s.proposers c).handle (.submit msg)).2.1 =
            [(fromClient c, clientFrame H c datagram)] := by
          simp only [Proposer.handle, he]
          rfl
        show some _ = some { s.net with
          wires := s.net.wires.send (writes H c ((s.proposers c).handle (.submit msg)).2.1)
          sent := s.net.sent ++ writes H c ((s.proposers c).handle (.submit msg)).2.1 }
        rw [hwrites]
    · have hwrites : writes H c ((s.proposers c).handle (.submit msg)).2.1 = [] := by
        simp only [Proposer.handle, he]
        rfl
      show (demo app a₀ H).machine.Reach (Serving H) { s.net with
          wires := s.net.wires.send (writes H c ((s.proposers c).handle (.submit msg)).2.1)
          sent := s.net.sent ++ writes H c ((s.proposers c).handle (.submit msg)).2.1 }
      rw [hwrites, Wires.send_nil, List.append_nil]
      exact ih
  · rw [net_of_step ht]
    refine ih.step ?_ hnet
    cases b with
    | send e f => exact ⟨hP.1, .inr hP.2.1⟩
    | arrive e => exact trivial
    | lose e => exact hP

/-! ## What the web servers have sent -/

/-- The web servers' states and the frames they have sent come from what has happened at them. -/
structure Tracks (H : Hosts) (s : Site σ Cmd) : Prop where
  run : ∀ c, (Proposer.new 0).run (eventsAt c s.events) = (s.proposers c, s.effects c)
  sent : ∀ f ∈ submitted s.net, ∃ c, ∃ d ∈ written (s.effects c), f = clientFrame H c d
  count : (submitted s.net).length = ∑ c, (written (s.effects c)).length

/-- What has happened at a web server, with one more event. -/
lemma eventsAt_concat (es : List (Fin 2 × Event)) (c c' : Fin 2) (e : Event) :
    eventsAt c' (es ++ [(c, e)]) = if c = c' then eventsAt c' es ++ [e] else eventsAt c' es := by
  unfold eventsAt
  rw [Wires.sentTo_append]
  by_cases h : c = c'
  · subst h
    rw [if_pos rfl, Wires.sentTo_cons_self, Wires.sentTo_nil]
  · rw [if_neg h, Wires.sentTo_cons_ne h, Wires.sentTo_nil, List.append_nil]

/-- An event at a web server: its requests are among those sent. All that a proposer writes are
Paxos frames. -/
lemma submitted_happen (c : Fin 2) (e : Event) :
    submitted (s.happen H c e).net = submitted s.net ++
      (written ((s.proposers c).handle e).2.1).map (clientFrame H c) := by
  show paxosOf ((s.net.sent ++ writes H c ((s.proposers c).handle e).2.1).map Prod.snd) = _
  rw [List.map_append, paxosOf_append, submitted]
  congr 1
  have hsnd : (writes H c ((s.proposers c).handle e).2.1).map Prod.snd =
      (written ((s.proposers c).handle e).2.1).map (clientFrame H c) := by
    unfold writes
    rw [List.map_map]
    rfl
  rw [hsnd]
  refine List.filter_eq_self.mpr fun f hf => ?_
  obtain ⟨d, hd, rfl⟩ := List.mem_map.mp hf
  obtain ⟨msg, -, hsubmit⟩ := Proposer.mem_written_handle hd
  obtain ⟨p, hp, -⟩ := (placed_clientFrame H c hsubmit).2
  rw [hp]
  rfl

/-- An event at a web server. The proposer's run is one event longer, and what the event writes is
what is sent. -/
lemma Tracks.happen (h : Tracks H s) (c : Fin 2) (e : Event) : Tracks H (s.happen H c e) where
  run c' := by
    show (Proposer.new 0).run (eventsAt c' (s.events ++ [(c, e)])) =
      (Function.update s.proposers c ((s.proposers c).handle e).1 c',
        Function.update s.effects c (s.effects c ++ ((s.proposers c).handle e).2.1) c')
    rw [eventsAt_concat]
    by_cases hc : c = c'
    · subst hc
      rw [if_pos rfl, Proposer.run_concat, h.run c, Function.update_self, Function.update_self]
    · rw [if_neg hc, h.run c', Function.update_of_ne (Ne.symm hc), Function.update_of_ne (Ne.symm hc)]
  sent f hf := by
    show ∃ c', ∃ d ∈ written (Function.update s.effects c
      (s.effects c ++ ((s.proposers c).handle e).2.1) c'), f = clientFrame H c' d
    rw [submitted_happen] at hf
    rcases List.mem_append.mp hf with hold | hnew
    · obtain ⟨c', d, hd, rfl⟩ := h.sent f hold
      refine ⟨c', d, ?_, rfl⟩
      by_cases hc : c' = c
      · subst hc
        rw [Function.update_self, written_append]
        exact List.mem_append_left _ hd
      · rwa [Function.update_of_ne hc]
    · obtain ⟨d, hd, rfl⟩ := List.mem_map.mp hnew
      refine ⟨c, d, ?_, rfl⟩
      rw [Function.update_self, written_append]
      exact List.mem_append_right _ hd
  count := by
    have hself : written (Function.update s.effects c
        (s.effects c ++ ((s.proposers c).handle e).2.1) c) =
          written (s.effects c) ++ written ((s.proposers c).handle e).2.1 := by
      rw [Function.update_self, written_append]
    have hother : ∀ c' ∈ Finset.univ.erase c, (written (Function.update s.effects c
        (s.effects c ++ ((s.proposers c).handle e).2.1) c')).length =
          (written (s.effects c')).length := by
      intro c' hc'
      rw [Function.update_of_ne (Finset.ne_of_mem_erase hc')]
    show _ = ∑ c', (written (Function.update s.effects c
      (s.effects c ++ ((s.proposers c).handle e).2.1) c')).length
    rw [submitted_happen, List.length_append, List.length_map, h.count,
      ← Finset.add_sum_erase _ _ (Finset.mem_univ c), ← Finset.add_sum_erase _ _ (Finset.mem_univ c),
      hself, Finset.sum_congr rfl hother, List.length_append]
    omega

/-- A step of the network that sends no Paxos datagram. -/
lemma Tracks.net (h : Tracks H s) {net : Network.State (Demo σ Cmd) End (Frame Rest)}
    (hnet : submitted net = submitted s.net) : Tracks H { s with net := net } where
  run := h.run
  sent f hf := h.sent f (hnet ▸ hf)
  count := (congrArg List.length hnet).trans h.count

/-- What is sent in a step of the network is no Paxos datagram. -/
lemma submitted_of_step {b : Network.Event End (Frame Rest)}
    {net : Network.State (Demo σ Cmd) End (Frame Rest)} (hP : Using s (.net b))
    (h : (demo app a₀ H).machine.step s.net b = some net) : submitted net = submitted s.net := by
  rcases Network.step_cases h with ⟨e, f, rfl, rfl⟩ | ⟨e, f, -, -, rfl⟩ | ⟨e, f, -, -, rfl⟩
  · unfold submitted
    rw [List.map_append, paxosOf_append, List.map_singleton, paxosOf_cons_of_none hP.2.1.paxos,
      paxosOf_nil, List.append_nil]
  · rfl
  · rfl

/-- **In every run.** By induction on its steps. -/
lemma tracks_reach (h : (site app a₀ H).Reach Using s) : Tracks H s := by
  refine h.invariant (I := Tracks H) ⟨fun c => rfl, fun f hf => absurd hf List.not_mem_nil, rfl⟩ ?_
  intro s a t _ ih hP hstep
  rcases step_cases hstep with ⟨c, msg, -, rfl⟩ | ⟨b, net, rfl, hnet, ⟨-, rfl⟩ | ⟨c, d, -, rfl⟩⟩
  · exact ih.happen c _
  · exact ih.net (submitted_of_step hP hnet)
  · exact (ih.net (submitted_of_step hP hnet)).happen c _

end Site

end P4xos.Bmv2
