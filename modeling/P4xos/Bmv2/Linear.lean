import P4xos.Bmv2.Site

/-!
# The web servers as one server

The coordinator's numbers put the requests of both web servers into one order, the log. To their
users, the web servers, the switches and the replicas are one server that executes the log.

1. **Order.** `Ordered`: the log has each client's requests in the order of their submission, and
what is not in it yet is on the client's link. An event in the network numbers one request or none
(`Numbers`, `numbers_of_step`), so this holds in every run (`ordered_reach`). With the request ids a
request has one place in the log (`place_unique`). 2. **Replies.** `Replying`: whatever is on its
way to a proposer is a reply with the text that a server has for a request of the log (`IsReply`).
It holds since a replica is such a server, and since nobody else sends anything to a proposer
(`replying_reach`). 3. **Answers.** `Answered`: so every answer of a web server is the `Result` of a
request of the log, and every reply that has come in has been answered (`answered_reach`). 4. **Real
time.** `Timely`: a request that was submitted after another one was answered comes after it in the
log. When it is submitted it is in no log; when it is numbered, the answered one is in the log
already (`timely_reach`). 5. `Linear` puts these together, `Complete` says that all requests are in
the log and all results that have a text have been answered, and `web_linearizable` is the result.

The lemmas about `Ordered`, `Replying`, `Answered` and `Timely` come in threes: an event at a web
server, a step of the network, and a run. `Fits` bounds the requests of a web server by what its ids
tell apart.
-/

namespace P4xos.Bmv2

open P4xos.Lib P4xos.P4v14 Node

variable {σ Cmd : Type*}

namespace Site

/-- The IP address of a client. -/
def address (H : Hosts) (c : Fin 2) : String := H.ip (client c, port 0)

/-- The requests in the order in which the coordinator has numbered them. -/
def log (s : Site σ Cmd) : List Request := s.net.nodes.issued.map requestOf

/-- The requests are few enough for their ids, and the application accepts them. -/
structure Fits (app : Application σ Cmd) (s : Site σ Cmd) : Prop where
  few : ∀ c, submissions (eventsAt c s.events) ≤ 255
  accepts : ∀ c, ∀ msg ∈ webRequests (eventsAt c s.events),
    Learner.Accepts app (rstrip stripChars (padTo (VALUE_SIZE - 1) msg))

variable {app : Application σ Cmd} {a₀ : σ} {H : Hosts} {s t : Site σ Cmd}

/-- A request keeps its place in what has happened. -/
lemma events_grow {a : Act} (h : (site app a₀ H).step s a = some t) : s.events <+: t.events := by
  rcases step_cases h with ⟨c, msg, -, rfl⟩ | ⟨b, net, -, -, ⟨-, rfl⟩ | ⟨c, d, -, rfl⟩⟩
  · exact List.prefix_append _ _
  · exact List.prefix_rfl
  · exact List.prefix_append _ _

/-- What has happened at a web server, one list after the other. -/
lemma eventsAt_append (c : Fin 2) (es es' : List (Fin 2 × Event)) :
    eventsAt c (es ++ es') = eventsAt c es ++ eventsAt c es' := Wires.sentTo_append c es es'

/-- The number of submissions, one list after the other. -/
lemma submissions_append (es es' : List Event) :
    submissions (es ++ es') = submissions es + submissions es' := List.countP_append

/-- What fits later fits now. -/
lemma Fits.earlier (h : Fits app t) (hpre : s.events <+: t.events) : Fits app s := by
  obtain ⟨post, hpost⟩ := hpre
  constructor
  · intro c
    have hfew := h.few c
    rw [← hpost, eventsAt_append, submissions_append] at hfew
    omega
  · intro c msg hmsg
    refine h.accepts c msg ?_
    rw [← hpost, eventsAt_append, webRequests_append]
    exact List.mem_append_left _ hmsg

/-- What a web server has sent are its requests. -/
lemma Tracks.requests (h : Tracks H s) {c : Fin 2}
    (hfew : submissions (eventsAt c s.events) ≤ 255) :
    (written (s.effects c)).map (fun d => requestOf (clientFrame H c d)) =
      requestsFrom H c (webRequests (eventsAt c s.events)) := by
  rw [← Proposer.written_run H c _ hfew, h.run c]

/-- The values of a client's requests. -/
lemma mem_requestsFrom {c : Fin 2} {msgs : List Bytes} {q : Request}
    (h : q ∈ requestsFrom H c msgs) :
    ∃ msg ∈ msgs, q.value = rstrip stripChars (padTo (VALUE_SIZE - 1) msg) := by
  obtain ⟨⟨msg, j⟩, hmem, rfl⟩ := List.mem_map.mp h
  exact ⟨msg, List.fst_mem_of_mem_zipIdx hmem, rfl⟩

/-- As many as there were web requests. -/
lemma length_requestsFrom (c : Fin 2) (msgs : List Bytes) :
    (requestsFrom H c msgs).length = msgs.length := by
  rw [requestsFrom, List.length_map, List.length_zipIdx]

/-- The replicas can serve what fits. The proposers number up to 255 requests each, so that both
together submit far fewer than a replica sniffs; and each frame carries the text of a web request,
which the application accepts. -/
lemma Tracks.acceptable (h : Tracks H s) (hfits : Fits app s) :
    Acceptable app (submitted s.net) := by
  have hlen : ∀ c, (written (s.effects c)).length ≤ 255 := by
    intro c
    have heq := congrArg List.length (h.requests (hfits.few c))
    rw [List.length_map, length_requestsFrom, length_webRequests] at heq
    exact heq.le.trans (hfits.few c)
  constructor
  · rw [h.count, Fin.sum_univ_two]
    have h0 := hlen 0
    have h1 := hlen 1
    show 3 * _ < 65536
    omega
  · intro f hf
    obtain ⟨c, d, hd, rfl⟩ := h.sent f hf
    have hmem : requestOf (clientFrame H c d) ∈
        requestsFrom H c (webRequests (eventsAt c s.events)) :=
      h.requests (hfits.few c) ▸ List.mem_map_of_mem hd
    obtain ⟨msg, hmsg, hvalue⟩ := mem_requestsFrom hmem
    show Learner.Accepts app (requestOf (clientFrame H c d)).value
    rw [hvalue]
    exact hfits.accepts c msg hmsg

/-- A client's frames carry its address. -/
lemma src_clientFrame (c : Fin 2) (d : Bytes) :
    (requestOf (clientFrame H c d)).src = address H c := by
  have hudp : (clientFrame H c d).rest.udp = _ := udp_udpFrame _ _ _ _
  rw [requestOf, hudp]
  rfl

/-! ## The order of the log -/

/-- The log has the requests of each client in their order; the others are on their way. -/
structure Ordered (H : Hosts) (s : Site σ Cmd) : Prop where
  order : ∀ c, (log s).filter (fun q => q.src = address H c) ++
    (paxosAt s.net.wires (fromClient c)).map requestOf =
      (written (s.effects c)).map fun d => requestOf (clientFrame H c d)
  owner : ∀ q ∈ log s, ∃ c, q.src = address H c

/-- What is on its way from a client carries its address. -/
lemma Ordered.src (h : Ordered H s) {c : Fin 2} {f : Frame Rest}
    (hf : f ∈ paxosAt s.net.wires (fromClient c)) : (requestOf f).src = address H c := by
  have hmem : requestOf f ∈ (written (s.effects c)).map fun d => requestOf (clientFrame H c d) :=
    h.order c ▸ List.mem_append_right _ (List.mem_map_of_mem hf)
  obtain ⟨d, -, hd⟩ := List.mem_map.mp hmem
  rw [← hd]
  exact src_clientFrame c d

/-- What a web server writes is on the wire of its host. The induction is over the datagrams that
the proposer writes, each of which goes out by the one link of its host. -/
lemma paxosAt_happen (c : Fin 2) (e : Event) (c' : Fin 2) :
    paxosAt (s.happen H c e).net.wires (fromClient c') =
      paxosAt s.net.wires (fromClient c') ++
        if c' = c then (written ((s.proposers c).handle e).2.1).map (clientFrame H c) else [] := by
  show paxosAt (s.net.wires.send (writes H c ((s.proposers c).handle e).2.1)) (fromClient c') = _
  rw [paxosAt_send_of_some]
  · rw [Wires.send]
    congr 1
    unfold writes
    induction written ((s.proposers c).handle e).2.1 with
    | nil =>
        split_ifs <;> rfl
    | cons d ds ih =>
        rw [List.map_cons]
        by_cases hc : c' = c
        · subst hc
          rw [Wires.sentTo_cons_self, ih, if_pos rfl, if_pos rfl, List.map_cons]
        · rw [Wires.sentTo_cons_ne fun heq => hc (fromClient_inj.mp heq).symm, ih, if_neg hc, if_neg hc]
  · intro x hx
    obtain ⟨d, hd, rfl⟩ := List.mem_map.mp hx
    obtain ⟨msg, -, hsubmit⟩ := Proposer.mem_written_handle hd
    obtain ⟨p, hp, -⟩ := (placed_clientFrame H c hsubmit).2
    rw [hp]
    rfl

/-- An event at a web server. -/
lemma Ordered.happen (h : Ordered H s) (c : Fin 2) (e : Event) : Ordered H (s.happen H c e) where
  order c' := by
    show (log s).filter _ ++ (paxosAt (s.happen H c e).net.wires (fromClient c')).map requestOf =
      (written (Function.update s.effects c (s.effects c ++ ((s.proposers c).handle e).2.1) c')).map _
    rw [paxosAt_happen, List.map_append, ← List.append_assoc, h.order c']
    by_cases hc : c' = c
    · subst hc
      rw [if_pos rfl, Function.update_self, written_append, List.map_append, List.map_map]
      rfl
    · rw [if_neg hc, Function.update_of_ne hc]
      exact List.append_nil _
  owner := h.owner

/-- A replica numbers nothing. It handles the frame of a vote. -/
lemma issued_handleReplica (n : Demo σ Cmd) (r : Fin 2) (f : Frame Rest) :
    (handleReplica app H n r f).1.issued = n.issued := by
  unfold handleReplica
  rcases sniffs f with _ | pkt
  · rfl
  · dsimp only
    split_ifs <;> rfl

/-- What can happen to the requests: the first one of a client gets the next number, or none does.
-/
def Numbers (net net' : Network.State (Demo σ Cmd) End (Frame Rest)) : Prop :=
  (∃ c f f', paxosAt net.wires (fromClient c) = f :: paxosAt net'.wires (fromClient c) ∧
    requestOf f' = requestOf f ∧ net'.nodes.issued = net.nodes.issued ++ [f'] ∧
    ∀ c', c' ≠ c → paxosAt net'.wires (fromClient c') = paxosAt net.wires (fromClient c')) ∨
  (net'.nodes.issued = net.nodes.issued ∧
    ∀ c, paxosAt net'.wires (fromClient c) = paxosAt net.wires (fromClient c))

/-- **What a step does to the requests.** A frame that a host sends is no Paxos frame. One without a
Paxos header that comes in goes on as it is. Of the Paxos frames, one at the coordinator takes the
next number and leaves the link of its client; a vote, a packet at a replica and one that leaves the
network are not on those links, and number nothing. -/
lemma numbers_of_step {b : Network.Event End (Frame Rest)}
    {net : Network.State (Demo σ Cmd) End (Frame Rest)}
    (hP : Using s (.net b)) (hstep : (demo app a₀ H).machine.step s.net b = some net)
    (hinv : Inv app a₀ s.net.nodes (paxosAt s.net.wires) (submitted s.net))
    (hok : Acceptable app s.net.nodes.issued)
    (hforeign : ∀ e, ∀ f ∈ s.net.wires e, f.paxos = none → Foreign f) : Numbers s.net net := by
  rcases Network.step_cases hstep with ⟨e, f, rfl, rfl⟩ | ⟨e, f, rfl, hf, rfl⟩ | ⟨e, f, rfl, -, -⟩
  · refine .inr ⟨rfl, fun c => congrFun (paxosAt_send_of_none fun x hx => ?_) _⟩
    rw [List.mem_singleton.mp hx]
    exact hP.2.1.paxos
  · rcases hp : f.paxos with _ | p
    · obtain ⟨hnodes, hout⟩ : ((demo app a₀ H).handle s.net.nodes e f).1 = s.net.nodes ∧
          ∀ x ∈ ((demo app a₀ H).handle s.net.nodes e f).2, x.2 = f :=
        handle_foreign (hforeign e f (List.mem_of_head? hf) hp) e
      refine .inr ⟨by rw [hnodes], fun c => ?_⟩
      rw [paxosAt_send_of_none fun x hx => by rw [hout x hx, hp], paxosAt_take_of_none hf hp]
    · obtain ⟨htake, hq⟩ := paxosAt_take_of_some hf hp
      rcases hinv.arrive_cases H hq with ⟨c, f', rfl, hsome, hreq, hissued, hout⟩ |
        ⟨a, f', rfl, hsome, hissued, hout⟩ | ⟨r, a, rfl, heq⟩ | ⟨he, heq⟩
      · have hsend : paxosAt ((s.net.wires.take (fromClient c)).send
            ((demo app a₀ H).handle s.net.nodes (fromClient c) f).2) =
              ((paxosAt s.net.wires).take (fromClient c)).send
                ((targets (fromClient c)).map fun e' => (e', f')) := by
          rw [hout, paxosAt_send_of_some (isSome_paxos_flood _ hsome), htake]
        have hclient : ∀ c', paxosAt ((s.net.wires.take (fromClient c)).send
            ((demo app a₀ H).handle s.net.nodes (fromClient c) f).2) (fromClient c') =
              (paxosAt s.net.wires).take (fromClient c) (fromClient c') := by
          intro c'
          rw [hsend, send_flood, (count_targets_fromClient c).2.2 c', List.replicate_zero,
            List.append_nil]
        refine .inl ⟨c, f, f', ?_, hreq, hissued, fun c' hc' => ?_⟩
        · rw [hclient c]
          exact take_self hq
        · rw [hclient c']
          exact take_of_ne fun heq => hc' (fromClient_inj.mp heq)
      · refine .inr ⟨hissued, fun c => ?_⟩
        rw [hout, paxosAt_send_of_some (isSome_paxos_flood _ hsome), htake, send_flood,
          (count_targets_toAcceptor a).2.2 c, List.replicate_zero, List.append_nil]
        exact take_of_ne (ends_ne c a 0 a).1
      · obtain ⟨hnone, -⟩ := hinv.hear hok r a (H := H) hq
        refine .inr ⟨by rw [heq, issued_handleReplica], fun c => ?_⟩
        rw [paxosAt_send_of_none fun x hx => (hnone x hx).paxos, htake]
        exact take_of_ne (ends_ne c a r a).2.1
      · refine .inr ⟨by rw [heq], fun c => ?_⟩
        rw [heq, Wires.send_nil, htake]
        refine take_of_ne ?_
        rintro rfl
        rcases he with he | he <;> cases he
  · exact absurd hP id

/-- A step of the network. The request that is numbered was the first one on its client's link. The
numbered request carries its client's address, so it moves from the head of that client's link to
the end of that client's part of the log, and the parts of the other client stay. -/
lemma Ordered.net (h : Ordered H s) (hip : address H 0 ≠ address H 1)
    {net : Network.State (Demo σ Cmd) End (Frame Rest)} (hnet : Numbers s.net net) :
    Ordered H { s with net := net } := by
  have hne : ∀ c c', c' ≠ c → address H c ≠ address H c' := by
    intro c c' hc
    match c, c' with
    | 0, 0 => exact absurd rfl hc
    | 0, 1 => exact hip
    | 1, 0 => exact hip.symm
    | 1, 1 => exact absurd rfl hc
  rcases hnet with ⟨c, f, f', hwire, hreq, hissued, hother⟩ | ⟨hissued, hwire⟩
  · have hlog : log { s with net := net } = log s ++ [requestOf f] := by
      show net.nodes.issued.map requestOf = s.net.nodes.issued.map requestOf ++ [requestOf f]
      rw [hissued, List.map_append, List.map_singleton, hreq]
    have hsrc : (requestOf f).src = address H c := h.src (hwire ▸ List.mem_cons_self)
    constructor
    · intro c'
      rw [hlog, List.filter_append]
      show _ ++ (paxosAt net.wires (fromClient c')).map requestOf = (written (s.effects c')).map _
      rw [← h.order c']
      by_cases hc : c' = c
      · subst hc
        rw [List.filter_cons_of_pos (by simpa using hsrc), List.filter_nil, hwire, List.map_cons,
          List.append_assoc, List.singleton_append]
      · rw [List.filter_cons_of_neg (by simpa [hsrc] using hne c c' hc), List.filter_nil,
          List.append_nil, hother c' hc]
    · intro q hq
      rw [hlog] at hq
      rcases List.mem_append.mp hq with hold | hnew
      · exact h.owner q hold
      · exact ⟨c, List.mem_singleton.mp hnew ▸ hsrc⟩
  · have hlog : log { s with net := net } = log s := congrArg (List.map requestOf) hissued
    constructor
    · intro c
      rw [hlog]
      show _ ++ (paxosAt net.wires (fromClient c)).map requestOf = (written (s.effects c)).map _
      rw [hwire c]
      exact h.order c
    · rw [hlog]
      exact h.owner

/-- What is known of the network of a site whose requests fit. -/
lemma inv_of_reach (h : (site app a₀ H).Reach Using s) (hfits : Fits app s) :
    Inv app a₀ s.net.nodes (paxosAt s.net.wires) (submitted s.net) ∧
      (∀ e, ∀ f ∈ s.net.wires e, f.paxos = none → Foreign f) ∧
      Acceptable app s.net.nodes.issued := by
  have hok := (tracks_reach h).acceptable hfits
  obtain ⟨hinv, hforeign⟩ := inv_reach (reach_net h) hok
  exact ⟨hinv, hforeign, hok.of_perm hinv.requested⟩

/-- **The log is in order.** By induction on the steps of the run. -/
lemma ordered_reach (hip : address H 0 ≠ address H 1) (h : (site app a₀ H).Reach Using s)
    (hfits : Fits app s) : Ordered H s := by
  revert hfits
  refine h.invariant (I := fun s => Fits app s → Ordered H s) ?_ ?_
  · intro _
    exact ⟨fun c => rfl, fun q hq => absurd hq List.not_mem_nil⟩
  · intro s a t hs ih hP hstep hfits
    have hbefore := hfits.earlier (events_grow hstep)
    obtain ⟨hinv, hforeign, hok⟩ := inv_of_reach hs hbefore
    rcases step_cases hstep with ⟨c, msg, -, rfl⟩ | ⟨b, net, rfl, hnet, ⟨-, rfl⟩ | ⟨c, d, -, rfl⟩⟩
    · exact (ih hbefore).happen c _
    · exact (ih hbefore).net hip (numbers_of_step hP hnet hinv hok hforeign)
    · exact ((ih hbefore).net hip (numbers_of_step hP hnet hinv hok hforeign)).happen c _

/-! ## The places of the requests -/

/-- The requests of a client in the log are numbered from 1. -/
lemma ids_of_log (hordered : Ordered H s) (htracks : Tracks H s) (hfits : Fits app s) (c : Fin 2) :
    (((log s).filter fun q => q.src = address H c).map Request.req_id) <+:
      List.range' 1 (submissions (eventsAt c s.events)) := by
  have hrange : (requestsFrom H c (webRequests (eventsAt c s.events))).map Request.req_id =
      List.range' 1 (submissions (eventsAt c s.events)) := by
    rw [← length_webRequests, requestsFrom, List.map_map]
    exact List.zipIdx_map_snd 1 _
  rw [← hrange, ← htracks.requests (hfits.few c), ← hordered.order c, List.map_append]
  exact List.prefix_append _ _

/-- Request `i` of the log. -/
lemma getElem?_log {i : ℕ} (h1 : 1 ≤ i) (hi : i ≤ s.net.nodes.issued.length) :
    (log s)[i - 1]? = some (requests s.net.nodes.issued i) := by
  unfold log requests
  rw [List.getElem?_map]
  rcases hget : s.net.nodes.issued[i - 1]? with _ | f
  · have hlen := List.getElem?_eq_none_iff.mp hget
    omega
  · rfl

/-- A request of the log is one that a client has submitted. Its number is that of the submission.
-/
lemma submitted_of_log (hordered : Ordered H s) (htracks : Tracks H s) (hfits : Fits app s) {i : ℕ}
    (h1 : 1 ≤ i) (hi : i ≤ s.net.nodes.issued.length) {c : Fin 2}
    (hc : (requests s.net.nodes.issued i).src = address H c) :
    1 ≤ (requests s.net.nodes.issued i).req_id ∧
      (requests s.net.nodes.issued i).req_id ≤ submissions (eventsAt c s.events) := by
  have hmem : requests s.net.nodes.issued i ∈ (log s).filter fun q => q.src = address H c :=
    List.mem_filter.mpr ⟨List.mem_of_getElem? (getElem?_log h1 hi), by simpa using hc⟩
  have hid := (ids_of_log hordered htracks hfits c).subset (List.mem_map_of_mem hmem)
  rw [List.mem_range'_1] at hid
  omega

/-- **A request has one place in the log.** The requests of a client are numbered upwards along the
log. -/
lemma place_unique (hordered : Ordered H s) (htracks : Tracks H s) (hfits : Fits app s) {i j : ℕ}
    (hi : 1 ≤ i ∧ i ≤ s.net.nodes.issued.length) (hj : 1 ≤ j ∧ j ≤ s.net.nodes.issued.length)
    {c : Fin 2} (hic : (requests s.net.nodes.issued i).src = address H c)
    (hjc : (requests s.net.nodes.issued j).src = address H c)
    (hid : (requests s.net.nodes.issued i).req_id = (requests s.net.nodes.issued j).req_id) :
    i = j := by
  have hnodup : (((log s).filter fun q => q.src = address H c).map Request.req_id).Nodup :=
    (ids_of_log hordered htracks hfits c).sublist.nodup List.nodup_range'
  have hpair := List.pairwise_filter.mp (List.pairwise_map.mp hnodup)
  have hne : ∀ i j, 1 ≤ i → i < j → j ≤ s.net.nodes.issued.length →
      (requests s.net.nodes.issued i).src = address H c →
      (requests s.net.nodes.issued j).src = address H c →
      (requests s.net.nodes.issued i).req_id ≠ (requests s.net.nodes.issued j).req_id := by
    intro i j h1 hlt hle hic hjc
    obtain ⟨hilt, hieq⟩ := List.getElem?_eq_some_iff.mp (getElem?_log (s := s) h1 (by omega))
    obtain ⟨hjlt, hjeq⟩ := List.getElem?_eq_some_iff.mp (getElem?_log (s := s) (by omega) hle)
    have hone := List.pairwise_iff_getElem.mp hpair (i - 1) (j - 1) hilt hjlt (by omega)
    rw [hieq, hjeq] at hone
    exact hone (by simpa using hic) (by simpa using hjc)
  rcases Nat.lt_trichotomy i j with hlt | heq | hlt
  · exact absurd hid (hne i j hi.1 hlt hj.2 hic hjc)
  · exact heq
  · exact absurd hid.symm (hne j i hj.1 hlt hi.2 hjc hic)

/-! ## Replies -/

/-- The frame of a replica's reply. It goes to the port the request came from. -/
def replyFrame (H : Hosts) (r : Fin 2) (q : Request) (text : Bytes) : Frame Rest :=
  udpFrame (H.mac (fromAcceptor r (H.route r))) (H.arp q.src)
    ⟨H.ip (fromAcceptor r (H.route r)), q.src, q.dport, q.sport⟩
    (beEncode 1 q.req_id ++ padTo VALUE_SIZE text)

/-- A frame with the result of a request, as a server has it that executes the log. -/
def IsReply (app : Application σ Cmd) (a₀ : σ) (H : Hosts) (issued : List (Frame Rest))
    (f : Frame Rest) : Prop :=
  ∃ i text r, (1 ≤ i ∧ i ≤ issued.length) ∧
    Learner.textAt app a₀ (Bmv2.requests issued) i = some text ∧
    f = replyFrame H r (Bmv2.requests issued i) text

/-- A reply stays one when the log grows. -/
lemma IsReply.append {issued : List (Frame Rest)} {f : Frame Rest} (h : IsReply app a₀ H issued f)
    (f' : Frame Rest) : IsReply app a₀ H (issued ++ [f']) f := by
  obtain ⟨i, text, r, ⟨h1, hi⟩, hres, rfl⟩ := h
  refine ⟨i, text, r, ⟨h1, ?_⟩, ?_, ?_⟩
  · rw [List.length_append]
    exact Nat.le_add_right_of_le hi
  · rw [← hres]
    exact Learner.textAt_congr app a₀ h1 fun j hj hle => requests_append f' hj (hle.trans hi)
  · rw [requests_append f' h1 hi]

/-- What a replica has sent are replies. A replica has done what a server does that executes the
first `k` requests, and such a server sends a reply or calls the handler. -/
lemma isReply_of_replied {n : Demo σ Cmd} {q : Wires End (Frame Rest)} {req : List (Frame Rest)}
    (hinv : Inv app a₀ n q req) {r : Fin 2} {x : End × Frame Rest} (hx : x ∈ replied H n r) :
    IsReply app a₀ H n.issued x.2 := by
  obtain ⟨vs, hvs⟩ := hinv.replicas r
  obtain ⟨k, hk⟩ := hvs.serves
  obtain ⟨o, ho, hx⟩ := List.mem_flatMap.mp hx
  rw [hk.outs] at ho
  rcases Learner.mem_served ho with ⟨i, c, rfl⟩ | ⟨i, text, -, -, heq⟩
  · cases hx
  · rw [heq] at ho hx
    obtain ⟨j, text', h1, hj, hres, hreply⟩ := Learner.respond_mem_served_iff.mp ho
    refine ⟨j, text', r, ⟨h1, hj.trans (hvs.serves_le hk)⟩, hres, ?_⟩
    unfold Learner.reply at hx
    rw [← hreply] at hx
    obtain ⟨e, -, rfl⟩ := List.mem_map.mp hx
    rfl

/-- What a replica sends is among what it has sent then. A replica that no longer listens, or that
does not sniff the frame, sends nothing. -/
lemma mem_replied {n : Demo σ Cmd} {r : Fin 2} {f : Frame Rest} {x : End × Frame Rest}
    (hx : x ∈ (handleReplica app H n r f).2) : x ∈ replied H (handleReplica app H n r f).1 r := by
  revert hx
  unfold handleReplica
  rcases sniffs f with _ | pkt
  · intro hx
    cases hx
  · dsimp only
    by_cases hrun : n.listens r
    · rw [if_pos hrun]
      intro hx
      unfold replied
      dsimp only
      rw [Function.update_self, List.flatMap_append]
      exact List.mem_append_right _ hx
    · rw [if_neg hrun]
      intro hx
      cases hx

/-- Whatever is on its way to a proposer is a reply. -/
def Replying (app : Application σ Cmd) (a₀ : σ) (H : Hosts)
    (net : Network.State (Demo σ Cmd) End (Frame Rest)) : Prop :=
  ∀ e, ∀ f ∈ net.wires e, f.paxos = none → ∀ u ∈ f.rest.udp, u.dport = PROPOSER_PORT →
    IsReply app a₀ H net.nodes.issued f

/-- An event at a web server. -/
lemma Replying.happen (h : Replying app a₀ H s.net) (c : Fin 2) (e : Event) :
    Replying app a₀ H (s.happen H c e).net := by
  intro e' f hf hnone u hu hport
  rcases Wires.mem_send.mp hf with hold | hnew
  · exact h e' f hold hnone u hu hport
  · obtain ⟨d, hd, heq⟩ := List.mem_map.mp hnew
    cases heq
    obtain ⟨msg, -, hsubmit⟩ := Proposer.mem_written_handle hd
    obtain ⟨p, hp, -⟩ := (placed_clientFrame H c hsubmit).2
    rw [hp] at hnone
    cases hnone

/-- A step of the network. It may send frames that are none to a proposer, number a request, or make
a replica reply. A host sends nothing to a proposer (`Using`). A frame without a Paxos header goes
on as it is, and was a reply before. A switch makes Paxos frames only, and what a replica has sent
is a reply by `mem_replied`. -/
lemma Replying.net (h : Replying app a₀ H s.net) {b : Network.Event End (Frame Rest)}
    {net : Network.State (Demo σ Cmd) End (Frame Rest)}
    (hP : Using s (.net b)) (hstep : (demo app a₀ H).machine.step s.net b = some net)
    (hinv : Inv app a₀ s.net.nodes (paxosAt s.net.wires) (submitted s.net))
    (hforeign : ∀ e, ∀ f ∈ s.net.wires e, f.paxos = none → Foreign f)
    (hinv' : Inv app a₀ net.nodes (paxosAt net.wires) (submitted net))
    (hnumbers : Numbers s.net net) : Replying app a₀ H net := by
  have hmono : ∀ f, IsReply app a₀ H s.net.nodes.issued f → IsReply app a₀ H net.nodes.issued f := by
    intro f hf
    rcases hnumbers with ⟨-, -, f', -, -, hissued, -⟩ | ⟨hissued, -⟩
    · rw [hissued]
      exact hf.append f'
    · rwa [hissued]
  intro e' f' hf' hnone u hu hport
  rcases Network.step_cases hstep with ⟨e, f, rfl, rfl⟩ | ⟨e, f, rfl, hf, rfl⟩ | ⟨e, f, rfl, -, -⟩
  · rcases Wires.mem_send.mp hf' with hold | hnew
    · exact h e' f' hold hnone u hu hport
    · cases List.mem_singleton.mp hnew
      exact absurd hport (hP.2.2 u hu)
  · rcases Wires.mem_send.mp hf' with hold | hnew
    · exact hmono f' (h e' f' (Wires.mem_take hold) hnone u hu hport)
    · rcases hp : f.paxos with _ | p
      · have hmem := List.mem_of_head? hf
        obtain ⟨-, hout⟩ : _ ∧ ∀ x ∈ ((demo app a₀ H).handle s.net.nodes e f).2, x.2 = f :=
          handle_foreign (hforeign e f hmem hp) e
        obtain rfl : f' = f := hout _ hnew
        exact hmono f' (h e f' hmem hp u hu hport)
      · obtain ⟨-, hq⟩ := paxosAt_take_of_some hf hp
        rcases hinv.arrive_cases H hq with ⟨-, f₁, -, hsome, -, -, hout⟩ | ⟨-, f₁, -, hsome, -, hout⟩ |
          ⟨r, a, -, heq⟩ | ⟨-, heq⟩
        · rw [hout] at hnew
          obtain ⟨e₁, -, heq⟩ := List.mem_map.mp hnew
          cases heq
          rw [hnone] at hsome
          cases hsome
        · rw [hout] at hnew
          obtain ⟨e₁, -, heq⟩ := List.mem_map.mp hnew
          cases heq
          rw [hnone] at hsome
          cases hsome
        · rw [heq] at hnew
          have hreplied := mem_replied hnew
          rw [← heq] at hreplied
          exact isReply_of_replied hinv' hreplied
        · rw [heq] at hnew
          cases hnew
  · exact absurd hP id

/-- **Whatever is on its way to a proposer is a reply**, in every run. The step lemma is
`Replying.happen` for a web server and `Replying.net` for the network; both need the invariant of
the demo before the step, which holds because fewer events still fit. -/
lemma replying_reach (h : (site app a₀ H).Reach Using s) (hfits : Fits app s) :
    Replying app a₀ H s.net := by
  revert hfits
  refine h.invariant (I := fun s => Fits app s → Replying app a₀ H s.net) ?_ ?_
  · intro _ e f hf
    cases hf
  · intro s a t hs ih hP hstep hfits
    have hbefore := hfits.earlier (events_grow hstep)
    obtain ⟨hinv, hforeign, hok⟩ := inv_of_reach hs hbefore
    obtain ⟨hinv', -⟩ := inv_of_reach (hs.step hP hstep) hfits
    rcases step_cases hstep with ⟨c, msg, -, rfl⟩ | ⟨b, net, rfl, hnet, ht⟩
    · exact (ih hbefore).happen c _
    · have heq := net_of_step ht
      rw [heq] at hinv' ⊢
      exact (ih hbefore).net hP hnet hinv hforeign hinv' (numbers_of_step hP hnet hinv hok hforeign)

/-! ## Answers -/

/-- `r` is what a server calls back with for request `j` of client `c`, when it executes the log.
The text is cut or filled to the 64 bytes of the reply, as the web server reads it. -/
def Result (app : Application σ Cmd) (a₀ : σ) (H : Hosts) (issued : List (Frame Rest)) (c : Fin 2)
    (j : ℕ) (r : Bytes) : Prop :=
  ∃ i text, (1 ≤ i ∧ i ≤ issued.length) ∧ (Bmv2.requests issued i).src = address H c ∧
    (Bmv2.requests issued i).req_id = j ∧
    Learner.textAt app a₀ (Bmv2.requests issued) i = some text ∧ r = padTo VALUE_SIZE text

/-- A result stays one when the log grows. -/
lemma Result.append {issued : List (Frame Rest)} {c : Fin 2} {j : ℕ} {r : Bytes}
    (h : Result app a₀ H issued c j r) (f' : Frame Rest) :
    Result app a₀ H (issued ++ [f']) c j r := by
  obtain ⟨i, text, ⟨h1, hi⟩, hsrc, hid, hres, hr⟩ := h
  refine ⟨i, text, ⟨h1, ?_⟩, ?_, ?_, ?_, hr⟩
  · rw [List.length_append]
    exact Nat.le_add_right_of_le hi
  · rw [requests_append f' h1 hi]
    exact hsrc
  · rw [requests_append f' h1 hi]
    exact hid
  · rw [← hres]
    exact Learner.textAt_congr app a₀ h1 fun j hj hle => requests_append f' hj (hle.trans hi)

/-- A result stays one in a step of the network. -/
lemma Result.numbers {net net' : Network.State (Demo σ Cmd) End (Frame Rest)} {c : Fin 2} {j : ℕ}
    {r : Bytes} (h : Result app a₀ H net.nodes.issued c j r) (hnumbers : Numbers net net') :
    Result app a₀ H net'.nodes.issued c j r := by
  rcases hnumbers with ⟨-, -, f', -, -, hissued, -⟩ | ⟨hissued, -⟩
  · rw [hissued]
    exact h.append f'
  · rwa [hissued]

/-- A reply to a proposer, as the switches parse it. -/
lemma replyFrame_eq {r : Fin 2} {q : Request} (hport : q.sport = PROPOSER_PORT) (text : Bytes) :
    replyFrame H r q text = ⟨H.mac (fromAcceptor r (H.route r)), H.arp q.src, none,
      ⟨some ⟨H.ip (fromAcceptor r (H.route r)), q.src, q.dport, q.sport⟩,
        beEncode 1 q.req_id ++ padTo VALUE_SIZE text⟩⟩ := by
  unfold replyFrame udpFrame
  rw [if_neg]
  show q.sport ≠ PAXOS_PROTOCOL
  rw [hport]
  decide

/-- What a proposer receives of a reply. -/
lemma received_replyFrame {c : Fin 2} {r : Fin 2} {q : Request} {text d : Bytes}
    (h : received H c (replyFrame H r q text) = some d) :
    q.src = address H c ∧ d = beEncode 1 q.req_id ++ padTo VALUE_SIZE text := by
  have hudp : (replyFrame H r q text).rest.udp = _ := udp_udpFrame _ _ _ _
  unfold received at h
  rw [hudp] at h
  dsimp only at h
  split_ifs at h with hto
  obtain ⟨-, hdst, hport⟩ := hto
  rw [replyFrame_eq hport] at h
  exact ⟨hdst, (Option.some_inj.mp h).symm⟩

/-- The datagram that comes in is in the first frame on the wire. -/
lemma incoming_eq {w : Wires End (Frame Rest)} {b : Network.Event End (Frame Rest)} {c : Fin 2}
    {d : Bytes} (h : incoming H w b = some (c, d)) :
    ∃ e f, b = .arrive e ∧ (w e).head? = some f ∧ clientAt e.1 = some c ∧ received H c f = some d := by
  cases b with
  | send e f => cases h
  | lose e => cases h
  | arrive e =>
      obtain ⟨f, hf, h⟩ := Option.bind_eq_some_iff.mp h
      obtain ⟨c', hc, h⟩ := Option.bind_eq_some_iff.mp h
      obtain ⟨d', hd, h⟩ := Option.bind_eq_some_iff.mp h
      cases h
      exact ⟨e, f, rfl, hf, hc, hd⟩

/-- **What comes in at a web server is a result.** It is a reply, and reading it gives back what was
written. What a web server reads came to a proposer's port, so it is no Paxos frame (those go to the
learners' port); then it is a reply, whose first byte is the request id and whose other 64 are the
text. -/
lemma result_of_incoming (hreplying : Replying app a₀ H s.net)
    (hinv : Inv app a₀ s.net.nodes (paxosAt s.net.wires) (submitted s.net))
    {b : Network.Event End (Frame Rest)} {c : Fin 2} {d : Bytes}
    (h : incoming H s.net.wires b = some (c, d)) :
    ∃ j r, Result app a₀ H s.net.nodes.issued c j r ∧ d = beEncode 1 j ++ r ∧
      r.length = VALUE_SIZE := by
  obtain ⟨e, f, rfl, hf, -, hreceived⟩ := incoming_eq h
  have hmem := List.mem_of_head? hf
  obtain ⟨u, hu, hport⟩ : ∃ u, f.rest.udp = some u ∧ u.dport = PROPOSER_PORT := by
    unfold received at hreceived
    rcases hu : f.rest.udp with _ | u
    · rw [hu] at hreceived
      cases hreceived
    · rw [hu] at hreceived
      dsimp only at hreceived
      split_ifs at hreceived with hto
      exact ⟨u, rfl, hto.2.2⟩
  have hnone : f.paxos = none := by
    rcases hp : f.paxos with _ | p
    · rfl
    · -- a Paxos frame goes to the learners' port
      obtain ⟨⟨u', hu', hport', -⟩, -⟩ := hinv.placed e f
        (List.mem_of_head? (paxosAt_take_of_some hf hp).2)
      rw [hu] at hu'
      cases hu'
      rw [hport] at hport'
      exact absurd hport' (by decide)
  obtain ⟨i, text, r, hi, hres, rfl⟩ := hreplying e f hmem hnone u hu hport
  obtain ⟨hsrc, rfl⟩ := received_replyFrame hreceived
  exact ⟨_, _, ⟨i, text, hi, hsrc, rfl, hres, rfl⟩, rfl, length_padTo _ _⟩

/-- The web servers answer with results, and with each that comes in. -/
structure Answered (app : Application σ Cmd) (a₀ : σ) (H : Hosts) (s : Site σ Cmd) : Prop where
  answers : ∀ c j r, (j, r) ∈ callbacks (s.effects c) → Result app a₀ H s.net.nodes.issued c j r
  heard : ∀ e c f d, (e, f) ∈ s.net.arrived → clientAt e.1 = some c → received H c f = some d →
    ∃ j r, j < 256 ∧ d.take 1 = beEncode 1 j ∧ (j, r) ∈ callbacks (s.effects c)

/-- The effects of an event at a web server are behind those before. -/
lemma effects_happen (c : Fin 2) (e : Event) (c' : Fin 2) :
    (s.happen H c e).effects c' = s.effects c' ++
      if c' = c then ((s.proposers c).handle e).2.1 else [] := by
  show Function.update s.effects c (s.effects c ++ ((s.proposers c).handle e).2.1) c' = _
  by_cases hc : c' = c
  · subst hc
    rw [Function.update_self, if_pos rfl]
  · rw [Function.update_of_ne hc, if_neg hc, List.append_nil]

/-- The callbacks are behind those before, too. -/
lemma callbacks_happen (c : Fin 2) (e : Event) (c' : Fin 2) :
    callbacks ((s.happen H c e).effects c') = callbacks (s.effects c') ++
      if c' = c then callbacks ((s.proposers c).handle e).2.1 else [] := by
  rw [effects_happen, Proposer.callbacks_append]
  congr 1
  split_ifs <;> rfl

/-- A request at a web server. It is answered by nothing yet. Submitting writes a datagram or
raises, and calls nothing back in either case. -/
lemma Answered.submit (h : Answered app a₀ H s) (c : Fin 2) (msg : Bytes) :
    Answered app a₀ H (s.happen H c (.submit msg)) := by
  have hcalls : ∀ c', callbacks ((s.happen H c (.submit msg)).effects c') =
      callbacks (s.effects c') := by
    intro c'
    have hnone : callbacks ((s.proposers c).handle (.submit msg)).2.1 = [] := by
      simp only [Proposer.handle]
      rcases (s.proposers c).submit_cases msg with ⟨-, -, datagram, -, he⟩ | ⟨-, he⟩ <;> rw [he] <;> rfl
    rw [callbacks_happen, hnone, ite_self, List.append_nil]
  constructor
  · intro c' j r hmem
    rw [hcalls] at hmem
    exact h.answers c' j r hmem
  · intro e c' f d harr hc hd
    rw [hcalls]
    exact h.heard e c' f d harr hc hd

/-- A step of the network in which nothing comes in at a web server. The frames that have come in
are those of before and, on an arrival, one more, which is not read by any proposer. -/
lemma Answered.net (h : Answered app a₀ H s) {b : Network.Event End (Frame Rest)}
    {net : Network.State (Demo σ Cmd) End (Frame Rest)}
    (hstep : (demo app a₀ H).machine.step s.net b = some net) (hnumbers : Numbers s.net net)
    (hin : incoming H s.net.wires b = none) : Answered app a₀ H { s with net := net } where
  answers c j r hmem := (h.answers c j r hmem).numbers hnumbers
  heard e c f d harr hc hd := by
    rcases Network.step_cases hstep with ⟨e', f', rfl, rfl⟩ | ⟨e', f', rfl, hf, rfl⟩ |
      ⟨e', f', rfl, -, rfl⟩
    · exact h.heard e c f d harr hc hd
    · rcases List.mem_append.mp harr with hold | hnew
      · exact h.heard e c f d hold hc hd
      · cases List.mem_singleton.mp hnew
        have hsome : incoming H s.net.wires (.arrive e) = some (c, d) := by
          simp only [incoming, hf, hc, hd, bind, Option.bind, pure]
        rw [hin] at hsome
        cases hsome
    · exact h.heard e c f d harr hc hd

/-- A step of the network in which a datagram comes in at a web server. The datagram is the result
of a request, and it is called back with, now or before. -/
lemma Answered.datagram (h : Answered app a₀ H s) {b : Network.Event End (Frame Rest)}
    {net : Network.State (Demo σ Cmd) End (Frame Rest)}
    (hstep : (demo app a₀ H).machine.step s.net b = some net) (hnumbers : Numbers s.net net)
    {c : Fin 2} {d : Bytes} (hin : incoming H s.net.wires b = some (c, d)) (htracks : Tracks H s)
    (hordered : Ordered H s) (hfits : Fits app s) (hreplying : Replying app a₀ H s.net)
    (hinv : Inv app a₀ s.net.nodes (paxosAt s.net.wires) (submitted s.net)) :
    Answered app a₀ H ({ s with net := net }.happen H c (.datagram d)) := by
  obtain ⟨j₀, r₀, hresult, rfl, hlen⟩ := result_of_incoming hreplying hinv hin
  obtain ⟨h1, hj₀⟩ : 1 ≤ j₀ ∧ j₀ ≤ submissions (eventsAt c s.events) := by
    obtain ⟨i, -, ⟨h1, hi⟩, hsrc, rfl, -⟩ := hresult
    exact submitted_of_log hordered htracks hfits h1 hi hsrc
  have hfew := hfits.few c
  obtain ⟨-, text, -, -, -, -, hr₀⟩ := id hresult
  have hrun := htracks.run c
  have hnodes : ({ s with net := net }.happen H c
      (.datagram (beEncode 1 j₀ ++ r₀))).net = net := happen_datagram_net c _
  constructor
  · intro c' j r hmem
    rw [hnodes]
    rw [callbacks_happen] at hmem
    rcases List.mem_append.mp hmem with hold | hnew
    · exact (h.answers c' j r hold).numbers hnumbers
    · split_ifs at hnew with hc
      · subst hc
        have hproposer : s.proposers c' = ((Proposer.new 0).run (eventsAt c' s.events)).1 := by
          rw [hrun]
        have hnew' : (j, r) ∈ callbacks (((Proposer.new 0).run (eventsAt c' s.events)).1.handle
            (.datagram (beEncode 1 j₀ ++ r₀))).2.1 := hproposer ▸ hnew
        obtain ⟨-, hj, d', heq, htake⟩ := Proposer.answered 0 (eventsAt c' s.events) _ hnew'
        cases heq
        rw [List.take_of_length_le (by rw [List.length_append, length_beEncode, hlen])] at htake
        obtain ⟨hid, rfl⟩ := List.append_inj htake (by rw [length_beEncode, length_beEncode])
        have hid' := congrArg beDecode hid
        rw [beDecode_beEncode_of_lt (by omega), beDecode_beEncode_of_lt (by omega)] at hid'
        rw [← hid']
        exact hresult.numbers hnumbers
      · cases hnew
  · intro e c' f d harr hc hd
    rw [hnodes] at harr
    obtain ⟨e₀, f₀, rfl, hf₀, hc₀, hd₀⟩ := incoming_eq hin
    rcases Network.step_cases hstep with ⟨e', f', heq, -⟩ | ⟨e', f', heq, hf, rfl⟩ |
      ⟨e', f', heq, -, -⟩
    · cases heq
    · cases heq
      rw [hf₀] at hf
      cases hf
      rw [callbacks_happen]
      rcases List.mem_append.mp harr with hold | hnew
      · obtain ⟨j, r, hlt, htake, hmem⟩ := h.heard e c' f d hold hc hd
        exact ⟨j, r, hlt, htake, List.mem_append_left _ hmem⟩
      · cases List.mem_singleton.mp hnew
        rw [hc₀] at hc
        cases hc
        rw [hd₀] at hd
        cases hd
        have hkeeps := Proposer.keeps_run (eventsAt c s.events) hfew
        rw [hrun] at hkeeps
        obtain ⟨r, hr⟩ := hkeeps.reply h1 hj₀ (by omega) text
        rw [Proposer.callbacks_append] at hr
        refine ⟨j₀, r, by omega, List.take_left' (length_beEncode 1 j₀), ?_⟩
        rw [if_pos rfl, hr₀]
        exact hr
    · cases heq

/-- **The web servers answer with results**, in every run. A datagram at a web server is the case
with content; it uses that the frames on their way to the proposers are replies, and in which order
the requests are numbered. -/
lemma answered_reach (hip : address H 0 ≠ address H 1) (h : (site app a₀ H).Reach Using s)
    (hfits : Fits app s) : Answered app a₀ H s := by
  revert hfits
  refine h.invariant (I := fun s => Fits app s → Answered app a₀ H s) ?_ ?_
  · intro _
    exact ⟨fun c j r hmem => absurd hmem List.not_mem_nil,
      fun e c f d harr => absurd harr List.not_mem_nil⟩
  · intro s a t hs ih hP hstep hfits
    have hbefore := hfits.earlier (events_grow hstep)
    obtain ⟨hinv, hforeign, hok⟩ := inv_of_reach hs hbefore
    rcases step_cases hstep with ⟨c, msg, -, rfl⟩ |
      ⟨b, net, rfl, hnet, ⟨hin, rfl⟩ | ⟨c, d, hin, rfl⟩⟩
    · exact (ih hbefore).submit c msg
    · exact (ih hbefore).net hnet (numbers_of_step hP hnet hinv hok hforeign) hin
    · exact (ih hbefore).datagram hnet (numbers_of_step hP hnet hinv hok hforeign) hin
        (tracks_reach hs) (ordered_reach hip hs hbefore) hbefore (replying_reach hs hbefore) hinv

/-! ## Real time -/

/-- A request that was submitted after another one was answered comes after it in the log. -/
def Timely (H : Hosts) (s : Site σ Cmd) : Prop :=
  ∀ pre post, s.events = pre ++ post →
    ∀ c j r, (j, r) ∈ callbacks ((Proposer.new 0).run (eventsAt c pre)).2 →
      ∀ i c', 1 ≤ i ∧ i ≤ s.net.nodes.issued.length →
        (Bmv2.requests s.net.nodes.issued i).src = address H c' →
        submissions (eventsAt c' pre) < (Bmv2.requests s.net.nodes.issued i).req_id →
        ∃ i', 1 ≤ i' ∧ i' < i ∧ (Bmv2.requests s.net.nodes.issued i').src = address H c ∧
          (Bmv2.requests s.net.nodes.issued i').req_id = j

/-- What was called back stays called back. -/
lemma Tracks.callbacks_before (h : Tracks H s) {pre post : List (Fin 2 × Event)}
    (hevents : s.events = pre ++ post) {c : Fin 2} {j : ℕ} {r : Bytes}
    (hmem : (j, r) ∈ callbacks ((Proposer.new 0).run (eventsAt c pre)).2) :
    (j, r) ∈ callbacks (s.effects c) := by
  have hrun := h.run c
  rw [hevents, eventsAt_append, Proposer.run_append] at hrun
  have heffects : _ = s.effects c := congrArg Prod.snd hrun
  rw [← heffects, Proposer.callbacks_append]
  exact List.mem_append_left _ hmem

/-- An event at a web server: a request that it submits is not in the log yet. Its number is higher
than those of the requests of its client in the log. -/
lemma Timely.happen (h : Timely H s) (htracks : Tracks H s) (hordered : Ordered H s)
    (hfits : Fits app s) (c₀ : Fin 2) (e : Event) : Timely H (s.happen H c₀ e) := by
  intro pre post hevents c j r hmem i c' hi hsrc hlate
  have hevents' : s.events ++ [(c₀, e)] = pre ++ post := hevents
  rcases post.eq_nil_or_concat with rfl | ⟨post', x, rfl⟩
  · rw [List.append_nil] at hevents'
    have hle : (Bmv2.requests s.net.nodes.issued i).req_id ≤ submissions (eventsAt c' s.events) :=
      (submitted_of_log hordered htracks hfits hi.1 hi.2 hsrc).2
    rw [← hevents', eventsAt_append, submissions_append] at hlate
    have hlate' : submissions (eventsAt c' s.events) + submissions (eventsAt c' [(c₀, e)]) <
      (Bmv2.requests s.net.nodes.issued i).req_id := hlate
    omega
  · rw [List.concat_eq_append, ← List.append_assoc] at hevents'
    obtain ⟨hevents'', -⟩ := List.append_inj' hevents' rfl
    exact h pre post' hevents'' c j r hmem i c' hi hsrc hlate

/-- A step of the network: a request that is numbered comes after those that were answered. They are
in the log, and have their places before it. -/
lemma Timely.net (h : Timely H s) (htracks : Tracks H s) (hanswered : Answered app a₀ H s)
    {net : Network.State (Demo σ Cmd) End (Frame Rest)} (hnumbers : Numbers s.net net) :
    Timely H { s with net := net } := by
  intro pre post hevents c j r hmem i c' hi hsrc hlate
  dsimp only at hevents hi hsrc hlate ⊢
  rcases hnumbers with ⟨-, -, f', -, -, hissued, -⟩ | ⟨hissued, -⟩
  · rw [hissued] at hi hsrc hlate ⊢
    rw [List.length_append, List.length_singleton] at hi
    by_cases hlt : i ≤ s.net.nodes.issued.length
    · rw [requests_append f' hi.1 hlt] at hsrc hlate
      obtain ⟨i', h1, hi', hsrc', hid'⟩ := h pre post hevents c j r hmem i c' ⟨hi.1, hlt⟩ hsrc hlate
      refine ⟨i', h1, hi', ?_⟩
      rw [requests_append f' h1 (by omega)]
      exact ⟨hsrc', hid'⟩
    · obtain ⟨i', -, ⟨h1, hi'⟩, hsrc', hid', -⟩ :=
        hanswered.answers c j r (htracks.callbacks_before hevents hmem)
      refine ⟨i', h1, by omega, ?_⟩
      rw [requests_append f' h1 hi']
      exact ⟨hsrc', hid'⟩
  · rw [hissued] at hi hsrc hlate ⊢
    exact h pre post hevents c j r hmem i c' hi hsrc hlate

/-- **The log respects real time**, in every run. Only a submission adds a pair of events to
compare, and only a step of the network adds a number; each has its own step lemma. -/
lemma timely_reach (hip : address H 0 ≠ address H 1) (h : (site app a₀ H).Reach Using s)
    (hfits : Fits app s) : Timely H s := by
  revert hfits
  refine h.invariant (I := fun s => Fits app s → Timely H s) ?_ ?_
  · intro _ pre post _ c j r _ i c' hi
    exact absurd (hi.1.trans hi.2) (Nat.not_succ_le_zero 0)
  · intro s a t hs ih hP hstep hfits
    have hbefore := hfits.earlier (events_grow hstep)
    obtain ⟨hinv, hforeign, hok⟩ := inv_of_reach hs hbefore
    have htracks := tracks_reach hs
    have hordered := ordered_reach hip hs hbefore
    have hanswered := answered_reach hip hs hbefore
    rcases step_cases hstep with ⟨c, msg, -, rfl⟩ | ⟨b, net, rfl, hnet, ht⟩
    · exact (ih hbefore).happen htracks hordered hbefore c _
    · have hnumbers := numbers_of_step hP hnet hinv hok hforeign
      have hnext := (ih hbefore).net htracks hanswered hnumbers
      rcases ht with ⟨-, rfl⟩ | ⟨c, d, -, rfl⟩
      · exact hnext
      · exact hnext.happen (htracks.net (submitted_of_step hP hnet)) (hordered.net hip hnumbers)
          ⟨hbefore.few, hbefore.accepts⟩ c _

/-! ## The site as one server -/

/-- The site is one server that executes the log. -/
structure Linear (app : Application σ Cmd) (a₀ : σ) (H : Hosts) (s : Site σ Cmd) : Prop where
  run : ∀ c, (Proposer.new 0).run (eventsAt c s.events) = (s.proposers c, s.effects c)
  order : ∀ c, (log s).filter (fun q => q.src = address H c) <+:
    requestsFrom H c (webRequests (eventsAt c s.events))
  owner : ∀ q ∈ log s, ∃ c, q.src = address H c
  answers : ∀ c j r, (j, r) ∈ callbacks (s.effects c) → Result app a₀ H s.net.nodes.issued c j r
  once : ∀ c, ((callbacks (s.effects c)).map Prod.fst).Nodup
  realtime : Timely H s

/-- Every request is in the log, and every result has been called back with. -/
structure Complete (app : Application σ Cmd) (a₀ : σ) (H : Hosts) (s : Site σ Cmd) : Prop where
  logged : ∀ c, (log s).filter (fun q => q.src = address H c) =
    requestsFrom H c (webRequests (eventsAt c s.events))
  answered : ∀ c j r, Result app a₀ H s.net.nodes.issued c j r → (j, r) ∈ callbacks (s.effects c)

/-- In every run. -/
lemma linear_reach (hip : address H 0 ≠ address H 1) (h : (site app a₀ H).Reach Using s)
    (hfits : Fits app s) : Linear app a₀ H s := by
  have htracks := tracks_reach h
  have hordered := ordered_reach hip h hfits
  refine ⟨htracks.run, fun c => ?_, hordered.owner, (answered_reach hip h hfits).answers,
    fun c => ?_, timely_reach hip h hfits⟩
  · rw [← htracks.requests (hfits.few c), ← hordered.order c]
    exact List.prefix_append _ _
  · have hwaits := Proposer.waits_run 0 (eventsAt c s.events)
    rw [htracks.run c] at hwaits
    exact hwaits.once

/-- What a client's request in the log looks like. -/
lemma Linear.entry (h : Linear app a₀ H s) {i : ℕ} (h1 : 1 ≤ i)
    (hi : i ≤ s.net.nodes.issued.length) {c : Fin 2}
    (hc : (Bmv2.requests s.net.nodes.issued i).src = address H c) :
    ∃ j msg, Bmv2.requests s.net.nodes.issued i = requestNumber H c j msg := by
  have hmem : Bmv2.requests s.net.nodes.issued i ∈ (log s).filter fun q => q.src = address H c :=
    List.mem_filter.mpr ⟨List.mem_of_getElem? (getElem?_log h1 hi), by simpa using hc⟩
  obtain ⟨⟨msg, j⟩, -, heq⟩ := List.mem_map.mp ((h.order c).subset hmem)
  exact ⟨j, msg, heq.symm⟩

/-- When nothing is on its way any more, the first replica's reply has come in at the client. It is
one of the frames that `demo_answers` counts. -/
lemma reply_arrived (h : (site app a₀ H).Reach Using s) (hfits : Fits app s)
    (hquiet : Network.Quiet s.net) {i : ℕ} (h1 : 1 ≤ i) (hi : i ≤ s.net.nodes.issued.length)
    {text : Bytes} (hres : Learner.textAt app a₀ (Bmv2.requests s.net.nodes.issued) i = some text)
    (hport : (Bmv2.requests s.net.nodes.issued i).sport = PROPOSER_PORT) (c : Fin 2) :
    ((client c, port 0), replyFrame H 0 (Bmv2.requests s.net.nodes.issued i) text) ∈
      s.net.arrived := by
  set x := replyFrame H 0 (Bmv2.requests s.net.nodes.issued i) text with hx
  obtain ⟨hinv, -⟩ := inv_of_reach h hfits
  have hnone : x.paxos = none := by
    rw [hx, replyFrame_eq hport]
  have ht : Interface (client c, port 0) := by
    revert c
    decide +kernel
  obtain ⟨e, he, hne⟩ : ∃ e, peer (fromAcceptor 0 (H.route 0)) = some e ∧
      peer (client c, port 0) ≠ some e := by
    generalize H.route 0 = a
    revert c a
    decide +kernel
  -- the reply is among what the first replica has sent
  obtain ⟨vs, hvs⟩ := hinv.replicas 0
  obtain ⟨k, hk⟩ := hvs.serves
  have hall : k = s.net.nodes.issued.length :=
    hvs.served_all (fun a => ⟨congrArg paxosOf (hquiet _), congrArg paxosOf (hquiet _)⟩) hk
  have hmem : (e, x) ∈ replied H s.net.nodes 0 := by
    refine List.mem_flatMap.mpr ⟨Learner.reply Cmd (Bmv2.requests s.net.nodes.issued i) text, ?_, ?_⟩
    · rw [hk.outs]
      exact Learner.respond_mem_served_iff.mpr ⟨i, text, h1, hall ▸ hi, hres, rfl⟩
    · refine List.mem_map.mpr ⟨e, ?_, rfl⟩
      rw [he]
      exact Option.mem_toList.mpr rfl
  have hpos : 0 < (replied H s.net.nodes 0).countP
      fun y => y.2 = x ∧ peer (client c, port 0) ≠ some y.1 :=
    List.countP_pos_iff.mpr ⟨(e, x), hmem, by simpa using hne⟩
  have hcount := arrived_eq (reach_net h) hquiet hnone ht
  rw [Fin.sum_univ_two] at hcount
  exact List.count_pos_iff.mp (by omega)

/-- Each client is on a host of its own. -/
lemma clientAt_client (c : Fin 2) : clientAt (client c) = some c := by
  revert c
  decide +kernel

/-- When nothing is on its way any more. The replies to all requests have come in. The log is
complete since no request waits on the links of the clients. A result that has a text was replied,
so its frame has come in and was read; the request it was matched with has the same client and the
same identifier, and there is one such request in the log. -/
lemma complete_reach (hip : address H 0 ≠ address H 1)
    (harp : ∀ c, H.arp (address H c) = H.mac (client c, port 0))
    (h : (site app a₀ H).Reach Using s) (hfits : Fits app s) (hquiet : Network.Quiet s.net) :
    Complete app a₀ H s := by
  have htracks := tracks_reach h
  have hordered := ordered_reach hip h hfits
  have hanswered := answered_reach hip h hfits
  have hlinear := linear_reach hip h hfits
  constructor
  · intro c
    have hempty : paxosAt s.net.wires (fromClient c) = [] := congrArg paxosOf (hquiet _)
    rw [← htracks.requests (hfits.few c), ← hordered.order c, hempty, List.map_nil, List.append_nil]
  · rintro c j r ⟨i, text, ⟨h1, hi⟩, hsrc, rfl, hres, rfl⟩
    obtain ⟨j', msg, hentry⟩ := hlinear.entry h1 hi hsrc
    have hport : (Bmv2.requests s.net.nodes.issued i).sport = PROPOSER_PORT := by rw [hentry]; rfl
    have hreceived : received H c (replyFrame H 0 (Bmv2.requests s.net.nodes.issued i) text) =
        some (beEncode 1 (Bmv2.requests s.net.nodes.issued i).req_id ++ padTo VALUE_SIZE text) := by
      unfold received
      rw [replyFrame_eq hport]
      dsimp only
      rw [if_pos ⟨by rw [hsrc, harp c], hsrc, hport⟩]
      rfl
    obtain ⟨k, r', hk, htake, hmem⟩ := hanswered.heard _ c _ _
      (reply_arrived h hfits hquiet h1 hi hres hport c) (clientAt_client c) hreceived
    -- the request that was answered then is this one
    have hid := (submitted_of_log hordered htracks hfits h1 hi hsrc).2
    have hfew := hfits.few c
    rw [List.take_left' (length_beEncode 1 _)] at htake
    have hkid := congrArg beDecode htake
    rw [beDecode_beEncode_of_lt (by omega), beDecode_beEncode_of_lt (by omega)] at hkid
    obtain ⟨i', text', hi', hsrc', hid', hres', rfl⟩ := hanswered.answers c k r' hmem
    obtain rfl : i' = i := place_unique hordered htracks hfits hi' ⟨h1, hi⟩ hsrc' hsrc
      (hid'.trans hkid.symm)
    rw [hres] at hres'
    cases hres'
    rwa [hkid]

end Site

open Site

/-- **The web servers are one server.** The clients' addresses are different, no frame is lost,
nobody but the web servers and the replicas sends Paxos datagrams or anything to a proposer's port,
and each web server, of which there is one or two, is asked at most 255 times for something the
application accepts. Then, in every run: the log has the requests of each web server in the order of
their submission; what a web server answers, once to a request, is the text of the result a server
has that executes the log, cut or filled up to the 64 bytes of the reply; and a request that was
submitted after another one was answered comes after it in the log. When nothing is on its way any
more, all requests are in the log, and all results that have a text have been answered. -/
theorem web_linearizable (app : Application σ Cmd) (a₀ : σ) (H : Hosts)
    (hip : address H 0 ≠ address H 1) (harp : ∀ c, H.arp (address H c) = H.mac (client c, port 0))
    (s : Site σ Cmd) (h : (site app a₀ H).Reach Using s) (hfits : Fits app s) :
    Linear app a₀ H s ∧ (Network.Quiet s.net → Complete app a₀ H s) :=
  ⟨linear_reach hip h hfits, complete_reach hip harp h hfits⟩

/-- A web request, and everything that comes in because of it. -/
def askedOnce (c : Fin 2) (msg : Bytes) : List Act :=
  .request c msg :: (fromClient c :: (targets (fromClient c) ++ (List.finRange 2).flatMap fun r =>
    (List.finRange 3).map (fromAcceptor r)) ++ repliesAt).map fun e => .net (.arrive e)

/-- Both web servers are asked for a number, one after the other, and both answer. The run is
computed, and the conditions of the theorem are read off its last state. -/
theorem web_linearizable_two : ∃ s : Site (List ℕ) ℕ,
    (site numbers [] hosts).Reach Using s ∧ Network.Quiet s.net ∧ (log s).length = 2 ∧
      (∀ c, (callbacks (s.effects c)).length = 1) ∧
      Linear numbers [] hosts s ∧ Complete numbers [] hosts s := by
  obtain ⟨s, hs, htest⟩ := Machine.Reach.of_exec (M := site numbers [] hosts) (P := Using)
    (askedOnce 0 [49] ++ askedOnce 1 [50]) (fun s => decide ((∀ e, s.net.wires e = []) ∧
      (log s).length = 2 ∧ (∀ c, (callbacks (s.effects c)).length = 1) ∧
      (∀ c, submissions (eventsAt c s.events) ≤ 255) ∧
      ∀ c, ∀ msg ∈ webRequests (eventsAt c s.events), msg = [49] ∨ msg = [50])) (by decide +kernel)
  obtain ⟨hquiet, hlog, hanswers, hfew, hasked⟩ := of_decide_eq_true htest
  have hfits : Fits numbers s := by
    refine ⟨hfew, fun c msg hmsg => ?_⟩
    rcases hasked c msg hmsg with rfl | rfl
    · exact Learner.accepts_of_loads (fun _ _ => rfl) ⟨1, by decide +kernel⟩
    · exact Learner.accepts_of_loads (fun _ _ => rfl) ⟨2, by decide +kernel⟩
  obtain ⟨hlinear, hcomplete⟩ :=
    web_linearizable numbers [] hosts (by decide) (fun c => rfl) s hs hfits
  exact ⟨s, hs, hquiet, hlog, hanswers, hlinear, hcomplete hquiet⟩

end P4xos.Bmv2
