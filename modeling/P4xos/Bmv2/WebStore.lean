import P4xos.Bmv2.Linear

/-!
# The web servers as a key-value store

With the database of `bmv2/scripts/backend.py` behind the replicas, the site is a key-value store: a
web request that is a put writes, and one that is a get is answered with what was put last.

* `responses` are the web responses. A response has what fits the value field of the reply, without
  the characters at its end that are stripped (`responseText`).
* `Place`: the place of a request in the log.
* `WebStore` is what the users get in every state reached. Every response has the text of what a
  store answers that executes the log (`sound`); there is none where `str` raises (`silent`); and a
  get that was submitted after a put of its key was answered has the value of that put, or of a
  later one (`fresh`). `Settled` adds what holds when nothing is on its way any more.
* `web_store` is the result. It follows from `Linear`, the site being one server, and from the
  database being a store (`resultAt_database`, `textAt_database`).
-/

namespace P4xos.Bmv2

open P4xos.Lib P4xos.P4v14 Node Site

/-- The web responses, by the numbers of their requests. -/
def responses (effects : List Effect) : List (ℕ × Bytes) :=
  (callbacks effects).map fun x => (x.1, waitResponse x.2)

/-- A web response has what fits the value field of the reply, without the characters that are
stripped. -/
def responseText (text : Bytes) : Bytes := rstrip stripChars (text.take VALUE_SIZE)

/-- What was filled in is stripped again. -/
lemma waitResponse_padTo (text : Bytes) :
    waitResponse (padTo VALUE_SIZE text) = responseText text := by
  have hpad : padTo VALUE_SIZE text = padTo VALUE_SIZE (text.take VALUE_SIZE) := by
    unfold padTo
    rw [List.take_take, Nat.min_self, List.length_take]
    congr 2
    omega
  rw [waitResponse, hpad, rstrip_padTo (by decide) (List.length_take_le _ _)]
  rfl

/-- Request `j` of client `c` has place `i` in the log. -/
structure Place {σ Cmd : Type*} (H : Hosts) (s : Site σ Cmd) (c : Fin 2) (j i : ℕ) : Prop where
  pos : 1 ≤ i
  le : i ≤ s.net.nodes.issued.length
  src : (requests s.net.nodes.issued i).src = address H c
  req_id : (requests s.net.nodes.issued i).req_id = j

/-- The site is a key-value store. -/
structure WebStore (loads : Bytes → Except PyExc Json) (text : Json → Bytes) (H : Hosts)
    (s : Site SimpleDatabase Json) : Prop where
  /-- Every response has the text of what a store answers that executes the log. -/
  sound : ∀ c j body, (j, body) ∈ responses (s.effects c) →
    ∃ i res b, Place H s c j i ∧ Answers loads text (requests s.net.nodes.issued) i res ∧
      res.str = .ok b ∧ body = responseText b
  /-- A request has no response if `str` raises on what the store answers. -/
  silent : ∀ c j i res e, Place H s c j i → Answers loads text (requests s.net.nodes.issued) i res →
    res.str = .error e → ∀ body, (j, body) ∉ responses (s.effects c)
  /-- A get that was submitted after a put of its key was answered does not miss it. -/
  fresh : ∀ pre post, s.events = pre ++ post →
    ∀ c₀ j₀ r₀, (j₀, r₀) ∈ callbacks ((Proposer.new 0).run (eventsAt c₀ pre)).2 →
    ∀ i₀ k v₀, Place H s c₀ j₀ i₀ → opAt loads (requests s.net.nodes.issued) i₀ = some (.put k v₀) →
    ∀ c j i, Place H s c j i → submissions (eventsAt c pre) < j →
      opAt loads (requests s.net.nodes.issued) i = some (.get k) →
      ∃ i' v, i₀ ≤ i' ∧ i' < i ∧ writeAt loads (requests s.net.nodes.issued) i' = some (k, v) ∧
        Answers loads text (requests s.net.nodes.issued) i (SimpleDatabase.format text v)

/-- The users have got everything they asked for: every request has its place, and every answer that
has a text has been given. -/
structure Settled (loads : Bytes → Except PyExc Json) (text : Json → Bytes) (H : Hosts)
    (s : Site SimpleDatabase Json) : Prop where
  placed : ∀ c j, 1 ≤ j → j ≤ submissions (eventsAt c s.events) → ∃ i, Place H s c j i
  given : ∀ c j i res b, Place H s c j i →
    Answers loads text (requests s.net.nodes.issued) i res → res.str = .ok b →
      (j, responseText b) ∈ responses (s.effects c)

section store

variable {loads : Bytes → Except PyExc Json} {text : Json → Bytes} {depth : ℕ} {H : Hosts}
  {s : Site SimpleDatabase Json}

/-- The responses of a web server are those of a store. -/
lemma sound_of_linear
    (h : Linear (simpleDatabase loads text depth) SimpleDatabase.new H s) {c : Fin 2} {j : ℕ}
    {body : Bytes} (hmem : (j, body) ∈ responses (s.effects c)) :
    ∃ i res b, Place H s c j i ∧ Answers loads text (requests s.net.nodes.issued) i res ∧
      res.str = .ok b ∧ body = responseText b := by
  obtain ⟨⟨j, r⟩, hcall, heq⟩ := List.mem_map.mp hmem
  cases heq
  obtain ⟨i, b, ⟨h1, hi⟩, hsrc, hid, htext, rfl⟩ := h.answers c j r hcall
  obtain ⟨res, hanswers, hstr⟩ := textAt_database.mp htext
  exact ⟨i, res, b, ⟨h1, hi, hsrc, hid⟩, hanswers, hstr, waitResponse_padTo b⟩

/-- A get behind a put of its key has a value that was put then or later. It is the last one before
the get. -/
lemma answers_of_put {R : ℕ → Request} {i₀ i : ℕ} {k : Key} {v₀ : Json} (h1 : 1 ≤ i₀) (hlt : i₀ < i)
    (hput : opAt loads R i₀ = some (.put k v₀)) (hget : opAt loads R i = some (.get k)) :
    ∃ i' v, i₀ ≤ i' ∧ i' < i ∧ writeAt loads R i' = some (k, v) ∧
      Answers loads text R i (SimpleDatabase.format text v) := by
  have hwrite : writeAt loads R i₀ = some (k, v₀) := by
    rw [writeAt, hput]
  rcases stored_cases (writeAt loads R) (i - 1) k with ⟨v, -, hlast⟩ | ⟨-, hnone⟩
  · obtain ⟨i', h1', hi', hw, hafter⟩ := id hlast
    refine ⟨i', v, ?_, by omega, hw, .get hget hlast⟩
    by_contra hbefore
    exact hafter i₀ (by omega) (by omega) v₀ hwrite
  · exact absurd hwrite (hnone i₀ h1 (by omega) v₀)

/-- When everything is in the log, every request has its place. The log has the requests of each web
server in their order, so the `j`-th is at some index of it. -/
lemma placed_of_complete {app : Application SimpleDatabase Json} {a₀ : SimpleDatabase}
    (h : Complete app a₀ H s) {c : Fin 2} {j : ℕ} (h1 : 1 ≤ j)
    (hj : j ≤ submissions (eventsAt c s.events)) : ∃ i, Place H s c j i := by
  rw [← length_webRequests] at hj
  obtain ⟨msg, hmsg⟩ : ∃ msg, (webRequests (eventsAt c s.events))[j - 1]? = some msg :=
    ⟨_, List.getElem?_eq_getElem (by omega)⟩
  have hmem : requestNumber H c j msg ∈ requestsFrom H c (webRequests (eventsAt c s.events)) :=
    List.mem_map.mpr ⟨(msg, j), List.mk_mem_zipIdx_iff_le_and_getElem?_sub.mpr ⟨h1, hmsg⟩, rfl⟩
  rw [← h.logged c] at hmem
  obtain ⟨hlog, -⟩ := List.mem_filter.mp hmem
  obtain ⟨i, hi⟩ := List.mem_iff_getElem?.mp hlog
  have hlen : i < s.net.nodes.issued.length := by
    have hlt := (List.getElem?_eq_some_iff.mp hi).1
    rwa [log, List.length_map] at hlt
  have hget : (log s)[i + 1 - 1]? = some (requests s.net.nodes.issued (i + 1)) :=
    getElem?_log (Nat.le_add_left 1 i) hlen
  rw [Nat.add_sub_cancel, hi, Option.some_inj] at hget
  exact ⟨i + 1, Nat.le_add_left 1 i, hlen, by rw [← hget]; rfl, by rw [← hget]; rfl⟩

/-- **The site is a key-value store.** Under the conditions of one server, with requests that the
database executes: every web response has the text of what a store answers that executes the log, in
which each web server's requests are in their order, and there is none to a get of a value that
`str` raises on; a get that was submitted after a put of its key was answered reads the value of
that put or of a later one; and when nothing is on its way any more, every web request whose answer
has a text has got it. -/
theorem web_store (loads : Bytes → Except PyExc Json) (text : Json → Bytes) (depth : ℕ) (H : Hosts)
    (hip : address H 0 ≠ address H 1) (harp : ∀ c, H.arp (address H c) = H.mac (client c, port 0))
    (s : Site SimpleDatabase Json)
    (h : (site (simpleDatabase loads text depth) SimpleDatabase.new H).Reach Using s)
    (hfits : Fits (simpleDatabase loads text depth) s) :
    WebStore loads text H s ∧ (Network.Quiet s.net → Settled loads text H s) := by
  have hlinear := linear_reach hip h hfits
  have hunique : ∀ {c j i i'}, Place H s c j i → Place H s c j i' → i = i' := by
    intro c j i i' hplace hplace'
    exact place_unique (ordered_reach hip h hfits) (tracks_reach h) hfits ⟨hplace.pos, hplace.le⟩
      ⟨hplace'.pos, hplace'.le⟩ hplace.src hplace'.src (hplace.req_id.trans hplace'.req_id.symm)
  constructor
  · refine ⟨fun c j body hmem => sound_of_linear hlinear hmem, ?_, ?_⟩
    · intro c j i res e hplace hanswers hraises body hmem
      obtain ⟨i', res', b, hplace', hanswers', hstr, -⟩ := sound_of_linear hlinear hmem
      obtain rfl := hunique hplace' hplace
      rw [hanswers.unique hanswers', hstr] at hraises
      cases hraises
    · intro pre post hevents c₀ j₀ r₀ hcall i₀ k v₀ hplace₀ hput c j i hplace hlate hget
      obtain ⟨i', h1, hlt, hsrc, hid⟩ := hlinear.realtime pre post hevents c₀ j₀ r₀ hcall i c
        ⟨hplace.pos, hplace.le⟩ hplace.src (hplace.req_id ▸ hlate)
      obtain rfl : i' = i₀ := hunique ⟨h1, hlt.le.trans hplace.le, hsrc, hid⟩ hplace₀
      exact answers_of_put h1 hlt hput hget
  · intro hquiet
    have hcomplete := complete_reach hip harp h hfits hquiet
    refine ⟨fun c j h1 hj => placed_of_complete hcomplete h1 hj, ?_⟩
    intro c j i res b hplace hanswers hstr
    have hcall : (j, padTo VALUE_SIZE b) ∈ callbacks (s.effects c) :=
      hcomplete.answered c j _ ⟨i, b, ⟨hplace.pos, hplace.le⟩, hplace.src, hplace.req_id,
        textAt_database.mpr ⟨res, hanswers, hstr⟩, rfl⟩
    exact List.mem_map.mpr ⟨_, hcall, by rw [waitResponse_padTo]⟩

end store

/-- The web request that puts a value under a key. -/
def putArgs (key value : Text) : List (Text × Argument) :=
  [([97, 99, 116, 105, 111, 110], .action [112, 117, 116]), ([107, 101, 121], .texts [key]),
    ([118, 97, 108, 117, 101], .texts [value])]

/-- `json.loads`, on the text of a put and of a get. -/
def loadsDemo (b : Bytes) : Except PyExc Json :=
  if b = dumps (putArgs [97] [49]) then
    .ok (.obj [("action", .str "put"), ("key", .arr [.str "a"]), ("value", .arr [.str "1"])])
  else if b = dumps (getArgs [97]) then .ok (.obj [("action", .str "get"), ("key", .arr [.str "a"])])
  else .error .ValueError

/-- A put at one web server, and then a get at the other one. The run is computed, and so are the
texts of the two commands as the replicas parse them. -/
theorem web_store_get : ∃ s : Site SimpleDatabase Json,
    (site (simpleDatabase loadsDemo noneText recursionLimit) SimpleDatabase.new hosts).Reach Using s ∧
      Network.Quiet s.net ∧ responses (s.effects 1) = [(1, [49])] ∧
      WebStore loadsDemo noneText hosts s ∧ Settled loadsDemo noneText hosts s := by
  obtain ⟨s, hs, htest⟩ := Machine.Reach.of_exec
    (M := site (simpleDatabase loadsDemo noneText recursionLimit) SimpleDatabase.new hosts) (P := Using)
    (askedOnce 0 (dumps (putArgs [97] [49])) ++ askedOnce 1 (dumps (getArgs [97])))
    (fun s => decide ((∀ e, s.net.wires e = []) ∧ responses (s.effects 1) = [(1, [49])] ∧
      (∀ c, submissions (eventsAt c s.events) ≤ 255) ∧
      ∀ c, ∀ msg ∈ webRequests (eventsAt c s.events),
        msg = dumps (putArgs [97] [49]) ∨ msg = dumps (getArgs [97]))) (by decide +kernel)
  obtain ⟨hquiet, hresponse, hfew, hasked⟩ := of_decide_eq_true htest
  have hfits : Fits (simpleDatabase loadsDemo noneText recursionLimit) s := by
    refine ⟨hfew, fun c msg hmsg => ?_⟩
    have hput : rstrip stripChars (padTo (VALUE_SIZE - 1) (dumps (putArgs [97] [49]))) =
        dumps (putArgs [97] [49]) := by decide +kernel
    have hget : rstrip stripChars (padTo (VALUE_SIZE - 1) (dumps (getArgs [97]))) =
        dumps (getArgs [97]) := by decide +kernel
    rcases hasked c msg hmsg with rfl | rfl
    · exact accepts_of_executes ⟨_, by rw [hput]; exact if_pos rfl, rfl⟩
    · refine accepts_of_executes
        ⟨.obj [("action", .str "get"), ("key", .arr [.str "a"])], ?_, rfl⟩
      rw [hget]
      exact (if_neg (by decide +kernel)).trans (if_pos rfl)
  obtain ⟨hstore, hsettled⟩ :=
    web_store loadsDemo noneText recursionLimit hosts (by decide) (fun c => rfl) s hs hfits
  exact ⟨s, hs, hquiet, hresponse, hstore, hsettled hquiet⟩

end P4xos.Bmv2
