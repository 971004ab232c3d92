import P4xos.P4v14.Acceptor
import P4xos.P4v14.Coordinator
import P4xos.Bmv2.Proposer

/-!
# The client: what becomes of a request, and of its answers

`bmv2/scripts/httpServer.py` submits the arguments of a web request as JSON text, and waits on the
`Deferred` that `Proposer.submit` returns.

* `dumps` is `json.dumps` of a dictionary of arguments. It ends in a brace, so nothing is stripped
  at its end (`dumps_not_stripped`).
* `request_codec_iff`: a replica reads the text and the request id out of an acceptor's vote exactly
  if the text fits the 63 characters of the value field. On the way the coordinator and the acceptor
  leave the field as it is (`vote_value`).
* `handle` is one event at a client: a submission, or a datagram that comes in. `submit_cases` and
  `datagramReceived_cases` say everything it can do.
* `Waits` is the invariant of a client: its submissions are numbered, it keeps a `Deferred` for
  these only, and one that was called back keeps its result. `Waits.submit` and `Waits.datagram` are
  the steps, `waits_run` is the run.
* `answers_matched_iff`: every submission succeeds, and every answer reaches the submission it is
  for, exactly up to 255 submissions. The 256th id does not fit its byte.
-/

namespace P4xos.Bmv2

open P4xos.Lib P4xos.P4v14

/-! ## The text of a request -/

/-- A text, by its code points. -/
abbrev Text := List ℕ

/-- A value in `request.args`: the texts given for a name, or the text of the action.
Source: `bmv2/scripts/httpServer.py` `render_GET`, `render_POST` -/
inductive Argument
  | texts (values : List Text)
  | action (text : Text)

/-- A hexadecimal digit, in lower case. -/
def hexDigit (d : ℕ) : UInt8 := UInt8.ofNat (if d < 10 then 48 + d else 87 + d)

/-- `\\uXXXX` for a number of 16 bits. -/
def unicodeEscape (n : ℕ) : Bytes :=
  [92, 117, hexDigit (n / 4096 % 16), hexDigit (n / 256 % 16), hexDigit (n / 16 % 16),
    hexDigit (n % 16)]

/-- A character in a JSON text: itself, or escaped; above 16 bits by a surrogate pair. -/
def dumpsChar (c : ℕ) : Bytes :=
  if c = 34 then [92, 34]
  else if c = 92 then [92, 92]
  else if c = 8 then [92, 98]
  else if c = 9 then [92, 116]
  else if c = 10 then [92, 110]
  else if c = 12 then [92, 102]
  else if c = 13 then [92, 114]
  else if 32 ≤ c ∧ c ≤ 126 then [UInt8.ofNat c]
  else if c < 65536 then unicodeEscape c
  else unicodeEscape (55296 + (c - 65536) / 1024) ++ unicodeEscape (56320 + (c - 65536) % 1024)

/-- A text in quotes. -/
def dumpsText (t : Text) : Bytes := [34] ++ (t.flatMap dumpsChar ++ [34])

/-- A list of texts in brackets, or a text. -/
def dumpsArgument : Argument → Bytes
  | .texts values => [91] ++ ([44, 32].intercalate (values.map dumpsText) ++ [93])
  | .action text => dumpsText text

/-- `json.dumps(request.args)`; the items of the dictionary are given in the order in which it
iterates over them.
Source: `bmv2/scripts/httpServer.py` `render_GET`, `render_POST` -/
def dumps (args : List (Text × Argument)) : Bytes :=
  [123] ++ ([44, 32].intercalate
    (args.map fun item => dumpsText item.1 ++ [58, 32] ++ dumpsArgument item.2) ++ [125])

/-- A dictionary ends in a brace, which is not stripped. -/
lemma getLast?_dumps (args : List (Text × Argument)) : (dumps args).getLast? = some 125 := by
  unfold dumps
  rw [← List.append_assoc]
  exact List.getLast?_concat

/-- So no character at its end is. -/
lemma dumps_not_stripped (args : List (Text × Argument)) :
    ∀ b ∈ (dumps args).getLast?, b ∉ stripChars := by
  intro b hb
  rw [getLast?_dumps, Option.mem_some_iff] at hb
  subst hb
  decide

/-! ## From the proposer to a replica -/

/-- **Everything a submission can do**: count, and write the datagram and wait, if the round and the
request id fit their bytes. -/
lemma Proposer.submit_cases (P : Proposer) (msg : Bytes) :
    (P.rnd < 256 ∧ P.req_id + 1 < 256 ∧ ∃ datagram, pack (P.request msg) = .ok datagram ∧
      P.submit msg = (⟨P.rnd, P.req_id + 1, Function.update P.defers (P.req_id + 1) (some ⟨none⟩)⟩,
        .ok datagram)) ∨
    (¬ (P.rnd < 256 ∧ P.req_id + 1 < 256) ∧
      P.submit msg = (⟨P.rnd, P.req_id + 1, P.defers⟩, .error .StructError)) := by
  have hfits : (P.request msg).Fits ↔ P.rnd < 256 ∧ P.req_id + 1 < 256 := by
    simp [Fields.Fits, request, PHASE_2A]
  by_cases h : P.rnd < 256 ∧ P.req_id + 1 < 256
  · obtain ⟨datagram, hpack⟩ : ∃ datagram, pack (P.request msg) = .ok datagram := by
      unfold pack
      rw [if_pos (hfits.mpr h)]
      exact ⟨_, rfl⟩
    refine .inl ⟨h.1, h.2, datagram, hpack, ?_⟩
    simp only [submit, hpack]
  · have hpack : pack (P.request msg) = .error .StructError := by
      unfold pack
      rw [if_neg fun hf => h (hfits.mp hf)]
    refine .inr ⟨h, ?_⟩
    simp only [submit, hpack]

/-- The request id of a packed value field. -/
lemma requestId_valueField {req_id : ℕ} (h : req_id < 256) (value : Bytes) :
    requestId (valueField req_id value) = req_id := by
  rw [requestId, fieldBytes_valueField, valueBytes, List.take_left' (length_beEncode 1 req_id)]
  exact beDecode_beEncode_of_lt (by simpa using h)

/-- A message that ends in no stripped character is read back exactly if it fits. -/
lemma payload_valueField_iff (req_id : ℕ) {msg : Bytes} (h : ∀ b ∈ msg.getLast?, b ∉ stripChars) :
    payload (valueField req_id msg) = msg ↔ msg.length ≤ VALUE_SIZE - 1 := by
  rw [payload_valueField]
  constructor
  · intro hmsg
    calc msg.length = (rstrip stripChars (padTo (VALUE_SIZE - 1) msg)).length := by rw [hmsg]
      _ ≤ (padTo (VALUE_SIZE - 1) msg).length := length_rstrip_le _ _
      _ = VALUE_SIZE - 1 := length_padTo _ _
  · intro hlen
    rw [rstrip_padTo (by decide) hlen]
    exact rstrip_eq_self_iff.mpr h

/-- The vote of an acceptor for a request that the coordinator has numbered carries the request's
value field. -/
lemma vote_value {C : Coordinator} {A : Acceptor} {p q : PaxosT} (hp : p.msgtype = PAXOS_2A)
    (hq : (A.ingress (C.ingress p).2).2 = some q) :
    q.msgtype = PAXOS_2B ∧ q.value = p.value := by
  rw [Coordinator.ingress_request hp] at hq
  rw [Acceptor.ingress_2a rfl (Acceptor.ingress_out hq).2.2] at hq
  cases hq
  exact ⟨rfl, rfl⟩

/-- **The request codec.** Whatever the coordinator and the acceptor have stored, a replica reads
the submitted text and its request id out of the vote if and only if the text has at most 63 bytes.
-/
theorem request_codec_iff (P : Proposer) (args : List (Text × Argument)) (datagram rest : Bytes)
    (hsubmit : (P.submit (dumps args)).2 = .ok datagram) (C : Coordinator) (A : Acceptor)
    (p q : PaxosT) (hp : extract_paxos datagram = some (p, rest))
    (hq : (A.ingress (C.ingress p).2).2 = some q) :
    q.msgtype = PAXOS_2B ∧ ∃ f, unpack (q.emit.take PAXOS_LEN) = .ok f ∧
      (rstrip stripChars f.value = dumps args ∧ f.req_id = P.req_id + 1 ↔
        (dumps args).length ≤ VALUE_SIZE - 1) := by
  obtain ⟨hextract, h2a, -⟩ := Proposer.submit_header hsubmit
  rw [hp] at hextract
  cases hextract
  obtain ⟨h2b, hvalue⟩ := vote_value h2a hq
  have hid : P.req_id + 1 < 256 := by
    rcases P.submit_cases (dumps args) with ⟨-, hid, -⟩ | ⟨-, he⟩
    · exact hid
    · rw [he] at hsubmit
      cases hsubmit
  have htake : q.emit.take PAXOS_LEN = q.emit := List.take_of_length_le (PaxosT.length_emit q).le
  refine ⟨h2b, _, by rw [htake, unpack_emit], ?_⟩
  have hpayload := payload_valueField_iff (P.req_id + 1) (dumps_not_stripped args)
  have hreq := requestId_valueField hid (dumps args)
  dsimp only
  rw [hvalue]
  exact ⟨fun h => hpayload.mp h.1, fun h => ⟨hpayload.mpr h, hreq⟩⟩

/-- The arguments of a get. -/
def getArgs (key : Text) : List (Text × Argument) :=
  [([97, 99, 116, 105, 111, 110], .action [103, 101, 116]), ([107, 101, 121], .texts [key])]

/-- The first vote for the first request of a client. -/
def firstVote (args : List (Text × Argument)) : Option PaxosT :=
  ((Acceptor.init 1).ingress (Coordinator.init.ingress ((Proposer.new 0).request
    (dumps args)).header).2).2

/-- The first request of a client is submitted. -/
lemma submit_first (args : List (Text × Argument)) : ∃ datagram,
    ((Proposer.new 0).submit (dumps args)).2 = .ok datagram ∧
      extract_paxos datagram = some (((Proposer.new 0).request (dumps args)).header, []) := by
  rcases (Proposer.new 0).submit_cases (dumps args) with ⟨-, -, datagram, hpack, he⟩ | ⟨hnot, -⟩
  · exact ⟨datagram, by rw [he], (extract_paxos_pack hpack).2⟩
  · exact absurd ⟨by decide, by decide⟩ hnot

/-- A get with a short key is read back. -/
theorem request_codec_short : ∃ q, firstVote (getArgs [120]) = some q ∧
    ∃ f, unpack (q.emit.take PAXOS_LEN) = .ok f ∧
      rstrip stripChars f.value = dumps (getArgs [120]) ∧ f.req_id = 1 := by
  obtain ⟨datagram, hsubmit, hextract⟩ := submit_first (getArgs [120])
  obtain ⟨q, hq⟩ : ∃ q, firstVote (getArgs [120]) = some q :=
    Option.isSome_iff_exists.mp (by decide +kernel)
  obtain ⟨-, f, hf, hiff⟩ := request_codec_iff (Proposer.new 0) (getArgs [120]) datagram []
    hsubmit Coordinator.init (Acceptor.init 1) _ q hextract hq
  exact ⟨q, hq, f, hf, hiff.mpr (by decide +kernel)⟩

/-- A get with a key of 34 letters is 64 bytes long, and loses its last one. The packet is followed
through the coordinator and an acceptor, and what the replica unpacks is shorter than what was
submitted. -/
theorem request_codec_long : ¬ ∀ (P : Proposer) (args : List (Text × Argument))
    (datagram rest : Bytes), (P.submit (dumps args)).2 = .ok datagram →
    ∀ (C : Coordinator) (A : Acceptor) (p q : PaxosT), extract_paxos datagram = some (p, rest) →
    (A.ingress (C.ingress p).2).2 = some q → ∃ f, unpack (q.emit.take PAXOS_LEN) = .ok f ∧
      rstrip stripChars f.value = dumps args ∧ f.req_id = P.req_id + 1 := by
  intro h
  set args := getArgs (List.replicate 34 97) with hargs
  obtain ⟨datagram, hsubmit, hextract⟩ := submit_first args
  obtain ⟨q, hq⟩ : ∃ q, firstVote args = some q := Option.isSome_iff_exists.mp (by decide +kernel)
  obtain ⟨f, hf, hmsg, -⟩ := h (Proposer.new 0) args datagram [] hsubmit Coordinator.init
    (Acceptor.init 1) _ q hextract hq
  rw [List.take_of_length_le (PaxosT.length_emit q).le, unpack_emit, Except.ok.injEq] at hf
  rw [← hf, (vote_value rfl hq).2] at hmsg
  have hlen : (dumps args).length ≤ VALUE_SIZE - 1 :=
    (payload_valueField_iff 1 (dumps_not_stripped args)).mp hmsg
  exact absurd hlen (by decide +kernel)

/-! ## Answers -/

/-- Call a `Deferred` back.
Source: `bmv2/scripts/paxoscore/proposer.py` `datagramReceived`; a second call raises -/
def Deferred.callback {α : Type*} (d : Deferred α) (result : α) : Except PyExc (Deferred α) :=
  match d.result with
  | none => .ok ⟨some result⟩
  | some _ => .error .AlreadyCalledError

/-- What a client does to the outside. -/
inductive Effect
  /-- A datagram is written to the learners' group. -/
  | write (datagram : Bytes)
  /-- The `Deferred` that the submission with this request id returned is called back. -/
  | callback (req_id : ℕ) (result : Bytes)
  deriving DecidableEq

/-- The callbacks. -/
def callbacks (effects : List Effect) : List (ℕ × Bytes) :=
  effects.filterMap fun
    | .callback req_id result => some (req_id, result)
    | .write _ => none

/-- The request ids in the datagrams that are written, as they are unpacked. -/
def wireIds (effects : List Effect) : List ℕ :=
  effects.filterMap fun
    | .write datagram => (unpack datagram).toOption.map Fields.req_id
    | .callback _ _ => none

/-- Something happens to a client: a web request is submitted, or a datagram arrives. -/
inductive Event
  | submit (msg : Bytes)
  | datagram (datagram : Bytes)

/-- The number of submissions. -/
def submissions (es : List Event) : ℕ :=
  es.countP fun
    | .submit _ => true
    | .datagram _ => false

namespace Proposer

/-- `packer.unpack` with the format `B 64s`, and the lookup in the table.
Source: `bmv2/scripts/paxoscore/proposer.py` `datagramReceived` -/
def datagramReceived (P : Proposer) (datagram : Bytes) :
    Proposer × List Effect × Except PyExc Unit :=
  let unpacked_data := datagram.take (1 + VALUE_SIZE)
  if unpacked_data.length < 1 + VALUE_SIZE then (P, [], .error .StructError)
  else
    let req_id := beDecode (unpacked_data.take 1)
    let result := unpacked_data.drop 1
    match P.defers req_id with
    | none => (P, [], .error .KeyError)
    | some d =>
        match d.callback result with
        | .ok d =>
            ({ P with defers := Function.update P.defers req_id (some d) },
              [.callback req_id result], .ok ())
        | .error e =>
            if e = .AlreadyCalledError then (P, [], .ok ()) else (P, [], .error e)

/-- One event. -/
def handle (P : Proposer) : Event → Proposer × List Effect × Except PyExc Unit
  | .submit msg =>
      match P.submit msg with
      | (P, .ok datagram) => (P, [.write datagram], .ok ())
      | (P, .error e) => (P, [], .error e)
  | .datagram datagram => P.datagramReceived datagram

/-- A client under a sequence of events. An exception ends the event it occurs in, not the client.
Source: none: the reactor of Twisted calls `submit` and `datagramReceived` -/
def run (P : Proposer) : List Event → Proposer × List Effect
  | [] => (P, [])
  | e :: es => ((run (P.handle e).1 es).1, (P.handle e).2.1 ++ (run (P.handle e).1 es).2)

/-- Events that come later are handled later. -/
lemma run_append (P : Proposer) (es es' : List Event) :
    P.run (es ++ es') =
      (((P.run es).1.run es').1, (P.run es).2 ++ ((P.run es).1.run es').2) := by
  induction es generalizing P with
  | nil => rfl
  | cons e es ih =>
      rw [List.cons_append, run, ih, run]
      simp

/-- The last event is handled in the state the others led to. -/
lemma run_concat (P : Proposer) (es : List Event) (e : Event) :
    P.run (es ++ [e]) =
      (((P.run es).1.handle e).1, (P.run es).2 ++ ((P.run es).1.handle e).2.1) := by
  rw [run_append]
  simp [run]

/-! ## One event -/

/-- What is packed is what the switch that extracts it would emit. -/
lemma pack_eq_emit {f : Fields} {b : Bytes} (h : pack f = .ok b) : b = f.header.emit := by
  unfold pack at h
  split_ifs at h with hfits
  cases h
  obtain ⟨h₁, h₂, h₃, h₄, h₅, -⟩ := hfits
  have hvalue : beEncode 64 (valueField f.req_id f.value).toNat = valueBytes f.req_id f.value :=
    fieldBytes_valueField f.req_id f.value
  simp only [PaxosT.emit, Fields.header, hvalue, BitVec.toNat_ofNat, Nat.mod_eq_of_lt h₁,
    Nat.mod_eq_of_lt h₂, Nat.mod_eq_of_lt h₃, Nat.mod_eq_of_lt h₄, Nat.mod_eq_of_lt h₅]

/-- A submission that returns writes its request id. -/
lemma wireIds_request {P : Proposer} {msg datagram : Bytes}
    (h : pack (P.request msg) = .ok datagram)
    (hid : P.req_id + 1 < 256) : wireIds [.write datagram] = [P.req_id + 1] := by
  have hreq : requestId (P.request msg).header.value = P.req_id + 1 := requestId_valueField hid msg
  simp only [wireIds, pack_eq_emit h, List.filterMap_cons, List.filterMap_nil, unpack_emit, hreq]
  rfl

/-- **Everything a datagram can do**: nothing, or call back the `Deferred` that waits for it. The
first byte is the identifier; a datagram that is too short, an identifier that was not given, and
one that was answered before do nothing. -/
lemma datagramReceived_cases (P : Proposer) (datagram : Bytes) :
    ((P.datagramReceived datagram).1 = P ∧ (P.datagramReceived datagram).2.1 = []) ∨
    ∃ k r, datagram.take (1 + VALUE_SIZE) = beEncode 1 k ++ r ∧ P.defers k = some ⟨none⟩ ∧
      P.datagramReceived datagram =
        (⟨P.rnd, P.req_id, Function.update P.defers k (some ⟨some r⟩)⟩, [.callback k r], .ok ()) := by
  unfold datagramReceived
  dsimp only
  split_ifs with hlen
  · exact .inl ⟨rfl, rfl⟩
  · set unpacked_data := datagram.take (1 + VALUE_SIZE) with hu
    set k := beDecode (unpacked_data.take 1) with hk
    rcases hd : P.defers k with _ | ⟨_ | result⟩
    · exact .inl ⟨rfl, rfl⟩
    · refine .inr ⟨k, unpacked_data.drop 1, ?_, hd, rfl⟩
      have hone : (unpacked_data.take 1).length = 1 := by
        rw [List.length_take]
        omega
      have hid := beEncode_beDecode (unpacked_data.take 1)
      rw [hone] at hid
      rw [hk, hid, List.take_append_drop]
    · exact .inl ⟨rfl, rfl⟩

/-! ## Runs -/

/-- The callbacks of two sequences, one after the other. -/
@[simp] lemma callbacks_append (effects effects' : List Effect) :
    callbacks (effects ++ effects') = callbacks effects ++ callbacks effects' :=
  List.filterMap_append

/-- The request ids of two sequences, one after the other. -/
@[simp] lemma wireIds_append (effects effects' : List Effect) :
    wireIds (effects ++ effects') = wireIds effects ++ wireIds effects' := List.filterMap_append

/-- The last event may be a submission. -/
lemma submissions_concat (es : List Event) (e : Event) :
    submissions (es ++ [e]) = submissions es + submissions [e] := List.countP_append

/-- **The invariant** of a client after the events `es`, in which it did `effects`: the submissions
are numbered, a `Deferred` is kept for submissions only, and one that was called back keeps its
result. -/
structure Waits (rnd : ℕ) (es : List Event) (P : Proposer) (effects : List Effect) : Prop where
  rnd : P.rnd = rnd
  req_id : P.req_id = submissions es
  defers : ∀ k d, P.defers k = some d → 1 ≤ k ∧ k ≤ submissions es
  called : ∀ k r, (k, r) ∈ callbacks effects → P.defers k = some ⟨some r⟩
  once : ((callbacks effects).map Prod.fst).Nodup

/-- A new client waits for nothing. -/
lemma waits_new (rnd : ℕ) : Waits rnd [] (new rnd) [] :=
  ⟨rfl, rfl, nofun, nofun, List.nodup_nil⟩

section step

variable {rnd : ℕ} {es : List Event} {P : Proposer} {effects : List Effect}

/-- A submission. Its `Deferred` has no result yet. A submission that returns puts a `Deferred`
under the next request id, which no earlier one has. One that raises has counted the id, and puts
none. -/
lemma Waits.submit (h : Waits rnd es P effects) (msg : Bytes) :
    Waits rnd (es ++ [.submit msg]) (P.handle (.submit msg)).1
      (effects ++ (P.handle (.submit msg)).2.1) := by
  have hcount : submissions (es ++ [.submit msg]) = submissions es + 1 := submissions_concat es _
  have hkeep : ∀ k d, P.defers k = some d → 1 ≤ k ∧ k ≤ submissions es + 1 := fun k d hd =>
    ⟨(h.defers k d hd).1, (h.defers k d hd).2.trans (Nat.le_succ _)⟩
  have hreq : P.req_id + 1 = submissions es + 1 := by rw [h.req_id]
  rcases P.submit_cases msg with ⟨-, -, datagram, -, he⟩ | ⟨-, he⟩ <;> simp only [handle, he]
  · have hcalls : callbacks (effects ++ [.write datagram]) = callbacks effects := by
      rw [callbacks_append]
      exact List.append_nil _
    refine ⟨h.rnd, by rw [hcount, hreq], fun k d hd => ?_, fun k r hk => ?_, hcalls ▸ h.once⟩
    · rw [hcount]
      dsimp only at hd
      by_cases hnew : k = P.req_id + 1
      · omega
      · rw [Function.update_of_ne hnew] at hd
        exact hkeep k d hd
    · -- the new `Deferred` does not replace one that was called back
      rw [hcalls] at hk
      have hold := h.called k r hk
      have hne : k ≠ P.req_id + 1 := by
        have hle := (h.defers k _ hold).2
        omega
      dsimp only
      rw [Function.update_of_ne hne]
      exact hold
  · rw [List.append_nil]
    exact ⟨h.rnd, by rw [hcount, hreq], fun k d hd => hcount ▸ hkeep k d hd, h.called, h.once⟩

/-- A datagram. At most one `Deferred` gets its result. It gets it only if it was waiting, so it has
not been called back before. -/
lemma Waits.datagram (h : Waits rnd es P effects) (datagram : Bytes) :
    Waits rnd (es ++ [.datagram datagram]) (P.handle (.datagram datagram)).1
      (effects ++ (P.handle (.datagram datagram)).2.1) := by
  have hcount : submissions (es ++ [.datagram datagram]) = submissions es := submissions_concat es _
  simp only [handle]
  rcases P.datagramReceived_cases datagram with ⟨hP, heffects⟩ | ⟨k, r, -, hwaits, he⟩
  · rw [hP, heffects, List.append_nil]
    exact ⟨h.rnd, by rw [hcount, h.req_id], fun k d hd => hcount ▸ h.defers k d hd, h.called, h.once⟩
  · rw [he]
    have hcalls : callbacks (effects ++ [.callback k r]) = callbacks effects ++ [(k, r)] :=
      callbacks_append effects _
    have hnew : k ∉ (callbacks effects).map Prod.fst := by
      intro hk
      obtain ⟨⟨k', r'⟩, hmem, rfl⟩ := List.mem_map.mp hk
      rw [h.called k' r' hmem] at hwaits
      cases hwaits
    refine ⟨h.rnd, by rw [hcount]; exact h.req_id, fun j d hd => ?_, fun j r' hj => ?_, ?_⟩
    · rw [hcount]
      dsimp only at hd
      by_cases hjk : j = k
      · exact hjk ▸ h.defers k _ hwaits
      · rw [Function.update_of_ne hjk] at hd
        exact h.defers j d hd
    · rw [hcalls] at hj
      dsimp only
      rcases List.mem_append.mp hj with hj | hj
      · have hjk : j ≠ k := fun heq => hnew (heq ▸ List.mem_map_of_mem (f := Prod.fst) hj)
        rw [Function.update_of_ne hjk]
        exact h.called j r' hj
      · cases List.mem_singleton.mp hj
        exact Function.update_self _ _ _
    · rw [hcalls, List.map_append]
      exact List.Nodup.append h.once (List.nodup_singleton _) (by simpa using hnew)

end step

/-- **The invariant holds in every run.** By induction on the events. -/
lemma waits_run (rnd : ℕ) (es : List Event) :
    Waits rnd es ((new rnd).run es).1 ((new rnd).run es).2 := by
  induction es using List.reverseRecOn with
  | nil => exact waits_new rnd
  | append_singleton es e ih =>
      rw [run_concat]
      cases e with
      | submit msg => exact ih.submit msg
      | datagram datagram => exact ih.datagram datagram

/-- When a submission returns. -/
lemma handle_submit_ok_iff (P : Proposer) (msg : Bytes) :
    (P.handle (.submit msg)).2.2 = .ok () ↔ P.rnd < 256 ∧ P.req_id + 1 < 256 := by
  rcases P.submit_cases msg with ⟨hrnd, hid, datagram, -, he⟩ | ⟨hnot, he⟩ <;> simp only [handle, he]
  · exact iff_of_true trivial ⟨hrnd, hid⟩
  · exact iff_of_false nofun hnot

/-- The request ids on the wire count the submissions, as long as they fit their byte. By induction
on the events: a submission writes its own number, which is one more than those before, and a
datagram writes nothing. -/
lemma wireIds_run (rnd : ℕ) (es : List Event)
    (h : submissions es = 0 ∨ rnd < 256 ∧ submissions es ≤ 255) :
    wireIds ((new rnd).run es).2 = List.range' 1 (submissions es) := by
  induction es using List.reverseRecOn with
  | nil => rfl
  | append_singleton es e ih =>
      have hwaits := waits_run rnd es
      rw [submissions_concat] at h ⊢
      rw [run_concat, wireIds_append, ih (by omega)]
      cases e with
      | submit msg =>
          have hone : submissions [.submit msg] = 1 := rfl
          rw [hone] at h ⊢
          rcases ((new rnd).run es).1.submit_cases msg with ⟨-, hid, datagram, hpack, he⟩ | ⟨hnot, -⟩
          · simp only [handle, he]
            rw [wireIds_request hpack hid, hwaits.req_id, List.range'_concat, Nat.one_mul,
              Nat.add_comm 1]
          · rw [hwaits.rnd, hwaits.req_id] at hnot
            exact absurd (by omega) hnot
      | datagram datagram =>
          have hnone : wireIds (((new rnd).run es).1.handle (.datagram datagram)).2.1 = [] := by
            simp only [handle]
            rcases ((new rnd).run es).1.datagramReceived_cases datagram with
              ⟨-, heffects⟩ | ⟨k, r, -, -, he⟩
            · rw [heffects]
              rfl
            · rw [he]
              rfl
          rw [hnone, List.append_nil]
          rfl

/-- **Requests and answers match**: every submission returns; the request ids on the wire are the
numbers of the submissions; no `Deferred` is called back twice; and one is called back by a datagram
that carries its request id and the result, after its submission. -/
structure Matched (rnd : ℕ) (es : List Event) : Prop where
  submits : ∀ pre msg post, es = pre ++ .submit msg :: post →
    (((new rnd).run pre).1.handle (.submit msg)).2.2 = .ok ()
  wire : wireIds ((new rnd).run es).2 = List.range' 1 (submissions es)
  once : ((callbacks ((new rnd).run es).2).map Prod.fst).Nodup
  answered : ∀ pre e post, es = pre ++ e :: post →
    ∀ k r, (k, r) ∈ callbacks (((new rnd).run pre).1.handle e).2.1 →
      1 ≤ k ∧ k ≤ submissions pre ∧
        ∃ datagram, e = .datagram datagram ∧ datagram.take (1 + VALUE_SIZE) = beEncode 1 k ++ r

/-- Whatever is called back was submitted before, and is answered. Only a datagram calls back, and
only an identifier that waits, which is one of those given so far. -/
lemma answered (rnd : ℕ) (pre : List Event) (e : Event) {k : ℕ} {r : Bytes}
    (h : (k, r) ∈ callbacks (((new rnd).run pre).1.handle e).2.1) :
    1 ≤ k ∧ k ≤ submissions pre ∧
      ∃ datagram, e = .datagram datagram ∧ datagram.take (1 + VALUE_SIZE) = beEncode 1 k ++ r := by
  cases e with
  | submit msg =>
      simp only [handle] at h
      rcases ((new rnd).run pre).1.submit_cases msg with ⟨-, -, datagram, -, he⟩ | ⟨-, he⟩ <;>
        rw [he] at h <;> cases h
  | datagram datagram =>
      simp only [handle] at h
      rcases ((new rnd).run pre).1.datagramReceived_cases datagram with
        ⟨-, heffects⟩ | ⟨k', r', htake, hwaits, he⟩
      · rw [heffects] at h
        cases h
      · rw [he] at h
        cases List.mem_singleton.mp h
        obtain ⟨hpos, hle⟩ := (waits_run rnd pre).defers k _ hwaits
        exact ⟨hpos, hle, datagram, rfl, htake⟩

/-- If anything was submitted, there is a last submission. -/
lemma exists_last_submission {es : List Event} (h : submissions es ≠ 0) :
    ∃ pre msg post, es = pre ++ .submit msg :: post ∧ submissions es = submissions pre + 1 := by
  induction es using List.reverseRecOn with
  | nil => exact absurd rfl h
  | append_singleton es e ih =>
      cases e with
      | submit msg => exact ⟨es, msg, [], rfl, submissions_concat es _⟩
      | datagram datagram =>
          have hcount : submissions (es ++ [.datagram datagram]) = submissions es :=
            submissions_concat es _
          rw [hcount] at h
          obtain ⟨pre, msg, post, rfl, hlast⟩ := ih h
          exact ⟨pre, msg, post ++ [.datagram datagram], by simp, hcount.trans hlast⟩

/-- **Requests and answers match exactly up to 255 submissions**, by a proposer whose id fits its
byte, whatever datagrams come. -/
theorem answers_matched_iff (rnd : ℕ) (es : List Event) :
    Matched rnd es ↔ submissions es = 0 ∨ rnd < 256 ∧ submissions es ≤ 255 := by
  constructor
  · intro h
    by_cases hzero : submissions es = 0
    · exact .inl hzero
    · obtain ⟨pre, msg, post, rfl, hlast⟩ := exists_last_submission hzero
      have hok := h.submits pre msg post rfl
      rw [handle_submit_ok_iff, (waits_run rnd pre).rnd, (waits_run rnd pre).req_id] at hok
      exact .inr ⟨hok.1, by omega⟩
  · intro h
    refine ⟨?_, ?_, (waits_run rnd es).once, fun pre e post _ k r hk => answered rnd pre e hk⟩
    · rintro pre msg post rfl
      have hcount : submissions (pre ++ .submit msg :: post) =
          submissions pre + (submissions post + 1) := by
        simp [submissions, List.countP_append]
      rw [handle_submit_ok_iff, (waits_run rnd pre).rnd, (waits_run rnd pre).req_id]
      omega
    · exact wireIds_run rnd es h

/-- The datagram with which a replica answers, as `Learner.respond` packs it. -/
def answer (req_id : ℕ) (result : Bytes) : Event :=
  .datagram (beEncode 1 req_id ++ padTo VALUE_SIZE result)

/-- Two submissions, answered in the other order, and once more. -/
example : (callbacks ((new 0).run [.submit [49], .submit [50], answer 2 [98], answer 1 [97],
    answer 2 [99]]).2).map (fun call => (call.1, call.2.head?)) = [(2, some 98), (1, some 97)] := by
  decide +kernel

/-- The 256th submission of the web server's proposer raises. -/
theorem answers_not_matched : ¬ ∀ es, Matched 0 es := by
  intro h
  set pre := List.replicate 255 (Event.submit []) with hpre
  have hok := (h (pre ++ [.submit []])).submits pre [] [] rfl
  have hcount : submissions pre = 255 := by decide +kernel
  rw [handle_submit_ok_iff, (waits_run 0 pre).req_id, hcount] at hok
  exact absurd hok.2 (by decide)

end Proposer

end P4xos.Bmv2
