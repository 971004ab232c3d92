import P4xos.P4v14.Header

/-!
# The Python side of the wire format

The scripts of `bmv2/scripts/paxoscore` build and read the datagrams with
`struct.Struct('>B H B B Q B 63s')`: the header's type, instance, round, vround and acceptor, and
then a request id byte and 63 characters in the place of the header's 64-byte value.

* `pack` and `unpack` are the two directions, with the errors of `struct`.
* `extract_paxos_pack`: what Python packs, a switch extracts; `unpack_emit`: what a switch emits,
  Python unpacks.
* `payload` is the message a learner reads out of a value field: the 63 characters without trailing
  tabs, line ends and zero bytes. `payload_valueField`: for a message that fits and does not end in
  such characters nothing is lost.
-/

namespace P4xos.Bmv2

open P4xos.Lib P4xos.P4v14

/-- The exceptions that occur in the scripts, by the name of their class. -/
inductive PyExc
  | KeyError
  | NameError
  | IndexError
  | ValueError
  | TypeError
  | AttributeError
  | StructError
  | AlreadyCalledError
  /-- `str` of a text with a character outside ASCII. -/
  | UnicodeEncodeError
  /-- The stack of the interpreter has no room for another call. -/
  | RuntimeError
  | Other
  deriving DecidableEq

/-- A `Deferred`, with the result it was called back with. It is made for one result. -/
structure Deferred (α : Type*) where
  result : Option α
  deriving DecidableEq

/-- A text of Python 2: a byte string, or a `unicode`. -/
inductive PyText
  | bytes (b : Bytes)
  | unicode (s : String)
  deriving DecidableEq

/-- `str(text)`: a byte string is itself, and a `unicode` is encoded as ASCII.
Source: `bmv2/scripts/paxoscore/learner.py` `respond` -/
def PyText.str : PyText → Except PyExc Bytes
  | .bytes b => .ok b
  | .unicode s =>
      if s.toList.all (fun c => c.toNat < 128) then .ok (s.toList.map fun c => UInt8.ofNat c.toNat)
      else .error .UnicodeEncodeError

/-- Source: `bmv2/scripts/paxoscore/learner.py` `VALUE_SIZE` -/
def VALUE_SIZE : ℕ := 64

/-- Source: `bmv2/scripts/paxoscore/learner.py` `PHASE_1A` -/
def PHASE_1A : ℕ := 1

/-- Source: `bmv2/scripts/paxoscore/learner.py` `PHASE_1B` -/
def PHASE_1B : ℕ := 2

/-- Source: `bmv2/scripts/paxoscore/learner.py` `PHASE_2A` -/
def PHASE_2A : ℕ := 3

/-- Source: `bmv2/scripts/paxoscore/learner.py` `PHASE_2B` -/
def PHASE_2B : ℕ := 4

/-! ## `struct.Struct('>B H B B Q B 63s')` -/

/-- The tuple of values that is packed or unpacked, in its order. -/
structure Fields where
  typ : ℕ
  inst : ℕ
  rnd : ℕ
  vrnd : ℕ
  acceptor_id : ℕ
  req_id : ℕ
  value : Bytes
  deriving DecidableEq

/-- The integers fit their formats `B`, `H`, `B`, `B`, `Q`, `B`. -/
def Fields.Fits (f : Fields) : Prop :=
  f.typ < 256 ∧ f.inst < 65536 ∧ f.rnd < 256 ∧ f.vrnd < 256 ∧ f.acceptor_id < 2 ^ 64 ∧
    f.req_id < 256

/-- Six comparisons. -/
instance (f : Fields) : Decidable f.Fits := inferInstanceAs (Decidable (_ ∧ _))

/-- The 64 bytes that follow the acceptor: the request id and the `63s` string, which is cut or
filled with zero bytes. The header's value field has as many. -/
def valueBytes (req_id : ℕ) (value : Bytes) : Bytes :=
  beEncode 1 req_id ++ padTo (VALUE_SIZE - 1) value

/-- As many as a value field has. -/
@[simp] lemma length_valueBytes (req_id : ℕ) (value : Bytes) :
    (valueBytes req_id value).length = 64 := by
  simp [valueBytes, VALUE_SIZE]

/-- `packer.pack(*values)`: `struct.error` when an integer does not fit its format.
Source: `bmv2/scripts/paxoscore/learner.py` `make_paxos`; `proposer.py` `submit` -/
def pack (f : Fields) : Except PyExc Bytes :=
  if f.Fits then
    .ok (beEncode 1 f.typ ++ (beEncode 2 f.inst ++ (beEncode 1 f.rnd ++ (beEncode 1 f.vrnd ++
      (beEncode 8 f.acceptor_id ++ valueBytes f.req_id f.value)))))
  else .error .StructError

/-- `packer.unpack(datagram[:packed_size])`: `struct.error` when the datagram is too short. What is
behind the header is not looked at.
Source: `bmv2/scripts/paxoscore/learner.py` `handle_pkt` -/
def unpack (datagram : Bytes) : Except PyExc Fields :=
  if datagram.length < PAXOS_LEN then .error .StructError
  else
    let (typ, b) := datagram.splitAt 1
    let (inst, b) := b.splitAt 2
    let (rnd, b) := b.splitAt 1
    let (vrnd, b) := b.splitAt 1
    let (acceptor_id, b) := b.splitAt 8
    let (req_id, b) := b.splitAt 1
    let (value, _) := b.splitAt (VALUE_SIZE - 1)
    .ok { typ := beDecode typ
          inst := beDecode inst
          rnd := beDecode rnd
          vrnd := beDecode vrnd
          acceptor_id := beDecode acceptor_id
          req_id := beDecode req_id
          value := value }

/-! ## Value fields -/

/-- The characters `'\\t\\r\\n\\0'`.
Source: `bmv2/scripts/paxoscore/learner.py` `handle_pkt` -/
def stripChars : Bytes := [9, 13, 10, 0]

/-- The 64 bytes of a value field. -/
def fieldBytes (v : BitVec 512) : Bytes := beEncode 64 v.toNat

/-- A field of 512 bits. -/
@[simp] lemma length_fieldBytes (v : BitVec 512) : (fieldBytes v).length = 64 := by
  simp [fieldBytes]

/-- The request id a learner reads out of a value field. It is the first byte. -/
def requestId (v : BitVec 512) : ℕ := beDecode ((fieldBytes v).take 1)

/-- The message a learner reads out of a value field, `value.rstrip('\\t\\r\\n\\0')`.
Source: `bmv2/scripts/paxoscore/learner.py` `handle_pkt` -/
def payload (v : BitVec 512) : Bytes := rstrip stripChars ((fieldBytes v).drop 1)

/-- The value field a switch extracts from packed bytes. -/
def valueField (req_id : ℕ) (value : Bytes) : BitVec 512 :=
  BitVec.ofNat 512 (beDecode (valueBytes req_id value))

/-- The switch extracts the bytes that were packed. -/
lemma fieldBytes_valueField (req_id : ℕ) (value : Bytes) :
    fieldBytes (valueField req_id value) = valueBytes req_id value :=
  beEncode_toNat_ofNat_beDecode rfl (length_valueBytes req_id value)

/-- The message in a packed value field is the packed string without the trailing characters. The
bytes that are filled in are among those stripped. -/
lemma payload_valueField (req_id : ℕ) (value : Bytes) :
    payload (valueField req_id value) = rstrip stripChars (padTo (VALUE_SIZE - 1) value) := by
  rw [payload, fieldBytes_valueField, valueBytes, List.drop_left' (length_beEncode 1 req_id)]

/-- A message that was read out of a value field survives being packed again. -/
lemma payload_valueField_payload (req_id : ℕ) (v : BitVec 512) :
    payload (valueField req_id (payload v)) = payload v := by
  have hlen : (payload v).length ≤ VALUE_SIZE - 1 := by
    refine (length_rstrip_le _ _).trans ?_
    simp [VALUE_SIZE]
  rw [payload_valueField, rstrip_padTo (by decide) hlen]
  exact rstrip_rstrip _ _

/-- A value field with a request id other than zero is not the initial content of a register. The
request id is the first byte of the field. -/
lemma valueField_ne_zero {req_id : ℕ} (h : 0 < req_id) (h' : req_id < 256) (value : Bytes) :
    valueField req_id value ≠ 0 := by
  intro hzero
  have hb : (UInt8.ofNat req_id) ≠ 0 := by
    intro h0
    have := congrArg UInt8.toNat h0
    simp at this
    omega
  have hhead : (fieldBytes 0).head? = (valueBytes req_id value).head? := by
    rw [← hzero, fieldBytes_valueField]
  have hfield : (fieldBytes 0).head? = some 0 := by
    rw [fieldBytes, BitVec.ofNat_eq_ofNat, BitVec.toNat_zero]
    rfl
  rw [hfield] at hhead
  simp only [valueBytes, beEncode, List.cons_append, List.head?_cons, Option.some.injEq, pow_zero,
    Nat.div_one] at hhead
  exact hb hhead.symm

/-! ## The two sides of the wire agree -/

/-- The header a switch extracts from packed fields. -/
def Fields.header (f : Fields) : PaxosT where
  msgtype := BitVec.ofNat 8 f.typ
  inst := BitVec.ofNat 16 f.inst
  round := BitVec.ofNat 8 f.rnd
  vround := BitVec.ofNat 8 f.vrnd
  acceptor := BitVec.ofNat 64 f.acceptor_id
  value := valueField f.req_id f.value

/-- What Python packs, a switch extracts. -/
theorem extract_paxos_pack {f : Fields} {b : Bytes} (h : pack f = .ok b) :
    f.Fits ∧ extract_paxos b = some (f.header, []) := by
  unfold pack at h
  split_ifs at h with hfits
  cases h
  obtain ⟨h₁, h₂, h₃, h₄, h₅, -⟩ := id hfits
  refine ⟨hfits, ?_⟩
  rw [← List.append_nil (valueBytes f.req_id f.value),
    extract_paxos_fields (by simp) (by simp) (by simp) (by simp) (by simp) (by simp),
    beDecode_beEncode_of_lt (by simpa using h₁), beDecode_beEncode_of_lt (by simpa using h₂),
    beDecode_beEncode_of_lt (by simpa using h₃), beDecode_beEncode_of_lt (by simpa using h₄),
    beDecode_beEncode_of_lt (by simpa using h₅)]
  rfl

/-- What Python packs, Python unpacks; the string comes back cut or filled with zero bytes. The
bytes are split at the lengths of the format, one field after the other, and each number fits its
field. -/
lemma unpack_pack {f : Fields} {b : Bytes} (h : pack f = .ok b) :
    unpack b = .ok { f with value := padTo (VALUE_SIZE - 1) f.value } := by
  unfold pack at h
  split_ifs at h with hfits
  cases h
  obtain ⟨h₁, h₂, h₃, h₄, h₅, h₆⟩ := hfits
  unfold unpack
  rw [if_neg (by simp [PAXOS_LEN]), valueBytes, ← List.append_nil (padTo (VALUE_SIZE - 1) f.value),
    splitAt_append (length_beEncode 1 _)]
  simp only
  rw [splitAt_append (length_beEncode 2 _)]
  simp only
  rw [splitAt_append (length_beEncode 1 _)]
  simp only
  rw [splitAt_append (length_beEncode 1 _)]
  simp only
  rw [splitAt_append (length_beEncode 8 _)]
  simp only
  rw [splitAt_append (length_beEncode 1 _)]
  simp only
  rw [splitAt_append (length_padTo (VALUE_SIZE - 1) f.value)]
  simp only [List.append_nil, beDecode_beEncode_of_lt (n := 1) (by simpa using h₁),
    beDecode_beEncode_of_lt (n := 2) (by simpa using h₂),
    beDecode_beEncode_of_lt (n := 1) (by simpa using h₃),
    beDecode_beEncode_of_lt (n := 1) (by simpa using h₄),
    beDecode_beEncode_of_lt (n := 8) (by simpa using h₅),
    beDecode_beEncode_of_lt (n := 1) (by simpa using h₆)]

/-- What a switch emits, Python unpacks. The header's fields are those of the format, with the first
byte of the value taken for the request id. -/
theorem unpack_emit (p : PaxosT) :
    unpack p.emit = .ok { typ := p.msgtype.toNat
                          inst := p.inst.toNat
                          rnd := p.round.toNat
                          vrnd := p.vround.toNat
                          acceptor_id := p.acceptor.toNat
                          req_id := requestId p.value
                          value := (fieldBytes p.value).drop 1 } := by
  have hval : beEncode 64 p.value.toNat =
      (fieldBytes p.value).take 1 ++ ((fieldBytes p.value).drop 1 ++ []) := by
    rw [List.append_nil, List.take_append_drop]
    rfl
  unfold unpack
  rw [if_neg (by simp [PAXOS_LEN]), PaxosT.emit, hval,
    splitAt_append (length_beEncode 1 _)]
  simp only
  rw [splitAt_append (length_beEncode 2 _)]
  simp only
  rw [splitAt_append (length_beEncode 1 _)]
  simp only
  rw [splitAt_append (length_beEncode 1 _)]
  simp only
  rw [splitAt_append (length_beEncode 8 _)]
  simp only
  rw [splitAt_append (show ((fieldBytes p.value).take 1).length = 1 by simp)]
  simp only
  rw [splitAt_append (show ((fieldBytes p.value).drop 1).length = VALUE_SIZE - 1 by
    simp [VALUE_SIZE])]
  have hb : ∀ x : BitVec 8, beDecode (beEncode 1 x.toNat) = x.toNat :=
    fun x => beDecode_beEncode_of_lt x.isLt
  simp only [hb, beDecode_beEncode_of_lt (n := 2) p.inst.isLt,
    beDecode_beEncode_of_lt (n := 8) p.acceptor.isLt, requestId]

end P4xos.Bmv2
