import Mathlib
import P4xos.Lib.Wire

/-!
# The Paxos header of the P4-14 switches

`p4src/includes/paxos_headers.p4` and `paxos_parser.p4`: the header that clients, coordinator,
acceptors and learners exchange on UDP port `0x8888`, and its layout on the wire. All six fields are
whole bytes, most significant byte first, 77 bytes together. The value of a request is the last
field and has a fixed width of 64 bytes; there is no field for its length.

* `PaxosT.emit` is the deparser's image of a header, `extract_paxos` the parser's `extract(paxos)`,
  which fails on a datagram that is too short.
* `extract_paxos_fields`: any record with fields of these widths is extracted, whatever wrote it.
  The hosts write theirs with `struct.pack`.
* `extract_paxos_emit`: what one switch emits the next one extracts, with the bytes behind it.

The message types are those of the four messages of a round. The P4-14 programs never write any
other, but a packet may come with any.
-/

namespace P4xos.P4v14

open P4xos.Lib

/-! ## Message types -/

/-- Prepare.
Source: `p4src/includes/paxos_headers.p4` `PAXOS_1A` -/
def PAXOS_1A : BitVec 8 := 1

/-- Promise.
Source: `p4src/includes/paxos_headers.p4` `PAXOS_1B` -/
def PAXOS_1B : BitVec 8 := 2

/-- Accept; also what a client sends as its request.
Source: `p4src/includes/paxos_headers.p4` `PAXOS_2A` -/
def PAXOS_2A : BitVec 8 := 3

/-- Accepted.
Source: `p4src/includes/paxos_headers.p4` `PAXOS_2B` -/
def PAXOS_2B : BitVec 8 := 4

/-- The number of cells of the per-instance registers.
Source: `p4src/paxos_acceptor.p4` `INSTANCE_COUNT` -/
def INSTANCE_COUNT : ℕ := 65536

/-! ## The header -/

/-- The Paxos header; `inst` is the source's `instance`.
Source: `p4src/includes/paxos_headers.p4` `paxos_t` -/
@[ext] structure PaxosT where
  /-- The message type. -/
  msgtype : BitVec 8
  /-- The instance number. -/
  inst : BitVec 16
  /-- The round number. -/
  round : BitVec 8
  /-- The round in which an acceptor cast a vote. -/
  vround : BitVec 8
  /-- The acceptor id is the datapath (switch) id. -/
  acceptor : BitVec 64
  /-- The value the acceptor voted for: 64 bytes. -/
  value : BitVec 512
  deriving DecidableEq

/-- An instance number of the header is always inside the per-instance registers. -/
lemma PaxosT.inst_lt (p : PaxosT) : p.inst.toNat < INSTANCE_COUNT := p.inst.isLt

/-! ## The wire format -/

/-- The number of bytes of the header. -/
def PAXOS_LEN : ℕ := 77

/-- The header on the wire. -/
def PaxosT.emit (p : PaxosT) : Bytes :=
  beEncode 1 p.msgtype.toNat ++ (beEncode 2 p.inst.toNat ++ (beEncode 1 p.round.toNat ++
    (beEncode 1 p.vround.toNat ++ (beEncode 8 p.acceptor.toNat ++ beEncode 64 p.value.toNat))))

/-- A header is emitted with all its bytes. -/
@[simp] lemma PaxosT.length_emit (p : PaxosT) : p.emit.length = PAXOS_LEN := by
  simp [PaxosT.emit, PAXOS_LEN]

/-- `extract(paxos)`: the header in front of a datagram and what follows it; a datagram that is too
short is a parser error.
Source: `p4src/includes/paxos_parser.p4` `parse_paxos` -/
def extract_paxos (b : Bytes) : Option (PaxosT × Bytes) :=
  if b.length < PAXOS_LEN then none
  else
    let (msgtype, b) := b.splitAt 1
    let (inst, b) := b.splitAt 2
    let (round, b) := b.splitAt 1
    let (vround, b) := b.splitAt 1
    let (acceptor, b) := b.splitAt 8
    let (value, b) := b.splitAt 64
    some ({ msgtype := BitVec.ofNat 8 (beDecode msgtype)
            inst := BitVec.ofNat 16 (beDecode inst)
            round := BitVec.ofNat 8 (beDecode round)
            vround := BitVec.ofNat 8 (beDecode vround)
            acceptor := BitVec.ofNat 64 (beDecode acceptor)
            value := BitVec.ofNat 512 (beDecode value) }, b)

/-- A record of the header's six fields, whatever wrote it, is extracted field by field. The bytes
are split at the fields' lengths, one after the other. -/
lemma extract_paxos_fields {f₁ f₂ f₃ f₄ f₅ f₆ rest : Bytes} (h₁ : f₁.length = 1)
    (h₂ : f₂.length = 2) (h₃ : f₃.length = 1) (h₄ : f₄.length = 1) (h₅ : f₅.length = 8)
    (h₆ : f₆.length = 64) :
    extract_paxos (f₁ ++ (f₂ ++ (f₃ ++ (f₄ ++ (f₅ ++ (f₆ ++ rest)))))) =
      some ({ msgtype := BitVec.ofNat 8 (beDecode f₁)
              inst := BitVec.ofNat 16 (beDecode f₂)
              round := BitVec.ofNat 8 (beDecode f₃)
              vround := BitVec.ofNat 8 (beDecode f₄)
              acceptor := BitVec.ofNat 64 (beDecode f₅)
              value := BitVec.ofNat 512 (beDecode f₆) }, rest) := by
  have hlen : ¬ (f₁ ++ (f₂ ++ (f₃ ++ (f₄ ++ (f₅ ++ (f₆ ++ rest)))))).length < PAXOS_LEN := by
    simp only [List.length_append, PAXOS_LEN]
    omega
  unfold extract_paxos
  rw [if_neg hlen, splitAt_append h₁]
  simp only [splitAt_append h₂, splitAt_append h₃, splitAt_append h₄, splitAt_append h₅,
    splitAt_append h₆]

/-- What a switch emits, the next one extracts. What stands behind the header is kept. -/
theorem extract_paxos_emit (p : PaxosT) (rest : Bytes) :
    extract_paxos (p.emit ++ rest) = some (p, rest) := by
  simp only [PaxosT.emit, List.append_assoc]
  rw [extract_paxos_fields (by simp) (by simp) (by simp) (by simp) (by simp) (by simp)]
  simp only [ofNat_beDecode_beEncode (n := 1) rfl, ofNat_beDecode_beEncode (n := 2) rfl,
    ofNat_beDecode_beEncode (n := 8) rfl, ofNat_beDecode_beEncode (n := 64) rfl]

end P4xos.P4v14
