import P4xos.Bmv2.Codec

/-!
# The client side: submitting a request

`Proposer` of `bmv2/scripts/paxoscore/proposer.py`: a request becomes a 2A datagram for instance 0
that carries the next request id, for the coordinator to number.

* `submit_header`: the header a switch extracts from a submitted datagram. Its value field is never
  the initial content of a register, because request ids start from 1.
-/

namespace P4xos.Bmv2

open P4xos.Lib P4xos.P4v14

/-- `defers` is the table of those who wait.
Source: `bmv2/scripts/paxoscore/proposer.py` `Proposer` -/
structure Proposer where
  rnd : ℕ
  req_id : ℕ
  defers : ℕ → Option (Deferred Bytes)

namespace Proposer

/-- No request was made.
Source: `bmv2/scripts/paxoscore/proposer.py` `Proposer.__init__` -/
def new (proposer_id : ℕ) : Proposer where
  rnd := proposer_id
  req_id := 0
  defers _ := none

/-- The tuple that is packed for a request. The instance is left to the coordinator. -/
def request (P : Proposer) (msg : Bytes) : Fields where
  typ := PHASE_2A
  inst := 0
  rnd := P.rnd
  vrnd := P.rnd
  acceptor_id := 0
  req_id := P.req_id + 1
  value := msg

/-- The state after submitting a request, and the datagram that is written; `struct.error` when the
request id or the round has outgrown its byte.
Source: `bmv2/scripts/paxoscore/proposer.py` `submit` -/
def submit (P : Proposer) (msg : Bytes) : Proposer × Except PyExc Bytes :=
  let values := P.request msg
  let P := { P with req_id := P.req_id + 1 }
  match pack values with
  | .error e => (P, .error e)
  | .ok packed_data =>
      ({ P with defers := Function.update P.defers P.req_id (some ⟨none⟩) }, .ok packed_data)

/-- **The header of a submitted request**: a 2A whose value field is not zero. -/
lemma submit_header {P : Proposer} {msg datagram : Bytes} (h : (P.submit msg).2 = .ok datagram) :
    extract_paxos datagram = some ((P.request msg).header, []) ∧
      (P.request msg).header.msgtype = PAXOS_2A ∧ (P.request msg).header.value ≠ 0 := by
  have hpack : pack (P.request msg) = .ok datagram := by
    unfold submit at h
    cases hp : pack (P.request msg) with
    | error e => simp [hp] at h
    | ok b => simpa [hp] using h
  obtain ⟨hfits, hextract⟩ := extract_paxos_pack hpack
  refine ⟨hextract, rfl, ?_⟩
  exact valueField_ne_zero (Nat.succ_pos P.req_id) hfits.2.2.2.2.2 msg

end Proposer

end P4xos.Bmv2
