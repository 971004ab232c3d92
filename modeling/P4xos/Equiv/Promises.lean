import P4xos.Dpdk.Frame
import P4xos.Equiv.Capacity
import P4xos.P4v16.Switch

/-!
# Promises of the P4-16 acceptor, read by the DPDK recovery code

A value is a length and bytes in the DPDK programs. The acceptor switch stores 32 bytes of it and no
length; its promise is the request with some fields replaced, so the length in it, and the bytes
behind the 32, are the request's own.

* `send_cases`: what a frame of `add_paxos_message` does at the switch. A frame whose value has
  fewer than 22 bytes is not parsed as Paxos, and does nothing.
* `Stores` is what the registers keep of the last vote, along any run (`Stores.handle`,
  `Stores.after`).
* `value_of_promise`: the bytes the recovery code reads from a promise. They are cut from the 32
  that the switch stored, to the length of the request, and followed by the request's own.
* `promise_conveys_iff`: they are the value voted for exactly when the request carried a value of
  the same length with the same bytes behind the first 32.

The runs are of frames that `add_paxos_message` builds, for any instance inside the registers; the
entry for `set_drop = 0` sends the answers to the port of the recovery code.
-/

namespace P4xos.Equiv.Promises

open P4xos.Lib P4xos.Dpdk
open P4v16 (Acceptor TopParser PaxosT verifyChecksum INSTANCE_COUNT)
open P4v16.Acceptor (Transport switch init promise accept answer1b)

/-! ## Frames at the switch -/

/-- A frame of `add_paxos_message` at the switch. The frame is what the buffer holds after the call.
-/
def handle (T : BitVec 1 → Transport) (A : Acceptor) (x : Send) :
    Acceptor × Option (BitVec 9 × Bytes) := switch T A x.frame

/-- The reply it gets, if its packet asks for one. The reply is what `Switch16` makes of the packet
that leaves. -/
def replyTo (T : BitVec 1 → Transport) (A : Acceptor) (x : Send) : Option (Reply ℕ) :=
  (TopParser x.frame).bind fun q => (Switch16.step T A ⟨q.hdr, verifyChecksum q.hdr⟩).2

/-- The frame is a 2A for instance `i`, and is answered. -/
def VotedFor (T : BitVec 1 → Transport) (A : Acceptor) (i : ℕ) (x : Send) : Prop :=
  ∃ r v, replyTo T A x = some (.accepted i r v)

/-- The frame is a 1A for instance `i`, and is answered. -/
def Promised (T : BitVec 1 → Transport) (A : Acceptor) (i : ℕ) (x : Send) : Prop :=
  ∃ r vr v, replyTo T A x = some (.promise i r vr v)

section

variable {T : BitVec 1 → Transport} {port : BitVec 4} {learnerPort : BitVec 16}

/-- A frame that is parsed does what its headers do. -/
lemma step_of_parsed (T : BitVec 1 → Transport) (A : Acceptor) {x : Send} {q : P4v16.Parsed}
    (hparse : TopParser x.frame = some q) :
    (handle T A x).1 = (Switch16.step T A ⟨q.hdr, verifyChecksum q.hdr⟩).1 ∧
      replyTo T A x = (Switch16.step T A ⟨q.hdr, verifyChecksum q.hdr⟩).2 := by
  constructor
  · rw [handle, P4v16.Acceptor.switch_fst T A hparse, Switch16.step]
  · rw [replyTo, hparse, Option.bind_some]

/-- **Everything a frame can do at the switch**: it is a 1A or 2A that is answered, or changes
nothing. A frame without a Paxos header, and one that the parser refuses, do not reach the tables.
-/
lemma send_cases (hT : T 0 = .forward port learnerPort) (A : Acceptor) (x : Send) :
    (22 ≤ x.value.length ∧ (handle T A x).1 = promise A x.paxos ∧
      (∃ r vr v, replyTo T A x = some (.promise x.paxos.inst.toNat r vr v)) ∧
      ∃ e ip u, ip.protocol = P4v16.UDP_PROTOCOL ∧ u.dstPort = learnerPort ∧
        (handle T A x).2 = some (port.setWidth 9,
          P4v16.frameOf e ip u (answer1b A x.paxos) (x.frame.drop 90))) ∨
    (22 ≤ x.value.length ∧ (handle T A x).1 = accept A x.paxos ∧
      ∃ r v, replyTo T A x = some (.accepted x.paxos.inst.toNat r v)) ∨
    ((handle T A x).1 = A ∧ replyTo T A x = none) := by
  by_cases hpaxos : P4v16.IsPaxos x.frame
  · have hlen := (x.isPaxos_iff.mp hpaxos).1
    obtain ⟨hsame, hreply⟩ := step_of_parsed T A (P4v16.TopParser_eq hpaxos)
    simp only at hsame hreply
    rcases Switch16.step_cases hT A
        ⟨P4v16.Headers.read x.frame, verifyChecksum (P4v16.Headers.read x.frame)⟩ with
      ⟨p, hp, htype, -, hr, he⟩ | ⟨p, hp, -, -, -, he⟩ | ⟨-, he⟩
    · obtain rfl : x.paxos = p := Option.some.inj hp
      refine .inl ⟨hlen, by rw [hsame, he], ⟨_, _, _, by rw [hreply, he]⟩, ?_⟩
      obtain ⟨ip, u, hproto, hport, hout⟩ :=
        P4v16.Acceptor.switch_answered hT A hpaxos hr (if_pos htype) rfl rfl
      exact ⟨_, ip, u, hproto, hport, congrArg Prod.snd hout⟩
    · obtain rfl : x.paxos = p := Option.some.inj hp
      exact .inr (.inl ⟨hlen, by rw [hsame, he], _, _, by rw [hreply, he]⟩)
    · exact .inr (.inr ⟨by rw [hsame, he], by rw [hreply, he]⟩)
  · -- the parser extracts no Paxos header, so that the tables are not applied
    refine .inr (.inr ?_)
    cases hparse : TopParser x.frame with
    | none =>
        constructor
        · rw [handle, switch, hparse]
        · rw [replyTo, hparse]
          rfl
    | some q =>
        have hnone : q.hdr.paxos = none := by
          by_contra hp
          exact hpaxos (P4v16.isPaxos_of_paxos hparse hp)
        have hingress : P4v16.Acceptor.ingress T A q.hdr (verifyChecksum q.hdr) =
            (A, q.hdr, verifyChecksum q.hdr) := by
          unfold P4v16.Acceptor.ingress
          cases q.hdr.ipv4 <;> simp [hnone]
        have hask : Switch16.ask ⟨q.hdr, verifyChecksum q.hdr⟩ = none := by
          unfold Switch16.ask
          cases q.hdr.ipv4 <;> simp [hnone]
        obtain ⟨hsame, hreply⟩ := step_of_parsed T A hparse
        constructor
        · rw [hsame, Switch16.step, hingress]
        · rw [hreply, Switch16.step, hask]
          rfl

/-- A message for the acceptors with a value of 22 bytes is served as the request it is. -/
lemma served (hT : T 0 = .forward port learnerPort) (A : Acceptor) {x : Send}
    (hlen : 22 ≤ x.value.length) (hport : x.dport = ACCEPTOR_PORT) {q : Request ℕ}
    (hq : Switch16.askPaxos x.paxos = some q) (hi : q.inst < INSTANCE_COUNT) :
    (Switch16.slot (handle T A x).1 q.inst, replyTo T A x) =
      (Switch16.slot A q.inst).handle q := by
  have hpaxos := x.isPaxos_iff.mpr ⟨hlen, hport⟩
  obtain ⟨hsame, hreply⟩ := step_of_parsed T A (P4v16.TopParser_eq hpaxos)
  rw [hsame, hreply]
  exact (Switch16.serves hT).own A ⟨P4v16.Headers.read x.frame, _⟩ q hq hi

/-- What a message of type 1A asks for. -/
lemma askPaxos_of_prepare {x : Send} (h : x.pm.type = .PAXOS_PREPARE) :
    Switch16.askPaxos x.paxos =
      some (.prepare x.pm.accept.iid.toNat x.pm.accept.ballot.toNat) := by
  obtain ⟨htype, hinst, hrnd, -⟩ := x.paxos_fields
  have hcode : x.paxos.msgtype = P4v16.PAXOS_1A := by
    rw [htype, h]
    rfl
  rw [Switch16.askPaxos, if_pos hcode, hinst, hrnd]

/-- What a message of type 2A asks for. -/
lemma askPaxos_of_accept {x : Send} (h : x.pm.type = .PAXOS_ACCEPT) :
    Switch16.askPaxos x.paxos = some (.accept x.pm.accept.iid.toNat x.pm.accept.ballot.toNat
      x.paxos.paxosval.toNat) := by
  obtain ⟨htype, hinst, hrnd, -⟩ := x.paxos_fields
  have hcode : x.paxos.msgtype = P4v16.PAXOS_2A := by
    rw [htype, h]
    rfl
  have hne : ¬ x.paxos.msgtype = P4v16.PAXOS_1A := by
    rw [hcode]
    decide
  rw [Switch16.askPaxos, if_neg hne, if_pos hcode, hinst, hrnd]

/-! ## What the registers keep -/

/-- The registers of instance `i` hold the round and the value field of the 2A `a`. -/
structure Stores (A : Acceptor) (i : ℕ) (a : Send) : Prop where
  vround : A.registerVRound.read i = a.pm.accept.ballot
  value : A.registerValue.read i = a.paxos.paxosval

/-- A 2A that is answered is stored. Of the three things that a message can do, only a fresh 2A is
answered with a vote; it writes both registers of the instance. -/
lemma stores_of_votedFor (hT : T 0 = .forward port learnerPort) (A : Acceptor) {i : ℕ}
    (hi : i < INSTANCE_COUNT) {a : Send} (ha : VotedFor T A i a) :
    22 ≤ a.value.length ∧ Stores (handle T A a).1 i a := by
  obtain ⟨r, v, ha⟩ := ha
  rcases send_cases hT A a with ⟨-, -, ⟨_, _, _, hreply⟩, -⟩ | ⟨hlen, hstate, _, _, hreply⟩ |
    ⟨-, hreply⟩
  · rw [hreply] at ha
    cases ha
  · rw [hreply] at ha
    cases ha
    have hround : a.paxos.rnd = a.pm.accept.ballot := a.paxos_fields.2.2.1
    refine ⟨hlen, ?_, ?_⟩
    · rw [hstate, ← hround]
      exact P4xos.Lib.Register.read_write_self _ hi _
    · rw [hstate]
      exact P4xos.Lib.Register.read_write_self _ hi _
  · rw [hreply] at ha
    cases ha

/-- A frame that is not a vote for the instance leaves it alone. -/
lemma Stores.handle (hT : T 0 = .forward port learnerPort) {A : Acceptor} {i : ℕ} {a y : Send}
    (h : Stores A i a) (hy : ¬ VotedFor T A i y) : Stores (Promises.handle T A y).1 i a := by
  rcases send_cases hT A y with ⟨-, hstate, -⟩ | ⟨-, hstate, r, v, hreply⟩ | ⟨hstate, -⟩ <;>
    rw [hstate]
  · exact ⟨h.vround, h.value⟩
  · have hne : i ≠ y.paxos.inst.toNat := by
      rintro rfl
      exact hy ⟨r, v, hreply⟩
    refine ⟨?_, ?_⟩
    · rw [accept, Register.read_write_of_ne _ hne, h.vround]
    · rw [accept, Register.read_write_of_ne _ hne, h.value]
  · exact h

/-- **Along a run without another vote for the instance the registers keep the last one.** -/
lemma Stores.after (hT : T 0 = .forward port learnerPort) {A : Acceptor} {i : ℕ} {a : Send}
    (h : Stores A i a) {ys : List Send}
    (hys : ∀ pre y post, ys = pre ++ y :: post →
      ¬ VotedFor T (after (Promises.handle T) A pre) i y) :
    Stores (Lib.after (Promises.handle T) A ys) i a := by
  refine after_invariant (I := fun _ A => Stores A i a) h fun pre y post heq hpre => ?_
  exact hpre.handle hT (hys pre y post heq)

/-! ## What is read from a promise -/

/-- The bytes behind the first 32 of a value are behind the headers of its frame. -/
lemma take_drop_frame (x : Send) :
    (x.frame.drop 90).take (x.value.length - 32) = x.value.drop 32 := by
  calc (x.frame.drop 90).take (x.value.length - 32)
      = (slice 58 x.value.length x.frame).drop 32 := by
        rw [slice, List.drop_take, List.drop_drop]
    _ = x.value.drop 32 := by rw [x.slice_frame_value]

/-- The round and the value that are read from a promise. The value is read from the registers' 32
bytes and what is behind them in the frame, as many bytes as the request's length field says, which
the switch leaves. -/
lemma value_of_promise {new : Bytes → ℕ → Bytes} (hnew : Copies new) (A : Acceptor) {x : Send}
    (hlen : 22 ≤ x.value.length) {e : P4v16.EthernetT} {ip : P4v16.Ipv4T} {u : P4v16.UdpT}
    {ports : List (BitVec 16)} {tunnel : Bool} {pr : PaxosPromise}
    (h : paxos_rx_process new ports tunnel
      (P4v16.frameOf e ip u (answer1b A x.paxos) (x.frame.drop 90)) = some pr) :
    pr.value_ballot = A.registerVRound.read x.paxos.inst.toNat ∧
      pr.value = (beEncode 32 (A.registerValue.read x.paxos.inst.toNat).toNat).take x.value.length ++
        x.value.drop 32 := by
  set p := answer1b A x.paxos with hp
  set f := P4v16.frameOf e ip u p (x.frame.drop 90) with hf
  obtain ⟨-, -, h₄₂, -⟩ := P4v16.drop_frameOf e ip u p (x.frame.drop 90)
  have hread : PaxosT.read (f.drop 42) = p := by
    rw [hf, h₄₂]
    exact p.read_emit _
  have hvrnd : bits 16 50 f = p.vrnd := by
    rw [← hread]
    simp [PaxosT.read]
  have hvsize : ((bits 32 54 f).signExtend 64).toNat = x.value.length := by
    have hpaxoslen : bits 32 54 f = x.paxos.paxoslen := by
      have hsame : p.paxoslen = x.paxos.paxoslen := rfl
      rw [← hsame, ← hread]
      simp [PaxosT.read]
    have hlength := x.paxos_fields.2.2.2.2.2
    have hlt := x.length_value_lt
    rw [hpaxoslen, toNat_signExtend (by omega), hlength]
  have hvalue : f.drop 58 = beEncode 32 p.paxosval.toNat ++ x.frame.drop 90 := by
    rw [← List.drop_drop (i := 16) (j := 42), hf, h₄₂, p.drop_emit]
  have hfits : x.value.length ≤ (f.drop 58).length := by
    have hframe := x.length_frame
    rw [hvalue, List.length_append, length_beEncode, List.length_drop]
    omega
  have hpr : pr.value_ballot = bits 16 50 f ∧
      pr.value = new (f.drop 58) ((bits 32 54 f).signExtend 64).toNat := by
    unfold paxos_rx_process at h
    split_ifs at h
    cases h
    exact ⟨rfl, rfl⟩
  refine ⟨hpr.1.trans hvrnd, ?_⟩
  calc pr.value = (f.drop 58).take x.value.length := by rw [hpr.2, hvsize, hnew _ _ hfits]
    _ = (beEncode 32 p.paxosval.toNat).take x.value.length ++
        (x.frame.drop 90).take (x.value.length - 32) := by
        rw [hvalue, List.take_append, length_beEncode]
    _ = _ := by
        rw [take_drop_frame]
        rfl

/-- A promise that is sent to a port of the program is read. The switch has written the learner's
port, and leaves the protocol of a UDP frame. -/
lemma exists_rx (hT : T 0 = .forward port learnerPort) (new : Bytes → ℕ → Bytes)
    {ports : List (BitVec 16)} (hports : learnerPort ∈ ports) (tunnel : Bool) {A : Acceptor} {i : ℕ}
    {x : Send} (hx : Promised T A i x) :
    ∃ n f pr, (handle T A x).2 = some (n, f) ∧ paxos_rx_process new ports tunnel f = some pr := by
  obtain ⟨r, vr, v, hreply⟩ := hx
  rcases send_cases hT A x with ⟨-, -, -, e, ip, u, hproto, hport, hout⟩ | ⟨-, -, _, _, hvote⟩ |
    ⟨-, hnone⟩
  · obtain ⟨h₁₄, h₃₄, h₄₂, -⟩ := P4v16.drop_frameOf e ip u (answer1b A x.paxos) (x.frame.drop 90)
    set f := P4v16.frameOf e ip u (answer1b A x.paxos) (x.frame.drop 90)
    have hproto' : bits 8 23 f = 17 := by
      have hread := congrArg P4v16.Ipv4T.protocol (h₁₄ ▸ ip.read_emit _ :
        P4v16.Ipv4T.read (f.drop 14) = ip)
      simp only [P4v16.Ipv4T.read, bits_drop] at hread
      exact hread.trans hproto
    have hport' : bits 16 36 f = learnerPort := by
      have hread := congrArg P4v16.UdpT.dstPort (h₃₄ ▸ u.read_emit _ :
        P4v16.UdpT.read (f.drop 34) = u)
      simp only [P4v16.UdpT.read, bits_drop] at hread
      exact hread.trans hport
    have htype : bits 16 42 f = PaxosMessageType.PAXOS_PROMISE.code := by
      have hread := congrArg PaxosT.msgtype (h₄₂ ▸ PaxosT.read_emit _ _ :
        PaxosT.read (f.drop 42) = answer1b A x.paxos)
      simp only [PaxosT.read, bits_drop] at hread
      exact hread
    have hrx : ∃ pr, paxos_rx_process new ports tunnel f = some pr := by
      unfold paxos_rx_process
      rw [if_neg (not_not.mpr hproto'), if_neg fun h => h.1 (hport' ▸ hports), if_pos htype]
      exact ⟨_, rfl⟩
    obtain ⟨pr, hpr⟩ := hrx
    exact ⟨_, f, pr, hout, hpr⟩
  · rw [hvote] at hreply
    cases hreply
  · rw [hnone] at hreply
    cases hreply

/-- **What is read from the answer to a 1A.** The answer has the stored value over the first 32
bytes of the request's, and its length field says how many bytes the request had. -/
lemma rx_of_promised (hT : T 0 = .forward port learnerPort) {new : Bytes → ℕ → Bytes}
    (hnew : Copies new) {A : Acceptor} {i : ℕ} {x : Send} (hx : Promised T A i x) {n : BitVec 9}
    {f : Bytes} (hf : (handle T A x).2 = some (n, f)) {ports : List (BitVec 16)} {tunnel : Bool}
    {pr : PaxosPromise} (hpr : paxos_rx_process new ports tunnel f = some pr) :
    pr.value_ballot = A.registerVRound.read i ∧
      pr.value = (beEncode 32 (A.registerValue.read i).toNat).take x.value.length ++
        x.value.drop 32 := by
  obtain ⟨r, vr, v, hreply⟩ := hx
  rcases send_cases hT A x with ⟨hlen, -, ⟨_, _, _, hpromise⟩, e, ip, u, -, -, hout⟩ |
    ⟨-, -, _, _, hvote⟩ | ⟨-, hnone⟩
  · rw [hpromise] at hreply
    cases hreply
    rw [hout] at hf
    cases hf
    exact value_of_promise hnew A hlen hpr
  · rw [hvote] at hreply
    cases hreply
  · rw [hnone] at hreply
    cases hreply

/-- It is as long as the value of the 1A. -/
lemma length_of_promise (hT : T 0 = .forward port learnerPort) {new : Bytes → ℕ → Bytes}
    (hnew : Copies new) {A : Acceptor} {i : ℕ} {x : Send} (hx : Promised T A i x) {n : BitVec 9}
    {f : Bytes} (hf : (handle T A x).2 = some (n, f)) {ports : List (BitVec 16)} {tunnel : Bool}
    {pr : PaxosPromise} (hpr : paxos_rx_process new ports tunnel f = some pr) :
    pr.value.length = x.value.length := by
  rw [(rx_of_promised hT hnew hx hf hpr).2]
  simp only [List.length_append, List.length_take, List.length_drop, length_beEncode]
  omega

/-- The value of a 2A is what its header keeps of it, and the bytes behind. -/
lemma value_eq (a : Send) (hlen : 22 ≤ a.value.length) :
    a.value = (beEncode 32 a.paxos.paxosval.toNat).take a.value.length ++ a.value.drop 32 := by
  rw [a.take_paxosval hlen, List.take_append_drop]

/-- What the switch kept of `a` with the rest taken from `x` is `a`'s value when `x`'s value has its
length and its rest. -/
lemma value_eq_iff {a x : Send} (ha : 22 ≤ a.value.length) :
    (beEncode 32 a.paxos.paxosval.toNat).take x.value.length ++ x.value.drop 32 = a.value ↔
      x.value.length = a.value.length ∧ x.value.drop 32 = a.value.drop 32 := by
  have hsplit := value_eq a ha
  constructor
  · intro h
    have hlen : x.value.length = a.value.length := by
      have hlength := congrArg List.length h
      simp only [List.length_append, List.length_take, List.length_drop, length_beEncode] at hlength
      omega
    rw [hlen] at h
    exact ⟨hlen, List.append_cancel_left (h.trans hsplit)⟩
  · rintro ⟨hlen, hdrop⟩
    rw [hlen, hdrop, ← hsplit]

end

/-- In the run `pre ++ a :: mid` the last 2A for instance `i` that is answered is `a`. -/
structure LastVote (T : BitVec 1 → Transport) (id : BitVec 16) (i : ℕ) (pre : List Send) (a : Send)
    (mid : List Send) : Prop where
  voted : VotedFor T (after (handle T) (init id) pre) i a
  last : ∀ pre' y post', mid = pre' ++ y :: post' →
    ¬ VotedFor T (after (handle T) (init id) (pre ++ a :: pre')) i y

/-- **A promise conveys the last vote exactly when the request's value has the length of the value
voted for, and the same bytes behind the first 32.** A prepare of the recovery code carries no
value, so it does so for no value that is not empty. -/
theorem promise_conveys_iff {new : Bytes → ℕ → Bytes} (hnew : Copies new)
    (T : BitVec 1 → Transport) (id : BitVec 16) {i : ℕ} (hi : i < INSTANCE_COUNT)
    {pre mid : List Send} {a x : Send} (hlast : LastVote T id i pre a mid)
    (hx : Promised T (after (handle T) (init id) (pre ++ a :: mid)) i x)
    {port : BitVec 9} {f : Bytes}
    (hf : (handle T (after (handle T) (init id) (pre ++ a :: mid)) x).2 = some (port, f))
    {ports : List (BitVec 16)} {tunnel : Bool} {pr : PaxosPromise}
    (hpr : paxos_rx_process new ports tunnel f = some pr) :
    (pr.value_ballot = a.pm.accept.ballot ∧ pr.value = a.value) ↔
      x.value.length = a.value.length ∧ x.value.drop 32 = a.value.drop 32 := by
  cases hT : T 0 with
  | _drop =>
      -- nothing is answered
      obtain ⟨r, v, hvoted⟩ := hlast.voted
      obtain ⟨q, -, hq⟩ := Option.bind_eq_some_iff.mp hvoted
      rw [Switch16.step_silent hT] at hq
      cases hq
  | forward outPort learnerPort =>
      set A := after (handle T) (init id) (pre ++ a :: mid) with hA
      obtain ⟨ha, hstored⟩ := stores_of_votedFor hT _ hi hlast.voted
      have hstores : Stores A i a := by
        rw [hA, after_append, after_cons]
        refine hstored.after hT fun pre' y post' heq => ?_
        have hy := hlast.last pre' y post' heq
        rwa [after_append, after_cons] at hy
      obtain ⟨hballot, hvalue⟩ := rx_of_promised hT hnew hx hf hpr
      rw [hballot, hvalue, hstores.vround, hstores.value, value_eq_iff ha]
      simp

/-- A message for instance 7 with a value of `n` bytes fits. -/
lemma fits7 (type : PaxosMessageType) (ballot : BitVec 16) (n : ℕ) (h : n ≤ 1000) :
    emptyMbuf.Fits { type := type, accept := { iid := 7, ballot := ballot, value_ballot := 0,
                                               aid := 0, value := List.replicate n 0x41 } } := by
  have hroom : emptyMbuf.room.toNat = 2048 := rfl
  simp only [Mbuf.Fits, sizeof_paxos_message, sizeof_paxos_accept, sizeof_paxos_value,
    List.length_replicate, hroom]
  omega

/-- A call for instance 7 with a value of `n` bytes, to the acceptors. -/
def send7 (type : PaxosMessageType) (ballot : BitVec 16) (n : ℕ) (h : n ≤ 1000) : Send where
  host := host
  pm := { type := type, accept := { iid := 7, ballot := ballot, value_ballot := 0, aid := 0,
                                    value := List.replicate n 0x41 } }
  mbuf := emptyMbuf
  sport := 34953
  dport := ACCEPTOR_PORT
  dstIP := 0xE0031D49
  fits := fits7 type ballot n h

/-- The rules of a switch that sends its answers to the learners. -/
def toLearners : BitVec 1 → Transport := fun set_drop =>
  if set_drop = 1 then ._drop else .forward 1 LEARNER_PORT

/-- A 2A with a value of 32 bytes in round 1. -/
def vote7 : Send := send7 .PAXOS_ACCEPT 1 32 (by decide)

/-- The switch that has answered it. -/
def voted7 : Acceptor := after (handle toLearners) (init 1) [vote7]

/-- The entry for the packets that are answered. -/
lemma toLearners_zero : toLearners 0 = .forward 1 LEARNER_PORT := rfl

/-- The vote is stored, and answered. -/
lemma handle_vote7 : Switch16.slot voted7 7 = ⟨1, 1, vote7.paxos.paxosval.toNat⟩ ∧
    replyTo toLearners (init 1) vote7 = some (.accepted 7 1 vote7.paxos.paxosval.toNat) := by
  have hserved := served toLearners_zero (init 1) (x := vote7) (by decide) rfl
    (q := .accept 7 1 vote7.paxos.paxosval.toNat) (askPaxos_of_accept rfl) (by decide)
  simp only [Request.inst_accept] at hserved
  rw [Switch16.slot_init, Slot.handle_accept (Nat.zero_le _)] at hserved
  exact Prod.ext_iff.mp hserved

/-- There is no other vote. -/
lemma lastVote_vote7 : LastVote toLearners 1 7 [] vote7 [] where
  voted := ⟨1, vote7.paxos.paxosval.toNat, handle_vote7.2⟩
  last pre' y post' h := by simp at h

/-- A 1A in round 2. -/
def ask7 (n : ℕ) (h : n ≤ 1000) : Send := send7 .PAXOS_PREPARE 2 n h

/-- It is answered, whatever its value. -/
lemma promised_ask7 {n : ℕ} (h : n ≤ 1000) (hlen : 22 ≤ n) :
    Promised toLearners voted7 7 (ask7 n h) := by
  have hvalue : 22 ≤ (ask7 n h).value.length := hlen.trans List.length_replicate.ge
  have hserved := served toLearners_zero voted7 hvalue rfl (q := .prepare 7 2)
    (askPaxos_of_prepare rfl) (by decide)
  simp only [Request.inst_prepare] at hserved
  rw [handle_vote7.1, Slot.handle_prepare (by decide)] at hserved
  exact ⟨2, 1, vote7.paxos.paxosval.toNat, congrArg Prod.snd hserved⟩

/-- What the learner reads of the answer. -/
lemma exists_answer {n : ℕ} (h : n ≤ 1000) (hlen : 22 ≤ n) :
    ∃ port f pr, (handle toLearners voted7 (ask7 n h)).2 = some (port, f) ∧
      paxos_rx_process (fun v s => v.take s) [LEARNER_PORT] false f = some pr :=
  exists_rx toLearners_zero _ (List.mem_singleton.mpr rfl) false (promised_ask7 h hlen)

/-- A 1A with a value of the same length: the promise conveys the vote. -/
theorem promise_conveys_full :
    LastVote toLearners 1 7 [] vote7 [] ∧
    Promised toLearners voted7 7 (ask7 32 (by decide)) ∧
    ∃ port f pr, (handle toLearners voted7 (ask7 32 (by decide))).2 = some (port, f) ∧
      paxos_rx_process (fun v s => v.take s) [LEARNER_PORT] false f = some pr ∧
      ((pr.value_ballot = vote7.pm.accept.ballot ∧ pr.value = vote7.value) ↔
        (ask7 32 (by decide)).value.length = vote7.value.length ∧
          (ask7 32 (by decide)).value.drop 32 = vote7.value.drop 32) := by
  have hpromised := promised_ask7 (n := 32) (by decide) (by decide)
  obtain ⟨port, f, pr, hf, hpr⟩ := exists_answer (n := 32) (by decide) (by decide)
  exact ⟨lastVote_vote7, hpromised, port, f, pr, hf, hpr,
    promise_conveys_iff (fun _ _ _ => rfl) toLearners 1 (by decide) lastVote_vote7 hpromised hf hpr⟩

/-- A 1A with a value of 22 bytes: 22 bytes are read of the 32 that were voted for. The value that
is read has the length of the one in the 1A. -/
theorem promise_conveys_less :
    ¬ ∀ (new : Bytes → ℕ → Bytes) (_ : Copies new) (T : BitVec 1 → Transport) (id : BitVec 16)
      (i : ℕ) (_ : i < INSTANCE_COUNT) (pre mid : List Send) (a x : Send)
      (_ : LastVote T id i pre a mid)
      (_ : Promised T (after (handle T) (init id) (pre ++ a :: mid)) i x) (port : BitVec 9)
      (f : Bytes)
      (_ : (handle T (after (handle T) (init id) (pre ++ a :: mid)) x).2 = some (port, f))
      (ports : List (BitVec 16)) (tunnel : Bool) (pr : PaxosPromise)
      (_ : paxos_rx_process new ports tunnel f = some pr),
      pr.value_ballot = a.pm.accept.ballot ∧ pr.value = a.value := by
  intro hall
  have hpromised := promised_ask7 (n := 22) (by decide) (by decide)
  obtain ⟨port, f, pr, hf, hpr⟩ := exists_answer (n := 22) (by decide) (by decide)
  obtain ⟨-, hvalue⟩ := hall _ (fun _ _ _ => rfl) toLearners 1 7 (by decide) [] [] vote7 _
    lastVote_vote7 hpromised port f hf _ _ pr hpr
  have hlength := length_of_promise toLearners_zero (fun _ _ _ => rfl) hpromised hf hpr
  rw [hvalue] at hlength
  exact absurd hlength (by decide)

end P4xos.Equiv.Promises
