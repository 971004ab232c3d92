import P4xos.Lib.Network
import P4xos.P4v14.L2
import P4xos.Bmv2.System

/-!
# The network of the bmv2 demo

The hosts and switches of `bmv2/topo.py`, connected by the links it adds. A switch numbers its ports
from 1 and a host its interfaces from 0, in the order of their links. Frames go from end to end over
these links, and every switch floods: what a host sends can be anything, at any time, and so can the
order in which the switches get to it, and which frames are lost.

1. `Switches.handle` is a frame at an end, and `fabric` the network. What a switch passes on goes to
every target of the end it came in by (`Switches.handle_out`). 2. `Switches.handle_map`: the
switches do not look at what their parsers leave in a frame, so it may be read in any way that the
calculated fields do not change. 3. `spread`: where a frame comes in, in the end, when every switch
passes it on. The links form a tree, so `spread` ends (`spread_succ`), and what a frame costs is the
sum over these ends (`cost`). 4. `no_storm`: there are at most 11 arrivals for each frame that the
hosts have sent, all of them counted together, and no interface receives more frames than the others
have sent. 5. `one_segment`: for frames without a Paxos header the four switches are one Ethernet
segment that computes the checksums again: each interface receives each frame of the others exactly
once, deparsed.

Both theorems weigh the arrivals that a frame still causes, by the accounting of the network: what
goes on from an arrival costs no more than what came in (`worth_handle_le`), and in the second case
exactly as much (`worth_handle_eq`).
-/

namespace P4xos.Bmv2

open P4xos.Lib P4xos.P4v14

variable {β : Type*}

/-! ## Nodes and links -/

/-- Source: `bmv2/topo.py` `MyTopo.__init__`, `addHost`, `addSwitch` -/
inductive Node
  | h1 | h2 | h3 | h4 | s1 | s2 | s3 | s4
  deriving DecidableEq

namespace Node

/-- Four hosts and four switches. -/
instance : Fintype Node where
  elems := {h1, h2, h3, h4, s1, s2, s3, s4}
  complete n := by cases n <;> decide

/-- Whether the node was added by `addSwitch`. -/
def isSwitch : Node → Bool
  | s1 | s2 | s3 | s4 => true
  | _ => false

/-- The acceptors of the demo, `s1` being the coordinator.
Source: `bmv2/topo.py` `MyTopo.__init__`, `json_path` -/
def acceptor : Node → Option (Fin 3)
  | s2 => some 0
  | s3 => some 1
  | s4 => some 2
  | _ => none

end Node

open Node

/-- The links in the order in which they are added.
Source: `bmv2/topo.py` `MyTopo.__init__`, `addLink` -/
def links : List (Node × Node) :=
  [(h1, s1), (h4, s1)] ++
    [s2, s3, s4].flatMap fun s => ([h2, h3].map fun h => (h, s)) ++ [(s, s1)]

/-- One end of a link: the node, and the port or interface there. -/
abbrev End := Node × Fin 6

/-- A port or an interface by its number. No node has more than five. -/
def port (i : ℕ) : Fin 6 := Fin.ofNat 6 i

/-- The port of a node's next link, when the links of `before` have been added. -/
def nextPort (before : List (Node × Node)) (n : Node) : Fin 6 :=
  port ((if n.isSwitch then 1 else 0) + before.countP fun l => l.1 = n ∨ l.2 = n)

/-- The two ends of each link. They are counted when the links before have been added. -/
def wiring (before : List (Node × Node)) : List (Node × Node) → List (End × End)
  | [] => []
  | l :: ls => ((l.1, nextPort before l.1), (l.2, nextPort before l.2)) :: wiring (before ++ [l]) ls

/-- The other end of the link at an end, if there is one. -/
def peer (e : End) : Option End :=
  (wiring [] links).findSome? fun l =>
    if l.1 = e then some l.2 else if l.2 = e then some l.1 else none

/-- The ends at which the hosts' frames come in. -/
def Uplink (e : End) : Prop := ∃ h : End, h.1.isSwitch = false ∧ peer h = some e

/-- There are finitely many ends. -/
instance : DecidablePred Uplink := fun _ => inferInstanceAs (Decidable (∃ _, _))

/-- The interfaces of the hosts. -/
def Interface (e : End) : Prop := e.1.isSwitch = false ∧ (peer e).isSome

/-- The links are known. -/
instance : DecidablePred Interface := fun _ => inferInstanceAs (Decidable (_ ∧ _))

/-- What leaves a node, on the wires: a port without a link leads nowhere. -/
def onWires (n : Node) (out : List (ℕ × Frame β)) : List (End × Frame β) :=
  out.filterMap fun x => (peer (n, port x.1)).map fun e => (e, x.2)

/-- The ends a switch floods to. The host's end of a link has none. -/
def targets (e : End) : List End :=
  if e.1.isSwitch then
    (L2.otherPorts e.2).filterMap fun i => peer (e.1, port i)
  else []

/-- A flooded frame goes to every target. -/
lemma onWires_otherPorts {e : End} (h : e.1.isSwitch = true) (frame : Frame β) :
    onWires e.1 ((L2.otherPorts e.2).map fun port => (port, frame)) =
      (targets e).map fun e' => (e', frame) := by
  unfold onWires targets
  rw [if_pos h, List.filterMap_map, List.map_filterMap]
  rfl

/-! ## The fabric -/

variable [CalculatedFields β]

/-- The switches. -/
structure Switches where
  coordinator : Coordinator
  acceptors : Fin 3 → Acceptor

/-- The switches as `bmv2/topo.py` starts them. -/
def Switches.init : Switches where
  coordinator := Coordinator.init
  acceptors := fun a => Acceptor.init (datapathId a)

/-- A frame at an end: a switch handles it as its program says, a host takes it off the network. -/
def Switches.handle (s : Switches) (e : End) (frame : Frame β) : Switches × List (End × Frame β) :=
  match e.1.acceptor with
  | some a =>
      let (A, _, out) := (s.acceptors a).switch e.2 frame
      ({ s with acceptors := Function.update s.acceptors a A }, onWires e.1 out)
  | none =>
      if e.1.isSwitch then
        let (C, _, out) := s.coordinator.switch e.2 frame
        ({ s with coordinator := C }, onWires e.1 out)
      else (s, [])

/-- The switches of the demo and their links. -/
def fabric (β : Type*) [CalculatedFields β] : Network Switches End (Frame β) where
  init := Switches.init
  handle := Switches.handle

/-- What a switch passes on, if it does not drop it, as it leaves. The coordinator drops nothing. -/
def Switches.passed (s : Switches) (e : End) (frame : Frame β) : Option (Frame β) :=
  match e.1.acceptor with
  | some a => (s.acceptors a).passed frame
  | none => some (s.coordinator.passed frame)

/-- **What is passed on goes to every target.** The three kinds of node are treated one by one: an
acceptor's switch may drop the frame, the coordinator's never does, and a host has no targets. -/
lemma Switches.handle_out (s : Switches) (e : End) (frame : Frame β) :
    (s.handle e frame).2 =
      (s.passed e frame).toList.flatMap fun frame' => (targets e).map fun e' => (e', frame') := by
  unfold Switches.handle Switches.passed
  rcases ha : e.1.acceptor with _ | a
  · by_cases h : e.1.isSwitch
    · rw [if_pos h, Option.toList_some, List.flatMap_singleton, ← onWires_otherPorts h]
      exact congrArg (onWires e.1) (Coordinator.switch_eq s.coordinator e.2 frame).2
    · rw [if_neg h, Option.toList_some, List.flatMap_singleton, targets, if_neg h]
      rfl
  · have h : e.1.isSwitch = true := by
      revert ha
      generalize e.1 = n
      cases n <;> simp [Node.acceptor, Node.isSwitch]
    refine (congrArg (onWires e.1) (Acceptor.switch_eq (s.acceptors a) e.2 frame).2).trans ?_
    show _ = ((s.acceptors a).passed frame).toList.flatMap _
    rcases (s.acceptors a).passed frame with _ | frame'
    · rfl
    · rw [Option.toList_some, List.flatMap_singleton, List.flatMap_singleton]
      exact onWires_otherPorts h frame'

/-- A frame without a Paxos header is passed on, and nothing but its calculated fields is new. -/
lemma Switches.passed_of_none (s : Switches) (e : End) {frame : Frame β} (h : frame.paxos = none) :
    s.passed e frame = some frame.deparsed := by
  unfold Switches.passed Acceptor.passed Coordinator.passed
  rw [h]
  cases e.1.acceptor <;> rfl

/-- What a switch passes on, the next one does not deparse to another frame. Every frame that leaves
a switch has been deparsed there, and deparsing twice does what deparsing once does. -/
lemma Switches.deparsed_of_passed {s : Switches} {e : End} {frame frame' : Frame β}
    (h : s.passed e frame = some frame') : frame'.deparsed = frame' := by
  unfold Switches.passed Acceptor.passed Coordinator.passed at h
  rcases hp : frame.paxos with _ | p
  · rw [hp] at h
    have heq : frame.deparsed = frame' := by
      rcases ha : e.1.acceptor with _ | a <;> rw [ha] at h <;> exact Option.some_inj.mp h
    rw [← heq, Frame.deparsed_deparsed]
  · rw [hp] at h
    rcases ha : e.1.acceptor with _ | a
    · rw [ha] at h
      cases h
      exact Frame.deparsed_deparsed _
    · rw [ha] at h
      obtain ⟨p', -, rfl⟩ := Option.map_eq_some_iff.mp h
      exact Frame.deparsed_deparsed _

/-- No switch adds a Paxos header or takes one away. The actions assign fields of a valid header,
and none of them calls `add_header` or `remove_header`. -/
lemma Switches.passed_paxos {s : Switches} {e : End} {frame frame' : Frame β}
    (h : s.passed e frame = some frame') : frame'.paxos = none ↔ frame.paxos = none := by
  constructor
  · intro hnone
    unfold Switches.passed Acceptor.passed Coordinator.passed at h
    rcases hp : frame.paxos with _ | p
    · rfl
    · rw [hp] at h
      rcases ha : e.1.acceptor with _ | a
      · rw [ha] at h
        cases h
        cases hnone
      · rw [ha] at h
        obtain ⟨p', -, rfl⟩ := Option.map_eq_some_iff.mp h
        cases hnone
  · intro hnone
    rw [s.passed_of_none e hnone] at h
    cases h
    exact hnone

section map

variable {γ : Type*} [CalculatedFields γ] {φ : β → γ}

/-- What a switch passes on of a frame that is read in another way. The switches look at the
addresses and the Paxos header only, and the update of the checksums commutes with the reading by
assumption. -/
lemma Switches.passed_map (hφ : ∀ paxos rest,
      φ (CalculatedFields.update paxos rest) = CalculatedFields.update paxos (φ rest))
    (s : Switches) (e : End) (frame : Frame β) :
    s.passed e (frame.map φ) = (s.passed e frame).map (Frame.map φ) := by
  have hdeparsed : ∀ f : Frame β, (f.map φ).deparsed = f.deparsed.map φ := by
    intro f
    unfold Frame.deparsed Frame.map
    rw [hφ]
  obtain ⟨srcAddr, dstAddr, paxos, rest⟩ := frame
  unfold Switches.passed
  cases e.1.acceptor with
  | none =>
      cases paxos with
      | none => exact congrArg some (hdeparsed _)
      | some p => exact congrArg some (hdeparsed ⟨srcAddr, dstAddr, _, rest⟩)
  | some a =>
      cases paxos with
      | none => exact congrArg some (hdeparsed _)
      | some p =>
          show Option.map _ _ = Option.map _ (Option.map _ _)
          rw [Option.map_map]
          exact congrArg (fun g => Option.map g ((s.acceptors a).ingress p).2)
            (funext fun p' => hdeparsed ⟨srcAddr, dstAddr, some p', rest⟩)

/-- **What no table reads may be read in any way** that the calculated fields do not change: the
switches then do the same. -/
theorem Switches.handle_map (hφ : ∀ paxos rest,
      φ (CalculatedFields.update paxos rest) = CalculatedFields.update paxos (φ rest))
    (s : Switches) (e : End) (frame : Frame β) :
    s.handle e (frame.map φ) =
      ((s.handle e frame).1, (s.handle e frame).2.map fun x => (x.1, x.2.map φ)) := by
  refine Prod.ext ?_ ?_
  · unfold Switches.handle
    rcases e.1.acceptor with _ | a
    · by_cases h : e.1.isSwitch
      · rw [if_pos h, if_pos h]
        dsimp only
        rw [(Coordinator.switch_eq _ _ _).1, (Coordinator.switch_eq _ _ _).1]
        rfl
      · rw [if_neg h, if_neg h]
    · dsimp only
      rw [(Acceptor.switch_eq _ _ _).1, (Acceptor.switch_eq _ _ _).1]
      rfl
  · dsimp only
    rw [s.handle_out, s.handle_out, s.passed_map hφ]
    rcases s.passed e frame with _ | frame'
    · rfl
    · simp [Function.comp_def]

end map

/-! ## Where a frame can come in -/

/-- Where a frame comes in when every switch passes it on, for `n` hops from an end. The first one
is the end itself. -/
def spread : ℕ → End → List End
  | 0, e => [e]
  | n + 1, e => e :: (targets e).flatMap (spread n)

/-- **The links form a tree**: no frame goes further than three hops. -/
lemma spread_succ (e : End) : e :: (targets e).flatMap (spread 3) = spread 3 e := by
  revert e
  decide +kernel

/-- What the arrivals are worth that a frame causes when every switch passes it on, by their ends.
-/
def cost (g : End → ℕ) (e : End) : ℕ := ((spread 3 e).map g).sum

/-- An arrival, and those it causes. -/
lemma cost_eq (g : End → ℕ) (e : End) : cost g e = g e + ((targets e).map (cost g)).sum := by
  have hflat : ∀ es : List End, ((es.flatMap (spread 3)).map g).sum = (es.map (cost g)).sum := by
    intro es
    induction es with
    | nil => rfl
    | cons e' es ih =>
        rw [List.flatMap_cons, List.map_append, List.sum_append, ih]
        rfl
  rw [cost, ← spread_succ e, List.map_cons, List.sum_cons, hflat]

/-- A frame of a host comes in eleven times. That is once at each of the four switches and at each
of the other seven interfaces of the hosts. -/
lemma cost_uplink {e : End} (h : Uplink e) : cost (fun _ => 1) e = 11 := by
  revert e
  decide +kernel

/-- It comes in once at each interface but the host's own. -/
lemma cost_uplink_interface {e t : End} (h : Uplink e) (ht : Interface t) :
    cost (fun e => if e = t then 1 else 0) e = if peer t ≠ some e then 1 else 0 := by
  revert e t
  decide +kernel

/-- What the frames that are passed on are worth, when only their ends count. -/
lemma worth_handle (s : Switches) (e : End) (frame : Frame β) (g : End → ℕ) :
    Wires.worth (fun e' _ => g e') (s.handle e frame).2 =
      (s.passed e frame).toList.length * ((targets e).map g).sum := by
  rw [s.handle_out]
  rcases s.passed e frame with _ | frame'
  · simp
  · simp [Wires.worth, Function.comp_def]

/-! ## What the hosts get of what they send -/

/-- Only hosts send, each on its own links. -/
def FromHosts (_ : Network.State Switches End (Frame β)) : Network.Event End (Frame β) → Prop
  | .send e _ => Uplink e
  | _ => True

/-- Only what is sent is looked at. -/
instance (s : Network.State Switches End (Frame β)) : DecidablePred (FromHosts s)
  | .send e _ => inferInstanceAs (Decidable (Uplink e))
  | .arrive _ => inferInstanceAs (Decidable True)
  | .lose _ => inferInstanceAs (Decidable True)

/-- What goes on from an arrival costs no more than what came in. -/
lemma worth_handle_le (s : Switches) (e : End) (frame : Frame β) (g : End → ℕ) :
    g e + Wires.worth (fun e' _ => cost g e') (s.handle e frame).2 ≤ cost g e := by
  have hone : (s.passed e frame).toList.length ≤ 1 := by
    rcases s.passed e frame with _ | frame' <;> simp
  rw [worth_handle, cost_eq g e]
  exact Nat.add_le_add_left ((Nat.mul_le_mul_right _ hone).trans (one_mul _).le) _

/-- **No broadcast storm.** Whatever the hosts send, whatever is lost, and in whatever order the
frames come in: there are no more arrivals, with the frames still on their way counted, than eleven
times the frames that the hosts have sent, and no interface receives more frames than the other
interfaces have sent. -/
theorem no_storm (s : Network.State Switches End (Frame β))
    (h : (fabric β).machine.Reach FromHosts s) :
    s.arrived.length + Wires.load (fun _ _ => 1) s.wires ≤ 11 * s.sent.length ∧
      ∀ t, Interface t → (s.arrived.countP fun x => x.1 = t) ≤
        s.sent.countP fun x => peer t ≠ some x.1 := by
  have hsent : ∀ x ∈ s.sent, Uplink x.1 := Network.all_sent (fun _ _ _ hs => hs) h
  have hbound : ∀ g : End → ℕ, Wires.worth (fun e _ => g e) s.arrived +
      Wires.load (fun e _ => cost g e) s.wires ≤ Wires.worth (fun e _ => cost g e) s.sent :=
    fun g => Network.arrivals_le (fun s e frame _ _ => worth_handle_le s.nodes e frame g) h
  constructor
  · have hall := hbound fun _ => 1
    have hload : Wires.load (fun _ _ => 1) s.wires ≤
        Wires.load (fun e _ => cost (fun _ => 1) e) s.wires := by
      refine Wires.load_mono (fun e _ => ?_) _
      rw [cost_eq]
      exact Nat.le_add_right _ _
    have hworth : Wires.worth (fun e _ => cost (fun _ => 1) e) s.sent =
        Wires.worth (fun _ _ => 11) s.sent := Wires.worth_congr fun x hx => cost_uplink (hsent x hx)
    rw [Wires.worth_const 1, one_mul, hworth, Wires.worth_const 11] at hall
    exact (Nat.add_le_add_left hload _).trans hall
  · intro t ht
    have hall := hbound fun e => if e = t then 1 else 0
    have hworth : Wires.worth (fun e _ => cost (fun e => if e = t then 1 else 0) e) s.sent =
        Wires.worth (fun e _ => if peer t ≠ some e then 1 else 0) s.sent :=
      Wires.worth_congr fun x hx => cost_uplink_interface (hsent x hx) ht
    rw [hworth, Wires.worth_ite 1 fun e _ => e = t, Wires.worth_ite 1 fun e _ => peer t ≠ some e,
      one_mul, one_mul] at hall
    omega

/-- A UDP datagram without a checksum. -/
def plain : Frame Headers where
  srcAddr := 1
  dstAddr := 0xFFFFFFFFFFFF
  paxos := none
  rest := {
    etherType := 0x0800
    ipv4 := some ⟨4, 5, 0, 29, 0, 0, 0, 64, 0x11, 0x7AC4, 0x0A000001, 0xE0031D48⟩
    udp := some ⟨0x8889, 0x1234, 9, 0⟩
    payload := [0] }

/-- `h1` sends a frame, and everything it causes comes in. -/
def flood : List (Network.Event End (Frame Headers)) :=
  .send (s1, 1) plain :: ([(s1, 1), (h4, 0), (s2, 3), (s3, 3), (s4, 3), (h2, 0), (h3, 0), (h2, 1),
    (h3, 1),
    (h2, 2), (h3, 2)].map .arrive)

/-- One frame, and its eleven arrivals. -/
theorem no_storm_flood : ∃ s : Network.State Switches End (Frame Headers),
    (fabric Headers).machine.Reach FromHosts s ∧ s.sent.length = 1 ∧ s.arrived.length = 11 ∧
      s.arrived.length + Wires.load (fun _ _ => 1) s.wires ≤ 11 * s.sent.length := by
  obtain ⟨s, hs, htest⟩ := Machine.Reach.of_exec (M := (fabric Headers).machine) (P := FromHosts) flood
    (fun s => decide (s.sent.length = 1 ∧ s.arrived.length = 11)) (by decide +kernel)
  obtain ⟨hsent, harrived⟩ := of_decide_eq_true htest
  exact ⟨s, hs, hsent, harrived, (no_storm s hs).1⟩

/-- A frame without a Paxos header goes on, so what it costs is what its arrivals cost. All of these
are of the same frame `x`, when the calculated fields are computed again. -/
lemma worth_handle_eq [DecidableEq β] (s : Switches) (e : End) (frame : Frame β) {x : Frame β}
    (hx : x.paxos = none) (g : End → ℕ) :
    (if frame.deparsed = x then g e else 0) +
        Wires.worth (fun e' frame' => if frame'.deparsed = x then cost g e' else 0)
          (s.handle e frame).2 =
      if frame.deparsed = x then cost g e else 0 := by
  by_cases heq : frame.deparsed = x
  · rw [if_pos heq, if_pos heq, cost_eq g e, ← one_mul ((targets e).map (cost g)).sum]
    have hnone : frame.paxos = none := by
      rw [← heq] at hx
      exact hx
    have hpassed : s.passed e frame = some frame.deparsed := s.passed_of_none e hnone
    have hworth : Wires.worth (fun e' frame' => if frame'.deparsed = x then cost g e' else 0)
        (s.handle e frame).2 = Wires.worth (fun e' _ => cost g e') (s.handle e frame).2 := by
      refine Wires.worth_congr fun y hy => if_pos ?_
      rw [s.handle_out, hpassed, Option.toList_some, List.flatMap_singleton] at hy
      obtain ⟨e', -, rfl⟩ := List.mem_map.mp hy
      exact (Frame.deparsed_deparsed frame).trans heq
    rw [hworth, worth_handle, hpassed]
    rfl
  · rw [if_neg heq, if_neg heq, zero_add]
    have hworth : Wires.worth (fun e' frame' => if frame'.deparsed = x then cost g e' else 0)
        (s.handle e frame).2 = Wires.worth (fun _ _ => 0) (s.handle e frame).2 := by
      refine Wires.worth_congr fun y hy => if_neg ?_
      rw [s.handle_out] at hy
      obtain ⟨frame', hframe', hy⟩ := List.mem_flatMap.mp hy
      obtain ⟨e', -, rfl⟩ := List.mem_map.mp hy
      have hpassed : s.passed e frame = some frame' := Option.mem_toList.mp hframe'
      -- a frame that has become `x` has no Paxos header, and was to become `x` before
      rintro rfl
      rw [s.passed_of_none e ((Switches.passed_paxos hpassed).mp hx)] at hpassed
      cases hpassed
      exact heq (Frame.deparsed_deparsed frame).symm
    rw [hworth, Wires.worth_const 0, zero_mul]

/-- The hosts are linked to switches. A host has no other link. -/
lemma Uplink.isSwitch {e : End} (h : Uplink e) : e.1.isSwitch = true := by
  revert e
  decide +kernel

/-- **What comes in at a host was deparsed by a switch.** What is on the link to a host was put
there by a switch, since hosts send on their uplinks only, and stays on it until it arrives. -/
lemma deparsed_arrived
    {P : Network.State Switches End (Frame β) → Network.Event End (Frame β) → Prop}
    (hP : ∀ s a, P s a → FromHosts s a) {s : Network.State Switches End (Frame β)}
    (h : (fabric β).machine.Reach P s) :
    ∀ x ∈ s.arrived, x.1.1.isSwitch = false → x.2.deparsed = x.2 := by
  refine Network.all_arrived (Q := fun e frame => e.1.isSwitch = false → frame.deparsed = frame) ?_ h
  intro s hs
  refine Network.on_wires ?_ ?_ hs
  · intro s e frame ha hhost
    rw [Uplink.isSwitch (hP s _ ha)] at hhost
    cases hhost
  · intro s e frame _ _ _ _ x hx _
    rw [show ((fabric β).handle s.nodes e frame).2 = _ from s.nodes.handle_out e frame] at hx
    obtain ⟨frame', hframe', hx⟩ := List.mem_flatMap.mp hx
    obtain ⟨e', -, rfl⟩ := List.mem_map.mp hx
    exact Switches.deparsed_of_passed (Option.mem_toList.mp hframe')

/-- Counting the frames that have come in at an end, where all of them have been deparsed. Each
frame counts one if it has come in at the end and is `x`, and nothing otherwise. -/
lemma worth_arrived [DecidableEq β] {out : List (End × Frame β)} {t : End}
    (hout : ∀ y ∈ out, y.1 = t → y.2.deparsed = y.2) (x : Frame β) :
    Wires.worth (fun e frame => if frame.deparsed = x then (if e = t then 1 else 0) else 0) out =
      out.count (t, x) := by
  calc
    Wires.worth (fun e frame => if frame.deparsed = x then (if e = t then 1 else 0) else 0) out
        = Wires.worth (fun e frame => if e = t ∧ frame = x then 1 else 0) out := by
          refine Wires.worth_congr fun y hy => ?_
          by_cases ht : y.1 = t
          · simp only [hout y hy ht, ht, if_true, true_and]
          · simp only [ht, if_false, ite_self, false_and]
    _ = out.countP fun y => y.1 = t ∧ y.2 = x := by
          rw [Wires.worth_ite 1 fun e frame => e = t ∧ frame = x, one_mul]
    _ = out.count (t, x) := by
          refine List.countP_congr fun y _ => ?_
          rw [beq_iff_eq, decide_eq_true_eq]
          exact ⟨fun hy => Prod.ext hy.1 hy.2, fun hy => ⟨congrArg Prod.fst hy, congrArg Prod.snd hy⟩⟩

/-- Counting the frames that hosts have sent, and that will come in at an interface as `x`. A frame
from the interface's own side does not come back to it, and any other comes in once. -/
lemma worth_uplinks [DecidableEq β] {out : List (End × Frame β)} (hout : ∀ y ∈ out, Uplink y.1)
    {t : End}
    (ht : Interface t) (x : Frame β) :
    Wires.worth (fun e frame =>
        if frame.deparsed = x then cost (fun e => if e = t then 1 else 0) e else 0) out =
      out.countP fun y => y.2.deparsed = x ∧ peer t ≠ some y.1 := by
  calc
    Wires.worth (fun e frame =>
        if frame.deparsed = x then cost (fun e => if e = t then 1 else 0) e else 0) out
        = Wires.worth (fun e frame => if frame.deparsed = x ∧ peer t ≠ some e then 1 else 0) out := by
          refine Wires.worth_congr fun y hy => ?_
          by_cases hyx : y.2.deparsed = x
          · simp only [hyx, if_true, true_and]
            exact cost_uplink_interface (hout y hy) ht
          · simp only [hyx, if_false, false_and]
    _ = out.countP fun y => y.2.deparsed = x ∧ peer t ≠ some y.1 := by
          exact (Wires.worth_ite 1 (fun e (frame : Frame β) => frame.deparsed = x ∧ peer t ≠ some e)
            out).trans (one_mul _)

/-- **One Ethernet segment, with checksums.** When no frame is lost and none is on its way any more,
every frame without a Paxos header has been received, on each interface of a host, as often as the
other interfaces have sent a frame that differs from it in the calculated fields only and has it for
its deparsed form: what is received are the frames of the others with their checksums computed
again, each of them once. -/
theorem one_segment [DecidableEq β] (s : Network.State Switches End (Frame β))
    (h : (fabric β).machine.Reach (fun s a => FromHosts s a ∧ Network.Lossless s a) s)
    (hquiet : Network.Quiet s) (x : Frame β) (hx : x.paxos = none) (t : End) (ht : Interface t) :
    s.arrived.count (t, x) = s.sent.countP fun y => y.2.deparsed = x ∧ peer t ≠ some y.1 := by
  have hsent : ∀ y ∈ s.sent, Uplink y.1 := Network.all_sent (fun _ _ _ hs => hs.1) h
  have harrived : ∀ y ∈ s.arrived, y.1 = t → y.2.deparsed = y.2 := by
    intro y hy hyt
    exact deparsed_arrived (fun _ _ hs => hs.1) h y hy (hyt ▸ ht.1)
  have hall := Network.conserves (N := fabric β) (m := fun _ => 0)
    (r := fun e frame => if frame.deparsed = x then (if e = t then 1 else 0) else 0)
    (v := fun e frame => if frame.deparsed = x then cost (fun e => if e = t then 1 else 0) e else 0)
    (fun _ _ hs => hs.2) rfl
    (fun s e frame _ _ => by
      rw [add_zero, add_zero]
      exact worth_handle_eq s.nodes e frame hx fun e => if e = t then 1 else 0) h
  rw [funext hquiet, Wires.load_empty, worth_arrived harrived, worth_uplinks hsent ht, add_zero,
    add_zero] at hall
  exact hall

/-- The frame of `h1`, sent without a UDP checksum, is received once on the second interface of
`h2`, with one. -/
theorem one_segment_flood : ∃ s : Network.State Switches End (Frame Headers),
    (fabric Headers).machine.Reach (fun s a => FromHosts s a ∧ Network.Lossless s a) s ∧
      Network.Quiet s ∧ plain.deparsed ≠ plain ∧ s.arrived.count ((h2, 1), plain) = 0 ∧
      s.arrived.count ((h2, 1), plain.deparsed) = 1 ∧ s.arrived.count ((h2, 1), plain.deparsed) =
        s.sent.countP fun y => y.2.deparsed = plain.deparsed ∧ peer (h2, 1) ≠ some y.1 := by
  obtain ⟨s, hs, htest⟩ := Machine.Reach.of_exec (M := (fabric Headers).machine)
    (P := fun s a => FromHosts s a ∧ Network.Lossless s a) flood
    (fun s => decide ((∀ e, s.wires e = []) ∧ s.arrived.count ((h2, 1), plain) = 0 ∧
      s.arrived.count ((h2, 1), plain.deparsed) = 1)) (by decide +kernel)
  obtain ⟨hquiet, hsame, hcount⟩ := of_decide_eq_true htest
  exact ⟨s, hs, hquiet, by decide +kernel, hsame, hcount,
    one_segment s hs hquiet plain.deparsed rfl (h2, 1) (by decide)⟩

end P4xos.Bmv2
