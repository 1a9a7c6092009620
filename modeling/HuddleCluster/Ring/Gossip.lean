import HuddleCluster.Lib.Json
import HuddleCluster.Ring.InnerSize
import HuddleCluster.Ring.Registration

set_option autoImplicit false

namespace HuddleCluster.Ring

def Position.value : Position → String
  | .inner => "inner"
  | .outer => "outer"
  | .draining => "draining"

-- Where a thread stands in _recv_loop.
inductive LoopPhase where
  | looking
  | busy
  | ended
deriving DecidableEq

-- Where a thread stands in _send_loop. One that builds a message has the list of the
-- inner servers, as it was in the given cluster.
inductive SendPhase where
  | looking
  | busy
  | building (taken : Cluster)
  | ended

-- What is read of a server of that list, after the lock of the cluster was released, in
-- the midst of whatever other threads do to it.
structure ServerReading where
  temperature : ℚ
  avgResponseMs : ℚ
  position : Position

-- An agent with the cluster it speaks for.
structure GossipAgent where
  cfg : Config
  nodeId : String
  registry : Registry
  running : Bool := false
  senders : List SendPhase := []
  receivers : List LoopPhase := []
  peerStates : Dict String Json := .empty

namespace GossipAgent

def maxMessageBytes : Nat := 4096

def serverState (c : Cluster) (r : Ref) (reading : ServerReading) : Json :=
  .obj [("id", .str (c.idOf r)), ("temp", .number (Statistics.roundTo 4 reading.temperature)),
    ("avg_ms", .number (Statistics.roundTo 2 reading.avgResponseMs)), ("pos", .str reading.position.value)]

def serverStates (c : Cluster) (readings : Nat → ServerReading) : Json :=
  .arr (c.innerRing.mapIdx fun i r => serverState c r (readings i))

def buildMessage (a : GossipAgent) (taken : Cluster) (readings : Nat → ServerReading) : Json :=
  .obj [("node_id", .str a.nodeId), ("servers", serverStates taken readings)]

-- A datagram that is too long is cut off, and what is left is no JSON text.
def receive (size : Json → Nat) (a : GossipAgent) (datagram : Json) : GossipAgent :=
  if size datagram ≤ maxMessageBytes then
    match datagram with
    | .obj fields =>
        match (Json.find? fields "node_id").getD (.str "") with
        | .str nid =>
            if nid ≠ "" ∧ nid ≠ a.nodeId then
              { a with peerStates := a.peerStates.set nid ((Json.find? fields "servers").getD (.arr [])) }
            else a
        | _ => a
    | _ => a
  else a

end GossipAgent

inductive AgentStep where
  | operate (op : Op)
  | start (joins : Bool)
  | stop
  | lookOut (thread : Nat)
  | lookIn (thread : Nat)
  | gather (thread : Nat)
  | send (thread : Nat) (readings : Nat → ServerReading)
  | receive (thread datagram : Nat)
  | timeout (thread : Nat)

inductive GossipEvent where
  | agent (i : Nat) (event : AgentStep)
  | foreign (datagram : Json)

-- Datagrams may be lost, doubled and late: one that was sent can be received at any
-- time and any number of times. Who sent the ring of which cluster is not in the program.
structure Gossip where
  agents : List GossipAgent
  network : List Json := []
  sent : List (Nat × Cluster) := []

namespace GossipAgent

def lookIn (a : GossipAgent) (thread : Nat) : Option GossipAgent :=
  match a.receivers[thread]? with
  | some .looking => some { a with receivers := a.receivers.set thread (if a.running then .busy else .ended) }
  | _ => none

def lookOut (a : GossipAgent) (thread : Nat) : Option GossipAgent :=
  match a.senders[thread]? with
  | some .looking => some { a with senders := a.senders.set thread (if a.running then .busy else .ended) }
  | _ => none

-- inner_servers(), under the lock of the cluster.
def gather (a : GossipAgent) (thread : Nat) : Option GossipAgent :=
  match a.senders[thread]? with
  | some .busy => some { a with senders := a.senders.set thread (.building a.registry.cluster) }
  | _ => none

def sending (a : GossipAgent) (thread : Nat) : Option Cluster :=
  match a.senders[thread]? with
  | some (.building taken) => some taken
  | _ => none

-- start does not ask whether the agent runs already.
def next (size : Json → Nat) (network : List Json) (a : GossipAgent) : AgentStep → Option GossipAgent
  | .operate op => (a.registry.next a.cfg op).map fun registry => { a with registry := registry }
  | .start joins =>
      some { a with
        running := true
        receivers := a.receivers ++ [if joins then .looking else .ended]
        senders := a.senders ++ [.looking] }
  | .stop => some { a with running := false }
  | .lookOut thread => a.lookOut thread
  | .lookIn thread => a.lookIn thread
  | .gather thread => a.gather thread
  | .send thread _ => (a.sending thread).map fun _ => { a with senders := a.senders.set thread .looking }
  | .receive thread datagram =>
      if a.receivers[thread]? = some .busy then
        network[datagram]?.map fun message => { a.receive size message with receivers := a.receivers.set thread .looking }
      else none
  | .timeout thread =>
      if a.receivers[thread]? = some .busy then some { a with receivers := a.receivers.set thread .looking } else none

end GossipAgent

namespace Gossip

def next (size : Json → Nat) (s : Gossip) : GossipEvent → Option Gossip
  | .agent i event =>
      match s.agents[i]? with
      | none => none
      | some a =>
          (a.next size s.network event).map fun after =>
            match event with
            | .send thread readings => ⟨s.agents.set i after,
                s.network ++ ((a.sending thread).map fun taken => a.buildMessage taken readings).toList,
                s.sent ++ ((a.sending thread).map fun taken => (i, taken)).toList⟩
            | _ => { s with agents := s.agents.set i after }
  | .foreign datagram => some { s with network := s.network ++ [datagram] }

-- Every cluster is driven as its registry asks, and nobody else talks in the group.
def Permitted (s : Gossip) : GossipEvent → Prop
  | .agent i (.operate op) => ∀ a ∈ s.agents[i]?, a.registry.Permitted op
  | .agent _ _ => True
  | .foreign _ => False

end Gossip

abbrev GossipRun (size : Json → Nat) (allowed : Gossip → GossipEvent → Prop) := Runs.Run (Gossip.next size) allowed

-- A ring that an agent can have: of bounded size, without an id twice, everything in
-- place.
structure SoundRing (cfg : Config) (c : Cluster) : Prop where
  partitioned : Partitioned c
  bounded : c.innerRing.length ≤ cfg.maxInnerSize

-- What is known of a peer lists the servers of a ring that an agent of that name had, in
-- their order.
def Gossip.Overheard (size : Json → Nat) (s : Gossip) (peer : String) (view : Json) : Prop :=
  ∃ j a c readings, s.agents[j]? = some a ∧ a.nodeId = peer ∧ (j, c) ∈ s.sent ∧ SoundRing a.cfg c ∧
    view = GossipAgent.serverStates c readings ∧
    size (.obj [("node_id", .str peer), ("servers", view)]) ≤ GossipAgent.maxMessageBytes

structure GossipAgent.Sound (size : Json → Nat) (s : Gossip) (a : GossipAgent) : Prop where
  registered : Registered a.registry
  bounded : a.registry.cluster.innerRing.length ≤ a.cfg.maxInnerSize
  building : ∀ taken, SendPhase.building taken ∈ a.senders → SoundRing a.cfg taken
  overheard : ∀ peer view, a.peerStates.get? peer = some view → peer ≠ "" ∧ peer ≠ a.nodeId ∧ s.Overheard size peer view

-- A message that is on its way, with its length left open.
def Gossip.Spoken (s : Gossip) (message : Json) : Prop :=
  ∃ j a c readings, s.agents[j]? = some a ∧ (j, c) ∈ s.sent ∧ SoundRing a.cfg c ∧
    message = .obj [("node_id", .str a.nodeId), ("servers", GossipAgent.serverStates c readings)]

structure Gossip.Sound (size : Json → Nat) (s : Gossip) : Prop where
  agents : ∀ a ∈ s.agents, a.Sound size s
  network : ∀ message ∈ s.network, s.Spoken message

-- Later states have the same agents, and everything that was sent before.
structure Gossip.Later (s after : Gossip) : Prop where
  agents : ∀ (j : Nat) (a : GossipAgent), s.agents[j]? = some a →
    ∃ b : GossipAgent, after.agents[j]? = some b ∧ b.nodeId = a.nodeId ∧ b.cfg = a.cfg
  sent : s.sent ⊆ after.sent

namespace Gossip

theorem overheard_later (size : Json → Nat) (s after : Gossip) (peer : String) (view : Json) (later : s.Later after)
    (overheard : s.Overheard size peer view) : after.Overheard size peer view := by
  obtain ⟨j, a, c, readings, here, rfl, sent, sound, same, short⟩ := overheard
  obtain ⟨b, there, named, cfg⟩ := later.agents j a here
  exact ⟨j, b, c, readings, there, named, later.sent sent, cfg ▸ sound, same, short⟩

theorem spoken_later (s after : Gossip) (message : Json) (later : s.Later after) (spoken : s.Spoken message) :
    after.Spoken message := by
  obtain ⟨j, a, c, readings, here, sent, sound, rfl⟩ := spoken
  obtain ⟨b, there, named, cfg⟩ := later.agents j a here
  exact ⟨j, b, c, readings, there, later.sent sent, cfg ▸ sound, by rw [named]⟩

theorem agent_later (size : Json → Nat) (s after : Gossip) (a : GossipAgent) (later : s.Later after) (sound : a.Sound size s) :
    a.Sound size after :=
  { sound with overheard := fun peer view known =>
      ⟨(sound.overheard peer view known).1, (sound.overheard peer view known).2.1,
        overheard_later size s after peer view later (sound.overheard peer view known).2.2⟩ }

end Gossip

namespace GossipAgent

structure Kept (size : Json → Nat) (network : List Json) (a after : GossipAgent) : Prop where
  nodeId : after.nodeId = a.nodeId
  cfg : after.cfg = a.cfg
  peers : after.peerStates = a.peerStates ∨ ∃ message ∈ network, after.peerStates = (a.receive size message).peerStates

theorem receive_spec (size : Json → Nat) (a : GossipAgent) (datagram : Json) :
    a.receive size datagram = a ∨ ∃ fields nid, datagram = .obj fields ∧ size datagram ≤ maxMessageBytes ∧
      Json.find? fields "node_id" = some (.str nid) ∧ nid ≠ "" ∧ nid ≠ a.nodeId ∧
      a.receive size datagram = { a with peerStates := a.peerStates.set nid ((Json.find? fields "servers").getD (.arr [])) } := by
  unfold receive
  split
  · rename_i short
    cases datagram with
    | obj fields =>
        dsimp only
        cases found : Json.find? fields "node_id" with
        | none => simp
        | some value =>
            cases value with
            | str nid =>
                by_cases other : nid ≠ "" ∧ nid ≠ a.nodeId
                · exact Or.inr ⟨fields, nid, rfl, short, found, other.1, other.2, if_pos other⟩
                · exact Or.inl (if_neg other)
            | _ => exact Or.inl rfl
    | _ => exact Or.inl rfl
  · exact Or.inl rfl

theorem kept_next (size : Json → Nat) (network : List Json) (a after : GossipAgent) (event : AgentStep)
    (taken : a.next size network event = some after) : a.Kept size network after := by
  cases event with
  | operate op =>
      cases taken
      exact ⟨rfl, rfl, Or.inl rfl⟩
  | start | stop =>
      cases taken
      exact ⟨rfl, rfl, Or.inl rfl⟩
  | lookOut thread =>
      simp only [next, GossipAgent.lookOut] at taken
      split at taken <;> cases taken
      exact ⟨rfl, rfl, Or.inl rfl⟩
  | lookIn thread =>
      simp only [next, GossipAgent.lookIn] at taken
      split at taken <;> cases taken
      exact ⟨rfl, rfl, Or.inl rfl⟩
  | gather thread =>
      simp only [next, GossipAgent.gather] at taken
      split at taken <;> cases taken
      exact ⟨rfl, rfl, Or.inl rfl⟩
  | send thread readings =>
      obtain ⟨_, _, rfl⟩ := Option.map_eq_some_iff.mp taken
      exact ⟨rfl, rfl, Or.inl rfl⟩
  | timeout thread =>
      simp only [next] at taken
      split at taken
      · cases taken
        exact ⟨rfl, rfl, Or.inl rfl⟩
      · cases taken
  | receive thread datagram =>
      simp only [next] at taken
      split at taken
      · obtain ⟨message, found, rfl⟩ := Option.map_eq_some_iff.mp taken
        rcases receive_spec size a message with same | ⟨_, _, _, _, _, _, _, same⟩
        · exact ⟨by rw [same], by rw [same], Or.inr ⟨message, List.mem_of_getElem? found, rfl⟩⟩
        · exact ⟨by rw [same], by rw [same], Or.inr ⟨message, List.mem_of_getElem? found, rfl⟩⟩
      · cases taken

structure Grounded (a : GossipAgent) : Prop where
  registered : Registered a.registry
  bounded : a.registry.cluster.innerRing.length ≤ a.cfg.maxInnerSize
  building : ∀ taken, SendPhase.building taken ∈ a.senders → SoundRing a.cfg taken

theorem grounded_set (a after : GossipAgent) (thread : Nat) (phase : SendPhase) (grounded : a.Grounded)
    (registry : after.registry = a.registry) (cfg : after.cfg = a.cfg) (senders : after.senders = a.senders.set thread phase)
    (sound : ∀ taken, phase = .building taken → SoundRing a.cfg taken) : after.Grounded := by
  refine ⟨registry ▸ grounded.registered, by rw [registry, cfg]; exact grounded.bounded, fun taken member => ?_⟩
  rw [senders] at member
  rw [cfg]
  rcases List.mem_or_eq_of_mem_set member with before | same
  · exact grounded.building taken before
  · exact sound taken same.symm

theorem grounded_same (a after : GossipAgent) (grounded : a.Grounded) (registry : after.registry = a.registry)
    (cfg : after.cfg = a.cfg) (senders : after.senders = a.senders) : after.Grounded :=
  ⟨registry ▸ grounded.registered, by rw [registry, cfg]; exact grounded.bounded, by rw [senders, cfg]; exact grounded.building⟩

theorem grounded_next (size : Json → Nat) (network : List Json) (a after : GossipAgent) (event : AgentStep)
    (taken : a.next size network event = some after) (permitted : ∀ op, event = .operate op → a.registry.Permitted op)
    (grounded : a.Grounded) : after.Grounded := by
  cases event with
  | operate op =>
      cases taken
      exact ⟨step_registered a.cfg a.registry op grounded.registered (permitted op rfl),
        step_bounded a.cfg a.registry.cluster op grounded.bounded, grounded.building⟩
  | start joins =>
      cases taken
      refine ⟨grounded.registered, grounded.bounded, fun taken member => ?_⟩
      rcases List.mem_append.mp member with before | fresh
      · exact grounded.building taken before
      · cases List.mem_singleton.mp fresh
  | stop =>
      cases taken
      exact grounded_same a _ grounded rfl rfl rfl
  | lookOut thread =>
      simp only [next, GossipAgent.lookOut] at taken
      split at taken <;> cases taken
      refine grounded_set a _ thread _ grounded rfl rfl rfl fun taken same => ?_
      split at same <;> cases same
  | lookIn thread =>
      simp only [next, GossipAgent.lookIn] at taken
      split at taken <;> cases taken
      exact grounded_same a _ grounded rfl rfl rfl
  | gather thread =>
      simp only [next, GossipAgent.gather] at taken
      split at taken <;> cases taken
      refine grounded_set a _ thread _ grounded rfl rfl rfl fun taken same => ?_
      cases same
      exact ⟨grounded.registered.partitioned, grounded.bounded⟩
  | send thread readings =>
      obtain ⟨_, _, rfl⟩ := Option.map_eq_some_iff.mp taken
      exact grounded_set a _ thread .looking grounded rfl rfl rfl fun taken same => by cases same
  | timeout thread =>
      simp only [next] at taken
      split at taken
      · cases taken
        exact grounded_same a _ grounded rfl rfl rfl
      · cases taken
  | receive thread datagram =>
      simp only [next] at taken
      split at taken
      · obtain ⟨message, _, rfl⟩ := Option.map_eq_some_iff.mp taken
        rcases receive_spec size a message with same | ⟨_, _, _, _, _, _, _, same⟩ <;> rw [same] <;>
          exact grounded_same a _ grounded rfl rfl rfl
      · cases taken

theorem sending_building (a : GossipAgent) (thread : Nat) (taken : Cluster) (sends : a.sending thread = some taken) :
    SendPhase.building taken ∈ a.senders := by
  unfold sending at sends
  split at sends
  · rename_i here
    cases sends
    exact List.mem_of_getElem? here
  · cases sends

end GossipAgent

namespace Gossip

theorem later_set (s after : Gossip) (i : Nat) (a b : GossipAgent) (here : s.agents[i]? = some a)
    (named : b.nodeId = a.nodeId) (cfg : b.cfg = a.cfg) (agents : after.agents = s.agents.set i b) (sent : s.sent ⊆ after.sent) :
    s.Later after := by
  refine ⟨fun j other there => ?_, sent⟩
  rw [agents, List.getElem?_set]
  by_cases same : i = j
  · subst same
    obtain rfl : other = a := Option.some.inj (there.symm.trans here)
    have inside := (List.getElem?_eq_some_iff.mp here).1
    exact ⟨b, by simp [inside], named, cfg⟩
  · exact ⟨other, by simp [same, there], rfl, rfl⟩

theorem overheard_receive (size : Json → Nat) (s : Gossip) (a : GossipAgent) (message : Json) (sound : a.Sound size s)
    (spoken : s.Spoken message) (peer : String) (view : Json) (known : (a.receive size message).peerStates.get? peer = some view) :
    peer ≠ "" ∧ peer ≠ a.nodeId ∧ s.Overheard size peer view := by
  obtain ⟨j, sender, c, readings, there, sent, ring, rfl⟩ := spoken
  rcases GossipAgent.receive_spec size a (.obj [("node_id", .str sender.nodeId), ("servers", GossipAgent.serverStates c readings)]) with
    same | ⟨fields, nid, whole, short, found, named, other, stored⟩
  · rw [same] at known
    exact sound.overheard peer view known
  · cases whole
    obtain rfl : sender.nodeId = nid := by simpa [Json.find?, Dict.last?] using found
    rw [stored, Dict.get_set] at known
    by_cases fresh : peer = sender.nodeId
    · subst fresh
      obtain rfl : GossipAgent.serverStates c readings = view := by simpa [Json.find?, Dict.last?] using known
      exact ⟨named, other, j, sender, c, readings, there, rfl, sent, ring, rfl, short⟩
    · rw [if_neg fresh] at known
      exact sound.overheard peer view known

theorem later_next (size : Json → Nat) (s after : Gossip) (event : GossipEvent) (taken : s.next size event = some after) :
    s.Later after := by
  cases event with
  | agent i event =>
      simp only [next] at taken
      split at taken
      · cases taken
      · rename_i a here
        obtain ⟨b, moved, rfl⟩ := Option.map_eq_some_iff.mp taken
        have kept := GossipAgent.kept_next size s.network a b event moved
        split
        · exact later_set s _ i a b here kept.nodeId kept.cfg rfl (List.subset_append_left _ _)
        · exact later_set s _ i a b here kept.nodeId kept.cfg rfl (List.Subset.refl _)
  | foreign datagram =>
      cases taken
      exact ⟨fun j a here => ⟨a, here, rfl, rfl⟩, List.Subset.refl _⟩

theorem sound_next (size : Json → Nat) (s after : Gossip) (event : GossipEvent) (sound : s.Sound size) (permitted : s.Permitted event)
    (taken : s.next size event = some after) : after.Sound size := by
  have later := later_next size s after event taken
  cases event with
  | agent i event =>
      simp only [next] at taken
      split at taken
      · cases taken
      · rename_i a here
        obtain ⟨b, moved, rfl⟩ := Option.map_eq_some_iff.mp taken
        have old := sound.agents a (List.mem_of_getElem? here)
        have kept := GossipAgent.kept_next size s.network a b event moved
        have asked : ∀ op, event = .operate op → a.registry.Permitted op := by
          rintro op rfl
          exact permitted a here
        have grounded := GossipAgent.grounded_next size s.network a b event moved asked ⟨old.registered, old.bounded, old.building⟩
        have new : b.Sound size s := by
          refine ⟨grounded.registered, grounded.bounded, grounded.building, fun peer view known => ?_⟩
          rw [kept.nodeId]
          rcases kept.peers with same | ⟨message, member, same⟩
          · exact old.overheard peer view (same ▸ known)
          · exact overheard_receive size s a message old (sound.network message member) peer view (same ▸ known)
        have others : ∀ other ∈ s.agents.set i b, other.Sound size s := by
          intro other member
          rcases List.mem_or_eq_of_mem_set member with before | rfl
          · exact sound.agents other before
          · exact new
        cases event with
        | send thread readings =>
            refine ⟨fun other member => agent_later size s _ other later (others other member), fun message member => ?_⟩
            rcases List.mem_append.mp member with before | fresh
            · exact spoken_later s _ message later (sound.network message before)
            · obtain ⟨d, there, named, cfg⟩ := later.agents i a here
              obtain ⟨taken, sends, rfl⟩ := Option.map_eq_some_iff.mp (Option.mem_toList.mp fresh)
              have ring := old.building taken (GossipAgent.sending_building a thread taken sends)
              refine ⟨i, d, taken, readings, there, List.mem_append_right _ ?_, cfg ▸ ring, by rw [GossipAgent.buildMessage, named]⟩
              rw [sends]
              exact List.mem_singleton_self _
        | _ =>
            exact ⟨fun other member => agent_later size s _ other later (others other member),
              fun message member => spoken_later s _ message later (sound.network message member)⟩
  | foreign datagram => exact permitted.elim

def Knows (s : Gossip) (i : Nat) (peer : String) : Prop :=
  ∃ a : GossipAgent, s.agents[i]? = some a ∧ (a.peerStates.get? peer).isSome = true

theorem known_next (size : Json → Nat) (s after : Gossip) (event : GossipEvent) (taken : s.next size event = some after) (i : Nat)
    (peer : String) (known : s.Knows i peer) : after.Knows i peer := by
  cases event with
  | agent j event =>
      obtain ⟨a, here, listed⟩ := known
      simp only [next] at taken
      split at taken
      · cases taken
      · rename_i other there
        obtain ⟨b, moved, rfl⟩ := Option.map_eq_some_iff.mp taken
        have agents : ∀ after : Gossip, after.agents = s.agents.set j b → after.Knows i peer := by
          rintro after same
          rw [Knows, same, List.getElem?_set]
          by_cases at' : j = i
          · subst at'
            obtain rfl : a = other := Option.some.inj (here.symm.trans there)
            refine ⟨b, by simp [(List.getElem?_eq_some_iff.mp here).1], ?_⟩
            rcases (GossipAgent.kept_next size s.network a b event moved).peers with same | ⟨message, _, same⟩
            · rwa [same]
            · rw [same]
              rcases GossipAgent.receive_spec size a message with same | ⟨_, nid, _, _, _, _, _, stored⟩
              · rwa [same]
              · rw [stored, Dict.get_set]
                split
                · rfl
                · exact listed
          · exact ⟨a, by simp [at', here], listed⟩
        split <;> exact agents _ rfl
  | foreign datagram =>
      cases taken
      exact known

end Gossip

-- However the datagrams are lost, doubled and delayed, what an agent knows of a peer is
-- the list of a sound ring that an agent of that name did send, and a peer once known stays
-- known.
theorem gossip_views (size : Json → Nat) (start middle s : Gossip) (head tail : List GossipEvent)
    (silent : start.network = []) (fresh : ∀ a ∈ start.agents, Registered a.registry ∧ a.registry.cluster.innerRing = [] ∧
      a.senders = [] ∧ a.peerStates = .empty)
    (before : GossipRun size Gossip.Permitted start head middle) (after : GossipRun size Gossip.Permitted middle tail s) :
    (∀ a ∈ s.agents, ∀ peer view, a.peerStates.get? peer = some view → peer ≠ "" ∧ peer ≠ a.nodeId ∧
    s.Overheard size peer view) ∧
      ∀ i peer, middle.Knows i peer → s.Knows i peer := by
  constructor
  · have initial : start.Sound size := by
      refine ⟨fun a member => ?_, fun message member => by simp [silent] at member⟩
      obtain ⟨registered, empty, unsent, unknown⟩ := fresh a member
      exact ⟨registered, by simp [empty], by simp [unsent], fun peer view known => by simp [unknown] at known⟩
    have sound : s.Sound size := by
      refine Runs.run_invariant (Gossip.next size) _ (Gossip.Sound size) ?_ start s _ initial (Runs.run_append _ _ _ _ _ _ _ before after)
      exact fun state event next held permitted taken => Gossip.sound_next size state next event held permitted taken
    exact fun a member => (sound.agents a member).overheard
  · intro i peer known
    refine Runs.run_invariant (Gossip.next size) _ (fun state => state.Knows i peer) ?_ middle s tail known after
    exact fun state event next held _ taken => Gossip.known_next size state next event taken i peer held

def freshAgent (nodeId : String) : GossipAgent :=
  { cfg := smallestRing
    nodeId := nodeId
    registry := ⟨.empty smallestRing (fun _ => { id := "s" }) none none none ⟨fun ticks => ticks, 0⟩, []⟩ }

def twoAgents : Gossip := { agents := [freshAgent "a", freshAgent "b"] }

theorem two_agents_fresh : ∀ a ∈ twoAgents.agents, Registered a.registry ∧ a.registry.cluster.innerRing = [] ∧
    a.senders = [] ∧ a.peerStates = .empty := by
  intro a member
  rcases List.mem_pair.mp member with rfl | rfl <;>
    exact ⟨⟨partitioned_empty smallestRing _ _ _ _ _, .refl _⟩, rfl, rfl, rfl⟩

def oneHears : List GossipEvent :=
  [.agent 0 (.operate (.addServer 0 true)), .agent 0 (.start true), .agent 1 (.start true), .agent 0 (.lookOut 0), .agent 0 (.gather 0),
    .agent 0 (.operate (.forceEvict "s")), .agent 0 (.send 0 fun _ => ⟨0, 0, .outer⟩), .agent 1 (.lookIn 0), .agent 1 (.receive 0 0)]

instance (s : Gossip) (event : GossipEvent) : Decidable (s.Permitted event) :=
  match event with
  | .agent i (.operate op) => inferInstanceAs (Decidable (∀ a ∈ s.agents[i]?, a.registry.Permitted op))
  | .agent _ (.start _) | .agent _ .stop | .agent _ (.lookOut _) | .agent _ (.lookIn _) | .agent _ (.gather _)
  | .agent _ (.send _ _) | .agent _ (.receive _ _)
  | .agent _ (.timeout _) => isTrue trivial
  | .foreign _ => isFalse id

def heardServer : Json := .arr [.obj [("id", .str "s"), ("temp", .number 0), ("avg_ms", .number 0), ("pos", .str "outer")]]

-- The server is evicted after the list was taken and before its fields are read. The
-- message is 86 bytes long.
theorem gossip_views_heard : ∃ s : Gossip, s.Overheard (fun _ => 86) "a" heardServer := by
  have followed : ∃ s ∈ Runs.follow (Gossip.next fun _ => 86) Gossip.Permitted twoAgents oneHears,
      ∃ a ∈ s.agents, a.peerStates.get? "a" = some heardServer := by
    decide +kernel
  obtain ⟨s, reached, a, member, known⟩ := followed
  have run := Runs.follow_run _ _ _ s _ reached
  have views := (gossip_views (fun _ => 86) twoAgents s s oneHears [] rfl two_agents_fresh run .nil).1
  exact ⟨s, (views a member "a" heardServer known).2.2⟩

end HuddleCluster.Ring
