import HuddleCluster.HA.Campaign

set_option autoImplicit false

namespace HuddleCluster.HA

-- A deployment: every node has an id and a url of its own, and its peers are
-- the urls of all the others, once each.
structure Membership (ι : Type) [Fintype ι] [DecidableEq ι] where
  settings : ι → Settings
  url : ι → String
  ids : Function.Injective fun i => (settings i).id
  urls : Function.Injective url
  distinct : ∀ i, (settings i).peers.Nodup
  others : ∀ i address, address ∈ (settings i).peers ↔ ∃ j, j ≠ i ∧ url j = address

structure VoteCall (ι : Type) where
  caller : ι
  callee : ι
  term : Int
  reply : Option VoteReply := none
deriving DecidableEq

-- All nodes, the vote requests ever sent, and the one each election thread is
-- waiting for. The last list is not part of the program: who became leader, and
-- in which term.
structure System (ι : Type) where
  nodes : ι → Process
  calls : List (VoteCall ι)
  waiting : ι → Option Nat
  elected : List (ι × Int)

-- A request may be handled at any later time or never, also when its caller has
-- given up; vote and append requests from elsewhere are steps of one node.
inductive SystemEvent (ι : Type) where
  | ask (caller callee : ι)
  | deliver (call : Nat) (timing : Timing)
  | answer (caller : ι) (timing : Timing)
  | giveUp (caller : ι)
  | step (node : ι) (event : Event)

namespace System

variable {ι : Type} [Fintype ι] [DecidableEq ι]

def start (m : Membership ι) (boots : ι → ℚ × Timing) : System ι where
  nodes := fun i => .fresh (boots i).1 (m.settings i) (boots i).2
  calls := []
  waiting := fun _ => none
  elected := []

def ask (m : Membership ι) (c : System ι) (caller callee : ι) : Option (System ι) :=
  match (c.nodes caller).election, c.waiting caller with
  | .campaign term _ (peer :: _), none =>
      if m.url callee = peer then
        some { c with
          calls := c.calls ++ [⟨caller, callee, term, none⟩]
          waiting := Function.update c.waiting caller (some c.calls.length) }
      else none
  | _, _ => none

def deliver (m : Membership ι) (c : System ι) (k : Nat) (timing : Timing) : Option (System ι) :=
  match c.calls[k]? with
  | some ⟨caller, callee, term, none⟩ =>
      let answer := (c.nodes callee).voteRequest (m.settings callee) (m.settings caller).id term timing
      some { c with
        nodes := Function.update c.nodes callee answer.2
        calls := c.calls.set k ⟨caller, callee, term, some answer.1⟩ }
  | _ => none

def receive (m : Membership ι) (c : System ι) (caller : ι) (reply : Option VoteReply) (timing : Timing) : Option (System ι) :=
  ((c.nodes caller).voteReply (m.settings caller) reply timing).map fun p =>
    { c with nodes := Function.update c.nodes caller p, waiting := Function.update c.waiting caller none }

def replyFor (c : System ι) (caller : ι) : Option VoteReply :=
  (c.waiting caller).bind fun k => c.calls[k]?.bind VoteCall.reply

def answer (m : Membership ι) (c : System ι) (caller : ι) (timing : Timing) : Option (System ι) :=
  match c.replyFor caller with
  | some reply => c.receive m caller (some reply) timing
  | none => none

def step (m : Membership ι) (c : System ι) (i : ι) (event : Event) : Option (System ι) :=
  if event.isVoteReply then none
  else
    ((c.nodes i).next (m.settings i) event).map fun p =>
      { c with
        nodes := Function.update c.nodes i p
        waiting := if event.restarts then Function.update c.waiting i none else c.waiting
        elected := if (c.nodes i).elects (m.settings i) event then c.elected ++ [(i, p.node.term)] else c.elected }

def next (m : Membership ι) (c : System ι) : SystemEvent ι → Option (System ι)
  | .ask caller callee => c.ask m caller callee
  | .deliver call timing => c.deliver m call timing
  | .answer caller timing => c.answer m caller timing
  | .giveUp caller => c.receive m caller none ⟨0, 0⟩
  | .step node event => c.step m node event

-- Replies are not acted on late, a winner is still in the term it ran for, and no node
-- is attached alone.
def Timely (m : Membership ι) (c : System ι) : SystemEvent ι → Prop
  | .answer caller timing => ∀ reply ∈ c.replyFor caller, (c.nodes caller).Guarded (.voteReply (some reply) timing)
  | .step node event => (c.nodes node).Guarded event ∧ (event.attaches = true → (m.settings node).peers ≠ []) ∧
      ((c.nodes node).elects (m.settings node) event = true →
        ∀ term ∈ (c.nodes node).election.campaignTerm, (c.nodes node).node.term = term)
  | _ => True

instance (m : Membership ι) (c : System ι) (event : SystemEvent ι) : Decidable (c.Timely m event) := by
  cases event <;> (unfold Timely; infer_instance)

end System

abbrev SystemRun {ι : Type} [Fintype ι] [DecidableEq ι] (m : Membership ι) (allowed : System ι → SystemEvent ι → Prop) :=
  Runs.Run (System.next m) allowed

end HuddleCluster.HA
