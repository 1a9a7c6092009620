import HuddleCluster.Api.Dispatch
import HuddleCluster.HA.Agreement

set_option autoImplicit false

namespace HuddleCluster.Api

open HA (Deployment DeploymentEvent DeploymentRun Membership Timing)

-- Without the HA component a master is ready as long as it runs.
def MasterNode.isReady (s : HA.Settings) (running : Bool) (m : MasterNode) : Bool :=
  if !running then false
  else match m.ha with
    | some node => node.isReady s running
    | none => true

def redirect (url target : String) : Response :=
  .sent 307 [("Location", url ++ target), ("X-Leader-URL", url)] (.obj [
    ("ok", .bool false), ("error", .str "not the leader — retry against the leader"), ("leader_url", .str url)])

variable {ι : Type} [Fintype ι] [DecidableEq ι]

theorem redirected (request : Request) (master : MasterNode) (node : HA.Node) (url : String) (ha : master.ha = some node)
    (writable : node.isReadonly = false) (follows : node.isLeader = false) (known : node.leaderUrl = some url) (named : url ≠ "") :
    request.checkLeader master = .error (redirect url request.target) := by
  unfold Request.checkLeader
  simp only [ha, writable, follows, known, Bool.false_eq_true, if_false]
  rfl

theorem join_not_ha : Method.post = .post → ["", "v1", "nodes", "join"] ∉ haPaths := by decide

def joinRequest : Request := { method := .post, path := ["", "v1", "nodes", "join"], notHa := join_not_ha }

end HuddleCluster.Api
