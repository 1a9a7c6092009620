import HuddleCluster.Lib.Numeral
import HuddleCluster.Lib.Statistics

set_option autoImplicit false

namespace HuddleCluster.Scheduler

open Double (nearest)

structure NodeDict where
  nodeId : String
  fields : List (String × Json)

namespace NodeDict

def get (node : NodeDict) (key : String) : Json := Json.get node.fields key

def getD (node : NodeDict) (key : String) (fallback : Json) : Json := (Json.find? node.fields key).getD fallback

def isText (value : Json) (text : String) : Bool :=
  match value with
  | .str other => other == text
  | _ => false

def hasStatus (node : NodeDict) (status : String) : Bool := isText (node.get "status") status

def eligible (node : NodeDict) : Bool := !node.hasStatus "dead" && !node.hasStatus "leaving"

-- (node.get(key) or {}).get(inner, ...) raises when the value is neither empty
-- nor an object.
def section? (node : NodeDict) (key : String) : Option (List (String × Json)) :=
  match (node.get key).orElse (.obj []) with
  | .obj fields => some fields
  | _ => none

end NodeDict

def dict? (value : Json) : Option (List (String × Json)) :=
  match value.orElse (.obj []) with
  | .obj fields => some fields
  | _ => none

theorem section_dict (node : NodeDict) (key : String) : node.section? key = dict? (node.get key) := rfl

-- a / b, which raises on a zero divisor.
def divide? (a b : ℚ) : Option ℚ := if b = 0 then none else some (a / b)

-- The literal 0.1.
def tenth : ℚ := nearest (1 / 10)

-- Only a TypeError or a ValueError of float() is caught. The quotient of an infinite
-- rate or of nan is not above 0.1.
def loadFactor? (requestsPerSec : Json) : Option ℚ :=
  match requestsPerSec with
  | .null => some 1
  | value =>
      match value.toFloat? with
      | none => if value.overflows then none else some 1
      | some (.finite rps) => (divide? 1 (nearest (1 + nearest (rps / 100)))).map fun factor => max tenth (nearest factor)
      | some _ => some tenth

def freshness (lastSeen : ℚ) : ℚ := max 0 (nearest (1 - nearest (lastSeen / 60)))

def stability? (deathCount : Int) : Option ℚ :=
  (divide? 1 (nearest (1 + nearest deathCount))).map fun factor => max tenth (nearest factor)

def warmup (heartbeatCount : Int) : ℚ :=
  nearest (1 + nearest (max 0 (nearest (1 - nearest (nearest heartbeatCount / 50))) * nearest (2 / 10)))

def product (freshness stability quarantineFactor loadFactor warmup : ℚ) : ℚ :=
  nearest (nearest (nearest (nearest (freshness * stability) * quarantineFactor) * loadFactor) * warmup)

-- The score of a node, or none where computing it raises. A node without a
-- status counts as dead here, while pick lets it through its first filter.
def nodeFitness (node : NodeDict) : Option ℚ :=
  let status := node.getD "status" (.str "dead")
  if NodeDict.isText status "dead" || NodeDict.isText status "leaving" then some (-1)
  else do
    let lastSeen ← (node.getD "last_seen_ago_sec" (.int 0)).toRational?
    let deathCount ← (node.getD "death_count" (.int 0)).toInt?
    let heartbeatCount ← (node.getD "heartbeat_count" (.int 0)).toInt?
    let metrics ← node.section? "metrics"
    let stability ← stability? deathCount
    let loadFactor ← loadFactor? (Json.get metrics "requests_per_sec")
    let quarantineFactor : ℚ := if NodeDict.isText status "quarantined" then 1 / 2 else 1
    some (nearest (Statistics.roundTo 4 (product (freshness lastSeen) stability quarantineFactor loadFactor (warmup heartbeatCount))))

theorem has_status_iff (node : NodeDict) (status : String) : node.hasStatus status = true ↔ node.get "status" = .str status := by
  simp only [NodeDict.hasStatus]
  cases held : node.get "status" <;> simp [NodeDict.isText]

theorem status_found (node : NodeDict) (status : String) (fallback : Json) (has : node.hasStatus status = true) :
    node.getD "status" fallback = .str status := by
  rw [has_status_iff, NodeDict.get, Json.get] at has
  rw [NodeDict.getD]
  cases found : Json.find? node.fields "status" with
  | none => simp [found] at has
  | some value => simpa [found] using has

theorem tenth_pos : 0 < tenth := by decide +kernel

theorem freshness_nonneg (lastSeen : ℚ) : 0 ≤ freshness lastSeen := le_max_left _ _

theorem stability_nonneg (deathCount : Int) (factor : ℚ) (computed : stability? deathCount = some factor) : 0 ≤ factor := by
  obtain ⟨_, _, rfl⟩ := Option.map_eq_some_iff.mp computed
  exact tenth_pos.le.trans (le_max_left _ _)

theorem load_factor_nonneg (requestsPerSec : Json) (factor : ℚ) (computed : loadFactor? requestsPerSec = some factor) :
    0 ≤ factor := by
  simp only [loadFactor?] at computed
  split at computed
  · cases computed
    exact zero_le_one
  · split at computed
    · split at computed
      · cases computed
      · cases computed
        exact zero_le_one
    · obtain ⟨_, _, rfl⟩ := Option.map_eq_some_iff.mp computed
      exact tenth_pos.le.trans (le_max_left _ _)
    · cases computed
      exact tenth_pos.le

theorem warmup_nonneg (heartbeatCount : Int) : 0 ≤ warmup heartbeatCount := by
  have bonus : 0 ≤ nearest (2 / 10) := Double.nearest_nonneg _ (by norm_num)
  have extra := mul_nonneg (le_max_left 0 (nearest (1 - nearest (nearest heartbeatCount / 50)))) bonus
  exact Double.nearest_nonneg _ (add_nonneg zero_le_one (Double.nearest_nonneg _ extra))

theorem product_nonneg (freshness stability quarantineFactor loadFactor warmup : ℚ) (fresh : 0 ≤ freshness) (steady : 0 ≤ stability)
    (trusted : 0 ≤ quarantineFactor) (light : 0 ≤ loadFactor) (young : 0 ≤ warmup) :
    0 ≤ product freshness stability quarantineFactor loadFactor warmup := by
  apply Double.nearest_nonneg _ (mul_nonneg _ young)
  apply Double.nearest_nonneg _ (mul_nonneg _ light)
  apply Double.nearest_nonneg _ (mul_nonneg _ trusted)
  exact Double.nearest_nonneg _ (mul_nonneg fresh steady)

theorem fitness_nonneg (node : NodeDict) (fit : ℚ) (status : String) (has : node.hasStatus status = true)
    (serving : status ≠ "dead" ∧ status ≠ "leaving") (computed : nodeFitness node = some fit) : 0 ≤ fit := by
  have known := status_found node status (.str "dead") has
  simp only [nodeFitness, known, NodeDict.isText] at computed
  rw [if_neg (by simp [serving])] at computed
  simp only [Option.bind_eq_bind, Option.bind_eq_some_iff] at computed
  obtain ⟨lastSeen, _, deathCount, _, heartbeatCount, _, metrics, _, stability, stable, load, loaded, value⟩ := computed
  cases value
  have trusted : (0 : ℚ) ≤ if (status == "quarantined") = true then 1 / 2 else 1 := by
    split <;> norm_num
  apply Double.nearest_nonneg
  apply Statistics.round_to_nonneg
  exact product_nonneg _ _ _ _ _ (freshness_nonneg lastSeen) (stability_nonneg deathCount stability stable) trusted
    (load_factor_nonneg _ load loaded) (warmup_nonneg heartbeatCount)

end HuddleCluster.Scheduler
