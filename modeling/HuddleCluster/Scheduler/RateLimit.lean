import HuddleCluster.Scheduler.Pick

set_option autoImplicit false

namespace HuddleCluster.Scheduler

open TokenBucket
open Double (nearest)

namespace ClusterScheduler

def consumed (s : ClusterScheduler) (nodeId : String) : Nat :=
  match s.buckets.get? nodeId with
  | none => 0
  | some bucket => bucket.consumed

def markedIn (marks : List Mark) (nodeId : String) (inside : ℚ → Bool) : Nat :=
  marks.countP fun mark => decide (mark.nodeId = nodeId) && inside mark.time

def returned (s : ClusterScheduler) (nodeId : String) : Nat := markedIn s.picks nodeId fun _ => true

end ClusterScheduler

open ClusterScheduler

-- Every pick that returned a node took one of its tokens.
def Charged (s : ClusterScheduler) : Prop := ∀ nodeId, s.returned nodeId = s.consumed nodeId

-- A call in its critical section finds its key unbound in its pool, and the
-- bucket of the node that scores best still has a token.
structure PaysFor (cfg : Settings) (limits : Limits ℚ) (s : ClusterScheduler) (call : PickCall) (eligible : List NodeDict)
    (now : ℚ) : Prop where
  unbound : s.boundNode call.affinityKey eligible = none
  token : ∀ node, s.select cfg call.now eligible = some (some node) →
    1 ≤ ((getOrCreate limits s node.nodeId now).refill limits now).tokens

def Paid (cfg : Settings) (limits : Limits ℚ) (s : ClusterScheduler) : PickEvent → Prop
  | .choose i now =>
      match s.calls[i]? with
      | none => True
      | some call =>
          match call.phase with
          | .choosing eligible => PaysFor cfg limits s call eligible now
          | _ => True
  | _ => True

theorem paid_choose (cfg : Settings) (limits : Limits ℚ) (s : ClusterScheduler) (i : Nat) (now : ℚ) (call : PickCall)
    (eligible : List NodeDict) (here : s.calls[i]? = some call) (choosing : call.phase = .choosing eligible) :
    Paid cfg limits s (.choose i now) ↔ PaysFor cfg limits s call eligible now := by
  simp only [Paid, here, choosing]

theorem pays_iff (cfg : Settings) (limits : Limits ℚ) (s : ClusterScheduler) (i : Nat) (now : ℚ) :
    (∀ call ∈ s.calls[i]?, ∀ eligible ∈ call.phase.choosing?, PaysFor cfg limits s call eligible now) ↔
      Paid cfg limits s (.choose i now) := by
  cases here : s.calls[i]? with
  | none => simp [Paid, here]
  | some call => cases choosing : call.phase <;> simp [Paid, here, choosing, PickPhase.choosing?]

@[simp] theorem marked_append (marks : List Mark) (mark : Mark) (nodeId : String) (inside : ℚ → Bool) :
    markedIn (marks ++ [mark]) nodeId inside =
      markedIn marks nodeId inside + if mark.nodeId = nodeId ∧ inside mark.time = true then 1 else 0 := by
  simp [markedIn, List.countP_append, List.countP_cons]

theorem best_leads (cfg : Settings) (s : ClusterScheduler) (now : ℚ) (nodes : List NodeDict) (node : NodeDict)
    (chosen : s.best cfg now nodes = some (some node)) :
    ∃ score, Leader.Leads (s.score cfg now) nodes node score ∧ 0 ≤ score := by
  obtain ⟨ranked, computed, chosen⟩ := Option.map_eq_some_iff.mp chosen
  split at chosen
  · cases chosen
  · rename_i top highest found
    split at chosen
    · rename_i nonneg
      cases chosen
      exact ⟨highest, Leader.argmax_leads _ nodes ranked computed node highest found, nonneg⟩
    · cases chosen

theorem best_scored (cfg : Settings) (s : ClusterScheduler) (now : ℚ) (nodes : List NodeDict) (node : NodeDict)
    (chosen : s.best cfg now nodes = some (some node)) : ∃ score, s.score cfg now node = some score ∧ 0 ≤ score := by
  obtain ⟨score, ⟨_, _, _, scoring, _⟩, nonneg⟩ := best_leads cfg s now nodes node chosen
  exact ⟨score, scoring, nonneg⟩

theorem select_inside (cfg : Settings) (s : ClusterScheduler) (now : ℚ) (eligible : List NodeDict) (node : NodeDict)
    (chosen : s.select cfg now eligible = some (some node)) : node ∈ eligible := by
  have inside (nodes : List NodeDict) (found : s.best cfg now nodes = some (some node)) : node ∈ nodes := by
    obtain ⟨score, leads, _⟩ := best_leads cfg s now nodes node found
    exact Leader.leads_member _ nodes node score leads
  simp only [select] at chosen
  split at chosen
  · split at chosen
    · cases chosen
    · rename_i alive found
      cases chosen
      exact (List.mem_filter.mp (inside _ found)).1
    · exact (List.mem_filter.mp (inside _ chosen)).1
  · exact inside _ chosen

theorem select_scored (cfg : Settings) (s : ClusterScheduler) (now : ℚ) (eligible : List NodeDict) (node : NodeDict)
    (chosen : s.select cfg now eligible = some (some node)) : ∃ score, s.score cfg now node = some score ∧ 0 ≤ score := by
  simp only [select] at chosen
  split at chosen
  · split at chosen
    · cases chosen
    · rename_i alive found
      cases chosen
      exact best_scored cfg s now _ node found
    · exact best_scored cfg s now _ node chosen
  · exact best_scored cfg s now _ node chosen

-- The score of a chosen node has read its heat, so the heat can be raised.
theorem select_heat (cfg : Settings) (s : ClusterScheduler) (now : ℚ) (eligible : List NodeDict) (node : NodeDict)
    (chosen : s.select cfg now eligible = some (some node)) : ∃ warmed, s.applyHeat cfg node.nodeId now = some warmed := by
  obtain ⟨score, scoring, nonneg⟩ := select_scored cfg s now eligible node chosen
  simp only [ClusterScheduler.score] at scoring
  split at scoring
  · cases scoring
  · split at scoring
    · cases scoring
      norm_num at nonneg
    · split at scoring
      · cases scoring
      · rename_i heat known
        exact ⟨_, by rw [applyHeat, known, Option.map_some]⟩

inductive Chosen (cfg : Settings) (s : ClusterScheduler) (now : ℚ) (call : PickCall) (eligible : List NodeDict)
    (after : ClusterScheduler) : Prop where
  | bound (node : NodeDict) (found : s.boundNode call.affinityKey eligible = some node)
      (picks : after.picks = s.picks ++ [⟨node.nodeId, now⟩]) (buckets : after.buckets = s.buckets)
  | nobody (unbound : s.boundNode call.affinityKey eligible = none)
      (unselected : ∀ node, s.select cfg call.now eligible ≠ some (some node)) (picks : after.picks = s.picks)
      (buckets : after.buckets = s.buckets)
  | selected (node : NodeDict) (unbound : s.boundNode call.affinityKey eligible = none)
      (chosen : s.select cfg call.now eligible = some (some node)) (picks : after.picks = s.picks ++ [⟨node.nodeId, now⟩])
      (buckets : after.buckets = (s.consume cfg node.nodeId now).buckets)

theorem bind_frame (s : ClusterScheduler) (affinityKey : Option String) (nodeId : String) :
    (s.bind affinityKey nodeId).picks = s.picks ∧ (s.bind affinityKey nodeId).buckets = s.buckets ∧
      (s.bind affinityKey nodeId).resets = s.resets := by
  cases affinityKey <;> exact ⟨rfl, rfl, rfl⟩

theorem consume_picks (cfg : Settings) (s : ClusterScheduler) (nodeId : String) (now : ℚ) :
    (s.consume cfg nodeId now).picks = s.picks ∧ (s.consume cfg nodeId now).resets = s.resets := by
  simp only [consume]
  split <;> exact ⟨rfl, rfl⟩

theorem consume_buckets (cfg : Settings) (s t : ClusterScheduler) (nodeId : String) (now : ℚ) (same : t.buckets = s.buckets) :
    (t.consume cfg nodeId now).buckets = (s.consume cfg nodeId now).buckets := by
  simp only [consume, setBucket, getOrCreate]
  split
  · exact same
  · simp only [same]

theorem choose_spec (cfg : Settings) (s after : ClusterScheduler) (i : Nat) (now : ℚ) (taken : s.choose cfg i now = some after) :
    ∃ call eligible, s.calls[i]? = some call ∧ call.phase = .choosing eligible ∧ after.resets = s.resets ∧
      Chosen cfg s now call eligible after := by
  simp only [choose] at taken
  split at taken
  · cases taken
  · rename_i call here
    split at taken
    · rename_i eligible choosing
      refine ⟨call, eligible, here, choosing, ?_⟩
      split at taken
      · rename_i node found
        cases taken
        exact ⟨rfl, .bound node found rfl rfl⟩
      · rename_i unbound
        split at taken
        · rename_i failed
          cases taken
          exact ⟨rfl, .nobody unbound (by simp [failed]) rfl rfl⟩
        · rename_i nobody
          cases taken
          exact ⟨rfl, .nobody unbound (by simp [nobody]) rfl rfl⟩
        · rename_i node chosen
          obtain ⟨warmed, raised⟩ := select_heat cfg s call.now eligible node chosen
          simp only [raised, Option.some.injEq] at taken
          subst taken
          obtain ⟨heat, _, rfl⟩ := Option.map_eq_some_iff.mp raised
          obtain ⟨picks, buckets, resets⟩ := bind_frame
            ((countWorkload { s with heat := s.heat.set node.nodeId (nearest (heat + 1), call.now) } node.nodeId).consume
              cfg node.nodeId now)
            call.affinityKey node.nodeId
          obtain ⟨samePicks, sameResets⟩ := consume_picks cfg
            (countWorkload { s with heat := s.heat.set node.nodeId (nearest (heat + 1), call.now) } node.nodeId) node.nodeId now
          refine ⟨resets.trans sameResets, .selected node unbound chosen ?_ ?_⟩
          · exact congrArg (fun picks => picks ++ [⟨node.nodeId, now⟩]) (picks.trans samePicks)
          · exact buckets.trans (consume_buckets cfg s _ node.nodeId now rfl)
    · cases taken

def asks (s : ClusterScheduler) : PickEvent → List Mark
  | .askLimiter i now =>
      match s.calls[i]? with
      | none => []
      | some call =>
          match call.phase with
          | .limiting (node :: _) _ => [⟨node.nodeId, now⟩]
          | _ => []
  | _ => []

inductive Moved (cfg : Settings) (limits : Limits ℚ) (s : ClusterScheduler) (event : PickEvent) (after : ClusterScheduler) :
    Prop where
  | same (free : Paid cfg limits s event) (silent : asks s event = []) (picks : after.picks = s.picks)
      (resets : after.resets = s.resets) (buckets : after.buckets = s.buckets)
  | refilled (nodeId : String) (now : ℚ) (free : Paid cfg limits s event) (asked : asks s event = [⟨nodeId, now⟩])
      (reading : event.reading = some now) (picks : after.picks = s.picks) (resets : after.resets = s.resets)
      (buckets : after.buckets = s.buckets.set nodeId ((getOrCreate limits s nodeId now).refill limits now))
  | reset (nodeId : String) (now : ℚ) (bucket : Bucket ℚ) (free : Paid cfg limits s event) (silent : asks s event = [])
      (reading : event.reading = some now) (found : s.buckets.get? nodeId = some bucket) (picks : after.picks = s.picks)
      (resets : after.resets = s.resets ++ [⟨nodeId, now⟩])
      (buckets : after.buckets = s.buckets.set nodeId (bucket.fill limits now))
  | chosen (i : Nat) (now : ℚ) (call : PickCall) (eligible : List NodeDict) (critical : event = .choose i now)
      (here : s.calls[i]? = some call) (choosing : call.phase = .choosing eligible) (resets : after.resets = s.resets)
      (outcome : Chosen cfg s now call eligible after)

theorem pick_step_moved (cfg : Settings) (limits : Limits ℚ) (enabled : cfg.rateLimiter = some limits)
    (s after : ClusterScheduler) (event : PickEvent) (taken : pickStep cfg s event = some after) :
    Moved cfg limits s event after := by
  cases event with
  | pick now nodes affinityKey preferredRegion =>
      cases taken
      exact .same trivial rfl rfl rfl rfl
  | askBreaker i =>
      simp only [pickStep, askBreaker] at taken
      split at taken
      · cases taken
      · split at taken
        · cases taken
          exact .same trivial rfl rfl rfl rfl
        · cases taken
          exact .same trivial rfl rfl rfl rfl
        · cases taken
  | askLimiter i now =>
      simp only [pickStep, askLimiter, enabled] at taken
      split at taken
      · rename_i call _ here same
        cases same
        split at taken
        · rename_i kept asking
          cases taken
          exact .same trivial (by simp only [asks, here, asking]) rfl rfl rfl
        · rename_i node todo kept asking
          cases taken
          exact .refilled node.nodeId now trivial (by simp only [asks, here, asking]) rfl rfl rfl rfl
        · cases taken
      · cases taken
  | choosePool i draw =>
      simp only [pickStep, choosePool] at taken
      split at taken
      · cases taken
      · split at taken
        · cases taken
          exact .same trivial rfl rfl rfl rfl
        · cases taken
  | choose i now =>
      obtain ⟨call, eligible, here, choosing, resets, outcome⟩ := choose_spec cfg s after i now taken
      exact .chosen i now call eligible rfl here choosing resets outcome
  | breakers openBreakers =>
      cases taken
      exact .same trivial rfl rfl rfl rfl
  | deploy canary =>
      cases taken
      exact .same trivial rfl rfl rfl rfl
  | reset nodeId now =>
      cases found : s.buckets.get? nodeId with
      | none =>
          simp only [pickStep, ClusterScheduler.reset, enabled, found, Option.some.injEq] at taken
          subst taken
          exact .same trivial rfl rfl rfl rfl
      | some bucket =>
          simp only [pickStep, ClusterScheduler.reset, enabled, found, Option.some.injEq] at taken
          subst taken
          exact .reset nodeId now bucket trivial rfl rfl found rfl rfl rfl

theorem pick_next_moved (cfg : Settings) (limits : Limits ℚ) (enabled : cfg.rateLimiter = some limits)
    (s after : ClusterScheduler) (event : PickEvent) (taken : pickNext cfg s event = some after) :
    Moved cfg limits s event after := by
  simp only [pickNext] at taken
  split at taken
  · exact pick_step_moved cfg limits enabled s after event taken
  · split at taken
    · obtain ⟨middle, stepped, rfl⟩ := Option.map_eq_some_iff.mp taken
      have moved := pick_step_moved cfg limits enabled s middle event stepped
      cases moved with
      | same free silent picks resets buckets => exact .same free silent picks resets buckets
      | refilled nodeId now free asked reading picks resets buckets =>
          exact .refilled nodeId now free asked reading picks resets buckets
      | reset nodeId now bucket free silent reading found picks resets buckets =>
          exact .reset nodeId now bucket free silent reading found picks resets buckets
      | chosen i now call eligible critical here choosing resets outcome =>
          refine .chosen i now call eligible critical here choosing resets ?_
          cases outcome with
          | bound node found picks buckets => exact .bound node found picks buckets
          | nobody unbound unselected picks buckets => exact .nobody unbound unselected picks buckets
          | selected node unbound chosen picks buckets => exact .selected node unbound chosen picks buckets
    · cases taken

theorem created_consumed (limits : Limits ℚ) (s : ClusterScheduler) (nodeId : String) (now : ℚ) :
    (getOrCreate limits s nodeId now).consumed = s.consumed nodeId := by
  simp only [getOrCreate, consumed]
  cases s.buckets.get? nodeId <;> rfl

theorem consumed_set (s after : ClusterScheduler) (nodeId query : String) (bucket : Bucket ℚ)
    (buckets : after.buckets = s.buckets.set nodeId bucket) :
    after.consumed query = if query = nodeId then bucket.consumed else s.consumed query := by
  simp only [consumed, buckets, Dict.get_set]
  by_cases same : query = nodeId <;> simp [same]

def paidTokens (limits : Limits ℚ) (s : ClusterScheduler) (nodeId : String) (now : ℚ) : Nat :=
  if 1 ≤ ((getOrCreate limits s nodeId now).refill limits now).tokens then 1 else 0

theorem consumed_consume (cfg : Settings) (limits : Limits ℚ) (enabled : cfg.rateLimiter = some limits)
    (s after : ClusterScheduler) (nodeId query : String) (now : ℚ)
    (buckets : after.buckets = (s.consume cfg nodeId now).buckets) :
    after.consumed query = s.consumed query + if nodeId = query then paidTokens limits s nodeId now else 0 := by
  have stored : after.buckets = s.buckets.set nodeId ((getOrCreate limits s nodeId now).consume limits 1 now).2 := by
    simp only [buckets, consume, enabled, setBucket]
  rw [consumed_set s after nodeId query _ stored]
  by_cases same : query = nodeId
  · subst same
    simp only [Bucket.consume, paidTokens, if_true]
    split <;> simp [Bucket.refill, created_consumed]
  · simp [same, Ne.symm same]

theorem paid_tokens_le (limits : Limits ℚ) (s : ClusterScheduler) (nodeId : String) (now : ℚ) :
    paidTokens limits s nodeId now ≤ 1 := by
  simp only [paidTokens]
  split <;> omega

theorem returned_append (s after : ClusterScheduler) (pick : Mark) (picks : after.picks = s.picks ++ [pick]) (nodeId : String) :
    after.returned nodeId = s.returned nodeId + if pick.nodeId = nodeId then 1 else 0 := by
  simp [ClusterScheduler.returned, picks]

theorem uncharged_pick (s after : ClusterScheduler) (pick : Mark) (counted : ∀ nodeId, s.consumed nodeId ≤ s.returned nodeId)
    (picks : after.picks = s.picks ++ [pick]) (same : ∀ nodeId, after.consumed nodeId = s.consumed nodeId) :
    (∀ nodeId, after.consumed nodeId ≤ after.returned nodeId) ∧ ¬ Charged after := by
  have returned := returned_append s after pick picks
  refine ⟨fun nodeId => ?_, ?_⟩
  · rw [same, returned]
    exact (counted nodeId).trans (Nat.le_add_right _ _)
  · intro charged
    have exact := charged pick.nodeId
    rw [same, returned, if_pos rfl] at exact
    have bound := counted pick.nodeId
    omega

theorem charged_pick (s after : ClusterScheduler) (pick : Mark) (tokens : Nat) (atMost : tokens ≤ 1)
    (counted : ∀ nodeId, s.consumed nodeId ≤ s.returned nodeId) (picks : after.picks = s.picks ++ [pick])
    (took : ∀ nodeId, after.consumed nodeId = s.consumed nodeId + if pick.nodeId = nodeId then tokens else 0) :
    (∀ nodeId, after.consumed nodeId ≤ after.returned nodeId) ∧ (Charged after ↔ Charged s ∧ tokens = 1) := by
  have returned := returned_append s after pick picks
  refine ⟨fun nodeId => ?_, ?_, ?_⟩
  · rw [took, returned]
    have bound := counted nodeId
    split <;> omega
  · intro charged
    have exact := charged pick.nodeId
    have bound := counted pick.nodeId
    rw [took, returned, if_pos rfl, if_pos rfl] at exact
    have full : tokens = 1 := by omega
    refine ⟨fun nodeId => ?_, full⟩
    have each := charged nodeId
    rw [took, returned, full] at each
    omega
  · rintro ⟨charged, full⟩ nodeId
    rw [took, returned, full, charged nodeId]

theorem charged_step (cfg : Settings) (limits : Limits ℚ) (enabled : cfg.rateLimiter = some limits)
    (s after : ClusterScheduler) (event : PickEvent) (counted : ∀ nodeId, s.consumed nodeId ≤ s.returned nodeId)
    (taken : pickNext cfg s event = some after) :
    (∀ nodeId, after.consumed nodeId ≤ after.returned nodeId) ∧ (Charged after ↔ Charged s ∧ Paid cfg limits s event) := by
  have quiet : Paid cfg limits s event → after.picks = s.picks → (∀ nodeId, after.consumed nodeId = s.consumed nodeId) →
      (∀ nodeId, after.consumed nodeId ≤ after.returned nodeId) ∧ (Charged after ↔ Charged s ∧ Paid cfg limits s event) := by
    intro free picks same
    have returned : ∀ nodeId, after.returned nodeId = s.returned nodeId := fun nodeId => by
      rw [ClusterScheduler.returned, picks, ClusterScheduler.returned]
    refine ⟨fun nodeId => ?_, ?_⟩
    · rw [same, returned]
      exact counted nodeId
    · simp only [Charged, same, returned, free, and_true]
  cases pick_next_moved cfg limits enabled s after event taken with
  | same free silent picks resets buckets =>
      apply quiet free picks
      intro nodeId
      rw [consumed, buckets, consumed]
  | refilled nodeId now free asked reading picks resets buckets =>
      apply quiet free picks
      intro query
      rw [consumed_set s after nodeId query _ buckets]
      split
      · rename_i same
        rw [same, Bucket.refill, created_consumed]
      · rfl
  | reset nodeId now bucket free silent reading found picks resets buckets =>
      apply quiet free picks
      intro query
      rw [consumed_set s after nodeId query _ buckets]
      split
      · rename_i same
        rw [same, consumed, found]
        rfl
      · rfl
  | chosen i now call eligible critical here choosing resets outcome =>
      subst critical
      cases outcome with
      | bound node found picks buckets =>
          have unpaid : ¬ Paid cfg limits s (.choose i now) := by
            intro paid
            have unbound := ((paid_choose cfg limits s i now call eligible here choosing).mp paid).unbound
            rw [found] at unbound
            cases unbound
          obtain ⟨below, uncharged⟩ := uncharged_pick s after ⟨node.nodeId, now⟩ counted picks fun nodeId => by
            rw [consumed, buckets, consumed]
          exact ⟨below, iff_of_false uncharged fun both => unpaid both.2⟩
      | nobody unbound unselected picks buckets =>
          have free := (paid_choose cfg limits s i now call eligible here choosing).mpr
            ⟨unbound, fun node chosen => absurd chosen (unselected node)⟩
          apply quiet free picks
          intro nodeId
          rw [consumed, buckets, consumed]
      | selected node unbound chosen picks buckets =>
          have paid : Paid cfg limits s (.choose i now) ↔ paidTokens limits s node.nodeId now = 1 := by
            rw [paid_choose cfg limits s i now call eligible here choosing]
            simp only [paidTokens, ite_eq_left_iff, Nat.zero_ne_one, imp_false, not_not]
            constructor
            · exact fun pays => pays.token node chosen
            · intro enough
              refine ⟨unbound, fun again same => ?_⟩
              cases chosen.symm.trans same
              exact enough
          have took := fun nodeId => consumed_consume cfg limits enabled s after node.nodeId nodeId now buckets
          rw [paid]
          exact charged_pick s after ⟨node.nodeId, now⟩ (paidTokens limits s node.nodeId now) (paid_tokens_le limits s node.nodeId now)
            counted picks took

theorem pick_next_clock (cfg : Settings) (s after : ClusterScheduler) (event : PickEvent)
    (taken : pickNext cfg s event = some after) :
    s.clock ≤ after.clock ∧ ∀ now, event.reading = some now → s.clock ≤ now ∧ after.clock = now := by
  cases reading : event.reading with
  | some now =>
      simp only [pickNext, reading] at taken
      split at taken
      · rename_i later
        obtain ⟨middle, _, rfl⟩ := Option.map_eq_some_iff.mp taken
        refine ⟨later, fun other same => ?_⟩
        cases same
        exact ⟨later, rfl⟩
      · cases taken
  | none =>
      simp only [pickNext, reading] at taken
      have kept : after.clock = s.clock := by
        cases event with
        | pick now nodes affinityKey preferredRegion =>
            cases taken
            rfl
        | askBreaker i =>
            simp only [pickStep, askBreaker] at taken
            split at taken
            · cases taken
            · split at taken
              · cases taken
                rfl
              · cases taken
                rfl
              · cases taken
        | choosePool i draw =>
            simp only [pickStep, choosePool] at taken
            split at taken
            · cases taken
            · split at taken
              · cases taken
                rfl
              · cases taken
        | breakers openBreakers =>
            cases taken
            rfl
        | deploy canary =>
            cases taken
            rfl
        | askLimiter i now => simp [PickEvent.reading] at reading
        | choose i now => simp [PickEvent.reading] at reading
        | reset nodeId now => simp [PickEvent.reading] at reading
      exact ⟨kept.ge, fun now same => by cases same⟩

def noBreaker : String → Bool := fun _ => false

end HuddleCluster.Scheduler
