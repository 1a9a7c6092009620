import HuddleCluster.Ring.Hedging

set_option autoImplicit false

namespace HuddleCluster.Ring

namespace Phase

def submitted : Phase → Bool
  | .counted | .routed _ | .direct _ | .unchecked _ => false
  | _ => true

def launched : Phase → Bool
  | .racing .. | .fallback .. | .returned _ | .raised => true
  | _ => false

def ended : Phase → Bool
  | .returned _ | .raised => true
  | _ => false

end Phase

namespace Call

def Succeeded (call : Call) : Prop := call.first = .succeeded ∨ call.second = .succeeded

-- What is known of the copies from where the call stands.
structure Consistent (call : Call) : Prop where
  first : call.phase.submitted = false → call.first = .idle
  second : call.phase.launched = false → call.second = .idle
  fallback : ∀ primary secondary backup, call.phase = .fallback primary secondary backup →
    (call.copy !backup).done = true ∧ (call.copy !backup) ≠ .succeeded

def Answered (call : Call) : Prop := call.Succeeded → ∃ server, call.phase = .returned server

end Call

-- The calls as they were when they came to a result.
structure HedgeResults where
  hedging : Hedging
  ended : List Call

namespace HedgeResults

def start (c : Cluster) : HedgeResults := ⟨.idle c, []⟩

def endedBy (s after : Hedging) (event : HedgeEvent) : List Call :=
  match event.caller with
  | none => []
  | some i =>
      match s.calls[i]?, after.calls[i]? with
      | some call, some next => if next.phase.ended && !call.phase.ended then [next] else []
      | _, _ => []

def next (cfg : HedgingConfig) (w : HedgeResults) (event : HedgeEvent) : Option HedgeResults :=
  (hedgeStep cfg w.hedging event).map fun after => ⟨after, w.ended ++ endedBy w.hedging after event⟩

def SuccessReturned (w : HedgeResults) : Prop := ∀ call ∈ w.ended, call.Answered

-- When both copies are done and one has succeeded, that one comes out first.
def PicksSuccess (w : HedgeResults) : HedgeEvent → Prop
  | .race i backupFirst => ∀ call ∈ w.hedging.calls[i]?, call.first.done = true → call.second.done = true → call.Succeeded →
      call.copy backupFirst = .succeeded
  | _ => True

end HedgeResults

theorem succeeded_done (f : Future) (succeeded : f = .succeeded) : f.done = true := by rw [succeeded]; rfl

theorem succeeded_copy (call : Call) : call.Succeeded ↔ ∃ backup, call.copy backup = .succeeded := by
  constructor
  · rintro (first | second)
    · exact ⟨false, first⟩
    · exact ⟨true, second⟩
  · rintro ⟨backup, succeeded⟩
    cases backup
    · exact Or.inl succeeded
    · exact Or.inr succeeded

theorem picked_both (call : Call) (backupFirst : Bool) (first : call.first.done = true) (second : call.second.done = true) :
    call.picked backupFirst = backupFirst := by
  simp [Call.picked, first, second]

theorem consistent_decided (call : Call) (won : Prop) [Decidable won] (server : Ref) :
    ({ call with phase := if won then .returned server else .raised } : Call).Consistent := by
  by_cases here : won <;> simp only [here, if_true, if_false] <;> exact ⟨nofun, nofun, nofun⟩

theorem consistent_turn (c : Cluster) (call next : Call) (event : HedgeEvent) (consistent : call.Consistent)
    (turn : CallTurn c call event next) : next.Consistent := by
  obtain ⟨first, second, fallback⟩ := consistent
  cases turn with
  | executed i backup result elapsedMs server running done =>
      cases backup with
      | false =>
          have started : call.first = .running server := running
          refine ⟨?_, second, ?_⟩
          · intro early
            rw [first early] at started
            cases started
          · intro primary secondary backup phase
            obtain ⟨done, unsuccessful⟩ := fallback primary secondary backup phase
            cases backup
            · exact ⟨done, unsuccessful⟩
            · rw [show call.copy (!true) = .running server from started] at done
              cases done
      | true =>
          have started : call.second = .running server := running
          refine ⟨first, ?_, ?_⟩
          · intro early
            rw [second early] at started
            cases started
          · intro primary secondary backup phase
            obtain ⟨done, unsuccessful⟩ := fallback primary secondary backup phase
            cases backup
            · rw [show call.copy (!false) = .running server from started] at done
              cases done
            · exact ⟨done, unsuccessful⟩
  | routed _ _ _ phase | hedged _ _ phase | unhedged _ _ phase =>
      exact ⟨fun _ => first (by rw [phase]; rfl), fun _ => second (by rw [phase]; rfl), nofun⟩
  | checked _ _ _ phase | missed _ _ _ phase | paired _ _ _ phase | alone _ _ _ phase =>
      exact ⟨nofun, fun _ => second (by rw [phase]; rfl), nofun⟩
  | fellBack i backupFirst backup primary secondary phase unsuccessful done other =>
      refine ⟨nofun, nofun, ?_⟩
      rintro _ _ _ ⟨⟩
      rw [Bool.not_not]
      exact ⟨done, unsuccessful⟩
  | calledDirectly i failed => cases failed <;> exact ⟨nofun, nofun, nofun⟩
  | waited | heard => exact consistent_decided call _ _
  | unrouted | answered | failed | launched | unfinished | won | lost => exact ⟨nofun, nofun, nofun⟩

-- A step that ends its call returns a success if there is one, unless it is a race
-- that picks the failed one of two copies.
theorem answered_turn (c : Cluster) (call next : Call) (event : HedgeEvent) (consistent : call.Consistent)
    (turn : CallTurn c call event next) (ended : next.phase.ended = true) (live : call.phase.ended = false) :
    next.Answered ↔ ∀ i backupFirst, event = .race i backupFirst → call.first.done = true → call.second.done = true →
      call.Succeeded → call.copy backupFirst = .succeeded := by
  have away (unsuccessful : ¬ next.Succeeded ∨ ∃ server, next.phase = .returned server) : next.Answered :=
    fun succeeded => unsuccessful.elim (fun failed => absurd succeeded failed) id
  have unsent (early : call.phase.submitted = false) (alone : call.phase.launched = false) : ¬ call.Succeeded := by
    rintro (done | done)
    · exact absurd ((consistent.first early).symm.trans done) nofun
    · exact absurd ((consistent.second alone).symm.trans done) nofun
  have single (alone : call.phase.launched = false) (unsuccessful : call.first ≠ .succeeded) : ¬ call.Succeeded := by
    rintro (done | done)
    · exact unsuccessful done
    · exact absurd ((consistent.second alone).symm.trans done) nofun
  cases turn with
  | won i backupFirst primary secondary server phase succeeded =>
      refine iff_of_true (away (Or.inr ⟨server, rfl⟩)) ?_
      rintro j flag ⟨⟩ firstDone secondDone _
      rwa [picked_both call backupFirst firstDone secondDone] at succeeded
  | lost i backupFirst primary secondary phase firstDone secondDone unsuccessful =>
      rw [picked_both call backupFirst firstDone secondDone] at unsuccessful
      constructor
      · intro answered j flag same _ _ succeeded
        obtain ⟨server, returned⟩ := answered succeeded
        cases returned
      · intro picks succeeded
        exact absurd (picks i backupFirst rfl firstDone secondDone succeeded) unsuccessful
  | unfinished i backupFirst primary secondary phase firstOpen secondOpen =>
      refine iff_of_true (away (Or.inl ?_)) ?_
      · rintro (done | done)
        · exact absurd (succeeded_done _ done) (by rw [firstOpen]; decide)
        · exact absurd (succeeded_done _ done) (by rw [secondOpen]; decide)
      · intro j flag _ firstDone
        exact absurd firstDone (by rw [firstOpen]; decide)
  | unrouted i draw phase => exact iff_of_true (away (Or.inl (unsent (by rw [phase]; rfl) (by rw [phase]; rfl)))) nofun
  | calledDirectly i failed elapsedMs primary phase =>
      refine iff_of_true (away ?_) nofun
      cases failed
      · exact Or.inr ⟨primary, rfl⟩
      · exact Or.inl (unsent (by rw [phase]; rfl) (by rw [phase]; rfl))
  | answered i primary => exact iff_of_true (away (Or.inr ⟨primary, rfl⟩)) nofun
  | failed i primary phase raised =>
      exact iff_of_true (away (Or.inl (single (by rw [phase]; rfl) (by rw [raised]; nofun)))) nofun
  | waited i primary phase =>
      refine iff_of_true (away ?_) nofun
      by_cases succeeded : call.first = .succeeded
      · exact Or.inr ⟨primary, if_pos succeeded⟩
      · exact Or.inl (single (by rw [phase]; rfl) succeeded)
  | heard i backup primary secondary server phase =>
      refine iff_of_true (away ?_) nofun
      by_cases succeeded : call.copy backup = .succeeded
      · exact Or.inr ⟨server, if_pos succeeded⟩
      · refine Or.inl ?_
        intro either
        obtain ⟨copy, done⟩ := (succeeded_copy call).mp either
        have other := (consistent.fallback primary secondary backup phase).2
        cases copy <;> cases backup <;> contradiction
  | executed i backup =>
      cases backup <;> exact absurd (ended.symm.trans live) nofun
  | routed | hedged | unhedged | checked | missed | paired | alone | launched | fellBack => cases ended

theorem calls_step (cfg : HedgingConfig) (s after : Hedging) (event : HedgeEvent) (kept : ∀ call ∈ s.calls, call.Consistent)
    (taken : hedgeStep cfg s event = some after) : ∀ call ∈ after.calls, call.Consistent := by
  cases caller : event.caller with
  | some i =>
      obtain ⟨call, next, found, turn, same⟩ := hedge_turn cfg s after event i caller taken
      rw [same]
      intro other member
      rcases List.mem_or_eq_of_mem_set member with old | rfl
      · exact kept other old
      · exact consistent_turn s.cluster call other event (kept call (List.mem_of_getElem? found)) turn
  | none =>
      cases event with
      | hedgedRequest allowHedging hedgingDelayMs affinityKey =>
          cases taken
          simp only [Hedging.enter, List.forall_mem_append, List.mem_singleton, forall_eq]
          refine ⟨kept, fun _ => rfl, fun _ => rfl, ?_⟩
          intro primary secondary backup phase
          cases phase
      | operate op =>
          cases taken
          exact kept
      | _ => cases caller

theorem ended_by_turn (s after : Hedging) (event : HedgeEvent) (i : Nat) (call next : Call) (caller : event.caller = some i)
    (found : s.calls[i]? = some call) (same : after.calls = s.calls.set i next) :
    HedgeResults.endedBy s after event = if next.phase.ended && !call.phase.ended then [next] else [] := by
  have inside := (List.getElem?_eq_some_iff.mp found).1
  have found' : after.calls[i]? = some next := by rw [same, List.getElem?_set_self inside]
  simp only [HedgeResults.endedBy, caller, found, found']

theorem picks_success_iff (w : HedgeResults) (event : HedgeEvent) (i : Nat) (call : Call) (caller : event.caller = some i)
    (found : w.hedging.calls[i]? = some call) :
    w.PicksSuccess event ↔ ∀ j backupFirst, event = .race j backupFirst → call.first.done = true → call.second.done = true →
      call.Succeeded → call.copy backupFirst = .succeeded := by
  cases event with
  | race j backupFirst =>
      cases caller
      simp [HedgeResults.PicksSuccess, found]
  | _ => exact iff_of_true trivial nofun

theorem race_ends (c : Cluster) (call next : Call) (i : Nat) (backupFirst : Bool) (first : call.first.done = true)
    (second : call.second.done = true) (turn : CallTurn c call (.race i backupFirst) next) :
    (next.phase.ended && !call.phase.ended) = true := by
  cases turn with
  | unfinished _ _ _ _ _ firstOpen => exact absurd (first.symm.trans firstOpen) nofun
  | won _ _ _ _ _ phase => rw [phase]; rfl
  | lost _ _ _ _ phase => rw [phase]; rfl
  | fellBack _ _ backup _ _ _ _ _ other =>
      cases backup
      · exact absurd (second.symm.trans other) nofun
      · exact absurd (first.symm.trans other) nofun

theorem success_returned_step (cfg : HedgingConfig) (w after : HedgeResults) (event : HedgeEvent)
    (kept : ∀ call ∈ w.hedging.calls, call.Consistent) (taken : w.next cfg event = some after) :
    after.SuccessReturned ↔ w.SuccessReturned ∧ w.PicksSuccess event := by
  obtain ⟨moved, stepped, rfl⟩ := Option.map_eq_some_iff.mp taken
  simp only [HedgeResults.SuccessReturned, List.forall_mem_append]
  refine and_congr_right fun _ => ?_
  cases caller : event.caller with
  | none =>
      refine iff_of_true ?_ ?_
      · simp [HedgeResults.endedBy, caller]
      · cases event <;> trivial
  | some i =>
      obtain ⟨call, next, found, turn, same⟩ := hedge_turn cfg w.hedging moved event i caller stepped
      rw [ended_by_turn w.hedging moved event i call next caller found same, picks_success_iff w event i call caller found]
      have consistent := kept call (List.mem_of_getElem? found)
      by_cases ends : (next.phase.ended && !call.phase.ended) = true
      · rw [if_pos ends]
        obtain ⟨ended, live⟩ := (Bool.and_eq_true_iff ..).mp ends
        simp only [List.mem_singleton, forall_eq]
        exact answered_turn w.hedging.cluster call next event consistent turn ended (by simpa using live)
      · rw [if_neg ends]
        refine iff_of_true (by simp) ?_
        rintro j flag rfl firstDone secondDone _
        exact absurd (race_ends w.hedging.cluster call next j flag firstDone secondDone turn) ends

theorem success_returned_iff (cfg : HedgingConfig) (c : Cluster) (events : List HedgeEvent) (last : HedgeResults)
    (run : Runs.Run (HedgeResults.next cfg) (fun _ _ => True) (.start c) events last) :
    last.SuccessReturned ↔ Runs.Run (HedgeResults.next cfg) HedgeResults.PicksSuccess (.start c) events last := by
  apply Runs.run_characterised (HedgeResults.next cfg) HedgeResults.PicksSuccess (fun w => ∀ call ∈ w.hedging.calls, call.Consistent)
    HedgeResults.SuccessReturned
  · intro w after event kept taken
    refine ⟨?_, success_returned_step cfg w after event kept taken⟩
    obtain ⟨moved, stepped, rfl⟩ := Option.map_eq_some_iff.mp taken
    exact calls_step cfg w.hedging moved event kept stepped
  · exact fun call member => absurd member List.not_mem_nil
  · exact fun call member => absurd member List.not_mem_nil
  · exact run

instance (w : HedgeResults) (event : HedgeEvent) : Decidable (w.PicksSuccess event) :=
  match event with
  | .race i backupFirst => inferInstanceAs (Decidable (∀ call ∈ w.hedging.calls[i]?, call.first.done = true →
      call.second.done = true → (call.first = .succeeded ∨ call.second = .succeeded) → call.copy backupFirst = .succeeded))
  | .hedgedRequest .. | .route .. | .choosePath _ | .callDirectly .. | .checkBudget _ | .execute .. | .waitPrimary _ | .chooseBackup _
  | .finishWaiting _ | .launch _ | .waitOther _ | .operate _ => instDecidableTrue

-- One call whose primary fails and whose backup succeeds before the race.
def mixedRace (backupFirst : Bool) : List HedgeEvent :=
  [.hedgedRequest true (some 20) none, .route 0 0, .choosePath 0, .checkBudget 0, .waitPrimary 0, .chooseBackup 0, .launch 0,
    .execute 0 false (.raised false) 30, .execute 0 true .succeeded 10, .race 0 backupFirst]

theorem success_returned_first : ∃ last ∈ Runs.follow (HedgeResults.next {}) (fun _ _ => True) (.start hedgingPair) (mixedRace true),
    last.ended.map Call.phase = [.returned 1] ∧ last.SuccessReturned := by
  obtain ⟨last, restricted, ended⟩ : ∃ last ∈ Runs.follow (HedgeResults.next {}) HedgeResults.PicksSuccess (.start hedgingPair)
      (mixedRace true), last.ended.map Call.phase = [.returned 1] := by decide +kernel
  have permitted := Runs.follow_run (HedgeResults.next {}) HedgeResults.PicksSuccess _ last _ restricted
  exact ⟨last, Runs.follow_free _ _ _ last _ restricted, ended,
    (success_returned_iff {} hedgingPair _ last (Runs.run_free _ _ _ _ _ permitted)).mpr permitted⟩

theorem failure_raised_over_success : ¬ ∀ last, Runs.Run (HedgeResults.next {}) (fun _ _ => True) (.start hedgingPair)
    (mixedRace false) last → last.SuccessReturned := by
  intro claim
  obtain ⟨last, followed, ended⟩ : ∃ last ∈ Runs.follow (HedgeResults.next {}) (fun _ _ => True) (.start hedgingPair)
      (mixedRace false), last.ended.map (fun call => (call.phase, call.second)) = [(.raised, .succeeded)] := by decide +kernel
  obtain ⟨call, single, same⟩ := List.map_eq_singleton_iff.mp ended
  obtain ⟨phase, second⟩ := Prod.mk.injEq .. ▸ same
  have answered := claim last (Runs.follow_run _ _ _ last _ followed) call (by simp [single])
  obtain ⟨server, returned⟩ := answered (Or.inr second)
  rw [phase] at returned
  cases returned

end HuddleCluster.Ring
