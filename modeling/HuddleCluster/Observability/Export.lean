import HuddleCluster.Lib.Json
import HuddleCluster.Lib.Runs

set_option autoImplicit false

namespace HuddleCluster.Observability

structure LogEvent where
  event : String
  traceId : Option String := none
  nodeId : Option String := none
  level : String := "info"
  fields : List (String × Json) := []
  ts : ℚ := 0

-- The constructor raises unless the buffer has room for an event.
structure ClusterObservability where
  bufferSize : Nat
  sized : 0 < bufferSize
  events : List LogEvent := []
  exportedIndex : Nat := 0
  requestCount : Nat := 0
  otlpExportCount : Nat := 0
  otlpErrorCount : Nat := 0
  otlpLastError : Option String := none

namespace ClusterObservability

-- Natural subtraction is max(0, ..).
def recordEvent (evt : LogEvent) (o : ClusterObservability) : ClusterObservability :=
  let o := { o with events := o.events ++ [evt], requestCount := o.requestCount + 1 }
  if o.bufferSize < o.events.length then
    let overflow := o.events.length - o.bufferSize
    { o with events := o.events.drop overflow, exportedIndex := o.exportedIndex - overflow }
  else o

-- What an attempt reads under the lock: the events it will send, and the length
-- of the buffer.
def pending (o : ClusterObservability) : List LogEvent × Nat := (o.events.drop o.exportedIndex, o.events.length)

def exported (sent : List LogEvent) (sentUpTo : Nat) (o : ClusterObservability) : ClusterObservability :=
  { o with exportedIndex := sentUpTo, otlpExportCount := o.otlpExportCount + sent.length }

def failed (error : String) (o : ClusterObservability) : ClusterObservability :=
  { o with otlpErrorCount := o.otlpErrorCount + 1, otlpLastError := some error }

end ClusterObservability

-- A request of the exporter. The events are numbered as they are recorded, and
-- oldest is the number of the first one in the buffer when the request was built.
structure Export where
  events : List LogEvent
  sentUpTo : Nat
  oldest : Nat

namespace Export

def upTo (e : Export) : Nat := e.oldest + e.sentUpTo

def first (e : Export) : Nat := e.upTo - e.events.length

def Carries (e : Export) (number : Nat) : Prop := e.first ≤ number ∧ number < e.upTo

end Export

structure ExportWatch where
  obs : ClusterObservability
  history : List LogEvent
  inFlight : Option Export
  exports : List Export

-- The only caller of _otlp_export_once is the loop of the exporter thread.
inductive ExportEvent where
  | recordEvent (evt : LogEvent)
  | begin
  | succeed
  | fail (error : String)

namespace ExportWatch

def fresh (bufferSize : Nat) (sized : 0 < bufferSize) : ExportWatch := ⟨{ bufferSize := bufferSize, sized := sized }, [], none, []⟩

def oldest (s : ExportWatch) : Nat := s.history.length - s.obs.events.length

def next (s : ExportWatch) : ExportEvent → Option ExportWatch
  | .recordEvent evt => some { s with obs := s.obs.recordEvent evt, history := s.history ++ [evt] }
  | .begin =>
      match s.inFlight with
      | some _ => none
      | none =>
          let pending := s.obs.pending
          if pending.1.isEmpty then some s else some { s with inFlight := some ⟨pending.1, pending.2, s.oldest⟩ }
  | .succeed => s.inFlight.map fun request =>
      { s with obs := s.obs.exported request.events request.sentUpTo, inFlight := none, exports := s.exports ++ [request] }
  | .fail error => s.inFlight.map fun _ => { s with obs := s.obs.failed error, inFlight := none }

end ExportWatch

abbrev ExportRun (allowed : ExportWatch → ExportEvent → Prop) := Runs.Run ExportWatch.next allowed

def Carried (exports : List Export) (number : Nat) : Prop := ∃ e ∈ exports, e.Carries number

-- What was in the buffer when the request was built is in the request or was
-- in an earlier one.
def Complete (earlier : List Export) (e : Export) : Prop :=
  ∀ number, e.oldest ≤ number → number < e.upTo → ¬ Carried earlier number → e.Carries number

structure Lossless (s : ExportWatch) : Prop where
  separates : ∀ number, s.oldest ≤ number → number < s.history.length →
    (Carried s.exports number ↔ number < s.oldest + s.obs.exportedIndex)
  once : s.exports.Pairwise fun earlier later => ∀ number, earlier.Carries number → ¬ later.Carries number
  complete : ∀ earlier e later, s.exports ++ s.inFlight.toList = earlier ++ e :: later → Complete earlier e
  slices : ∀ e ∈ s.exports ++ s.inFlight.toList, e.events = (s.history.take e.upTo).drop e.first

-- Nothing has left the buffer since the request was built.
def Untrimmed (s : ExportWatch) : ExportEvent → Prop
  | .succeed => ∀ request ∈ s.inFlight, request.oldest = s.oldest
  | _ => True

theorem record_spec (evt : LogEvent) (o : ClusterObservability) :
    (o.recordEvent evt).events = (o.events ++ [evt]).drop (o.events.length + 1 - o.bufferSize) ∧
      (o.recordEvent evt).exportedIndex = o.exportedIndex - (o.events.length + 1 - o.bufferSize) ∧
      (o.recordEvent evt).bufferSize = o.bufferSize := by
  simp only [ClusterObservability.recordEvent, List.length_append, List.length_singleton]
  split
  · exact ⟨rfl, rfl, rfl⟩
  · rename_i room
    have fits : o.events.length + 1 - o.bufferSize = 0 := by omega
    rw [fits]
    exact ⟨rfl, rfl, rfl⟩

structure Requested (s : ExportWatch) (request : Export) : Prop where
  nonempty : 0 < request.events.length
  length : request.events.length ≤ request.sentUpTo
  older : request.oldest ≤ s.oldest
  fits : request.sentUpTo ≤ s.obs.events.length
  index : s.obs.exportedIndex = request.first - s.oldest

structure Buffered (s : ExportWatch) : Prop where
  window : s.obs.events = s.history.drop s.oldest
  length : s.history.length = s.oldest + s.obs.events.length
  bounded : s.obs.events.length ≤ s.obs.bufferSize
  index : s.obs.exportedIndex ≤ s.obs.events.length
  sent : ∀ e ∈ s.exports, e.first < e.upTo ∧ e.upTo ≤ s.history.length
  slices : ∀ e ∈ s.exports ++ s.inFlight.toList, e.upTo ≤ s.history.length ∧ e.events = (s.history.take e.upTo).drop e.first
  request : ∀ request ∈ s.inFlight, Requested s request

theorem buffered_fresh (bufferSize : Nat) (sized : 0 < bufferSize) : Buffered (.fresh bufferSize sized) where
  window := rfl
  length := rfl
  bounded := Nat.zero_le _
  index := le_refl _
  sent := by simp [ExportWatch.fresh]
  slices := by simp [ExportWatch.fresh]
  request := by simp [ExportWatch.fresh]

theorem record_window (s : ExportWatch) (evt : LogEvent) (buffered : Buffered s) :
    let after : ExportWatch := { s with obs := s.obs.recordEvent evt, history := s.history ++ [evt] }
    after.oldest = s.oldest + (s.obs.events.length + 1 - s.obs.bufferSize) ∧
      after.obs.events.length = min (s.obs.events.length + 1) s.obs.bufferSize ∧
      after.obs.events = after.history.drop after.oldest := by
  intro after
  obtain ⟨events, _, _⟩ := record_spec evt s.obs
  have total := buffered.length
  have room := s.obs.sized
  have length : after.obs.events.length = min (s.obs.events.length + 1) s.obs.bufferSize := by
    simp only [after, events, List.length_drop, List.length_append, List.length_singleton]
    omega
  have oldest : after.oldest = s.oldest + (s.obs.events.length + 1 - s.obs.bufferSize) := by
    have longer : after.history.length = s.history.length + 1 := by simp [after]
    rw [ExportWatch.oldest, longer, length]
    omega
  refine ⟨oldest, length, ?_⟩
  have joined : s.obs.events ++ [evt] = (s.history ++ [evt]).drop s.oldest := by
    rw [List.drop_append_of_le_length (by omega), ← buffered.window]
  calc after.obs.events = (s.obs.events ++ [evt]).drop (s.obs.events.length + 1 - s.obs.bufferSize) := events
    _ = ((s.history ++ [evt]).drop s.oldest).drop (s.obs.events.length + 1 - s.obs.bufferSize) := by rw [joined]
    _ = (s.history ++ [evt]).drop after.oldest := by rw [List.drop_drop, oldest]

theorem slice_append (history : List LogEvent) (evt : LogEvent) (e : Export) (reached : e.upTo ≤ history.length) :
    ((history ++ [evt]).take e.upTo).drop e.first = (history.take e.upTo).drop e.first := by
  rw [List.take_append_of_le_length reached]

theorem buffered_record (s : ExportWatch) (evt : LogEvent) (buffered : Buffered s) :
    Buffered { s with obs := s.obs.recordEvent evt, history := s.history ++ [evt] } := by
  obtain ⟨oldest, length, window⟩ := record_window s evt buffered
  obtain ⟨_, index, size⟩ := record_spec evt s.obs
  have total := buffered.length
  have bounded := buffered.bounded
  have room := s.obs.sized
  have low := buffered.index
  refine ⟨window, ?_, ?_, ?_, ?_, ?_, ?_⟩
  · rw [oldest, length, List.length_append, List.length_singleton]
    omega
  · rw [length, size]
    exact min_le_right _ _
  · rw [length, index]
    omega
  · intro e member
    obtain ⟨nonempty, reached⟩ := buffered.sent e member
    rw [List.length_append]
    exact ⟨nonempty, by omega⟩
  · intro e member
    obtain ⟨reached, slice⟩ := buffered.slices e member
    rw [List.length_append, slice_append s.history evt e reached]
    exact ⟨by omega, slice⟩
  · intro request member
    obtain ⟨nonempty, shorter, older, fits, position⟩ := buffered.request request member
    refine ⟨nonempty, shorter, ?_, ?_, ?_⟩
    · rw [oldest]
      omega
    · rw [length]
      omega
    · rw [oldest, index]
      omega

theorem buffered_begin (s : ExportWatch) (buffered : Buffered s) (unsent : s.obs.exportedIndex < s.obs.events.length) :
    Buffered { s with inFlight := some ⟨s.obs.pending.1, s.obs.pending.2, s.oldest⟩ } := by
  have total := buffered.length
  have carried : (s.obs.pending.1).length = s.obs.events.length - s.obs.exportedIndex := List.length_drop
  have starts : (⟨s.obs.pending.1, s.obs.pending.2, s.oldest⟩ : Export).first = s.oldest + s.obs.exportedIndex := by
    rw [Export.first, Export.upTo, carried]
    simp only [ClusterObservability.pending]
    omega
  refine ⟨buffered.window, total, buffered.bounded, buffered.index, buffered.sent, ?_, ?_⟩
  · intro e member
    rcases List.mem_append.mp member with earlier | new
    · exact buffered.slices e (List.mem_append_left _ earlier)
    · rw [Option.toList_some, List.mem_singleton] at new
      subst new
      rw [starts]
      refine ⟨by simp only [Export.upTo, ClusterObservability.pending]; omega, ?_⟩
      simp only [Export.upTo, ClusterObservability.pending]
      rw [← total, List.take_length, ← List.drop_drop, ← buffered.window]
  · intro request member
    cases member
    have nonempty : 0 < (s.obs.pending.1).length := by
      rw [carried]
      omega
    have shorter : (s.obs.pending.1).length ≤ s.obs.events.length := by
      rw [carried]
      omega
    refine ⟨nonempty, shorter, le_refl _, le_refl _, ?_⟩
    rw [starts]
    change s.obs.exportedIndex = s.oldest + s.obs.exportedIndex - s.oldest
    omega

theorem buffered_succeed (s : ExportWatch) (request : Export) (buffered : Buffered s) (sending : s.inFlight = some request) :
    Buffered { s with
      obs := s.obs.exported request.events request.sentUpTo, inFlight := none, exports := s.exports ++ [request] } := by
  obtain ⟨nonempty, length, older, fits, index⟩ := buffered.request request sending
  have slices := buffered.slices
  rw [sending] at slices
  refine ⟨buffered.window, buffered.length, buffered.bounded, fits, ?_, ?_, by simp⟩
  · intro e member
    rcases List.mem_append.mp member with earlier | new
    · exact buffered.sent e earlier
    · rw [List.mem_singleton] at new
      subst new
      exact ⟨by simp only [Export.first, Export.upTo]; omega, (slices e (by simp)).1⟩
  · simpa using slices

theorem buffered_fail (s : ExportWatch) (error : String) (buffered : Buffered s) :
    Buffered { s with obs := s.obs.failed error, inFlight := none } :=
  ⟨buffered.window, buffered.length, buffered.bounded, buffered.index, buffered.sent,
    fun e member => buffered.slices e (List.mem_append_left _ (by simpa using member)), by simp⟩

inductive ExportMove (s : ExportWatch) : ExportEvent → ExportWatch → Prop where
  | recorded (evt : LogEvent) :
      ExportMove s (.recordEvent evt) { s with obs := s.obs.recordEvent evt, history := s.history ++ [evt] }
  | nothing (idle : s.inFlight = none) (sent : s.obs.events.length ≤ s.obs.exportedIndex) : ExportMove s .begin s
  | begun (idle : s.inFlight = none) (unsent : s.obs.exportedIndex < s.obs.events.length) :
      ExportMove s .begin { s with inFlight := some ⟨s.obs.pending.1, s.obs.pending.2, s.oldest⟩ }
  | succeeded (request : Export) (sending : s.inFlight = some request) :
      ExportMove s .succeed { s with
        obs := s.obs.exported request.events request.sentUpTo, inFlight := none, exports := s.exports ++ [request] }
  | failed (error : String) (request : Export) (sending : s.inFlight = some request) :
      ExportMove s (.fail error) { s with obs := s.obs.failed error, inFlight := none }

theorem export_move (s after : ExportWatch) (event : ExportEvent) (taken : s.next event = some after) :
    ExportMove s event after := by
  cases event with
  | recordEvent evt =>
      cases taken
      exact .recorded evt
  | begin =>
      simp only [ExportWatch.next] at taken
      split at taken
      · cases taken
      · rename_i idle
        split at taken
        · rename_i empty
          cases taken
          refine .nothing idle ?_
          simpa [ClusterObservability.pending] using empty
        · rename_i full
          cases taken
          refine .begun idle ?_
          simpa [ClusterObservability.pending] using full
  | succeed =>
      obtain ⟨request, sending, rfl⟩ := Option.map_eq_some_iff.mp taken
      exact .succeeded request sending
  | fail error =>
      obtain ⟨request, sending, rfl⟩ := Option.map_eq_some_iff.mp taken
      exact .failed error request sending

theorem buffered_next (s after : ExportWatch) (event : ExportEvent) (buffered : Buffered s)
    (taken : s.next event = some after) : Buffered after := by
  cases export_move s after event taken with
  | recorded evt => exact buffered_record s evt buffered
  | nothing => exact buffered
  | begun idle unsent => exact buffered_begin s buffered unsent
  | succeeded request sending => exact buffered_succeed s request buffered sending
  | failed error => exact buffered_fail s error buffered

theorem sent_before (s : ExportWatch) (buffered : Buffered s) (lossless : Lossless s) (e : Export) (member : e ∈ s.exports) :
    e.upTo ≤ s.oldest + s.obs.exportedIndex := by
  obtain ⟨nonempty, reached⟩ := buffered.sent e member
  by_contra later
  have carried : Carried s.exports (e.upTo - 1) := ⟨e, member, by omega, by omega⟩
  have before := (lossless.separates (e.upTo - 1) (by omega) (by omega)).mp carried
  omega

theorem carried_append (exports : List Export) (request : Export) (number : Nat) :
    Carried (exports ++ [request]) number ↔ Carried exports number ∨ request.Carries number := by
  simp only [Carried, List.mem_append, List.mem_singleton, or_and_right, exists_or, exists_eq_left]

theorem splits_snoc (exports : List Export) (request : Export) (holds : List Export → Export → Prop) :
    (∀ earlier e later, exports ++ [request] = earlier ++ e :: later → holds earlier e) ↔
      (∀ earlier e later, exports = earlier ++ e :: later → holds earlier e) ∧ holds exports request := by
  constructor
  · intro all
    refine ⟨fun earlier e later split => all earlier e (later ++ [request]) (by simp [split]), all exports request [] rfl⟩
  · rintro ⟨before, here⟩ earlier e later split
    rcases List.eq_nil_or_concat later with rfl | ⟨rest, item, rfl⟩
    · obtain ⟨rfl, same⟩ := List.append_inj' split rfl
      cases same
      exact here
    · rw [List.concat_eq_append, ← List.cons_append, ← List.append_assoc] at split
      exact before earlier e rest (List.append_inj' split rfl).1

theorem lossless_record (s : ExportWatch) (evt : LogEvent) (buffered : Buffered s) (lossless : Lossless s) :
    Lossless { s with obs := s.obs.recordEvent evt, history := s.history ++ [evt] } := by
  obtain ⟨oldest, _, _⟩ := record_window s evt buffered
  obtain ⟨_, index, _⟩ := record_spec evt s.obs
  have total := buffered.length
  have low := buffered.index
  refine ⟨?_, lossless.once, lossless.complete, fun e member => ((buffered_record s evt buffered).slices e member).2⟩
  intro number old new
  rw [oldest] at old ⊢
  rw [index]
  rw [List.length_append, List.length_singleton] at new
  rcases Nat.lt_or_ge number s.history.length with known | last
  · rw [lossless.separates number (by omega) known]
    omega
  · refine iff_of_false ?_ (by omega)
    rintro ⟨e, member, _, inside⟩
    have reached := (buffered.sent e member).2
    omega

theorem lossless_begin (s : ExportWatch) (buffered : Buffered s) (lossless : Lossless s) (idle : s.inFlight = none)
    (unsent : s.obs.exportedIndex < s.obs.events.length) :
    Lossless { s with inFlight := some ⟨s.obs.pending.1, s.obs.pending.2, s.oldest⟩ } := by
  have started := buffered_begin s buffered unsent
  refine ⟨lossless.separates, lossless.once, ?_, fun e member => (started.slices e member).2⟩
  have complete := lossless.complete
  rw [idle, Option.toList_none, List.append_nil] at complete
  rw [Option.toList_some, splits_snoc]
  refine ⟨complete, ?_⟩
  intro number old new missing
  obtain ⟨_, _, _, _, index⟩ := started.request _ rfl
  have total := buffered.length
  refine ⟨?_, new⟩
  have upTo : (⟨s.obs.pending.1, s.obs.pending.2, s.oldest⟩ : Export).upTo = s.history.length := total.symm
  rw [upTo] at new
  have after := (not_congr (lossless.separates number old new)).mp missing
  change s.obs.exportedIndex = _ - s.oldest at index
  omega

theorem lossless_fail (s : ExportWatch) (error : String) (request : Export) (buffered : Buffered s) (lossless : Lossless s)
    (sending : s.inFlight = some request) : Lossless { s with obs := s.obs.failed error, inFlight := none } := by
  have complete := lossless.complete
  rw [sending, Option.toList_some, splits_snoc] at complete
  refine ⟨lossless.separates, lossless.once, ?_, fun e member => ((buffered_fail s error buffered).slices e member).2⟩
  rw [Option.toList_none, List.append_nil]
  exact complete.1

-- If something was trimmed meanwhile, the first event that is left and was not
-- in the request falls below the new index.
theorem lossless_succeed (s : ExportWatch) (request : Export) (buffered : Buffered s) (lossless : Lossless s)
    (sending : s.inFlight = some request) :
    Lossless { s with
      obs := s.obs.exported request.events request.sentUpTo, inFlight := none, exports := s.exports ++ [request] } ↔
      request.oldest = s.oldest := by
  obtain ⟨nonempty, length, older, fits, index⟩ := buffered.request request sending
  have total := buffered.length
  have before := sent_before s buffered lossless
  have upTo : request.upTo = request.oldest + request.sentUpTo := rfl
  have first : request.first = request.upTo - request.events.length := rfl
  constructor
  · intro after
    by_contra trimmed
    have inside := after.separates (max s.oldest request.upTo) (le_max_left _ _) (by simp only; omega)
    have carried := inside.mpr (by change _ < s.oldest + request.sentUpTo; omega)
    rw [carried_append] at carried
    rcases carried with ⟨e, member, _, below⟩ | ⟨_, below⟩
    · have reached := before e member
      omega
    · omega
  · intro untrimmed
    have complete := lossless.complete
    rw [sending, Option.toList_some] at complete
    refine ⟨?_, ?_, ?_, fun e member => ((buffered_succeed s request buffered sending).slices e member).2⟩
    · intro number old new
      change s.oldest ≤ number at old
      rw [carried_append, lossless.separates number old new]
      change _ ↔ number < s.oldest + request.sentUpTo
      simp only [Export.Carries]
      omega
    · refine List.pairwise_append.mpr ⟨lossless.once, List.pairwise_singleton _ _, ?_⟩
      intro e member last new number inEarlier inRequest
      rw [List.mem_singleton] at new
      subst new
      have reached := before e member
      obtain ⟨_, below⟩ := inEarlier
      obtain ⟨above, _⟩ := inRequest
      omega
    · rw [Option.toList_none, List.append_nil]
      exact complete

theorem lossless_next (s after : ExportWatch) (event : ExportEvent) (buffered : Buffered s) (lossless : Lossless s)
    (taken : s.next event = some after) : Lossless after ↔ Untrimmed s event := by
  cases export_move s after event taken with
  | recorded evt => exact iff_of_true (lossless_record s evt buffered lossless) trivial
  | nothing => exact iff_of_true lossless trivial
  | begun idle unsent => exact iff_of_true (lossless_begin s buffered lossless idle unsent) trivial
  | succeeded request sending =>
      rw [lossless_succeed s request buffered lossless sending]
      simp [Untrimmed, sending]
  | failed error request sending => exact iff_of_true (lossless_fail s error request buffered lossless sending) trivial

instance (s : ExportWatch) (event : ExportEvent) : Decidable (Untrimmed s event) :=
  match event with
  | .succeed => inferInstanceAs (Decidable (∀ request ∈ s.inFlight, request.oldest = s.oldest))
  | .recordEvent _ | .begin | .fail _ => isTrue trivial

def joined (id : String) : ExportEvent := .recordEvent { event := "node_join", nodeId := some id }

-- The third event pushes the first one out between two requests.
def exportedTwice : List ExportEvent :=
  [joined "a", .begin, joined "b", .succeed, .begin, .fail "timed out", joined "c", .begin, .succeed]

-- The third event pushes the first one out while the request is in flight, and
-- is never sent.
def trimmedInFlight : List ExportEvent := [joined "a", joined "b", .begin, joined "c", .succeed]

end HuddleCluster.Observability
