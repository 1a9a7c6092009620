import HuddleCluster.Ring.Trails

set_option autoImplicit false

namespace HuddleCluster.Ring

structure Stamped (s t : Server) : Prop where
  position : t.position = s.position
  lastRotated : t.lastRotated = s.lastRotated
  totalInnerTime : t.totalInnerTime = s.totalInnerTime
  totalOuterTime : t.totalOuterTime = s.totalOuterTime

def StampsKept (c d : Cluster) : Prop := ∀ r, Stamped (c.objects r) (d.objects r)

theorem stamped_refl (s : Server) : Stamped s s := ⟨rfl, rfl, rfl, rfl⟩

theorem stamps_same (c d : Cluster) (same : d.objects = c.objects) : StampsKept c d := fun r => same ▸ stamped_refl (c.objects r)

theorem stamps_trans (c d e : Cluster) (before : StampsKept c d) (after : StampsKept d e) : StampsKept c e := fun r =>
  ⟨(after r).position.trans (before r).position, (after r).lastRotated.trans (before r).lastRotated,
    (after r).totalInnerTime.trans (before r).totalInnerTime, (after r).totalOuterTime.trans (before r).totalOuterTime⟩

theorem stamps_modify (c : Cluster) (r : Ref) (f : Server → Server) (soft : ∀ s, Stamped s (f s)) : StampsKept c (c.modify r f) := by
  intro x
  rw [Cluster.modify_objects]
  split
  · rename_i here
    exact here ▸ soft (c.objects r)
  · exact stamped_refl _

theorem stamps_frame : Frame StampsKept where
  refl c := stamps_same c c rfl
  trans := stamps_trans
  metrics c r _ := stamps_modify c r _ fun _ => ⟨rfl, rfl, rfl, rfl⟩
  heated c r _ := stamps_modify c r _ fun _ => ⟨rfl, rfl, rfl, rfl⟩
  weighed c r _ := stamps_modify c r _ fun _ => ⟨rfl, rfl, rfl, rfl⟩
  tuned c _ _ _ _ := stamps_same c _ rfl
  counted c _ _ := stamps_same c _ rfl
  ramped c _ := stamps_same c _ rfl
  sensed c _ := stamps_same c _ rfl
  read c _ := stamps_same c _ rfl

theorem stamps_get_server (c : Cluster) (affinityKey : Option String) (draw : ℚ) :
    StampsKept c (c.getServer affinityKey draw).2 := stamps_same _ _ (Cluster.get_server_objects c affinityKey draw)

theorem stamps_get_excluding (c : Cluster) (excludedIds : List String) : StampsKept c (c.getServerExcluding excludedIds).2 :=
  stamps_same _ _ (Cluster.get_excluding_objects c excludedIds)

def Op.loads : Op → Bool
  | .loadState _ => true
  | _ => false

-- load_state stores the totals of the file.
theorem stamps_step (cfg : Config) (c : Cluster) (op : Op) (routine : op.routine = true) (unloaded : op.loads = false) :
    StampsKept c (step cfg c op) := by
  by_cases plain : op.plain = true
  · exact frame_plain stamps_frame.course cfg c op plain
  cases op with
  | getServer affinityKey draw => exact stamps_get_server c affinityKey draw
  | getServerContext affinityKey draw raised elapsedMs =>
      exact frame_context stamps_frame.course stamps_get_server c affinityKey draw raised elapsedMs
  | requestWithRetry affinityKey draw attempts =>
      exact frame_request stamps_frame.course stamps_get_server stamps_get_excluding c affinityKey draw attempts
  | clearAffinity key => cases key <;> exact stamps_same c _ rfl
  | triggerRemediation => exact stamps_same c _ rfl
  | clearRemediationQuarantine => exact stamps_same c _ rfl
  | _ => simp_all [Op.plain, Op.routine, Op.loads]

theorem stamps_begin_rotate (c : Cluster) : StampsKept c c.beginRotate := frame_begin_rotate stamps_frame.toTuning.onward c

theorem remediate_circuit_objects (c : Cluster) (r : Ref) : (c.remediateOpenCircuit r).objects = c.objects := by
  obtain ⟨_, treated⟩ := open_circuit_treats c r
  rw [treated]

theorem remediate_stale_objects (c : Cluster) : c.remediateStale.objects = c.objects := by
  obtain ⟨_, treated⟩ := stale_treats c
  rw [treated]

theorem complete_eviction_objects (c : Cluster) (r x : Ref) :
    (c.completeEviction r).objects x = if x = r then { c.objects r with position := .outer, lastRotated := c.now } else c.objects x := by
  unfold Cluster.completeEviction
  simp only
  rw [record_eviction_objects]
  exact Cluster.modify_objects c.tick r x fun s => { s with position := .outer, lastRotated := c.now }

theorem complete_eviction_clock (c : Cluster) (r : Ref) : (c.completeEviction r).monotonic = c.monotonic.tick := by
  unfold Cluster.completeEviction
  simp only
  rw [record_eviction_readings]
  rfl

end HuddleCluster.Ring
