import HuddleCluster.Ring.Frames

set_option autoImplicit false

namespace HuddleCluster.Ring

-- Nothing moved between containers, but the inner ring may have turned.
structure Still (c d : Cluster) : Prop where
  inner : c.innerRing.IsRotated d.innerRing
  outer : d.outerRing = c.outerRing
  draining : d.drainingServers = c.drainingServers
  ids : d.idOf = c.idOf
  positions : ∀ r, (d.objects r).position = (c.objects r).position

theorem still_of_quiet (c d : Cluster) (same : Quiet c d) : Still c d :=
  ⟨same.inner ▸ List.IsRotated.refl d.innerRing, same.outer, same.draining, same.ids, same.positions⟩

theorem still_refl (c : Cluster) : Still c c := still_of_quiet c c (calm_refl c).toQuiet

theorem still_trans (c d e : Cluster) (before : Still c d) (after : Still d e) : Still c e :=
  ⟨before.inner.trans after.inner, after.outer.trans before.outer, after.draining.trans before.draining,
    after.ids.trans before.ids, fun r => (after.positions r).trans (before.positions r)⟩

theorem still_turn (c : Cluster) : Still c c.turn := ⟨⟨1, rfl⟩, rfl, rfl, rfl, fun _ => rfl⟩

theorem still_get_server (c : Cluster) (affinityKey : Option String) (draw : ℚ) : Still c (c.getServer affinityKey draw).2 := by
  obtain ⟨turns, _, _, turned⟩ := c.get_server_turned affinityKey draw
  rw [turned]
  exact ⟨⟨turns, rfl⟩, rfl, rfl, rfl, fun _ => rfl⟩

theorem still_get_server_excluding (c : Cluster) (excludedIds : List String) :
    Still c (c.getServerExcluding excludedIds).2 := by
  obtain ⟨turns, turned⟩ := c.get_excluding_turned excludedIds
  rw [turned]
  exact ⟨⟨turns, rfl⟩, rfl, rfl, rfl, fun _ => rfl⟩

theorem quiet_frame : Frame Quiet where
  refl c := (calm_refl c).toQuiet
  trans := quiet_trans
  metrics c r _ := quiet_modify c r _ rfl rfl
  heated c r _ := quiet_modify c r _ rfl rfl
  weighed c r _ := quiet_modify c r _ rfl rfl
  tuned _ _ _ _ _ := ⟨rfl, rfl, rfl, rfl, fun _ => rfl⟩
  counted _ _ _ := ⟨rfl, rfl, rfl, rfl, fun _ => rfl⟩
  ramped _ _ := ⟨rfl, rfl, rfl, rfl, fun _ => rfl⟩
  sensed _ _ := ⟨rfl, rfl, rfl, rfl, fun _ => rfl⟩
  read _ _ := ⟨rfl, rfl, rfl, rfl, fun _ => rfl⟩

theorem still_frame : Frame Still := frame_weaken quiet_frame still_of_quiet still_trans

theorem quiet_record_outcome (c : Cluster) (r : Ref) (outcome : Cluster.Outcome) (elapsedMs : ℚ) :
    Quiet c (c.recordOutcome r outcome elapsedMs) := frame_record_outcome quiet_frame.course c r outcome elapsedMs

theorem quiet_begin_rotate (c : Cluster) : Quiet c c.beginRotate := frame_begin_rotate quiet_frame.toTuning.onward c

-- A restored server keeps its id and its place.
theorem quiet_load_state (c : Cluster) (serversData : List (String × SavedServer)) : Quiet c (c.loadState serversData) :=
  frame_load_state quiet_frame.course (fun state r _ => quiet_modify state r _ rfl rfl) c serversData

theorem quiet_clear_affinity (c : Cluster) (key : Option String) : Quiet c (c.clearAffinity key) := by
  cases key <;> exact ⟨rfl, rfl, rfl, rfl, fun _ => rfl⟩

theorem still_step (cfg : Config) (c : Cluster) (op : Op) (routine : op.routine = true) : Still c (step cfg c op) := by
  by_cases plain : op.plain = true
  · exact frame_plain still_frame.course cfg c op plain
  cases op with
  | getServer affinityKey draw => exact still_get_server c affinityKey draw
  | getServerContext affinityKey draw raised elapsedMs =>
      exact frame_context still_frame.course still_get_server c affinityKey draw raised elapsedMs
  | requestWithRetry affinityKey draw attempts =>
      exact frame_request still_frame.course still_get_server still_get_server_excluding c affinityKey draw attempts
  | loadState serversData => exact still_of_quiet _ _ (quiet_load_state c serversData)
  | clearAffinity key => exact still_of_quiet _ _ (quiet_clear_affinity c key)
  | triggerRemediation serverId policy => exact ⟨.refl _, rfl, rfl, rfl, fun _ => rfl⟩
  | clearRemediationQuarantine serverId => exact ⟨.refl _, rfl, rfl, rfl, fun _ => rfl⟩
  | _ => simp_all [Op.plain, Op.routine]

end HuddleCluster.Ring
