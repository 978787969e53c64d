import FormatPipeline.Proofs.Session.Registered
import FormatPipeline.Proofs.Workspace.Applied

/-! What is handed over is all that changes what settings have made of a session and of its formatters. -/

namespace FormatPipeline

open Schedule (DebouncedTimeline Timeline Turn Work)

namespace Workspace

variable {ω : Type} [World ω]

/-- The end of a start makes nothing of the settings. -/
theorem applied_greeting (w : Workspace ω) : (Session.greeting w).applied = w.applied := by
  refine (unaffected_applied.onlySays (onlySays_debug _ _)).trans ?_
  -- Each of the three ways to greet only renders the tile, which is no setting.
  cases w.documents.active? with
  | none => exact applied_renderStatus w
  | some handle =>
    dsimp only
    cases w.document? handle with
    | none => exact applied_activeChanged w _
    | some document => exact applied_activeChanged (w.documentOpened document) _

/-- Letting a setting take effect changes no value, and not the world. -/
theorem values_observe (w : Workspace ω) (target : Target) :
    (w.observe target).store.get = w.store.get ∧ (w.observe target).world = w.world := by
  have stores : (w.observe target).store = (w.store.observe target.key _).1 := store_apply _ _
  refine ⟨?_, (formatterNames_apply _ _).2⟩
  rw [stores]
  rfl

/-- Observing settings changes no value. -/
theorem get_foldl_observe (targets : List Target) (w : Workspace ω) :
    (targets.foldl observe w).store.get = w.store.get := by
  induction targets generalizing w with
  | nil => rfl
  | cons target rest ih => exact (ih (w.observe target)).trans (values_observe w target).1

end Workspace

namespace Session

variable {ω : Type} [World ω] {s next : Session ω}

/-- A move hands something over, and apart from that it makes nothing of the settings. -/
theorem applied_moves {move : Move ω} (moved : Moves s move next) :
    ∃ w : Workspace ω, w.applied = s.state.applied ∧ (s.hands move ≠ [] → w.world = s.state.world) ∧
      next.state = (s.hands move).foldl (fun w update => update.apply w) w := by
  cases moved with
  | call call =>
    obtain ⟨w, -, same, world, state⟩ := answer_eq call s
    exact ⟨w, same, world, state⟩
  | @turn _ turn taken =>
    -- The state follows from the work whose turn it was.
    have state := taken.state_eq
    rcases turn with (task | errand) | ⟨now, task | sleeper⟩ | _
    · exact ⟨_, rfl, fun _ => rfl, state⟩
    · exact ⟨_, Workspace.unaffected_applied.startErrand s.clock errand s.state,
        fun something => absurd rfl something, state⟩
    · exact ⟨s.state, rfl, fun _ => rfl, state⟩
    · exact ⟨_, Workspace.unaffected_applied.wakeSleeper now sleeper s.state,
        fun something => absurd rfl something, state⟩
    · exact ⟨_, rfl, fun _ => rfl, state⟩

/-- News of documents make nothing of the settings. -/
theorem applied_noticed (notice : Notice) (s : Session ω) :
    (s.noticed notice).state.applied = s.state.applied := by
  cases notice with
  | opened document => rfl
  | activated document => exact Workspace.applied_activeChanged _ document
  | closed id => exact Workspace.applied_documentClosed _ id
  | replaced documents => rfl

/-- Whatever happens, the formatters keep their names and their order. -/
theorem formatterNames_lasts {event : Option (Happening ω)} (lasts : Lasts s event next) :
    next.state.formatterNames = s.state.formatterNames := by
  cases lasts with
  | stop => rfl
  | happens happens =>
    cases happens with
    | notice => exact congrArg Workspace.Applied.names (applied_noticed _ s)
    -- Only a change of the settings reaches the formatters, and no setter renames or moves one.
    | move moved =>
      obtain ⟨w, same, -, state⟩ := applied_moves moved
      rw [state, Workspace.formatterNames_foldl_apply]
      exact congrArg Workspace.Applied.names same

/-- After the start of a session the formatters are those that were registered. -/
theorem formatterNames_start (profiles : List Profile) (delay : Nat) (s : Session ω) :
    (s.start profiles delay).state.formatterNames =
      (profiles.foldl Workspace.registerOne s.state).formatterNames := by
  rw [state_start]
  refine (congrArg Workspace.Applied.names (Workspace.applied_greeting _)).trans ?_
  -- Observing tells of the present values, and what is told only sets what a formatter has.
  exact Workspace.foldl_observe_keeps
    (fun w => w.formatterNames = (profiles.foldl Workspace.registerOne s.state).formatterNames)
    (fun _ _ before => before) (fun update before => (Workspace.formatterNames_apply update _).1.trans before)
    _ rfl

end Session

end FormatPipeline
