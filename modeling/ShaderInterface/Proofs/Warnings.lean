import ShaderInterface.Proofs.Notes
import ShaderInterface.Proofs.QuestionOrder

/-!
# What a reflection warns of

Asking a module, laying out its blocks and listing its resources may leave notes behind, but never a
warning. A reflection that succeeds warns of nothing but shared slots.
-/

namespace ShaderInterface

namespace Reflecting

variable {α β : Type}

/-- The warnings among the messages that a reflection notes. -/
def warnings (x : Reflecting α) : List Entry :=
  x.notes.filter (·.level = .warn)

/-- There is no warning, however the reflection ends. -/
def Calm (x : Reflecting α) : Prop :=
  NotesOnly (·.level ≠ .warn) x

theorem warnings_bind_of_ok {x : Reflecting α} {a : α} (hx : x.outcome = .ok a)
    (next : α → Reflecting β) : (x >>= next).warnings = x.warnings ++ (next a).warnings := by
  rw [warnings, notes_bind_of_ok hx, List.filter_append]
  rfl

theorem notes_forM_note (level : Level) (texts : List String) :
    (texts.forM (note level)).notes = texts.map (Entry.mk level) := by
  induction texts with
  | nil => rfl
  | cons text texts ih =>
      have hsteps : (text :: texts).forM (note level) =
          (do note level text; texts.forM (note level)) := rfl
      rw [hsteps, notes_bind_of_ok (outcome_note level text), notes_note, ih]
      rfl

theorem warnings_forM_warn (texts : List String) :
    (texts.forM (note .warn)).warnings = texts.map (Entry.mk .warn) := by
  rw [warnings, notes_forM_note, List.filter_eq_self]
  intro entry hentry
  obtain ⟨text, -, rfl⟩ := List.mem_map.mp hentry
  rfl

theorem Silent.calm {x : Reflecting α} (hsilent : Silent x) : Calm x :=
  hsilent.notesOnly _

theorem calm_pure (a : α) : Calm (pure a : Reflecting α) :=
  (silent_pure a).calm

theorem calm_ask (context : String) (answer : Answer α) : Calm (ask context answer) :=
  (silent_ask context answer).calm

theorem calm_note {level : Level} (hlevel : level ≠ .warn) (text : String) :
    Calm (note level text) := by
  intro entry hentry
  rw [notes_note, List.mem_singleton] at hentry
  rw [hentry]
  exact hlevel

namespace Calm

variable {x : Reflecting α}

theorem warnings_eq_nil (hcalm : Calm x) : x.warnings = [] := by
  apply List.filter_eq_nil_iff.mpr
  intro entry hentry
  simpa using hcalm entry hentry

/-- Where the first step does not warn, the warnings are those of what follows. -/
theorem warnings_bind_of_ok (hcalm : Calm x) {a : α} (hx : x.outcome = .ok a)
    (next : α → Reflecting β) : (x >>= next).warnings = (next a).warnings := by
  rw [Reflecting.warnings_bind_of_ok hx, hcalm.warnings_eq_nil, List.nil_append]

end Calm

end Reflecting

namespace Reflector

open Reflecting

variable (reflector : Reflector)

theorem calm_entryPoint : Calm reflector.entryPoint := by
  apply (calm_ask _ _).bind
  intro entries
  cases entries with
  | nil => exact calm_pure _
  | cons first others =>
      cases others with
      | nil => exact calm_pure _
      | cons => exact (calm_note (by decide) _).bind fun _ => calm_pure _

theorem calm_layout (type : Ident) : Calm (reflector.layout type) := by
  apply (calm_ask _ _).bind
  intro info
  apply (calm_ask _ _).bind
  intro types
  apply (reflector.silent_membersFrom _ _ _ _).calm.bind
  intro members
  apply (calm_ask _ _).bind
  intro size
  exact (calm_note (by decide) _).bind fun _ => calm_pure _

/-- A resource that is passed over is noted, but not as a warning. -/
theorem calm_block? (kind : ResourceKind) (resource : Resource) :
    Calm (reflector.block? kind resource) := by
  apply (calm_ask _ _).bind
  intro info
  by_cases hbase : info.base = .struct
  · rw [if_pos hbase]
    exact (reflector.calm_layout _).bind fun _ => calm_pure _
  · rw [if_neg hbase]
    exact (calm_note (by decide) _).bind fun _ => calm_pure _

theorem calm_blocks (kind : ResourceKind) : Calm (reflector.blocks kind) := by
  apply (calm_ask _ _).bind
  intro resources
  exact (NotesOnly.mapM (reflector.calm_block? kind) resources).bind fun _ => calm_pure _

theorem calm_uniformBuffers : Calm reflector.uniformBuffers := by
  apply (reflector.calm_blocks .uniformBuffer).bind
  apply NotesOnly.mapM
  intro block
  exact (reflector.silent_slotOf _ _).calm.bind fun _ => calm_pure _

theorem calm_storageBuffers : Calm reflector.storageBuffers := by
  apply (reflector.calm_blocks .storageBuffer).bind
  apply NotesOnly.mapM
  intro block
  apply (reflector.silent_slotOf _ _).calm.bind
  intro slot
  exact (reflector.silent_accessOf _).calm.bind fun _ => calm_pure _

theorem calm_pushConstants : Calm reflector.pushConstants :=
  (reflector.calm_blocks .pushConstant).bind fun _ => calm_pure _

theorem calm_imageDataType (kind : ResourceKind) (resource : Resource) (info : TypeInfo) :
    Calm (reflector.imageDataType kind resource info) := by
  rw [imageDataType]
  cases info.imageType with
  | none => exact calm_pure _
  | some type => exact (calm_ask _ _).bind fun _ => calm_pure _

theorem calm_images (kind : ResourceKind) : Calm (reflector.images kind) := by
  apply (calm_ask _ _).bind
  apply NotesOnly.mapM
  intro resource
  apply (reflector.silent_slotOf _ _).calm.bind
  intro slot
  apply (calm_ask _ _).bind
  intro info
  exact (reflector.calm_imageDataType _ _ _).bind fun _ => calm_pure _

theorem calm_sampledImages : Calm reflector.sampledImages :=
  reflector.calm_images .sampledImage

theorem calm_storageImages : Calm reflector.storageImages :=
  reflector.calm_images .storageImage

theorem calm_stageInputs : Calm reflector.stageInputs := by
  have hinput : ∀ resource, Calm (reflector.stageInput resource) := by
    intro resource
    apply ((calm_ask _ _).bind fun _ => calm_pure _).bind
    intro location
    exact (calm_ask _ _).bind fun _ => calm_pure _
  apply (calm_ask _ _).bind
  intro resources
  exact (NotesOnly.mapM hinput resources).bind fun _ => calm_pure _

theorem calm_chosenStageInputs : Calm reflector.chosenStageInputs := by
  rw [chosenStageInputs]
  split
  next => exact reflector.calm_stageInputs
  next => exact calm_pure []

variable {reflector}

/-- All warnings of a reflection come from its resources that share slots. -/
theorem warnings_reflect {code : List UInt8} {reflection : Reflection}
    (hreflect : (reflector.reflect code).outcome = .ok reflection) :
    (reflector.reflect code).warnings = reflection.sharedSlotNotes.map (Entry.mk .warn) := by
  have hwhole := reflector.outcome_reflect_eq_ok.mp hreflect
  have hstart : reflector.entryPoint.outcome = .ok (reflection.entryPoint, reflection.stage) :=
    reflector.outcome_entryPoint_eq_ok.mpr hwhole.entryPoints
  have hinputs := reflector.outcome_chosenStageInputs_eq_ok.mpr hwhole.stageInputs
  rw [reflect, reflector.calm_entryPoint.warnings_bind_of_ok hstart,
    reflector.calm_chosenStageInputs.warnings_bind_of_ok hinputs,
    reflector.calm_uniformBuffers.warnings_bind_of_ok hwhole.uniformBuffers,
    reflector.calm_storageBuffers.warnings_bind_of_ok hwhole.storageBuffers,
    reflector.calm_pushConstants.warnings_bind_of_ok hwhole.pushConstants,
    reflector.calm_sampledImages.warnings_bind_of_ok hwhole.sampledImages,
    reflector.calm_storageImages.warnings_bind_of_ok hwhole.storageImages,
    ← hwhole.version, ← hwhole.code, warnings_bind_of_ok (outcome_forM_note _ _),
    warnings_forM_warn, (calm_note (by decide) _).warnings_bind_of_ok (outcome_note _ _),
    (calm_pure _).warnings_eq_nil, List.append_nil]

end Reflector

end ShaderInterface
