import Mathlib.Data.List.Forall2
import ShaderInterface.Proofs.Alike
import ShaderInterface.Reflection.Reflect

/-!
# Corresponding modules

Two modules are reflected side by side. A correspondence says which identifiers of the one stand
for which of the other, how much of a name counts and which error texts pass for the same. If the
answers of two modules correspond, so do the ways in which their reflections end: question by
question, then member by member, resource by resource and category by category.
-/

namespace ShaderInterface

/-! ## The names in a reflection -/

section

variable (f : String → String)

/-- Replace the name of a member. -/
def BufferMember.mapNames (member : BufferMember) : BufferMember :=
  { member with name := f member.name }

/-- Replace the name of a member of a storage block. -/
def StorageMember.mapNames (member : StorageMember) : StorageMember :=
  { member with name := f member.name }

/-- Replace the names of the members. -/
def BlockLayout.mapNames (layout : BlockLayout) : BlockLayout :=
  { layout with members := layout.members.map (·.mapNames f) }

/-- Replace the names of a uniform buffer. -/
def UniformBuffer.mapNames (buffer : UniformBuffer) : UniformBuffer :=
  { buffer with name := f buffer.name, members := buffer.members.map (·.mapNames f) }

/-- Replace the names of a storage buffer. -/
def StorageBuffer.mapNames (buffer : StorageBuffer) : StorageBuffer :=
  { buffer with
    variableName := f buffer.variableName
    typeName := f buffer.typeName
    members := buffer.members.map (·.mapNames f) }

/-- Replace the names of a push constant block. -/
def PushConstantBlock.mapNames (block : PushConstantBlock) : PushConstantBlock :=
  { block with name := f block.name, members := block.members.map (·.mapNames f) }

/-- Replace the name of an image. -/
def ImageBinding.mapNames (image : ImageBinding) : ImageBinding :=
  { image with name := f image.name }

/-- Replace the name of a stage input. -/
def StageInput.mapNames (input : StageInput) : StageInput :=
  { input with name := f input.name }

/-- Replace the names of all resources and members. The name of the entry point stays. -/
def Reflection.mapNames (reflection : Reflection) : Reflection :=
  { reflection with
    uniformBuffers := reflection.uniformBuffers.map (·.mapNames f)
    storageBuffers := reflection.storageBuffers.map (·.mapNames f)
    pushConstants := reflection.pushConstants.map (·.mapNames f)
    sampledImages := reflection.sampledImages.map (·.mapNames f)
    storageImages := reflection.storageImages.map (·.mapNames f)
    stageInputs := reflection.stageInputs.map (·.mapNames f) }

end

@[simp] theorem BufferMember.mapNames_id :
    BufferMember.mapNames (fun name => name) = fun member => member := rfl

/-- Replacing each name by itself changes nothing. -/
theorem Reflection.mapNames_id (reflection : Reflection) :
    reflection.mapNames (fun name => name) = reflection := by
  simp [Reflection.mapNames, UniformBuffer.mapNames, StorageBuffer.mapNames,
    PushConstantBlock.mapNames, StorageMember.mapNames, ImageBinding.mapNames,
    StageInput.mapNames]

/-- The values are equal as far as `f` shows them. -/
def Agree {α β : Type} (f : α → β) (a b : α) : Prop :=
  f a = f b

/-- Reflections that agree in all names and in all else are the same. -/
theorem Reflection.eq_of_agree_mapNames_id {first second : Reflection}
    (hagree : Agree (Reflection.mapNames fun name => name) first second) : first = second :=
  calc
    first = first.mapNames (fun name => name) := first.mapNames_id.symm
    _ = second.mapNames (fun name => name) := hagree
    _ = second := second.mapNames_id

theorem map_eq_of_forall₂_agree {α β : Type} {f : α → β} {as bs : List α}
    (hagree : List.Forall₂ (Agree f) as bs) : as.map f = bs.map f := by
  rw [← List.forall₂_eq_eq_eq, List.forall₂_map_left_iff, List.forall₂_map_right_iff]
  exact hagree

theorem map_toStorage_mapNames (f : String → String) (members : List BufferMember) :
    (members.map BufferMember.toStorage).map (StorageMember.mapNames f) =
      (members.map (BufferMember.mapNames f)).map BufferMember.toStorage := by
  simp only [List.map_map]
  rfl

/-- Sorting looks at locations alone. -/
theorem map_mapNames_mergeSort (f : String → String) (inputs : List StageInput) :
    (inputs.mergeSort fun first second => first.location ≤ second.location).map
        (StageInput.mapNames f) =
      (inputs.map (StageInput.mapNames f)).mergeSort fun first second =>
        first.location ≤ second.location :=
  List.map_mergeSort fun _ _ _ _ => rfl

/-- Counting in words only ever comes back to a smaller number. -/
theorem toNat_toUInt32_le (index : Nat) : index.toUInt32.toNat ≤ index := by
  simpa using Nat.mod_le _ _

/-- The category is laid out as a block. -/
def ResourceKind.isBlock : ResourceKind → Bool
  | .uniformBuffer | .storageBuffer | .pushConstant => true
  | _ => false

/-- How two reflections are compared. -/
structure Comparison where
  /-- What counts of a name. -/
  name : String → String
  /-- Contexts in which errors pass for the same. -/
  context : String → String → Prop
  context_refl : ∀ text, context text text
  /-- Texts of errors that pass for the same. -/
  message : String → String → Prop

/-- Which identifiers of two modules stand for each other. -/
structure Correspondence extends Comparison where
  var : Ident → Ident → Prop
  type : Ident → Ident → Prop
  /-- Structs that are laid out. -/
  block : Ident → Ident → Prop

/-- The correspondence along a relation between all identifiers. -/
def Comparison.along (comparison : Comparison) (ρ : Ident → Ident → Prop) : Correspondence where
  toComparison := comparison
  var := ρ
  type := ρ
  block := ρ

namespace Correspondence

variable (c : Correspondence)

/-- Errors that correspond. Reflecting a module that is read already fails with questions only. -/
inductive Errors : ReflectError → ReflectError → Prop
  | query {context context' text text' : String} (hcontext : c.context context context')
      (hmessage : c.message text text') : Errors (.query context text) (.query context' text')

section

variable {α β : Type} (R : α → β → Prop)

/-- Answers that correspond. -/
def Answers : Answer α → Answer β → Prop :=
  Alike (fun error error' => c.message error.text error'.text) R

/-- Parts of reflections that end in a corresponding way. -/
def Outcomes (x : Reflecting α) (y : Reflecting β) : Prop :=
  Alike c.Errors R x.outcome y.outcome

end

/-- Shapes that correspond. -/
structure Shapes (info info' : TypeInfo) : Prop where
  base : info.base = info'.base
  width : info.width = info'.width
  columns : info.columns = info'.columns
  array : info.array = info'.array
  imageType : Option.Rel c.type info.imageType info'.imageType

/-- Resources of a category that correspond. Only those that are structs need to be laid out. -/
structure Resources (module : Introspection) (kind : ResourceKind)
    (resource resource' : Resource) : Prop where
  var : c.var resource.id resource'.id
  type : c.type resource.typeId resource'.typeId
  name : c.name resource.name = c.name resource'.name
  context : c.context (resource.describe kind) (resource'.describe kind)
  block : kind.isBlock = true → ∀ info, module.typeInfo resource.typeId = .ok info →
    info.base = .struct → c.block resource.baseTypeId resource'.baseTypeId

/-- All that is asked about a variable has corresponding answers. -/
structure Vars (first second : Introspection) (id id' : Ident) : Prop where
  name : c.name ((first.name id).getD "") = c.name ((second.name id').getD "")
  decoration : ∀ decoration,
    c.Answers (· = ·) (first.decoration id decoration) (second.decoration id' decoration)
  hasDecoration : ∀ decoration,
    c.Answers (· = ·) (first.hasDecoration id decoration) (second.hasDecoration id' decoration)

/-- All that is asked about a struct when it is laid out has corresponding answers. -/
structure Structs (first second : Reflector) (id other : Ident) : Prop where
  name : c.name ((first.module.name id).getD "") = c.name ((second.module.name other).getD "")
  shape : c.Answers (fun info info' => c.block info.baseTypeId info'.baseTypeId)
    (first.module.typeInfo id) (second.module.typeInfo other)
  members : c.Answers (List.Forall₂ c.type) (first.module.memberTypes id)
    (second.module.memberTypes other)
  memberName : ∀ index, c.name (first.memberName id index) = c.name (second.memberName other index)
  memberOffset : ∀ index, c.Answers (· = ·)
    (first.module.memberDecoration id index Decoration.offset)
    (second.module.memberDecoration other index Decoration.offset)
  /-- Only the sizes of members that exist are asked for. -/
  memberSize : ∀ types index, first.module.memberTypes id = .ok types →
    index.toNat < types.length → c.Answers (· = ·)
      (first.module.declaredMemberSize id index) (second.module.declaredMemberSize other index)
  size : c.Answers (· = ·) (first.module.declaredStructSize id)
    (second.module.declaredStructSize other)
  typeContext : c.context s!"type %{id}" s!"type %{other}"
  context : c.context s!"struct {label (first.module.name id) id}"
    s!"struct {label (second.module.name other) other}"
  memberContext : ∀ index : UInt32,
    c.context s!"struct {label (first.module.name id) id} member {index}"
      s!"struct {label (second.module.name other) other} member {index}"

/-- Two modules under reflection answer in a corresponding way. -/
structure Relates (first second : Reflector) : Prop where
  version : first.module.version = second.module.version
  entryPoints : c.Answers (· = ·) first.module.entryPoints second.module.entryPoints
  missingEntryPoint : first.options.missingEntryPoint = second.options.missingEntryPoint
  chosen : first.options.stageInputs = second.options.stageInputs
  resources : ∀ kind, c.Answers (List.Forall₂ (c.Resources first.module kind))
    (first.module.resources kind) (second.module.resources kind)
  vars : ∀ id id', c.var id id' → c.Vars first.module second.module id id'
  shapes : ∀ id id', c.type id id' →
    c.Answers c.Shapes (first.module.typeInfo id) (second.module.typeInfo id')
  structs : ∀ id id', c.block id id' → c.Structs first second id id'

variable {c}

/-! ## Sequencing -/

namespace Outcomes

variable {α β γ δ : Type} {R : α → β → Prop} {S : γ → δ → Prop} {x : Reflecting α}
  {y : Reflecting β}

theorem pure {a : α} {b : β} (hvalue : R a b) :
    c.Outcomes R (Pure.pure a) (Pure.pure b) :=
  .ok hvalue

theorem bind {next : α → Reflecting γ} {next' : β → Reflecting δ} (hstep : c.Outcomes R x y)
    (hnext : ∀ a b, x.outcome = .ok a → R a b → c.Outcomes S (next a) (next' b)) :
    c.Outcomes S (x >>= next) (y >>= next') := by
  unfold Outcomes
  rw [Reflecting.outcome_bind, Reflecting.outcome_bind]
  exact Alike.bind hstep fun a b hx _ hvalue => hnext a b hx hvalue

theorem ask {context context' : String} {answer : Answer α} {answer' : Answer β}
    (hcontext : c.context context context') (hanswer : c.Answers R answer answer') :
    c.Outcomes R (Reflecting.ask context answer) (Reflecting.ask context' answer') := by
  unfold Outcomes
  rw [Reflecting.outcome_ask, Reflecting.outcome_ask]
  exact hanswer.mapError fun _ _ hmessage => .query hcontext hmessage

theorem mapM {f : α → Reflecting γ} {g : β → Reflecting δ} {as : List α} {bs : List β}
    (hlists : List.Forall₂ R as bs) (hstep : ∀ a b, R a b → c.Outcomes S (f a) (g b)) :
    c.Outcomes (List.Forall₂ S) (as.mapM f) (bs.mapM g) := by
  unfold Outcomes
  rw [Reflecting.outcome_mapM, Reflecting.outcome_mapM]
  exact Alike.mapM hlists hstep

/-- Notes in between change nothing. -/
theorem note {level level' : Level} {text text' : String} {next : Unit → Reflecting α}
    {next' : Unit → Reflecting β} (hnext : c.Outcomes R (next ()) (next' ())) :
    c.Outcomes R (Reflecting.note level text >>= next)
      (Reflecting.note level' text' >>= next') := by
  unfold Outcomes
  rw [Reflecting.outcome_bind, Reflecting.outcome_bind]
  exact hnext

end Outcomes

namespace Relates

variable {first second : Reflector}

/-! ## Blocks -/

theorem member {id id' type type' : Ident} {types : List Ident} {index : UInt32}
    (hrel : c.Relates first second) (hstruct : c.Structs first second id id')
    (htypes : first.module.memberTypes id = .ok types) (hindex : index.toNat < types.length)
    (htype : c.type type type') :
    c.Outcomes (Agree (BufferMember.mapNames c.name))
      (first.member id (label (first.module.name id) id) index type)
      (second.member id' (label (second.module.name id') id') index type') := by
  have hcontext := hstruct.memberContext index
  refine (Outcomes.ask hcontext (hrel.shapes _ _ htype)).bind fun info info' _ hshape => ?_
  refine (Outcomes.ask hcontext (hstruct.memberOffset index)).bind fun offset _ _ hoffset => ?_
  refine (Outcomes.ask hcontext (hstruct.memberSize types index htypes hindex)).bind
    fun size _ _ hsize => ?_
  apply Outcomes.pure
  simp only [Agree, BufferMember.mapNames, hstruct.memberName index, hoffset, hsize,
    TypeInfo.dataType, TypeInfo.arrayLength, hshape.base, hshape.width, hshape.columns,
    hshape.array]

/-- Members correspond from any number on, as long as no more of them are listed than the struct
has. -/
theorem membersFrom {id id' : Ident} {all types types' : List Ident} {index : Nat}
    (hrel : c.Relates first second) (hstruct : c.Structs first second id id')
    (hall : first.module.memberTypes id = .ok all) (htypes : List.Forall₂ c.type types types')
    (hindex : index + types.length ≤ all.length) :
    c.Outcomes (List.Forall₂ (Agree (BufferMember.mapNames c.name)))
      (first.membersFrom id (label (first.module.name id) id) index types)
      (second.membersFrom id' (label (second.module.name id') id') index types') := by
  induction htypes generalizing index with
  | nil => exact Outcomes.pure .nil
  | cons htype _ ih =>
      rw [List.length_cons] at hindex
      have hword : index.toUInt32.toNat < all.length :=
        Nat.lt_of_le_of_lt (toNat_toUInt32_le index) (by omega)
      refine (hrel.member hstruct hall hword htype).bind fun member member' _ hmember => ?_
      refine (ih (by omega)).bind fun members members' _ hmembers => ?_
      exact Outcomes.pure (.cons hmember hmembers)

theorem layout {id id' : Ident} (hrel : c.Relates first second) (hblock : c.block id id') :
    c.Outcomes (Agree (BlockLayout.mapNames c.name)) (first.layout id) (second.layout id') := by
  have houter := hrel.structs _ _ hblock
  refine (Outcomes.ask houter.typeContext houter.shape).bind fun info info' _ hinner => ?_
  -- from here on the questions are about the struct inside the arrays
  have hstruct := hrel.structs _ _ hinner
  refine (Outcomes.ask hstruct.context hstruct.members).bind fun types types' hasked htypes => ?_
  have hall := Reflecting.outcome_ask_eq_ok.mp hasked
  refine (hrel.membersFrom hstruct hall htypes (by omega)).bind
    fun members members' _ hmembers => ?_
  refine (Outcomes.ask hstruct.context hstruct.size).bind fun size _ _ hsize => ?_
  apply Outcomes.note
  apply Outcomes.pure
  simp only [Agree, BlockLayout.mapNames, map_eq_of_forall₂_agree hmembers, hsize]

/-! ## Resources -/

variable {kind : ResourceKind} {resource resource' : Resource}

theorem decorationOf (hrel : c.Relates first second) (decoration : Decoration)
    (hresource : c.Resources first.module kind resource resource') :
    c.Outcomes (· = ·) (first.decorationOf kind resource decoration)
      (second.decorationOf kind resource' decoration) := by
  have hanswer := (hrel.vars _ _ hresource.var).decoration decoration
  refine (Outcomes.ask hresource.context hanswer).bind fun value value' _ hvalue => ?_
  exact Outcomes.pure (congrArg (·.getD 0) hvalue)

theorem slotOf (hrel : c.Relates first second)
    (hresource : c.Resources first.module kind resource resource') :
    c.Outcomes (· = ·) (first.slotOf kind resource) (second.slotOf kind resource') := by
  refine (hrel.decorationOf _ hresource).bind fun set _ _ hset => ?_
  refine (hrel.decorationOf _ hresource).bind fun binding _ _ hbinding => ?_
  exact Outcomes.pure (congrArg₂ Slot.mk hset hbinding)

theorem typeInfoOf {type type' : Ident} (hrel : c.Relates first second)
    (hresource : c.Resources first.module kind resource resource') (htype : c.type type type') :
    c.Outcomes c.Shapes (first.typeInfoOf kind resource type)
      (second.typeInfoOf kind resource' type') :=
  Outcomes.ask hresource.context (hrel.shapes _ _ htype)

theorem listed (hrel : c.Relates first second) (kind : ResourceKind) :
    c.Outcomes (List.Forall₂ (c.Resources first.module kind)) (first.listed kind)
      (second.listed kind) :=
  Outcomes.ask (c.context_refl _) (hrel.resources kind)

/-- Blocks that correspond. Their structs are known to be laid out. -/
structure Blocks (c : Correspondence) (module : Introspection) (kind : ResourceKind)
    (block block' : Block) : Prop where
  resource : c.Resources module kind block.resource block'.resource
  struct : c.block block.resource.baseTypeId block'.resource.baseTypeId
  layout : Agree (BlockLayout.mapNames c.name) block.layout block'.layout

theorem block? (hrel : c.Relates first second) (hkind : kind.isBlock = true)
    (hresource : c.Resources first.module kind resource resource') :
    c.Outcomes (Option.Rel (Blocks c first.module kind)) (first.block? kind resource)
      (second.block? kind resource') := by
  refine (hrel.typeInfoOf hresource hresource.type).bind fun info info' hasked hshape => ?_
  -- equal shapes, so both resources are laid out or both are passed over
  by_cases hbase : info.base = .struct
  · have hinfo := Reflecting.outcome_ask_eq_ok.mp hasked
    have hstruct := hresource.block hkind info hinfo hbase
    rw [if_pos hbase, if_pos (hshape.base ▸ hbase)]
    refine (hrel.layout hstruct).bind fun layout layout' _ hlayout => ?_
    exact Outcomes.pure (.some ⟨hresource, hstruct, hlayout⟩)
  · rw [if_neg hbase, if_neg (hshape.base ▸ hbase)]
    exact Outcomes.note (Outcomes.pure .none)

theorem blocks (hrel : c.Relates first second) (hkind : kind.isBlock = true) :
    c.Outcomes (List.Forall₂ (Blocks c first.module kind)) (first.blocks kind)
      (second.blocks kind) := by
  refine (hrel.listed kind).bind fun resources resources' _ hresources => ?_
  refine (Outcomes.mapM hresources fun _ _ => hrel.block? hkind).bind
    fun blocks blocks' _ hblocks => ?_
  -- resources that are passed over are so on both sides
  exact Outcomes.pure (List.rel_filterMap (fun _ _ hblock => hblock) hblocks)

/-! ## Categories -/

/-- What is made of corresponding elements agrees as a list. -/
theorem mapM {α β γ : Type} {R : α → α → Prop} {f : β → γ} {as as' : List α}
    {make make' : α → Reflecting β} (hlists : List.Forall₂ R as as')
    (hstep : ∀ a a', R a a' → c.Outcomes (Agree f) (make a) (make' a')) :
    c.Outcomes (Agree (List.map f)) (as.mapM make) (as'.mapM make') :=
  (Outcomes.mapM hlists hstep).mono fun _ _ => map_eq_of_forall₂_agree

theorem uniformBuffers (hrel : c.Relates first second) :
    c.Outcomes (Agree (List.map (UniformBuffer.mapNames c.name))) first.uniformBuffers
      second.uniformBuffers := by
  refine (hrel.blocks rfl).bind fun blocks blocks' _ hblocks => ?_
  refine mapM hblocks fun block block' hblock => ?_
  refine (hrel.slotOf hblock.resource).bind fun slot _ _ hslot => ?_
  have hlayout := BlockLayout.mk.inj hblock.layout
  apply Outcomes.pure
  simp only [Agree, UniformBuffer.mapNames, hblock.resource.name, hslot, hlayout]

theorem accessOf (hrel : c.Relates first second)
    (hresource : c.Resources first.module .storageBuffer resource resource') :
    c.Outcomes (· = ·) (first.accessOf resource) (second.accessOf resource') := by
  have hanswers := (hrel.vars _ _ hresource.var).hasDecoration
  refine (Outcomes.ask hresource.context (hanswers _)).bind fun nonReadable _ _ hreadable => ?_
  refine (Outcomes.ask hresource.context (hanswers _)).bind fun nonWritable _ _ hwritable => ?_
  apply Outcomes.pure
  rw [hreadable, hwritable]

theorem storageBuffers (hrel : c.Relates first second) :
    c.Outcomes (Agree (List.map (StorageBuffer.mapNames c.name))) first.storageBuffers
      second.storageBuffers := by
  refine (hrel.blocks rfl).bind fun blocks blocks' _ hblocks => ?_
  refine mapM hblocks fun block block' hblock => ?_
  refine (hrel.slotOf hblock.resource).bind fun slot _ _ hslot => ?_
  refine (hrel.accessOf hblock.resource).bind fun access _ _ haccess => ?_
  have hlayout := BlockLayout.mk.inj hblock.layout
  apply Outcomes.pure
  simp only [Agree, StorageBuffer.mapNames, (hrel.vars _ _ hblock.resource.var).name,
    (hrel.structs _ _ hblock.struct).name, hslot, haccess, map_toStorage_mapNames, hlayout]

theorem pushConstants (hrel : c.Relates first second) :
    c.Outcomes (Agree (List.map (PushConstantBlock.mapNames c.name))) first.pushConstants
      second.pushConstants := by
  refine (hrel.blocks rfl).bind fun blocks blocks' _ hblocks => ?_
  have hagree : List.Forall₂ (Agree (PushConstantBlock.mapNames c.name ∘ Reflector.pushConstant))
      blocks blocks' := by
    refine hblocks.imp fun block block' hblock => ?_
    have hlayout := BlockLayout.mk.inj hblock.layout
    simp only [Agree, Function.comp_apply, Reflector.pushConstant, PushConstantBlock.mapNames,
      hblock.resource.name, hlayout]
  apply Outcomes.pure
  rw [Agree, List.map_map, List.map_map]
  exact map_eq_of_forall₂_agree hagree

theorem imageDataType (hrel : c.Relates first second) {info info' : TypeInfo}
    (hresource : c.Resources first.module kind resource resource')
    (hshape : c.Shapes info info') :
    c.Outcomes (· = ·) (first.imageDataType kind resource info)
      (second.imageDataType kind resource' info') := by
  have himage := hshape.imageType
  unfold Reflector.imageDataType
  generalize info.imageType = image, info'.imageType = image' at himage ⊢
  cases himage with
  | none => exact Outcomes.pure rfl
  | some htype =>
      refine (hrel.typeInfoOf hresource htype).bind fun sampled sampled' _ hsampled => ?_
      apply Outcomes.pure
      rw [hsampled.base, hsampled.width]

theorem images (hrel : c.Relates first second) (kind : ResourceKind) :
    c.Outcomes (Agree (List.map (ImageBinding.mapNames c.name))) (first.images kind)
      (second.images kind) := by
  refine (hrel.listed kind).bind fun resources resources' _ hresources => ?_
  refine mapM hresources fun resource resource' hresource => ?_
  refine (hrel.slotOf hresource).bind fun slot _ _ hslot => ?_
  refine (hrel.typeInfoOf hresource hresource.type).bind fun info info' _ hshape => ?_
  refine (hrel.imageDataType hresource hshape).bind fun dataType _ _ hdataType => ?_
  apply Outcomes.pure
  simp only [Agree, ImageBinding.mapNames, hresource.name, hslot, hdataType]

theorem stageInput (hrel : c.Relates first second)
    (hresource : c.Resources first.module .stageInput resource resource') :
    c.Outcomes (Agree (StageInput.mapNames c.name)) (first.stageInput resource)
      (second.stageInput resource') := by
  refine (hrel.decorationOf _ hresource).bind fun location _ _ hlocation => ?_
  refine (hrel.typeInfoOf hresource hresource.type).bind fun info info' _ hshape => ?_
  apply Outcomes.pure
  simp only [Agree, StageInput.mapNames, hresource.name, hlocation, TypeInfo.dataType,
    TypeInfo.arrayLength, hshape.base, hshape.width, hshape.columns, hshape.array]

theorem stageInputs (hrel : c.Relates first second) :
    c.Outcomes (Agree (List.map (StageInput.mapNames c.name))) first.stageInputs
      second.stageInputs := by
  refine (hrel.listed .stageInput).bind fun resources resources' _ hresources => ?_
  refine (mapM hresources fun _ _ => hrel.stageInput).bind fun inputs inputs' _ hinputs => ?_
  apply Outcomes.pure
  rw [Agree, map_mapNames_mergeSort, map_mapNames_mergeSort, hinputs]

theorem chosenStageInputs (hrel : c.Relates first second) :
    c.Outcomes (Agree (List.map (StageInput.mapNames c.name))) first.chosenStageInputs
      second.chosenStageInputs := by
  unfold Reflector.chosenStageInputs
  rw [hrel.chosen]
  split
  next => exact hrel.stageInputs
  next => exact Outcomes.pure rfl

theorem entryPoint (hrel : c.Relates first second) :
    c.Outcomes (· = ·) first.entryPoint second.entryPoint := by
  refine (Outcomes.ask (c.context_refl _) hrel.entryPoints).bind fun entries _ _ hentries => ?_
  subst hentries
  cases entries with
  | nil => exact Outcomes.pure (congrArg (·, none) hrel.missingEntryPoint)
  | cons first others =>
      cases others with
      | nil => exact Outcomes.pure rfl
      | cons => exact Outcomes.note (Outcomes.pure rfl)

/-- Corresponding modules are reflected in a corresponding way. -/
theorem reflect (hrel : c.Relates first second) (code : List UInt8) :
    c.Outcomes (Agree (Reflection.mapNames c.name)) (first.reflect code) (second.reflect code) := by
  refine hrel.entryPoint.bind fun entry _ _ hentry => ?_
  refine hrel.chosenStageInputs.bind fun stageInputs _ _ hinputs => ?_
  refine hrel.uniformBuffers.bind fun uniformBuffers _ _ huniform => ?_
  refine hrel.storageBuffers.bind fun storageBuffers _ _ hstorage => ?_
  refine hrel.pushConstants.bind fun pushConstants _ _ hpush => ?_
  refine (hrel.images .sampledImage).bind fun sampledImages _ _ hsampled => ?_
  refine (hrel.images .storageImage).bind fun storageImages _ _ hstored => ?_
  subst hentry
  -- what is noted at the end does not count
  simp only [Outcomes, Reflecting.outcome_bind, Reflecting.outcome_forM_note,
    Reflecting.outcome_note, Reflecting.outcome_pure, ok_bind]
  apply Alike.ok
  rw [Agree] at hinputs huniform hstorage hpush hsampled hstored ⊢
  simp only [Reflection.mapNames, hrel.version, hinputs, huniform, hstorage, hpush, hsampled,
    hstored]

end Relates

end Correspondence

/-- A module under reflection. -/
def Module.reflector (module : Module) (options : ReflectOptions) : Reflector where
  module := module.introspection
  options

end ShaderInterface
