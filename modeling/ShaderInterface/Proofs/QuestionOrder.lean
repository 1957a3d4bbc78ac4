import ShaderInterface.Proofs.BlockContents

/-!
# The order of questions

Reflection asks a module one question after the other, and its answers decide what is asked next.
The first question that the module has no answer to ends the reflection with the module's own text:
no failure is passed over, and none is reported before its turn. The order is written down here
part by part, and each part of a reflection is shown to fail as its list of questions does.
-/

namespace ShaderInterface

/-- A question that a module may have no answer to. -/
inductive Question where
  | entryPoints
  | resources (kind : ResourceKind)
  | typeInfo (id : Ident)
  | memberTypes (id : Ident)
  | hasDecoration (id : Ident) (decoration : Decoration)
  | decoration (id : Ident) (decoration : Decoration)
  | memberDecoration (id : Ident) (member : UInt32) (decoration : Decoration)
  | declaredStructSize (id : Ident)
  | declaredMemberSize (id : Ident) (member : UInt32)
  deriving DecidableEq

/-- A question and what is being looked at when it is asked. -/
structure Inquiry where
  context : String
  question : Question
  deriving DecidableEq

/-- The error that a computation ends in, if it fails. -/
def errorOf? {ε α : Type} : Except ε α → Option ε
  | .ok _ => none
  | .error error => some error

/-- What is asked after a question that has an answer. Without the answer nothing is. -/
def following {α : Type} (answer : Answer α) (inquiries : α → List Inquiry) : List Inquiry :=
  match answer with
  | .ok a => inquiries a
  | .error _ => []

namespace Introspection

variable (module : Introspection)

/-- Why a question has no answer, if it has none. -/
def failure? : Question → Option ProviderError
  | .entryPoints => errorOf? module.entryPoints
  | .resources kind => errorOf? (module.resources kind)
  | .typeInfo id => errorOf? (module.typeInfo id)
  | .memberTypes id => errorOf? (module.memberTypes id)
  | .hasDecoration id decoration => errorOf? (module.hasDecoration id decoration)
  | .decoration id decoration => errorOf? (module.decoration id decoration)
  | .memberDecoration id member decoration =>
      errorOf? (module.memberDecoration id member decoration)
  | .declaredStructSize id => errorOf? (module.declaredStructSize id)
  | .declaredMemberSize id member => errorOf? (module.declaredMemberSize id member)

/-- The error for a question without an answer: its context with the text of the module. -/
def refusal? (inquiry : Inquiry) : Option ReflectError :=
  (module.failure? inquiry.question).map fun error => .query inquiry.context error.text

/-- The error for the first of several questions that has no answer. -/
def firstRefusal? (inquiries : List Inquiry) : Option ReflectError :=
  inquiries.findSome? module.refusal?

theorem firstRefusal?_append (inquiries rest : List Inquiry) :
    module.firstRefusal? (inquiries ++ rest) =
      (module.firstRefusal? inquiries).or (module.firstRefusal? rest) :=
  List.findSome?_append

theorem firstRefusal?_cons (inquiry : Inquiry) (rest : List Inquiry) :
    module.firstRefusal? (inquiry :: rest) =
      (module.refusal? inquiry).or (module.firstRefusal? rest) := by
  rw [firstRefusal?, List.findSome?_cons]
  cases module.refusal? inquiry <;> rfl

theorem firstRefusal?_flatMap {α : Type} (each : α → List Inquiry) (as : List α) :
    module.firstRefusal? (as.flatMap each) =
      as.findSome? fun a => module.firstRefusal? (each a) := by
  induction as with
  | nil => rfl
  | cons a as ih =>
      rw [List.flatMap_cons, firstRefusal?_append, ih, List.findSome?_cons]
      cases module.firstRefusal? (each a) <;> rfl

end Introspection

/-! ## The questions of each part -/

namespace Reflector

variable (reflector : Reflector)

/-- The questions about a member. -/
def memberInquiries (id : Ident) (structLabel : String) (index : UInt32) (type : Ident) :
    List Inquiry :=
  let context := s!"struct {structLabel} member {index}"
  [⟨context, .typeInfo type⟩, ⟨context, .memberDecoration id index Decoration.offset⟩,
    ⟨context, .declaredMemberSize id index⟩]

/-- The questions about the members from number `index` on. -/
def membersInquiries (id : Ident) (structLabel : String) : Nat → List Ident → List Inquiry
  | _, [] => []
  | index, type :: types =>
      memberInquiries id structLabel index.toUInt32 type ++
        membersInquiries id structLabel (index + 1) types

/-- The questions about a struct: its shape, its members and at last its size. -/
def layoutInquiries (type : Ident) : List Inquiry :=
  ⟨s!"type %{type}", .typeInfo type⟩ ::
    following (reflector.module.typeInfo type) fun info =>
      let id := info.baseTypeId
      let structLabel := label (reflector.module.name id) id
      ⟨s!"struct {structLabel}", .memberTypes id⟩ ::
        following (reflector.module.memberTypes id) fun types =>
          membersInquiries id structLabel 0 types ++
            [⟨s!"struct {structLabel}", .declaredStructSize id⟩]

/-- The questions about where a resource is bound. -/
def slotInquiries (kind : ResourceKind) (resource : Resource) : List Inquiry :=
  [⟨resource.describe kind, .decoration resource.id Decoration.descriptorSet⟩,
    ⟨resource.describe kind, .decoration resource.id Decoration.binding⟩]

/-- The questions about how a storage buffer may be used. -/
def accessInquiries (resource : Resource) : List Inquiry :=
  let context := resource.describe .storageBuffer
  [⟨context, .hasDecoration resource.id Decoration.nonReadable⟩,
    ⟨context, .hasDecoration resource.id Decoration.nonWritable⟩]

/-- The questions about a resource that may be a block. One that is no struct is not laid out. -/
def blockInquiries (kind : ResourceKind) (resource : Resource) : List Inquiry :=
  ⟨resource.describe kind, .typeInfo resource.typeId⟩ ::
    following (reflector.module.typeInfo resource.typeId) fun info =>
      if info.base = .struct then reflector.layoutInquiries resource.baseTypeId else []

/-- The questions about an image. -/
def imageInquiries (kind : ResourceKind) (resource : Resource) : List Inquiry :=
  slotInquiries kind resource ++ ⟨resource.describe kind, .typeInfo resource.typeId⟩ ::
    following (reflector.module.typeInfo resource.typeId) fun info =>
      match info.imageType with
      | none => []
      | some type => [⟨resource.describe kind, .typeInfo type⟩]

/-- The questions about a stage input. -/
def stageInputInquiries (resource : Resource) : List Inquiry :=
  let context := resource.describe .stageInput
  [⟨context, .decoration resource.id Decoration.location⟩, ⟨context, .typeInfo resource.typeId⟩]

/-- The resources of a category are asked for, and then there are questions about each of them. -/
def listInquiries (kind : ResourceKind) (each : Resource → List Inquiry) : List Inquiry :=
  ⟨s!"{kind.text} list", .resources kind⟩ ::
    following (reflector.module.resources kind) fun resources => resources.flatMap each

/-- The questions that are asked about all blocks of a category once the last one is laid out. -/
def structInquiries (kind : ResourceKind) (each : Resource → List Inquiry) : List Inquiry :=
  following (reflector.module.resources kind) fun resources =>
    (resources.filter reflector.isStruct).flatMap each

/-- The questions of a category. -/
def categoryInquiries : ResourceKind → List Inquiry
  | .uniformBuffer =>
      reflector.listInquiries .uniformBuffer (reflector.blockInquiries .uniformBuffer) ++
        reflector.structInquiries .uniformBuffer (slotInquiries .uniformBuffer)
  | .storageBuffer =>
      reflector.listInquiries .storageBuffer (reflector.blockInquiries .storageBuffer) ++
        reflector.structInquiries .storageBuffer fun resource =>
          slotInquiries .storageBuffer resource ++ accessInquiries resource
  | .pushConstant =>
      reflector.listInquiries .pushConstant (reflector.blockInquiries .pushConstant)
  | .sampledImage => reflector.listInquiries .sampledImage (reflector.imageInquiries .sampledImage)
  | .storageImage => reflector.listInquiries .storageImage (reflector.imageInquiries .storageImage)
  | .stageInput => reflector.listInquiries .stageInput stageInputInquiries

/-- The categories in the order in which they are reflected. -/
def categories : List ResourceKind :=
  (if reflector.options.stageInputs then [.stageInput] else []) ++
    [.uniformBuffer, .storageBuffer, .pushConstant, .sampledImage, .storageImage]

/-- The questions of a whole reflection. -/
def inquiries : List Inquiry :=
  ⟨"entry points", .entryPoints⟩ :: reflector.categories.flatMap reflector.categoryInquiries

/-- The error that a category ends in, if it fails. -/
def categoryError? : ResourceKind → Option ReflectError
  | .uniformBuffer => errorOf? reflector.uniformBuffers.outcome
  | .storageBuffer => errorOf? reflector.storageBuffers.outcome
  | .pushConstant => errorOf? reflector.pushConstants.outcome
  | .sampledImage => errorOf? reflector.sampledImages.outcome
  | .storageImage => errorOf? reflector.storageImages.outcome
  | .stageInput => errorOf? reflector.stageInputs.outcome

end Reflector

/-! ## Asking in order -/

namespace Reflecting

variable {α β : Type}

/-- The computation fails with the first of the questions that has no answer, and gives a value if
there is no such question. -/
def Asks (module : Introspection) (inquiries : List Inquiry) (x : Reflecting α) : Prop :=
  errorOf? x.outcome = module.firstRefusal? inquiries

variable {module : Introspection} {inquiries rest : List Inquiry} {inquiry : Inquiry}
  {context : String} {question : Question} {answer : Answer α} {x : Reflecting α}
  {next : α → Reflecting β}

theorem asks_pure (a : α) : Asks module [] (pure a : Reflecting α) :=
  rfl

theorem asks_ask (hfailure : module.failure? question = errorOf? answer) :
    Asks module [⟨context, question⟩] (ask context answer) := by
  rw [Asks, outcome_ask, Introspection.firstRefusal?, List.findSome?_singleton,
    Introspection.refusal?, hfailure]
  cases answer <;> rfl

namespace Asks

theorem bind (hx : Asks module inquiries x)
    (hnext : ∀ a, x.outcome = .ok a → Asks module rest (next a)) :
    Asks module (inquiries ++ rest) (x >>= next) := by
  rw [Asks, outcome_bind, module.firstRefusal?_append, ← hx]
  cases houtcome : x.outcome with
  | ok a => exact hnext a houtcome
  | error error => rfl

theorem cons_bind (hx : Asks module [inquiry] x)
    (hnext : ∀ a, x.outcome = .ok a → Asks module rest (next a)) :
    Asks module (inquiry :: rest) (x >>= next) :=
  hx.bind hnext

/-- No question is asked in what only puts the value together. -/
theorem bind_pure (hx : Asks module inquiries x) (f : α → β) :
    Asks module inquiries (x >>= fun a => pure (f a)) := by
  have hbind := hx.bind fun a _ => asks_pure (f a)
  rwa [List.append_nil] at hbind

theorem note {level : Level} {text : String} {next : Unit → Reflecting β}
    (hnext : Asks module inquiries (next ())) :
    Asks module inquiries (Reflecting.note level text >>= next) := by
  rw [Asks, outcome_bind, outcome_note]
  exact hnext

theorem mapM {f : α → Reflecting β} {each : α → List Inquiry} {as : List α}
    (hstep : ∀ a ∈ as, Asks module (each a) (f a)) :
    Asks module (as.flatMap each) (as.mapM f) := by
  induction as with
  | nil => exact asks_pure []
  | cons a as ih =>
      rw [List.mapM_cons, List.flatMap_cons]
      refine (hstep a List.mem_cons_self).bind fun b _ => ?_
      exact (ih fun a ha => hstep a (List.mem_cons_of_mem _ ha)).bind_pure (b :: ·)

end Asks

/-- The answer to a question decides what is asked next. -/
theorem asks_following {inquiries : α → List Inquiry}
    (hfailure : module.failure? question = errorOf? answer)
    (hnext : ∀ a, answer = .ok a → Asks module (inquiries a) (next a)) :
    Asks module (⟨context, question⟩ :: following answer inquiries)
      (ask context answer >>= next) := by
  refine (asks_ask hfailure).cons_bind fun a houtcome => ?_
  have hanswer := outcome_ask_eq_ok.mp houtcome
  subst hanswer
  exact hnext a rfl

end Reflecting

namespace Reflector

open Reflecting

variable (reflector : Reflector)

/-! ## Blocks -/

theorem asks_member (id : Ident) (structLabel : String) (index : UInt32) (type : Ident) :
    Asks reflector.module (memberInquiries id structLabel index type)
      (reflector.member id structLabel index type) := by
  refine (asks_ask rfl).cons_bind fun info _ => ?_
  refine (asks_ask rfl).cons_bind fun offset _ => ?_
  exact (asks_ask rfl).bind_pure _

theorem asks_membersFrom (id : Ident) (structLabel : String) (index : Nat) (types : List Ident) :
    Asks reflector.module (membersInquiries id structLabel index types)
      (reflector.membersFrom id structLabel index types) := by
  induction types generalizing index with
  | nil => exact asks_pure []
  | cons type types ih =>
      refine (reflector.asks_member id structLabel index.toUInt32 type).bind fun member _ => ?_
      exact (ih (index + 1)).bind_pure (member :: ·)

theorem asks_layout (type : Ident) :
    Asks reflector.module (reflector.layoutInquiries type) (reflector.layout type) := by
  refine asks_following rfl fun info _ => ?_
  refine asks_following rfl fun types _ => ?_
  refine (reflector.asks_membersFrom _ _ 0 types).bind fun members _ => ?_
  refine (asks_ask rfl).cons_bind fun size _ => ?_
  exact Asks.note (asks_pure _)

theorem asks_block? (kind : ResourceKind) (resource : Resource) :
    Asks reflector.module (reflector.blockInquiries kind resource)
      (reflector.block? kind resource) := by
  refine asks_following rfl fun info _ => ?_
  by_cases hbase : info.base = .struct
  · rw [if_pos hbase, if_pos hbase]
    exact (reflector.asks_layout _).bind_pure _
  · rw [if_neg hbase, if_neg hbase]
    exact Asks.note (asks_pure _)

theorem asks_blocks (kind : ResourceKind) :
    Asks reflector.module (reflector.listInquiries kind (reflector.blockInquiries kind))
      (reflector.blocks kind) := by
  refine asks_following rfl fun resources _ => ?_
  exact (Asks.mapM fun resource _ => reflector.asks_block? kind resource).bind_pure _

/-- The blocks of a category are its structs, in the same order. -/
theorem resources_of_blocks {kind : ResourceKind} {blocks : List Block}
    (hblocks : (reflector.blocks kind).outcome = .ok blocks) :
    ∃ resources, reflector.module.resources kind = .ok resources ∧
      blocks.map Block.resource = resources.filter reflector.isStruct := by
  obtain ⟨resources, hresources, hall⟩ := standFor_blocks hblocks
  refine ⟨resources, hresources, Eq.symm ?_⟩
  rw [← List.forall₂_eq_eq_eq, List.forall₂_map_right_iff]
  exact hall.imp fun resource block hblock => hblock.eq.symm

/-- Once all blocks of a category are laid out, questions about each of them follow. -/
theorem asks_mapM_blocks {β : Type} {kind : ResourceKind} {each : Resource → List Inquiry}
    {make : Block → Reflecting β}
    (hstep : ∀ block, Asks reflector.module (each block.resource) (make block)) :
    Asks reflector.module
      (reflector.listInquiries kind (reflector.blockInquiries kind) ++
        reflector.structInquiries kind each)
      (do (← reflector.blocks kind).mapM make) := by
  refine (reflector.asks_blocks kind).bind fun blocks hblocks => ?_
  obtain ⟨resources, hresources, hstructs⟩ := reflector.resources_of_blocks hblocks
  have heach : reflector.structInquiries kind each =
      blocks.flatMap fun block => each block.resource := by
    rw [structInquiries, hresources, following, ← hstructs, List.flatMap_map]
  rw [heach]
  exact Asks.mapM fun block _ => hstep block

/-! ## Categories -/

theorem asks_decorationOf (kind : ResourceKind) (resource : Resource) (decoration : Decoration) :
    Asks reflector.module [⟨resource.describe kind, .decoration resource.id decoration⟩]
      (reflector.decorationOf kind resource decoration) :=
  (asks_ask rfl).bind_pure _

theorem asks_slotOf (kind : ResourceKind) (resource : Resource) :
    Asks reflector.module (slotInquiries kind resource) (reflector.slotOf kind resource) := by
  refine (reflector.asks_decorationOf kind resource _).cons_bind fun set _ => ?_
  exact (reflector.asks_decorationOf kind resource _).bind_pure _

theorem asks_accessOf (resource : Resource) :
    Asks reflector.module (accessInquiries resource) (reflector.accessOf resource) := by
  refine (asks_ask rfl).cons_bind fun nonReadable _ => ?_
  exact (asks_ask rfl).bind_pure _

theorem asks_uniformBuffers :
    Asks reflector.module (reflector.categoryInquiries .uniformBuffer) reflector.uniformBuffers :=
  reflector.asks_mapM_blocks fun block =>
    (reflector.asks_slotOf .uniformBuffer block.resource).bind_pure _

theorem asks_storageBuffers :
    Asks reflector.module (reflector.categoryInquiries .storageBuffer)
      reflector.storageBuffers := by
  refine reflector.asks_mapM_blocks fun block => ?_
  refine (reflector.asks_slotOf .storageBuffer block.resource).bind fun slot _ => ?_
  exact (reflector.asks_accessOf block.resource).bind_pure _

theorem asks_pushConstants :
    Asks reflector.module (reflector.categoryInquiries .pushConstant) reflector.pushConstants :=
  (reflector.asks_blocks .pushConstant).bind_pure _

theorem asks_image (kind : ResourceKind) (resource : Resource) :
    Asks reflector.module (reflector.imageInquiries kind resource)
      (reflector.image kind resource) := by
  refine (reflector.asks_slotOf kind resource).bind fun slot _ => ?_
  refine asks_following rfl fun info _ => ?_
  cases himage : info.imageType with
  | none =>
      rw [imageDataType, himage]
      exact (asks_pure _).bind_pure _
  | some type =>
      rw [imageDataType, himage]
      exact ((asks_ask rfl).bind_pure _).bind_pure _

theorem asks_images (kind : ResourceKind) :
    Asks reflector.module (reflector.listInquiries kind (reflector.imageInquiries kind))
      (reflector.images kind) := by
  refine asks_following rfl fun resources _ => ?_
  exact Asks.mapM fun resource _ => reflector.asks_image kind resource

theorem asks_stageInput (resource : Resource) :
    Asks reflector.module (stageInputInquiries resource) (reflector.stageInput resource) := by
  refine (reflector.asks_decorationOf .stageInput resource _).cons_bind fun location _ => ?_
  exact (asks_ask rfl).bind_pure _

theorem asks_stageInputs :
    Asks reflector.module (reflector.categoryInquiries .stageInput) reflector.stageInputs := by
  refine asks_following rfl fun resources _ => ?_
  exact (Asks.mapM fun resource _ => reflector.asks_stageInput resource).bind_pure _

/-- Every category fails with the first of its questions that has no answer. -/
theorem categoryError?_eq (kind : ResourceKind) :
    reflector.categoryError? kind =
      reflector.module.firstRefusal? (reflector.categoryInquiries kind) := by
  cases kind with
  | uniformBuffer => exact reflector.asks_uniformBuffers
  | storageBuffer => exact reflector.asks_storageBuffers
  | pushConstant => exact reflector.asks_pushConstants
  | sampledImage => exact reflector.asks_images .sampledImage
  | storageImage => exact reflector.asks_images .storageImage
  | stageInput => exact reflector.asks_stageInputs

/-! ## Whole reflections -/

theorem asks_entryPoint :
    Asks reflector.module [⟨"entry points", .entryPoints⟩] reflector.entryPoint := by
  refine (asks_ask rfl).cons_bind fun entries _ => ?_
  cases entries with
  | nil => exact asks_pure _
  | cons first others =>
      cases others with
      | nil => exact asks_pure _
      | cons => exact Asks.note (asks_pure _)

theorem asks_chosenStageInputs :
    Asks reflector.module
      ((if reflector.options.stageInputs then [.stageInput] else []).flatMap
        reflector.categoryInquiries) reflector.chosenStageInputs := by
  unfold chosenStageInputs
  split
  next =>
    rw [List.flatMap_singleton]
    exact reflector.asks_stageInputs
  next => exact asks_pure _

theorem asks_reflect (code : List UInt8) :
    Asks reflector.module reflector.inquiries (reflector.reflect code) := by
  simp only [inquiries, categories, List.flatMap_append, List.flatMap_cons, List.flatMap_nil]
  refine reflector.asks_entryPoint.cons_bind fun entry _ => ?_
  refine reflector.asks_chosenStageInputs.bind fun stageInputs _ => ?_
  refine reflector.asks_uniformBuffers.bind fun uniformBuffers _ => ?_
  refine reflector.asks_storageBuffers.bind fun storageBuffers _ => ?_
  refine reflector.asks_pushConstants.bind fun pushConstants _ => ?_
  refine (reflector.asks_images .sampledImage).bind fun sampledImages _ => ?_
  refine (reflector.asks_images .storageImage).bind fun storageImages _ => ?_
  -- only notes are left
  simp only [Asks, outcome_bind, outcome_forM_note, outcome_note, outcome_pure, ok_bind]
  rfl

/-- The reflection is what the entry points and the categories of the module give. -/
structure IsWhole (code : List UInt8) (reflection : Reflection) : Prop where
  /-- The first entry point counts. -/
  entryPoints : ∃ entries, reflector.module.entryPoints = .ok entries ∧
    reflection.entryPoint =
      (entries.head?.map EntryPointInfo.name).getD reflector.options.missingEntryPoint ∧
    reflection.stage = entries.head?.bind fun entry => Stage.ofModel? entry.model
  version : reflection.version = reflector.module.version
  code : reflection.code = code
  stageInputs : if reflector.options.stageInputs then
      reflector.stageInputs.outcome = .ok reflection.stageInputs
    else reflection.stageInputs = []
  uniformBuffers : reflector.uniformBuffers.outcome = .ok reflection.uniformBuffers
  storageBuffers : reflector.storageBuffers.outcome = .ok reflection.storageBuffers
  pushConstants : reflector.pushConstants.outcome = .ok reflection.pushConstants
  sampledImages : reflector.sampledImages.outcome = .ok reflection.sampledImages
  storageImages : reflector.storageImages.outcome = .ok reflection.storageImages

theorem outcome_entryPoint_eq_ok {start : String × Option Stage} :
    reflector.entryPoint.outcome = .ok start ↔
      ∃ entries, reflector.module.entryPoints = .ok entries ∧
        start.1 = (entries.head?.map EntryPointInfo.name).getD reflector.options.missingEntryPoint ∧
        start.2 = entries.head?.bind fun entry => Stage.ofModel? entry.model := by
  rw [entryPoint, outcome_bind, bind_eq_ok]
  refine exists_congr fun entries => and_congr outcome_ask_eq_ok ?_
  have hsame : ∀ start' : String × Option Stage,
      (Except.ok start' : Except ReflectError _) = .ok start ↔
        start.1 = start'.1 ∧ start.2 = start'.2 := fun start' => by
    rw [Except.ok.injEq, eq_comm, Prod.ext_iff]
  cases entries with
  | nil => exact hsame _
  | cons first others =>
      cases others with
      | nil => exact hsame _
      | cons => exact hsame _

theorem outcome_chosenStageInputs_eq_ok {inputs : List StageInput} :
    reflector.chosenStageInputs.outcome = .ok inputs ↔
      if reflector.options.stageInputs then reflector.stageInputs.outcome = .ok inputs
      else inputs = [] := by
  unfold chosenStageInputs
  split
  next => rfl
  next => rw [outcome_pure, Except.ok.injEq, eq_comm]

theorem outcome_reflect_eq_ok {code : List UInt8} {reflection : Reflection} :
    (reflector.reflect code).outcome = .ok reflection ↔ reflector.IsWhole code reflection := by
  simp only [reflect, outcome_bind, outcome_forM_note, outcome_note, outcome_pure, bind_eq_ok,
    ok_bind]
  constructor
  · rintro ⟨entry, hentry, inputs, hinputs, uniform, huniform, storage, hstorage, push, hpush,
      sampled, hsampled, stored, hstored, hreflection⟩
    cases hreflection
    exact ⟨reflector.outcome_entryPoint_eq_ok.mp hentry, rfl, rfl,
      reflector.outcome_chosenStageInputs_eq_ok.mp hinputs, huniform, hstorage, hpush, hsampled,
      hstored⟩
  · intro hwhole
    refine ⟨(reflection.entryPoint, reflection.stage),
      reflector.outcome_entryPoint_eq_ok.mpr hwhole.entryPoints, reflection.stageInputs,
      reflector.outcome_chosenStageInputs_eq_ok.mpr hwhole.stageInputs, _, hwhole.uniformBuffers,
      _, hwhole.storageBuffers, _, hwhole.pushConstants, _, hwhole.sampledImages, _,
      hwhole.storageImages, ?_⟩
    rw [← hwhole.version, ← hwhole.code]

/-- A reflection is whole or not at all. It succeeds if and only if the entry points and all chosen
categories do, and is then made of what they give. Otherwise it ends in the error of the first of
them that fails. Each category, and so the whole reflection, ends in the error for the first of its
questions that the module has no answer to, with the module's own text, and succeeds if there is
none. -/
theorem reflect_allOrNothing (code : List UInt8) :
    (∀ reflection, (reflector.reflect code).outcome = .ok reflection ↔
      reflector.IsWhole code reflection) ∧
    (errorOf? (reflector.reflect code).outcome =
      (reflector.module.refusal? ⟨"entry points", .entryPoints⟩).or
        (reflector.categories.findSome? reflector.categoryError?)) ∧
    (∀ kind, reflector.categoryError? kind =
      reflector.module.firstRefusal? (reflector.categoryInquiries kind)) ∧
    errorOf? (reflector.reflect code).outcome =
      reflector.module.firstRefusal? reflector.inquiries := by
  have hasks : errorOf? (reflector.reflect code).outcome =
      reflector.module.firstRefusal? reflector.inquiries := reflector.asks_reflect code
  refine ⟨fun reflection => reflector.outcome_reflect_eq_ok, ?_, reflector.categoryError?_eq,
    hasks⟩
  have hcategories : reflector.categoryError? = fun kind =>
      reflector.module.firstRefusal? (reflector.categoryInquiries kind) :=
    funext reflector.categoryError?_eq
  rw [hasks, inquiries, reflector.module.firstRefusal?_cons,
    reflector.module.firstRefusal?_flatMap, hcategories]

end Reflector

end ShaderInterface
