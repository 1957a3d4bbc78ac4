import ShaderInterface.Introspection.Tabulated
import ShaderInterface.Proofs.Correspondence
import ShaderInterface.Proofs.QuestionOrder

/-!
# What the options decide

The texts among the options stand in for names that a module does not give, and they decide nothing
else: neither whether a reflection succeeds, nor how it fails, nor any other part of it. Leaving out
the stage inputs leaves out all questions about them.
-/

namespace ShaderInterface

/-! ## What is left without the texts -/

/-- A uniform buffer without the names of its members. -/
def UniformBuffer.withoutMemberNames (buffer : UniformBuffer) : UniformBuffer :=
  { buffer with members := buffer.members.map (BufferMember.mapNames fun _ => "") }

/-- A storage buffer without the names of its members. -/
def StorageBuffer.withoutMemberNames (buffer : StorageBuffer) : StorageBuffer :=
  { buffer with members := buffer.members.map (StorageMember.mapNames fun _ => "") }

/-- A push constant block without the names of its members. -/
def PushConstantBlock.withoutMemberNames (block : PushConstantBlock) : PushConstantBlock :=
  { block with members := block.members.map (BufferMember.mapNames fun _ => "") }

/-- A reflection without the texts that may come from the options: the name of the entry point and
the names of the members of blocks. -/
def Reflection.withoutTexts (reflection : Reflection) : Reflection :=
  { reflection with
    entryPoint := ""
    uniformBuffers := reflection.uniformBuffers.map UniformBuffer.withoutMemberNames
    storageBuffers := reflection.storageBuffers.map StorageBuffer.withoutMemberNames
    pushConstants := reflection.pushConstants.map PushConstantBlock.withoutMemberNames }

/-- How a name is shown: a substitute stands where the name is missing or empty, and only there. -/
structure ShownAs (substitute : String) (name : Option String) (shown : String) : Prop where
  of_missing : name = none ∨ name = some "" → shown = substitute
  of_given : ∀ text, name = some text → text ≠ "" → shown = text

/-- The same module with another answer about the resources of one category. -/
def Introspection.withResources (module : Introspection) (kind : ResourceKind)
    (answer : Answer (List Resource)) : Introspection :=
  { module with resources := fun other => if other = kind then answer else module.resources other }

/-- Computations that fail alike and give related values. -/
theorem Alike.of_errorOf? {ε α β : Type} {R : α → β → Prop} {x : Except ε α} {y : Except ε β}
    (herrors : errorOf? x = errorOf? y) (hvalues : ∀ a b, x = .ok a → y = .ok b → R a b) :
    Alike (· = ·) R x y := by
  cases x with
  | ok a =>
      cases y with
      | ok b => exact .ok (hvalues a b rfl rfl)
      | error => cases herrors
  | error =>
      cases y with
      | ok => cases herrors
      | error => exact .error (Option.some.inj herrors)

/-- Two lists that are made from one list element by element agree if their elements do. -/
theorem map_eq_of_forall₂ {α β γ : Type} {R S : α → β → Prop} {f : β → γ} {as : List α}
    {bs cs : List β} (hfirst : List.Forall₂ R as bs) (hsecond : List.Forall₂ S as cs)
    (hstep : ∀ a b c, R a b → S a c → Agree f b c) : bs.map f = cs.map f :=
  map_eq_of_forall₂_agree (forall₂_trans hfirst.flip hsecond fun b a c => hstep a b c)

namespace Reflector

open Reflecting

/-- The same module under reflection with other options. -/
def withOptions (reflector : Reflector) (options : ReflectOptions) : Reflector :=
  { reflector with options }

/-- The same options for a module with another answer about the resources of one category. -/
def withResources (reflector : Reflector) (kind : ResourceKind) (answer : Answer (List Resource)) :
    Reflector :=
  { reflector with module := reflector.module.withResources kind answer }

/-- The same module under reflection without its stage inputs. -/
def withoutStageInputs (reflector : Reflector) : Reflector :=
  reflector.withOptions { reflector.options with stageInputs := false }

/-- The same module under reflection with another answer about the stage inputs and another choice
about them. -/
def withStageInputs (reflector : Reflector) (answer : Answer (List Resource)) (chosen : Bool) :
    Reflector where
  module := reflector.module.withResources .stageInput answer
  options := { reflector.options with stageInputs := chosen }

variable (reflector : Reflector)

/-- The names are those of the members of the resource's struct, and the chosen one where the module
has no name. -/
def MemberNames (resource : Resource) (names : List String) : Prop :=
  ∃ info types, reflector.module.typeInfo resource.baseTypeId = .ok info ∧
    reflector.module.memberTypes info.baseTypeId = .ok types ∧
    List.Forall₂
      (fun index name => ShownAs reflector.options.unnamed
        (reflector.module.memberName info.baseTypeId index.toUInt32) name)
      (List.range types.length) names

/-- The texts that may come from the options do so where the module has no name, and only there. -/
structure ShowsTexts (reflection : Reflection) : Prop where
  entryPoint : ∃ entries, reflector.module.entryPoints = .ok entries ∧
    (entries = [] → reflection.entryPoint = reflector.options.missingEntryPoint) ∧
    ∀ first others, entries = first :: others → reflection.entryPoint = first.name
  uniformBuffers : reflector.StandFor .uniformBuffer
    (fun resource buffer => reflector.MemberNames resource (buffer.members.map (·.name)))
    reflection.uniformBuffers
  storageBuffers : reflector.StandFor .storageBuffer
    (fun resource buffer => reflector.MemberNames resource (buffer.members.map (·.name)))
    reflection.storageBuffers
  pushConstants : reflector.StandFor .pushConstant
    (fun resource block => reflector.MemberNames resource (block.members.map (·.name)))
    reflection.pushConstants

variable {reflector}

/-! ## Where the texts stand -/

theorem memberName_shownAs (id : Ident) (index : UInt32) :
    ShownAs reflector.options.unnamed (reflector.module.memberName id index)
      (reflector.memberName id index) := by
  unfold memberName
  constructor
  · intro hmissing
    rcases hmissing with hnone | hempty
    · rw [hnone]
    · rw [hempty]
      rfl
  · intro text htext hne
    rw [htext]
    exact if_neg (mt String.isEmpty_iff.mp hne)

theorem memberNames_of_layout {resource : Resource} {layout : BlockLayout}
    (hlayout : (reflector.layout resource.baseTypeId).outcome = .ok layout) :
    reflector.MemberNames resource (layout.members.map (·.name)) := by
  obtain ⟨info, types, hinfo, hstruct⟩ := outcome_layout_eq_ok.mp hlayout
  refine ⟨info, types, hinfo, hstruct.memberTypes, ?_⟩
  rw [List.range_eq_range', ← List.zipIdx_map_snd 0 types, List.forall₂_map_left_iff,
    List.forall₂_map_right_iff]
  apply hstruct.members.imp
  intro entry member hmember
  rw [hmember.name]
  exact memberName_shownAs _ _

theorem IsWhole.showsTexts {code : List UInt8} {reflection : Reflection}
    (hwhole : reflector.IsWhole code reflection) : reflector.ShowsTexts reflection := by
  obtain ⟨entries, hentries, hentry, -⟩ := hwhole.entryPoints
  constructor
  case entryPoint =>
    refine ⟨entries, hentries, ?_, ?_⟩
    · intro hempty
      rw [hentry, hempty]
      rfl
    · intro first others hcons
      rw [hentry, hcons]
      rfl
  case uniformBuffers =>
    apply (standFor_uniformBuffers hwhole.uniformBuffers).imp
    intro resource buffer hbuffer
    exact memberNames_of_layout hbuffer.layout
  case storageBuffers =>
    apply (standFor_storageBuffers hwhole.storageBuffers).imp
    intro resource buffer hbuffer
    obtain ⟨members, hmembers, hlayout⟩ := hbuffer.layout
    rw [hmembers, List.map_map]
    exact memberNames_of_layout hlayout
  case pushConstants =>
    apply (standFor_pushConstants hwhole.pushConstants).imp
    intro resource block hblock
    exact memberNames_of_layout hblock.layout

/-! ## What else there is -/

section

variable {options : ReflectOptions}

theorem IsMember.agree {id type : Ident} {index : UInt32} {member member' : BufferMember}
    (hmember : reflector.IsMember id index type member)
    (hmember' : (reflector.withOptions options).IsMember id index type member') :
    Agree (BufferMember.mapNames fun _ => "") member member' := by
  obtain ⟨-, ⟨info, hinfo, hdataType, hlength⟩, ⟨offset, hoffset, hvalue⟩, hsize⟩ := hmember
  obtain ⟨-, ⟨info', hinfo', hdataType', hlength'⟩, ⟨offset', hoffset', hvalue'⟩, hsize'⟩ :=
    hmember'
  cases hinfo.symm.trans hinfo'
  cases hoffset.symm.trans hoffset'
  have hsame : member.size = member'.size := Except.ok.inj (hsize.symm.trans hsize')
  simp only [Agree, BufferMember.mapNames, hdataType, hdataType', hlength, hlength', hvalue,
    hvalue', hsame]

/-- Laid out with other options, a struct has the same members under other names. -/
theorem layout_agree {type : Ident} {members members' : List BufferMember} {size size' : UInt32}
    (hlayout : (reflector.layout type).outcome = .ok ⟨members, size⟩)
    (hlayout' : ((reflector.withOptions options).layout type).outcome = .ok ⟨members', size'⟩) :
    members.map (BufferMember.mapNames fun _ => "") =
        members'.map (BufferMember.mapNames fun _ => "") ∧
      size = size' := by
  obtain ⟨info, types, hinfo, htypes, hmembers, hsize⟩ := outcome_layout_eq_ok.mp hlayout
  obtain ⟨info', types', hinfo', htypes', hmembers', hsize'⟩ := outcome_layout_eq_ok.mp hlayout'
  cases hinfo.symm.trans hinfo'
  cases htypes.symm.trans htypes'
  refine ⟨?_, Except.ok.inj (hsize.symm.trans hsize')⟩
  exact map_eq_of_forall₂ hmembers hmembers' fun _ _ _ => IsMember.agree

theorem IsUniformBuffer.agree {resource : Resource} {buffer buffer' : UniformBuffer}
    (hbuffer : reflector.IsUniformBuffer resource buffer)
    (hbuffer' : (reflector.withOptions options).IsUniformBuffer resource buffer') :
    Agree UniformBuffer.withoutMemberNames buffer buffer' := by
  have hslot : buffer.slot = buffer'.slot :=
    Except.ok.inj (hbuffer.slot.symm.trans hbuffer'.slot)
  obtain ⟨hmembers, hsize⟩ := layout_agree hbuffer.layout hbuffer'.layout
  simp only [Agree, UniformBuffer.withoutMemberNames, hbuffer.name, hbuffer'.name, hslot, hmembers,
    hsize]

theorem IsStorageBuffer.agree {resource : Resource} {buffer buffer' : StorageBuffer}
    (hbuffer : reflector.IsStorageBuffer resource buffer)
    (hbuffer' : (reflector.withOptions options).IsStorageBuffer resource buffer') :
    Agree StorageBuffer.withoutMemberNames buffer buffer' := by
  have hslot : buffer.slot = buffer'.slot :=
    Except.ok.inj (hbuffer.slot.symm.trans hbuffer'.slot)
  have haccess : buffer.access = buffer'.access :=
    Except.ok.inj (hbuffer.access.symm.trans hbuffer'.access)
  obtain ⟨members, hmembers, hlayout⟩ := hbuffer.layout
  obtain ⟨members', hmembers', hlayout'⟩ := hbuffer'.layout
  obtain ⟨hagree, hsize⟩ := layout_agree hlayout hlayout'
  simp only [Agree, StorageBuffer.withoutMemberNames, hbuffer.variableName, hbuffer'.variableName,
    hbuffer.typeName, hbuffer'.typeName, hslot, haccess, hmembers, hmembers',
    map_toStorage_mapNames, hagree, hsize, withOptions]

theorem IsPushConstant.agree {resource : Resource} {block block' : PushConstantBlock}
    (hblock : reflector.IsPushConstant resource block)
    (hblock' : (reflector.withOptions options).IsPushConstant resource block') :
    Agree PushConstantBlock.withoutMemberNames block block' := by
  obtain ⟨hmembers, hsize⟩ := layout_agree hblock.layout hblock'.layout
  simp only [Agree, PushConstantBlock.withoutMemberNames, hblock.name, hblock'.name, hmembers,
    hsize]

/-- Entries for the same structs agree one by one. -/
theorem StandFor.map_eq {α β : Type} {kind : ResourceKind}
    {relation relation' : Resource → α → Prop} {f : α → β} {entries entries' : List α}
    (hentries : reflector.StandFor kind relation entries)
    (hentries' : (reflector.withOptions options).StandFor kind relation' entries')
    (hagree : ∀ resource entry entry', relation resource entry → relation' resource entry' →
      Agree f entry entry') : entries.map f = entries'.map f := by
  obtain ⟨resources, hresources, hall⟩ := hentries
  obtain ⟨resources', hresources', hall'⟩ := hentries'
  cases hresources.symm.trans hresources'
  exact map_eq_of_forall₂ hall hall' hagree

theorem IsWhole.agree {code : List UInt8} {first second : Reflection}
    (hflag : options.stageInputs = reflector.options.stageInputs)
    (hfirst : reflector.IsWhole code first)
    (hsecond : (reflector.withOptions options).IsWhole code second) :
    Agree Reflection.withoutTexts first second := by
  obtain ⟨entries, hentries, -, hstage⟩ := hfirst.entryPoints
  obtain ⟨entries', hentries', -, hstage'⟩ := hsecond.entryPoints
  cases hentries.symm.trans hentries'
  have hinputs : first.stageInputs = second.stageInputs := by
    have hchosen := reflector.outcome_chosenStageInputs_eq_ok.mpr hfirst.stageInputs
    have hchosen' :=
      (reflector.withOptions options).outcome_chosenStageInputs_eq_ok.mpr hsecond.stageInputs
    have hsame : (reflector.withOptions options).chosenStageInputs =
        reflector.chosenStageInputs := by
      simp only [chosenStageInputs, withOptions, hflag]
      rfl
    rw [hsame, hchosen] at hchosen'
    exact Except.ok.inj hchosen'
  have huniform := (standFor_uniformBuffers hfirst.uniformBuffers).map_eq
    (standFor_uniformBuffers hsecond.uniformBuffers) fun _ _ _ => IsUniformBuffer.agree
  have hstorage := (standFor_storageBuffers hfirst.storageBuffers).map_eq
    (standFor_storageBuffers hsecond.storageBuffers) fun _ _ _ => IsStorageBuffer.agree
  have hpush := (standFor_pushConstants hfirst.pushConstants).map_eq
    (standFor_pushConstants hsecond.pushConstants) fun _ _ _ => IsPushConstant.agree
  have hsampled : first.sampledImages = second.sampledImages :=
    Except.ok.inj (hfirst.sampledImages.symm.trans hsecond.sampledImages)
  have hstored : first.storageImages = second.storageImages :=
    Except.ok.inj (hfirst.storageImages.symm.trans hsecond.storageImages)
  simp only [Agree, Reflection.withoutTexts, hstage, hstage', hfirst.version, hsecond.version,
    hfirst.code, hsecond.code, hinputs, huniform, hstorage, hpush, hsampled, hstored, withOptions]

/-- The questions of a reflection do not depend on the texts. -/
theorem inquiries_withOptions (hflag : options.stageInputs = reflector.options.stageInputs) :
    (reflector.withOptions options).inquiries = reflector.inquiries := by
  simp only [inquiries, categories, withOptions, hflag]
  rfl

end

/-! ## Without stage inputs -/

section

variable {answer : Answer (List Resource)} {chosen : Bool}

theorem withoutStageInputs_eq : reflector.withoutStageInputs =
    reflector.withStageInputs (reflector.module.resources .stageInput) false := by
  have hresources : reflector.module.resources = fun kind =>
      if kind = .stageInput then reflector.module.resources .stageInput
      else reflector.module.resources kind := by
    funext kind
    split
    next hkind => rw [hkind]
    next => rfl
  unfold withoutStageInputs withOptions withStageInputs Introspection.withResources
  rw [← hresources]

/-- No layout depends on the stage inputs. -/
theorem layout_withStageInputs :
    (reflector.withStageInputs answer chosen).layout = reflector.layout := by
  have hmembers : ∀ id structLabel index types,
      (reflector.withStageInputs answer chosen).membersFrom id structLabel index types =
        reflector.membersFrom id structLabel index types := by
    intro id structLabel index types
    induction types generalizing index with
    | nil => rfl
    | cons type types ih =>
        simp only [membersFrom, ih]
        rfl
  funext type
  simp only [layout, hmembers]
  rfl

theorem blocks_withStageInputs (kind : ResourceKind) (hkind : kind ≠ .stageInput) :
    (reflector.withStageInputs answer chosen).blocks kind = reflector.blocks kind := by
  have hlisted : (reflector.withStageInputs answer chosen).listed kind = reflector.listed kind := by
    simp only [listed, withStageInputs, Introspection.withResources, if_neg hkind]
  have hblock : (reflector.withStageInputs answer chosen).block? kind = reflector.block? kind := by
    unfold block?
    rw [layout_withStageInputs]
    rfl
  simp only [blocks, hlisted, hblock]

theorem uniformBuffers_withStageInputs :
    (reflector.withStageInputs answer chosen).uniformBuffers = reflector.uniformBuffers := by
  simp only [uniformBuffers, blocks_withStageInputs .uniformBuffer (by decide)]
  rfl

theorem storageBuffers_withStageInputs :
    (reflector.withStageInputs answer chosen).storageBuffers = reflector.storageBuffers := by
  simp only [storageBuffers, blocks_withStageInputs .storageBuffer (by decide)]
  rfl

theorem pushConstants_withStageInputs :
    (reflector.withStageInputs answer chosen).pushConstants = reflector.pushConstants := by
  simp only [pushConstants, blocks_withStageInputs .pushConstant (by decide)]

/-- Without the stage inputs all else stays as it was. -/
theorem IsWhole.withoutStageInputs {code : List UInt8} {reflection : Reflection}
    (hwhole : reflector.IsWhole code reflection) :
    reflector.withoutStageInputs.IsWhole code { reflection with stageInputs := [] } := by
  rw [withoutStageInputs_eq]
  constructor
  case entryPoints => exact hwhole.entryPoints
  case version => exact hwhole.version
  case code => exact hwhole.code
  case stageInputs => rfl
  case uniformBuffers =>
    rw [uniformBuffers_withStageInputs]
    exact hwhole.uniformBuffers
  case storageBuffers =>
    rw [storageBuffers_withStageInputs]
    exact hwhole.storageBuffers
  case pushConstants =>
    rw [pushConstants_withStageInputs]
    exact hwhole.pushConstants
  case sampledImages => exact hwhole.sampledImages
  case storageImages => exact hwhole.storageImages

/-- What is not asked for has no influence, not even on what is noted. -/
theorem reflect_withResources (hflag : reflector.options.stageInputs = false)
    (answer : Answer (List Resource)) (code : List UInt8) :
    (reflector.withResources .stageInput answer).reflect code = reflector.reflect code := by
  have hsame : reflector.withResources .stageInput answer =
      reflector.withStageInputs answer false := by
    rw [← hflag]
    rfl
  have hchosen : (reflector.withStageInputs answer false).chosenStageInputs =
      reflector.chosenStageInputs := by
    rw [chosenStageInputs, chosenStageInputs, hflag]
    rfl
  rw [hsame]
  unfold reflect
  rw [hchosen, uniformBuffers_withStageInputs, storageBuffers_withStageInputs,
    pushConstants_withStageInputs]
  rfl

end

/-! ## Options -/

/-- The options touch only what they name.

With the same choice about stage inputs a reflection succeeds under both options or fails under both
in the same way. Two results agree in all but the texts, which are those of the options exactly
where the module has no name. A reflection that succeeds with stage inputs is the same without them
apart from their list, and one that leaves them out does not depend on whether the module could list
them. -/
theorem reflect_options (reflector : Reflector) (code : List UInt8) :
    (∀ options : ReflectOptions, options.stageInputs = reflector.options.stageInputs →
      Alike (· = ·)
        (fun first second => Agree Reflection.withoutTexts first second ∧
          reflector.ShowsTexts first ∧ (reflector.withOptions options).ShowsTexts second)
        (reflector.reflect code).outcome ((reflector.withOptions options).reflect code).outcome) ∧
    (reflector.options.stageInputs = true → ∀ reflection,
      (reflector.reflect code).outcome = .ok reflection →
        (reflector.withoutStageInputs.reflect code).outcome =
          .ok { reflection with stageInputs := [] }) ∧
    (reflector.options.stageInputs = false → ∀ answer,
      (reflector.withResources .stageInput answer).reflect code = reflector.reflect code) := by
  refine ⟨?_, ?_, ?_⟩
  · intro options hflag
    apply Alike.of_errorOf?
    · calc
        errorOf? (reflector.reflect code).outcome =
            reflector.module.firstRefusal? reflector.inquiries := reflector.asks_reflect code
        _ = reflector.module.firstRefusal? (reflector.withOptions options).inquiries := by
            rw [inquiries_withOptions hflag]
        _ = errorOf? ((reflector.withOptions options).reflect code).outcome :=
            ((reflector.withOptions options).asks_reflect code).symm
    · intro first second hfirst hsecond
      have hwhole := reflector.outcome_reflect_eq_ok.mp hfirst
      have hwhole' := (reflector.withOptions options).outcome_reflect_eq_ok.mp hsecond
      exact ⟨hwhole.agree hflag hwhole', hwhole.showsTexts, hwhole'.showsTexts⟩
  · intro _ reflection hreflection
    have hwhole := reflector.outcome_reflect_eq_ok.mp hreflection
    exact reflector.withoutStageInputs.outcome_reflect_eq_ok.mpr hwhole.withoutStageInputs
  · intro hflag answer
    exact reflect_withResources hflag answer code

/-- A module without an entry point and with one uniform buffer, whose second member has no name. A
stage input comes first. -/
def sparseModule : TabulatedModule where
  resources := [(.stageInput, ⟨5, 2, 2, "color"⟩), (.uniformBuffer, ⟨3, 1, 1, "Globals"⟩)]
  types := .ofRows [(1, ⟨.struct, 1, 1, [], 1, none⟩), (2, ⟨.float32, 1, 1, [], 2, none⟩)]
  members := .ofRows [(1, [2, 2])]
  memberNames := .ofRows [((1, 0), "exposure")]
  memberDecorations := .ofRows [((1, 1, Decoration.offset), some 16)]
  structSizes := .ofRows [(1, 20)]
  memberSizes := .ofRows [((1, 0), 4), ((1, 1), 4)]

/-- The module under reflection. -/
def sparseReflector (options : ReflectOptions) : Reflector where
  module := sparseModule.introspection
  options

/-- What there is to report about the module, with the texts of the options. -/
def sparseReflection (options : ReflectOptions) : Reflection where
  entryPoint := options.missingEntryPoint
  version := ⟨0, 0⟩
  code := []
  uniformBuffers := [{
    name := "Globals"
    slot := ⟨0, 0⟩
    members := [⟨"exposure", .float, 0, 4, 1⟩, ⟨options.unnamed, .float, 16, 4, 1⟩]
    size := 20 }]
  stageInputs := if options.stageInputs then [⟨"color", 0, .float, 1⟩] else []

theorem reflect_options_sparseModule :
    ((sparseReflector {}).reflect []).outcome = .ok (sparseReflection {}) ∧
      Alike (· = ·)
        (fun first second => Agree Reflection.withoutTexts first second ∧
          (sparseReflector {}).ShowsTexts first ∧
          ((sparseReflector {}).withOptions ⟨"<none>", "_", true⟩).ShowsTexts second)
        ((sparseReflector {}).reflect []).outcome
        (((sparseReflector {}).withOptions ⟨"<none>", "_", true⟩).reflect []).outcome ∧
      ((sparseReflector {}).withoutStageInputs.reflect []).outcome =
        .ok { sparseReflection {} with stageInputs := [] } ∧
      ((sparseReflector ⟨"none", "unnamed", false⟩).withResources .stageInput
          (.error ⟨"no list"⟩)).reflect [] =
        (sparseReflector ⟨"none", "unnamed", false⟩).reflect [] := by
  have hreflection : ((sparseReflector {}).reflect []).outcome = .ok (sparseReflection {}) := by
    decide +kernel
  obtain ⟨htexts, hwithout, -⟩ := reflect_options (sparseReflector {}) []
  obtain ⟨-, -, hlists⟩ := reflect_options (sparseReflector ⟨"none", "unnamed", false⟩) []
  exact ⟨hreflection, htexts _ rfl, hwithout rfl _ hreflection, hlists rfl _⟩

end Reflector

end ShaderInterface
