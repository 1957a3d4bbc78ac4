import ShaderInterface.Proofs.Similarity

/-!
# Reflecting similar modules

Similar modules whose descents end equally deep give related answers to all questions of
reflection: on the shapes of related types, on the resources that related variables are and on
their access. Their reflections therefore end in a corresponding way.
-/

namespace ShaderInterface

/-- The same shape, made of related types. -/
structure TypeInfo.Similar (ρ : Ident → Ident → Prop) (info info' : TypeInfo) : Prop where
  base : info.base = info'.base
  width : info.width = info'.width
  columns : info.columns = info'.columns
  array : info.array = info'.array
  baseTypeId : ρ info.baseTypeId info'.baseTypeId
  imageType : Option.Rel ρ info.imageType info'.imageType

/-- Related identifiers are called alike. -/
def Module.SameNames (ρ : Ident → Ident → Prop) (module module' : Module) : Prop :=
  ∀ id id', ρ id id' → module.name? id = module'.name? id' ∧
    ∀ member, module.memberName? id member = module'.memberName? id' member

/-- Similar modules in which descents from related types end equally deep. -/
structure Module.Matched (ρ : Ident → Ident → Prop) (module module' : Module) : Prop extends
    Module.Similar ρ module module' where
  arrayWrappers : ∀ id id', ρ id id' →
    List.Forall₂ ρ (module.arrayWrappers id) (module'.arrayWrappers id')
  elementType : ∀ id id', ρ id id' → ρ (module.elementType id) (module'.elementType id')
  declaredSize : ∀ id id', ρ id id' →
    Module.Matches ρ (· = ·) (module.declaredSize id) (module'.declaredSize id')

namespace Module

variable {ρ : Ident → Ident → Prop} {module module' : Module} {id id' : Ident}

/-- Modules with equally many types have the same bounds on all descents. -/
theorem Similar.matched (hsimilar : module.Similar ρ module')
    (hsize : module.types.size = module'.types.size) : module.Matched ρ module' where
  toSimilar := hsimilar
  arrayWrappers id id' hid := by
    rw [Module.arrayWrappers, unwrap, hsize]
    exact (hsimilar.unwrapUpTo _ hid).1
  elementType id id' hid := by
    rw [Module.elementType, unwrap, hsize]
    exact (hsimilar.unwrapUpTo _ hid).2
  declaredSize id id' hid := by
    rw [Module.declaredSize, hsize]
    exact hsimilar.sizeWithin _ hid

namespace Matched

/-! ## Shapes -/

section

variable (hmatched : module.Matched ρ module') (hid : ρ id id')

include hmatched hid

theorem arrayDims : Matches ρ (· = ·) (module.arrayDims id) (module'.arrayDims id') := by
  have hdims := Alike.mapM (hmatched.arrayWrappers _ _ hid)
    fun _ _ => hmatched.toSimilar.arrayLength
  rwa [List.forall₂_eq_eq_eq] at hdims

theorem requiredType :
    Matches ρ (TypeDecl.Similar ρ) (module.requiredType id) (module'.requiredType id') := by
  unfold Module.requiredType
  obtain ⟨hnone, hnone'⟩ | ⟨decl, decl', hsome, hsome', hdecl⟩ := hmatched.type?_cases hid
  · simp only [hnone, hnone']
    exact .error (.undefined hid)
  · simp only [hsome, hsome']
    exact .ok hdecl

theorem scalarBase : Matches ρ (· = ·) (module.scalarBase id) (module'.scalarBase id') := by
  refine (hmatched.requiredType hid).bind fun decl decl' _ _ hdecl => ?_
  cases hdecl <;> exact .ok rfl

theorem vectorShape : Matches ρ (· = ·) (module.vectorShape id) (module'.vectorShape id') := by
  refine (hmatched.requiredType hid).bind fun decl decl' _ _ hdecl => ?_
  cases hdecl with
  | vector count hcomponent =>
      refine (hmatched.scalarBase hcomponent).bind fun base _ _ _ hbase => ?_
      exact .ok (by rw [hbase])
  | _ =>
      refine (hmatched.scalarBase hid).bind fun base _ _ _ hbase => ?_
      exact .ok (by rw [hbase])

theorem sampledTypeOf :
    Option.Rel ρ (module.sampledTypeOf id) (module'.sampledTypeOf id') := by
  unfold Module.sampledTypeOf
  obtain ⟨hnone, hnone'⟩ | ⟨decl, decl', hsome, hsome', hdecl⟩ := hmatched.type?_cases hid
  · simp only [hnone, hnone']
    exact .none
  simp only [hsome, hsome']
  cases hdecl with
  | image dim sampled htype => exact .some htype
  | _ => exact .none

end

theorem typeInfo (hmatched : module.Matched ρ module') (hid : ρ id id') :
    Matches ρ (TypeInfo.Similar ρ) (module.typeInfo id) (module'.typeInfo id') := by
  have hinner := hmatched.elementType _ _ hid
  refine (hmatched.arrayDims hid).bind fun array _ _ _ harray => ?_
  subst harray
  refine (hmatched.requiredType hinner).bind fun decl decl' _ _ hdecl => ?_
  cases hdecl with
  | bool | int | float =>
      refine (hmatched.scalarBase hinner).bind fun base _ _ _ hbase => ?_
      exact .ok ⟨hbase, rfl, rfl, rfl, hinner, .none⟩
  | vector count hcomponent =>
      refine (hmatched.scalarBase hcomponent).bind fun base _ _ _ hbase => ?_
      exact .ok ⟨hbase, rfl, rfl, rfl, hinner, .none⟩
  | matrix count hcolumn =>
      refine (hmatched.vectorShape hcolumn).bind fun shape _ _ _ hshape => ?_
      subst hshape
      exact .ok ⟨rfl, rfl, rfl, rfl, hinner, .none⟩
  | image dim sampled htype => exact .ok ⟨rfl, rfl, rfl, rfl, hinner, .some htype⟩
  | sampledImage himage =>
      exact .ok ⟨rfl, rfl, rfl, rfl, hinner, hmatched.sampledTypeOf himage⟩
  | _ => exact .ok ⟨rfl, rfl, rfl, rfl, hinner, .none⟩

/-! ## Resources -/

section

variable (hmatched : module.Matched ρ module') (hid : ρ id id')

include hmatched hid

theorem isBufferBlock : module.isBufferBlock id = module'.isBufferBlock id' := by
  unfold Module.isBufferBlock
  rw [hmatched.hasDecoration hid, hmatched.hasDecoration hid]
  obtain ⟨hnone, hnone'⟩ | ⟨decl, decl', hsome, hsome', hdecl⟩ := hmatched.type?_cases hid
  · simp only [hnone, hnone']
  simp only [hsome, hsome']
  cases hdecl <;> rfl

theorem isBuiltIn {var var' : Ident} (hvar : ρ var var') :
    module.isBuiltIn var id = module'.isBuiltIn var' id' := by
  unfold Module.isBuiltIn
  rw [hmatched.hasDecoration hvar]
  obtain ⟨hnone, hnone'⟩ | ⟨decl, decl', hsome, hsome', hdecl⟩ := hmatched.type?_cases hid
  · simp only [hnone, hnone']
  simp only [hsome, hsome']
  cases hdecl with
  | struct hmembers =>
      simp only [memberIndices, hmembers.length_eq, hmatched.hasMemberDecoration hid]
  | _ => rfl

theorem belongs {var var' : Variable} (hvar : var.Similar ρ var') (kind : ResourceKind) :
    module.belongs kind var id = module'.belongs kind var' id' := by
  unfold Module.belongs
  rw [hvar.storageClass]
  cases kind with
  | uniformBuffer => simp only [hmatched.hasDecoration hid]
  | storageBuffer => simp only [hmatched.hasDecoration hid]
  | pushConstant => rfl
  | stageInput => simp only [hmatched.hasDecoration hvar.id, hmatched.isBuiltIn hid hvar.id]
  | sampledImage | storageImage =>
      obtain ⟨hnone, hnone'⟩ | ⟨decl, decl', hsome, hsome', hdecl⟩ := hmatched.type?_cases hid
      · simp only [hnone, hnone']
      simp only [hsome, hsome']
      cases hdecl <;> rfl

theorem resourceName {var var' : Ident} (hvar : ρ var var') (hnames : SameNames ρ module module')
    (kind : ResourceKind) :
    module.resourceName kind var id = module'.resourceName kind var' id' := by
  unfold Module.resourceName
  rw [hmatched.isBufferBlock hid, (hnames _ _ hid).1, (hnames _ _ hvar).1]

end

theorem pointee {var var' : Variable} (hmatched : module.Matched ρ module')
    (hmem : var ∈ module.vars) (hvar : var.Similar ρ var') :
    Matches ρ ρ (module.pointee var) (module'.pointee var') := by
  unfold Module.pointee Module.typeOf
  obtain ⟨hnone, hnone'⟩ | ⟨decl, decl', hsome, hsome', hdecl⟩ := hmatched.type?_cases hvar.type
  · simp only [hnone, hnone']
    exact .error (.undefinedType hvar.type)
  simp only [hsome, hsome']
  cases hdecl with
  | pointer storageClass pointee pointee' =>
      exact .ok (hmatched.pointees _ hmem _ _ _ _ hvar hsome hsome')
  | _ => exact .error (.notPointer hvar.id)

theorem placedVariables (hmatched : module.Matched ρ module') :
    Matches ρ (List.Forall₂ fun placed placed' =>
        placed.1.Similar ρ placed'.1 ∧ ρ placed.2 placed'.2)
      module.placedVariables module'.placedVariables := by
  have hvars := (List.forall₂_and_left _ _).mpr ⟨fun _ hmem => hmem, hmatched.vars⟩
  refine Alike.mapM hvars fun var var' ⟨hmem, hvar⟩ => ?_
  refine (hmatched.pointee hmem hvar).bind fun type type' _ _ htype => ?_
  exact .ok ⟨hvar, htype⟩

theorem allMembersDecorated (hmatched : module.Matched ρ module') (hid : ρ id id')
    (decoration : Decoration) :
    Matches ρ (· = ·) (module.allMembersDecorated id decoration)
      (module'.allMembersDecorated id' decoration) := by
  have hfound := hmatched.var? _ _ hid
  unfold Module.allMembersDecorated
  have hmem : ∀ var, module.var? id = some var → var ∈ module.vars :=
    fun _ => List.mem_of_find?_eq_some
  generalize module.var? id = found, module'.var? id' = found' at hfound hmem ⊢
  cases hfound with
  | none => exact .ok rfl
  | some hvar =>
      refine (hmatched.pointee (hmem _ rfl) hvar).bind fun type type' _ _ htype => ?_
      have hinner := hmatched.elementType _ _ htype
      obtain ⟨hnone, hnone'⟩ | ⟨decl, decl', hsome, hsome', hdecl⟩ := hmatched.type?_cases hinner
      · simp only [hnone, hnone']
        exact .ok rfl
      simp only [hsome, hsome']
      cases hdecl with
      | struct hmembers =>
          apply Alike.ok
          simp only [isEmpty_eq_of_forall₂ hmembers, memberIndices, hmembers.length_eq,
            hmatched.hasMemberDecoration hinner]
      | _ => exact .ok rfl

theorem carries (hmatched : module.Matched ρ module') (hid : ρ id id') (decoration : Decoration) :
    Matches ρ (· = ·) (module.carries id decoration) (module'.carries id' decoration) := by
  unfold Module.carries
  rw [hmatched.hasDecoration hid]
  split
  next => exact .ok rfl
  next =>
    split
    next => exact hmatched.allMembersDecorated hid decoration
    next => exact .ok rfl

end Matched

/-! ## Reflections -/

/-- What counts in a comparison is the same in both modules: names do not count or are the same,
contexts do not count or are the same, and errors of one cause pass for the same. -/
structure Comparable (comparison : Comparison) (ρ : Ident → Ident → Prop)
    (module module' : Module) : Prop where
  names : (∀ name name', comparison.name name = comparison.name name') ∨
    SameNames ρ module module'
  contexts : (∀ context context', comparison.context context context') ∨
    SameNames ρ module module' ∧ ∀ id id', ρ id id' → id = id'
  messages : ∀ error error' : ModuleError, error.Similar ρ error' →
    comparison.message error.message error'.message

namespace Comparable

variable {comparison : Comparison} (hcomparable : Comparable comparison ρ module module')

include hcomparable

theorem answers {α β : Type} {R : α → β → Prop} {x : Except ModuleError α}
    {y : Except ModuleError β} (hmatches : Matches ρ R x y) :
    (comparison.along ρ).Answers R (answer x) (answer y) :=
  hmatches.mapError hcomparable.messages

theorem name (hid : ρ id id') :
    comparison.name ((module.name? id).getD "") =
      comparison.name ((module'.name? id').getD "") := by
  rcases hcomparable.names with hany | hsame
  · exact hany _ _
  · rw [(hsame _ _ hid).1]

/-- Texts about related identifiers pass for the same if they depend on names and identifiers
alone. -/
theorem context {text text' : String} (hid : ρ id id')
    (htext : module.name? id = module'.name? id' → id = id' → text = text') :
    comparison.context text text' := by
  rcases hcomparable.contexts with hany | ⟨hsame, heq⟩
  · exact hany _ _
  · rw [htext (hsame _ _ hid).1 (heq _ _ hid)]
    exact comparison.context_refl _

theorem memberName (hid : ρ id id') (options : ReflectOptions) (index : UInt32) :
    comparison.name ((module.reflector options).memberName id index) =
      comparison.name ((module'.reflector options).memberName id' index) := by
  rcases hcomparable.names with hany | hsame
  · exact hany _ _
  · have hname : (module.reflector options).module.memberName id index =
        (module'.reflector options).module.memberName id' index := (hsame _ _ hid).2 index
    rw [Reflector.memberName, Reflector.memberName, hname]
    rfl

theorem resource? (hmatched : module.Matched ρ module') {var var' : Variable} {type type' : Ident}
    (hvar : var.Similar ρ var') (htype : ρ type type') (kind : ResourceKind) :
    Option.Rel ((comparison.along ρ).Resources module.introspection kind)
      (module.resource? kind var type) (module'.resource? kind var' type') := by
  have hinner := hmatched.elementType _ _ htype
  unfold Module.resource?
  simp only [hmatched.belongs hinner hvar]
  split
  next =>
    refine .some ⟨hvar.id, htype, ?_, ?_, fun _ _ _ _ => hinner⟩
    · rcases hcomparable.names with hany | hsame
      · exact hany _ _
      · exact congrArg _ (hmatched.resourceName hinner hvar.id hsame kind)
    · rcases hcomparable.contexts with hany | ⟨hsame, heq⟩
      · exact hany _ _
      · rw [Resource.describe, Resource.describe, hmatched.resourceName hinner hvar.id hsame kind,
          heq _ _ hvar.id]
        exact comparison.context_refl _
  next => exact .none

theorem resources (hmatched : module.Matched ρ module') (kind : ResourceKind) :
    Matches ρ (List.Forall₂ ((comparison.along ρ).Resources module.introspection kind))
      (module.resources kind) (module'.resources kind) := by
  refine hmatched.placedVariables.bind fun placed placed' _ _ hplaced => ?_
  apply Alike.ok
  exact List.rel_filterMap (fun _ _ hboth => hcomparable.resource? hmatched hboth.1 hboth.2 kind)
    hplaced

theorem vars (hmatched : module.Matched ρ module') (hid : ρ id id') :
    (comparison.along ρ).Vars module.introspection module'.introspection id id' where
  name := hcomparable.name hid
  decoration decoration := .ok (hmatched.decorationValue? hid decoration)
  hasDecoration decoration := hcomparable.answers (hmatched.carries hid decoration)

theorem structs (hmatched : module.Matched ρ module') (hid : ρ id id') (options : ReflectOptions) :
    (comparison.along ρ).Structs (module.reflector options) (module'.reflector options) id id' where
  name := hcomparable.name hid
  shape := hcomparable.answers ((hmatched.typeInfo hid).mono fun _ _ hinfo => hinfo.baseTypeId)
  members := hcomparable.answers (hmatched.structMembers hid)
  memberName := hcomparable.memberName hid options
  memberOffset index := .ok (hmatched.memberDecorationValue? hid index _)
  memberSize types index _ _ := hcomparable.answers
    (hmatched.memberSizeBy hmatched.declaredSize hid index)
  size := hcomparable.answers (hmatched.structSizeBy hmatched.declaredSize hid)
  typeContext := hcomparable.context hid fun _ heq => by rw [heq]
  context := hcomparable.context hid fun hname heq => by
    have hlabel := congrArg₂ label hname heq
    exact congrArg (fun text => s!"struct {text}") hlabel
  memberContext index := hcomparable.context hid fun hname heq => by
    have hlabel := congrArg₂ label hname heq
    exact congrArg (fun text => s!"struct {text} member {index}") hlabel

/-- Matched modules are reflected in a corresponding way. -/
theorem relates (hmatched : module.Matched ρ module') (options : ReflectOptions) :
    (comparison.along ρ).Relates (module.reflector options) (module'.reflector options) where
  version := hmatched.version
  entryPoints := .ok (Except.ok.inj hmatched.entryPoints)
  missingEntryPoint := rfl
  chosen := rfl
  resources kind := hcomparable.answers (hcomparable.resources hmatched kind)
  vars _ _ hid := hcomparable.vars hmatched hid
  shapes _ _ hid := hcomparable.answers <| (hmatched.typeInfo hid).mono fun _ _ hinfo =>
    ⟨hinfo.base, hinfo.width, hinfo.columns, hinfo.array, hinfo.imageType⟩
  structs _ _ hid := hcomparable.structs hmatched hid options

end Comparable

end Module

end ShaderInterface
