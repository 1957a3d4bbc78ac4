import Mathlib.Data.List.Forall2
import ShaderInterface.Proofs.Alike
import ShaderInterface.Proofs.Shapes
import ShaderInterface.Proofs.TypeGraph

/-!
# The lists of resources

Each list of resources goes through the variables of a module in their order and takes some of
them. No variable is in two lists, unless its object is decorated as a block in both ways. Which
lists it is in depends on its own class and decorations and on the type inside the arrays of its
object, so arrays around that type neither move a variable nor lose it.
-/

namespace ShaderInterface

/-- The storage classes of the variables in a category. -/
def ResourceKind.storageClasses : ResourceKind → List StorageClass
  | .uniformBuffer => [StorageClass.uniform]
  | .storageBuffer => [StorageClass.storageBuffer, StorageClass.uniform]
  | .pushConstant => [StorageClass.pushConstant]
  | .sampledImage | .storageImage => [StorageClass.uniformConstant]
  | .stageInput => [StorageClass.input]

/-- Different categories have no storage class in common, but for the two kinds of buffers and the
two kinds of images. -/
theorem ResourceKind.eq_or_pair (kind kind' : ResourceKind) :
    ∀ storageClass ∈ kind.storageClasses, storageClass ∈ kind'.storageClasses →
      kind = kind' ∨
        (storageClass = StorageClass.uniform ∧
          (kind = .uniformBuffer ∧ kind' = .storageBuffer ∨
            kind = .storageBuffer ∧ kind' = .uniformBuffer)) ∨
        kind = .sampledImage ∧ kind' = .storageImage ∨
        kind = .storageImage ∧ kind' = .sampledImage := by
  cases kind <;> cases kind' <;> decide

namespace Module

variable (module : Module)

/-- The variable is in the list of the category. Of its object only the type inside the arrays
counts. -/
def isListed (kind : ResourceKind) (var : Variable) : Bool :=
  match module.pointee var with
  | .ok type => module.belongs kind var (module.elementType type)
  | .error _ => false

/-- A uniform variable whose object, without arrays, is decorated as a block in both ways. -/
def IsBothBlocks (var : Variable) : Prop :=
  var.storageClass = StorageClass.uniform ∧ ∃ type, module.pointee var = .ok type ∧
    module.hasDecoration (module.elementType type) Decoration.block = true ∧
    module.hasDecoration (module.elementType type) Decoration.bufferBlock = true

/-- The resource is what the variable is listed as: its type is that of the variable's object, and
its base type is what is inside the arrays of this type, which is no array and which the type's
shape is the shape of. -/
structure IsResource (var : Variable) (resource : Resource) : Prop where
  id : resource.id = var.id
  typeId : module.pointee var = .ok resource.typeId
  baseTypeId : resource.baseTypeId = module.elementType resource.typeId
  not_array : module.element? resource.baseTypeId = none
  shape : ∀ info, module.typeInfo resource.typeId = .ok info →
    info.baseTypeId = resource.baseTypeId

/-- Two variables, each of its own module, have objects of the types `inner` and `inner'` with any
arrays around them, and are alike in all that counts for the lists: storage class, decorations, and
the declaration, the decorations and the built-in members of these types. -/
structure SameTraits (module module' : Module) (var var' : Variable) (inner inner' : Ident) :
    Prop where
  storageClass : var.storageClass = var'.storageClass
  decorations : ∀ decoration,
    module.hasDecoration var.id decoration = module'.hasDecoration var'.id decoration
  nested : ∃ type, module.pointee var = .ok type ∧
    Relation.ReflTransGen module.Element inner type
  nested' : ∃ type, module'.pointee var' = .ok type ∧
    Relation.ReflTransGen module'.Element inner' type
  not_array : module.element? inner = none
  type? : module.type? inner = module'.type? inner'
  innerDecorations : ∀ decoration,
    module.hasDecoration inner decoration = module'.hasDecoration inner' decoration
  builtInMembers : ∀ member, module.hasMemberDecoration inner member Decoration.builtIn =
    module'.hasMemberDecoration inner' member Decoration.builtIn

/-- The lists of resources divide the variables soundly. -/
structure Classified (lists : ResourceKind → List Resource) : Prop where
  /-- A list has the variables that belong in it, in their order and each of them once. -/
  inOrder : ∀ kind,
    List.Forall₂ module.IsResource (module.vars.filter (module.isListed kind)) (lists kind)
  /-- A variable is in no two lists, -/
  inOne : ∀ var, ¬ module.IsBothBlocks var → ∀ kind kind', module.isListed kind var = true →
    module.isListed kind' var = true → kind = kind'
  /-- except that one that is both kinds of block is listed as both kinds of buffer. -/
  inTwo : ∀ var, module.IsBothBlocks var → ∀ kind,
    module.isListed kind var = true ↔ kind = .uniformBuffer ∨ kind = .storageBuffer
  /-- Variables that are alike without arrays are in the same lists. -/
  byTraits : ∀ module' var var' inner inner', module'.ArrayAcyclic →
    SameTraits module module' var var' inner inner' →
    ∀ kind, module.isListed kind var = module'.isListed kind var'

variable {module} {kind kind' : ResourceKind} {var : Variable} {inner : Ident}

/-! ## Lists and variables -/

theorem isListed_of_pointee {type : Ident} (hpointee : module.pointee var = .ok type) :
    module.isListed kind var = module.belongs kind var (module.elementType type) := by
  simp only [isListed, hpointee]

theorem exists_of_isListed (hlisted : module.isListed kind var = true) :
    ∃ type, module.pointee var = .ok type ∧
      module.belongs kind var (module.elementType type) = true := by
  unfold isListed at hlisted
  split at hlisted
  next type hpointee => exact ⟨type, hpointee, hlisted⟩
  next => simp at hlisted

theorem forall₂_placedVariables {placed : List (Variable × Ident)}
    (hplaced : module.placedVariables = .ok placed) :
    List.Forall₂ (fun var entry => entry.1 = var ∧ module.pointee var = .ok entry.2)
      module.vars placed := by
  refine (Alike.forall₂_of_mapM hplaced).imp fun var entry hentry => ?_
  obtain ⟨type, hpointee, hentry⟩ := bind_eq_ok.mp hentry
  cases hentry
  exact ⟨rfl, hpointee⟩

theorem ArrayAcyclic.isResource (hacyclic : module.ArrayAcyclic) {type : Ident} {name : String}
    (hpointee : module.pointee var = .ok type) :
    module.IsResource var ⟨var.id, type, module.elementType type, name⟩ where
  id := rfl
  typeId := hpointee
  baseTypeId := rfl
  not_array := (hacyclic.arrayAcyclicFrom type).element?_elementType
  shape _ hinfo := (of_typeInfo hinfo).1

/-- A list stands for the variables that are listed, each of them as the resource that is made of
it. -/
theorem forall₂_resources_of {relation : Variable → Resource → Prop} {resources : List Resource}
    (hresources : module.resources kind = .ok resources)
    (hlisted : ∀ var type, module.pointee var = .ok type →
      relation var ⟨var.id, type, module.elementType type,
        module.resourceName kind var.id (module.elementType type)⟩) :
    List.Forall₂ relation (module.vars.filter (module.isListed kind)) resources := by
  obtain ⟨placed, hplaced, hresources⟩ := bind_eq_ok.mp hresources
  cases hresources
  rw [← List.filterMap_eq_filter]
  refine List.rel_filterMap ?_ (forall₂_placedVariables hplaced)
  rintro _ ⟨var, type⟩ ⟨rfl, hpointee⟩
  have hsame : module.isListed kind var = module.belongs kind var (module.elementType type) :=
    isListed_of_pointee hpointee
  dsimp only [resource?]
  rw [Option.guard, hsame]
  split
  next => exact .some (hlisted var type hpointee)
  next => exact .none

theorem forall₂_resources (hacyclic : module.ArrayAcyclic) {resources : List Resource}
    (hresources : module.resources kind = .ok resources) :
    List.Forall₂ module.IsResource (module.vars.filter (module.isListed kind)) resources :=
  forall₂_resources_of hresources fun _ _ hpointee => hacyclic.isResource hpointee

/-! ## One list for each variable -/

theorem mem_storageClasses_of_belongs (hbelongs : module.belongs kind var inner = true) :
    var.storageClass ∈ kind.storageClasses := by
  unfold belongs at hbelongs
  cases kind <;> simp_all [ResourceKind.storageClasses]
  tauto

theorem not_belongs_both_images (hsampled : module.belongs .sampledImage var inner = true) :
    module.belongs .storageImage var inner = false := by
  simp only [belongs, Bool.and_eq_true] at hsampled ⊢
  cases htype : module.type? inner with
  | none => simp
  | some decl => cases decl <;> simp_all

theorem both_blocks_of_belongs (huniform : var.storageClass = StorageClass.uniform)
    (hblock : module.belongs .uniformBuffer var inner = true)
    (hbufferBlock : module.belongs .storageBuffer var inner = true) :
    module.hasDecoration inner Decoration.block = true ∧
      module.hasDecoration inner Decoration.bufferBlock = true := by
  have hother : StorageClass.uniform ≠ StorageClass.storageBuffer := by decide
  simp only [belongs, huniform, hother, decide_false, decide_true, Bool.false_or,
    Bool.true_and] at hblock hbufferBlock
  exact ⟨hblock, hbufferBlock⟩

theorem eq_of_isListed (hnot : ¬ module.IsBothBlocks var)
    (hlisted : module.isListed kind var = true) (hlisted' : module.isListed kind' var = true) :
    kind = kind' := by
  obtain ⟨type, hpointee, hbelongs⟩ := exists_of_isListed hlisted
  have hbelongs' := (isListed_of_pointee hpointee).symm.trans hlisted'
  have hclass := mem_storageClasses_of_belongs hbelongs
  have hclass' := mem_storageClasses_of_belongs hbelongs'
  rcases ResourceKind.eq_or_pair kind kind' _ hclass hclass' with
    heq | ⟨huniform, ⟨rfl, rfl⟩ | ⟨rfl, rfl⟩⟩ | ⟨rfl, rfl⟩ | ⟨rfl, rfl⟩
  · exact heq
  · exact absurd ⟨huniform, type, hpointee, both_blocks_of_belongs huniform hbelongs hbelongs'⟩ hnot
  · exact absurd ⟨huniform, type, hpointee, both_blocks_of_belongs huniform hbelongs' hbelongs⟩ hnot
  · simp [not_belongs_both_images hbelongs] at hbelongs'
  · simp [not_belongs_both_images hbelongs'] at hbelongs

theorem isListed_iff_of_bothBlocks (hboth : module.IsBothBlocks var) :
    module.isListed kind var = true ↔ kind = .uniformBuffer ∨ kind = .storageBuffer := by
  obtain ⟨huniform, type, hpointee, hblock, hbufferBlock⟩ := hboth
  rw [isListed_of_pointee hpointee]
  constructor
  · intro hbelongs
    have hclass := mem_storageClasses_of_belongs hbelongs
    rw [huniform] at hclass
    revert hclass
    cases kind <;> decide
  · rintro (rfl | rfl) <;> simp [belongs, huniform, hblock, hbufferBlock]

/-! ## What the lists depend on -/

theorem SameTraits.isListed_eq {module' : Module} {var' : Variable} {inner' : Ident}
    (hsame : SameTraits module module' var var' inner inner') (hacyclic : module.ArrayAcyclic)
    (hacyclic' : module'.ArrayAcyclic) (kind : ResourceKind) :
    module.isListed kind var = module'.isListed kind var' := by
  obtain ⟨type, hpointee, hnested⟩ := hsame.nested
  obtain ⟨type', hpointee', hnested'⟩ := hsame.nested'
  have hnot' : module'.element? inner' = none := by
    simpa only [element?, hsame.type?] using hsame.not_array
  have hinner := elementType_eq_of_nested (hacyclic.arrayAcyclicFrom type) hnested hsame.not_array
  have hinner' := elementType_eq_of_nested (hacyclic'.arrayAcyclicFrom type') hnested' hnot'
  rw [isListed_of_pointee hpointee, isListed_of_pointee hpointee', hinner, hinner']
  cases kind with
  | stageInput =>
      simp only [belongs, isBuiltIn, hsame.storageClass, hsame.decorations, hsame.type?,
        hsame.builtInMembers]
  | _ => simp only [belongs, hsame.storageClass, hsame.innerDecorations, hsame.type?]

/-- Where no array contains itself, the lists of resources divide the variables soundly. -/
theorem resources_classified (hacyclic : module.ArrayAcyclic)
    {lists : ResourceKind → List Resource}
    (hlists : ∀ kind, module.resources kind = .ok (lists kind)) : module.Classified lists where
  inOrder kind := forall₂_resources hacyclic (hlists kind)
  inOne _ hnot _ _ := eq_of_isListed hnot
  inTwo _ hboth _ := isListed_iff_of_bothBlocks hboth
  byTraits _ _ _ _ _ hacyclic' hsame := hsame.isListed_eq hacyclic hacyclic'

/-- Arrays of blocks of both kinds, arrays of textures, and two inputs, one without a location. -/
def arrayedResources : Module where
  types := .ofRows [(1, .float 32), (4, .struct [1]), (5, .array 4 3), (6, .runtimeArray 5),
    (7, .pointer StorageClass.uniform 6), (8, .image 1 ⟨0⟩ 1), (9, .sampledImage 8),
    (10, .array 9 3), (11, .pointer StorageClass.uniformConstant 10),
    (12, .pointer StorageClass.input 1)]
  constants := .ofRows [(3, 2)]
  vars := [{ id := 20, type := 7, storageClass := StorageClass.uniform },
    { id := 21, type := 12, storageClass := StorageClass.input },
    { id := 22, type := 11, storageClass := StorageClass.uniformConstant },
    { id := 23, type := 12, storageClass := StorageClass.input }]
  names := .ofRows [(4, "Block")]
  decorations := .ofRows [((4, Decoration.block), []), ((4, Decoration.bufferBlock), []),
    ((23, Decoration.location), [0])]

/-- The resources of the arrayed resources' module. -/
def arrayedLists : ResourceKind → List Resource
  | .uniformBuffer | .storageBuffer => [⟨20, 6, 4, "Block"⟩]
  | .sampledImage => [⟨22, 10, 9, ""⟩]
  | .stageInput => [⟨23, 1, 1, ""⟩]
  | .pushConstant | .storageImage => []

theorem resources_classified_arrayedResources :
    arrayedResources.ArrayAcyclic ∧
      (∀ kind, arrayedResources.resources kind = .ok (arrayedLists kind)) ∧
      arrayedResources.Classified arrayedLists := by
  have hacyclic : arrayedResources.ArrayAcyclic := (acyclic_of_rows rfl).arrayAcyclic
  have hlists : ∀ kind, arrayedResources.resources kind = .ok (arrayedLists kind) := by
    intro kind
    cases kind <;> rfl
  exact ⟨hacyclic, hlists, resources_classified hacyclic hlists⟩

end Module

end ShaderInterface
