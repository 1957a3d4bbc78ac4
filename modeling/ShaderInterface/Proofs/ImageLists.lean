import ShaderInterface.Proofs.DataTypes
import ShaderInterface.Proofs.StageInputs
import ShaderInterface.Proofs.VariablePointers

/-!
# The lists of images

The images that are listed stand one by one for the resources of their category, in their order.
The data type of an image is that of a texel, which is a scalar or a vector and never a matrix. In a
module an image that is stored to is found inside the arrays of its variable, and one that is
sampled behind a sampled image there. If there is nothing behind a sampled image, its texels are
unknown, and the list is made all the same.
-/

namespace ShaderInterface

/-- One column is described by a scalar or a vector. -/
theorem DataType.classify_one_not_mem {base : BaseType} {width : UInt32} :
    classify base width 1 ∉ [mat2, mat3, mat4] := by
  rw [classify_eq_getD, word?_one, ← ofVector_eq_getD]
  unfold ofVector
  split <;> decide

namespace Reflector

open Reflecting

/-- The type gives texels of the data type when it is sampled or loaded: one column of its image
type, or something unknown if it has none. -/
inductive HasTexels (reflector : Reflector) (type : Ident) : DataType → Prop
  | unknown {info : TypeInfo} (hinfo : reflector.module.typeInfo type = .ok info)
      (himage : info.imageType = none) : HasTexels reflector type .unknown
  | column {info texel : TypeInfo} {texelType : Ident}
      (hinfo : reflector.module.typeInfo type = .ok info)
      (himage : info.imageType = some texelType)
      (htexel : reflector.module.typeInfo texelType = .ok texel) :
      HasTexels reflector type (DataType.classify texel.base texel.width 1)

variable (reflector : Reflector)

/-- The entry describes the resource as an image. -/
structure IsImage (resource : Resource) (entry : ImageBinding) : Prop where
  name : entry.name = resource.name
  slot : reflector.IsBoundTo resource entry.slot
  texels : reflector.HasTexels resource.typeId entry.dataType

/-- The entries describe the resources of the category, one by one and in their order. -/
def ListsImages (kind : ResourceKind) (entries : List ImageBinding) : Prop :=
  ∃ resources, reflector.module.resources kind = .ok resources ∧
    List.Forall₂ reflector.IsImage resources entries

variable {reflector}

theorem HasTexels.not_mem {type : Ident} {dataType : DataType}
    (htexels : reflector.HasTexels type dataType) : dataType ∉ [DataType.mat2, .mat3, .mat4] := by
  cases htexels with
  | unknown => decide
  | column => exact DataType.classify_one_not_mem

theorem hasTexels_iff (kind : ResourceKind) (resource : Resource) {type : Ident}
    {dataType : DataType} :
    reflector.HasTexels type dataType ↔ ∃ info, reflector.module.typeInfo type = .ok info ∧
      (reflector.imageDataType kind resource info).outcome = .ok dataType := by
  constructor
  · intro htexels
    cases htexels with
    | unknown hinfo himage =>
        refine ⟨_, hinfo, ?_⟩
        rw [imageDataType, himage]
        rfl
    | column hinfo himage htexel =>
        refine ⟨_, hinfo, ?_⟩
        simp only [imageDataType, himage, typeInfoOf, htexel]
        rfl
  · rintro ⟨info, hinfo, hdataType⟩
    unfold imageDataType at hdataType
    split at hdataType
    next himage =>
      cases hdataType
      exact .unknown hinfo himage
    next texelType himage =>
      rw [outcome_bind] at hdataType
      obtain ⟨texel, htexel, hdataType⟩ := bind_eq_ok.mp hdataType
      cases hdataType
      exact .column hinfo himage (outcome_ask_eq_ok.mp htexel)

theorem outcome_image_eq_ok {kind : ResourceKind} {resource : Resource} {entry : ImageBinding} :
    (reflector.image kind resource).outcome = .ok entry ↔ reflector.IsImage resource entry := by
  simp only [image, typeInfoOf, outcome_bind, bind_eq_ok, outcome_slotOf_eq_ok, outcome_ask_eq_ok,
    outcome_pure]
  constructor
  · rintro ⟨slot, hslot, info, hinfo, dataType, hdataType, hentry⟩
    cases hentry
    exact ⟨rfl, hslot, (hasTexels_iff kind resource).mpr ⟨info, hinfo, hdataType⟩⟩
  · rintro ⟨hname, hslot, htexels⟩
    obtain ⟨info, hinfo, hdataType⟩ := (hasTexels_iff kind resource).mp htexels
    exact ⟨entry.slot, hslot, info, hinfo, entry.dataType, hdataType, by rw [← hname]⟩

theorem outcome_images_eq_ok {kind : ResourceKind} {entries : List ImageBinding} :
    (reflector.images kind).outcome = .ok entries ↔ reflector.ListsImages kind entries := by
  simp only [images, listed, outcome_bind, outcome_mapM, bind_eq_ok, outcome_ask_eq_ok,
    Alike.mapM_eq_ok_iff, outcome_image_eq_ok]
  rfl

theorem ListsImages.not_mem {kind : ResourceKind} {entries : List ImageBinding}
    (hlists : reflector.ListsImages kind entries) :
    ∀ entry ∈ entries, entry.dataType ∉ [DataType.mat2, .mat3, .mat4] := by
  obtain ⟨resources, -, hentries⟩ := hlists
  intro entry hmem
  obtain ⟨resource, -, himage⟩ := exists_of_forall₂_of_mem hentries hmem
  exact himage.texels.not_mem

end Reflector

namespace Module

variable (module : Module)

/-- The type is one of images of the category with texels of the given type. What is sampled is
behind a sampled image, and has no texels if it is not declared or is no image. -/
inductive IsImageType (type : Ident) : ResourceKind → Option Ident → Prop
  | loaded {texelType : Ident} {dim : Dim} {sampled : UInt32}
      (htype : module.type? type = some (.image texelType dim sampled)) :
      IsImageType type .storageImage (some texelType)
  | sampled {image texelType : Ident} {dim : Dim} {sampled : UInt32}
      (htype : module.type? type = some (.sampledImage image))
      (himage : module.type? image = some (.image texelType dim sampled)) :
      IsImageType type .sampledImage (some texelType)
  | dangling {image : Ident} (htype : module.type? type = some (.sampledImage image))
      (hother : ∀ texelType dim sampled,
        module.type? image ≠ some (.image texelType dim sampled)) :
      IsImageType type .sampledImage none

/-- Inside the arrays of the type are images of the category with texels of the data type, which is
unknown if they have none. -/
inductive HasTexels (type : Ident) (kind : ResourceKind) : DataType → Prop
  | unknown {inner : Ident} (hnested : Relation.ReflTransGen module.Element inner type)
      (himage : module.IsImageType inner kind none) : HasTexels type kind .unknown
  | column {inner texelType : Ident} {texel : TypeInfo}
      (hnested : Relation.ReflTransGen module.Element inner type)
      (himage : module.IsImageType inner kind (some texelType))
      (htexel : module.typeInfo texelType = .ok texel) :
      HasTexels type kind (DataType.classify texel.base texel.width 1)

/-- Each sized array around what is inside the type has a constant for its length that fits in a
word. -/
def KnowsLengths (type : Ident) : Prop :=
  ∀ array element length, Relation.ReflTransGen module.Element array type →
    module.type? array = some (.array element length) →
    ∃ value, module.constant? length = some value ∧ value.toNat < UInt32.size

/-- The entry describes the variable as an image. A number that is missing is 0. -/
structure IsImage (kind : ResourceKind) (var : Variable) (entry : ImageBinding) : Prop where
  name : entry.name = (module.name? var.id).getD ""
  set : entry.slot.set = (module.decorationValue? var.id Decoration.descriptorSet).getD 0
  binding : entry.slot.binding = (module.decorationValue? var.id Decoration.binding).getD 0
  object : ∃ type, module.pointee var = .ok type ∧ module.KnowsLengths type ∧
    module.HasTexels type kind entry.dataType

/-- All variables have pointer types, and the entries describe those of the category, one by one and
in the order of their declaration. -/
structure ListsImages (kind : ResourceKind) (entries : List ImageBinding) : Prop where
  pointers : ∀ var ∈ module.vars, module.hasPointerType var = true
  images : List.Forall₂ (module.IsImage kind) (module.vars.filter (module.isListed kind)) entries

variable {module} {kind : ResourceKind} {type : Ident} {texelType? : Option Ident}

/-! ## Types of images -/

theorem exists_isImageType_of_belongs {var : Variable}
    (hkind : kind = .sampledImage ∨ kind = .storageImage)
    (hbelongs : module.belongs kind var type = true) :
    ∃ texelType?, module.IsImageType type kind texelType? := by
  rcases hkind with rfl | rfl
  · simp only [belongs, Bool.and_eq_true] at hbelongs
    obtain ⟨-, hsampled⟩ := hbelongs
    split at hsampled
    next image htype =>
      by_cases himage : ∃ texelType dim sampled,
          module.type? image = some (.image texelType dim sampled)
      · obtain ⟨texelType, dim, sampled, himage⟩ := himage
        exact ⟨some texelType, .sampled htype himage⟩
      · simp only [not_exists] at himage
        exact ⟨none, .dangling htype himage⟩
    next => cases hsampled
  · simp only [belongs, Bool.and_eq_true] at hbelongs
    obtain ⟨-, hloaded⟩ := hbelongs
    split at hloaded
    next texelType dim sampled htype => exact ⟨some texelType, .loaded htype⟩
    next => cases hloaded

namespace IsImageType

theorem not_array (himage : module.IsImageType type kind texelType?) :
    module.element? type = none := by
  cases himage with
  | loaded htype | sampled htype | dangling htype => simp only [element?, htype]

theorem imageType_of_typeInfo
    (himage : module.IsImageType (module.elementType type) kind texelType?) {info : TypeInfo}
    (hinfo : module.typeInfo type = .ok info) : info.imageType = texelType? := by
  obtain ⟨dims, -, hinfo⟩ := bind_eq_ok.mp hinfo
  obtain ⟨decl, hdecl, hinfo⟩ := bind_eq_ok.mp hinfo
  have hdecl := type?_of_requiredType hdecl
  cases himage with
  | loaded htype =>
      cases hdecl.symm.trans htype
      cases hinfo
      rfl
  | sampled htype himage =>
      cases hdecl.symm.trans htype
      cases hinfo
      simp only [sampledTypeOf, himage]
  | dangling htype hother =>
      cases hdecl.symm.trans htype
      cases hinfo
      dsimp only [sampledTypeOf]
      split
      next texelType dim sampled himage => exact absurd himage (hother _ _ _)
      next => rfl

/-- Of images in arrays only the lengths of the arrays can be missing. -/
theorem exists_typeInfo_iff
    (himage : module.IsImageType (module.elementType type) kind texelType?) :
    (∃ info, module.typeInfo type = .ok info) ↔ module.KnowsLengths type := by
  have hacyclic := arrayAcyclicFrom_of_nested (nested_elementType type) himage.not_array
  rw [← Fails.not_iff]
  constructor
  · intro hnot array element length hnested htype
    by_contra hlength
    simp only [not_exists, not_and, not_lt] at hlength
    exact hnot ((Shapeless.length hnested htype hlength).fails hacyclic)
  · intro hlengths hfails
    cases shapeless_of_fails hacyclic hfails with
    | length hnested htype hlength =>
        obtain ⟨value, hvalue, hfits⟩ := hlengths _ _ _ hnested htype
        exact absurd hfits (Nat.not_lt.mpr (hlength value hvalue))
    | inner htype | component htype | column htype | columnComponent htype =>
        cases himage with
        | loaded htype' | sampled htype' | dangling htype' => cases htype.symm.trans htype'

end IsImageType

section

variable {reflector : Reflector} (hmodule : reflector.module = module.introspection)

include hmodule

/-- An image that nothing is behind has texels too, though unknown ones. -/
theorem hasTexels_iff_of_isImageType {dataType : DataType}
    (himage : module.IsImageType (module.elementType type) kind texelType?) :
    reflector.HasTexels type dataType ↔
      module.KnowsLengths type ∧ module.HasTexels type kind dataType := by
  have hnested : Relation.ReflTransGen module.Element (module.elementType type) type :=
    nested_elementType type
  have hanswer : ∀ id info, reflector.module.typeInfo id = .ok info ↔
      module.typeInfo id = .ok info := by
    intro id info
    rw [hmodule]
    exact answer_eq_ok
  rw [← himage.exists_typeInfo_iff]
  constructor
  · intro htexels
    cases htexels with
    | unknown hinfo hnone =>
        have hinfo := (hanswer _ _).mp hinfo
        cases (himage.imageType_of_typeInfo hinfo).symm.trans hnone
        exact ⟨⟨_, hinfo⟩, .unknown hnested himage⟩
    | column hinfo hsome htexel =>
        have hinfo := (hanswer _ _).mp hinfo
        cases (himage.imageType_of_typeInfo hinfo).symm.trans hsome
        exact ⟨⟨_, hinfo⟩, .column hnested himage ((hanswer _ _).mp htexel)⟩
  · rintro ⟨⟨info, hinfo⟩, htexels⟩
    have himageType : ∀ inner texelType?', Relation.ReflTransGen module.Element inner type →
        module.IsImageType inner kind texelType?' → info.imageType = texelType?' := by
      intro inner texelType?' hnested' himage'
      obtain rfl := elementType_of_nested hnested' himage'.not_array
      exact himage'.imageType_of_typeInfo hinfo
    have hinfo := (hanswer _ _).mpr hinfo
    cases htexels with
    | unknown hnested' himage' => exact .unknown hinfo (himageType _ _ hnested' himage')
    | column hnested' himage' htexel =>
        exact .column hinfo (himageType _ _ hnested' himage') ((hanswer _ _).mpr htexel)

theorem isBoundTo_iff {resource : Resource} {slot : Slot} :
    reflector.IsBoundTo resource slot ↔
      slot.set = (module.decorationValue? resource.id Decoration.descriptorSet).getD 0 ∧
        slot.binding = (module.decorationValue? resource.id Decoration.binding).getD 0 := by
  have hanswer : ∀ decoration value,
      reflector.module.decoration resource.id decoration = .ok value ↔
        module.decorationValue? resource.id decoration = value := by
    intro decoration value
    rw [hmodule]
    exact iff_of_eq (Except.ok.injEq _ _)
  constructor
  · rintro ⟨⟨set, hset, hslot⟩, binding, hbinding, hslot'⟩
    rw [(hanswer _ _).mp hset, (hanswer _ _).mp hbinding]
    exact ⟨hslot, hslot'⟩
  · rintro ⟨hset, hbinding⟩
    exact ⟨⟨_, (hanswer _ _).mpr rfl, hset⟩, _, (hanswer _ _).mpr rfl, hbinding⟩

theorem isImage_iff {var : Variable} {resource : Resource} {entry : ImageBinding}
    (hresource : module.IsNamedResource var resource)
    (himage : module.IsImageType (module.elementType resource.typeId) kind texelType?) :
    reflector.IsImage resource entry ↔ module.IsImage kind var entry := by
  constructor
  · rintro ⟨hname, hslot, htexels⟩
    obtain ⟨hset, hbinding⟩ := (isBoundTo_iff hmodule).mp hslot
    rw [hresource.id] at hset hbinding
    exact ⟨hname.trans hresource.name, hset, hbinding, resource.typeId, hresource.typeId,
      (hasTexels_iff_of_isImageType hmodule himage).mp htexels⟩
  · rintro ⟨hname, hset, hbinding, type, hpointee, htexels⟩
    cases hresource.typeId.symm.trans hpointee
    rw [← hresource.id] at hset hbinding
    exact ⟨hname.trans hresource.name.symm, (isBoundTo_iff hmodule).mpr ⟨hset, hbinding⟩,
      (hasTexels_iff_of_isImageType hmodule himage).mpr htexels⟩

theorem forall₂_isImage_iff (hkind : kind = .sampledImage ∨ kind = .storageImage)
    {resources : List Resource} {entries : List ImageBinding}
    (hresources : module.resources kind = .ok resources) :
    List.Forall₂ reflector.IsImage resources entries ↔
      List.Forall₂ (module.IsImage kind) (module.vars.filter (module.isListed kind)) entries := by
  have hnamed : List.Forall₂ module.IsNamedResource
      (module.vars.filter (module.isListed kind)) resources := by
    apply forall₂_resources_of hresources
    intro var type hpointee
    refine ⟨rfl, hpointee, ?_⟩
    rcases hkind with rfl | rfl <;> rfl
  have hlisted : ∀ var ∈ module.vars.filter (module.isListed kind),
      module.isListed kind var = true :=
    fun _ hvar => (List.mem_filter.mp hvar).2
  apply forall₂_iff_of_forall₂ ((List.forall₂_and_left _ _).mpr ⟨hlisted, hnamed⟩)
  rintro var resource entry ⟨hlisted, hresource⟩
  rw [isListed_of_pointee hresource.typeId] at hlisted
  obtain ⟨texelType?, himage⟩ := exists_isImageType_of_belongs hkind hlisted
  exact isImage_iff hmodule hresource himage

theorem listsImages_iff (hkind : kind = .sampledImage ∨ kind = .storageImage)
    {entries : List ImageBinding} :
    reflector.ListsImages kind entries ↔ module.ListsImages kind entries := by
  have hanswer : ∀ resources, reflector.module.resources kind = .ok resources ↔
      module.resources kind = .ok resources := by
    intro resources
    rw [hmodule]
    exact answer_eq_ok
  constructor
  · rintro ⟨resources, hresources, hentries⟩
    have hresources := (hanswer _).mp hresources
    refine ⟨?_, (forall₂_isImage_iff hmodule hkind hresources).mp hentries⟩
    intro var hvar
    obtain ⟨type, hpointee⟩ := exists_pointee_of_resources hresources var hvar
    exact hasPointerType_of_pointee hpointee
  · rintro ⟨hpointers, hentries⟩
    obtain ⟨resources, hresources⟩ := exists_resources hpointers kind
    exact ⟨resources, (hanswer _).mpr hresources,
      (forall₂_isImage_iff hmodule hkind hresources).mpr hentries⟩

end

end Module

namespace Reflector

/-- Whatever module is asked, there are images exactly if there is one for each listed resource,
with its name, its slot and its texels, and none of them has texels that are matrices. In a module
this takes pointer types, the lengths of arrays, and types of texels wherever an image is behind a
variable; where none is, the texels are unknown. -/
theorem images_listed (reflector : Reflector) (entries : List ImageBinding) :
    (reflector.sampledImages.outcome = .ok entries ↔
      reflector.ListsImages .sampledImage entries) ∧
    (reflector.storageImages.outcome = .ok entries ↔
      reflector.ListsImages .storageImage entries) ∧
    (∀ kind, reflector.ListsImages kind entries →
      ∀ entry ∈ entries, entry.dataType ∉ [DataType.mat2, .mat3, .mat4]) ∧
    ∀ module : Module, reflector.module = module.introspection →
      (reflector.ListsImages .sampledImage entries ↔ module.ListsImages .sampledImage entries) ∧
      (reflector.ListsImages .storageImage entries ↔
        module.ListsImages .storageImage entries) := by
  refine ⟨outcome_images_eq_ok, outcome_images_eq_ok, ?_, ?_⟩
  · intro kind hlists
    exact hlists.not_mem
  · intro module hmodule
    exact ⟨Module.listsImages_iff hmodule (.inl rfl), Module.listsImages_iff hmodule (.inr rfl)⟩

/-- A module with arrays of textures, a texture of something that is not declared and an image of
integers to store to. Not all of them have a name and a slot. -/
def arrayedTextures : Module where
  types := .ofRows [(1, .float 32), (2, .int 32 true), (3, .image 1 ⟨2⟩ 1),
    (4, .sampledImage 3), (5, .array 4 12), (6, .runtimeArray 5), (7, .sampledImage 99),
    (8, .image 2 ⟨2⟩ 2), (9, .pointer StorageClass.uniformConstant 6),
    (10, .pointer StorageClass.uniformConstant 7), (11, .pointer StorageClass.uniformConstant 8)]
  constants := .ofRows [(12, 4)]
  vars := [{ id := 20, type := 10, storageClass := StorageClass.uniformConstant },
    { id := 21, type := 11, storageClass := StorageClass.uniformConstant },
    { id := 22, type := 9, storageClass := StorageClass.uniformConstant }]
  names := .ofRows [(21, "histogram"), (22, "materials")]
  decorations := .ofRows [((20, Decoration.binding), [1]), ((22, Decoration.descriptorSet), [2]),
    ((22, Decoration.binding), [3])]

/-- The module under reflection. -/
def texturesReflector : Reflector where
  module := arrayedTextures.introspection

theorem images_listed_arrayedTextures :
    texturesReflector.sampledImages.outcome =
        .ok [⟨"", ⟨0, 1⟩, .unknown⟩, ⟨"materials", ⟨2, 3⟩, .float⟩] ∧
      texturesReflector.storageImages.outcome = .ok [⟨"histogram", ⟨0, 0⟩, .int⟩] ∧
      arrayedTextures.ListsImages .sampledImage
        [⟨"", ⟨0, 1⟩, .unknown⟩, ⟨"materials", ⟨2, 3⟩, .float⟩] ∧
      arrayedTextures.ListsImages .storageImage [⟨"histogram", ⟨0, 0⟩, .int⟩] := by
  have hsampled : texturesReflector.sampledImages.outcome =
      .ok [⟨"", ⟨0, 1⟩, .unknown⟩, ⟨"materials", ⟨2, 3⟩, .float⟩] := by
    decide +kernel
  have hstorage : texturesReflector.storageImages.outcome =
      .ok [⟨"histogram", ⟨0, 0⟩, .int⟩] := by
    decide +kernel
  refine ⟨hsampled, hstorage, ?_, ?_⟩
  · obtain ⟨hlists, -, -, hmodule⟩ := images_listed texturesReflector _
    exact (hmodule arrayedTextures rfl).1.mp (hlists.mp hsampled)
  · obtain ⟨-, hlists, -, hmodule⟩ := images_listed texturesReflector _
    exact (hmodule arrayedTextures rfl).2.mp (hlists.mp hstorage)

end Reflector

end ShaderInterface
