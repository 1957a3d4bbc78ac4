import ShaderInterface.Introspection.Tabulated
import ShaderInterface.Proofs.QuestionOrder
import ShaderInterface.Proofs.StageInputs

/-!
# How many elements members have

A reader divides by the lengths in a reflection and shows its names, so no length is zero and no
member is without a name, whatever the module says. A module may report arrays of length zero,
arrays without a length and empty names. All these count as one element or as unnamed, and a length
of more than one is always the module's own.
-/

namespace ShaderInterface

namespace TypeInfo

variable (info : TypeInfo)

theorem one_le_arrayLength : 1 ≤ info.arrayLength := by
  unfold arrayLength
  split
  next length _ _ =>
    split
    next => decide
    next hne =>
      have hpos : length.toNat ≠ 0 := fun hzero => hne (UInt32.toNat_inj.mp hzero)
      exact UInt32.le_iff_toNat_le.mpr (Nat.one_le_iff_ne_zero.mpr hpos)
  next => decide

/-- Only a length of the outermost dimension is more than one. -/
theorem head?_array_of_one_lt (hlength : 1 < info.arrayLength) :
    info.array.head? = some (some info.arrayLength) := by
  unfold arrayLength at hlength ⊢
  split at hlength
  next length rest harray =>
    split at hlength
    next => exact absurd hlength (by decide)
    next hne => simp only [harray, List.head?_cons, if_neg hne]
  next => exact absurd hlength (by decide)

theorem arrayLength_of_head?_array {length : UInt32}
    (harray : info.array.head? = some (some length)) (hne : length ≠ 0) :
    info.arrayLength = length := by
  obtain ⟨rest, harray⟩ := List.head?_eq_some_iff.mp harray
  simp only [arrayLength, harray, if_neg hne]

end TypeInfo

theorem map_toBufferMember_map_toStorage (members : List BufferMember) :
    (members.map BufferMember.toStorage).map (·.toBufferMember) = members := by
  rw [List.map_map]
  exact List.map_id members

namespace Reflector

open Reflecting

variable (reflector : Reflector)

/-- The length counts the elements of the type. It is at least one, and if it is more, the outermost
dimension of the type is fixed and just as long. -/
structure Counts (type : Ident) (length : UInt32) : Prop where
  one_le : 1 ≤ length
  outermost : 1 < length → ∃ info, reflector.module.typeInfo type = .ok info ∧
    info.array.head? = some (some length)
  /-- A dimension that is fixed and not zero is not left out. -/
  counted : ∀ info dimension, reflector.module.typeInfo type = .ok info →
    info.array.head? = some (some dimension) → dimension ≠ 0 → length = dimension

/-- The members are those of the struct inside the arrays of the type, one by one. Each has a name
and counts the elements of its own type. -/
def CountsMembers (type : Ident) (members : List BufferMember) : Prop :=
  ∃ info types, reflector.module.typeInfo type = .ok info ∧
    reflector.module.memberTypes info.baseTypeId = .ok types ∧
    List.Forall₂ (fun type member => member.name ≠ "" ∧ reflector.Counts type member.arrayLength)
      types members

/-- All members and inputs in the reflection count their elements, and all members have names. -/
structure CountsElements (reflection : Reflection) : Prop where
  uniformBuffers : reflector.StandFor .uniformBuffer
    (fun resource buffer => reflector.CountsMembers resource.baseTypeId buffer.members)
    reflection.uniformBuffers
  /-- A member of a storage buffer tells its length twice. -/
  storageBuffers : reflector.StandFor .storageBuffer
    (fun resource buffer =>
      reflector.CountsMembers resource.baseTypeId (buffer.members.map (·.toBufferMember)) ∧
        ∀ member ∈ buffer.members, member.arraySize = member.arrayLength)
    reflection.storageBuffers
  pushConstants : reflector.StandFor .pushConstant
    (fun resource block => reflector.CountsMembers resource.baseTypeId block.members)
    reflection.pushConstants
  stageInputs : ∀ input ∈ reflection.stageInputs, ∃ resources resource,
    reflector.module.resources .stageInput = .ok resources ∧ resource ∈ resources ∧
      reflector.IsStageInput resource input ∧ reflector.Counts resource.typeId input.arraySize

variable {reflector}

theorem counts_arrayLength {type : Ident} {info : TypeInfo}
    (hinfo : reflector.module.typeInfo type = .ok info) :
    reflector.Counts type info.arrayLength where
  one_le := info.one_le_arrayLength
  outermost hlength := ⟨info, hinfo, info.head?_array_of_one_lt hlength⟩
  counted info' dimension hinfo' harray hne := by
    cases hinfo.symm.trans hinfo'
    exact info.arrayLength_of_head?_array harray hne

theorem IsMember.counts {id type : Ident} {index : UInt32} {member : BufferMember}
    (hmember : reflector.IsMember id index type member) :
    reflector.Counts type member.arrayLength := by
  obtain ⟨info, hinfo, -, hlength⟩ := hmember.shape
  rw [hlength]
  exact counts_arrayLength hinfo

/-- A missing name is replaced, and an empty one counts as missing. -/
theorem memberName_ne_empty (hunnamed : reflector.options.unnamed ≠ "") (id : Ident)
    (index : UInt32) : reflector.memberName id index ≠ "" := by
  unfold memberName
  split
  next name _ =>
    split
    next => exact hunnamed
    next hne => exact mt String.isEmpty_iff.mpr hne
  next => exact hunnamed

theorem countsMembers_of_layout (hunnamed : reflector.options.unnamed ≠ "") {type : Ident}
    {layout : BlockLayout} (hlayout : (reflector.layout type).outcome = .ok layout) :
    reflector.CountsMembers type layout.members := by
  obtain ⟨info, types, hinfo, hstruct⟩ := outcome_layout_eq_ok.mp hlayout
  refine ⟨info, types, hinfo, hstruct.memberTypes, ?_⟩
  rw [← List.zipIdx_map_fst 0 types, List.forall₂_map_left_iff]
  apply hstruct.members.imp
  intro entry member hmember
  refine ⟨?_, hmember.counts⟩
  rw [hmember.name]
  exact memberName_ne_empty hunnamed _ _

theorem IsStageInput.counts {resource : Resource} {input : StageInput}
    (hinput : reflector.IsStageInput resource input) :
    reflector.Counts resource.typeId input.arraySize := by
  obtain ⟨info, hinfo, -, hsize⟩ := hinput.shape
  rw [hsize]
  exact counts_arrayLength hinfo

/-- Sorting adds no inputs, so each stands for a resource. -/
theorem exists_resource_of_mem_stageInputs {inputs : List StageInput}
    (hinputs : reflector.stageInputs.outcome = .ok inputs) :
    ∀ input ∈ inputs, ∃ resources resource,
      reflector.module.resources .stageInput = .ok resources ∧ resource ∈ resources ∧
        reflector.IsStageInput resource input := by
  simp only [Reflector.stageInputs, listed, outcome_bind, outcome_mapM, outcome_pure, bind_eq_ok,
    outcome_ask_eq_ok] at hinputs
  obtain ⟨resources, hresources, listed, hlisted, hsorted⟩ := hinputs
  cases hsorted
  intro input hmem
  obtain ⟨resource, hresource, hstageInput⟩ :=
    exists_of_forall₂_of_mem (Alike.forall₂_of_mapM hlisted) (List.mem_mergeSort.mp hmem)
  exact ⟨resources, resource, hresources, hresource, outcome_stageInput_eq_ok.mp hstageInput⟩

/-- Whatever module is reflected, no length in the result is zero, one that is more than one is that
of the outermost dimension of the member's or input's type, which is not left out where it is fixed,
both lengths of a storage member agree, and no member is without a name. -/
theorem reflect_countsElements (hunnamed : reflector.options.unnamed ≠ "") {code : List UInt8}
    {reflection : Reflection} (hreflection : (reflector.reflect code).outcome = .ok reflection) :
    reflector.CountsElements reflection := by
  have hwhole := reflector.outcome_reflect_eq_ok.mp hreflection
  constructor
  case uniformBuffers =>
    apply (standFor_uniformBuffers hwhole.uniformBuffers).imp
    intro resource buffer hbuffer
    exact countsMembers_of_layout hunnamed hbuffer.layout
  case storageBuffers =>
    apply (standFor_storageBuffers hwhole.storageBuffers).imp
    intro resource buffer hbuffer
    obtain ⟨members, hmembers, hlayout⟩ := hbuffer.layout
    rw [hmembers]
    constructor
    · rw [map_toBufferMember_map_toStorage]
      exact countsMembers_of_layout hunnamed hlayout
    · intro member hmember
      obtain ⟨member', -, rfl⟩ := List.mem_map.mp hmember
      rfl
  case pushConstants =>
    apply (standFor_pushConstants hwhole.pushConstants).imp
    intro resource block hblock
    exact countsMembers_of_layout hunnamed hblock.layout
  case stageInputs =>
    intro input hinput
    have hinputs := hwhole.stageInputs
    split at hinputs
    next =>
      obtain ⟨resources, resource, hresources, hmem, hstageInput⟩ :=
        exists_resource_of_mem_stageInputs hinputs input hinput
      exact ⟨resources, resource, hresources, hmem, hstageInput, hstageInput.counts⟩
    next =>
      rw [hinputs] at hinput
      exact absurd hinput List.not_mem_nil

/-- A module whose block has an array of length zero, one without a length and one of three by two.
The first member has an empty name, the second has none. -/
def degenerateArrays : TabulatedModule where
  resources := [(.uniformBuffer, ⟨10, 1, 1, "Globals"⟩), (.storageBuffer, ⟨11, 1, 1, ""⟩),
    (.pushConstant, ⟨12, 1, 1, "push"⟩), (.stageInput, ⟨13, 3, 5, "color"⟩)]
  types := .ofRows [(1, ⟨.struct, 1, 1, [], 1, none⟩), (2, ⟨.float32, 1, 1, [some 0], 5, none⟩),
    (3, ⟨.float32, 1, 1, [none, some 2], 5, none⟩),
    (4, ⟨.float32, 1, 1, [some 3, some 2], 5, none⟩)]
  members := .ofRows [(1, [2, 3, 4])]
  memberNames := .ofRows [((1, 0), ""), ((1, 2), "weights")]
  memberDecorations := .ofRows [((1, 1, Decoration.offset), some 4),
    ((1, 2, Decoration.offset), some 8)]
  structSizes := .ofRows [(1, 32)]
  memberSizes := .ofRows [((1, 0), 0), ((1, 1), 0), ((1, 2), 24)]

/-- The module under reflection. -/
def degenerateReflector : Reflector where
  module := degenerateArrays.introspection

/-- The members of each block of the module. -/
def degenerateMembers : List BufferMember :=
  [⟨"unnamed", .float, 0, 0, 1⟩, ⟨"unnamed", .float, 4, 0, 1⟩, ⟨"weights", .float, 8, 24, 3⟩]

/-- What there is to report about the module. -/
def degenerateReflection : Reflection where
  entryPoint := "none"
  version := ⟨0, 0⟩
  code := []
  uniformBuffers := [⟨"Globals", ⟨0, 0⟩, degenerateMembers, 32⟩]
  storageBuffers :=
    [⟨"", "", ⟨0, 0⟩, 32, .readWrite, degenerateMembers.map BufferMember.toStorage⟩]
  pushConstants := [⟨"push", degenerateMembers, 32⟩]
  stageInputs := [⟨"color", 0, .float, 1⟩]

theorem reflect_countsElements_degenerateArrays :
    degenerateReflector.options.unnamed ≠ "" ∧
      (degenerateReflector.reflect []).outcome = .ok degenerateReflection ∧
      degenerateReflector.CountsElements degenerateReflection := by
  have hunnamed : degenerateReflector.options.unnamed ≠ "" := by decide
  have hreflection : (degenerateReflector.reflect []).outcome = .ok degenerateReflection := by
    decide +kernel
  exact ⟨hunnamed, hreflection, reflect_countsElements hunnamed hreflection⟩

end Reflector

end ShaderInterface
