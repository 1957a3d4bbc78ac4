import ShaderInterface.Assembler
import ShaderInterface.Proofs.BlockContents
import ShaderInterface.Proofs.Providers
import ShaderInterface.Proofs.Shapes
import ShaderInterface.Proofs.StructExtent
import ShaderInterface.Proofs.Tabulated.OperandCount

/-!
# How far blocks reach

The blocks in a reflection are structs of the module, laid out one level deep. The offsets and sizes
of their members and the size of the whole are asked for one by one, and still they fit together: a
block ends where the member listed last does.
-/

namespace ShaderInterface

/-- A boolean or a number, or a vector or matrix of such. No other type has a data type. -/
def TypeDecl.isValue : TypeDecl → Bool
  | .bool | .int .. | .float _ | .vector .. | .matrix .. => true
  | _ => false

namespace Reflector

variable {reflector : Reflector}

theorem AreMembers.isMember_last {id : Ident} {types : List Ident} {members : List BufferMember}
    {last : BufferMember} (hmembers : reflector.AreMembers id 0 types members)
    (hlast : members.getLast? = some last) :
    types ≠ [] ∧ ∃ type, reflector.IsMember id (Module.lastIndex types) type last := by
  rw [List.getLast?_eq_getElem?] at hlast
  obtain ⟨hindex, rfl⟩ := List.getElem?_eq_some_iff.mp hlast
  have hlength : types.length = members.length := by simpa using hmembers.length_eq
  have hmember := hmembers.get (by simpa [hlength] using hindex) hindex
  simp only [List.get_eq_getElem, List.getElem_zipIdx, Nat.zero_add] at hmember
  rw [Module.lastIndex, hlength]
  exact ⟨List.ne_nil_of_length_pos (by omega), _, hmember⟩

end Reflector

namespace Module

open Reflector

variable {module : Module} {id : Ident}

theorem answer_eq_ok {α : Type} {result : Except ModuleError α} {a : α} :
    answer result = .ok a ↔ result = .ok a := by
  cases result <;> simp [answer, Except.mapError]

theorem declaredStructSize_of_empty (htype : module.type? id = some (.struct [])) :
    module.declaredStructSize id = .ok 0 := by
  rw [declaredStructSize, structSizeBy, structMembers_of_struct htype]
  rfl

theorem exists_struct_of_isStruct {options : ReflectOptions} {resource : Resource}
    (hstruct : (module.reflector options).isStruct resource = true) :
    ∃ types, module.type? (module.elementType resource.typeId) = some (.struct types) := by
  unfold isStruct at hstruct
  split at hstruct
  next info hinfo =>
    exact (of_typeInfo (answer_eq_ok.mp hinfo)).2 (of_decide_eq_true hstruct)
  next => cases hstruct

/-- Arrays are looked through, and what is no value has no data type. -/
theorem dataType_of_typeInfo {info : TypeInfo} {decl : TypeDecl}
    (hinfo : module.typeInfo id = .ok info)
    (htype : module.type? (module.elementType id) = some decl) (hvalue : decl.isValue = false) :
    info.dataType = .unknown := by
  obtain ⟨array, -, hinfo⟩ := bind_eq_ok.mp hinfo
  obtain ⟨declared, hdeclared, hinfo⟩ := bind_eq_ok.mp hinfo
  have hsame : declared = decl :=
    Option.some.inj ((type?_of_requiredType hdeclared).symm.trans htype)
  subst hsame
  cases declared with
  | bool | int | float | vector | matrix => cases hvalue
  | _ =>
      cases hinfo
      rfl

variable (module) (options : ReflectOptions)

/-- The member describes member number `index` of the struct `id`, which has the given type. What is
no value has no data type and is not expanded. -/
structure ListsMember (id : Ident) (index : UInt32) (type : Ident) (member : BufferMember) :
    Prop where
  isMember : (module.reflector options).IsMember id index type member
  unknown : ∀ decl, module.type? (module.elementType type) = some decl → decl.isValue = false →
    member.dataType = .unknown

/-- The layout has a member for each member of the struct inside the arrays of the resource, in
their order, and its size reaches to the end of the member listed last. -/
structure Spans (resource : Resource) (layout : BlockLayout) : Prop where
  /-- There are no more members than a word can count. -/
  members : ∃ types, module.type? (module.elementType resource.typeId) = some (.struct types) ∧
    types.length < UInt32.size ∧ List.Forall₂
      (fun entry member => module.ListsMember options (module.elementType resource.typeId)
        entry.2.toUInt32 entry.1 member)
      types.zipIdx layout.members
  size_of_empty : layout.members = [] → layout.size = 0
  /-- The end is computed without wrapping. -/
  size_of_last : ∀ last, layout.members.getLast? = some last →
    layout.size.toNat = last.offset.toNat + last.size.toNat

variable {module options}

theorem listsMember_of_isMember {index : UInt32} {type : Ident} {member : BufferMember}
    (hmember : (module.reflector options).IsMember id index type member) :
    module.ListsMember options id index type member := by
  refine ⟨hmember, ?_⟩
  intro decl htype hvalue
  obtain ⟨info, hinfo, hdataType, -⟩ := hmember.shape
  rw [hdataType]
  exact dataType_of_typeInfo (answer_eq_ok.mp hinfo) htype hvalue

theorem spans_of_layout {decoder : Decoder} (hdecoder : decoder.BoundsOperands)
    {code : List UInt8} {kind : ResourceKind} {resources : List Resource} {resource : Resource}
    {layout : BlockLayout} (hmodule : (decoder.readBytes code).run.value = .ok module)
    (hresources : (module.reflector options).module.resources kind = .ok resources)
    (hmem : resource ∈ resources)
    (hstruct : (module.reflector options).isStruct resource = true)
    (hlayout : ((module.reflector options).layout resource.baseTypeId).outcome = .ok layout) :
    module.Spans options resource layout := by
  obtain ⟨types, htype⟩ := exists_struct_of_isStruct hstruct
  rw [baseTypeId_of_mem_resources (answer_eq_ok.mp hresources) hmem] at hlayout
  obtain ⟨info, types', hinfo, hmembers, hlisted, hsize⟩ := outcome_layout_eq_ok.mp hlayout
  -- there are no more arrays around the struct
  have hid : info.baseTypeId = module.elementType resource.typeId := by
    rw [(of_typeInfo (answer_eq_ok.mp hinfo)).1, elementType_of_struct htype]
  rw [hid] at hmembers hlisted hsize
  have hsame : types' = types :=
    Except.ok.inj ((answer_eq_ok.mp hmembers).symm.trans (structMembers_of_struct htype))
  subst hsame
  have hsize : module.declaredStructSize (module.elementType resource.typeId) = .ok layout.size :=
    answer_eq_ok.mp hsize
  constructor
  case members =>
    have hlength : types'.length < UInt32.size :=
      Nat.lt_trans (Decoder.length_members_lt_of_readBytes hdecoder hmodule htype) (by decide)
    exact ⟨_, htype, hlength, hlisted.imp fun _ _ => listsMember_of_isMember⟩
  case size_of_empty =>
    intro hempty
    rw [hempty] at hlisted
    obtain rfl : types' = [] := List.zipIdx_eq_nil_iff.mp (List.forall₂_nil_right_iff.mp hlisted)
    exact Except.ok.inj (hsize.symm.trans (declaredStructSize_of_empty htype))
  case size_of_last =>
    intro last hlast
    obtain ⟨hne, type, hmember⟩ := AreMembers.isMember_last hlisted hlast
    obtain ⟨offset, hoffset, hvalue⟩ := hmember.offset
    have hplace : module.memberOffset (module.elementType resource.typeId) (lastIndex types') =
        last.offset.toNat := by
      rw [memberOffset, Except.ok.inj hoffset, hvalue]
    calc
      layout.size.toNat = module.memberEnd _ (lastIndex types') :=
        declaredStructSize_eq_memberEnd htype hne hsize
      _ = last.offset.toNat + last.size.toNat := by
        rw [memberEnd_of_ok (answer_eq_ok.mp hmember.size), hplace]

end Module

/-- The blocks of a reflection are structs of the module, each as its members say. -/
structure Module.SpansBlocks (module : Module) (options : ReflectOptions)
    (reflection : Reflection) : Prop where
  uniformBuffers : (module.reflector options).StandFor .uniformBuffer
    (fun resource buffer => module.Spans options resource ⟨buffer.members, buffer.size⟩)
    reflection.uniformBuffers
  storageBuffers : (module.reflector options).StandFor .storageBuffer
    (fun resource buffer => module.Spans options resource
      ⟨buffer.members.map (·.toBufferMember), buffer.size⟩)
    reflection.storageBuffers
  pushConstants : (module.reflector options).StandFor .pushConstant
    (fun resource block => module.Spans options resource ⟨block.members, block.size⟩)
    reflection.pushConstants

namespace Decoder

/-- Whatever bytes are reflected, each block has the members of its struct, one level deep and in
their order, and ends where the member listed last does. -/
theorem reflect_spansBlocks {decoder : Decoder} (hdecoder : decoder.BoundsOperands)
    {code : List UInt8} {options : ReflectOptions} {reflection : Reflection}
    (hreflection : Reflecting.outcome (decoder.provider.reflect code options) = .ok reflection) :
    ∃ module, (decoder.readBytes code).run.value = .ok module ∧
      module.SpansBlocks options reflection := by
  obtain ⟨module, hmodule, hreflected⟩ := exists_module_of_outcome hreflection
  have hwhole := (module.reflector options).outcome_reflect_eq_ok.mp hreflected
  refine ⟨module, hmodule, ?_⟩
  constructor
  case uniformBuffers =>
    apply (Reflector.standFor_uniformBuffers hwhole.uniformBuffers).imp_mem
    intro resources resource buffer hresources hmem hstruct hbuffer
    exact Module.spans_of_layout hdecoder hmodule hresources hmem hstruct hbuffer.layout
  case storageBuffers =>
    apply (Reflector.standFor_storageBuffers hwhole.storageBuffers).imp_mem
    intro resources resource buffer hresources hmem hstruct hbuffer
    obtain ⟨members, hmembers, hlayout⟩ := hbuffer.layout
    have hsame : buffer.members.map (·.toBufferMember) = members := by
      rw [hmembers, List.map_map]
      exact List.map_id members
    rw [hsame]
    exact Module.spans_of_layout hdecoder hmodule hresources hmem hstruct hlayout
  case pushConstants =>
    apply (Reflector.standFor_pushConstants hwhole.pushConstants).imp_mem
    intro resources resource block hresources hmem hstruct hblock
    exact Module.spans_of_layout hdecoder hmodule hresources hmem hstruct hblock.layout

/-- The bytes of a module with an array of blocks of a vector and a struct. -/
def nestedBlocks : List UInt8 :=
  Word.unpack (Assembler.new.run
    [.typeFloat 32, .typeVector 1 4, .typeStruct [1], .typeStruct [2, 3], .typeInt 32 false,
      .constant32 5 2, .typeArray 4 6, .typePointer StorageClass.uniform 7,
      .var 8 StorageClass.uniform, .decorate 4 Decoration.block [],
      .memberDecorate 4 1 Decoration.offset [16]]).assemble

/-- What there is to report about the module. -/
def nestedReflection : Reflection where
  entryPoint := "none"
  version := ⟨1, 0⟩
  code := nestedBlocks
  uniformBuffers := [{
    name := ""
    slot := ⟨0, 0⟩
    members := [⟨"unnamed", .vec4, 0, 16, 1⟩, ⟨"unnamed", .unknown, 16, 4, 1⟩]
    size := 20 }]

theorem reflect_spansBlocks_nestedBlocks :
    tabulated.BoundsOperands ∧
      Reflecting.outcome (tabulated.provider.reflect nestedBlocks {}) = .ok nestedReflection ∧
      ∃ module, (tabulated.readBytes nestedBlocks).run.value = .ok module ∧
        module.SpansBlocks {} nestedReflection := by
  have hreflection : Reflecting.outcome (tabulated.provider.reflect nestedBlocks {}) =
      .ok nestedReflection := by
    decide +kernel
  exact ⟨tabulated_boundsOperands, hreflection,
    reflect_spansBlocks tabulated_boundsOperands hreflection⟩

end Decoder

end ShaderInterface
