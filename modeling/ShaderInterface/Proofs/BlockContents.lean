import ShaderInterface.Proofs.Alike
import ShaderInterface.Reflection.Reflect

/-!
# What blocks are made of

A block that is reflected consists of answers of the module. Each of its members is put together
from the answers about the member of that number, its size is the module's answer about the whole
struct, and the blocks of a category stand for its structs in the order in which the module lists
them. All this holds for any module that can be asked.
-/

namespace ShaderInterface

open Reflecting

theorem forall₂_trans {α β γ : Type} {R : α → β → Prop} {S : β → γ → Prop} {T : α → γ → Prop}
    {as : List α} {bs : List β} {cs : List γ} (hfirst : List.Forall₂ R as bs)
    (hsecond : List.Forall₂ S bs cs) (hstep : ∀ a b c, R a b → S b c → T a c) :
    List.Forall₂ T as cs := by
  induction hfirst generalizing cs with
  | nil =>
      cases hsecond
      exact .nil
  | cons hhead _ ih =>
      cases hsecond with
      | cons hnext htail => exact .cons (hstep _ _ _ hhead hnext) (ih htail)

/-- Two lists that stand for each other can be taken for each other. -/
theorem forall₂_iff_of_forall₂ {α β γ : Type} {R : α → β → Prop} {S : β → γ → Prop}
    {T : α → γ → Prop} {as : List α} {bs : List β} {cs : List γ} (hall : List.Forall₂ R as bs)
    (hsame : ∀ a b c, R a b → (S b c ↔ T a c)) :
    List.Forall₂ S bs cs ↔ List.Forall₂ T as cs := by
  constructor
  · intro hright
    exact forall₂_trans hall hright fun a b c hrelated => (hsame a b c hrelated).mp
  · intro hleft
    exact forall₂_trans hall.flip hleft fun b a c hrelated => (hsame a b c hrelated).mpr

theorem exists_of_forall₂_of_mem {α β : Type} {R : α → β → Prop} {as : List α} {bs : List β}
    (hall : List.Forall₂ R as bs) {b : β} (hmem : b ∈ bs) : ∃ a ∈ as, R a b := by
  induction hall with
  | nil => exact absurd hmem List.not_mem_nil
  | cons hhead _ ih =>
      rcases List.mem_cons.mp hmem with rfl | hmem
      · exact ⟨_, List.mem_cons_self, hhead⟩
      · obtain ⟨a, ha, hrelated⟩ := ih hmem
        exact ⟨a, List.mem_cons_of_mem _ ha, hrelated⟩

namespace Reflector

variable (reflector : Reflector)

/-- The member is made of the answers about member number `index` of the struct `id`, which has the
given type. -/
structure IsMember (id : Ident) (index : UInt32) (type : Ident) (member : BufferMember) :
    Prop where
  name : member.name = reflector.memberName id index
  shape : ∃ info, reflector.module.typeInfo type = .ok info ∧ member.dataType = info.dataType ∧
    member.arrayLength = info.arrayLength
  offset : ∃ offset, reflector.module.memberDecoration id index Decoration.offset = .ok offset ∧
    member.offset = offset.getD 0
  size : reflector.module.declaredMemberSize id index = .ok member.size

/-- The members are made of the answers about the members of the struct `id` that have the given
types, one by one and counted from number `first`. -/
def AreMembers (id : Ident) (first : Nat) (types : List Ident) (members : List BufferMember) :
    Prop :=
  List.Forall₂ (fun entry member => reflector.IsMember id entry.2.toUInt32 entry.1 member)
    (types.zipIdx first) members

/-- The layout describes the struct `id`, whose members have the given types. -/
structure IsLayout (id : Ident) (types : List Ident) (layout : BlockLayout) : Prop where
  memberTypes : reflector.module.memberTypes id = .ok types
  members : reflector.AreMembers id 0 types layout.members
  size : reflector.module.declaredStructSize id = .ok layout.size

/-- The shape of the resource is known, and it is that of a struct. -/
def isStruct (resource : Resource) : Bool :=
  match reflector.module.typeInfo resource.typeId with
  | .ok info => info.base = .struct
  | .error _ => false

/-- The entries stand for the structs among the resources of a category, one by one and in their
order. -/
def StandFor {α : Type} (kind : ResourceKind) (relation : Resource → α → Prop)
    (entries : List α) : Prop :=
  ∃ resources, reflector.module.resources kind = .ok resources ∧
    List.Forall₂ relation (resources.filter reflector.isStruct) entries

/-- The resource as a block, laid out. -/
structure IsBlock (resource : Resource) (block : Block) : Prop where
  eq : block.resource = resource
  layout : (reflector.layout resource.baseTypeId).outcome = .ok block.layout

/-- The resource as a uniform buffer. -/
structure IsUniformBuffer (resource : Resource) (buffer : UniformBuffer) : Prop where
  name : buffer.name = resource.name
  slot : (reflector.slotOf .uniformBuffer resource).outcome = .ok buffer.slot
  layout : (reflector.layout resource.baseTypeId).outcome = .ok ⟨buffer.members, buffer.size⟩

/-- The resource as a storage buffer. -/
structure IsStorageBuffer (resource : Resource) (buffer : StorageBuffer) : Prop where
  variableName : buffer.variableName = (reflector.module.name resource.id).getD ""
  typeName : buffer.typeName = (reflector.module.name resource.baseTypeId).getD ""
  slot : (reflector.slotOf .storageBuffer resource).outcome = .ok buffer.slot
  access : (reflector.accessOf resource).outcome = .ok buffer.access
  layout : ∃ members, buffer.members = members.map BufferMember.toStorage ∧
    (reflector.layout resource.baseTypeId).outcome = .ok ⟨members, buffer.size⟩

/-- The resource as a push constant block. -/
structure IsPushConstant (resource : Resource) (block : PushConstantBlock) : Prop where
  name : block.name = resource.name
  layout : (reflector.layout resource.baseTypeId).outcome = .ok ⟨block.members, block.size⟩

variable {reflector}

/-- What is known of a resource helps to describe what stands for it. -/
theorem StandFor.imp_mem {α : Type} {kind : ResourceKind}
    {relation relation' : Resource → α → Prop} {entries : List α}
    (hentries : reflector.StandFor kind relation entries)
    (himp : ∀ resources resource entry, reflector.module.resources kind = .ok resources →
      resource ∈ resources → reflector.isStruct resource = true → relation resource entry →
      relation' resource entry) :
    reflector.StandFor kind relation' entries := by
  obtain ⟨resources, hresources, hall⟩ := hentries
  have hmem : ∀ resource ∈ resources.filter reflector.isStruct,
      resource ∈ resources ∧ reflector.isStruct resource = true :=
    fun resource => List.mem_filter.mp
  refine ⟨resources, hresources, ((List.forall₂_and_left _ _).mpr ⟨hmem, hall⟩).imp ?_⟩
  intro resource entry hentry
  obtain ⟨⟨hmem, hstruct⟩, hrelation⟩ := hentry
  exact himp resources resource entry hresources hmem hstruct hrelation

theorem StandFor.imp {α : Type} {kind : ResourceKind} {relation relation' : Resource → α → Prop}
    {entries : List α} (hentries : reflector.StandFor kind relation entries)
    (himp : ∀ resource entry, relation resource entry → relation' resource entry) :
    reflector.StandFor kind relation' entries :=
  hentries.imp_mem fun _ resource entry _ _ _ => himp resource entry

/-! ## Layouts -/

theorem outcome_member_eq_ok {id : Ident} {structLabel : String} {index : UInt32} {type : Ident}
    {member : BufferMember} :
    (reflector.member id structLabel index type).outcome = .ok member ↔
      reflector.IsMember id index type member := by
  simp only [Reflector.member, outcome_bind, bind_eq_ok, outcome_ask_eq_ok, outcome_pure]
  constructor
  · rintro ⟨info, hinfo, offset, hoffset, size, hsize, hmember⟩
    cases hmember
    exact ⟨rfl, ⟨info, hinfo, rfl, rfl⟩, ⟨offset, hoffset, rfl⟩, hsize⟩
  · intro hmember
    obtain ⟨hname, ⟨info, hinfo, hdataType, harrayLength⟩, ⟨offset, hoffset, hvalue⟩, hsize⟩ :=
      hmember
    refine ⟨info, hinfo, offset, hoffset, member.size, hsize, ?_⟩
    rw [← hname, ← hdataType, ← harrayLength, ← hvalue]

theorem outcome_membersFrom_eq_ok {id : Ident} {structLabel : String} {first : Nat}
    {types : List Ident} {members : List BufferMember} :
    (reflector.membersFrom id structLabel first types).outcome = .ok members ↔
      reflector.AreMembers id first types members := by
  induction types generalizing first members with
  | nil => simp [membersFrom, AreMembers, eq_comm]
  | cons type types ih =>
      simp only [membersFrom, outcome_bind, bind_eq_ok, outcome_member_eq_ok, ih, outcome_pure,
        Except.ok.injEq, AreMembers, List.zipIdx_cons, List.forall₂_cons_left_iff]
      constructor
      · rintro ⟨member, hmember, rest, hrest, heq⟩
        exact ⟨member, rest, hmember, hrest, heq.symm⟩
      · rintro ⟨member, rest, hmember, hrest, heq⟩
        exact ⟨member, hmember, rest, hrest, heq.symm⟩

/-- Laying out a type succeeds if the struct inside its arrays can be described. -/
theorem outcome_layout_eq_ok {type : Ident} {layout : BlockLayout} :
    (reflector.layout type).outcome = .ok layout ↔
      ∃ info types, reflector.module.typeInfo type = .ok info ∧
        reflector.IsLayout info.baseTypeId types layout := by
  simp only [Reflector.layout, outcome_bind, bind_eq_ok, outcome_ask_eq_ok,
    outcome_membersFrom_eq_ok, outcome_note, ok_bind, outcome_pure]
  constructor
  · rintro ⟨info, hinfo, types, htypes, members, hmembers, size, hsize, hlayout⟩
    cases hlayout
    exact ⟨info, types, hinfo, htypes, hmembers, hsize⟩
  · rintro ⟨info, types, hinfo, htypes, hmembers, hsize⟩
    exact ⟨info, hinfo, types, htypes, layout.members, hmembers, layout.size, hsize, rfl⟩

/-! ## Categories -/

/-- What becomes of a resource that may be a block. -/
theorem isBlock_of_block? {kind : ResourceKind} {resource : Resource} {found : Option Block}
    (hfound : (reflector.block? kind resource).outcome = .ok found) :
    Option.Rel reflector.IsBlock (Option.guard reflector.isStruct resource) found := by
  rw [block?, outcome_bind] at hfound
  obtain ⟨info, hinfo, hfound⟩ := bind_eq_ok.mp hfound
  have hinfo := outcome_ask_eq_ok.mp hinfo
  by_cases hbase : info.base = .struct
  · have hstruct : reflector.isStruct resource = true := by simp [isStruct, hinfo, hbase]
    rw [if_pos hbase, outcome_bind] at hfound
    obtain ⟨layout, hlayout, hfound⟩ := bind_eq_ok.mp hfound
    cases hfound
    rw [Option.guard, if_pos hstruct]
    exact .some ⟨rfl, hlayout⟩
  · have hstruct : ¬ reflector.isStruct resource = true := by simp [isStruct, hinfo, hbase]
    rw [if_neg hbase] at hfound
    cases hfound
    rw [Option.guard, if_neg hstruct]
    exact .none

theorem standFor_blocks {kind : ResourceKind} {blocks : List Block}
    (hblocks : (reflector.blocks kind).outcome = .ok blocks) :
    reflector.StandFor kind reflector.IsBlock blocks := by
  simp only [Reflector.blocks, outcome_bind, outcome_mapM, outcome_pure] at hblocks
  obtain ⟨resources, hresources, hblocks⟩ := bind_eq_ok.mp hblocks
  obtain ⟨found, hfound, hblocks⟩ := bind_eq_ok.mp hblocks
  cases hblocks
  refine ⟨resources, outcome_ask_eq_ok.mp hresources, ?_⟩
  rw [← List.filterMap_eq_filter]
  apply List.rel_filterMap _ (Alike.forall₂_of_mapM hfound)
  intro resource found hblock
  exact isBlock_of_block? hblock

/-- What is made of each block of a category stands for its structs too. -/
theorem standFor_of_mapM {α : Type} {kind : ResourceKind} {make : Block → Reflecting α}
    {relation : Resource → α → Prop} {entries : List α}
    (hentries : (do (← reflector.blocks kind).mapM make).outcome = .ok entries)
    (hstep : ∀ resource block entry, reflector.IsBlock resource block →
      (make block).outcome = .ok entry → relation resource entry) :
    reflector.StandFor kind relation entries := by
  rw [outcome_bind] at hentries
  obtain ⟨blocks, hblocks, hentries⟩ := bind_eq_ok.mp hentries
  rw [outcome_mapM] at hentries
  obtain ⟨resources, hresources, hall⟩ := standFor_blocks hblocks
  refine ⟨resources, hresources, ?_⟩
  exact forall₂_trans hall (Alike.forall₂_of_mapM hentries) hstep

theorem standFor_uniformBuffers {buffers : List UniformBuffer}
    (hbuffers : reflector.uniformBuffers.outcome = .ok buffers) :
    reflector.StandFor .uniformBuffer reflector.IsUniformBuffer buffers := by
  apply standFor_of_mapM hbuffers
  intro resource block buffer hblock hbuffer
  obtain ⟨rfl, hlayout⟩ := hblock
  rw [uniformBuffer, outcome_bind] at hbuffer
  obtain ⟨slot, hslot, hbuffer⟩ := bind_eq_ok.mp hbuffer
  cases hbuffer
  exact ⟨rfl, hslot, hlayout⟩

theorem standFor_storageBuffers {buffers : List StorageBuffer}
    (hbuffers : reflector.storageBuffers.outcome = .ok buffers) :
    reflector.StandFor .storageBuffer reflector.IsStorageBuffer buffers := by
  apply standFor_of_mapM hbuffers
  intro resource block buffer hblock hbuffer
  obtain ⟨rfl, hlayout⟩ := hblock
  simp only [storageBuffer, outcome_bind, outcome_pure] at hbuffer
  obtain ⟨slot, hslot, hbuffer⟩ := bind_eq_ok.mp hbuffer
  obtain ⟨access, haccess, hbuffer⟩ := bind_eq_ok.mp hbuffer
  cases hbuffer
  exact ⟨rfl, rfl, hslot, haccess, block.layout.members, rfl, hlayout⟩

theorem standFor_pushConstants {blocks : List PushConstantBlock}
    (hblocks : reflector.pushConstants.outcome = .ok blocks) :
    reflector.StandFor .pushConstant reflector.IsPushConstant blocks := by
  rw [pushConstants, outcome_bind] at hblocks
  obtain ⟨found, hfound, hblocks⟩ := bind_eq_ok.mp hblocks
  cases hblocks
  obtain ⟨resources, hresources, hall⟩ := standFor_blocks hfound
  refine ⟨resources, hresources, ?_⟩
  rw [List.forall₂_map_right_iff]
  apply hall.imp
  intro resource block hblock
  obtain ⟨rfl, hlayout⟩ := hblock
  exact ⟨rfl, hlayout⟩

end Reflector

end ShaderInterface
