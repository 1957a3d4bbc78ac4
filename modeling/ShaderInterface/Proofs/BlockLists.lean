import ShaderInterface.Introspection.Tabulated
import ShaderInterface.Proofs.Notes

/-!
# The lists of blocks

The buffers and push constant blocks that are listed stand one by one for the structs among a
module's resources, in their order, each with its own layout and slot. A resource that is no struct
leaves nothing behind but a note. All resources of a category make one note each, in their order.
-/

namespace ShaderInterface

/-- The note that a resource is passed over. -/
def Resource.skipNote (resource : Resource) (kind : ResourceKind) : Entry :=
  ⟨.debug, s!"skipping {resource.describe kind}: not backed by a struct"⟩

namespace Reflector

open Reflecting

variable (reflector : Reflector)

/-- The slot is the one that decorates the resource. A number that is missing is 0. -/
structure IsBoundTo (resource : Resource) (slot : Slot) : Prop where
  set : ∃ set, reflector.module.decoration resource.id Decoration.descriptorSet = .ok set ∧
    slot.set = set.getD 0
  binding : ∃ binding, reflector.module.decoration resource.id Decoration.binding = .ok binding ∧
    slot.binding = binding.getD 0

/-- What is noted about a resource that may be a block: of a struct that it was laid out, of
anything else that it is passed over. -/
def IsNoteOn (kind : ResourceKind) (resource : Resource) (entry : Entry) : Prop :=
  if reflector.isStruct resource then
    entry.level = .trace ∧ (reflector.layout resource.baseTypeId).notes = [entry]
  else entry = resource.skipNote kind

/-- The entries stand for the structs among the resources of a category, one by one and in their
order. The shape of each resource is known, and each makes one note. -/
def ListsBlocks {α : Type} (kind : ResourceKind) (relation : Resource → α → Prop)
    (entries : List α) (notes : List Entry) : Prop :=
  ∃ resources, reflector.module.resources kind = .ok resources ∧
    (∀ resource ∈ resources, ∃ info, reflector.module.typeInfo resource.typeId = .ok info) ∧
    List.Forall₂ relation (resources.filter reflector.isStruct) entries ∧
    List.Forall₂ (reflector.IsNoteOn kind) resources notes

variable {reflector}

/-! ## Slots -/

theorem outcome_decorationOf_eq_ok {kind : ResourceKind} {resource : Resource}
    {decoration : Decoration} {value : UInt32} :
    (reflector.decorationOf kind resource decoration).outcome = .ok value ↔
      ∃ found, reflector.module.decoration resource.id decoration = .ok found ∧
        value = found.getD 0 := by
  rw [decorationOf, outcome_bind, bind_eq_ok]
  simp only [outcome_ask_eq_ok, outcome_pure, Except.ok.injEq, eq_comm (a := value)]

theorem outcome_slotOf_eq_ok {kind : ResourceKind} {resource : Resource} {slot : Slot} :
    (reflector.slotOf kind resource).outcome = .ok slot ↔ reflector.IsBoundTo resource slot := by
  simp only [slotOf, outcome_bind, bind_eq_ok, outcome_decorationOf_eq_ok, outcome_pure]
  constructor
  · rintro ⟨set, hset, binding, hbinding, hslot⟩
    cases hslot
    exact ⟨hset, hbinding⟩
  · rintro ⟨hset, hbinding⟩
    exact ⟨slot.set, hset, slot.binding, hbinding, rfl⟩

/-! ## Notes -/

/-- A resource that may be a block has a known shape and makes one note. -/
theorem notes_block? {kind : ResourceKind} {resource : Resource} {found : Option Block}
    (hfound : (reflector.block? kind resource).outcome = .ok found) :
    ∃ entry, ((∃ info, reflector.module.typeInfo resource.typeId = .ok info) ∧
        reflector.IsNoteOn kind resource entry) ∧
      (reflector.block? kind resource).notes = [entry] := by
  unfold block? typeInfoOf at hfound ⊢
  rw [outcome_bind] at hfound
  obtain ⟨info, hinfo, hfound⟩ := bind_eq_ok.mp hfound
  have hshape := outcome_ask_eq_ok.mp hinfo
  rw [(silent_ask _ _).notes_bind_of_ok hinfo]
  by_cases hbase : info.base = .struct
  · have hstruct : reflector.isStruct resource = true := by simp [isStruct, hshape, hbase]
    rw [if_pos hbase, outcome_bind] at hfound
    obtain ⟨layout, hlayout, -⟩ := bind_eq_ok.mp hfound
    obtain ⟨text, hnotes⟩ := notes_layout hlayout
    refine ⟨⟨.trace, text⟩, ⟨⟨info, hshape⟩, ?_⟩, ?_⟩
    · rw [IsNoteOn, if_pos hstruct]
      exact ⟨rfl, hnotes⟩
    · rw [if_pos hbase, notes_bind_of_ok hlayout, hnotes]
      rfl
  · have hstruct : ¬ reflector.isStruct resource = true := by simp [isStruct, hshape, hbase]
    refine ⟨resource.skipNote kind, ⟨⟨info, hshape⟩, ?_⟩, ?_⟩
    · rw [IsNoteOn, if_neg hstruct]
    · rw [if_neg hbase]
      rfl

theorem notes_blocks {kind : ResourceKind} {blocks : List Block}
    (hblocks : (reflector.blocks kind).outcome = .ok blocks) :
    ∃ resources, reflector.module.resources kind = .ok resources ∧
      (∀ resource ∈ resources, ∃ info,
        reflector.module.typeInfo resource.typeId = .ok info) ∧
      List.Forall₂ (reflector.IsNoteOn kind) resources (reflector.blocks kind).notes := by
  unfold Reflector.blocks listed at hblocks ⊢
  rw [outcome_bind] at hblocks
  obtain ⟨resources, hresources, hblocks⟩ := bind_eq_ok.mp hblocks
  rw [outcome_bind] at hblocks
  obtain ⟨found, hfound, -⟩ := bind_eq_ok.mp hblocks
  refine ⟨resources, outcome_ask_eq_ok.mp hresources, ?_⟩
  rw [(silent_ask _ _).notes_bind_of_ok hresources, notes_bind_of_ok hfound, notes_pure,
    List.append_nil, ← List.forall₂_and_left]
  exact forall₂_notes_of_mapM (fun _ _ => notes_block?) hfound

/-! ## Lists -/

/-- Putting together what is listed notes nothing, so all notes of a category are about its
resources. -/
theorem listsBlocks_of_standFor {α : Type} {kind : ResourceKind}
    {relation : Resource → α → Prop} {make : List Block → Reflecting (List α)} {entries : List α}
    (hsilent : ∀ blocks, Silent (make blocks))
    (hentries : (reflector.blocks kind >>= make).outcome = .ok entries)
    (hall : reflector.StandFor kind relation entries) :
    reflector.ListsBlocks kind relation entries (reflector.blocks kind >>= make).notes := by
  rw [outcome_bind] at hentries
  obtain ⟨blocks, hblocks, -⟩ := bind_eq_ok.mp hentries
  obtain ⟨resources, hresources, hall⟩ := hall
  obtain ⟨resources', hresources', hshapes, hnotes⟩ := notes_blocks hblocks
  cases hresources.symm.trans hresources'
  refine ⟨resources, hresources, hshapes, hall, ?_⟩
  rw [notes_bind_of_ok hblocks, show (make blocks).notes = [] from hsilent blocks, List.append_nil]
  exact hnotes

/-- Whatever module is asked, a category of blocks that is listed stands for its structs. Each entry
has the layout of the struct and the slot that decorates the resource, a storage buffer also has the
names of its variable and its type, and everything else that the module lists leaves one note. -/
theorem blocks_listed (reflector : Reflector) :
    (∀ buffers, reflector.uniformBuffers.outcome = .ok buffers →
      reflector.ListsBlocks .uniformBuffer
        (fun resource buffer => reflector.IsUniformBuffer resource buffer ∧
          reflector.IsBoundTo resource buffer.slot)
        buffers reflector.uniformBuffers.notes) ∧
    (∀ buffers, reflector.storageBuffers.outcome = .ok buffers →
      reflector.ListsBlocks .storageBuffer
        (fun resource buffer => reflector.IsStorageBuffer resource buffer ∧
          reflector.IsBoundTo resource buffer.slot)
        buffers reflector.storageBuffers.notes) ∧
    ∀ blocks, reflector.pushConstants.outcome = .ok blocks →
      reflector.ListsBlocks .pushConstant reflector.IsPushConstant blocks
        reflector.pushConstants.notes := by
  refine ⟨?_, ?_, ?_⟩
  · intro buffers hbuffers
    apply listsBlocks_of_standFor _ hbuffers
    · apply (standFor_uniformBuffers hbuffers).imp
      intro resource buffer hbuffer
      exact ⟨hbuffer, outcome_slotOf_eq_ok.mp hbuffer.slot⟩
    · apply Silent.mapM
      intro block
      exact (reflector.silent_slotOf _ _).bind fun _ => silent_pure _
  · intro buffers hbuffers
    apply listsBlocks_of_standFor _ hbuffers
    · apply (standFor_storageBuffers hbuffers).imp
      intro resource buffer hbuffer
      exact ⟨hbuffer, outcome_slotOf_eq_ok.mp hbuffer.slot⟩
    · apply Silent.mapM
      intro block
      exact (reflector.silent_slotOf _ _).bind fun _ =>
        (reflector.silent_accessOf _).bind fun _ => silent_pure _
  · intro blocks hblocks
    exact listsBlocks_of_standFor (fun _ => silent_pure _) hblocks
      (standFor_pushConstants hblocks)

/-- A module whose lists have a loose value before, between or after their blocks. Not every block
has a slot or a name. -/
def looseResources : TabulatedModule where
  resources := [(.uniformBuffer, ⟨3, 1, 1, "loose"⟩), (.storageBuffer, ⟨4, 2, 2, "particles"⟩),
    (.uniformBuffer, ⟨5, 2, 2, "Globals"⟩), (.storageBuffer, ⟨6, 1, 1, ""⟩),
    (.storageBuffer, ⟨7, 2, 2, ""⟩), (.pushConstant, ⟨8, 2, 2, "push"⟩),
    (.pushConstant, ⟨9, 1, 1, ""⟩)]
  types := .ofRows [(1, ⟨.float32, 1, 1, [], 1, none⟩), (2, ⟨.struct, 1, 1, [], 2, none⟩)]
  members := .ofRows [(2, [1])]
  names := .ofRows [(2, "Globals"), (4, "particles")]
  decorations := .ofRows [((4, Decoration.binding), some 1),
    ((5, Decoration.descriptorSet), some 2), ((5, Decoration.binding), some 5),
    ((7, Decoration.nonWritable), none)]
  structSizes := .ofRows [(2, 4)]
  memberSizes := .ofRows [((2, 0), 4)]

/-- The module under reflection. -/
def looseReflector : Reflector where
  module := looseResources.introspection

/-- The member of every block of the module. -/
def looseMember : BufferMember :=
  ⟨"unnamed", .float, 0, 4, 1⟩

theorem blocks_listed_looseResources :
    looseReflector.ListsBlocks .uniformBuffer
        (fun resource buffer => looseReflector.IsUniformBuffer resource buffer ∧
          looseReflector.IsBoundTo resource buffer.slot)
        [⟨"Globals", ⟨2, 5⟩, [looseMember], 4⟩] looseReflector.uniformBuffers.notes ∧
      looseReflector.ListsBlocks .storageBuffer
        (fun resource buffer => looseReflector.IsStorageBuffer resource buffer ∧
          looseReflector.IsBoundTo resource buffer.slot)
        [⟨"particles", "Globals", ⟨0, 1⟩, 4, .readWrite, [looseMember.toStorage]⟩,
          ⟨"", "Globals", ⟨0, 0⟩, 4, .readOnly, [looseMember.toStorage]⟩]
        looseReflector.storageBuffers.notes ∧
      looseReflector.ListsBlocks .pushConstant looseReflector.IsPushConstant
        [⟨"push", [looseMember], 4⟩] looseReflector.pushConstants.notes := by
  obtain ⟨huniform, hstorage, hpush⟩ := blocks_listed looseReflector
  refine ⟨huniform _ ?_, hstorage _ ?_, hpush _ ?_⟩
  all_goals decide +kernel

end Reflector

end ShaderInterface
