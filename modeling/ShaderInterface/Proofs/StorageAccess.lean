import ShaderInterface.Proofs.StageInputs

/-!
# How storage buffers may be used

A compiler marks the access of a storage buffer either on its variable or on every member of the
block inside it. A module whose storage buffers can be listed always answers how each of them may
be used. Identifiers of variables need not differ: it is the first variable of an identifier whose
block counts. A block without members marks nothing.
-/

namespace ShaderInterface

namespace Reflector

open Reflecting

/-- The access from the two answers about it. -/
theorem outcome_accessOf (reflector : Reflector) {resource : Resource}
    {nonReadable nonWritable : Bool}
    (hread : reflector.module.hasDecoration resource.id Decoration.nonReadable = .ok nonReadable)
    (hwrite : reflector.module.hasDecoration resource.id Decoration.nonWritable =
      .ok nonWritable) :
    (reflector.accessOf resource).outcome =
      .ok (if nonWritable then .readOnly else if nonReadable then .writeOnly else .readWrite) := by
  rw [accessOf, outcome_bind, outcome_ask_eq_ok.mpr hread, ok_bind, outcome_bind,
    outcome_ask_eq_ok.mpr hwrite, ok_bind, outcome_pure]

end Reflector

namespace Module

variable (module : Module)

/-- Inside the arrays of the type there is a struct with members, and all of these carry the
decoration. -/
def MarksMembers (type : Ident) (decoration : Decoration) : Prop :=
  ∃ block members, Relation.ReflTransGen module.Element block type ∧
    module.type? block = some (.struct members) ∧ members ≠ [] ∧
    ∀ index : UInt32, index.toNat < members.length →
      module.hasMemberDecoration block index decoration = true

/-- The decoration is on the variable itself, or on all members of its object of the given type. -/
def IsMarked (id type : Ident) (decoration : Decoration) : Prop :=
  module.hasDecoration id decoration = true ∨ module.MarksMembers type decoration

/-- The access is the one that the marks on a variable and its object ask for. If nothing is
written, it does not matter whether anything is read. -/
structure FollowsMarks (id type : Ident) (access : Access) : Prop where
  readOnly_iff : access = .readOnly ↔ module.IsMarked id type Decoration.nonWritable
  writeOnly_iff : access = .writeOnly ↔ ¬ module.IsMarked id type Decoration.nonWritable ∧
    module.IsMarked id type Decoration.nonReadable
  readWrite_iff : access = .readWrite ↔ ¬ module.IsMarked id type Decoration.nonWritable ∧
    ¬ module.IsMarked id type Decoration.nonReadable

variable {module} {id type : Ident} {var : Variable} {decoration : Decoration}

/-! ## Marks on members -/

theorem all_memberIndices {members : List Ident} {p : UInt32 → Bool} :
    (memberIndices members).all p = true ↔
      ∀ index : UInt32, index.toNat < members.length → p index = true := by
  rw [List.all_eq_not_any_not, Bool.not_eq_true', ← Bool.not_eq_true, any_memberIndices]
  simp only [Bool.not_eq_true', not_exists, not_and, Bool.not_eq_false]

theorem marksMembers_iff_of_struct {members : List Ident}
    (htype : module.type? (module.elementType type) = some (.struct members)) :
    module.MarksMembers type decoration ↔
      (!members.isEmpty && (memberIndices members).all
        (module.hasMemberDecoration (module.elementType type) · decoration)) = true := by
  rw [Bool.and_eq_true, all_memberIndices, Bool.not_eq_true', List.isEmpty_eq_false_iff]
  constructor
  · intro hmarks
    obtain ⟨block, members', hnested, htype', hne, hall⟩ := hmarks
    obtain rfl := elementType_eq_of_nested_struct hnested htype'
    cases htype.symm.trans htype'
    exact ⟨hne, hall⟩
  · intro hmembers
    exact ⟨module.elementType type, members, nested_elementType type, htype, hmembers⟩

theorem not_marksMembers_of_not_struct
    (htype : ∀ members, module.type? (module.elementType type) ≠ some (.struct members)) :
    ¬ module.MarksMembers type decoration := by
  intro hmarks
  obtain ⟨block, members, hnested, hblock, -⟩ := hmarks
  obtain rfl := elementType_eq_of_nested_struct hnested hblock
  exact htype members hblock

/-- The module always knows whether all members are marked, once it knows the object. -/
theorem gives_allMembersDecorated (hvar : module.var? id = some var)
    (hpointee : module.pointee var = .ok type) :
    Gives (fun answer => answer = true ↔ module.MarksMembers type decoration)
      (module.allMembersDecorated id decoration) := by
  simp only [allMembersDecorated, hvar, hpointee, ok_bind]
  split
  next members htype => exact .ok (marksMembers_iff_of_struct htype).symm
  next hother =>
    apply Gives.ok
    simpa using not_marksMembers_of_not_struct hother

theorem gives_carries_isMarked
    (haccess : decoration = Decoration.nonReadable ∨ decoration = Decoration.nonWritable)
    (hvar : module.var? id = some var) (hpointee : module.pointee var = .ok type) :
    Gives (fun answer => answer = true ↔ module.IsMarked id type decoration)
      (module.carries id decoration) := by
  unfold carries IsMarked
  by_cases hdecoration : module.hasDecoration id decoration = true
  · rw [if_pos hdecoration]
    exact .ok (iff_of_true rfl (.inl hdecoration))
  · rw [if_neg hdecoration, if_pos (by simpa using haccess)]
    apply (gives_allMembersDecorated hvar hpointee).mono
    intro answer hanswer
    rw [hanswer, or_iff_right hdecoration]

/-! ## Listed buffers -/

/-- A resource in a list has a variable of its identifier. The first such variable need not be the
one that is listed. -/
theorem exists_var?_of_mem_resources {kind : ResourceKind} {resources : List Resource}
    {resource : Resource} (hresources : module.resources kind = .ok resources)
    (hmem : resource ∈ resources) : ∃ var ∈ module.vars, module.var? resource.id = some var := by
  obtain ⟨placed, hplaced, hresources⟩ := bind_eq_ok.mp hresources
  cases hresources
  obtain ⟨⟨var, type⟩, hentry, hfound⟩ := List.mem_filterMap.mp hmem
  have hvars : module.vars = placed.map Prod.fst := by
    rw [← List.forall₂_eq_eq_eq, List.forall₂_map_right_iff]
    apply (forall₂_placedVariables hplaced).imp
    intro var entry hentry
    exact hentry.1.symm
  have hid : resource.id = var.id := by
    simp only [resource?] at hfound
    split at hfound
    next =>
      cases hfound
      rfl
    next => cases hfound
  cases hfirst : module.var? resource.id with
  | some first => exact ⟨first, List.mem_of_find?_eq_some hfirst, rfl⟩
  | none =>
      have hnone := List.find?_eq_none.mp hfirst var
        (hvars ▸ List.mem_map_of_mem (f := Prod.fst) hentry)
      simp [hid] at hnone

theorem followsMarks_of_answers {nonReadable nonWritable : Bool}
    (hread : nonReadable = true ↔ module.IsMarked id type Decoration.nonReadable)
    (hwrite : nonWritable = true ↔ module.IsMarked id type Decoration.nonWritable) :
    module.FollowsMarks id type
      (if nonWritable then .readOnly else if nonReadable then .writeOnly else .readWrite) := by
  constructor
  case readOnly_iff =>
    rw [← hwrite]
    cases nonWritable <;> cases nonReadable <;> decide
  case writeOnly_iff =>
    rw [← hwrite, ← hread]
    cases nonWritable <;> cases nonReadable <;> decide
  case readWrite_iff =>
    rw [← hwrite, ← hread]
    cases nonWritable <;> cases nonReadable <;> decide

/-- How a listed storage buffer may be used is always known, and it follows the marks on the first
variable of its identifier and on the members of that variable's block. -/
theorem accessOf_followsMarks {resources : List Resource} {resource : Resource}
    (hresources : module.resources .storageBuffer = .ok resources) (hmem : resource ∈ resources)
    (options : ReflectOptions) :
    ∃ var type access, module.var? resource.id = some var ∧ module.pointee var = .ok type ∧
      (Reflector.accessOf ⟨module.introspection, options⟩ resource).outcome = .ok access ∧
      module.FollowsMarks resource.id type access := by
  obtain ⟨var, hvars, hvar⟩ := exists_var?_of_mem_resources hresources hmem
  obtain ⟨type, hpointee⟩ := exists_pointee_of_resources hresources var hvars
  obtain ⟨nonReadable, hread, hmarksRead⟩ := gives_carries_isMarked (.inl rfl) hvar hpointee
  obtain ⟨nonWritable, hwrite, hmarksWrite⟩ := gives_carries_isMarked (.inr rfl) hvar hpointee
  have haccess := Reflector.outcome_accessOf ⟨module.introspection, options⟩
    (answer_eq_ok.mpr hread) (answer_eq_ok.mpr hwrite)
  exact ⟨var, type, _, hvar, hpointee, haccess, followsMarks_of_answers hmarksRead hmarksWrite⟩

/-- Two storage buffers under one identifier. The first is an array of blocks whose members are all
marked as not written, and one of them also as not read; the second has no members. -/
def sharedIdentifier : Module where
  types := .ofRows [(1, .float 32), (3, .int 32 false), (4, .struct [1, 1]), (5, .array 4 2),
    (6, .runtimeArray 5), (7, .pointer StorageClass.storageBuffer 6), (8, .struct []),
    (9, .pointer StorageClass.storageBuffer 8)]
  constants := .ofRows [(2, 3)]
  vars := [{ id := 20, type := 7, storageClass := StorageClass.storageBuffer },
    { id := 20, type := 9, storageClass := StorageClass.storageBuffer }]
  memberDecorations := .ofRows [((4, 0, Decoration.nonWritable), []),
    ((4, 1, Decoration.nonWritable), []), ((4, 1, Decoration.nonReadable), [])]

/-- The second buffer may only be read, as its identifier belongs to the first one. -/
theorem accessOf_followsMarks_sharedIdentifier :
    sharedIdentifier.resources .storageBuffer = .ok [⟨20, 6, 4, ""⟩, ⟨20, 8, 8, ""⟩] ∧
      (Reflector.accessOf ⟨sharedIdentifier.introspection, {}⟩ ⟨20, 8, 8, ""⟩).outcome =
        .ok .readOnly ∧
      sharedIdentifier.FollowsMarks 20 6 .readOnly := by
  have hresources : sharedIdentifier.resources .storageBuffer =
      .ok [⟨20, 6, 4, ""⟩, ⟨20, 8, 8, ""⟩] := rfl
  have hreadOnly : (Reflector.accessOf ⟨sharedIdentifier.introspection, {}⟩
      ⟨20, 8, 8, ""⟩).outcome = .ok .readOnly := rfl
  have hfirst : sharedIdentifier.var? 20 =
      some { id := 20, type := 7, storageClass := StorageClass.storageBuffer } := rfl
  obtain ⟨var, type, access, hvar, hpointee, haccess, hmarks⟩ :=
    accessOf_followsMarks hresources (List.mem_cons_of_mem _ (List.mem_singleton_self _)) {}
  cases hfirst.symm.trans hvar
  have hobject : sharedIdentifier.pointee
      { id := 20, type := 7, storageClass := StorageClass.storageBuffer } = .ok 6 := rfl
  cases hobject.symm.trans hpointee
  cases hreadOnly.symm.trans haccess
  exact ⟨hresources, hreadOnly, hmarks⟩

end Module

end ShaderInterface
