import ShaderInterface.Proofs.DeclaredSize

/-!
# Which members a struct size covers

The size of a struct is the end of the member declared last. It covers all members if none ends
after that one, as when members lie in the order of their declaration. A member declared earlier
may lie behind the last one, and is then cut off.
-/

namespace ShaderInterface.Module

variable (module : Module)

/-- The place of a member in its struct; one without a declared offset is at the beginning. -/
def memberOffset (id : Ident) (index : UInt32) : Nat :=
  ((module.memberDecorationValue? id index Decoration.offset).getD 0).toNat

/-- The end of a member. A member without a size ends where it starts. -/
def memberEnd (id : Ident) (index : UInt32) : Nat :=
  module.memberOffset id index +
    match module.declaredMemberSize id index with
    | .ok size => size.toNat
    | .error _ => 0

/-- No member that has a size ends beyond the given one. -/
def Covers (id : Ident) (size : UInt32) : Prop :=
  ∀ index memberSize, module.declaredMemberSize id index = .ok memberSize →
    module.memberOffset id index + memberSize.toNat ≤ size.toNat

/-- The index of the member declared last. -/
def lastIndex (members : List Ident) : UInt32 :=
  (members.length - 1).toUInt32

/-- Members can be counted by words, and each starts no earlier than the one declared before it
ends. -/
structure InOrder (id : Ident) (members : List Ident) : Prop where
  length_le : members.length ≤ UInt32.size
  le_next : ∀ index, index + 1 < members.length →
    module.memberEnd id index.toUInt32 ≤ module.memberOffset id (index + 1).toUInt32

variable {module} {id : Ident} {members : List Ident}

theorem memberOffset_le_memberEnd (index : UInt32) :
    module.memberOffset id index ≤ module.memberEnd id index :=
  Nat.le_add_right _ _

theorem memberEnd_of_ok {index size : UInt32}
    (hsize : module.declaredMemberSize id index = .ok size) :
    module.memberEnd id index = module.memberOffset id index + size.toNat := by
  rw [memberEnd, hsize]

theorem exists_struct_of_declaredStructSize {size : UInt32}
    (hsize : module.declaredStructSize id = .ok size) :
    ∃ members, module.type? id = some (.struct members) := by
  obtain ⟨members, hmembers, -⟩ := bind_eq_ok.mp hsize
  obtain ⟨decl, hdecl, hstruct⟩ := bind_eq_ok.mp hmembers
  cases htype : module.type? id with
  | none => simp [typeOf_of_none htype] at hdecl
  | some declared =>
      obtain rfl : declared = decl := by simpa [typeOf_of_some htype] using hdecl
      cases declared with
      | struct members => exact ⟨members, rfl⟩
      | _ => simp at hstruct

/-- A struct with members ends where the last of them does. -/
theorem declaredStructSize_eq_memberEnd (htype : module.type? id = some (.struct members))
    (hmembers : members ≠ []) {size : UInt32}
    (hsize : module.declaredStructSize id = .ok size) :
    size.toNat = module.memberEnd id (lastIndex members) := by
  have hempty : members.isEmpty = false := by simpa using hmembers
  simp only [declaredStructSize, structSizeBy, structMembers, typeOf_of_some htype, ok_bind,
    pure_eq_ok, hempty] at hsize
  obtain ⟨lastSize, hlast, hfits⟩ := bind_eq_ok.mp hsize
  rw [lastIndex, memberEnd_of_ok hlast]
  exact fits_eq_ok.mp hfits

theorem lt_length_of_declaredMemberSize (htype : module.type? id = some (.struct members))
    {index size : UInt32} (hsize : module.declaredMemberSize id index = .ok size) :
    index.toNat < members.length := by
  by_contra hlarge
  have hnone : members[index.toNat]? = none := List.getElem?_eq_none (Nat.not_lt.mp hlarge)
  simp [declaredMemberSize, memberSizeBy, structMembers, typeOf_of_some htype, hnone] at hsize

/-- Members in order end one after the other. -/
theorem InOrder.memberEnd_le (horder : module.InOrder id members) {index last : Nat}
    (hle : index ≤ last) (hlast : last < members.length) :
    module.memberEnd id index.toUInt32 ≤ module.memberEnd id last.toUInt32 := by
  induction last, hle using Nat.le_induction with
  | base => exact Nat.le_refl _
  | succ last hle ih =>
      calc
        module.memberEnd id index.toUInt32 ≤ module.memberEnd id last.toUInt32 :=
          ih (Nat.lt_of_succ_lt hlast)
        _ ≤ module.memberOffset id (last + 1).toUInt32 := horder.le_next last hlast
        _ ≤ module.memberEnd id (last + 1).toUInt32 := memberOffset_le_memberEnd _

/-- A struct size covers the members exactly if no member ends after the one declared last. It
does if the members are in order. -/
theorem covers_iff_le_last (module : Module) (id : Ident) (size : UInt32)
    (hsize : module.declaredStructSize id = .ok size) :
    ∃ members, module.type? id = some (.struct members) ∧
      (module.Covers id size ↔ ∀ index memberSize,
        module.declaredMemberSize id index = .ok memberSize →
          module.memberEnd id index ≤ module.memberEnd id (lastIndex members)) ∧
      (module.InOrder id members → module.Covers id size) := by
  obtain ⟨members, htype⟩ := exists_struct_of_declaredStructSize hsize
  have hcovers : module.Covers id size ↔ ∀ index memberSize,
      module.declaredMemberSize id index = .ok memberSize →
        module.memberEnd id index ≤ module.memberEnd id (lastIndex members) := by
    refine forall_congr' fun index => forall_congr' fun memberSize =>
      forall_congr' fun hmember => ?_
    have hindex := lt_length_of_declaredMemberSize htype hmember
    have hmembers : members ≠ [] := List.ne_nil_of_length_pos (Nat.zero_lt_of_lt hindex)
    rw [declaredStructSize_eq_memberEnd htype hmembers hsize, memberEnd_of_ok hmember]
  refine ⟨members, htype, hcovers, ?_⟩
  intro horder
  rw [hcovers]
  -- only members that exist have sizes, and the last one is reached through their order
  intro index memberSize hmember
  have hindex := lt_length_of_declaredMemberSize htype hmember
  have hle := horder.memberEnd_le (Nat.le_sub_one_of_lt hindex) (by omega)
  rwa [Nat.toUInt32_eq, UInt32.ofNat_toNat] at hle

/-- The size of the padded block covers its members, which are in order. -/
theorem paddedBlock_covers :
    paddedBlock.declaredStructSize 7 = .ok 128 ∧ paddedBlock.Covers 7 128 := by
  have hsize : paddedBlock.declaredStructSize 7 = .ok 128 := rfl
  obtain ⟨members, htype, -, hcovers⟩ := covers_iff_le_last paddedBlock 7 128 hsize
  obtain rfl : [1, 3, 6] = members := by
    simpa [paddedBlock, type?, Table.get?, Table.ofRows] using htype
  refine ⟨hsize, hcovers ⟨by decide, ?_⟩⟩
  intro index hindex
  rcases index with _ | _ | index
  · decide
  · decide
  · simp only [List.length_cons, List.length_nil] at hindex
    omega

/-- A block of two numbers, the one declared first behind the other. -/
def swappedBlock : Module where
  types := .ofRows [(1, .float 32), (2, .struct [1, 1])]
  memberDecorations := .ofRows [((2, 0, Decoration.offset), [4]), ((2, 1, Decoration.offset), [0])]

/-- A member behind the one declared last is not covered. -/
theorem swappedBlock_not_covers :
    swappedBlock.Acyclic ∧ swappedBlock.declaredStructSize 2 = .ok 4 ∧
      swappedBlock.declaredMemberSize 2 0 = .ok 4 ∧ swappedBlock.memberOffset 2 0 = 4 ∧
      ¬ swappedBlock.Covers 2 4 := by
  have hmember : swappedBlock.declaredMemberSize 2 0 = .ok 4 := rfl
  refine ⟨acyclic_of_rows rfl, rfl, hmember, rfl, ?_⟩
  intro hcovers
  exact absurd (hcovers 0 4 hmember) (by decide)

end ShaderInterface.Module
