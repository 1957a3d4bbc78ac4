import ShaderInterface.Proofs.TypeGraph

/-!
# Declared sizes over the natural numbers

The layout equations give types, structs and struct members their sizes as natural numbers, without
any limit. Each equation uses at most one other size. The sizes that a module answers with are the
ones of the equations; an answer is refused as too large only where the equations meet a number
that does not fit in 32 bits.
-/

namespace ShaderInterface

/-- What a size is asked of. -/
inductive SizeQuery where
  | type (id : Ident)
  | struct (id : Ident)
  | member (id : Ident) (index : UInt32)

/-- How a size is given: outright, or from the size of something else. -/
inductive SizeEquation where
  | const (size : Nat)
  | scaled (part : SizeQuery) (count : Nat)
  | shifted (offset : Nat) (part : SizeQuery)

namespace SizeEquation

/-- What the size is computed from. -/
def part? : SizeEquation → Option SizeQuery
  | .const _ => none
  | .scaled part _ => some part
  | .shifted _ part => some part

/-- The size, given the size of the part. -/
def value : SizeEquation → Nat → Nat
  | .const size, _ => size
  | .scaled _ count, each => each * count
  | .shifted offset _, rest => offset + rest

end SizeEquation

/-- How many components a column of a matrix has. A type that is no vector counts as one. -/
def TypeDecl.componentCount : TypeDecl → Nat
  | .vector _ count => count.toNat
  | _ => 1

namespace Module

variable (module : Module)

/-- The layout equation of a type outside of any struct. -/
def typeEquation? (id : Ident) : Option SizeEquation :=
  match module.type? id with
  | some .bool => some (.const 4)
  | some (.int width _) => some (.const (width.toNat / 8))
  | some (.float width) => some (.const (width.toNat / 8))
  | some (.vector component count) => some (.scaled (.type component) count.toNat)
  | some (.matrix column count) => some (.scaled (.type column) count.toNat)
  | some (.array element length) =>
      (module.constant? length).map fun count =>
        match module.decorationValue? id Decoration.arrayStride with
        | some stride => .const (stride.toNat * count.toNat)
        | none => .scaled (.type element) count.toNat
  | some (.runtimeArray _) => some (.const 0)
  | some (.struct _) => some (.shifted 0 (.struct id))
  | some (.pointer ..) => some (.const 8)
  | _ => none

/-- The layout equation of a struct: the end of its last member. -/
def structEquation? (id : Ident) : Option SizeEquation :=
  match module.type? id with
  | some (.struct []) => some (.const 0)
  | some (.struct members) =>
      let last := (members.length - 1).toUInt32
      let offset := (module.memberDecorationValue? id last Decoration.offset).getD 0
      some (.shifted offset.toNat (.member id last))
  | _ => none

/-- The layout equation of a struct member. Only a member that is a matrix itself is sized by its
stride. -/
def memberEquation? (id : Ident) (index : UInt32) : Option SizeEquation :=
  match module.type? id with
  | some (.struct members) =>
      members[index.toNat]?.bind fun type =>
        match module.type? type,
            module.memberDecorationValue? id index Decoration.matrixStride with
        | some (.matrix column count), some stride =>
            if module.hasMemberDecoration id index Decoration.rowMajor then
              (module.type? column).map fun decl => .const (stride.toNat * decl.componentCount)
            else some (.const (stride.toNat * count.toNat))
        | _, _ => some (.shifted 0 (.type type))
  | _ => none

/-- The layout equations of a module. -/
def equation? : SizeQuery → Option SizeEquation
  | .type id => module.typeEquation? id
  | .struct id => module.structEquation? id
  | .member id index => module.memberEquation? id index

/-- The size that the layout equations give, as a natural number. -/
inductive HasSize : SizeQuery → Nat → Prop
  | const {query : SizeQuery} {size : Nat}
      (hequation : module.equation? query = some (.const size)) : HasSize query size
  | computed {query part : SizeQuery} {equation : SizeEquation} {size : Nat}
      (hequation : module.equation? query = some equation) (hpart : equation.part? = some part)
      (hsize : HasSize part size) : HasSize query (equation.value size)

/-- The size asked of is that of an array whose length does not fit in 32 bits. -/
def LongArray : SizeQuery → Prop
  | .type id => ∃ element length value, module.type? id = some (.array element length) ∧
      module.constant? length = some value ∧ UInt32.size ≤ value.toNat
  | _ => False

/-- On the way to a size, the length of an array or a size does not fit in 32 bits. -/
inductive Overflows : SizeQuery → Prop
  | length {query : SizeQuery} (hlong : module.LongArray query) : Overflows query
  | size {query : SizeQuery} {size : Nat} (hsize : module.HasSize query size)
      (hlarge : UInt32.size ≤ size) : Overflows query
  | computed {query part : SizeQuery} {equation : SizeEquation}
      (hequation : module.equation? query = some equation) (hpart : equation.part? = some part)
      (hover : Overflows part) : Overflows query

/-- An answer is exact: it is a number precisely if the equations give this number and nothing on
the way to it overflows, and it is refused as too large precisely if something does. -/
structure ExactAnswer (query : SizeQuery) (answer : Except ModuleError UInt32) : Prop where
  ok_iff : ∀ size, answer = .ok size ↔
    module.HasSize query size.toNat ∧ ¬ module.Overflows query
  limit_iff : (∃ error, answer = .error error ∧ error.kind = .limitExceeded) ↔
    module.Overflows query

variable {module}

theorem hasSize_of_const {query : SizeQuery} {value : Nat}
    (hequation : module.equation? query = some (.const value)) (size : Nat) :
    module.HasSize query size ↔ size = value := by
  constructor
  · intro hsize
    cases hsize with
    | const hother => simpa [hequation, eq_comm] using hother
    | computed hother hpart =>
        obtain rfl := Option.some.inj (hequation.symm.trans hother)
        simp [SizeEquation.part?] at hpart
  · rintro rfl
    exact .const hequation

theorem hasSize_of_part {query part : SizeQuery} {equation : SizeEquation}
    (hequation : module.equation? query = some equation) (hpart : equation.part? = some part)
    (size : Nat) :
    module.HasSize query size ↔ ∃ rest, module.HasSize part rest ∧ size = equation.value rest := by
  constructor
  · intro hsize
    cases hsize with
    | const hother =>
        obtain rfl := Option.some.inj (hequation.symm.trans hother)
        simp [SizeEquation.part?] at hpart
    | computed hother hother' hrest =>
        obtain rfl := Option.some.inj (hequation.symm.trans hother)
        obtain rfl := Option.some.inj (hpart.symm.trans hother')
        exact ⟨_, hrest, rfl⟩
  · rintro ⟨rest, hrest, rfl⟩
    exact .computed hequation hpart hrest

/-- The equations give at most one size. -/
theorem HasSize.unique {query : SizeQuery} {size other : Nat}
    (hsize : module.HasSize query size) (hother : module.HasSize query other) : size = other := by
  induction hsize generalizing other with
  | const hequation => exact ((hasSize_of_const hequation other).mp hother).symm
  | computed hequation hpart _ ih =>
      obtain ⟨rest, hrest, rfl⟩ := (hasSize_of_part hequation hpart other).mp hother
      rw [ih hrest]

theorem overflows_of_const {query : SizeQuery} {value : Nat}
    (hequation : module.equation? query = some (.const value))
    (hshort : ¬ module.LongArray query) : module.Overflows query ↔ UInt32.size ≤ value := by
  constructor
  · intro hover
    cases hover with
    | length hlong => exact absurd hlong hshort
    | size hsize hlarge => exact (hasSize_of_const hequation _).mp hsize ▸ hlarge
    | computed hother hpart =>
        obtain rfl := Option.some.inj (hequation.symm.trans hother)
        simp [SizeEquation.part?] at hpart
  · exact .size (.const hequation)

theorem overflows_of_part {query part : SizeQuery} {equation : SizeEquation}
    (hequation : module.equation? query = some equation) (hpart : equation.part? = some part)
    (hshort : ¬ module.LongArray query) :
    module.Overflows query ↔
      module.Overflows part ∨ ∃ size, module.HasSize query size ∧ UInt32.size ≤ size := by
  constructor
  · intro hover
    cases hover with
    | length hlong => exact absurd hlong hshort
    | size hsize hlarge => exact Or.inr ⟨_, hsize, hlarge⟩
    | computed hother hother' hover =>
        obtain rfl := Option.some.inj (hequation.symm.trans hother)
        obtain rfl := Option.some.inj (hpart.symm.trans hother')
        exact Or.inl hover
  · rintro (hover | ⟨size, hsize, hlarge⟩)
    · exact .computed hequation hpart hover
    · exact .size hsize hlarge

/-- Without an equation there is neither a size nor a number that could be too large. -/
theorem not_hasSize_of_none {query : SizeQuery} (hequation : module.equation? query = none)
    (size : Nat) : ¬ module.HasSize query size := by
  intro hsize
  cases hsize with
  | const hother => simp [hequation] at hother
  | computed hother => simp [hequation] at hother

theorem not_overflows_of_none {query : SizeQuery} (hequation : module.equation? query = none)
    (hshort : ¬ module.LongArray query) : ¬ module.Overflows query := by
  intro hover
  cases hover with
  | length hlong => exact hshort hlong
  | size hsize => exact not_hasSize_of_none hequation _ hsize
  | computed hother => simp [hequation] at hother

/-! ## Checked arithmetic is exact -/

theorem fits_toNat (size : UInt32) (id : Ident) : fits size.toNat id = .ok size := by
  simp [fits, size.toNat_lt]

theorem fits_eq_ok {size : Nat} {id : Ident} {answer : UInt32} :
    fits size id = .ok answer ↔ answer.toNat = size := by
  unfold fits
  split
  next hsmall =>
    rw [Except.ok.injEq, ← UInt32.toNat_inj, Nat.toUInt32_eq, UInt32.toNat_ofNat_of_lt' hsmall]
    exact eq_comm
  next hlarge =>
    have hanswer := answer.toNat_lt_size
    simp only [reduceCtorEq, false_iff]
    omega

theorem fits_limit {size : Nat} {id : Ident} :
    (∃ error, fits size id = .error error ∧ error.kind = .limitExceeded) ↔ UInt32.size ≤ size := by
  unfold fits
  split
  next hsmall => simpa using hsmall
  next hlarge => simpa [ModuleError.kind] using hlarge

namespace ExactAnswer

theorem of_const {query : SizeQuery} {value : Nat} {id : Ident}
    (hequation : module.equation? query = some (.const value))
    (hshort : ¬ module.LongArray query) : module.ExactAnswer query (fits value id) where
  ok_iff size := by
    rw [fits_eq_ok, hasSize_of_const hequation, overflows_of_const hequation hshort]
    have hsize := size.toNat_lt_size
    omega
  limit_iff := by rw [fits_limit, overflows_of_const hequation hshort]

theorem of_word {query : SizeQuery} {size : UInt32}
    (hequation : module.equation? query = some (.const size.toNat))
    (hshort : ¬ module.LongArray query) : module.ExactAnswer query (.ok size) := by
  rw [← fits_toNat size 0]
  exact of_const hequation hshort

theorem of_none {query : SizeQuery} {error : ModuleError}
    (hequation : module.equation? query = none) (hshort : ¬ module.LongArray query)
    (hkind : error.kind ≠ .limitExceeded) : module.ExactAnswer query (.error error) where
  ok_iff size := by simp [not_hasSize_of_none hequation]
  limit_iff := by simpa [not_overflows_of_none hequation hshort] using hkind

theorem of_long {query : SizeQuery} {error : ModuleError} (hlong : module.LongArray query)
    (hkind : error.kind = .limitExceeded) : module.ExactAnswer query (.error error) where
  ok_iff size := by simp [Overflows.length hlong]
  limit_iff := by simpa [Overflows.length hlong] using hkind

/-- Computing a size from the exact answer for its part gives an exact answer. -/
theorem of_part {query part : SizeQuery} {equation : SizeEquation} {id : Ident}
    {answer : Except ModuleError UInt32} (hequation : module.equation? query = some equation)
    (hpart : equation.part? = some part) (hshort : ¬ module.LongArray query)
    (hexact : module.ExactAnswer part answer) :
    module.ExactAnswer query (answer >>= fun size => fits (equation.value size.toNat) id) := by
  have hsize := hasSize_of_part hequation hpart
  have hover := overflows_of_part hequation hpart hshort
  cases answer with
  | ok rest =>
      obtain ⟨hrest, hnot⟩ := (hexact.ok_iff rest).mp rfl
      have hvalue : ∀ size, module.HasSize query size ↔ size = equation.value rest.toNat := by
        intro size
        rw [hsize]
        constructor
        · rintro ⟨other, hother, rfl⟩
          rw [hrest.unique hother]
        · rintro rfl
          exact ⟨_, hrest, rfl⟩
      have hlarge : module.Overflows query ↔ UInt32.size ≤ equation.value rest.toNat := by
        simp [hover, hnot, hvalue]
      constructor
      · intro size
        rw [ok_bind, fits_eq_ok, hvalue, hlarge]
        have hbound := size.toNat_lt_size
        omega
      · rw [ok_bind, fits_limit, hlarge]
  | error error =>
      -- a part without an answer either has no size at all or is too large itself
      have hnone : ¬ module.Overflows part → ∀ size, ¬ module.HasSize part size := by
        intro hnot size hpartSize
        have hsmall : size < UInt32.size := by
          by_contra hlarge
          exact hnot (.size hpartSize (by omega))
        have hok := (hexact.ok_iff size.toUInt32).mpr
          ⟨by rwa [Nat.toUInt32_eq, UInt32.toNat_ofNat_of_lt' hsmall], hnot⟩
        simp at hok
      have hquery : module.Overflows query ↔ module.Overflows part := by
        rw [hover, or_iff_left_iff_imp]
        rintro ⟨size, hquerySize, -⟩
        obtain ⟨rest, hrest, -⟩ := (hsize size).mp hquerySize
        by_contra hnot
        exact hnone hnot rest hrest
      constructor
      · intro size
        simp only [error_bind, reduceCtorEq, false_iff, not_and, not_not, hquery]
        intro hquerySize
        obtain ⟨rest, hrest, -⟩ := (hsize _).mp hquerySize
        by_contra hnot
        exact hnone hnot rest hrest
      · rw [error_bind, hquery]
        exact hexact.limit_iff

/-- An exact answer for a part answers for what is as large as the part. -/
theorem of_same {query part : SizeQuery} {answer : Except ModuleError UInt32}
    (hequation : module.equation? query = some (.shifted 0 part))
    (hshort : ¬ module.LongArray query) (hexact : module.ExactAnswer part answer) :
    module.ExactAnswer query answer := by
  have hanswer : (answer >>= fun size =>
      fits ((SizeEquation.shifted 0 part).value size.toNat) 0) = answer := by
    cases answer with
    | ok size => simp only [ok_bind, SizeEquation.value, Nat.zero_add, fits_toNat]
    | error error => rfl
  rw [← hanswer]
  exact of_part hequation rfl hshort hexact

end ExactAnswer

/-! ## The computed sizes are exact -/

theorem not_longArray_type {id : Ident} {decl : TypeDecl} (htype : module.type? id = some decl)
    (harray : ∀ element length, decl ≠ .array element length) :
    ¬ module.LongArray (.type id) := by
  rintro ⟨element, length, value, hdecl, -⟩
  rw [htype] at hdecl
  exact harray element length (Option.some.inj hdecl)

section

variable {size : Ident → Except ModuleError UInt32} {id : Ident}

/-- A matrix with a stride takes its stride for each row or column. -/
theorem exactAnswer_stridedMatrix {index : UInt32} {members : List Ident} {type column : Ident}
    {count stride : UInt32} (htype : module.type? id = some (.struct members))
    (hmember : members[index.toNat]? = some type)
    (hmatrix : module.type? type = some (.matrix column count))
    (hstride : module.memberDecorationValue? id index Decoration.matrixStride = some stride) :
    module.ExactAnswer (.member id index) (module.memberSizeBy size id index) := by
  have hshort : ¬ module.LongArray (.member id index) := not_false
  have hcode : module.memberSizeBy size id index =
      (if module.hasMemberDecoration id index Decoration.rowMajor then
        module.componentCount column else pure count) >>= fun vectors =>
          fits (stride.toNat * vectors.toNat) type := by
    simp only [memberSizeBy, structMembers, typeOf_of_some htype, typeOf_of_some hmatrix, ok_bind,
      pure_eq_ok, hmember, hstride]
    split <;> rfl
  rw [hcode]
  by_cases hrow : module.hasMemberDecoration id index Decoration.rowMajor
  · rw [if_pos hrow, componentCount]
    cases hcolumn : module.type? column with
    | none =>
        rw [typeOf_of_none hcolumn]
        refine .of_none ?_ hshort nofun
        simp [equation?, memberEquation?, htype, hmember, hmatrix, hstride, hrow, hcolumn]
    | some decl =>
        have hequation : module.equation? (.member id index) =
            some (.const (stride.toNat * decl.componentCount)) := by
          simp [equation?, memberEquation?, htype, hmember, hmatrix, hstride, hrow, hcolumn]
        rw [typeOf_of_some hcolumn]
        cases decl <;> exact .of_const hequation hshort
  · rw [if_neg hrow]
    refine .of_const ?_ hshort
    simp [equation?, memberEquation?, htype, hmember, hmatrix, hstride, hrow]

theorem exactAnswer_member {index : UInt32} {members : List Ident} {type : Ident}
    (htype : module.type? id = some (.struct members))
    (hmember : members[index.toNat]? = some type)
    (hpart : module.ExactAnswer (.type type) (size type)) :
    module.ExactAnswer (.member id index) (module.memberSizeBy size id index) := by
  have hshort : ¬ module.LongArray (.member id index) := not_false
  -- only a matrix with a stride is sized without its part
  by_cases hstrided : ∃ column count stride, module.type? type = some (.matrix column count) ∧
      module.memberDecorationValue? id index Decoration.matrixStride = some stride
  · obtain ⟨column, count, stride, hmatrix, hstride⟩ := hstrided
    exact exactAnswer_stridedMatrix htype hmember hmatrix hstride
  have hequation : module.equation? (.member id index) = some (.shifted 0 (.type type)) := by
    simp only [equation?, memberEquation?, htype, hmember, Option.bind_some]
    split
    next column count stride hmatrix hstride =>
      exact absurd ⟨column, count, stride, hmatrix, hstride⟩ hstrided
    next => rfl
  cases hdecl : module.type? type with
  | none =>
      have hcode : module.memberSizeBy size id index = .error (.undefinedType type) := by
        simp only [memberSizeBy, structMembers, typeOf_of_some htype, typeOf_of_none hdecl,
          ok_bind, pure_eq_ok, hmember, error_bind]
      rw [hcode]
      refine .of_same hequation hshort (.of_none ?_ ?_ nofun)
      · simp only [equation?, typeEquation?, hdecl]
      · simp [LongArray, hdecl]
  | some decl =>
      have hcode : module.memberSizeBy size id index = size type := by
        simp only [memberSizeBy, structMembers, typeOf_of_some htype, typeOf_of_some hdecl,
          ok_bind, pure_eq_ok, hmember]
        cases decl with
        | matrix column count =>
            cases hstride : module.memberDecorationValue? id index Decoration.matrixStride with
            | none => rfl
            | some stride => exact absurd ⟨column, count, stride, hdecl, hstride⟩ hstrided
        | _ => rfl
      rw [hcode]
      exact .of_same hequation hshort hpart

theorem exactAnswer_memberSizeBy
    (hparts : ∀ part, module.Part part id → module.ExactAnswer (.type part) (size part))
    (index : UInt32) :
    module.ExactAnswer (.member id index) (module.memberSizeBy size id index) := by
  have hshort : ¬ module.LongArray (.member id index) := not_false
  cases htype : module.type? id with
  | none =>
      rw [memberSizeBy, structMembers, typeOf_of_none htype]
      exact .of_none (by simp only [equation?, memberEquation?, htype]) hshort nofun
  | some decl =>
      cases decl with
      | struct members =>
          cases hmember : members[index.toNat]? with
          | none =>
              simp only [memberSizeBy, structMembers, typeOf_of_some htype, ok_bind, pure_eq_ok,
                hmember]
              exact .of_none (by simp [equation?, memberEquation?, htype, hmember]) hshort nofun
          | some type =>
              exact exactAnswer_member htype hmember
                (hparts type ⟨_, htype, List.mem_of_getElem? hmember⟩)
      | _ =>
          rw [memberSizeBy, structMembers, typeOf_of_some htype]
          exact .of_none (by simp only [equation?, memberEquation?, htype]) hshort nofun

theorem exactAnswer_structSizeBy
    (hparts : ∀ part, module.Part part id → module.ExactAnswer (.type part) (size part)) :
    module.ExactAnswer (.struct id) (module.structSizeBy size id) := by
  have hshort : ¬ module.LongArray (.struct id) := not_false
  cases htype : module.type? id with
  | none =>
      rw [structSizeBy, structMembers, typeOf_of_none htype]
      exact .of_none (by simp only [equation?, structEquation?, htype]) hshort
        (by simp [ModuleError.kind])
  | some decl =>
      cases decl with
      | struct members =>
          simp only [structSizeBy, structMembers, typeOf_of_some htype, ok_bind, pure_eq_ok]
          cases members with
          | nil =>
              have hequation : module.equation? (.struct id) = some (.const 0) := by
                simp only [equation?, structEquation?, htype]
              exact .of_word hequation hshort
          | cons first rest =>
              have hequation : module.equation? (.struct id) =
                  some (.shifted ((module.memberDecorationValue? id
                    ((first :: rest).length - 1).toUInt32 Decoration.offset).getD 0).toNat
                    (.member id ((first :: rest).length - 1).toUInt32)) := by
                simp only [equation?, structEquation?, htype]
              exact .of_part hequation rfl hshort (exactAnswer_memberSizeBy hparts _)
      | _ =>
          rw [structSizeBy, structMembers, typeOf_of_some htype]
          exact .of_none (by simp only [equation?, structEquation?, htype]) hshort
            (by simp [ModuleError.kind])

theorem exactAnswer_array {element length : Ident}
    (htype : module.type? id = some (.array element length))
    (hpart : module.ExactAnswer (.type element) (size element)) :
    module.ExactAnswer (.type id) (module.sizeBy size id) := by
  cases hlength : module.constant? length with
  | none =>
      have hshort : ¬ module.LongArray (.type id) := by
        simp [LongArray, htype, hlength]
      simp only [sizeBy, typeOf_of_some htype, ok_bind, arrayLength, htype, hlength, error_bind]
      exact .of_none (by simp [equation?, typeEquation?, htype, hlength]) hshort nofun
  | some count =>
      -- a length beyond 32 bits is refused before any size is asked for
      by_cases hlarge : UInt32.size ≤ count.toNat
      · simp only [sizeBy, typeOf_of_some htype, ok_bind, arrayLength, htype, hlength,
          if_neg (Nat.not_lt.mpr hlarge), error_bind]
        exact .of_long ⟨element, length, count, htype, hlength, hlarge⟩ rfl
      have hshort : ¬ module.LongArray (.type id) := by
        rintro ⟨_, _, _, hdecl, hvalue, hlong⟩
        obtain ⟨-, rfl⟩ : element = _ ∧ length = _ := by simpa [htype] using hdecl
        obtain rfl : count = _ := by simpa [hlength] using hvalue
        exact hlarge hlong
      have hcount : count.toUInt32.toNat = count.toNat := by
        rw [UInt64.toNat_toUInt32]
        exact Nat.mod_eq_of_lt (Nat.not_le.mp hlarge)
      have hcode : module.sizeBy size id =
          (module.arrayStrideBy size id element >>= fun stride =>
            fits (stride.toNat * count.toNat) id) := by
        simp only [sizeBy, typeOf_of_some htype, ok_bind, arrayLength, htype, hlength,
          if_pos (Nat.not_le.mp hlarge), Option.getD_some, hcount]
      rw [hcode, arrayStrideBy]
      cases hstride : module.decorationValue? id Decoration.arrayStride with
      | none =>
          have hequation : module.equation? (.type id) =
              some (.scaled (.type element) count.toNat) := by
            simp [equation?, typeEquation?, htype, hlength, hstride]
          exact .of_part hequation rfl hshort hpart
      | some stride =>
          refine .of_const ?_ hshort
          simp [equation?, typeEquation?, htype, hlength, hstride]

/-- Sizing a type from exact sizes of its parts is exact. -/
theorem exactAnswer_sizeBy
    (hparts : ∀ part, module.Part part id → module.ExactAnswer (.type part) (size part)) :
    module.ExactAnswer (.type id) (module.sizeBy size id) := by
  cases htype : module.type? id with
  | none =>
      have hshort : ¬ module.LongArray (.type id) := by simp [LongArray, htype]
      rw [sizeBy, typeOf_of_none htype]
      exact .of_none (by simp only [equation?, typeEquation?, htype]) hshort nofun
  | some decl =>
      have hpart : ∀ part ∈ decl.parts, module.ExactAnswer (.type part) (size part) :=
        fun part hmem => hparts part ⟨decl, htype, hmem⟩
      -- arrays apart, as only they can be too long
      by_cases harray : ∃ element length, decl = .array element length
      · obtain ⟨element, length, rfl⟩ := harray
        exact exactAnswer_array htype (hpart element (List.mem_singleton_self _))
      have hshort :=
        not_longArray_type htype fun element length heq => harray ⟨element, length, heq⟩
      have hequation : module.equation? (.type id) = module.typeEquation? id := rfl
      simp only [typeEquation?, htype] at hequation
      simp only [sizeBy, typeOf_of_some htype, ok_bind]
      cases decl with
      | bool => exact .of_word hequation hshort
      | int width signed =>
          exact .of_word (hequation.trans (by rw [UInt32.toNat_div]; rfl)) hshort
      | float width =>
          exact .of_word (hequation.trans (by rw [UInt32.toNat_div]; rfl)) hshort
      | vector component count =>
          exact .of_part hequation rfl hshort (hpart component (List.mem_singleton_self _))
      | matrix column count =>
          exact .of_part hequation rfl hshort (hpart column (List.mem_singleton_self _))
      | array element length => exact absurd ⟨element, length, rfl⟩ harray
      | runtimeArray element => exact .of_word hequation hshort
      | struct members => exact .of_same hequation hshort (exactAnswer_structSizeBy hparts)
      | pointer storageClass pointee => exact .of_word hequation hshort
      | _ => exact .of_none hequation hshort nofun

end

theorem AcyclicFrom.exactAnswer_declaredSize {id : Ident} (hacyclic : module.AcyclicFrom id) :
    module.ExactAnswer (.type id) (module.declaredSize id) := by
  refine hacyclic.induction fun id hacyclic ih => ?_
  rw [declaredSize_eq hacyclic]
  exact exactAnswer_sizeBy ih

theorem exactAnswer_declaredSize (hacyclic : module.Acyclic) (id : Ident) :
    module.ExactAnswer (.type id) (module.declaredSize id) :=
  (hacyclic.acyclicFrom id).exactAnswer_declaredSize

/-- Without cycles among the types, the sizes of structs and of struct members are those of the
layout equations over the natural numbers. Nothing wraps, and only a length or size beyond 32 bits
is refused as too large. -/
theorem declaredSizes_exact (module : Module) (hacyclic : module.Acyclic) (id : Ident)
    (index : UInt32) :
    module.ExactAnswer (.struct id) (module.declaredStructSize id) ∧
      module.ExactAnswer (.member id index) (module.declaredMemberSize id index) := by
  have hparts := fun part (_ : module.Part part id) => exactAnswer_declaredSize hacyclic part
  exact ⟨exactAnswer_structSizeBy hparts, exactAnswer_memberSizeBy hparts index⟩

/-- A block of a number, a matrix stored by rows and an array, all with padding between them. -/
def paddedBlock : Module where
  types := .ofRows [(1, .float 32), (2, .vector 1 3), (3, .matrix 2 2), (4, .int 32 false),
    (6, .array 2 5), (7, .struct [1, 3, 6])]
  constants := .ofRows [(5, 4)]
  decorations := .ofRows [((6, Decoration.arrayStride), [16])]
  memberDecorations := .ofRows [((7, 0, Decoration.offset), [0]),
    ((7, 1, Decoration.offset), [16]), ((7, 1, Decoration.rowMajor), []),
    ((7, 1, Decoration.matrixStride), [16]), ((7, 2, Decoration.offset), [64])]

theorem declaredSizes_exact_paddedBlock :
    paddedBlock.Acyclic ∧ paddedBlock.ExactAnswer (.struct 7) (.ok 128) ∧
      paddedBlock.ExactAnswer (.member 7 1) (.ok 48) := by
  have hacyclic : paddedBlock.Acyclic := acyclic_of_rows rfl
  have hstruct : paddedBlock.declaredStructSize 7 = .ok 128 := rfl
  have hmember : paddedBlock.declaredMemberSize 7 1 = .ok 48 := rfl
  refine ⟨hacyclic, ?_⟩
  rw [← hstruct, ← hmember]
  exact declaredSizes_exact paddedBlock hacyclic 7 1

end Module

end ShaderInterface
