import ShaderInterface.Proofs.Shapes
import ShaderInterface.Proofs.TypeGraph

/-!
# Data types of declared types

What a type is called depends on what is inside its arrays alone. There are words for a few scalars,
for vectors of two to four numbers and for square matrices of floats; another matrix goes by the
word for its columns, and everything else is unknown. A type has no shape exactly if something is
missing that a shape is made of: the length of an array, the type inside the arrays, or what a
vector or matrix is put together from.
-/

namespace ShaderInterface

/-- The scalars for which there is a word. -/
inductive Scalar where
  | float
  | int
  | uint
  | bool
  deriving DecidableEq

namespace Scalar

/-- How the scalar is declared. Numbers have 32 bits. -/
def decl : Scalar → TypeDecl
  | .float => .float 32
  | .int => .int 32 true
  | .uint => .int 32 false
  | .bool => .bool

/-- The word for `count` scalars in a row. Numbers have vectors of two to four, booleans have
none. -/
def row? : Scalar → Nat → Option DataType
  | .float, 1 => some .float
  | .float, 2 => some .vec2
  | .float, 3 => some .vec3
  | .float, 4 => some .vec4
  | .int, 1 => some .int
  | .int, 2 => some .ivec2
  | .int, 3 => some .ivec3
  | .int, 4 => some .ivec4
  | .uint, 1 => some .uint
  | .uint, 2 => some .uvec2
  | .uint, 3 => some .uvec3
  | .uint, 4 => some .uvec4
  | .bool, 1 => some .bool
  | _, _ => none

/-- The base type of the scalar. -/
def base : Scalar → BaseType
  | .float => .float32
  | .int => .int32
  | .uint => .uint32
  | .bool => .bool

end Scalar

/-- The word for a matrix of as many columns of floats as they have rows. -/
def DataType.square? : Nat → Option DataType
  | 2 => some .mat2
  | 3 => some .mat3
  | 4 => some .mat4
  | _ => none

namespace Module

variable (module : Module)

/-- The type is `count` scalars in a row: a vector of them, or a scalar by itself. -/
inductive IsRow (id : Ident) : Scalar → Nat → Prop
  | scalar {scalar : Scalar} (htype : module.type? id = some scalar.decl) : IsRow id scalar 1
  | vector {scalar : Scalar} {component : Ident} {count : UInt32}
      (htype : module.type? id = some (.vector component count))
      (hcomponent : module.type? component = some scalar.decl) : IsRow id scalar count.toNat

/-- The type is a matrix with the word for a square one. -/
def IsSquare (id : Ident) (word : DataType) : Prop :=
  ∃ column count, module.type? id = some (.matrix column count) ∧
    module.IsRow column .float count.toNat ∧ DataType.square? count.toNat = some word

/-- The word for a type that is no array. A matrix that is not square is called by its column. -/
inductive HasWord (id : Ident) : DataType → Prop
  | row {scalar : Scalar} {count : Nat} {word : DataType} (hrow : module.IsRow id scalar count)
      (hword : scalar.row? count = some word) : HasWord id word
  | square {word : DataType} (hsquare : module.IsSquare id word) : HasWord id word
  | column {column : Ident} {columns : UInt32} {scalar : Scalar} {count : Nat} {word : DataType}
      (htype : module.type? id = some (.matrix column columns))
      (hother : ∀ word, ¬ module.IsSquare id word) (hcolumn : module.IsRow column scalar count)
      (hword : scalar.row? count = some word) : HasWord id word

/-- The data type is the word for the type, or unknown if there is none. -/
def IsDataType (id : Ident) (dataType : DataType) : Prop :=
  module.HasWord id dataType ∨ dataType = .unknown ∧ ∀ word, ¬ module.HasWord id word

/-- Something is missing that the shape of the type is made of. -/
inductive Shapeless (id : Ident) : Prop
  /-- A sized array around the type inside has no constant for its length, or one that does not fit
  in a word. -/
  | length {array element length : Ident}
      (hnested : Relation.ReflTransGen module.Element array id)
      (htype : module.type? array = some (.array element length))
      (hlength : ∀ value, module.constant? length = some value → UInt32.size ≤ value.toNat)
  | inner (htype : module.type? (module.elementType id) = none)
  | component {component : Ident} {count : UInt32}
      (htype : module.type? (module.elementType id) = some (.vector component count))
      (hcomponent : module.type? component = none)
  | column {column : Ident} {count : UInt32}
      (htype : module.type? (module.elementType id) = some (.matrix column count))
      (hcolumn : module.type? column = none)
  | columnComponent {column component : Ident} {columns count : UInt32}
      (htype : module.type? (module.elementType id) = some (.matrix column columns))
      (hcolumn : module.type? column = some (.vector component count))
      (hcomponent : module.type? component = none)

end Module

/-! ## Scalars -/

namespace BaseType

/-- The scalar that has the base type. -/
def scalar? : BaseType → Option Scalar
  | .float32 => some .float
  | .int32 => some .int
  | .uint32 => some .uint
  | .bool => some .bool
  | _ => none

theorem scalar?_eq_some_iff {base : BaseType} {scalar : Scalar} :
    base.scalar? = some scalar ↔ base = scalar.base := by
  cases base <;> cases scalar <;> decide

theorem ofInt_eq_base_iff {width : UInt32} {signed : Bool} {scalar : Scalar} :
    ofInt width signed = scalar.base ↔ TypeDecl.int width signed = scalar.decl := by
  by_cases hwidth : width = 32
  · subst hwidth
    cases signed <;> cases scalar <;> decide
  · have hnat : width.toNat ≠ 32 := fun heq => hwidth (UInt32.toNat_inj.mp heq)
    have hother : ofInt width signed ≠ scalar.base := by
      unfold ofInt
      cases scalar <;> split <;> simp_all [Scalar.base]
    refine iff_of_false hother ?_
    cases scalar <;> simp [Scalar.decl, hwidth]

theorem ofFloat_eq_base_iff {width : UInt32} {scalar : Scalar} :
    ofFloat width = scalar.base ↔ TypeDecl.float width = scalar.decl := by
  by_cases hwidth : width = 32
  · subst hwidth
    cases scalar <;> decide
  · have hnat : width.toNat ≠ 32 := fun heq => hwidth (UInt32.toNat_inj.mp heq)
    have hother : ofFloat width ≠ scalar.base := by
      unfold ofFloat
      cases scalar <;> split <;> simp_all [Scalar.base]
    refine iff_of_false hother ?_
    cases scalar <;> simp [Scalar.decl, hwidth]

end BaseType

namespace DataType

variable {base : BaseType} {width columns : UInt32}

/-- The word for a shape, that of one column if there is none for the whole. -/
def word? (base : BaseType) (width columns : UInt32) : Option DataType :=
  (if width = columns then ofSquare? base columns else none).or
    (base.scalar?.bind (·.row? width.toNat))

theorem ofVector_eq_getD :
    ofVector base width = (base.scalar?.bind (·.row? width.toNat)).getD .unknown := by
  unfold ofVector
  generalize width.toNat = count
  cases base <;> match count with
    | 0 | 1 | 2 | 3 | 4 => rfl
    | count + 5 => rfl

theorem classify_eq_getD :
    classify base width columns = (word? base width columns).getD .unknown := by
  rw [classify, word?, ofVector_eq_getD]
  split
  next => cases ofSquare? base columns <;> rfl
  next => rfl

theorem ofSquare?_eq_some_iff {word : DataType} :
    ofSquare? base columns = some word ↔
      base = Scalar.base .float ∧ square? columns.toNat = some word := by
  unfold ofSquare? square?
  generalize columns.toNat = size
  cases base <;> match size with
    | 0 | 1 | 2 | 3 | 4 => simp [Scalar.base]
    | size + 5 => simp [Scalar.base]

/-- One column is no matrix. -/
theorem word?_one : word? base width 1 = base.scalar?.bind (·.row? width.toNat) := by
  have hnone : ofSquare? base 1 = none := by
    cases base <;> rfl
  rw [word?, hnone, ite_self, Option.none_or]

end DataType

namespace Module

variable {module : Module} {id : Ident}

theorem base_eq_iff_of_scalarBase {base : BaseType} {scalar : Scalar}
    (hbase : module.scalarBase id = .ok base) :
    base = scalar.base ↔ module.type? id = some scalar.decl := by
  obtain ⟨decl, hdecl, hbase⟩ := bind_eq_ok.mp hbase
  rw [type?_of_requiredType hdecl, Option.some.injEq]
  cases decl with
  | int width signed =>
      cases hbase
      exact BaseType.ofInt_eq_base_iff
  | float width =>
      cases hbase
      exact BaseType.ofFloat_eq_base_iff
  | _ =>
      cases hbase
      cases scalar <;> simp [Scalar.base, Scalar.decl]

theorem isRow_iff_of_vector {component : Ident} {count : UInt32} {scalar : Scalar} {length : Nat}
    (htype : module.type? id = some (.vector component count)) :
    module.IsRow id scalar length ↔
      module.type? component = some scalar.decl ∧ length = count.toNat := by
  constructor
  · intro hrow
    cases hrow with
    | scalar hscalar =>
        rw [htype] at hscalar
        cases scalar <;> cases hscalar
    | vector hvector hcomponent =>
        cases htype.symm.trans hvector
        exact ⟨hcomponent, rfl⟩
  · rintro ⟨hcomponent, rfl⟩
    exact .vector htype hcomponent

theorem isRow_iff_of_not_vector {scalar : Scalar} {length : Nat}
    (hother : ∀ component count, module.type? id ≠ some (.vector component count)) :
    module.IsRow id scalar length ↔ module.type? id = some scalar.decl ∧ length = 1 := by
  constructor
  · intro hrow
    cases hrow with
    | scalar hscalar => exact ⟨hscalar, rfl⟩
    | vector hvector => exact absurd hvector (hother _ _)
  · rintro ⟨hscalar, rfl⟩
    exact .scalar hscalar

theorem isRow_iff_of_vectorShape {base : BaseType} {width : UInt32} {scalar : Scalar} {length : Nat}
    (hshape : module.vectorShape id = .ok (base, width)) :
    module.IsRow id scalar length ↔ base = scalar.base ∧ length = width.toNat := by
  obtain ⟨decl, hdecl, hshape⟩ := bind_eq_ok.mp hshape
  have htype := type?_of_requiredType hdecl
  cases decl with
  | vector component count =>
      obtain ⟨base', hbase, hshape⟩ := bind_eq_ok.mp hshape
      cases hshape
      rw [isRow_iff_of_vector htype, base_eq_iff_of_scalarBase hbase]
  | _ =>
      obtain ⟨base', hbase, hshape⟩ := bind_eq_ok.mp hshape
      cases hshape
      rw [isRow_iff_of_not_vector (by simp [htype]), base_eq_iff_of_scalarBase hbase]
      rfl

/-! ## Words -/

theorem hasWord_iff_of_not_matrix {word : DataType}
    (hother : ∀ column count, module.type? id ≠ some (.matrix column count)) :
    module.HasWord id word ↔
      ∃ scalar count, module.IsRow id scalar count ∧ scalar.row? count = some word := by
  constructor
  · intro hhas
    cases hhas with
    | row hrow hword => exact ⟨_, _, hrow, hword⟩
    | square hsquare =>
        obtain ⟨column, count, htype, -⟩ := hsquare
        exact absurd htype (hother column count)
    | column htype => exact absurd htype (hother _ _)
  · rintro ⟨scalar, count, hrow, hword⟩
    exact .row hrow hword

theorem hasWord_iff_of_matrix {column : Ident} {columns : UInt32} {word : DataType}
    (htype : module.type? id = some (.matrix column columns)) :
    module.HasWord id word ↔ module.IsSquare id word ∨ (∀ word, ¬ module.IsSquare id word) ∧
      ∃ scalar count, module.IsRow column scalar count ∧ scalar.row? count = some word := by
  constructor
  · intro hhas
    cases hhas with
    | @row scalar count _ hrow _ =>
        obtain ⟨hscalar, -⟩ := (isRow_iff_of_not_vector (by simp [htype])).mp hrow
        rw [htype] at hscalar
        cases scalar <;> cases hscalar
    | square hsquare => exact .inl hsquare
    | column htype' hother hcolumn hword =>
        cases htype.symm.trans htype'
        exact .inr ⟨hother, _, _, hcolumn, hword⟩
  · rintro (hsquare | ⟨hother, scalar, count, hcolumn, hword⟩)
    · exact .square hsquare
    · exact .column htype hother hcolumn hword

theorem isSquare_iff_of_matrix {column : Ident} {columns : UInt32} {word : DataType}
    (htype : module.type? id = some (.matrix column columns)) :
    module.IsSquare id word ↔ module.IsRow column .float columns.toNat ∧
      DataType.square? columns.toNat = some word := by
  constructor
  · rintro ⟨column', columns', htype', hsquare⟩
    cases htype.symm.trans htype'
    exact hsquare
  · intro hsquare
    exact ⟨column, columns, htype, hsquare⟩

/-- The word for rows of one kind and length. -/
theorem exists_row_iff {base : BaseType} {width : UInt32} {word : DataType}
    (hrows : ∀ scalar count, module.IsRow id scalar count ↔
      base = scalar.base ∧ count = width.toNat) :
    (∃ scalar count, module.IsRow id scalar count ∧ scalar.row? count = some word) ↔
      base.scalar?.bind (·.row? width.toNat) = some word := by
  simp only [hrows, Option.bind_eq_some_iff, BaseType.scalar?_eq_some_iff]
  constructor
  · rintro ⟨scalar, _, ⟨hbase, rfl⟩, hword⟩
    exact ⟨scalar, hbase, hword⟩
  · rintro ⟨scalar, hbase, hword⟩
    exact ⟨scalar, _, ⟨hbase, rfl⟩, hword⟩

variable {info : TypeInfo}

theorem vectorShape_of_typeInfo {column : Ident} {columns : UInt32}
    (hinfo : module.typeInfo id = .ok info)
    (htype : module.type? (module.elementType id) = some (.matrix column columns)) :
    module.vectorShape column = .ok (info.base, info.width) ∧ info.columns = columns := by
  obtain ⟨array, -, hinfo⟩ := bind_eq_ok.mp hinfo
  obtain ⟨decl, hdecl, hinfo⟩ := bind_eq_ok.mp hinfo
  cases (type?_of_requiredType hdecl).symm.trans htype
  obtain ⟨shape, hshape, hinfo⟩ := bind_eq_ok.mp hinfo
  cases hinfo
  exact ⟨hshape, rfl⟩

theorem isRow_iff_of_typeInfo (hinfo : module.typeInfo id = .ok info)
    (hother : ∀ column count, module.type? (module.elementType id) ≠ some (.matrix column count)) :
    info.columns = 1 ∧ ∀ scalar count, module.IsRow (module.elementType id) scalar count ↔
      info.base = scalar.base ∧ count = info.width.toNat := by
  obtain ⟨array, -, hinfo⟩ := bind_eq_ok.mp hinfo
  obtain ⟨decl, hdecl, hinfo⟩ := bind_eq_ok.mp hinfo
  have htype := type?_of_requiredType hdecl
  cases decl with
  | bool | int | float =>
      obtain ⟨base, hbase, hinfo⟩ := bind_eq_ok.mp hinfo
      cases hinfo
      refine ⟨rfl, fun scalar count => ?_⟩
      rw [isRow_iff_of_not_vector (by simp [htype]), base_eq_iff_of_scalarBase hbase]
      rfl
  | vector component length =>
      obtain ⟨base, hbase, hinfo⟩ := bind_eq_ok.mp hinfo
      cases hinfo
      refine ⟨rfl, fun scalar count => ?_⟩
      rw [isRow_iff_of_vector htype, base_eq_iff_of_scalarBase hbase]
  | matrix column count => exact absurd htype (hother column count)
  | _ =>
      cases hinfo
      refine ⟨rfl, fun scalar count => ?_⟩
      rw [isRow_iff_of_not_vector (by simp [htype]), htype]
      cases scalar <;> simp [Scalar.decl, Scalar.base]

/-- The word for a type is the word for its shape. -/
theorem hasWord_iff_of_typeInfo {word : DataType} (hinfo : module.typeInfo id = .ok info) :
    module.HasWord (module.elementType id) word ↔
      DataType.word? info.base info.width info.columns = some word := by
  by_cases hmatrix : ∃ column columns,
      module.type? (module.elementType id) = some (.matrix column columns)
  · obtain ⟨column, columns, htype⟩ := hmatrix
    obtain ⟨hshape, hcolumns⟩ := vectorShape_of_typeInfo hinfo htype
    have hsquare : ∀ word, module.IsSquare (module.elementType id) word ↔
        (if info.width = columns then DataType.ofSquare? info.base columns else none) =
          some word := by
      intro word
      rw [isSquare_iff_of_matrix htype, isRow_iff_of_vectorShape hshape, UInt32.toNat_inj]
      split
      next hsame => simp [DataType.ofSquare?_eq_some_iff, hsame]
      next hdiffer => simp [Ne.symm hdiffer]
    rw [hasWord_iff_of_matrix htype, exists_row_iff fun _ _ => isRow_iff_of_vectorShape hshape,
      DataType.word?, hcolumns, Option.or_eq_some_iff]
    simp only [hsquare, Option.eq_none_iff_forall_ne_some, ne_eq]
  · simp only [not_exists] at hmatrix
    obtain ⟨hcolumns, hrows⟩ := isRow_iff_of_typeInfo hinfo hmatrix
    rw [hasWord_iff_of_not_matrix hmatrix, exists_row_iff hrows, hcolumns, DataType.word?_one]

theorem classify_eq_iff_isDataType {dataType : DataType} (hinfo : module.typeInfo id = .ok info) :
    DataType.classify info.base info.width info.columns = dataType ↔
      module.IsDataType (module.elementType id) dataType := by
  rw [DataType.classify_eq_getD, IsDataType]
  simp only [hasWord_iff_of_typeInfo hinfo]
  cases DataType.word? info.base info.width info.columns with
  | none => simp [eq_comm]
  | some word => simp

/-! ## Types without a shape -/

theorem fails_requiredType_iff : Fails (module.requiredType id) ↔ module.type? id = none := by
  unfold requiredType
  cases module.type? id <;> simp

theorem fails_scalarBase_iff : Fails (module.scalarBase id) ↔ module.type? id = none := by
  rw [scalarBase, Fails.bind_iff, fails_requiredType_iff, or_iff_left]
  rintro ⟨decl, -, hfails⟩
  cases decl <;> exact Fails.not_ok _ hfails

theorem fails_vectorShape_iff : Fails (module.vectorShape id) ↔ module.type? id = none ∨
    ∃ component count, module.type? id = some (.vector component count) ∧
      module.type? component = none := by
  rw [vectorShape, Fails.bind_iff, fails_requiredType_iff]
  apply or_congr_right
  constructor
  · rintro ⟨decl, hdecl, hfails⟩
    have htype := type?_of_requiredType hdecl
    cases decl with
    | vector component count =>
        have hcomponent := fails_scalarBase_iff.mp (Fails.bind_pure_iff.mp hfails)
        exact ⟨component, count, htype, hcomponent⟩
    | _ => simp [Fails.bind_iff, fails_scalarBase_iff, htype] at hfails
  · rintro ⟨component, count, htype, hcomponent⟩
    refine ⟨.vector component count, requiredType_of_type? htype, ?_⟩
    exact Fails.bind_iff.mpr (.inl (fails_scalarBase_iff.mpr hcomponent))

theorem fails_arrayLength_iff : Fails (module.arrayLength id) ↔
    ∃ element length, module.type? id = some (.array element length) ∧
      ∀ value, module.constant? length = some value → UInt32.size ≤ value.toNat := by
  unfold arrayLength
  constructor
  · intro hfails
    split at hfails
    next element length htype =>
      refine ⟨element, length, htype, ?_⟩
      intro value hvalue
      by_contra hsmall
      simp only [hvalue, if_pos (Nat.lt_of_not_le hsmall), Fails.not_ok] at hfails
    next => exact absurd hfails (Fails.not_ok none)
  · rintro ⟨element, length, htype, hlength⟩
    simp only [htype]
    cases hvalue : module.constant? length with
    | none => exact Fails.error _
    | some value =>
        simp only [if_neg (Nat.not_lt.mpr (hlength value hvalue))]
        exact Fails.error _

theorem fails_arrayDims_iff (hacyclic : module.ArrayAcyclicFrom id) :
    Fails (module.arrayDims id) ↔
      ∃ array element length, Relation.ReflTransGen module.Element array id ∧
        module.type? array = some (.array element length) ∧
        ∀ value, module.constant? length = some value → UInt32.size ≤ value.toNat := by
  simp only [arrayDims, Fails.mapM_iff, hacyclic.mem_arrayWrappers_iff, fails_arrayLength_iff]
  constructor
  · rintro ⟨array, ⟨hnested, -⟩, element, length, htype, hlength⟩
    exact ⟨array, element, length, hnested, htype, hlength⟩
  · rintro ⟨array, element, length, hnested, htype, hlength⟩
    exact ⟨array, ⟨hnested, by simp only [element?, htype, Option.isSome_some]⟩, element, length,
      htype, hlength⟩

theorem shapeless_of_fails (hacyclic : module.ArrayAcyclicFrom id)
    (hfails : Fails (module.typeInfo id)) : module.Shapeless id := by
  rcases Fails.bind_iff.mp hfails with hdims | ⟨dims, -, hfails⟩
  · obtain ⟨array, element, length, hnested, htype, hlength⟩ :=
      (fails_arrayDims_iff hacyclic).mp hdims
    exact .length hnested htype hlength
  rcases Fails.bind_iff.mp hfails with hinner | ⟨decl, hdecl, hfails⟩
  · exact .inner (fails_requiredType_iff.mp hinner)
  have htype := type?_of_requiredType hdecl
  cases decl with
  | bool | int | float => simp [Fails.bind_iff, fails_scalarBase_iff, htype] at hfails
  | vector component count =>
      exact .component htype (fails_scalarBase_iff.mp (Fails.bind_pure_iff.mp hfails))
  | matrix column columns =>
      rcases fails_vectorShape_iff.mp (Fails.bind_pure_iff.mp hfails) with
        hcolumn | ⟨component, count, hcolumn, hcomponent⟩
      · exact .column htype hcolumn
      · exact .columnComponent htype hcolumn hcomponent
  | _ => exact absurd hfails (Fails.not_ok _)

theorem Shapeless.fails (hshapeless : module.Shapeless id)
    (hacyclic : module.ArrayAcyclicFrom id) : Fails (module.typeInfo id) := by
  rw [typeInfo, Fails.bind_iff]
  cases hdims : module.arrayDims id with
  | error cause => exact .inl (Fails.error cause)
  | ok dims =>
      refine .inr ⟨dims, rfl, Fails.bind_iff.mpr ?_⟩
      cases hshapeless with
      | length hnested htype hlength =>
          have hfails := (fails_arrayDims_iff hacyclic).mpr ⟨_, _, _, hnested, htype, hlength⟩
          rw [hdims] at hfails
          exact absurd hfails (Fails.not_ok dims)
      | inner htype => exact .inl (fails_requiredType_iff.mpr htype)
      | component htype hcomponent =>
          refine .inr ⟨_, requiredType_of_type? htype, Fails.bind_iff.mpr (.inl ?_)⟩
          exact fails_scalarBase_iff.mpr hcomponent
      | column htype hcolumn =>
          refine .inr ⟨_, requiredType_of_type? htype, Fails.bind_iff.mpr (.inl ?_)⟩
          exact fails_vectorShape_iff.mpr (.inl hcolumn)
      | columnComponent htype hcolumn hcomponent =>
          refine .inr ⟨_, requiredType_of_type? htype, Fails.bind_iff.mpr (.inl ?_)⟩
          exact fails_vectorShape_iff.mpr (.inr ⟨_, _, hcolumn, hcomponent⟩)

/-- Where arrays are not inside themselves, a type whose shape is known has the data type of what is
inside its arrays, and its shape is unknown exactly if something is missing that it is made of. -/
theorem typeInfo_describes (hacyclic : module.ArrayAcyclicFrom id) :
    (∀ info, module.typeInfo id = .ok info → ∀ dataType,
      DataType.classify info.base info.width info.columns = dataType ↔
        module.IsDataType (module.elementType id) dataType) ∧
    (Fails (module.typeInfo id) ↔ module.Shapeless id) := by
  constructor
  · intro info hinfo dataType
    exact classify_eq_iff_isDataType hinfo
  · constructor
    · exact shapeless_of_fails hacyclic
    · intro hshapeless
      exact hshapeless.fails hacyclic

/-- Arrays of matrices of three columns with two floats each, an array whose length is not known,
and a matrix of columns that are not declared. -/
def wrappedMatrices : Module where
  types := .ofRows [(1, .float 32), (2, .vector 1 2), (3, .matrix 2 3), (4, .array 3 10),
    (5, .runtimeArray 4), (6, .array 5 11), (9, .matrix 8 2)]
  constants := .ofRows [(10, 6)]

theorem typeInfo_describes_wrappedMatrices :
    wrappedMatrices.ArrayAcyclic ∧
      wrappedMatrices.typeInfo 5 = .ok ⟨.float32, 2, 3, [none, some 6], 3, none⟩ ∧
      wrappedMatrices.IsDataType 3 .vec2 ∧
      wrappedMatrices.typeInfo 6 = .error (.undefinedLength 11) ∧ wrappedMatrices.Shapeless 6 ∧
      wrappedMatrices.typeInfo 9 = .error (.undefined 8) ∧ wrappedMatrices.Shapeless 9 := by
  have hacyclic : wrappedMatrices.ArrayAcyclic := (acyclic_of_rows rfl).arrayAcyclic
  have hmatrices : wrappedMatrices.typeInfo 5 =
      .ok ⟨.float32, 2, 3, [none, some 6], 3, none⟩ := by
    decide +kernel
  have hlength : wrappedMatrices.typeInfo 6 = .error (.undefinedLength 11) := by
    decide +kernel
  have hcolumn : wrappedMatrices.typeInfo 9 = .error (.undefined 8) := by
    decide +kernel
  refine ⟨hacyclic, hmatrices, ?_, hlength, ?_, hcolumn, ?_⟩
  · obtain ⟨hdataType, -⟩ := typeInfo_describes (hacyclic.arrayAcyclicFrom 5)
    exact (hdataType _ hmatrices .vec2).mp rfl
  · obtain ⟨-, hfails⟩ := typeInfo_describes (hacyclic.arrayAcyclicFrom 6)
    exact hfails.mp ⟨_, hlength⟩
  · obtain ⟨-, hfails⟩ := typeInfo_describes (hacyclic.arrayAcyclicFrom 9)
    exact hfails.mp ⟨_, hcolumn⟩

end Module

end ShaderInterface
