import Mathlib.Data.Finset.Card
import Mathlib.Data.Finset.Filter
import Mathlib.Logic.Relation
import ShaderInterface.Module.Layout
import ShaderInterface.Proofs.Except

/-!
# The graph of types

A type is put together from other types. If no type is part of itself, every descent into parts
passes each declared type at most once. The number of declarations therefore bounds every descent,
and questions that descend at most that deep answer as if there were no bound.
-/

namespace ShaderInterface

/-- The types that a type is put together from. A pointer only refers to another type. -/
def TypeDecl.parts : TypeDecl → List Ident
  | .vector component _ => [component]
  | .matrix column _ => [column]
  | .array element _ => [element]
  | .runtimeArray element => [element]
  | .struct members => members
  | _ => []

namespace Module

variable (module : Module)

/-- One type is declared with the other as an element, a member, a component or a column. -/
def Part (part whole : Ident) : Prop :=
  ∃ decl, module.type? whole = some decl ∧ part ∈ decl.parts

/-- No type is part of itself, directly or through other types. -/
def Acyclic : Prop :=
  ∀ id, ¬ Relation.TransGen module.Part id id

/-- Neither the type nor any type that it is put together from is part of itself. -/
def AcyclicFrom (id : Ident) : Prop :=
  ∀ part, Relation.ReflTransGen module.Part part id → ¬ Relation.TransGen module.Part part part

/-- One type is an array with the other as its elements. -/
def Element (element array : Ident) : Prop :=
  module.element? array = some element

/-- No array is inside itself, directly or through other arrays. -/
def ArrayAcyclic : Prop :=
  ∀ id, ¬ Relation.TransGen module.Element id id

/-- Neither the type nor any type inside its arrays is inside itself. -/
def ArrayAcyclicFrom (id : Ident) : Prop :=
  ∀ inner, Relation.ReflTransGen module.Element inner id →
    ¬ Relation.TransGen module.Element inner inner

/-- The identifiers under which types are declared. -/
def typeIds : Finset Ident :=
  (module.types.writes.map Prod.fst).toFinset

open scoped Classical in
/-- How many declared types a descent along a relation can pass, the first one included. -/
noncomputable def depth (below : Ident → Ident → Prop) (id : Ident) : Nat :=
  (module.typeIds.filter fun inner => Relation.ReflTransGen below inner id).card

variable {module}

theorem typeOf_of_some {id : Ident} {decl : TypeDecl} (htype : module.type? id = some decl) :
    module.typeOf id = .ok decl := by
  simp only [typeOf, htype]

theorem typeOf_of_none {id : Ident} (htype : module.type? id = none) :
    module.typeOf id = .error (.undefinedType id) := by
  simp only [typeOf, htype]

theorem type?_of_typeOf {id : Ident} {decl : TypeDecl} (hdecl : module.typeOf id = .ok decl) :
    module.type? id = some decl := by
  cases htype : module.type? id with
  | none => simp [typeOf_of_none htype] at hdecl
  | some declared =>
      rw [typeOf_of_some htype] at hdecl
      cases hdecl
      rfl

theorem structMembers_of_struct {id : Ident} {members : List Ident}
    (htype : module.type? id = some (.struct members)) :
    module.structMembers id = .ok members := by
  unfold structMembers
  rw [typeOf_of_some htype]
  rfl

theorem mem_typeIds_of_type? {id : Ident} {decl : TypeDecl}
    (htype : module.type? id = some decl) : id ∈ module.typeIds := by
  simp only [type?, Table.get?, Option.map_eq_some_iff] at htype
  obtain ⟨row, hfind, -⟩ := htype
  have hkey : row.1 = id := by simpa using List.find?_some hfind
  simp only [typeIds, List.mem_toFinset, List.mem_map]
  exact ⟨row, List.mem_of_find?_eq_some hfind, hkey⟩

theorem Part.mem_typeIds {part whole : Ident} (hpart : module.Part part whole) :
    whole ∈ module.typeIds := by
  obtain ⟨decl, htype, -⟩ := hpart
  exact mem_typeIds_of_type? htype

theorem part_of_element? {id element : Ident} (helement : module.element? id = some element) :
    module.Part element id := by
  unfold element? at helement
  split at helement
  next htype => exact ⟨_, htype, by simp_all [TypeDecl.parts]⟩
  next htype => exact ⟨_, htype, by simp_all [TypeDecl.parts]⟩
  next => simp at helement

theorem depth_le_size (module : Module) (below : Ident → Ident → Prop) (id : Ident) :
    module.depth below id ≤ module.types.size := by
  classical
  calc
    module.depth below id ≤ module.typeIds.card := Finset.card_filter_le _ _
    _ ≤ (module.types.writes.map Prod.fst).length := List.toFinset_card_le _
    _ = module.types.size := List.length_map _

/-- A descent that starts one step further down passes fewer types, unless it comes back. -/
theorem depth_lt {below : Ident → Ident → Prop} {inner outer : Ident}
    (houter : outer ∈ module.typeIds) (hacyclic : ¬ Relation.TransGen below outer outer)
    (hbelow : below inner outer) : module.depth below inner < module.depth below outer := by
  classical
  apply Finset.card_lt_card
  apply Finset.ssubset_iff_subset_ne.mpr
  refine ⟨?_, ?_⟩
  -- what a descent from the inner type passes is passed from the outer one too
  · intro id hid
    obtain ⟨hdeclared, hreach⟩ := Finset.mem_filter.mp hid
    exact Finset.mem_filter.mpr ⟨hdeclared, hreach.tail hbelow⟩
  -- but the outer type itself is not, or it would be below itself
  · intro heq
    have hself : outer ∈ module.typeIds.filter fun id => Relation.ReflTransGen below id outer :=
      Finset.mem_filter.mpr ⟨houter, Relation.ReflTransGen.refl⟩
    rw [← heq] at hself
    exact hacyclic (Relation.TransGen.tail' (Finset.mem_filter.mp hself).2 hbelow)

theorem Acyclic.acyclicFrom (hacyclic : module.Acyclic) (id : Ident) : module.AcyclicFrom id :=
  fun part _ => hacyclic part

namespace AcyclicFrom

theorem of_part {part whole : Ident} (hacyclic : module.AcyclicFrom whole)
    (hpart : module.Part part whole) : module.AcyclicFrom part :=
  fun inner hinner => hacyclic inner (hinner.tail hpart)

/-- A descent from a part passes fewer types than one from the whole. -/
theorem depth_lt {part whole : Ident} (hacyclic : module.AcyclicFrom whole)
    (hpart : module.Part part whole) :
    module.depth module.Part part < module.depth module.Part whole :=
  Module.depth_lt hpart.mem_typeIds (hacyclic whole .refl) hpart

/-- What holds of a type as soon as it holds of its parts holds of every type without cycles. -/
@[elab_as_elim]
theorem induction {motive : Ident → Prop} {id : Ident} (hacyclic : module.AcyclicFrom id)
    (hstep : ∀ id, module.AcyclicFrom id → (∀ part, module.Part part id → motive part) →
      motive id) : motive id := by
  induction hdepth : module.depth module.Part id using Nat.strong_induction_on generalizing id with
  | _ depth ih =>
      apply hstep id hacyclic
      intro part hpart
      exact ih _ (hdepth ▸ hacyclic.depth_lt hpart) (hacyclic.of_part hpart) rfl

end AcyclicFrom

/-- A numbering in which every part comes before the whole rules out cycles. -/
theorem acyclic_of_lt (rank : Ident → Nat)
    (hrank : ∀ part whole, module.Part part whole → rank part < rank whole) :
    module.Acyclic := by
  have hpath : ∀ part whole, Relation.TransGen module.Part part whole →
      rank part < rank whole := by
    intro part whole hpath
    induction hpath with
    | single hpart => exact hrank _ _ hpart
    | tail _ hpart ih => exact ih.trans (hrank _ _ hpart)
  intro id hcycle
  exact Nat.lt_irrefl _ (hpath id id hcycle)

/-- No type is part of itself if types are declared in the order of their identifiers. -/
theorem acyclic_of_rows
    (hrows : (module.types.writes.all fun row =>
      row.2.parts.all fun part => part.toNat < row.1.toNat) = true) : module.Acyclic := by
  apply acyclic_of_lt UInt32.toNat
  rintro part whole ⟨decl, htype, hpart⟩
  simp only [type?, Table.get?, Option.map_eq_some_iff] at htype
  obtain ⟨row, hfind, rfl⟩ := htype
  have hkey : row.1 = whole := by simpa using List.find?_some hfind
  have hrow := List.all_eq_true.mp hrows row (List.mem_of_find?_eq_some hfind)
  exact hkey ▸ of_decide_eq_true (List.all_eq_true.mp hrow part hpart)

/-! ## Sizes without a bound -/

section

variable {size size' : Ident → Except ModuleError UInt32} {id : Ident}

theorem memberSizeBy_congr (member : UInt32)
    (hsize : ∀ part, module.Part part id → size part = size' part) :
    module.memberSizeBy size id member = module.memberSizeBy size' id member := by
  unfold memberSizeBy structMembers
  cases htype : module.type? id with
  | none => simp only [typeOf_of_none htype, error_bind]
  | some decl =>
      simp only [typeOf_of_some htype, ok_bind]
      cases decl with
      | struct members =>
          cases hmember : members[member.toNat]? with
          | none => simp only [pure_eq_ok, ok_bind, hmember]
          | some type =>
              have hpart : module.Part type id := ⟨_, htype, List.mem_of_getElem? hmember⟩
              simp only [pure_eq_ok, ok_bind, hmember, hsize type hpart]
      | _ => rfl

theorem structSizeBy_congr (hsize : ∀ part, module.Part part id → size part = size' part) :
    module.structSizeBy size id = module.structSizeBy size' id := by
  simp only [structSizeBy, memberSizeBy_congr _ hsize]

/-- The size of a type depends on the sizes of its parts alone. -/
theorem sizeBy_congr (hsize : ∀ part, module.Part part id → size part = size' part) :
    module.sizeBy size id = module.sizeBy size' id := by
  unfold sizeBy
  cases htype : module.type? id with
  | none => simp only [typeOf_of_none htype, error_bind]
  | some decl =>
      have hpart : ∀ part ∈ decl.parts, size part = size' part :=
        fun part hmem => hsize part ⟨decl, htype, hmem⟩
      simp only [typeOf_of_some htype, ok_bind]
      cases decl with
      | vector component count => simp only [hpart component (List.mem_singleton_self _)]
      | matrix column count => simp only [hpart column (List.mem_singleton_self _)]
      | array element length =>
          simp only [arrayStrideBy, hpart element (List.mem_singleton_self _)]
      | struct members => exact structSizeBy_congr hsize
      | _ => rfl

end

theorem sizeWithin_succ {bound : Nat} {id : Ident} (hacyclic : module.AcyclicFrom id)
    (hdepth : module.depth module.Part id < bound) :
    module.sizeWithin (bound + 1) id = module.sizeWithin bound id := by
  induction bound generalizing id with
  | zero => omega
  | succ bound ih =>
      apply sizeBy_congr
      intro part hpart
      have hlt := hacyclic.depth_lt hpart
      exact ih (hacyclic.of_part hpart) (by omega)

/-- Without cycles the bound on the nesting of types is never reached, so the size of a type is
computed from the sizes of its parts. -/
theorem declaredSize_eq {id : Ident} (hacyclic : module.AcyclicFrom id) :
    module.declaredSize id = module.sizeBy module.declaredSize id := by
  have hdepth := module.depth_le_size module.Part id
  calc
    module.declaredSize id = module.sizeWithin (module.types.size + 1 + 1) id :=
      (sizeWithin_succ hacyclic (by omega)).symm
    _ = module.sizeBy module.declaredSize id := rfl

theorem declaredSize_eq_sizeWithin {bound : Nat} {id : Ident} (hacyclic : module.AcyclicFrom id)
    (hbound : module.types.size + 1 ≤ bound) :
    module.declaredSize id = module.sizeWithin bound id := by
  have hdepth := module.depth_le_size module.Part id
  induction bound, hbound using Nat.le_induction with
  | base => rfl
  | succ bound hle ih => rw [ih, sizeWithin_succ hacyclic (by omega)]

/-! ## Arrays without a bound -/

theorem ArrayAcyclic.arrayAcyclicFrom (hacyclic : module.ArrayAcyclic) (id : Ident) :
    module.ArrayAcyclicFrom id :=
  fun inner _ => hacyclic inner

/-- Elements are parts, so without cycles of parts there are none of arrays. -/
theorem AcyclicFrom.arrayAcyclicFrom {id : Ident} (hacyclic : module.AcyclicFrom id) :
    module.ArrayAcyclicFrom id := by
  have hpart : ∀ element array, module.Element element array → module.Part element array :=
    fun _ _ => part_of_element?
  intro inner hinner hcycle
  exact hacyclic inner (Relation.ReflTransGen.mono hpart _ _ hinner)
    (Relation.TransGen.mono hpart _ _ hcycle)

theorem Acyclic.arrayAcyclic (hacyclic : module.Acyclic) : module.ArrayAcyclic :=
  fun id => (hacyclic.acyclicFrom id).arrayAcyclicFrom id .refl

namespace ArrayAcyclicFrom

variable {id element : Ident}

theorem of_element? (hacyclic : module.ArrayAcyclicFrom id)
    (helement : module.element? id = some element) : module.ArrayAcyclicFrom element :=
  fun inner hinner => hacyclic inner (hinner.tail helement)

theorem depth_lt (hacyclic : module.ArrayAcyclicFrom id)
    (helement : module.element? id = some element) :
    module.depth module.Element element < module.depth module.Element id :=
  Module.depth_lt (part_of_element? helement).mem_typeIds (hacyclic id .refl) helement

/-- As many steps as there are types to pass lead to a type that is no array. -/
theorem element?_unwrapUpTo {bound : Nat} (hacyclic : module.ArrayAcyclicFrom id)
    (hdepth : module.depth module.Element id ≤ bound) :
    module.element? (module.unwrapUpTo bound id).2 = none := by
  induction bound generalizing id with
  | zero =>
      cases helement : module.element? id with
      | none => exact helement
      | some element =>
          have hlt := hacyclic.depth_lt helement
          omega
  | succ bound ih =>
      rw [unwrapUpTo]
      cases helement : module.element? id with
      | none => exact helement
      | some element =>
          have hlt := hacyclic.depth_lt helement
          exact ih (hacyclic.of_element? helement) (by omega)

theorem element?_elementType (hacyclic : module.ArrayAcyclicFrom id) :
    module.element? (module.elementType id) = none :=
  hacyclic.element?_unwrapUpTo (module.depth_le_size _ _)

end ArrayAcyclicFrom

/-- Further steps change nothing once a type is reached that is no array. -/
theorem unwrapUpTo_succ {bound : Nat} {id : Ident}
    (hinner : module.element? (module.unwrapUpTo bound id).2 = none) :
    module.unwrapUpTo (bound + 1) id = module.unwrapUpTo bound id := by
  induction bound generalizing id with
  | zero => simp only [unwrapUpTo, show module.element? id = none from hinner]
  | succ bound ih =>
      rw [unwrapUpTo] at hinner ⊢
      rw [unwrapUpTo]
      cases helement : module.element? id with
      | none => rfl
      | some element =>
          rw [helement] at hinner
          simp only [ih hinner]

namespace ArrayAcyclicFrom

variable {id element : Ident}

theorem unwrap_eq_unwrapUpTo {bound : Nat} (hacyclic : module.ArrayAcyclicFrom id)
    (hbound : module.types.size ≤ bound) : module.unwrap id = module.unwrapUpTo bound id := by
  induction bound, hbound using Nat.le_induction with
  | base => rfl
  | succ bound hle ih =>
      rw [ih, unwrapUpTo_succ]
      exact hacyclic.element?_unwrapUpTo ((module.depth_le_size _ _).trans hle)

/-- What is inside an array is what is inside its elements. -/
theorem elementType_of_element? (hacyclic : module.ArrayAcyclicFrom id)
    (helement : module.element? id = some element) :
    module.elementType id = module.elementType element := by
  have hunwrap := hacyclic.unwrap_eq_unwrapUpTo (Nat.le_succ module.types.size)
  rw [elementType, hunwrap, unwrapUpTo, helement]
  rfl

/-- The arrays around what is inside an array are those around its elements and the array
itself. -/
theorem arrayWrappers_of_element? (hacyclic : module.ArrayAcyclicFrom id)
    (helement : module.element? id = some element) :
    module.arrayWrappers id = id :: module.arrayWrappers element := by
  have hunwrap := hacyclic.unwrap_eq_unwrapUpTo (Nat.le_succ module.types.size)
  rw [arrayWrappers, hunwrap, unwrapUpTo, helement]
  rfl

end ArrayAcyclicFrom

theorem arrayWrappers_of_not_array {id : Ident} (helement : module.element? id = none) :
    module.arrayWrappers id = [] := by
  unfold arrayWrappers unwrap
  cases module.types.size with
  | zero => rfl
  | succ bound => simp only [unwrapUpTo, helement]

theorem elementType_of_not_array {id : Ident} (helement : module.element? id = none) :
    module.elementType id = id := by
  unfold elementType unwrap
  cases module.types.size with
  | zero => rfl
  | succ bound => simp only [unwrapUpTo, helement]

theorem elementType_of_struct {id : Ident} {members : List Ident}
    (htype : module.type? id = some (.struct members)) : module.elementType id = id :=
  elementType_of_not_array (by simp only [element?, htype])

/-- Any arrays around a type that is no array are taken off. -/
theorem elementType_eq_of_nested {inner outer : Ident} (hacyclic : module.ArrayAcyclicFrom outer)
    (hnested : Relation.ReflTransGen module.Element inner outer)
    (hinner : module.element? inner = none) : module.elementType outer = inner := by
  induction hnested with
  | refl => exact elementType_of_not_array hinner
  | tail _ helement ih =>
      rw [hacyclic.elementType_of_element? helement]
      exact ih (hacyclic.of_element? helement)

/-- A type with arrays around something that is no array is not inside itself. -/
theorem arrayAcyclicFrom_of_nested {inner outer : Ident}
    (hnested : Relation.ReflTransGen module.Element inner outer)
    (hinner : module.element? inner = none) : module.ArrayAcyclicFrom outer := by
  induction hnested with
  | refl =>
      intro id hid hcycle
      have hself : id = inner := by
        rcases hid.cases_tail with heq | ⟨element, -, helement⟩
        · exact heq.symm
        · simp [Element, hinner] at helement
      obtain ⟨element, -, helement⟩ := Relation.TransGen.tail'_iff.mp hcycle
      simp [Element, hself, hinner] at helement
  | @tail element array _ helement ih =>
      -- an array has one type of elements, so every way into it passes that type
      have hinside : ∀ id, Relation.TransGen module.Element id array →
          Relation.ReflTransGen module.Element id element := by
        intro id hpath
        obtain ⟨element', hpath, helement'⟩ := Relation.TransGen.tail'_iff.mp hpath
        cases Option.some.inj (Eq.trans (Eq.symm helement) helement')
        exact hpath
      intro id hid hcycle
      apply ih id _ hcycle
      rcases Relation.reflTransGen_iff_eq_or_transGen.mp hid with heq | hpath
      · exact hinside id (heq ▸ hcycle)
      · exact hinside id hpath

/-- What is no array is inside all arrays around it. -/
theorem elementType_of_nested {inner outer : Ident}
    (hnested : Relation.ReflTransGen module.Element inner outer)
    (hinner : module.element? inner = none) : module.elementType outer = inner :=
  elementType_eq_of_nested (arrayAcyclicFrom_of_nested hnested hinner) hnested hinner

/-- Only arrays are taken off to reach the type inside. -/
theorem nested_elementType (id : Ident) :
    Relation.ReflTransGen module.Element (module.elementType id) id := by
  have hbound : ∀ bound id, Relation.ReflTransGen module.Element
      (module.unwrapUpTo bound id).2 id := by
    intro bound
    induction bound with
    | zero => exact fun _ => .refl
    | succ bound ih =>
        intro id
        rw [unwrapUpTo]
        cases helement : module.element? id with
        | none => exact .refl
        | some element => exact (ih element).tail helement
  exact hbound module.types.size id

namespace ArrayAcyclicFrom

variable {id : Ident}

/-- What holds of types that are no arrays, and of an array as soon as it holds of its elements,
holds of every type that is not inside itself. -/
@[elab_as_elim]
theorem induction {motive : Ident → Prop} (hacyclic : module.ArrayAcyclicFrom id)
    (hinner : ∀ id, module.element? id = none → motive id)
    (harray : ∀ id element, module.ArrayAcyclicFrom id → module.element? id = some element →
      motive element → motive id) : motive id := by
  have hnot := hacyclic.element?_elementType
  have hnested : Relation.ReflTransGen module.Element (module.elementType id) id :=
    nested_elementType id
  generalize module.elementType id = inner at hnot hnested
  clear hacyclic
  induction hnested with
  | refl => exact hinner inner hnot
  | @tail element array hnested helement ih =>
      have hacyclic := arrayAcyclicFrom_of_nested (hnested.tail helement) hnot
      exact harray array element hacyclic helement ih

/-- The arrays around a type are all that one comes past on the way to what is inside. -/
theorem mem_arrayWrappers_iff (hacyclic : module.ArrayAcyclicFrom id) {array : Ident} :
    array ∈ module.arrayWrappers id ↔
      Relation.ReflTransGen module.Element array id ∧ (module.element? array).isSome := by
  refine hacyclic.induction (fun id hnot => ?_) (fun id element hacyclic helement ih => ?_)
  · rw [arrayWrappers_of_not_array hnot]
    constructor
    · nofun
    · rintro ⟨hnested, hsome⟩
      rcases hnested.cases_tail with rfl | ⟨element, -, helement⟩
      · simp [hnot] at hsome
      · simp [Element, hnot] at helement
  · rw [hacyclic.arrayWrappers_of_element? helement, List.mem_cons, ih]
    constructor
    · rintro (rfl | ⟨hnested, hsome⟩)
      · exact ⟨.refl, by simp [helement]⟩
      · exact ⟨hnested.tail helement, hsome⟩
    · rintro ⟨hnested, hsome⟩
      rcases hnested.cases_tail with rfl | ⟨element', hnested, helement'⟩
      · exact .inl rfl
      · cases Option.some.inj (Eq.trans (Eq.symm helement) helement')
        exact .inr ⟨hnested, hsome⟩

/-- There are no arrays left around what is inside all arrays. -/
theorem elementType_elementType (hacyclic : module.ArrayAcyclicFrom id) :
    module.elementType (module.elementType id) = module.elementType id :=
  elementType_of_not_array hacyclic.element?_elementType

end ArrayAcyclicFrom

end Module

end ShaderInterface
