import ShaderInterface.Proofs.Alike
import ShaderInterface.Proofs.DeclarationOrder

/-!
# The dimensions of an array

Whoever takes the arrays off a type and whoever asks for their lengths come past the same arrays, in
the same order. There is one dimension for each of them, and if a length is not known it is the
outermost such array that is reported.
-/

namespace ShaderInterface.Module

variable (module : Module)

/-- The arrays that one comes past from a type to what is inside all of them, the outermost
first. -/
inductive Layers : Ident → List Ident → Ident → Prop where
  | inner {id : Ident} (hinner : module.element? id = none) : Layers id [] id
  | array {id element inner : Ident} {arrays : List Ident} (helement : module.Element element id)
      (hlayers : Layers element arrays inner) : Layers id (id :: arrays) inner

/-- The dimension that an array has by its declaration and by the constant that it names. -/
inductive HasDimension (array : Ident) : Option UInt32 → Prop where
  | runtime {element : Ident} (htype : module.type? array = some (.runtimeArray element)) :
      HasDimension array none
  | sized {element length : Ident} {value : UInt64} {dim : UInt32}
      (htype : module.type? array = some (.array element length))
      (hvalue : module.constant? length = some value) (hsame : dim.toNat = value.toNat) :
      HasDimension array (some dim)

/-- Why the dimension of an array is not known, as the kind of error and the error itself. -/
inductive LengthFault (array : Ident) : ErrorKind → ModuleError → Prop where
  | undefined {element length : Ident} (htype : module.type? array = some (.array element length))
      (hnone : module.constant? length = none) :
      LengthFault array .undefinedId (.undefinedLength length)
  | tooLarge {element length : Ident} {value : UInt64}
      (htype : module.type? array = some (.array element length))
      (hvalue : module.constant? length = some value) (hlarge : UInt32.size ≤ value.toNat) :
      LengthFault array .limitExceeded (.lengthTooLarge value array)

/-- The error tells why the dimension of the outermost array without a known one is not known. -/
def ReportsOutermost (arrays : List Ident) (error : ModuleError) : Prop :=
  ∃ before array after, arrays = before ++ array :: after ∧
    (∀ outer ∈ before, ∀ kind cause, ¬ module.LengthFault outer kind cause) ∧
    module.LengthFault array error.kind error

/-- To what is inside all arrays and through their dimensions one comes past exactly these arrays,
and the dimensions, or the reason why they are not known, are theirs. -/
structure FollowsLayers (id : Ident) (arrays : List Ident) : Prop where
  layers : ∀ others inner, module.Layers id others inner ↔
    others = arrays ∧ inner = module.elementType id
  not_array : ∀ element length,
    module.type? (module.elementType id) ≠ some (.array element length)
  not_runtimeArray : ∀ element, module.type? (module.elementType id) ≠ some (.runtimeArray element)
  elementType_elementType : module.elementType (module.elementType id) = module.elementType id
  /-- Walking to what is inside, one array in each turn and without a bound, ends after them all. -/
  elementTurn : EndsAfter module.elementTurn arrays.length id (module.elementType id)
  /-- Walking through the dimensions ends after them too, or at the first that is not known. -/
  dimensionTurn : ∃ turns ≤ arrays.length,
    EndsAfter module.dimensionTurn turns ([], id) (module.arrayDims id)
  fails_iff : Fails (module.arrayDims id) ↔
    ∃ array ∈ arrays, ∃ kind error, module.LengthFault array kind error
  error_iff : ∀ error, module.arrayDims id = .error error ↔ module.ReportsOutermost arrays error
  ok_iff : ∀ dims, module.arrayDims id = .ok dims ↔ List.Forall₂ module.HasDimension arrays dims
  tail : ∀ element dims, module.Element element id → module.arrayDims id = .ok dims →
    module.arrayDims element = .ok dims.tail

variable {module} {id element array : Ident}

theorem LengthFault.kind_eq {kind : ErrorKind} {error : ModuleError}
    (hfault : module.LengthFault array kind error) : kind = error.kind := by
  cases hfault <;> rfl

theorem element_iff : module.Element element id ↔
    (∃ length, module.type? id = some (.array element length)) ∨
      module.type? id = some (.runtimeArray element) := by
  unfold Element element?
  split <;> simp_all

theorem arrayLength_eq_error_iff {error : ModuleError} :
    module.arrayLength array = .error error ↔ module.LengthFault array error.kind error := by
  unfold arrayLength
  constructor
  · intro hlength
    split at hlength
    next element length htype =>
      split at hlength
      next hnone =>
        cases hlength
        exact .undefined htype hnone
      next value hvalue =>
        split at hlength
        next => cases hlength
        next hlarge =>
          cases hlength
          exact .tooLarge htype hvalue (Nat.le_of_not_lt hlarge)
    next => cases hlength
  · generalize error.kind = kind
    intro hfault
    cases hfault with
    | undefined htype hnone => simp only [htype, hnone]
    | tooLarge htype hvalue hlarge =>
        simp only [htype, hvalue, if_neg (Nat.not_lt.mpr hlarge)]

/-- Asked for the length of an array one is told its dimension. Any other type has an answer too,
but no dimension. -/
theorem arrayLength_eq_ok_iff (helement : module.Element element array) {dim : Option UInt32} :
    module.arrayLength array = .ok dim ↔ module.HasDimension array dim := by
  unfold arrayLength
  constructor
  · intro hlength
    rcases element_iff.mp helement with ⟨length, htype⟩ | htype
    · simp only [htype] at hlength
      split at hlength
      next => cases hlength
      next value hvalue =>
        split at hlength
        next hsmall =>
          cases hlength
          exact .sized htype hvalue (UInt32.toNat_ofNat_of_lt' hsmall)
        next => cases hlength
    · simp only [htype] at hlength
      cases hlength
      exact .runtime htype
  · intro hdim
    cases hdim with
    | runtime htype => simp only [htype]
    | @sized element length value dim htype hvalue hsame =>
        have hsmall : value.toNat < UInt32.size := hsame ▸ dim.toNat_lt
        have hword : value.toUInt32 = dim := by
          apply UInt32.toNat_inj.mp
          rw [hsame]
          exact UInt32.toNat_ofNat_of_lt' hsmall
        simp only [htype, hvalue, if_pos hsmall, hword]

theorem fails_arrayLength_iff_lengthFault : Fails (module.arrayLength array) ↔
    ∃ kind error, module.LengthFault array kind error := by
  constructor
  · rintro ⟨error, herror⟩
    exact ⟨_, error, arrayLength_eq_error_iff.mp herror⟩
  · rintro ⟨kind, error, hfault⟩
    obtain rfl := hfault.kind_eq
    exact ⟨error, arrayLength_eq_error_iff.mpr hfault⟩

namespace Layers

variable {inner : Ident} {arrays : List Ident}

theorem forall₂_iff (hlayers : module.Layers id arrays inner) {dims : List (Option UInt32)} :
    List.Forall₂ (fun array dim => module.arrayLength array = .ok dim) arrays dims ↔
      List.Forall₂ module.HasDimension arrays dims := by
  induction hlayers generalizing dims with
  | inner => simp only [List.forall₂_nil_left_iff]
  | array helement _ ih =>
      simp only [List.forall₂_cons_left_iff, arrayLength_eq_ok_iff helement, ih]

theorem unique (hlayers : module.Layers id arrays inner) {others : List Ident} {other : Ident}
    (hother : module.Layers id others other) : others = arrays ∧ other = inner := by
  induction hlayers generalizing others with
  | inner hnot =>
      cases hother with
      | inner => exact ⟨rfl, rfl⟩
      | array helement => cases hnot.symm.trans helement
  | array helement _ ih =>
      cases hother with
      | inner hnot => cases hnot.symm.trans helement
      | array hsame hlayers =>
          cases Option.some.inj (helement.symm.trans hsame)
          obtain ⟨rfl, rfl⟩ := ih hlayers
          exact ⟨rfl, rfl⟩

end Layers

/-- Taking off all arrays comes past those whose lengths are asked for. -/
theorem layers_arrayWrappers (hacyclic : module.ArrayAcyclicFrom id) :
    module.Layers id (module.arrayWrappers id) (module.elementType id) := by
  refine hacyclic.induction (fun id hnot => ?_) (fun id element hacyclic helement ih => ?_)
  · rw [arrayWrappers_of_not_array hnot, elementType_of_not_array hnot]
    exact .inner hnot
  · rw [hacyclic.arrayWrappers_of_element? helement, hacyclic.elementType_of_element? helement]
    exact .array helement ih

theorem arrayDims_eq_ok_iff (hacyclic : module.ArrayAcyclicFrom id)
    {dims : List (Option UInt32)} : module.arrayDims id = .ok dims ↔
      List.Forall₂ module.HasDimension (module.arrayWrappers id) dims := by
  rw [arrayDims, Alike.mapM_eq_ok_iff, (layers_arrayWrappers hacyclic).forall₂_iff]

theorem arrayDims_eq_error_iff {error : ModuleError} : module.arrayDims id = .error error ↔
    module.ReportsOutermost (module.arrayWrappers id) error := by
  simp only [arrayDims, mapM_eq_error_iff, ReportsOutermost, arrayLength_eq_error_iff,
    ← Fails.not_iff, fails_arrayLength_iff_lengthFault, not_exists]

/-- The dimensions of an array are its own and those of its elements. -/
theorem arrayDims_tail (hacyclic : module.ArrayAcyclicFrom id)
    (helement : module.Element element id) {dims : List (Option UInt32)}
    (hdims : module.arrayDims id = .ok dims) : module.arrayDims element = .ok dims.tail := by
  rw [arrayDims, hacyclic.arrayWrappers_of_element? helement, List.mapM_cons] at hdims
  obtain ⟨dim, -, hdims⟩ := bind_eq_ok.mp hdims
  obtain ⟨rest, hrest, hdims⟩ := bind_eq_ok.mp hdims
  cases hdims
  exact hrest

/-- Taking the arrays off a type and asking for its dimensions come past the same arrays. What is
left is no array, and the answer is one dimension for each array or tells of the outermost one that
has none. -/
theorem arrayDims_followsLayers (hacyclic : module.ArrayAcyclicFrom id) :
    module.FollowsLayers id (module.arrayWrappers id) := by
  have hlayers := layers_arrayWrappers hacyclic
  have hinner : ∀ element, ¬ module.Element element (module.elementType id) := by
    intro element helement
    rw [Element, hacyclic.element?_elementType] at helement
    cases helement
  constructor
  case layers =>
    intro others inner
    refine ⟨hlayers.unique, ?_⟩
    rintro ⟨rfl, rfl⟩
    exact hlayers
  case not_array =>
    exact fun element length htype => hinner element (element_iff.mpr (.inl ⟨length, htype⟩))
  case not_runtimeArray => exact fun element htype => hinner element (element_iff.mpr (.inr htype))
  case elementType_elementType => exact hacyclic.elementType_elementType
  case elementTurn => exact hacyclic.endsAfter_elementType
  case dimensionTurn => exact hacyclic.endsAfter_arrayDims
  case fails_iff => simp only [arrayDims, Fails.mapM_iff, fails_arrayLength_iff_lengthFault]
  case error_iff => exact fun _ => arrayDims_eq_error_iff
  case ok_iff => exact fun _ => arrayDims_eq_ok_iff hacyclic
  case tail => exact fun _ _ helement => arrayDims_tail hacyclic helement

/-- Arrays with the greatest length, without one, with one that is too large, without one again and
with one that is unknown, each around the one before. -/
def layeredArrays : Module where
  types := .ofRows [(1, .float 32), (2, .array 1 10), (3, .runtimeArray 2), (4, .array 3 11),
    (5, .runtimeArray 4), (6, .array 5 12)]
  constants := .ofRows [(10, 4294967295), (11, 4294967296)]

theorem arrayDims_followsLayers_layeredArrays : layeredArrays.ArrayAcyclic ∧
    layeredArrays.Layers 6 [6, 5, 4, 3, 2] 1 ∧
    layeredArrays.arrayDims 3 = .ok [none, some 4294967295] ∧
    layeredArrays.arrayDims 2 = .ok [some 4294967295] ∧
    layeredArrays.arrayDims 5 = .error (.lengthTooLarge 4294967296 4) ∧
    layeredArrays.arrayDims 6 = .error (.undefinedLength 12) := by
  have hacyclic : layeredArrays.ArrayAcyclic := (acyclic_of_rows rfl).arrayAcyclic
  have hknown : layeredArrays.FollowsLayers 3 [3, 2] :=
    arrayDims_followsLayers (hacyclic.arrayAcyclicFrom 3)
  have hlarge : layeredArrays.FollowsLayers 5 [5, 4, 3, 2] :=
    arrayDims_followsLayers (hacyclic.arrayAcyclicFrom 5)
  have hunknown : layeredArrays.FollowsLayers 6 [6, 5, 4, 3, 2] :=
    arrayDims_followsLayers (hacyclic.arrayAcyclicFrom 6)
  have hdims : layeredArrays.arrayDims 3 = .ok [none, some 4294967295] :=
    (hknown.ok_iff _).mpr (.cons (.runtime rfl) (.cons (.sized rfl rfl rfl) .nil))
  refine ⟨hacyclic, (hunknown.layers _ _).mpr ⟨rfl, rfl⟩, hdims, hknown.tail 2 _ rfl hdims, ?_, ?_⟩
  · refine (hlarge.error_iff _).mpr ⟨[5], 4, [3, 2], rfl, ?_, .tooLarge rfl rfl (by decide)⟩
    intro outer houter kind cause hfault
    obtain rfl := List.mem_singleton.mp houter
    have hruntime : layeredArrays.type? 5 = some (.runtimeArray 4) := rfl
    cases hfault with
    | undefined htype => cases hruntime.symm.trans htype
    | tooLarge htype => cases hruntime.symm.trans htype
  · exact (hunknown.error_iff _).mpr ⟨[], 6, [5, 4, 3, 2], rfl, by simp, .undefined rfl rfl⟩

end ShaderInterface.Module
