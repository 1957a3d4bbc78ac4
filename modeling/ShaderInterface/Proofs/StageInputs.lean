import ShaderInterface.Proofs.BlockExtent
import ShaderInterface.Proofs.BlockLists
import ShaderInterface.Proofs.ResourceLists

/-!
# The inputs of a stage

The inputs that are listed are the resources of their category in the order of their locations.
Sorting neither loses nor repeats one, and inputs of one location stay in the order in which the
module lists them; no other list can be had from the same resources in this way. What a module
lists are the variables of the storage class of inputs that have a location and stand for values of
the user.
-/

namespace ShaderInterface

/-- The inputs are those that are listed, by location; those of one location are in the order in
which they are listed. -/
structure StablySorted (listed inputs : List StageInput) : Prop where
  perm : inputs.Perm listed
  ordered : inputs.Pairwise fun first second => first.location ≤ second.location
  stable : ∀ location, inputs.filter (·.location = location) = listed.filter (·.location = location)

theorem stablySorted_mergeSort (listed : List StageInput) :
    StablySorted listed
      (listed.mergeSort fun first second => first.location ≤ second.location) := by
  have htrans : ∀ first second third : StageInput,
      decide (first.location ≤ second.location) = true →
      decide (second.location ≤ third.location) = true →
      decide (first.location ≤ third.location) = true := by
    simp only [decide_eq_true_eq]
    exact fun _ _ _ => UInt32.le_trans
  have htotal : ∀ first second : StageInput,
      (decide (first.location ≤ second.location) || decide (second.location ≤ first.location)) =
        true := by
    simp only [Bool.or_eq_true, decide_eq_true_eq]
    exact fun first second => UInt32.le_total first.location second.location
  have hperm := List.mergeSort_perm listed
    fun first second => decide (first.location ≤ second.location)
  constructor
  case perm => exact hperm
  case ordered =>
    apply (List.pairwise_mergeSort htrans htotal listed).imp
    exact of_decide_eq_true
  case stable =>
    intro location
    -- inputs of one location are in order already, so sorting keeps them as a sublist
    have hequal : (listed.filter (·.location = location)).Pairwise
        fun first second => decide (first.location ≤ second.location) = true := by
      apply List.pairwise_of_forall_mem_list
      intro first hfirst second hsecond
      have hfirst := of_decide_eq_true (List.mem_filter.mp hfirst).2
      have hsecond := of_decide_eq_true (List.mem_filter.mp hsecond).2
      exact decide_eq_true (UInt32.le_of_eq (hfirst.trans hsecond.symm))
    have hsublist := (List.sublist_mergeSort htrans htotal hequal
      List.filter_sublist).filter (·.location = location)
    simp only [List.filter_filter, Bool.and_self] at hsublist
    exact (hsublist.eq_of_length (hperm.filter _).length_eq.symm).symm

section

variable {first second : List StageInput}

theorem mem_of_filter_eq (hsame : ∀ location,
      first.filter (·.location = location) = second.filter (·.location = location))
    {input : StageInput} (hmem : input ∈ first) : input ∈ second := by
  have hfiltered : input ∈ first.filter (·.location = input.location) :=
    List.mem_filter.mpr ⟨hmem, decide_eq_true rfl⟩
  rw [hsame] at hfiltered
  exact List.mem_of_mem_filter hfiltered

theorem location_le_of_mem {head input : StageInput} {tail : List StageInput}
    (hordered : (head :: tail).Pairwise fun first second => first.location ≤ second.location)
    (hmem : input ∈ head :: tail) : head.location ≤ input.location := by
  rcases List.mem_cons.mp hmem with rfl | hmem
  · exact UInt32.le_refl _
  · exact List.rel_of_pairwise_cons hordered hmem

/-- Among the lists in the order of locations there is only one with given inputs of each
location. -/
theorem eq_of_filter_eq
    (hfirst : first.Pairwise fun first second => first.location ≤ second.location)
    (hsecond : second.Pairwise fun first second => first.location ≤ second.location)
    (hsame : ∀ location,
      first.filter (·.location = location) = second.filter (·.location = location)) :
    first = second := by
  -- the heads have the lowest location of each list, so they are the first inputs of one location
  induction first generalizing second with
  | nil =>
      apply Eq.symm
      apply List.eq_nil_iff_forall_not_mem.mpr
      intro input hmem
      exact List.not_mem_nil (mem_of_filter_eq (fun location => (hsame location).symm) hmem)
  | cons input inputs ih =>
      have hmem := mem_of_filter_eq hsame List.mem_cons_self
      cases second with
      | nil => exact absurd hmem List.not_mem_nil
      | cons other others =>
          have hmem' := mem_of_filter_eq (fun location => (hsame location).symm)
            List.mem_cons_self
          have hlocation : other.location = input.location :=
            UInt32.le_antisymm (location_le_of_mem hsecond hmem) (location_le_of_mem hfirst hmem')
          have hhead : input = other := by
            have hheads := hsame input.location
            simp only [List.filter_cons, hlocation, decide_true, if_true] at hheads
            exact (List.cons.inj hheads).1
          subst hhead
          rw [ih hfirst.of_cons hsecond.of_cons]
          intro location
          have hrest := hsame location
          rw [List.filter_cons, List.filter_cons] at hrest
          by_cases hequal : decide (input.location = location) = true
          · rw [if_pos hequal, if_pos hequal] at hrest
            exact (List.cons.inj hrest).2
          · rw [if_neg hequal, if_neg hequal] at hrest
            exact hrest

end

theorem StablySorted.eq_mergeSort {listed inputs : List StageInput}
    (hsorted : StablySorted listed inputs) :
    inputs = listed.mergeSort fun first second => first.location ≤ second.location := by
  have hsorted' := stablySorted_mergeSort listed
  apply eq_of_filter_eq hsorted.ordered hsorted'.ordered
  intro location
  exact (hsorted.stable location).trans (hsorted'.stable location).symm

namespace Reflector

open Reflecting

variable (reflector : Reflector)

/-- The resource as a stage input. A location that is missing is 0. -/
structure IsStageInput (resource : Resource) (input : StageInput) : Prop where
  name : input.name = resource.name
  location : ∃ location, reflector.module.decoration resource.id Decoration.location =
    .ok location ∧ input.location = location.getD 0
  shape : ∃ info, reflector.module.typeInfo resource.typeId = .ok info ∧
    input.dataType = DataType.classify info.base info.width info.columns ∧
    input.arraySize = info.arrayLength

variable {reflector}

theorem outcome_stageInput_eq_ok {resource : Resource} {input : StageInput} :
    (reflector.stageInput resource).outcome = .ok input ↔
      reflector.IsStageInput resource input := by
  simp only [stageInput, typeInfoOf, outcome_bind, bind_eq_ok, outcome_decorationOf_eq_ok,
    outcome_ask_eq_ok, outcome_pure]
  constructor
  · rintro ⟨location, hlocation, info, hinfo, hinput⟩
    cases hinput
    exact ⟨rfl, hlocation, info, hinfo, rfl, rfl⟩
  · rintro ⟨hname, hlocation, info, hinfo, hdataType, harraySize⟩
    refine ⟨input.location, hlocation, info, hinfo, ?_⟩
    rw [TypeInfo.dataType, ← hname, ← hdataType, ← harraySize]

end Reflector

namespace Module

variable (module : Module)

/-- The variable is an input with a location and stands for a value of the user: neither it nor a
member of the struct that is inside its arrays is one of the pipeline. -/
structure IsUserInput (var : Variable) : Prop where
  storageClass : var.storageClass = StorageClass.input
  location : module.hasDecoration var.id Decoration.location = true
  not_builtIn : module.hasDecoration var.id Decoration.builtIn = false
  not_builtIn_member : ∀ type inner members, module.pointee var = .ok type →
    Relation.ReflTransGen module.Element inner type →
    module.type? inner = some (.struct members) →
    ∀ index : UInt32, index.toNat < members.length →
      module.hasMemberDecoration inner index Decoration.builtIn = false

/-- The resource is what the variable is listed as when its own name counts. -/
structure IsNamedResource (var : Variable) (resource : Resource) : Prop where
  id : resource.id = var.id
  typeId : module.pointee var = .ok resource.typeId
  name : resource.name = (module.name? var.id).getD ""

/-- The resources are the user's inputs in the order of their declaration. -/
structure ListsUserInputs (resources : List Resource) : Prop where
  inOrder : List.Forall₂ module.IsNamedResource
    (module.vars.filter (module.isListed .stageInput)) resources
  exact : ∀ var ∈ module.vars, module.isListed .stageInput var = true ↔ module.IsUserInput var

variable {module}

theorem any_memberIndices {members : List Ident} {p : UInt32 → Bool} :
    (memberIndices members).any p = true ↔
      ∃ index : UInt32, index.toNat < members.length ∧ p index = true := by
  simp only [memberIndices, List.any_map, List.any_eq_true, List.mem_range, Function.comp_apply]
  constructor
  · rintro ⟨index, hlt, hindex⟩
    refine ⟨index.toUInt32, ?_, hindex⟩
    exact (Nat.mod_le _ _).trans_lt hlt
  · rintro ⟨index, hlt, hindex⟩
    exact ⟨index.toNat, hlt, by simpa using hindex⟩

theorem isBuiltIn_eq_false_iff {var type : Ident} :
    module.isBuiltIn var type = false ↔
      module.hasDecoration var Decoration.builtIn = false ∧
        ∀ members, module.type? type = some (.struct members) →
          ∀ index : UInt32, index.toNat < members.length →
            module.hasMemberDecoration type index Decoration.builtIn = false := by
  rw [isBuiltIn, Bool.or_eq_false_iff]
  apply and_congr_right
  intro _
  split
  next members htype =>
    simp only [htype, Option.some.injEq, TypeDecl.struct.injEq, forall_eq', ← Bool.not_eq_true,
      any_memberIndices, not_exists, not_and]
  next hother =>
    simp only [true_iff]
    exact fun members htype => absurd htype (hother members)

/-- A struct that is inside the arrays of a type is what is left when they are taken off. -/
theorem elementType_eq_of_nested_struct {type inner : Ident} {members : List Ident}
    (hnested : Relation.ReflTransGen module.Element inner type)
    (htype : module.type? inner = some (.struct members)) : module.elementType type = inner :=
  elementType_of_nested hnested (by simp only [element?, htype])

theorem isListed_stageInput_iff {var : Variable} {type : Ident}
    (hpointee : module.pointee var = .ok type) :
    module.isListed .stageInput var = true ↔ module.IsUserInput var := by
  rw [isListed_of_pointee hpointee]
  simp only [belongs, Bool.and_eq_true, decide_eq_true_eq, Bool.not_eq_true',
    isBuiltIn_eq_false_iff]
  constructor
  · rintro ⟨⟨hclass, hlocation⟩, hvar, hmembers⟩
    refine ⟨hclass, hlocation, hvar, ?_⟩
    intro type' inner members hpointee' hnested htype
    cases hpointee.symm.trans hpointee'
    obtain rfl := elementType_eq_of_nested_struct hnested htype
    exact hmembers members htype
  · rintro ⟨hclass, hlocation, hvar, hmembers⟩
    refine ⟨⟨hclass, hlocation⟩, hvar, ?_⟩
    intro members
    exact hmembers type _ members hpointee (nested_elementType type)

/-- Every variable points somewhere when a list of resources can be made. -/
theorem exists_pointee_of_resources {kind : ResourceKind} {resources : List Resource}
    (hresources : module.resources kind = .ok resources) :
    ∀ var ∈ module.vars, ∃ type, module.pointee var = .ok type := by
  obtain ⟨placed, hplaced, -⟩ := bind_eq_ok.mp hresources
  have hpointees : List.Forall₂
      (fun var _ => (∃ type, module.pointee var = .ok type) ∧ True) module.vars placed := by
    apply (forall₂_placedVariables hplaced).imp
    intro var entry hentry
    exact ⟨⟨entry.2, hentry.2⟩, trivial⟩
  exact ((List.forall₂_and_left _ _).mp hpointees).1

/-- A module whose variables all point somewhere lists the user's inputs. -/
theorem listsUserInputs_of_resources {resources : List Resource}
    (hresources : module.resources .stageInput = .ok resources) :
    module.ListsUserInputs resources := by
  constructor
  case inOrder =>
    apply forall₂_resources_of hresources
    intro var type hpointee
    exact ⟨rfl, hpointee, rfl⟩
  case exact =>
    intro var hvar
    obtain ⟨type, hpointee⟩ := exists_pointee_of_resources hresources var hvar
    exact isListed_stageInput_iff hpointee

end Module

namespace Reflector

open Reflecting

/-- Whatever module is asked, there are stage inputs exactly if there is one for each listed
resource, and then they are sorted by location in a stable way. What a module lists are the user's
inputs. -/
theorem stageInputs_stablySorted (reflector : Reflector) (inputs : List StageInput) :
    (reflector.stageInputs.outcome = .ok inputs ↔
      ∃ resources listed, reflector.module.resources .stageInput = .ok resources ∧
        List.Forall₂ reflector.IsStageInput resources listed ∧ StablySorted listed inputs) ∧
    ∀ (module : Module) (resources : List Resource), reflector.module = module.introspection →
      reflector.module.resources .stageInput = .ok resources →
      module.ListsUserInputs resources := by
  constructor
  · simp only [Reflector.stageInputs, listed, outcome_bind, outcome_mapM, outcome_pure, bind_eq_ok,
      outcome_ask_eq_ok]
    constructor
    · rintro ⟨resources, hresources, listed, hlisted, hinputs⟩
      cases hinputs
      refine ⟨resources, listed, hresources, ?_, stablySorted_mergeSort listed⟩
      apply (Alike.forall₂_of_mapM hlisted).imp
      intro resource input hinput
      exact outcome_stageInput_eq_ok.mp hinput
    · rintro ⟨resources, listed, hresources, hlisted, hsorted⟩
      refine ⟨resources, hresources, listed, ?_, congrArg Except.ok hsorted.eq_mergeSort.symm⟩
      apply Alike.mapM_of_forall₂
      apply hlisted.imp
      intro resource input hinput
      exact outcome_stageInput_eq_ok.mpr hinput
  · intro module resources hmodule hresources
    rw [hmodule] at hresources
    exact Module.listsUserInputs_of_resources (Module.answer_eq_ok.mp hresources)

/-- A module with three inputs of the user, two of them with one location. Next to them are a block
of the pipeline in an array, a value of the pipeline, an input without a location and an output. -/
def tiedInputs : Module where
  types := .ofRows [(1, .float 32), (2, .vector 1 4), (4, .array 2 3), (5, .struct [1, 2]),
    (6, .array 5 3), (7, .pointer StorageClass.input 1), (8, .pointer StorageClass.input 4),
    (9, .pointer StorageClass.input 6), (10, .pointer StorageClass.output 1)]
  constants := .ofRows [(3, 2)]
  vars := [{ id := 20, type := 7, storageClass := StorageClass.input },
    { id := 21, type := 9, storageClass := StorageClass.input },
    { id := 22, type := 8, storageClass := StorageClass.input },
    { id := 23, type := 7, storageClass := StorageClass.input },
    { id := 24, type := 7, storageClass := StorageClass.input },
    { id := 25, type := 7, storageClass := StorageClass.input },
    { id := 26, type := 10, storageClass := StorageClass.output }]
  names := .ofRows [(20, "weight"), (22, "colors")]
  decorations := .ofRows [((20, Decoration.location), [3]), ((21, Decoration.location), [0]),
    ((22, Decoration.location), [1]), ((23, Decoration.location), [1]),
    ((24, Decoration.location), [0]), ((24, Decoration.builtIn), [0]),
    ((26, Decoration.location), [0])]
  memberDecorations := .ofRows [((5, 1, Decoration.builtIn), [0])]

/-- The module under reflection. -/
def tiedReflector : Reflector where
  module := tiedInputs.introspection

/-- The inputs of the module by location. -/
def tiedStageInputs : List StageInput :=
  [⟨"colors", 1, .vec4, 2⟩, ⟨"", 1, .float, 1⟩, ⟨"weight", 3, .float, 1⟩]

theorem outcome_stageInputs_tiedInputs :
    tiedReflector.stageInputs.outcome = .ok tiedStageInputs := by
  have hlisted : (tiedReflector.listed .stageInput >>= fun resources =>
      resources.mapM tiedReflector.stageInput).outcome =
        .ok [⟨"weight", 3, .float, 1⟩, ⟨"colors", 1, .vec4, 2⟩, ⟨"", 1, .float, 1⟩] := by
    decide +kernel
  rw [outcome_bind] at hlisted
  obtain ⟨resources, hresources, hlisted⟩ := bind_eq_ok.mp hlisted
  rw [Reflector.stageInputs, outcome_bind, hresources, ok_bind, outcome_bind, hlisted, ok_bind,
    outcome_pure]
  simp [List.mergeSort, List.MergeSort.Internal.splitInTwo, tiedStageInputs]

theorem stageInputs_stablySorted_tiedInputs :
    tiedReflector.stageInputs.outcome = .ok tiedStageInputs ∧
      ∃ resources listed, tiedReflector.module.resources .stageInput = .ok resources ∧
        List.Forall₂ tiedReflector.IsStageInput resources listed ∧
        StablySorted listed tiedStageInputs ∧ tiedInputs.ListsUserInputs resources := by
  obtain ⟨hsorted, hlists⟩ := stageInputs_stablySorted tiedReflector tiedStageInputs
  obtain ⟨resources, listed, hresources, hlisted, hinputs⟩ :=
    hsorted.mp outcome_stageInputs_tiedInputs
  exact ⟨outcome_stageInputs_tiedInputs, resources, listed, hresources, hlisted, hinputs,
    hlists tiedInputs resources rfl hresources⟩

end Reflector

end ShaderInterface
