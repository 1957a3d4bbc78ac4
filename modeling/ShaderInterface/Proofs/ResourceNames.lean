import ShaderInterface.Assembler
import ShaderInterface.Proofs.Shapes
import ShaderInterface.Reflection.Reflect

/-!
# What resources are called

Buffers and push constant blocks have two debug names to be called by, that of their type and that
of their variable. The preferred one is taken wherever it is present. An empty name is present, so
it hides the other name; where no empty name is preferred, the resource is called by the first of
the two names that says something.
-/

namespace ShaderInterface

/-- A name that says something. An empty one counts as missing. -/
def givenName (name : Option String) : Option String :=
  name.filter (· ≠ "")

/-- The first of two names that says something, empty if neither does. -/
def firstGivenName (preferred other : Option String) : String :=
  ((givenName preferred).or (givenName other)).getD ""

/-- The preferred name is present but empty, while the other one says something. -/
def HidesName (preferred other : Option String) : Prop :=
  preferred = some "" ∧ givenName other ≠ none

theorem givenName_some {text : String} (hne : text ≠ "") : givenName (some text) = some text := by
  simp [givenName, hne]

theorem givenName_empty : givenName (some "") = none := by
  simp [givenName]

theorem getD_givenName (name : Option String) : (givenName name).getD "" = name.getD "" := by
  cases name with
  | none => rfl
  | some text =>
      by_cases hempty : text = ""
      · rw [hempty, givenName_empty]
        rfl
      · rw [givenName_some hempty]

theorem getD_eq_empty_iff (name : Option String) : name.getD "" = "" ↔ givenName name = none := by
  cases name with
  | none => simp [givenName]
  | some text =>
      by_cases hempty : text = ""
      · simp [hempty, givenName_empty]
      · simp [givenName_some hempty, hempty]

theorem firstGivenName_of_none {preferred : Option String} (hnone : givenName preferred = none)
    (other : Option String) : firstGivenName preferred other = other.getD "" := by
  rw [firstGivenName, hnone, Option.none_or, getD_givenName]

theorem firstGivenName_of_some {text : String} (hne : text ≠ "") (other : Option String) :
    firstGivenName (some text) other = text := by
  rw [firstGivenName, givenName_some hne]
  rfl

/-- To take the preferred name wherever it is present is to take the first one that says something,
unless the preferred one hides the other. -/
theorem getD_or_eq_firstGivenName_iff (preferred other : Option String) :
    (preferred.or other).getD "" = firstGivenName preferred other ↔
      ¬ HidesName preferred other := by
  cases preferred with
  | none => simp [HidesName, firstGivenName_of_none (rfl : givenName none = none)]
  | some text =>
      by_cases hempty : text = ""
      · subst hempty
        rw [firstGivenName_of_none givenName_empty, Option.some_or, Option.getD_some, eq_comm,
          getD_eq_empty_iff, HidesName]
        simp
      · simp [HidesName, firstGivenName_of_some hempty, hempty]

/-- No name is left although one of the two says something exactly if that one is hidden. -/
theorem getD_or_eq_empty_iff (preferred other : Option String) :
    (preferred.or other).getD "" = "" ∧ firstGivenName preferred other ≠ "" ↔
      HidesName preferred other := by
  cases preferred with
  | none => simp [HidesName, firstGivenName_of_none (rfl : givenName none = none)]
  | some text =>
      by_cases hempty : text = ""
      · subst hempty
        rw [firstGivenName_of_none givenName_empty, Ne, getD_eq_empty_iff other, HidesName]
        simp
      · simp [HidesName, hempty]

namespace Module

variable (module : Module)

/-- The two names by which a resource of the category can be called, the preferred one first. Other
resources have only one. -/
def nameChoice? (kind : ResourceKind) (resource : Resource) :
    Option (Option String × Option String) :=
  match kind with
  | .uniformBuffer | .storageBuffer =>
      if module.isBufferBlock resource.baseTypeId then
        some (module.name? resource.baseTypeId, module.name? resource.id)
      else none
  | .pushConstant => some (module.name? resource.id, module.name? resource.baseTypeId)
  | _ => none

variable {module}

theorem name_of_resource? {kind : ResourceKind} {var : Variable} {type : Ident}
    {resource : Resource} (hfound : module.resource? kind var type = some resource) :
    resource.name = module.resourceName kind resource.id resource.baseTypeId := by
  simp only [resource?] at hfound
  split at hfound
  next =>
    cases hfound
    rfl
  next => simp at hfound

theorem name_eq_getD_or {kind : ResourceKind} {resources : List Resource} {resource : Resource}
    {preferred other : Option String} (hresources : module.resources kind = .ok resources)
    (hmem : resource ∈ resources)
    (hchoice : module.nameChoice? kind resource = some (preferred, other)) :
    resource.name = (preferred.or other).getD "" := by
  obtain ⟨placed, -, hresources⟩ := bind_eq_ok.mp hresources
  cases hresources
  obtain ⟨⟨var, type⟩, -, hfound⟩ := List.mem_filterMap.mp hmem
  rw [name_of_resource? hfound]
  unfold nameChoice? at hchoice
  unfold resourceName
  cases kind with
  | uniformBuffer | storageBuffer =>
      dsimp only at hchoice ⊢
      split at hchoice
      next hblock =>
        cases hchoice
        rw [if_pos hblock]
      next => cases hchoice
  | pushConstant =>
      cases hchoice
      rfl
  | _ => cases hchoice

/-- A block is called by its preferred name wherever that is present. It is therefore called by the
first of its names that says something unless the preferred one is empty and hides the other, and
then, and only then, it has no name although one of the two says something. -/
theorem name_eq_firstGivenName_iff {kind : ResourceKind} {resources : List Resource}
    {resource : Resource} {preferred other : Option String}
    (hresources : module.resources kind = .ok resources) (hmem : resource ∈ resources)
    (hchoice : module.nameChoice? kind resource = some (preferred, other)) :
    resource.name = (preferred.or other).getD "" ∧
      (resource.name = firstGivenName preferred other ↔ ¬ HidesName preferred other) ∧
      (resource.name = "" ∧ firstGivenName preferred other ≠ "" ↔ HidesName preferred other) := by
  rw [name_eq_getD_or hresources hmem hchoice]
  exact ⟨rfl, getD_or_eq_firstGivenName_iff preferred other, getD_or_eq_empty_iff preferred other⟩

/-- A uniform block whose type has an empty name and whose variable has one, and a push constant
block the other way round. -/
def anonymousBlocks : List UInt32 :=
  (Assembler.new.run
    [.typeFloat 32, .typeStruct [1], .typePointer StorageClass.uniform 2,
      .var 3 StorageClass.uniform, .name 2 "", .name 4 "ubo", .decorate 2 Decoration.block [],
      .typeStruct [1], .typePointer StorageClass.pushConstant 5,
      .var 6 StorageClass.pushConstant, .name 7 "", .name 5 "Push"]).assemble

theorem name_eq_firstGivenName_iff_anonymousBlocks : ∃ module,
    (ofWords anonymousBlocks).run.value = .ok module ∧
    module.resources .pushConstant = .ok [⟨7, 5, 5, ""⟩] ∧
    module.nameChoice? .pushConstant ⟨7, 5, 5, ""⟩ = some (some "", some "Push") ∧
    "" = ((some "").or (some "Push")).getD "" ∧
    ("" = firstGivenName (some "") (some "Push") ↔ ¬ HidesName (some "") (some "Push")) ∧
    ("" = "" ∧ firstGivenName (some "") (some "Push") ≠ "" ↔
      HidesName (some "") (some "Push")) := by
  obtain ⟨module, hmodule, hresources, hchoice⟩ : ∃ module,
      (ofWords anonymousBlocks).run.value = .ok module ∧
      module.resources .pushConstant = .ok [⟨7, 5, 5, ""⟩] ∧
      module.nameChoice? .pushConstant ⟨7, 5, 5, ""⟩ = some (some "", some "Push") :=
    ⟨_, rfl, rfl, rfl⟩
  exact ⟨module, hmodule, hresources, hchoice,
    name_eq_firstGivenName_iff hresources (List.mem_singleton_self _) hchoice⟩

/-- Each of the two blocks has a name that says something, and neither is called by it. -/
theorem anonymousBlocks_unnamed : ∃ module, (ofWords anonymousBlocks).run.value = .ok module ∧
    module.resources .uniformBuffer = .ok [⟨4, 2, 2, ""⟩] ∧
    module.nameChoice? .uniformBuffer ⟨4, 2, 2, ""⟩ = some (some "", some "ubo") ∧
    firstGivenName (some "") (some "ubo") = "ubo" ∧
    module.resources .pushConstant = .ok [⟨7, 5, 5, ""⟩] ∧
    module.nameChoice? .pushConstant ⟨7, 5, 5, ""⟩ = some (some "", some "Push") ∧
    firstGivenName (some "") (some "Push") = "Push" :=
  ⟨_, rfl, rfl, rfl, by decide, rfl, rfl, by decide⟩

end Module

end ShaderInterface
