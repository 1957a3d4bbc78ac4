import ShaderInterface.Proofs.Correspondence

/-!
# Similar modules

Two modules are similar along a relation between their identifiers if related identifiers are
declared and decorated in the same way, up to that relation. Questions about related identifiers
then have related answers, through arrays, shapes, sizes and resources. Names are no part of
similarity; how they are compared is said when the reflections are.
-/

namespace ShaderInterface

section

variable (ρ : Ident → Ident → Prop)

/-- Declarations that are alike and refer to related types. What a pointer refers to is left
open. -/
inductive TypeDecl.Similar : TypeDecl → TypeDecl → Prop
  | void : Similar .void .void
  | bool : Similar .bool .bool
  | int (width : UInt32) (signed : Bool) : Similar (.int width signed) (.int width signed)
  | float (width : UInt32) : Similar (.float width) (.float width)
  | vector {component component' : Ident} (count : UInt32) (hcomponent : ρ component component') :
      Similar (.vector component count) (.vector component' count)
  | matrix {column column' : Ident} (count : UInt32) (hcolumn : ρ column column') :
      Similar (.matrix column count) (.matrix column' count)
  | image {type type' : Ident} (dim : Dim) (sampled : UInt32) (htype : ρ type type') :
      Similar (.image type dim sampled) (.image type' dim sampled)
  | sampledImage {inner inner' : Ident} (hinner : ρ inner inner') :
      Similar (.sampledImage inner) (.sampledImage inner')
  | sampler : Similar .sampler .sampler
  | array {element element' length length' : Ident} (helement : ρ element element')
      (hlength : ρ length length') : Similar (.array element length) (.array element' length')
  | runtimeArray {element element' : Ident} (helement : ρ element element') :
      Similar (.runtimeArray element) (.runtimeArray element')
  | struct {members members' : List Ident} (hmembers : List.Forall₂ ρ members members') :
      Similar (.struct members) (.struct members')
  | pointer (storageClass : StorageClass) (pointee pointee' : Ident) :
      Similar (.pointer storageClass pointee) (.pointer storageClass pointee')
  | function : Similar .function .function
  | other : Similar .other .other

/-- Related variables of related types. -/
structure Variable.Similar (var var' : Variable) : Prop where
  id : ρ var.id var'.id
  type : ρ var.type var'.type
  storageClass : var.storageClass = var'.storageClass

/-- The same cause at related identifiers. Only the causes that a question can end in occur. -/
inductive ModuleError.Similar : ModuleError → ModuleError → Prop
  | notPointer {id id' : Ident} (hid : ρ id id') : Similar (.notPointer id) (.notPointer id')
  | cyclicType {id id' : Ident} (hid : ρ id id') : Similar (.cyclicType id) (.cyclicType id')
  | undefinedType {id id' : Ident} (hid : ρ id id') :
      Similar (.undefinedType id) (.undefinedType id')
  | undefinedLength {id id' : Ident} (hid : ρ id id') :
      Similar (.undefinedLength id) (.undefinedLength id')
  | undefined {id id' : Ident} (hid : ρ id id') : Similar (.undefined id) (.undefined id')
  | notStruct {id id' : Ident} (hid : ρ id id') : Similar (.notStruct id) (.notStruct id')
  | noMember {id id' : Ident} (member : UInt32) (hid : ρ id id') :
      Similar (.noMember id member) (.noMember id' member)
  | lengthTooLarge {array array' : Ident} (length : UInt64) (harray : ρ array array') :
      Similar (.lengthTooLarge length array) (.lengthTooLarge length array')
  | sizeTooLarge {id id' : Ident} (hid : ρ id id') : Similar (.sizeTooLarge id) (.sizeTooLarge id')
  | unsized {id id' : Ident} (hid : ρ id id') : Similar (.unsized id) (.unsized id')

/-- What two modules say about related identifiers is the same up to the relation. -/
structure Module.Similar (module module' : Module) : Prop where
  version : module.version = module'.version
  entryPoints : module.introspection.entryPoints = module'.introspection.entryPoints
  vars : List.Forall₂ (Variable.Similar ρ) module.vars module'.vars
  var? : ∀ id id', ρ id id' → Option.Rel (Variable.Similar ρ) (module.var? id) (module'.var? id')
  type? : ∀ id id', ρ id id' →
    Option.Rel (TypeDecl.Similar ρ) (module.type? id) (module'.type? id')
  /-- The pointers of variables refer to related types. -/
  pointees : ∀ var ∈ module.vars, ∀ var' storageClass pointee pointee',
    Variable.Similar ρ var var' →
    module.type? var.type = some (.pointer storageClass pointee) →
    module'.type? var'.type = some (.pointer storageClass pointee') → ρ pointee pointee'
  constant? : ∀ id id', ρ id id' → module.constant? id = module'.constant? id'
  decoration? : ∀ id id' decoration, ρ id id' →
    module.decoration? id decoration = module'.decoration? id' decoration
  memberDecoration? : ∀ id id' member decoration, ρ id id' →
    module.memberDecoration? id member decoration =
      module'.memberDecoration? id' member decoration

end

theorem isEmpty_eq_of_forall₂ {α β : Type} {R : α → β → Prop} {as : List α} {bs : List β}
    (hlists : List.Forall₂ R as bs) : as.isEmpty = bs.isEmpty := by
  cases hlists <;> rfl

theorem rel_getElem?_of_forall₂ {α β : Type} {R : α → β → Prop} {as : List α} {bs : List β}
    (hlists : List.Forall₂ R as bs) (index : Nat) : Option.Rel R as[index]? bs[index]? := by
  induction hlists generalizing index with
  | nil => exact .none
  | cons hhead _ ih =>
      cases index with
      | zero => exact .some hhead
      | succ index => exact ih index

namespace Module

/-- Answers with related values, or errors of the same cause at related identifiers. -/
abbrev Matches {α β : Type} (ρ : Ident → Ident → Prop) (R : α → β → Prop) :
    Except ModuleError α → Except ModuleError β → Prop :=
  Alike (ModuleError.Similar ρ) R

namespace Similar

variable {ρ : Ident → Ident → Prop} {module module' : Module} {id id' : Ident}

/-! ## Look-ups -/

section

variable (hsimilar : module.Similar ρ module') (hid : ρ id id')

include hsimilar hid

theorem hasDecoration (decoration : Decoration) :
    module.hasDecoration id decoration = module'.hasDecoration id' decoration := by
  rw [Module.hasDecoration, hsimilar.decoration? _ _ _ hid, Module.hasDecoration]

theorem decorationValue? (decoration : Decoration) :
    module.decorationValue? id decoration = module'.decorationValue? id' decoration := by
  rw [Module.decorationValue?, hsimilar.decoration? _ _ _ hid, Module.decorationValue?]

theorem hasMemberDecoration (member : UInt32) (decoration : Decoration) :
    module.hasMemberDecoration id member decoration =
      module'.hasMemberDecoration id' member decoration := by
  rw [Module.hasMemberDecoration, hsimilar.memberDecoration? _ _ _ _ hid,
    Module.hasMemberDecoration]

theorem memberDecorationValue? (member : UInt32) (decoration : Decoration) :
    module.memberDecorationValue? id member decoration =
      module'.memberDecorationValue? id' member decoration := by
  rw [Module.memberDecorationValue?, hsimilar.memberDecoration? _ _ _ _ hid,
    Module.memberDecorationValue?]

/-- Neither identifier is declared as a type, or both are and in a similar way. -/
theorem type?_cases : (module.type? id = none ∧ module'.type? id' = none) ∨
    ∃ decl decl', module.type? id = some decl ∧ module'.type? id' = some decl' ∧
      decl.Similar ρ decl' := by
  have htype := hsimilar.type? _ _ hid
  generalize module.type? id = found, module'.type? id' = found' at htype
  cases htype with
  | none => exact Or.inl ⟨rfl, rfl⟩
  | some hdecl => exact Or.inr ⟨_, _, rfl, rfl, hdecl⟩

theorem typeOf : Matches ρ (TypeDecl.Similar ρ) (module.typeOf id) (module'.typeOf id') := by
  unfold Module.typeOf
  obtain ⟨hnone, hnone'⟩ | ⟨decl, decl', hsome, hsome', hdecl⟩ := hsimilar.type?_cases hid
  · simp only [hnone, hnone']
    exact .error (.undefinedType hid)
  · simp only [hsome, hsome']
    exact .ok hdecl

/-! ## Arrays -/

theorem arrayLength :
    Matches ρ (· = ·) (module.arrayLength id) (module'.arrayLength id') := by
  unfold Module.arrayLength
  obtain ⟨hnone, hnone'⟩ | ⟨decl, decl', hsome, hsome', hdecl⟩ := hsimilar.type?_cases hid
  · simp only [hnone, hnone']
    exact .ok rfl
  simp only [hsome, hsome']
  cases hdecl with
  | array helement hlength =>
      simp only [hsimilar.constant? _ _ hlength]
      split
      next => exact .error (.undefinedLength hlength)
      next =>
        split
        next => exact .ok rfl
        next => exact .error (.lengthTooLarge _ hid)
  | _ => exact .ok rfl

theorem element? : Option.Rel ρ (module.element? id) (module'.element? id') := by
  unfold Module.element?
  obtain ⟨hnone, hnone'⟩ | ⟨decl, decl', hsome, hsome', hdecl⟩ := hsimilar.type?_cases hid
  · simp only [hnone, hnone']
    exact .none
  simp only [hsome, hsome']
  cases hdecl with
  | array helement hlength => exact .some helement
  | runtimeArray helement => exact .some helement
  | _ => exact .none

end

/-- Equally many arrays are around related types, and they are related. -/
theorem unwrapUpTo (hsimilar : module.Similar ρ module') (bound : Nat) (hid : ρ id id') :
    List.Forall₂ ρ (module.unwrapUpTo bound id).1 (module'.unwrapUpTo bound id').1 ∧
      ρ (module.unwrapUpTo bound id).2 (module'.unwrapUpTo bound id').2 := by
  induction bound generalizing id id' with
  | zero => exact ⟨.nil, hid⟩
  | succ bound ih =>
      have helement := hsimilar.element? hid
      simp only [Module.unwrapUpTo]
      generalize module.element? id = found, module'.element? id' = found' at helement ⊢
      cases helement with
      | none => exact ⟨.nil, hid⟩
      | some helement =>
          obtain ⟨hwrappers, hinner⟩ := ih helement
          exact ⟨.cons hid hwrappers, hinner⟩

/-! ## Sizes -/

theorem structMembers (hsimilar : module.Similar ρ module') (hid : ρ id id') :
    Matches ρ (List.Forall₂ ρ) (module.structMembers id) (module'.structMembers id') := by
  refine (hsimilar.typeOf hid).bind fun decl decl' _ _ hdecl => ?_
  cases hdecl with
  | struct hmembers => exact .ok hmembers
  | _ => exact .error (.notStruct hid)

theorem componentCount (hsimilar : module.Similar ρ module') (hid : ρ id id') :
    Matches ρ (· = ·) (module.componentCount id) (module'.componentCount id') := by
  refine (hsimilar.typeOf hid).bind fun decl decl' _ _ hdecl => ?_
  cases hdecl <;> exact .ok rfl

/-- A size is as large as its computation says, whatever it is the size of. -/
theorem matches_fits (size : Nat) (hid : ρ id id') :
    Matches ρ (· = ·) (fits size id) (fits size id') := by
  unfold fits
  split
  next => exact .ok rfl
  next => exact .error (.sizeTooLarge hid)

section

variable {size size' : Ident → Except ModuleError UInt32}
  (hsimilar : module.Similar ρ module')
  (hsize : ∀ type type', ρ type type' → Matches ρ (· = ·) (size type) (size' type'))

include hsimilar hsize

theorem memberSizeBy (hid : ρ id id') (member : UInt32) :
    Matches ρ (· = ·) (module.memberSizeBy size id member)
      (module'.memberSizeBy size' id' member) := by
  refine (hsimilar.structMembers hid).bind fun members members' _ _ hmembers => ?_
  have hmember := rel_getElem?_of_forall₂ hmembers member.toNat
  generalize members[member.toNat]? = found, members'[member.toNat]? = found' at hmember ⊢
  cases hmember with
  | none => exact .error (.noMember member hid)
  | some htype =>
      refine (hsimilar.typeOf htype).bind fun decl decl' _ _ hdecl => ?_
      cases hdecl with
      | matrix count hcolumn =>
          dsimp only
          rw [hsimilar.memberDecorationValue? hid, hsimilar.hasMemberDecoration hid]
          split
          next => exact hsize _ _ htype
          next stride _ =>
            -- the stride separates columns, or rows where these are stored
            split
            next =>
              refine (hsimilar.componentCount hcolumn).bind fun rows _ _ _ hrows => ?_
              subst hrows
              exact matches_fits _ htype
            next => exact matches_fits _ htype
      | _ => exact hsize _ _ htype

theorem structSizeBy (hid : ρ id id') :
    Matches ρ (· = ·) (module.structSizeBy size id) (module'.structSizeBy size' id') := by
  refine (hsimilar.structMembers hid).bind fun members members' _ _ hmembers => ?_
  simp only [isEmpty_eq_of_forall₂ hmembers, hmembers.length_eq,
    hsimilar.memberDecorationValue? hid]
  split
  next => exact .ok rfl
  next =>
    refine (hsimilar.memberSizeBy hsize hid _).bind fun last _ _ _ hlast => ?_
    subst hlast
    exact matches_fits _ hid

theorem arrayStrideBy {array array' element element' : Ident} (harray : ρ array array')
    (helement : ρ element element') :
    Matches ρ (· = ·) (module.arrayStrideBy size array element)
      (module'.arrayStrideBy size' array' element') := by
  unfold Module.arrayStrideBy
  rw [hsimilar.decorationValue? harray]
  split
  next => exact .ok rfl
  next => exact hsize _ _ helement

theorem sizeBy (hid : ρ id id') :
    Matches ρ (· = ·) (module.sizeBy size id) (module'.sizeBy size' id') := by
  refine (hsimilar.typeOf hid).bind fun decl decl' _ _ hdecl => ?_
  cases hdecl with
  | vector count hcomponent =>
      refine (hsize _ _ hcomponent).bind fun each _ _ _ heach => ?_
      subst heach
      exact matches_fits _ hid
  | matrix count hcolumn =>
      refine (hsize _ _ hcolumn).bind fun each _ _ _ heach => ?_
      subst heach
      exact matches_fits _ hid
  | array helement hlength =>
      refine (hsimilar.arrayLength hid).bind fun count _ _ _ hcount => ?_
      refine (hsimilar.arrayStrideBy hsize hid helement).bind fun stride _ _ _ hstride => ?_
      subst hcount hstride
      exact matches_fits _ hid
  | struct hmembers => exact hsimilar.structSizeBy hsize hid
  | bool | int | float | runtimeArray | pointer => exact .ok rfl
  | _ => exact .error (.unsized hid)

end

theorem sizeWithin (hsimilar : module.Similar ρ module') (bound : Nat) (hid : ρ id id') :
    Matches ρ (· = ·) (module.sizeWithin bound id) (module'.sizeWithin bound id') := by
  -- by the bound, as related types may have parts at any depth
  induction bound generalizing id id' with
  | zero => exact .error (.cyclicType hid)
  | succ bound ih => exact hsimilar.sizeBy (fun _ _ => ih) hid

end Similar

end Module

end ShaderInterface
