import ShaderInterface.Proofs.DebugNames
import ShaderInterface.Proofs.Reflectable

/-!
# What a reflection depends on

Reflection starts at the variables and follows their types. What a module says of identifiers that
are not met on the way has no influence on how its reflection ends, be it a type, a constant, a
name or a decoration. A module therefore need not be cleaned up before it is reflected.
-/

namespace ShaderInterface

/-- The identifiers in a declaration that reflection follows: the types that a shape depends on,
and the length of an array. The type behind a pointer is not among them. -/
def TypeDecl.links : TypeDecl → List Ident
  | .array element length => [element, length]
  | decl => decl.refs

theorem TypeDecl.mem_links_of_mem_refs {decl : TypeDecl} {id : Ident} (href : id ∈ decl.refs) :
    id ∈ decl.links := by
  cases decl with
  | array element length =>
      obtain rfl : id = element := List.mem_singleton.mp href
      exact List.mem_cons_self
  | _ => exact href

/-- A declaration is similar to itself if all it refers to is related to itself. -/
theorem TypeDecl.Similar.of_links {ρ : Ident → Ident → Prop} {decl : TypeDecl}
    (hlinks : ∀ id ∈ decl.links, ρ id id) : decl.Similar ρ decl := by
  cases decl with
  | vector component count => exact .vector count (hlinks _ List.mem_cons_self)
  | matrix column count => exact .matrix count (hlinks _ List.mem_cons_self)
  | image sampledType dim sampled => exact .image dim sampled (hlinks _ List.mem_cons_self)
  | sampledImage image => exact .sampledImage (hlinks _ List.mem_cons_self)
  | array element length =>
      have hlength : length ∈ (TypeDecl.array element length).links :=
        List.mem_cons_of_mem _ List.mem_cons_self
      exact .array (hlinks _ List.mem_cons_self) (hlinks _ hlength)
  | runtimeArray element => exact .runtimeArray (hlinks _ List.mem_cons_self)
  | struct members => exact .struct (List.forall₂_same.mpr hlinks)
  | _ => constructor

theorem rel_self {α : Type} {R : α → α → Prop} {found : Option α}
    (hfound : ∀ a, found = some a → R a a) : Option.Rel R found found := by
  cases found with
  | none => exact .none
  | some a => exact .some (hfound a rfl)

namespace Module

variable (module : Module)

/-- The identifiers that are met from the variables: the variables, their types, the types of their
objects, and whatever the declarations of such identifiers lead to. -/
inductive Relevant : Ident → Prop
  | var {var : Variable} (hvar : var ∈ module.vars) : Relevant var.id
  | pointer {var : Variable} (hvar : var ∈ module.vars) : Relevant var.type
  | pointee {var : Variable} {id : Ident} (hvar : var ∈ module.vars)
      (hpointee : module.pointee var = .ok id) : Relevant id
  | link {whole id : Ident} {decl : TypeDecl} (hwhole : Relevant whole)
      (htype : module.type? whole = some decl) (hlink : id ∈ decl.links) : Relevant id

/-- Two modules have the same version, entry points and variables, and say the same about the
given identifiers. About other identifiers each may say anything. -/
structure AgreeOn (ids : Ident → Prop) (module module' : Module) : Prop where
  version : module.version = module'.version
  entryPoints : module.entryPoints = module'.entryPoints
  vars : module.vars = module'.vars
  type? : ∀ id, ids id → module.type? id = module'.type? id
  constant? : ∀ id, ids id → module.constant? id = module'.constant? id
  name? : ∀ id, ids id → module.name? id = module'.name? id
  memberName? : ∀ id member, ids id → module.memberName? id member = module'.memberName? id member
  decoration? : ∀ id decoration, ids id →
    module.decoration? id decoration = module'.decoration? id decoration
  memberDecoration? : ∀ id member decoration, ids id →
    module.memberDecoration? id member decoration = module'.memberDecoration? id member decoration

variable {module} {module' : Module} {ρ : Ident → Ident → Prop} {id : Ident}

theorem Relevant.part {part whole : Ident} (hwhole : module.Relevant whole)
    (hpart : module.Part part whole) : module.Relevant part := by
  obtain ⟨decl, htype, hmem⟩ := hpart
  exact .link hwhole htype
    (TypeDecl.mem_links_of_mem_refs (TypeDecl.mem_refs_of_mem_parts hmem))

/-- All relevant identifiers are in a list that has the variables, their types and objects and, with
a declared type, all that it leads to. -/
theorem Relevant.mem_of_closed {ids : List Ident} (hrelevant : module.Relevant id)
    (hvars : (module.vars.all fun var => ids.contains var.id && ids.contains var.type &&
      (module.pointee var).toOption.all ids.contains) = true)
    (hlinks : (ids.all fun whole =>
      (module.type? whole).all fun decl => decl.links.all ids.contains) = true) : id ∈ ids := by
  induction hrelevant with
  | @var var hvar =>
      have hall := List.all_eq_true.mp hvars var hvar
      simp_all
  | @pointer var hvar =>
      have hall := List.all_eq_true.mp hvars var hvar
      simp_all
  | @pointee var id hvar hpointee =>
      have hall := List.all_eq_true.mp hvars var hvar
      simp_all [Except.toOption]
  | @link whole id decl _ htype hlink ih =>
      have hall := List.all_eq_true.mp hlinks whole ih
      simp only [htype, Option.all_some] at hall
      simpa using List.all_eq_true.mp hall id hlink

namespace AgreeOn

variable (hagree : module.AgreeOn module.Relevant module')

include hagree

/-! ## Cycles -/

theorem part {part whole : Ident} (hwhole : module.Relevant whole)
    (hpart : module'.Part part whole) : module.Part part whole := by
  obtain ⟨decl, htype, hmem⟩ := hpart
  exact ⟨decl, (hagree.type? whole hwhole).trans htype, hmem⟩

/-- A descent in the other module from a relevant type passes relevant types only, so it is one in
this module too. -/
theorem transGen {part whole : Ident} (hwhole : module.Relevant whole)
    (hpath : Relation.TransGen module'.Part part whole) :
    module.Relevant part ∧ Relation.TransGen module.Part part whole := by
  induction hpath using Relation.TransGen.head_induction_on with
  | single hpart =>
      have hown := hagree.part hwhole hpart
      exact ⟨hwhole.part hown, .single hown⟩
  | head hpart _ ih =>
      have hown := hagree.part ih.1 hpart
      exact ⟨ih.1.part hown, .head hown ih.2⟩

theorem acyclicFrom (hacyclic : module.Acyclic) (hid : module.Relevant id) :
    module'.AcyclicFrom id := by
  intro part hpath hcycle
  have hpart : module.Relevant part := by
    rcases Relation.reflTransGen_iff_eq_or_transGen.mp hpath with rfl | hpath
    · exact hid
    · exact (hagree.transGen hid hpath).1
  exact hacyclic part (hagree.transGen hpart hcycle).2

/-! ## Similarity -/

/-- Each relevant identifier stands for itself. -/
theorem similar :
    module.Similar (fun id id' => id = id' ∧ module.Relevant id) module' where
  version := hagree.version
  entryPoints := by simp only [introspection, hagree.entryPoints]
  vars := by
    rw [← hagree.vars]
    exact List.forall₂_same.mpr fun var hvar => ⟨⟨rfl, .var hvar⟩, ⟨rfl, .pointer hvar⟩, rfl⟩
  var? := by
    rintro id _ ⟨rfl, -⟩
    rw [Module.var?, Module.var?, ← hagree.vars]
    refine rel_self fun var hfound => ?_
    have hvar := List.mem_of_find?_eq_some hfound
    exact ⟨⟨rfl, .var hvar⟩, ⟨rfl, .pointer hvar⟩, rfl⟩
  type? := by
    rintro id _ ⟨rfl, hid⟩
    rw [← hagree.type? id hid]
    exact rel_self fun decl htype => .of_links fun _ hlink => ⟨rfl, .link hid htype hlink⟩
  pointees := by
    intro var hvar var' storageClass pointee pointee' hsimilar htype htype'
    rw [← hsimilar.type.1, ← hagree.type? _ (.pointer hvar), htype] at htype'
    cases htype'
    refine ⟨rfl, .pointee hvar ?_⟩
    simp only [Module.pointee, typeOf_of_some htype, ok_bind, pure_eq_ok]
  constant? := by
    rintro id _ ⟨rfl, hid⟩
    exact hagree.constant? id hid
  decoration? := by
    rintro id _ decoration ⟨rfl, hid⟩
    exact hagree.decoration? id decoration hid
  memberDecoration? := by
    rintro id _ member decoration ⟨rfl, hid⟩
    exact hagree.memberDecoration? id member decoration hid

theorem sameNames :
    SameNames (fun id id' => id = id' ∧ module.Relevant id) module module' := by
  rintro id _ ⟨rfl, hid⟩
  exact ⟨hagree.name? id hid, fun member => hagree.memberName? id member hid⟩

end AgreeOn

/-- Without cycles the bounds on descents do not matter, so the modules may differ in the number of
their types. -/
theorem Similar.matched_of_acyclicFrom (hsimilar : module.Similar ρ module')
    (hacyclic : ∀ id id', ρ id id' → module.AcyclicFrom id ∧ module'.AcyclicFrom id') :
    module.Matched ρ module' := by
  -- a bound that is large enough for both modules
  obtain ⟨bound, hle, hle'⟩ : ∃ bound, module.types.size ≤ bound ∧ module'.types.size ≤ bound :=
    ⟨_, Nat.le_max_left _ _, Nat.le_max_right _ _⟩
  have hunwrap : ∀ id id', ρ id id' → module.unwrap id = module.unwrapUpTo bound id ∧
      module'.unwrap id' = module'.unwrapUpTo bound id' := fun id id' hid =>
    ⟨(hacyclic _ _ hid).1.arrayAcyclicFrom.unwrap_eq_unwrapUpTo hle,
      (hacyclic _ _ hid).2.arrayAcyclicFrom.unwrap_eq_unwrapUpTo hle'⟩
  refine ⟨hsimilar, fun id id' hid => ?_, fun id id' hid => ?_, fun id id' hid => ?_⟩
  · rw [Module.arrayWrappers, Module.arrayWrappers, (hunwrap _ _ hid).1, (hunwrap _ _ hid).2]
    exact (hsimilar.unwrapUpTo bound hid).1
  · rw [Module.elementType, Module.elementType, (hunwrap _ _ hid).1, (hunwrap _ _ hid).2]
    exact (hsimilar.unwrapUpTo bound hid).2
  · rw [declaredSize_eq_sizeWithin (hacyclic _ _ hid).1 (Nat.succ_le_succ hle),
      declaredSize_eq_sizeWithin (hacyclic _ _ hid).2 (Nat.succ_le_succ hle')]
    exact hsimilar.sizeWithin _ hid

/-- Everything counts, texts of errors and names included. -/
def exactly : Comparison where
  name text := text
  context text text' := text = text'
  context_refl _ := rfl
  message text text' := text = text'

/-- What a module without cycles says of identifiers that are not met from its variables does not
matter: any module that differs from it only there is reflected with the same result or the same
error. -/
theorem reflect_eq_of_agreeOn_relevant (hacyclic : module.Acyclic)
    (hagree : module.AgreeOn module.Relevant module') (options : ReflectOptions)
    (code : List UInt8) :
    ((module.reflector options).reflect code).outcome =
      ((module'.reflector options).reflect code).outcome := by
  have hmatched := hagree.similar.matched_of_acyclicFrom fun id id' ⟨heq, hid⟩ =>
    ⟨hacyclic.acyclicFrom id, heq ▸ hagree.acyclicFrom hacyclic hid⟩
  have hcomparable : Comparable exactly (fun id id' => id = id' ∧ module.Relevant id) module
      module' :=
    ⟨Or.inr hagree.sameNames, Or.inr ⟨hagree.sameNames, fun _ _ hid => hid.1⟩,
      fun _ _ hsimilar => congrArg ModuleError.message (hsimilar.eq_of_imp fun _ _ hid => hid.1)⟩
  have halike := (hcomparable.relates hmatched options).reflect code
  refine (halike.imp ?_ fun first second hagree => ?_).eq
  · rintro _ _ ⟨rfl, rfl⟩
    rfl
  · exact Reflection.eq_of_agree_mapNames_id hagree

/-- The textured block in a module with other types, constants, names and decorations around it. The
type of the array's length is not met, so it may be another one. -/
def crowdedBlock : Module :=
  { texturedBlock with
    types := (texturedBlock.types.insert 4 (.float 16)).insert 20 (.struct [1, 2])
    constants := texturedBlock.constants.insert 20 7
    names := texturedBlock.names.insert 20 "Unused"
    memberNames := texturedBlock.memberNames.insert (20, 0) "field"
    decorations := texturedBlock.decorations.insert (20, Decoration.block) []
    memberDecorations :=
      texturedBlock.memberDecorations.insert (20, 1, Decoration.offset) [64] }

theorem relevant_texturedBlock (hrelevant : texturedBlock.Relevant id) :
    id ∈ [1, 2, 3, 5, 6, 7, 8, 9, 10, 11, 12, 13] :=
  hrelevant.mem_of_closed rfl rfl

theorem agreeOn_crowdedBlock : texturedBlock.AgreeOn texturedBlock.Relevant crowdedBlock := by
  have hlength : ∀ id, texturedBlock.Relevant id → (4 : Ident) ≠ id := by
    rintro _ hid rfl
    simpa using relevant_texturedBlock hid
  have hunused : ∀ id, texturedBlock.Relevant id → (20 : Ident) ≠ id := by
    rintro _ hid rfl
    simpa using relevant_texturedBlock hid
  refine ⟨rfl, rfl, rfl, fun id hid => ?_, fun id hid => ?_, fun id hid => ?_,
    fun id member hid => ?_, fun id decoration hid => ?_, fun id member decoration hid => ?_⟩
  · calc
      texturedBlock.types.get? id = (texturedBlock.types.insert 4 (.float 16)).get? id :=
        (Table.get?_insert_of_ne _ _ (hlength id hid)).symm
      _ = crowdedBlock.types.get? id := (Table.get?_insert_of_ne _ _ (hunused id hid)).symm
  · exact (Table.get?_insert_of_ne _ _ (hunused id hid)).symm
  · exact (Table.get?_insert_of_ne _ _ (hunused id hid)).symm
  all_goals
    refine (Table.get?_insert_of_ne _ _ fun heq => ?_).symm
    exact hunused id hid (congrArg Prod.fst heq)

theorem reflect_crowdedBlock :
    texturedBlock.Acyclic ∧ texturedBlock.AgreeOn texturedBlock.Relevant crowdedBlock ∧
      ((texturedBlock.reflector {}).reflect []).outcome =
        ((crowdedBlock.reflector {}).reflect []).outcome := by
  have hacyclic : texturedBlock.Acyclic := acyclic_of_rows rfl
  exact ⟨hacyclic, agreeOn_crowdedBlock,
    reflect_eq_of_agreeOn_relevant hacyclic agreeOn_crowdedBlock {} []⟩

end Module

end ShaderInterface
