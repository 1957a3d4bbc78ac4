import ShaderInterface.Proofs.Correspondence
import ShaderInterface.Proofs.DeclaredSize
import ShaderInterface.Proofs.Shapes

/-!
# Modules that can be reflected

A module can be reflected if its variables are pointers, if the types that are reached from them
are declared, do not contain themselves and have lengths that are known, and if its blocks have
sizes that fit in words. Such a module corresponds to itself with no error between them: every
question that reflection asks is one that has an answer.
-/

namespace ShaderInterface

/-- The types that the shape of a type depends on: what it is put together from, and what an image
is of. -/
def TypeDecl.refs : TypeDecl → List Ident
  | .image sampledType _ _ => [sampledType]
  | .sampledImage inner => [inner]
  | decl => decl.parts

/-- The size of the type depends on no other type's. -/
def TypeDecl.isPlain : TypeDecl → Bool
  | .bool | .int .. | .float _ | .runtimeArray _ | .pointer .. => true
  | _ => false

theorem TypeDecl.mem_refs_of_mem_parts {decl : TypeDecl} {part : Ident}
    (hpart : part ∈ decl.parts) : part ∈ decl.refs := by
  cases decl with
  | image => simp [parts] at hpart
  | sampledImage => simp [parts] at hpart
  | _ => exact hpart

namespace Module

variable (module : Module)

/-- The types of the objects of variables, and all types that these depend on. -/
inductive Reached : Ident → Prop
  | pointee {var : Variable} {id : Ident} (hvar : var ∈ module.vars)
      (hpointee : module.pointee var = .ok id) : Reached id
  | ref {whole id : Ident} {decl : TypeDecl} (hwhole : Reached whole)
      (htype : module.type? whole = some decl) (href : id ∈ decl.refs) : Reached id

/-- The member is a matrix whose stride gives its size. -/
def IsStrided (id : Ident) (index : UInt32) (type : Ident) : Prop :=
  (∃ column count, module.type? type = some (.matrix column count)) ∧
    (module.memberDecorationValue? id index Decoration.matrixStride).isSome

/-- The type is of a kind that can be in a buffer, and so is every type that its size depends on.
Strides take the place of the sizes of elements and columns. -/
inductive Sizeable : Ident → Prop
  | plain {id : Ident} {decl : TypeDecl} (htype : module.type? id = some decl)
      (hplain : decl.isPlain = true) : Sizeable id
  | vector {id component : Ident} {count : UInt32}
      (htype : module.type? id = some (.vector component count))
      (hcomponent : Sizeable component) : Sizeable id
  | matrix {id column : Ident} {count : UInt32}
      (htype : module.type? id = some (.matrix column count))
      (hcolumn : Sizeable column) : Sizeable id
  | array {id element length : Ident} (htype : module.type? id = some (.array element length))
      (helement : module.decorationValue? id Decoration.arrayStride = none → Sizeable element) :
      Sizeable id
  | struct {id : Ident} {members : List Ident} (htype : module.type? id = some (.struct members))
      (hmembers : ∀ index type, members[index.toNat]? = some type →
        ¬ module.IsStrided id index type → Sizeable type) : Sizeable id

/-- All members of the struct, at every depth, are of kinds that can be in a buffer, and no number
on the way to the size of the struct or of one of its members is too large. -/
structure Layable (id : Ident) (members : List Ident) : Prop where
  sizeable : module.Sizeable id
  size_fits : ¬ module.Overflows (.struct id)
  memberSize_fits : ∀ index : UInt32, index.toNat < members.length →
    ¬ module.Overflows (.member id index)

/-- What is asked of a module that is to be reflected. -/
structure Reflectable : Prop where
  /-- All variables are pointers. -/
  pointers : ∀ var ∈ module.vars, ∃ storageClass pointee,
    module.type? var.type = some (.pointer storageClass pointee)
  /-- All types that are reached are declared. -/
  declared : ∀ id, module.Reached id → ∃ decl, module.type? id = some decl
  /-- No type that is reached is part of itself. -/
  acyclic : ∀ id, module.Reached id → ¬ Relation.TransGen module.Part id id
  /-- The lengths of arrays that are reached are known and fit in a word. -/
  lengths : ∀ id element length, module.Reached id →
    module.type? id = some (.array element length) →
      ∃ value, module.constant? length = some value ∧ value.toNat < UInt32.size
  /-- The structs of block variables can be laid out. -/
  blocks : ∀ kind resources, kind.isBlock = true → module.resources kind = .ok resources →
    ∀ resource ∈ resources, ∀ members,
      module.type? resource.baseTypeId = some (.struct members) →
        module.Layable resource.baseTypeId members

variable {module} {id : Ident}

theorem Reached.part {part whole : Ident} (hwhole : module.Reached whole)
    (hpart : module.Part part whole) : module.Reached part := by
  obtain ⟨decl, htype, hmem⟩ := hpart
  exact .ref hwhole htype (TypeDecl.mem_refs_of_mem_parts hmem)

theorem Reached.unwrapUpTo (hreached : module.Reached id) (bound : Nat) :
    (∀ wrapper ∈ (module.unwrapUpTo bound id).1, module.Reached wrapper) ∧
      module.Reached (module.unwrapUpTo bound id).2 := by
  induction bound generalizing id with
  | zero => exact ⟨by simp [Module.unwrapUpTo], hreached⟩
  | succ bound ih =>
      simp only [Module.unwrapUpTo]
      cases helement : module.element? id with
      | none => exact ⟨by simp, hreached⟩
      | some element =>
          obtain ⟨hwrappers, hinner⟩ := ih (hreached.part (part_of_element? helement))
          refine ⟨?_, hinner⟩
          intro wrapper hwrapper
          rcases List.mem_cons.mp hwrapper with rfl | hwrapper
          · exact hreached
          · exact hwrappers wrapper hwrapper

theorem Reached.sampledTypeOf {type : Ident} (hreached : module.Reached id)
    (hsampled : module.sampledTypeOf id = some type) : module.Reached type := by
  unfold Module.sampledTypeOf at hsampled
  split at hsampled
  next htype =>
    cases hsampled
    exact .ref hreached htype (List.mem_singleton_self _)
  next => simp at hsampled

/-- All types that are reached are in a list that has the objects of variables and, with a type, all
that it depends on. -/
theorem Reached.mem_of_closed {ids : List Ident} (hreached : module.Reached id)
    (hpointees : (module.vars.all fun var =>
      (module.pointee var).toOption.all ids.contains) = true)
    (hrefs : (ids.all fun whole =>
      (module.type? whole).all fun decl => decl.refs.all ids.contains) = true) : id ∈ ids := by
  induction hreached with
  | @pointee var id hvar hpointee =>
      have hid := List.all_eq_true.mp hpointees var hvar
      simpa [hpointee, Except.toOption] using hid
  | @ref whole id decl _ htype href ih =>
      have hdecl := List.all_eq_true.mp hrefs whole ih
      simp only [htype, Option.all_some] at hdecl
      simpa using List.all_eq_true.mp hdecl id href

/-! ## Sizes -/

/-- All members of a struct that can be in a buffer can be there too. -/
theorem Sizeable.member {members : List Ident} {index : UInt32} {type : Ident}
    (hsizeable : module.Sizeable id) (htype : module.type? id = some (.struct members))
    (hmember : members[index.toNat]? = some type) (hstrided : ¬ module.IsStrided id index type) :
    module.Sizeable type := by
  cases hsizeable with
  | plain hother hplain =>
      obtain rfl := Option.some.inj (htype.symm.trans hother)
      simp [TypeDecl.isPlain] at hplain
  | vector hother => simp [htype] at hother
  | matrix hother => simp [htype] at hother
  | array hother => simp [htype] at hother
  | struct hother hmembers =>
      obtain rfl : members = _ := by simpa [htype] using hother
      exact hmembers index type hmember hstrided

/-- A size that the equations give is the answer unless something is too large. -/
theorem ExactAnswer.gives {query : SizeQuery} {answer : Except ModuleError UInt32}
    (hexact : module.ExactAnswer query answer) (hsize : ∃ size, module.HasSize query size)
    (hfits : ¬ module.Overflows query) : Gives (fun _ => True) answer := by
  obtain ⟨size, hsize⟩ := hsize
  have hsmall : size < UInt32.size := by
    by_contra hlarge
    exact hfits (.size hsize (by omega))
  refine ⟨size.toUInt32, (hexact.ok_iff _).mpr ⟨?_, hfits⟩, trivial⟩
  rwa [Nat.toUInt32_eq, UInt32.toNat_ofNat_of_lt' hsmall]

theorem exists_hasSize_of_equation {query part : SizeQuery} {equation : SizeEquation}
    (hequation : module.equation? query = some equation) (hpart : equation.part? = some part)
    (hsize : ∃ size, module.HasSize part size) : ∃ size, module.HasSize query size := by
  obtain ⟨size, hsize⟩ := hsize
  exact ⟨_, .computed hequation hpart hsize⟩

theorem exists_hasSize_struct {members : List Ident}
    (htype : module.type? id = some (.struct members))
    (hmembers : ∀ index type, members[index.toNat]? = some type →
      ∃ size, module.HasSize (.member id index) size) :
    ∃ size, module.HasSize (.struct id) size := by
  cases members with
  | nil =>
      exact ⟨0, .const (by simp only [equation?, structEquation?, htype])⟩
  | cons first rest =>
      have hlast : ((first :: rest).length - 1).toUInt32.toNat < (first :: rest).length :=
        Nat.lt_of_le_of_lt (toNat_toUInt32_le _) (by simp)
      have hequation : module.equation? (.struct id) = module.structEquation? id := rfl
      simp only [structEquation?, htype] at hequation
      exact exists_hasSize_of_equation hequation rfl
        (hmembers _ _ (List.getElem?_eq_getElem hlast))

namespace Reflectable

variable (hreflectable : module.Reflectable)

include hreflectable

theorem acyclicFrom (hreached : module.Reached id) : module.AcyclicFrom id := by
  intro part hpart
  apply hreflectable.acyclic
  induction hpart using Relation.ReflTransGen.head_induction_on with
  | refl => exact hreached
  | head hstep _ ih => exact ih.part hstep

theorem exists_hasSize_member {members : List Ident} {index : UInt32} {type : Ident}
    (hreached : module.Reached id) (htype : module.type? id = some (.struct members))
    (hmember : members[index.toNat]? = some type)
    (hsize : ¬ module.IsStrided id index type → ∃ size, module.HasSize (.type type) size) :
    ∃ size, module.HasSize (.member id index) size := by
  have hequation : module.equation? (.member id index) = module.memberEquation? id index := rfl
  simp only [memberEquation?, htype, hmember, Option.bind_some] at hequation
  by_cases hstrided : module.IsStrided id index type
  · obtain ⟨⟨column, count, hmatrix⟩, hstride⟩ := hstrided
    obtain ⟨stride, hstride⟩ := Option.isSome_iff_exists.mp hstride
    have hcolumn : module.Part column type := ⟨_, hmatrix, List.mem_singleton_self _⟩
    have hpart : module.Part type id := ⟨_, htype, List.mem_of_getElem? hmember⟩
    obtain ⟨decl, hdecl⟩ := hreflectable.declared _ ((hreached.part hpart).part hcolumn)
    simp only [hmatrix, hstride, hdecl, Option.map_some] at hequation
    split at hequation
    next => exact ⟨_, .const hequation⟩
    next => exact ⟨_, .const hequation⟩
  · have hsame : module.equation? (.member id index) = some (.shifted 0 (.type type)) := by
      rw [hequation]
      split
      next hmatrix hstride => exact absurd ⟨⟨_, _, hmatrix⟩, by rw [hstride]; rfl⟩ hstrided
      next => rfl
    exact exists_hasSize_of_equation hsame rfl (hsize hstrided)

/-- Types that can be in a buffer have sizes if lengths are known. -/
theorem exists_hasSize (hreached : module.Reached id) (hsizeable : module.Sizeable id) :
    ∃ size, module.HasSize (.type id) size := by
  induction hsizeable with
  | @plain id decl htype hplain =>
      have hequation : module.equation? (.type id) = module.typeEquation? id := rfl
      rw [typeEquation?, htype] at hequation
      cases decl with
      | bool | int | float | runtimeArray | pointer => exact ⟨_, .const hequation⟩
      | _ => simp [TypeDecl.isPlain] at hplain
  | @vector id component count htype _ ih =>
      have hequation : module.equation? (.type id) =
          some (.scaled (.type component) count.toNat) := by
        simp only [equation?, typeEquation?, htype]
      refine exists_hasSize_of_equation hequation rfl ?_
      exact ih (hreached.part ⟨_, htype, List.mem_singleton_self _⟩)
  | @matrix id column count htype _ ih =>
      have hequation : module.equation? (.type id) =
          some (.scaled (.type column) count.toNat) := by
        simp only [equation?, typeEquation?, htype]
      refine exists_hasSize_of_equation hequation rfl ?_
      exact ih (hreached.part ⟨_, htype, List.mem_singleton_self _⟩)
  | @array id element length htype _ ih =>
      obtain ⟨count, hcount, -⟩ := hreflectable.lengths _ _ _ hreached htype
      have hequation : module.equation? (.type id) = module.typeEquation? id := rfl
      simp only [typeEquation?, htype, hcount, Option.map_some] at hequation
      cases hstride : module.decorationValue? id Decoration.arrayStride with
      | none =>
          rw [hstride] at hequation
          refine exists_hasSize_of_equation hequation rfl ?_
          exact ih hstride (hreached.part ⟨_, htype, List.mem_singleton_self _⟩)
      | some stride =>
          rw [hstride] at hequation
          exact ⟨_, .const hequation⟩
  | @struct id members htype _ ih =>
      have hequation : module.equation? (.type id) = some (.shifted 0 (.struct id)) := by
        simp only [equation?, typeEquation?, htype]
      refine exists_hasSize_of_equation hequation rfl ?_
      refine exists_hasSize_struct htype fun index type hmember => ?_
      refine hreflectable.exists_hasSize_member hreached htype hmember fun hstrided => ?_
      exact ih index type hmember hstrided (hreached.part ⟨_, htype, List.mem_of_getElem? hmember⟩)

/-- A struct that can be laid out is answered for, and so are its members. -/
theorem gives_sizes {members : List Ident} (hreached : module.Reached id)
    (htype : module.type? id = some (.struct members)) (hlayable : module.Layable id members) :
    Gives (fun _ => True) (module.declaredStructSize id) ∧
      ∀ index : UInt32, index.toNat < members.length →
        Gives (fun _ => True) (module.declaredMemberSize id index) := by
  have hexact : ∀ part, module.Part part id →
      module.ExactAnswer (.type part) (module.declaredSize part) := fun part hpart =>
    (hreflectable.acyclicFrom (hreached.part hpart)).exactAnswer_declaredSize
  have hmembers : ∀ index type, members[index.toNat]? = some type →
      ∃ size, module.HasSize (.member id index) size := by
    intro index type hmember
    refine hreflectable.exists_hasSize_member hreached htype hmember fun hstrided => ?_
    have hpart : module.Part type id := ⟨_, htype, List.mem_of_getElem? hmember⟩
    exact hreflectable.exists_hasSize (hreached.part hpart)
      (hlayable.sizeable.member htype hmember hstrided)
  refine ⟨?_, fun index hindex => ?_⟩
  · exact (exactAnswer_structSizeBy hexact).gives (exists_hasSize_struct htype hmembers)
      hlayable.size_fits
  · exact (exactAnswer_memberSizeBy hexact index).gives
      (hmembers index _ (List.getElem?_eq_getElem hindex)) (hlayable.memberSize_fits index hindex)

/-! ## Shapes -/

theorem gives_requiredType (hreached : module.Reached id) :
    Gives (fun decl => module.type? id = some decl) (module.requiredType id) := by
  obtain ⟨decl, htype⟩ := hreflectable.declared id hreached
  exact ⟨decl, by simp only [requiredType, htype], htype⟩

theorem gives_arrayLength (hreached : module.Reached id) :
    Gives (fun _ => True) (module.arrayLength id) := by
  obtain ⟨decl, htype⟩ := hreflectable.declared id hreached
  simp only [arrayLength, htype]
  cases decl with
  | array element length =>
      obtain ⟨value, hvalue, hsmall⟩ := hreflectable.lengths _ _ _ hreached htype
      simp only [hvalue, hsmall, if_true]
      exact .ok trivial
  | _ => exact .ok trivial

theorem gives_scalarBase (hreached : module.Reached id) :
    Gives (· ≠ .struct) (module.scalarBase id) := by
  refine (hreflectable.gives_requiredType hreached).bind fun decl _ => ?_
  cases decl with
  | int width signed => exact .ok (BaseType.ofInt_ne_struct width signed)
  | float width => exact .ok (BaseType.ofFloat_ne_struct width)
  | _ => exact .ok (by simp)

theorem gives_vectorShape (hreached : module.Reached id) :
    Gives (fun shape => shape.1 ≠ .struct) (module.vectorShape id) := by
  refine (hreflectable.gives_requiredType hreached).bind fun decl htype => ?_
  cases decl with
  | vector component count =>
      have hcomponent : module.Reached component := .ref hreached htype (List.mem_singleton_self _)
      exact (hreflectable.gives_scalarBase hcomponent).bind fun base hbase => .ok hbase
  | _ => exact (hreflectable.gives_scalarBase hreached).bind fun base hbase => .ok hbase

/-- What is known of the shape of a type that is reached. -/
structure ShapeOf (module : Module) (id : Ident) (info : TypeInfo) : Prop where
  baseTypeId : info.baseTypeId = module.elementType id
  struct : info.base = .struct →
    ∃ members, module.type? (module.elementType id) = some (.struct members)
  imageType : ∀ type, info.imageType = some type → module.Reached type

omit hreflectable in
theorem ShapeOf.of_ne_struct {info : TypeInfo} (hinner : info.baseTypeId = module.elementType id)
    (hbase : info.base ≠ .struct) (himage : info.imageType = none) : ShapeOf module id info where
  baseTypeId := hinner
  struct hstruct := absurd hstruct hbase
  imageType := by simp [himage]

theorem gives_typeInfo (hreached : module.Reached id) :
    Gives (ShapeOf module id) (module.typeInfo id) := by
  -- the arrays and the type inside them are reached, whatever the bound on the descent
  obtain ⟨hwrappers, hinner⟩ := hreached.unwrapUpTo module.types.size
  have hdims : Gives (fun _ => True) (module.arrayDims id) :=
    (Gives.mapM fun wrapper hwrapper =>
      hreflectable.gives_arrayLength (hwrappers wrapper hwrapper)).mono fun _ _ => trivial
  refine hdims.bind fun array _ => ?_
  refine (hreflectable.gives_requiredType hinner).bind fun decl htype => ?_
  cases decl with
  | bool | int | float =>
      refine (hreflectable.gives_scalarBase hinner).bind fun base hbase => ?_
      exact .ok (.of_ne_struct rfl hbase rfl)
  | vector component count =>
      have hcomponent : module.Reached component := .ref hinner htype (List.mem_singleton_self _)
      refine (hreflectable.gives_scalarBase hcomponent).bind fun base hbase => ?_
      exact .ok (.of_ne_struct rfl hbase rfl)
  | matrix column count =>
      have hcolumn : module.Reached column := .ref hinner htype (List.mem_singleton_self _)
      refine (hreflectable.gives_vectorShape hcolumn).bind fun shape hbase => ?_
      exact .ok (.of_ne_struct rfl hbase rfl)
  | image sampledType dim sampled =>
      refine .ok ⟨rfl, by simp, ?_⟩
      rintro _ ⟨⟩
      exact .ref hinner htype (List.mem_singleton_self _)
  | sampledImage image =>
      have himage : module.Reached image := .ref hinner htype (List.mem_singleton_self _)
      exact .ok ⟨rfl, by simp, fun type hsampled => himage.sampledTypeOf hsampled⟩
  | struct members => exact .ok ⟨rfl, fun _ => ⟨members, htype⟩, by simp⟩
  | _ => exact .ok (.of_ne_struct rfl (by simp) rfl)

/-! ## Resources -/

theorem gives_pointee {var : Variable} (hvar : var ∈ module.vars) :
    Gives module.Reached (module.pointee var) := by
  obtain ⟨storageClass, pointee, htype⟩ := hreflectable.pointers var hvar
  have hpointee : module.pointee var = .ok pointee := by
    simp only [Module.pointee, typeOf_of_some htype, ok_bind, pure_eq_ok]
  exact ⟨pointee, hpointee, .pointee hvar hpointee⟩

theorem gives_resources (kind : ResourceKind) :
    Gives (fun resources => ∀ resource ∈ resources, module.Reached resource.typeId ∧
      resource.baseTypeId = module.elementType resource.typeId) (module.resources kind) := by
  have hplaced : Gives (fun placed => ∀ entry ∈ placed, module.Reached entry.2)
      module.placedVariables := by
    have hstep : ∀ var ∈ module.vars, Gives (fun entry : Variable × Ident => module.Reached entry.2)
        (do return (var, ← module.pointee var)) := fun var hvar =>
      (hreflectable.gives_pointee hvar).bind fun type htype => .ok htype
    refine (Gives.mapM hstep).mono fun placed hplaced entry hentry => ?_
    obtain ⟨var, -, hreached⟩ := hplaced entry hentry
    exact hreached
  refine hplaced.bind fun placed hreached => .ok fun resource hresource => ?_
  obtain ⟨⟨var, type⟩, hentry, hfound⟩ := List.mem_filterMap.mp hresource
  have htype := hreached _ hentry
  obtain ⟨htypeId, hbaseTypeId⟩ := typeIds_of_resource? hfound
  rw [hbaseTypeId, htypeId]
  exact ⟨htype, rfl⟩

theorem gives_carries (decoration : Decoration) :
    Gives (fun _ => True) (module.carries id decoration) := by
  unfold carries allMembersDecorated
  split
  next => exact .ok trivial
  next =>
    split
    next =>
      split
      next => exact .ok trivial
      next var hfound =>
        have hvar := List.mem_of_find?_eq_some hfound
        refine (hreflectable.gives_pointee hvar).bind fun type _ => ?_
        dsimp only
        split
        next => exact .ok trivial
        next => exact .ok trivial
    next => exact .ok trivial

end Reflectable

/-! ## Reflections -/

/-- No error passes for any other. -/
def noErrors : Comparison where
  name text := text
  context _ _ := True
  context_refl _ := trivial
  message _ _ := False

/-- A module corresponds to itself on the types that are reached and the blocks among them that can
be laid out. -/
def ownCorrespondence (module : Module) : Correspondence where
  toComparison := noErrors
  var id id' := id = id'
  type id id' := id = id' ∧ module.Reached id
  block id id' := id = id' ∧ module.Reached id ∧
    ∃ members, module.type? id = some (.struct members) ∧ module.Layable id members

theorem gives_answer {α : Type} {P : α → Prop} {x : Except ModuleError α} (hgives : Gives P x) :
    Gives P (answer x) := by
  obtain ⟨a, rfl, hvalue⟩ := hgives
  exact .ok hvalue

namespace Reflectable

variable (hreflectable : module.Reflectable)

include hreflectable

theorem structs (hreached : module.Reached id) {members : List Ident}
    (htype : module.type? id = some (.struct members)) (hlayable : module.Layable id members)
    (options : ReflectOptions) :
    module.ownCorrespondence.Structs (module.reflector options) (module.reflector options)
      id id := by
  have hmembers := structMembers_of_struct htype
  obtain ⟨hsize, hmemberSizes⟩ := hreflectable.gives_sizes hreached htype hlayable
  refine ⟨rfl, ?_, ?_, fun _ => rfl, fun _ => .ok rfl, ?_, ?_, trivial, trivial, fun _ => trivial⟩
  · refine .of_gives (gives_answer (hreflectable.gives_typeInfo hreached)) fun info hinfo => ?_
    rw [hinfo.baseTypeId, elementType_of_struct htype]
    exact ⟨rfl, hreached, members, htype, hlayable⟩
  · have hgives : Gives (· = members) (module.structMembers id) := ⟨members, hmembers, rfl⟩
    refine .of_gives (gives_answer hgives) ?_
    rintro _ rfl
    exact List.forall₂_same.mpr fun member hmember => ⟨rfl, hreached.part ⟨_, htype, hmember⟩⟩
  · intro types index htypes hindex
    have hsame : types = members :=
      (Except.ok.inj ((congrArg answer hmembers).symm.trans htypes)).symm
    exact .of_gives (gives_answer (hmemberSizes index (hsame ▸ hindex))) fun _ _ => rfl
  · exact .of_gives (gives_answer hsize) fun _ _ => rfl

theorem relates (options : ReflectOptions) :
    module.ownCorrespondence.Relates (module.reflector options) (module.reflector options) where
  version := rfl
  entryPoints := .ok rfl
  missingEntryPoint := rfl
  chosen := rfl
  resources := by
    intro kind
    obtain ⟨resources, hlisted, hresources⟩ := hreflectable.gives_resources kind
    have hanswer : (module.reflector options).module.resources kind = .ok resources :=
      congrArg answer hlisted
    rw [hanswer]
    refine .ok (List.forall₂_same.mpr fun resource hresource => ?_)
    obtain ⟨hreached, hinner⟩ := hresources resource hresource
    refine ⟨rfl, ⟨rfl, hreached⟩, rfl, trivial, fun hkind info hinfo hbase => ?_⟩
    obtain ⟨shape, hshape, hshapeOf⟩ := gives_answer (hreflectable.gives_typeInfo hreached)
    obtain rfl := Except.ok.inj (hshape.symm.trans hinfo)
    -- the shape looks through the same arrays as the listing of resources
    obtain ⟨members, htype⟩ := hshapeOf.struct hbase
    rw [← hinner] at htype
    have hinnerReached : module.Reached resource.baseTypeId := by
      rw [hinner]
      exact (hreached.unwrapUpTo _).2
    exact ⟨rfl, hinnerReached, members, htype,
      hreflectable.blocks kind resources hkind hlisted resource hresource members htype⟩
  vars := by
    rintro id _ rfl
    exact ⟨rfl, fun _ => .ok rfl, fun decoration =>
      .of_gives (gives_answer (hreflectable.gives_carries decoration)) fun _ _ => rfl⟩
  shapes := by
    rintro id _ ⟨rfl, hreached⟩
    refine .of_gives (gives_answer (hreflectable.gives_typeInfo hreached)) fun info hinfo => ?_
    refine ⟨rfl, rfl, rfl, rfl, ?_⟩
    have himage := hinfo.imageType
    generalize info.imageType = found at himage ⊢
    cases found with
    | none => exact .none
    | some type => exact .some ⟨rfl, himage type rfl⟩
  structs := by
    rintro id _ ⟨rfl, hreached, members, htype, hlayable⟩
    exact hreflectable.structs hreached htype hlayable options

/-- A module that can be reflected is reflected without error. -/
theorem exists_reflection (options : ReflectOptions) (code : List UInt8) :
    ∃ reflection, ((module.reflector options).reflect code).outcome = .ok reflection := by
  refine ((hreflectable.relates options).reflect code).exists_ok ?_
  rintro _ _ ⟨-, hnone⟩
  exact hnone

end Reflectable

/-- The padded block as a uniform buffer, and a texture. -/
def texturedBlock : Module :=
  { paddedBlock with
    types := .ofRows [(1, .float 32), (2, .vector 1 3), (3, .matrix 2 2), (4, .int 32 false),
      (6, .array 2 5), (7, .struct [1, 3, 6]), (8, .pointer StorageClass.uniform 7),
      (10, .image 1 ⟨1⟩ 1), (11, .sampledImage 10),
      (12, .pointer StorageClass.uniformConstant 11)]
    vars := [{ id := 9, type := 8, storageClass := StorageClass.uniform },
      { id := 13, type := 12, storageClass := StorageClass.uniformConstant }]
    decorations := paddedBlock.decorations.insert (7, Decoration.block) [] }

theorem layable_texturedBlock : texturedBlock.Layable 7 [1, 3, 6] := by
  have hacyclic : texturedBlock.Acyclic := acyclic_of_rows rfl
  have hexact := fun part (_ : texturedBlock.Part part 7) => exactAnswer_declaredSize hacyclic part
  have hnumber : texturedBlock.Sizeable 1 := .plain rfl rfl
  have hvector : texturedBlock.Sizeable 2 := .vector rfl hnumber
  have hmatrix : texturedBlock.Sizeable 3 := .matrix rfl hvector
  have harray : texturedBlock.Sizeable 6 := .array rfl fun _ => hvector
  refine ⟨.struct rfl fun index type hmember _ => ?_, ?_, fun index hindex => ?_⟩
  · have hmem := List.mem_of_getElem? hmember
    simp only [List.mem_cons, List.not_mem_nil, or_false] at hmem
    rcases hmem with rfl | rfl | rfl
    · exact hnumber
    · exact hmatrix
    · exact harray
  · exact (((exactAnswer_structSizeBy hexact).ok_iff 128).mp rfl).2
  · have hcases : index = 0 ∨ index = 1 ∨ index = 2 := by
      have hlt : index.toNat < 3 := hindex
      simp only [← UInt32.toNat_inj]
      change index.toNat = 0 ∨ index.toNat = 1 ∨ index.toNat = 2
      omega
    rcases hcases with rfl | rfl | rfl
    · exact (((exactAnswer_memberSizeBy hexact 0).ok_iff 4).mp rfl).2
    · exact (((exactAnswer_memberSizeBy hexact 1).ok_iff 48).mp rfl).2
    · exact (((exactAnswer_memberSizeBy hexact 2).ok_iff 64).mp rfl).2

theorem reached_texturedBlock {id : Ident} (hreached : texturedBlock.Reached id) :
    id ∈ [1, 2, 3, 6, 7, 10, 11] :=
  hreached.mem_of_closed rfl rfl

theorem reflectable_texturedBlock : texturedBlock.Reflectable where
  pointers := List.forall_mem_cons.mpr ⟨⟨_, _, rfl⟩,
    List.forall_mem_cons.mpr ⟨⟨_, _, rfl⟩, List.forall_mem_nil _⟩⟩
  declared id hreached := by
    have hdeclared : ([1, 2, 3, 6, 7, 10, 11].all fun id =>
      (texturedBlock.type? id).isSome) = true := rfl
    exact Option.isSome_iff_exists.mp
      (List.all_eq_true.mp hdeclared id (reached_texturedBlock hreached))
  acyclic id _ := (acyclic_of_rows rfl : texturedBlock.Acyclic) id
  lengths id element length hreached htype := by
    have hid := reached_texturedBlock hreached
    simp only [List.mem_cons, List.not_mem_nil, or_false] at hid
    -- one of these types is an array
    rcases hid with rfl | rfl | rfl | rfl | rfl | rfl | rfl <;> cases htype
    exact ⟨4, rfl, by decide⟩
  blocks kind resources hkind hlisted resource hresource members htype := by
    cases kind with
    | uniformBuffer =>
        have hlist : texturedBlock.resources .uniformBuffer = .ok [⟨9, 7, 7, ""⟩] := rfl
        obtain rfl := Except.ok.inj (hlist.symm.trans hlisted)
        obtain rfl := List.mem_singleton.mp hresource
        cases htype
        exact layable_texturedBlock
    | storageBuffer =>
        have hlist : texturedBlock.resources .storageBuffer = .ok [] := rfl
        obtain rfl := Except.ok.inj (hlist.symm.trans hlisted)
        simp at hresource
    | pushConstant =>
        have hlist : texturedBlock.resources .pushConstant = .ok [] := rfl
        obtain rfl := Except.ok.inj (hlist.symm.trans hlisted)
        simp at hresource
    | _ => simp [ResourceKind.isBlock] at hkind

theorem exists_reflection_texturedBlock :
    texturedBlock.Reflectable ∧
      ∃ reflection, ((texturedBlock.reflector {}).reflect []).outcome = .ok reflection :=
  ⟨reflectable_texturedBlock, reflectable_texturedBlock.exists_reflection {} []⟩

end Module

end ShaderInterface
