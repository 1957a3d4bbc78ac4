import ShaderInterface.Proofs.Correspondence
import ShaderInterface.Proofs.QuestionOrder
import ShaderInterface.Proofs.Shapes
import ShaderInterface.Proofs.TypeGraph

/-!
# Questions about structs

Only a struct has members, and a question about the members of another type, or about a member that
a struct does not have, is a mistake of whoever asks it. Reflection never makes this mistake, and
neither does the computation of sizes on its way through nested types. Whatever else is wrong with a
module, its errors never say that a type is no struct or that a struct has no such member.
-/

namespace ShaderInterface

/-- Nothing in the words for a kind of error is a colon, so they are all that is before the first
one. -/
theorem ErrorKind.takeWhile_text (kind : ErrorKind) (detail : String) :
    (s!"{kind.text}: {detail}").toList.takeWhile (· ≠ ':') = kind.text.toList := by
  have hcolon : kind.text.toList.all (· ≠ ':') = true := by
    cases kind <;> decide
  change (kind.text ++ ": " ++ detail).toList.takeWhile (· ≠ ':') = kind.text.toList
  rw [String.toList_append, String.toList_append, List.append_assoc,
    List.takeWhile_append_of_pos (List.all_eq_true.mp hcolon)]
  exact List.append_nil _

theorem ErrorKind.text_injective {kind kind' : ErrorKind} (htext : kind.text = kind'.text) :
    kind = kind' := by
  revert htext
  cases kind <;> cases kind' <;> decide

namespace ModuleError

/-- The message of an error tells its kind. -/
theorem kind_eq_of_message {error : ModuleError} {kind : ErrorKind} {detail : String}
    (hmessage : error.message = s!"{kind.text}: {detail}") : error.kind = kind := by
  apply ErrorKind.text_injective
  rw [← String.toList_inj, ← error.kind.takeWhile_text error.detail, ← kind.takeWhile_text detail,
    ← hmessage, message]

/-- The error says that a type was asked for members that it does not have. -/
def IsMisuse (error : ModuleError) : Prop :=
  error.kind = .notAStruct ∨ error.kind = .memberOutOfRange

end ModuleError

/-- The text says that a type was asked for members that it does not have. -/
def IsMisuseText (text : String) : Prop :=
  ∃ detail : String, text = s!"{ErrorKind.notAStruct.text}: {detail}" ∨
    text = s!"{ErrorKind.memberOutOfRange.text}: {detail}"

theorem ModuleError.isMisuse_of_message {error : ModuleError} (htext : IsMisuseText error.message) :
    error.IsMisuse := by
  obtain ⟨detail, htext | htext⟩ := htext
  · exact .inl (kind_eq_of_message htext)
  · exact .inr (kind_eq_of_message htext)

/-- The computation may fail, but not because a type was asked for members that it does not have. -/
abbrev NeverMisuses {α : Type} (x : Except ModuleError α) : Prop :=
  FailsOnly (fun error => ¬ error.IsMisuse) x

theorem ModuleError.neverMisuses_error {α : Type} {error : ModuleError}
    (hstruct : error.kind ≠ .notAStruct) (hmember : error.kind ≠ .memberOutOfRange) :
    NeverMisuses (.error error : Except ModuleError α) :=
  .error (not_or.mpr ⟨hstruct, hmember⟩)

namespace Module

variable (module : Module)

/-- The type is a struct. -/
def IsStruct (id : Ident) : Prop :=
  ∃ members, module.type? id = some (.struct members)

/-- The type is a struct that has a member of this number. -/
def HasMember (id : Ident) (member : UInt32) : Prop :=
  ∃ members, module.type? id = some (.struct members) ∧ member.toNat < members.length

/-- A question about a struct or its members is asked of a struct that has them. -/
def Suits : Question → Prop
  | .memberTypes id | .declaredStructSize id => module.IsStruct id
  | .memberDecoration id member _ | .declaredMemberSize id member => module.HasMember id member
  | _ => True

/-- All of the questions suit what they are asked of. -/
def AllSuit (inquiries : List Inquiry) : Prop :=
  ∀ inquiry ∈ inquiries, module.Suits inquiry.question

variable {module} {id : Ident}

/-! ## Declared sizes -/

theorem neverMisuses_typeOf : NeverMisuses (module.typeOf id) := by
  unfold typeOf
  split
  next => exact .ok _
  next => exact ModuleError.neverMisuses_error nofun nofun

theorem neverMisuses_fits (size : Nat) : NeverMisuses (fits size id) := by
  unfold fits
  split
  next => exact .ok _
  next => exact ModuleError.neverMisuses_error nofun nofun

theorem neverMisuses_arrayLength : NeverMisuses (module.arrayLength id) := by
  unfold arrayLength
  split
  next =>
    split
    next => exact ModuleError.neverMisuses_error nofun nofun
    next =>
      split
      next => exact .ok _
      next => exact ModuleError.neverMisuses_error nofun nofun
  next => exact .ok _

theorem neverMisuses_componentCount : NeverMisuses (module.componentCount id) := by
  refine neverMisuses_typeOf.bind fun decl _ => ?_
  cases decl <;> exact .ok _

section

variable {size : Ident → Except ModuleError UInt32} (hsize : ∀ id, NeverMisuses (size id))

include hsize

theorem neverMisuses_memberSizeBy {member : UInt32} (hmember : module.HasMember id member) :
    NeverMisuses (module.memberSizeBy size id member) := by
  obtain ⟨members, htype, hlt⟩ := hmember
  rw [memberSizeBy, structMembers_of_struct htype, ok_bind, List.getElem?_eq_getElem hlt]
  refine neverMisuses_typeOf.bind fun decl _ => ?_
  cases decl with
  | matrix column count =>
      dsimp only
      split
      next => exact hsize _
      next =>
        split
        next => exact neverMisuses_componentCount.bind fun vectors _ => neverMisuses_fits _
        next => exact neverMisuses_fits _
  | _ => exact hsize _

/-- The member that a struct's size depends on is its last one, so it has it. -/
theorem neverMisuses_structSizeBy (hstruct : module.IsStruct id) :
    NeverMisuses (module.structSizeBy size id) := by
  obtain ⟨members, htype⟩ := hstruct
  rw [structSizeBy, structMembers_of_struct htype, ok_bind]
  split
  next => exact .ok _
  next hempty =>
    have hlength : 0 < members.length := List.length_pos_iff.mpr (by simpa using hempty)
    -- a number that does not fit in a word only becomes smaller
    have hlast : (members.length - 1).toUInt32.toNat < members.length :=
      Nat.lt_of_le_of_lt (toNat_toUInt32_le _) (by omega)
    refine (neverMisuses_memberSizeBy hsize ⟨members, htype, hlast⟩).bind fun lastSize _ => ?_
    exact neverMisuses_fits _

theorem neverMisuses_arrayStrideBy {array element : Ident} :
    NeverMisuses (module.arrayStrideBy size array element) := by
  unfold arrayStrideBy
  split
  next => exact .ok _
  next => exact hsize _

theorem neverMisuses_sizeBy : NeverMisuses (module.sizeBy size id) := by
  refine neverMisuses_typeOf.bind fun decl hdecl => ?_
  cases decl with
  | bool | int | float | runtimeArray | pointer => exact .ok _
  | vector | matrix => exact (hsize _).bind fun part _ => neverMisuses_fits _
  | array =>
      refine neverMisuses_arrayLength.bind fun length _ => ?_
      exact (neverMisuses_arrayStrideBy hsize).bind fun stride _ => neverMisuses_fits _
  | struct members => exact neverMisuses_structSizeBy hsize ⟨members, type?_of_typeOf hdecl⟩
  | _ => exact ModuleError.neverMisuses_error nofun nofun

end

theorem neverMisuses_sizeWithin (bound : Nat) (id : Ident) :
    NeverMisuses (module.sizeWithin bound id) := by
  induction bound generalizing id with
  | zero => exact ModuleError.neverMisuses_error nofun nofun
  | succ bound ih => exact neverMisuses_sizeBy ih

/-- However types are nested, the way through them asks only structs for members. -/
theorem neverMisuses_declaredSize (id : Ident) : NeverMisuses (module.declaredSize id) :=
  neverMisuses_sizeWithin _ id

/-! ## Other answers -/

theorem neverMisuses_requiredType : NeverMisuses (module.requiredType id) := by
  unfold requiredType
  split
  next => exact .ok _
  next => exact ModuleError.neverMisuses_error nofun nofun

theorem neverMisuses_scalarBase : NeverMisuses (module.scalarBase id) := by
  refine neverMisuses_requiredType.bind fun decl _ => ?_
  cases decl <;> exact .ok _

theorem neverMisuses_vectorShape : NeverMisuses (module.vectorShape id) := by
  refine neverMisuses_requiredType.bind fun decl _ => ?_
  cases decl <;> exact neverMisuses_scalarBase.bind fun base _ => .ok _

theorem neverMisuses_typeInfo : NeverMisuses (module.typeInfo id) := by
  have hdims : NeverMisuses (module.arrayDims id) :=
    FailsOnly.mapM fun _ => neverMisuses_arrayLength
  refine hdims.bind fun array _ => ?_
  refine neverMisuses_requiredType.bind fun decl _ => ?_
  cases decl with
  | bool | int | float | vector => exact neverMisuses_scalarBase.bind fun base _ => .ok _
  | matrix => exact neverMisuses_vectorShape.bind fun shape _ => .ok _
  | _ => exact .ok _

theorem neverMisuses_pointee {var : Variable} : NeverMisuses (module.pointee var) := by
  refine neverMisuses_typeOf.bind fun decl _ => ?_
  cases decl with
  | pointer => exact .ok _
  | _ => exact ModuleError.neverMisuses_error nofun nofun

theorem neverMisuses_resources {kind : ResourceKind} : NeverMisuses (module.resources kind) := by
  have hplaced : NeverMisuses module.placedVariables :=
    FailsOnly.mapM fun var => neverMisuses_pointee.bind fun type _ => .ok (var, type)
  exact hplaced.bind fun placed _ => .ok _

theorem neverMisuses_allMembersDecorated {decoration : Decoration} :
    NeverMisuses (module.allMembersDecorated id decoration) := by
  unfold allMembersDecorated
  split
  next => exact .ok _
  next =>
    refine neverMisuses_pointee.bind fun type _ => ?_
    -- the members of the object are looked at only once it is seen to be a struct
    dsimp only
    split
    next => exact .ok _
    next => exact .ok _

theorem neverMisuses_carries {decoration : Decoration} :
    NeverMisuses (module.carries id decoration) := by
  unfold carries
  split
  next => exact .ok _
  next =>
    split
    next => exact neverMisuses_allMembersDecorated
    next => exact .ok _

/-! ## Questions that suit -/

theorem not_isMisuseText_of_answer {α : Type} {result : Except ModuleError α}
    {error : ProviderError} (hresult : NeverMisuses result)
    (herror : errorOf? (answer result) = some error) : ¬ IsMisuseText error.text := by
  cases result with
  | ok => cases herror
  | error cause =>
      cases herror
      exact fun htext => hresult cause rfl (ModuleError.isMisuse_of_message htext)

/-- A question that suits may have no answer, but the reason is not that it was asked. -/
theorem not_isMisuseText_of_suits {question : Question} (hsuits : module.Suits question)
    {error : ProviderError} (herror : module.introspection.failure? question = some error) :
    ¬ IsMisuseText error.text := by
  cases question with
  | entryPoints => cases herror
  | resources kind => exact not_isMisuseText_of_answer neverMisuses_resources herror
  | typeInfo id => exact not_isMisuseText_of_answer neverMisuses_typeInfo herror
  | memberTypes id =>
      obtain ⟨members, htype⟩ := hsuits
      refine not_isMisuseText_of_answer ?_ herror
      rw [structMembers_of_struct htype]
      exact .ok members
  | hasDecoration id decoration => exact not_isMisuseText_of_answer neverMisuses_carries herror
  | decoration id decoration => cases herror
  | memberDecoration id member decoration => cases herror
  | declaredStructSize id =>
      exact not_isMisuseText_of_answer
        (neverMisuses_structSizeBy neverMisuses_declaredSize hsuits) herror
  | declaredMemberSize id member =>
      exact not_isMisuseText_of_answer
        (neverMisuses_memberSizeBy neverMisuses_declaredSize hsuits) herror

theorem AllSuit.not_isMisuseText {inquiries : List Inquiry} (hsuit : module.AllSuit inquiries)
    {context text : String}
    (hrefusal : module.introspection.firstRefusal? inquiries = some (.query context text)) :
    ¬ IsMisuseText text := by
  obtain ⟨inquiry, hmem, hrefusal⟩ := List.exists_of_findSome?_eq_some hrefusal
  obtain ⟨error, herror, hquery⟩ := Option.map_eq_some_iff.mp hrefusal
  cases hquery
  exact not_isMisuseText_of_suits (hsuit inquiry hmem) herror

/-! ## The questions of a reflection -/

namespace AllSuit

variable {inquiries rest : List Inquiry} {inquiry : Inquiry}

theorem nil : module.AllSuit [] :=
  nofun

theorem cons (hinquiry : module.Suits inquiry.question) (hrest : module.AllSuit rest) :
    module.AllSuit (inquiry :: rest) :=
  List.forall_mem_cons.mpr ⟨hinquiry, hrest⟩

theorem append (hinquiries : module.AllSuit inquiries) (hrest : module.AllSuit rest) :
    module.AllSuit (inquiries ++ rest) :=
  List.forall_mem_append.mpr ⟨hinquiries, hrest⟩

theorem flatMap {α : Type} {each : α → List Inquiry} {as : List α}
    (heach : ∀ a ∈ as, module.AllSuit (each a)) : module.AllSuit (as.flatMap each) := by
  intro inquiry hmem
  obtain ⟨a, ha, hmem⟩ := List.mem_flatMap.mp hmem
  exact heach a ha inquiry hmem

theorem following {α : Type} {result : Except ModuleError α} {next : α → List Inquiry}
    (hnext : ∀ a, result = .ok a → module.AllSuit (next a)) :
    module.AllSuit (ShaderInterface.following (answer result) next) := by
  cases result with
  | ok a => exact hnext a rfl
  | error => exact nil

end AllSuit

section

variable {members : List Ident} {kind : ResourceKind} {resource : Resource}

theorem allSuit_members {structLabel : String} {index : Nat} {types : List Ident}
    (htype : module.type? id = some (.struct members))
    (hlength : index + types.length ≤ members.length) :
    module.AllSuit (Reflector.membersInquiries id structLabel index types) := by
  induction types generalizing index with
  | nil => exact .nil
  | cons type types ih =>
      rw [List.length_cons] at hlength
      have hword : index.toUInt32.toNat < members.length :=
        Nat.lt_of_le_of_lt (toNat_toUInt32_le index) (by omega)
      have hmember : module.HasMember id index.toUInt32 := ⟨members, htype, hword⟩
      refine .append ?_ (ih (by omega))
      exact .cons trivial (.cons hmember (.cons hmember .nil))

/-- The walk through a struct goes over the members that the struct itself has. -/
theorem allSuit_layout (hstruct : module.IsStruct id) (options : ReflectOptions) :
    module.AllSuit ((module.reflector options).layoutInquiries id) := by
  obtain ⟨members, htype⟩ := hstruct
  refine .cons trivial (.following fun info hinfo => ?_)
  -- there are no arrays left around a struct, so the walk stays at it
  have hself : info.baseTypeId = id := (of_typeInfo hinfo).1.trans (elementType_of_struct htype)
  rw [hself]
  refine .cons ⟨members, htype⟩ (.following fun types htypes => ?_)
  obtain rfl : members = types := Except.ok.inj ((structMembers_of_struct htype).symm.trans htypes)
  exact .append (allSuit_members htype (by omega)) (.cons ⟨members, htype⟩ .nil)

theorem allSuit_slot : module.AllSuit (Reflector.slotInquiries kind resource) :=
  .cons trivial (.cons trivial .nil)

theorem allSuit_access : module.AllSuit (Reflector.accessInquiries resource) :=
  .cons trivial (.cons trivial .nil)

/-- A resource has the shape of a struct only if the type that is laid out is a struct. -/
theorem allSuit_block (hbase : resource.baseTypeId = module.elementType resource.typeId)
    (options : ReflectOptions) :
    module.AllSuit ((module.reflector options).blockInquiries kind resource) := by
  refine .cons trivial (.following fun info hinfo => ?_)
  split
  next hstruct =>
    refine allSuit_layout ?_ options
    rw [hbase]
    exact (of_typeInfo hinfo).2 hstruct
  next => exact .nil

theorem allSuit_image (options : ReflectOptions) :
    module.AllSuit ((module.reflector options).imageInquiries kind resource) := by
  refine .append allSuit_slot (.cons trivial (.following fun info _ => ?_))
  split
  next => exact .nil
  next => exact .cons trivial .nil

theorem allSuit_stageInput : module.AllSuit (Reflector.stageInputInquiries resource) :=
  .cons trivial (.cons trivial .nil)

theorem allSuit_list {options : ReflectOptions} {each : Resource → List Inquiry}
    (heach : ∀ resource, resource.baseTypeId = module.elementType resource.typeId →
      module.AllSuit (each resource)) :
    module.AllSuit ((module.reflector options).listInquiries kind each) := by
  refine .cons trivial (.following fun resources hresources => ?_)
  exact .flatMap fun resource hmem => heach resource (baseTypeId_of_mem_resources hresources hmem)

theorem allSuit_struct {options : ReflectOptions} {each : Resource → List Inquiry}
    (heach : ∀ resource, module.AllSuit (each resource)) :
    module.AllSuit ((module.reflector options).structInquiries kind each) :=
  .following fun _ _ => .flatMap fun resource _ => heach resource

theorem allSuit_category (options : ReflectOptions) (kind : ResourceKind) :
    module.AllSuit ((module.reflector options).categoryInquiries kind) := by
  cases kind with
  | uniformBuffer =>
      exact .append (allSuit_list fun resource hbase => allSuit_block hbase options)
        (allSuit_struct fun resource => allSuit_slot)
  | storageBuffer =>
      exact .append (allSuit_list fun resource hbase => allSuit_block hbase options)
        (allSuit_struct fun resource => .append allSuit_slot allSuit_access)
  | pushConstant => exact allSuit_list fun resource hbase => allSuit_block hbase options
  | sampledImage => exact allSuit_list fun resource _ => allSuit_image options
  | storageImage => exact allSuit_list fun resource _ => allSuit_image options
  | stageInput => exact allSuit_list fun resource _ => allSuit_stageInput

theorem allSuit_inquiries (options : ReflectOptions) :
    module.AllSuit (module.reflector options).inquiries :=
  .cons trivial (.flatMap fun kind _ => allSuit_category options kind)

end

/-- Whatever the module, a reflection asks for members only of structs that have them: all its
questions do, and so does the way through nested types to a size. No category and no whole
reflection therefore ends in an error that says that a type is no struct or has no such member. -/
theorem reflect_neverMisuses (module : Module) (options : ReflectOptions) (code : List UInt8) :
    (∀ kind, module.AllSuit ((module.reflector options).categoryInquiries kind)) ∧
    module.AllSuit (module.reflector options).inquiries ∧
    (∀ id, NeverMisuses (module.declaredSize id)) ∧
    (∀ kind context text,
      (module.reflector options).categoryError? kind = some (.query context text) →
        ¬ IsMisuseText text) ∧
    ∀ context text,
      ((module.reflector options).reflect code).outcome = .error (.query context text) →
        ¬ IsMisuseText text := by
  refine ⟨allSuit_category options, allSuit_inquiries options, neverMisuses_declaredSize, ?_, ?_⟩
  · intro kind context text herror
    rw [Reflector.categoryError?_eq] at herror
    exact (allSuit_category options kind).not_isMisuseText herror
  · intro context text herror
    have hasks := (module.reflector options).asks_reflect code
    rw [Reflecting.Asks, herror] at hasks
    exact (allSuit_inquiries options).not_isMisuseText hasks.symm

/-- A block with an array of structs that hold a sampler, which has no size. -/
def samplerBlock : Module where
  types := .ofRows [(1, .sampler), (2, .struct [1]), (4, .array 2 3), (5, .struct [4]),
    (6, .pointer StorageClass.uniform 5)]
  constants := .ofRows [(3, 2)]
  vars := [{ id := 7, type := 6, storageClass := StorageClass.uniform }]
  decorations := .ofRows [((5, Decoration.block), [])]

theorem reflect_neverMisuses_samplerBlock :
    samplerBlock.Suits (.declaredMemberSize 5 0) ∧
      (samplerBlock.reflector {}).categoryError? .uniformBuffer =
        some (.query "struct %5 member 0" "unsupported module: type %1 has no size in a buffer") ∧
      ((samplerBlock.reflector {}).reflect []).outcome =
        .error (.query "struct %5 member 0" "unsupported module: type %1 has no size in a buffer") ∧
      ¬ IsMisuseText "unsupported module: type %1 has no size in a buffer" := by
  obtain ⟨hsuit, -, -, -, htext⟩ := reflect_neverMisuses samplerBlock {} []
  have hmember : samplerBlock.Suits (.declaredMemberSize 5 0) :=
    hsuit .uniformBuffer ⟨"struct %5 member 0", .declaredMemberSize 5 0⟩
      (List.mem_of_getElem? (i := 6) rfl)
  exact ⟨hmember, rfl, rfl, htext "struct %5 member 0" _ rfl⟩

end Module

end ShaderInterface
