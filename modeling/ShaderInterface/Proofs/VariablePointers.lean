import ShaderInterface.Proofs.BlockExtent
import ShaderInterface.Proofs.QuestionOrder
import ShaderInterface.Proofs.ResourceLists

/-!
# Variables without a pointer type

Every list of resources goes through all variables of a module, also those of other categories, and
looks at what each of them points to before it looks at anything else. So the six lists can be made
together or not at all. If the type of some variable is no pointer, the first such variable decides
the error of every list, and a reflection ends with the first list that it asks for.
-/

namespace ShaderInterface

namespace Introspection

variable {module : Introspection}

theorem refusal?_of_ok {inquiry : Inquiry} (hanswer : module.failure? inquiry.question = none) :
    module.refusal? inquiry = none := by
  rw [refusal?, hanswer, Option.map_none]

theorem refusal?_of_error {inquiry : Inquiry} {error : ProviderError}
    (hanswer : module.failure? inquiry.question = some error) :
    module.refusal? inquiry = some (.query inquiry.context error.text) := by
  rw [refusal?, hanswer, Option.map_some]

end Introspection

namespace Reflector

variable {reflector : Reflector} {error : ProviderError}

/-- A category whose resources cannot be listed fails before anything else is asked. -/
theorem firstRefusal?_categoryInquiries {kind : ResourceKind}
    (hlist : reflector.module.resources kind = .error error) :
    reflector.module.firstRefusal? (reflector.categoryInquiries kind) =
      some (.query s!"{kind.text} list" error.text) := by
  have hrefusal : reflector.module.refusal? ⟨s!"{kind.text} list", .resources kind⟩ =
      some (.query s!"{kind.text} list" error.text) := by
    apply Introspection.refusal?_of_error
    rw [Introspection.failure?, hlist, errorOf?]
  cases kind with
  | uniformBuffer | storageBuffer =>
      rw [categoryInquiries, Introspection.firstRefusal?_append, listInquiries,
        Introspection.firstRefusal?_cons, hrefusal, Option.some_or, Option.some_or]
  | _ =>
      rw [categoryInquiries, listInquiries, Introspection.firstRefusal?_cons, hrefusal,
        Option.some_or]

/-- If no category can be listed, a reflection ends with the category that it begins with. -/
theorem outcome_reflect_of_unlisted {entries : List EntryPointInfo}
    (hentries : reflector.module.entryPoints = .ok entries)
    (hlists : ∀ kind, reflector.module.resources kind = .error error) (code : List UInt8) :
    (reflector.reflect code).outcome =
      .error (.query (if reflector.options.stageInputs then "stage input list"
        else "uniform buffer list") error.text) := by
  have hentry : reflector.module.refusal? ⟨"entry points", .entryPoints⟩ = none := by
    apply Introspection.refusal?_of_ok
    rw [Introspection.failure?, hentries, errorOf?]
  have hasks : errorOf? (reflector.reflect code).outcome =
      reflector.module.firstRefusal? reflector.inquiries := reflector.asks_reflect code
  have hfirst : reflector.module.firstRefusal? reflector.inquiries =
      some (.query (if reflector.options.stageInputs then "stage input list"
        else "uniform buffer list") error.text) := by
    rw [inquiries, Introspection.firstRefusal?_cons, hentry, Option.none_or, categories]
    by_cases hinputs : reflector.options.stageInputs = true
    · rw [if_pos hinputs, if_pos hinputs, List.singleton_append, List.flatMap_cons,
        Introspection.firstRefusal?_append, firstRefusal?_categoryInquiries (hlists _),
        Option.some_or]
      rfl
    · rw [if_neg hinputs, if_neg hinputs, List.nil_append, List.flatMap_cons,
        Introspection.firstRefusal?_append, firstRefusal?_categoryInquiries (hlists _),
        Option.some_or]
      rfl
  rw [hfirst] at hasks
  cases houtcome : (reflector.reflect code).outcome with
  | ok reflection => simp [houtcome, errorOf?] at hasks
  | error other =>
      rw [houtcome] at hasks
      exact congrArg Except.error (Option.some.inj hasks)

end Reflector

namespace ModuleError

theorem message_undefinedType (id : Ident) :
    (undefinedType id).message = s!"undefined id: type %{id}" := by
  change "undefined id" ++ ": " ++ ("type %" ++ toString id) = _
  rw [← String.append_assoc]
  rfl

theorem message_notPointer (id : Ident) :
    (notPointer id).message = s!"invalid module: variable %{id} is not a pointer" := by
  change "invalid module" ++ ": " ++ ("variable %" ++ toString id ++ " is not a pointer") = _
  rw [← String.append_assoc, ← String.append_assoc]
  rfl

end ModuleError

namespace Module

variable (module : Module)

/-- The type of the variable is declared, and it is a pointer. -/
def hasPointerType (var : Variable) : Bool :=
  match module.type? var.type with
  | some (.pointer ..) => true
  | _ => false

/-- What is wrong with the type of a variable that has no pointer type. -/
def pointerFault (var : Variable) : String :=
  match module.type? var.type with
  | none => s!"undefined id: type %{var.type}"
  | some _ => s!"invalid module: variable %{var.id} is not a pointer"

/-- All variables have pointer types, and all categories have a list. -/
structure ListsAll : Prop where
  pointers : ∀ var ∈ module.vars, module.hasPointerType var = true
  listed : ∀ kind, ∃ resources, module.introspection.resources kind = .ok resources

/-- The variable is the first one without a pointer type. What is wrong with it is the reason why no
category has a list, and with it every reflection ends at the list that it asks for first. -/
structure ListsNone (var : Variable) : Prop where
  first : ∃ before after, module.vars = before ++ var :: after ∧
    ∀ earlier ∈ before, module.hasPointerType earlier = true
  no_pointer : module.hasPointerType var = false
  unlisted : ∀ kind, module.introspection.resources kind = .error ⟨module.pointerFault var⟩
  unreflected : ∀ (options : ReflectOptions) (code : List UInt8),
    (Reflector.reflect ⟨module.introspection, options⟩ code).outcome =
      .error (.query (if options.stageInputs then "stage input list" else "uniform buffer list")
        (module.pointerFault var))

variable {module} {var : Variable}

theorem exists_pointee_of_hasPointerType (hpointer : module.hasPointerType var = true) :
    ∃ type, module.pointee var = .ok type := by
  unfold hasPointerType at hpointer
  split at hpointer
  next storageClass pointee htype =>
    refine ⟨pointee, ?_⟩
    rw [Module.pointee, typeOf_of_some htype]
    rfl
  next => cases hpointer

/-- Where a variable has no pointer type, its fault is the reason why nothing is known of its
object. -/
theorem pointee_of_not_hasPointerType (hpointer : module.hasPointerType var = false) :
    ∃ error, module.pointee var = .error error ∧ error.message = module.pointerFault var := by
  unfold hasPointerType at hpointer
  unfold pointerFault
  cases htype : module.type? var.type with
  | none =>
      refine ⟨.undefinedType var.type, ?_, ModuleError.message_undefinedType var.type⟩
      rw [pointee, typeOf_of_none htype]
      rfl
  | some decl =>
      refine ⟨.notPointer var.id, ?_, ModuleError.message_notPointer var.id⟩
      rw [pointee, typeOf_of_some htype]
      cases decl with
      | pointer => simp [htype] at hpointer
      | _ => rfl

theorem hasPointerType_of_pointee {type : Ident} (hpointee : module.pointee var = .ok type) :
    module.hasPointerType var = true := by
  cases hpointer : module.hasPointerType var with
  | true => rfl
  | false =>
      obtain ⟨error, herror, -⟩ := pointee_of_not_hasPointerType hpointer
      cases hpointee.symm.trans herror

/-- Whether there is a list does not depend on the category. -/
theorem exists_resources (hpointers : ∀ var ∈ module.vars, module.hasPointerType var = true)
    (kind : ResourceKind) : ∃ resources, module.resources kind = .ok resources := by
  have hplaced : Gives (fun _ => True) module.placedVariables := by
    apply Gives.mono (Gives.mapM (R := fun _ _ => True) ?_) fun _ _ => trivial
    intro var hvar
    obtain ⟨type, htype⟩ := exists_pointee_of_hasPointerType (hpointers var hvar)
    rw [htype, ok_bind]
    exact .ok trivial
  obtain ⟨placed, hplaced, -⟩ := hplaced
  rw [resources, hplaced, ok_bind]
  exact ⟨_, rfl⟩

theorem resources_eq_error {before after : List Variable} {error : ModuleError}
    (hvars : module.vars = before ++ var :: after)
    (hbefore : ∀ earlier ∈ before, module.hasPointerType earlier = true)
    (herror : module.pointee var = .error error) (kind : ResourceKind) :
    module.resources kind = .error error := by
  have hplaced : module.placedVariables = .error error := by
    rw [placedVariables, hvars]
    apply mapM_eq_error
    · intro earlier hearlier
      obtain ⟨type, htype⟩ := exists_pointee_of_hasPointerType (hbefore earlier hearlier)
      rw [htype, ok_bind]
      exact ⟨_, rfl⟩
    · rw [herror, error_bind]
  rw [resources, hplaced, error_bind]

/-- The lists of resources can be made of all categories or of none, according to whether all
variables have pointer types. -/
theorem listsAll_or_listsNone (module : Module) :
    module.ListsAll ∨ ∃ var, module.ListsNone var := by
  cases hfind : module.vars.find? (!module.hasPointerType ·) with
  | none =>
      have hpointers : ∀ var ∈ module.vars, module.hasPointerType var = true := by
        simpa using hfind
      refine .inl ⟨hpointers, ?_⟩
      intro kind
      obtain ⟨resources, hresources⟩ := exists_resources hpointers kind
      exact ⟨resources, answer_eq_ok.mpr hresources⟩
  | some var =>
      obtain ⟨hvar, before, after, hvars, hbefore⟩ := List.find?_eq_some_iff_append.mp hfind
      have hpointer : module.hasPointerType var = false := by simpa using hvar
      have hearlier : ∀ earlier ∈ before, module.hasPointerType earlier = true := by
        simpa using hbefore
      obtain ⟨error, herror, hmessage⟩ := pointee_of_not_hasPointerType hpointer
      have hlists : ∀ kind,
          module.introspection.resources kind = .error ⟨module.pointerFault var⟩ := by
        intro kind
        rw [← hmessage]
        exact congrArg answer (resources_eq_error hvars hearlier herror kind)
      refine .inr ⟨var, ⟨before, after, hvars, hearlier⟩, hpointer, hlists, ?_⟩
      intro options code
      exact Reflector.outcome_reflect_of_unlisted (rfl : _ = Except.ok _) hlists code

end Module

end ShaderInterface
