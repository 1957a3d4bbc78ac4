import ShaderInterface.Proofs.SimilarAnswers

/-!
# Debug names

Names are only passed on. A module with other debug names, or with none, is reflected to the same
resources with other names, and where it cannot be reflected the same question fails for the same
reason.
-/

namespace ShaderInterface

/-- A reflection without the names of its resources and their members. -/
def Reflection.withoutNames (reflection : Reflection) : Reflection :=
  reflection.mapNames fun _ => ""

/-- Both are failed questions for which the provider gave the same text. -/
inductive ReflectError.SameText : ReflectError → ReflectError → Prop
  | query (context context' text : String) : SameText (.query context text) (.query context' text)

theorem rel_refl {α : Type} {R : α → α → Prop} (hrefl : ∀ a, R a a) (found : Option α) :
    Option.Rel R found found := by
  cases found with
  | none => exact .none
  | some a => exact .some (hrefl a)

theorem TypeDecl.Similar.refl (decl : TypeDecl) : decl.Similar (· = ·) decl := by
  cases decl with
  | struct members => exact .struct (List.forall₂_same.mpr fun _ _ => rfl)
  | _ => constructor <;> rfl

theorem Variable.Similar.refl (var : Variable) : var.Similar (· = ·) var :=
  ⟨rfl, rfl, rfl⟩

/-- Similar errors at identifiers that are the same are the same. -/
theorem ModuleError.Similar.eq_of_imp {ρ : Ident → Ident → Prop} {error error' : ModuleError}
    (himp : ∀ id id', ρ id id' → id = id') (hsimilar : error.Similar ρ error') :
    error = error' := by
  cases hsimilar with
  | noMember member hid => rw [himp _ _ hid]
  | lengthTooLarge length hid => rw [himp _ _ hid]
  | notPointer hid | cyclicType hid | undefinedType hid | undefinedLength hid | undefined hid
  | notStruct hid | sizeTooLarge hid | unsized hid => rw [himp _ _ hid]

theorem ModuleError.Similar.eq {error error' : ModuleError}
    (hsimilar : error.Similar (· = ·) error') : error = error' :=
  hsimilar.eq_of_imp fun _ _ heq => heq

namespace Module

variable (module : Module) (names : Table Ident String)
  (memberNames : Table (Ident × UInt32) String)

/-- The module with other debug names. -/
def withNames : Module :=
  { module with names, memberNames }

/-- Debug names are none of what makes modules similar. -/
theorem similar_withNames : module.Similar (· = ·) (module.withNames names memberNames) where
  version := rfl
  entryPoints := rfl
  vars := List.forall₂_same.mpr fun var _ => .refl var
  var? := by
    rintro id _ rfl
    exact rel_refl .refl _
  type? := by
    rintro id _ rfl
    exact rel_refl .refl _
  pointees := by
    intro var _ var' storageClass pointee pointee' hvar htype htype'
    have hdecl := htype.symm.trans ((congrArg module.type? hvar.type).trans htype')
    cases hdecl
    rfl
  constant? := by
    rintro id _ rfl
    rfl
  decoration? := by
    rintro id _ decoration rfl
    rfl
  memberDecoration? := by
    rintro id _ member decoration rfl
    rfl

/-- Names do not count, and neither do the contexts that contain them. -/
def exceptNames : Comparison where
  name _ := ""
  context _ _ := True
  context_refl _ := trivial
  message text text' := text = text'

/-- With other debug names the reflection is the same up to names, and if there is none, the same
question fails. -/
theorem reflect_withNames (options : ReflectOptions) (code : List UInt8) :
    Alike ReflectError.SameText (Agree Reflection.withoutNames)
      ((module.reflector options).reflect code).outcome
      (((module.withNames names memberNames).reflector options).reflect code).outcome := by
  have hmatched := (similar_withNames module names memberNames).matched rfl
  have hcomparable : Comparable exceptNames (· = ·) module (module.withNames names memberNames) :=
    ⟨Or.inl fun _ _ => rfl, Or.inl fun _ _ => trivial,
      fun _ _ hsimilar => congrArg ModuleError.message hsimilar.eq⟩
  have halike := (hcomparable.relates hmatched options).reflect code
  refine halike.imp ?_ fun _ _ hagree => hagree
  rintro _ _ ⟨-, rfl⟩
  exact .query _ _ _

end Module

end ShaderInterface
