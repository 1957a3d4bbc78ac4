import Mathlib.Data.Prod.Basic
import ShaderInterface.Proofs.DeclaredSize
import ShaderInterface.Proofs.SimilarAnswers

/-!
# Renumbering a module

The identifiers of a module mean nothing by themselves. If all of them are replaced by others, no
two by the same, every question is answered as before up to the replacement, and the reflection,
in which there are no identifiers, is the same.
-/

namespace ShaderInterface

/-! ## Replacing identifiers -/

namespace Table

variable {κ κ' α β : Type}

/-- Replace the keys and the values of a table. -/
def map (f : κ → κ') (g : α → β) (table : Table κ α) : Table κ' β :=
  ⟨table.writes.map (Prod.map f g)⟩

@[simp] theorem size_map (f : κ → κ') (g : α → β) (table : Table κ α) :
    (table.map f g).size = table.size :=
  List.length_map _

/-- If no two keys are replaced by the same, each key leads to what it led to before. -/
theorem get?_map [DecidableEq κ] [DecidableEq κ'] {f : κ → κ'} (hf : Function.Injective f)
    (g : α → β) (table : Table κ α) (key : κ) :
    (table.map f g).get? (f key) = (table.get? key).map g := by
  have hkey : (fun row : κ' × β => decide (row.1 = f key)) ∘ Prod.map f g =
      fun row => decide (row.1 = key) := by
    funext row
    simp [hf.eq_iff]
  simp only [get?, map, List.find?_map, hkey, Option.map_map]
  rfl

/-- Replace the keys of a table. -/
def mapKeys (f : κ → κ') (table : Table κ α) : Table κ' α :=
  table.map f fun value => value

theorem get?_mapKeys [DecidableEq κ] [DecidableEq κ'] {f : κ → κ'} (hf : Function.Injective f)
    (table : Table κ α) (key : κ) : (table.mapKeys f).get? (f key) = table.get? key := by
  rw [mapKeys, get?_map hf, Option.map_id']

/-- Of two keys in a pair the first can be replaced alone. -/
theorem get?_mapKeys_pair {ι : Type} [DecidableEq κ] [DecidableEq κ'] [DecidableEq ι] {f : κ → κ'}
    (hf : Function.Injective f) (table : Table (κ × ι) α) (key : κ) (index : ι) :
    (table.mapKeys (Prod.map f fun index => index)).get? (f key, index) =
      table.get? (key, index) :=
  get?_mapKeys (hf.prodMap Function.injective_id) table (key, index)

end Table

section

variable (p : Ident → Ident)

/-- Replace the types and the length that a type refers to. -/
def TypeDecl.renumber : TypeDecl → TypeDecl
  | .vector component count => .vector (p component) count
  | .matrix column count => .matrix (p column) count
  | .image sampledType dim sampled => .image (p sampledType) dim sampled
  | .sampledImage inner => .sampledImage (p inner)
  | .array element length => .array (p element) (p length)
  | .runtimeArray element => .runtimeArray (p element)
  | .struct members => .struct (members.map p)
  | .pointer storageClass pointee => .pointer storageClass (p pointee)
  | decl => decl

/-- Replace the identifiers of a variable and of its type. -/
def Variable.renumber (var : Variable) : Variable :=
  { var with id := p var.id, type := p var.type }

/-- Replace the identifiers of the function and of the variables of an entry point. -/
def EntryPoint.renumber (entry : EntryPoint) : EntryPoint :=
  { entry with function := p entry.function, interface := entry.interface.map p }

/-- Replace all identifiers of a module. Numbers of members are no identifiers. -/
def Module.renumber (module : Module) : Module where
  version := module.version
  entryPoints := module.entryPoints.map (EntryPoint.renumber p)
  types := module.types.map p (TypeDecl.renumber p)
  constants := module.constants.mapKeys p
  vars := module.vars.map (Variable.renumber p)
  names := module.names.mapKeys p
  memberNames := module.memberNames.mapKeys (Prod.map p fun key => key)
  decorations := module.decorations.mapKeys (Prod.map p fun key => key)
  memberDecorations := module.memberDecorations.mapKeys (Prod.map p fun key => key)

end

theorem TypeDecl.similar_renumber (p : Ident → Ident) (decl : TypeDecl) :
    decl.Similar (fun id id' => id' = p id) (decl.renumber p) := by
  cases decl with
  | struct members =>
      exact .struct (List.forall₂_map_right_iff.mpr (List.forall₂_same.mpr fun _ _ => rfl))
  | _ => constructor <;> rfl

theorem Variable.similar_renumber (p : Ident → Ident) (var : Variable) :
    var.Similar (fun id id' => id' = p id) (var.renumber p) :=
  ⟨rfl, rfl, rfl⟩

namespace Module

variable {p : Ident → Ident} (hp : Function.Injective p) (module : Module)

/-! ## A renumbered module is similar -/

include hp

theorem type?_renumber (id : Ident) :
    (module.renumber p).type? (p id) = (module.type? id).map (TypeDecl.renumber p) :=
  Table.get?_map hp _ _ _

theorem var?_renumber (id : Ident) :
    (module.renumber p).var? (p id) = (module.var? id).map (Variable.renumber p) := by
  have hid : (fun var : Variable => decide (var.id = p id)) ∘ Variable.renumber p =
      fun var => decide (var.id = id) := by
    funext var
    simp [Variable.renumber, hp.eq_iff]
  simp only [var?, renumber, List.find?_map, hid]

theorem similar_renumber :
    module.Similar (fun id id' => id' = p id) (module.renumber p) where
  version := rfl
  entryPoints := by simp [introspection, renumber, EntryPoint.renumber, Function.comp_def]
  vars := List.forall₂_map_right_iff.mpr
    (List.forall₂_same.mpr fun var _ => var.similar_renumber p)
  var? := by
    rintro id _ rfl
    rw [var?_renumber hp]
    cases module.var? id with
    | none => exact .none
    | some var => exact .some (var.similar_renumber p)
  type? := by
    rintro id _ rfl
    rw [type?_renumber hp]
    cases module.type? id with
    | none => exact .none
    | some decl => exact .some (decl.similar_renumber p)
  pointees := by
    intro var _ var' storageClass pointee pointee' hvar htype htype'
    rw [hvar.type, type?_renumber hp, htype] at htype'
    cases htype'
    rfl
  constant? := by
    rintro id _ rfl
    exact (Table.get?_mapKeys hp _ _).symm
  decoration? := by
    rintro id _ decoration rfl
    exact (Table.get?_mapKeys_pair hp _ _ _).symm
  memberDecoration? := by
    rintro id _ member decoration rfl
    exact (Table.get?_mapKeys_pair hp _ _ _).symm

theorem sameNames_renumber :
    SameNames (fun id id' => id' = p id) module (module.renumber p) := by
  rintro id _ rfl
  exact ⟨(Table.get?_mapKeys hp _ _).symm, fun _ => (Table.get?_mapKeys_pair hp _ _ _).symm⟩

omit hp in
/-- Names count, but it does not matter why a reflection fails. -/
def exactNames : Comparison where
  name text := text
  context _ _ := True
  context_refl _ := trivial
  message _ _ := True

/-- A module and the same module with other identifiers have the same reflection, or neither has
one. -/
theorem reflect_renumber (options : ReflectOptions) (code : List UInt8) (reflection : Reflection) :
    (((module.renumber p).reflector options).reflect code).outcome = .ok reflection ↔
      ((module.reflector options).reflect code).outcome = .ok reflection := by
  have hsimilar := similar_renumber hp module
  have hmatched := hsimilar.matched (Table.size_map _ _ _).symm
  have hcomparable : Comparable exactNames (fun id id' => id' = p id) module (module.renumber p) :=
    ⟨Or.inr (sameNames_renumber hp module), Or.inl fun _ _ => trivial, fun _ _ _ => trivial⟩
  have halike := (hcomparable.relates hmatched options).reflect code
  have hequal := halike.mono fun _ _ hagree => Reflection.eq_of_agree_mapNames_id hagree
  exact (hequal.ok_iff reflection).symm

omit hp in
/-- The padded block as a uniform buffer. -/
def boundBlock : Module :=
  { paddedBlock with
    types := paddedBlock.types.insert 8 (.pointer StorageClass.uniform 7)
    vars := [{ id := 9, type := 8, storageClass := StorageClass.uniform }]
    names := .ofRows [(7, "Padded"), (9, "block")]
    decorations := (paddedBlock.decorations.insert (7, Decoration.block) []).insert
      (9, Decoration.binding) [3] }

omit hp in
/-- The bound block has the same reflection if all its identifiers are counted from 100 on. -/
theorem reflect_renumber_boundBlock :
    Function.Injective (fun id : Ident => id + 100) ∧
      ∃ reflection, reflection.uniformBuffers.map UniformBuffer.name = ["Padded"] ∧
        ((boundBlock.reflector {}).reflect []).outcome = .ok reflection ∧
        (((boundBlock.renumber (· + 100)).reflector {}).reflect []).outcome = .ok reflection := by
  have hinjective : Function.Injective (fun id : Ident => id + 100) := fun _ _ =>
    (UInt32.add_left_inj 100).mp
  refine ⟨hinjective, _, ?_, rfl, ?_⟩
  · rfl
  · exact (reflect_renumber hinjective boundBlock {} [] _).mpr rfl

end Module

end ShaderInterface
