import Mathlib.Data.List.Forall2
import ShaderInterface.Proofs.DeclaredSize

/-!
# Growing arrays

The lengths of arrays are constants, and larger constants never make a declared size smaller. A size
that was computed for large constants is therefore a bound for all smaller ones, with which there is
no failure either. The converse is wrong: what is sized with small constants may be too large for 32
bits with others.
-/

namespace ShaderInterface

theorem exists_of_some_rel {α β : Type} {relation : α → β → Prop} {a : α} {found : Option β}
    (hrel : Option.Rel relation (some a) found) : ∃ b, found = some b ∧ relation a b := by
  cases hrel with
  | some hrelated => exact ⟨_, rfl, hrelated⟩

theorem exists_of_rel_some {α β : Type} {relation : α → β → Prop} {found : Option α} {b : β}
    (hrel : Option.Rel relation found (some b)) : ∃ a, found = some a ∧ relation a b := by
  cases hrel with
  | some hrelated => exact ⟨_, rfl, hrelated⟩

namespace SizeEquation

/-- The equations are alike, and the second one gives at least as much as the first. -/
inductive AtMost : SizeEquation → SizeEquation → Prop
  | const {size size' : Nat} (hle : size ≤ size') : AtMost (.const size) (.const size')
  | scaled (part : SizeQuery) {count count' : Nat} (hle : count ≤ count') :
      AtMost (.scaled part count) (.scaled part count')
  | shifted (offset : Nat) (part : SizeQuery) :
      AtMost (.shifted offset part) (.shifted offset part)

namespace AtMost

theorem refl (equation : SizeEquation) : AtMost equation equation := by
  cases equation with
  | const size => exact .const (Nat.le_refl size)
  | scaled part count => exact .scaled part (Nat.le_refl count)
  | shifted offset part => exact .shifted offset part

variable {equation equation' : SizeEquation}

theorem part?_eq (hle : AtMost equation equation') : equation.part? = equation'.part? := by
  cases hle <;> rfl

theorem value_le (hle : AtMost equation equation') {size size' : Nat} (hsize : size ≤ size') :
    equation.value size ≤ equation'.value size' := by
  cases hle with
  | const hle => exact hle
  | scaled part hle => exact Nat.mul_le_mul hsize hle
  | shifted offset part => exact Nat.add_le_add_left hsize offset

end AtMost

end SizeEquation

namespace Module

/-- The second module declares the same types with the same layout. Its constants have the same
identifiers and are at least as large. -/
structure Grows (module larger : Module) : Prop where
  type? : ∀ id, larger.type? id = module.type? id
  decoration? : ∀ id decoration, larger.decoration? id decoration = module.decoration? id decoration
  memberDecoration? : ∀ id index decoration,
    larger.memberDecoration? id index decoration = module.memberDecoration? id index decoration
  constant? : ∀ id, Option.Rel (· ≤ ·) (module.constant? id) (larger.constant? id)

namespace Grows

variable {module larger : Module} {query : SizeQuery}

theorem acyclic (hgrows : module.Grows larger) (hacyclic : module.Acyclic) : larger.Acyclic := by
  have hpart : larger.Part = module.Part := by
    funext part whole
    rw [Part, Part, hgrows.type?]
  rw [Acyclic, hpart]
  exact hacyclic

theorem decorationValue? (hgrows : module.Grows larger) (id : Ident) (decoration : Decoration) :
    larger.decorationValue? id decoration = module.decorationValue? id decoration := by
  rw [Module.decorationValue?, Module.decorationValue?, hgrows.decoration?]

theorem memberDecorationValue? (hgrows : module.Grows larger) (id : Ident) (index : UInt32)
    (decoration : Decoration) : larger.memberDecorationValue? id index decoration =
      module.memberDecorationValue? id index decoration := by
  rw [Module.memberDecorationValue?, Module.memberDecorationValue?, hgrows.memberDecoration?]

theorem hasMemberDecoration (hgrows : module.Grows larger) (id : Ident) (index : UInt32)
    (decoration : Decoration) : larger.hasMemberDecoration id index decoration =
      module.hasMemberDecoration id index decoration := by
  rw [Module.hasMemberDecoration, Module.hasMemberDecoration, hgrows.memberDecoration?]

/-! ## Equations -/

/-- Only the equation of an array has to do with constants. -/
theorem typeEquation? (hgrows : module.Grows larger) (id : Ident) :
    Option.Rel SizeEquation.AtMost (module.typeEquation? id) (larger.typeEquation? id) := by
  rw [Module.typeEquation?, Module.typeEquation?, hgrows.type?]
  cases module.type? id with
  | none => exact .none
  | some decl =>
      cases decl with
      | array element length =>
          simp only [hgrows.decorationValue?]
          have hrel := hgrows.constant? length
          generalize module.constant? length = count, larger.constant? length = count' at hrel ⊢
          cases hrel with
          | none => exact .none
          | some hle =>
              have hcount := UInt64.le_iff_toNat_le.mp hle
              cases module.decorationValue? id Decoration.arrayStride with
              | none => exact .some (.scaled _ hcount)
              | some stride => exact .some (.const (Nat.mul_le_mul_left _ hcount))
      | void | image | sampledImage | sampler | function | other => exact .none
      | _ => exact .some (.refl _)

theorem structEquation? (hgrows : module.Grows larger) (id : Ident) :
    larger.structEquation? id = module.structEquation? id := by
  simp only [Module.structEquation?, hgrows.type?, hgrows.memberDecorationValue?]

theorem memberEquation? (hgrows : module.Grows larger) (id : Ident) (index : UInt32) :
    larger.memberEquation? id index = module.memberEquation? id index := by
  simp only [Module.memberEquation?, hgrows.type?, hgrows.memberDecorationValue?,
    hgrows.hasMemberDecoration]

theorem equation? (hgrows : module.Grows larger) (query : SizeQuery) :
    Option.Rel SizeEquation.AtMost (module.equation? query) (larger.equation? query) := by
  have hrefl : ∀ found, Option.Rel SizeEquation.AtMost found found := by
    intro found
    cases found with
    | none => exact .none
    | some equation => exact .some (.refl equation)
  cases query with
  | type id => exact hgrows.typeEquation? id
  | struct id =>
      rw [Module.equation?, Module.equation?, hgrows.structEquation?]
      exact hrefl _
  | member id index =>
      rw [Module.equation?, Module.equation?, hgrows.memberEquation?]
      exact hrefl _

/-! ## Sizes -/

/-- What has a size with larger constants has one that is no larger with the smaller ones. -/
theorem exists_hasSize (hgrows : module.Grows larger) {size' : Nat}
    (hsize : larger.HasSize query size') : ∃ size ≤ size', module.HasSize query size := by
  induction hsize with
  | const hequation =>
      obtain ⟨equation, hsmaller, hle⟩ := exists_of_rel_some (hequation ▸ hgrows.equation? _)
      cases hle with
      | const hle => exact ⟨_, hle, .const hsmaller⟩
  | computed hequation hpart _ ih =>
      obtain ⟨equation, hsmaller, hle⟩ := exists_of_rel_some (hequation ▸ hgrows.equation? _)
      obtain ⟨rest, hrest, hsize⟩ := ih
      exact ⟨equation.value rest, hle.value_le hrest,
        .computed hsmaller (hle.part?_eq.trans hpart) hsize⟩

theorem longArray (hgrows : module.Grows larger) (hlong : module.LongArray query) :
    larger.LongArray query := by
  cases query with
  | type id =>
      obtain ⟨element, length, value, htype, hvalue, hlarge⟩ := hlong
      obtain ⟨value', hvalue', hle⟩ := exists_of_some_rel (hvalue ▸ hgrows.constant? length)
      refine ⟨element, length, value', (hgrows.type? id).trans htype, hvalue', ?_⟩
      exact hlarge.trans (UInt64.le_iff_toNat_le.mp hle)
  | struct id => contradiction
  | member id index => contradiction

/-- What is too large with the smaller constants is too large with the larger ones, if it has a size
with these at all. -/
theorem overflows (hgrows : module.Grows larger) (hover : module.Overflows query) {size' : Nat}
    (hsize : larger.HasSize query size') : larger.Overflows query := by
  induction hover generalizing size' with
  | length hlong => exact .length (hgrows.longArray hlong)
  | size hsmaller hlarge =>
      obtain ⟨size, hle, hother⟩ := hgrows.exists_hasSize hsize
      rw [hsmaller.unique hother] at hlarge
      exact .size hsize (hlarge.trans hle)
  | computed hequation hpart _ ih =>
      obtain ⟨equation', hlarger, hle⟩ := exists_of_some_rel (hequation ▸ hgrows.equation? _)
      have hpart' := hle.part?_eq.symm.trans hpart
      obtain ⟨rest, hrest, -⟩ := (hasSize_of_part hlarger hpart' size').mp hsize
      exact .computed hlarger hpart' (ih hrest)

theorem exists_answer (hgrows : module.Grows larger) {answer answer' : Except ModuleError UInt32}
    (hexact : module.ExactAnswer query answer) (hexact' : larger.ExactAnswer query answer')
    {size' : UInt32} (hanswer : answer' = .ok size') : ∃ size ≤ size', answer = .ok size := by
  obtain ⟨hsize', hfits'⟩ := (hexact'.ok_iff size').mp hanswer
  obtain ⟨size, hle, hsize⟩ := hgrows.exists_hasSize hsize'
  have hnat : size.toUInt32.toNat = size := by
    rw [Nat.toUInt32_eq]
    exact UInt32.toNat_ofNat_of_lt' (hle.trans_lt size'.toNat_lt_size)
  have hfits : ¬ module.Overflows query := by
    intro hover
    exact hfits' (hgrows.overflows hover hsize')
  refine ⟨size.toUInt32, ?_, (hexact.ok_iff _).mpr ⟨hnat.symm ▸ hsize, hfits⟩⟩
  rw [UInt32.le_iff_toNat_le, hnat]
  exact hle

end Grows

/-- Growing the lengths of arrays makes no struct and no struct member smaller. If one has a size
with the larger constants, it has one with the smaller ones. -/
theorem declaredSizes_mono {module larger : Module} (hgrows : module.Grows larger)
    (hacyclic : module.Acyclic) (id : Ident) (index : UInt32) :
    (∀ size', larger.declaredStructSize id = .ok size' →
      ∃ size ≤ size', module.declaredStructSize id = .ok size) ∧
    ∀ size', larger.declaredMemberSize id index = .ok size' →
      ∃ size ≤ size', module.declaredMemberSize id index = .ok size := by
  have hparts := fun part (_ : module.Part part id) => exactAnswer_declaredSize hacyclic part
  have hparts' := fun part (_ : larger.Part part id) =>
    exactAnswer_declaredSize (hgrows.acyclic hacyclic) part
  constructor
  · intro size' hsize'
    exact hgrows.exists_answer (exactAnswer_structSizeBy hparts) (exactAnswer_structSizeBy hparts')
      hsize'
  · intro size' hsize'
    exact hgrows.exists_answer (exactAnswer_memberSizeBy hparts index)
      (exactAnswer_memberSizeBy hparts' index) hsize'

/-- A block that ends in a table of the given number of rows and columns. Only its cells have a
stride. -/
def tableBlock (rows columns : UInt64) : Module where
  types := .ofRows [(1, .float 32), (2, .vector 1 4), (5, .array 2 4), (6, .array 5 3),
    (7, .struct [1, 6])]
  constants := .ofRows [(3, rows), (4, columns)]
  decorations := .ofRows [((5, Decoration.arrayStride), [16])]
  memberDecorations := .ofRows [((7, 0, Decoration.offset), [0]), ((7, 1, Decoration.offset), [16])]

theorem declaredSizes_mono_tableBlock :
    (tableBlock 0 2).Grows (tableBlock 3 4) ∧ (tableBlock 0 2).Acyclic ∧
      (tableBlock 3 4).declaredStructSize 7 = .ok 208 ∧
      (∃ size ≤ 208, (tableBlock 0 2).declaredStructSize 7 = .ok size) ∧
      ∃ size ≤ 192, (tableBlock 0 2).declaredMemberSize 7 1 = .ok size := by
  have hgrows : (tableBlock 0 2).Grows (tableBlock 3 4) := by
    refine ⟨fun _ => rfl, fun _ _ => rfl, fun _ _ _ => rfl, ?_⟩
    intro id
    by_cases hrows : id = 3
    · rw [hrows]
      exact .some (by decide)
    by_cases hcolumns : id = 4
    · rw [hcolumns]
      exact .some (by decide)
    have hnone : ∀ rows columns, (tableBlock rows columns).constant? id = none := by
      intro rows columns
      simp [constant?, tableBlock, Table.get?, Table.ofRows, Ne.symm hrows, Ne.symm hcolumns]
    rw [hnone, hnone]
    exact .none
  have hacyclic : (tableBlock 0 2).Acyclic := acyclic_of_rows rfl
  obtain ⟨hstruct, hmember⟩ := declaredSizes_mono hgrows hacyclic 7 1
  exact ⟨hgrows, hacyclic, rfl, hstruct 208 rfl, hmember 192 rfl⟩

end Module

end ShaderInterface
