import Mathlib.Data.List.Nodup
import Mathlib.Order.WellFounded
import ShaderInterface.Assembler
import ShaderInterface.Proofs.Acceptance
import ShaderInterface.Proofs.DeclaredSize

/-!
# Types that are declared before they are used

No type is declared twice, so the place of its declaration is a number for each type. Where types
are put together from types declared before, this number falls with every step from a whole to a
part. Walks along arrays and the descent to a size then end by themselves, and the bounds with
which they are written are never reached.
-/

namespace ShaderInterface

/-! ## Loops and descents without a bound -/

/-- A loop ends with a result after so many turns. Each turn leads to the next state, and where
there is none, to the result. -/
inductive EndsAfter {σ ρ : Type} (turn : σ → σ ⊕ ρ) : Nat → σ → ρ → Prop
  | stop {state : σ} {result : ρ} (hturn : turn state = .inr result) :
      EndsAfter turn 0 state result
  | again {turns : Nat} {state next : σ} {result : ρ} (hturn : turn state = .inl next)
      (hrest : EndsAfter turn turns next result) : EndsAfter turn (turns + 1) state result

/-- The type, or the struct with the member, whose size is asked for. -/
def SizeQuery.target : SizeQuery → Ident
  | .type id => id
  | .struct id => id
  | .member id _ => id

namespace Module

variable (module : Module)

/-- A turn on the way to the type inside the arrays takes one array off. -/
def elementTurn (id : Ident) : Ident ⊕ Ident :=
  match module.element? id with
  | some element => .inl element
  | none => .inr id

/-- A turn on the way through the dimensions takes one array off and keeps its dimension. The first
array whose length cannot be told is the end. -/
def dimensionTurn (state : List (Option UInt32) × Ident) :
    (List (Option UInt32) × Ident) ⊕ Except ModuleError (List (Option UInt32)) :=
  match module.element? state.2 with
  | none => .inr (.ok state.1)
  | some element =>
      match module.arrayLength state.2 with
      | .ok dimension => .inl (state.1 ++ [dimension], element)
      | .error error => .inr (.error error)

/-- How a size is computed, given the sizes of types. -/
def computedBy (size : Ident → Except ModuleError UInt32) :
    SizeQuery → Except ModuleError UInt32
  | .type id => module.sizeBy size id
  | .struct id => module.structSizeBy size id
  | .member id index => module.memberSizeBy size id index

/-- The size that the module answers with. -/
def declared : SizeQuery → Except ModuleError UInt32
  | .type id => module.declaredSize id
  | .struct id => module.declaredStructSize id
  | .member id index => module.declaredMemberSize id index

/-- While the types in `entered` are being sized, the answer to the query is computed from the sizes
of the parts of its type, each of which is computed in the same way. No bound is set, but no type
may be entered again while it is being sized. -/
inductive Computes : List Ident → SizeQuery → Except ModuleError UInt32 → Prop
  | enter {entered : List Ident} {query : SizeQuery} {size : Ident → Except ModuleError UInt32}
      (hnew : query.target ∉ entered)
      (hparts : ∀ part, module.Part part query.target →
        Computes (query.target :: entered) (.type part) (size part)) :
      Computes entered query (module.computedBy size query)

/-- Whatever is asked about the types of the module, finding the answer comes to an end. -/
structure Terminates : Prop where
  /-- Going from types to their parts comes to an end. -/
  wellFounded : WellFounded module.Part
  /-- The type inside the arrays is found in no more turns than there are declared types, -/
  elementType : ∀ id, ∃ turns ≤ module.typeIds.card,
    EndsAfter module.elementTurn turns id (module.elementType id)
  /-- and so are the dimensions. -/
  arrayDims : ∀ id, ∃ turns ≤ module.typeIds.card,
    EndsAfter module.dimensionTurn turns ([], id) (module.arrayDims id)
  /-- Without re-entering a type there is exactly one answer to find, and it is the module's. -/
  declared : ∀ query answer, module.Computes [] query answer ↔ answer = module.declared query

end Module

/-- The types that the instruction puts a type together from. -/
def Instruction.typeParts (inst : Instruction) : List Ident :=
  (TypeDecl.ofOperands? inst.opcode inst.operands).elim [] TypeDecl.parts

/-- All types that a type is put together from are declared by earlier instructions. -/
def DeclaredInOrder (insts : List Instruction) : Prop :=
  ∀ place : Fin insts.length, ∀ part ∈ insts[place].typeParts,
    part ∈ (insts.take place).filterMap Instruction.typeId?

instance (insts : List Instruction) : Decidable (DeclaredInOrder insts) :=
  -- the parts of one type are gone through, not all the identifiers that there could be
  have (place : Fin insts.length) : Decidable (∀ part ∈ insts[place].typeParts,
      part ∈ (insts.take place).filterMap Instruction.typeId?) := List.decidableBAll _ _
  Nat.decidableForallFin _

namespace Module

variable {module : Module}

/-! ## Walks along arrays -/

theorem endsAfter_elementTurn {bound : Nat} {id : Ident}
    (hinner : module.element? (module.unwrapUpTo bound id).2 = none) :
    EndsAfter module.elementTurn (module.unwrapUpTo bound id).1.length id
      (module.unwrapUpTo bound id).2 := by
  induction bound generalizing id with
  | zero =>
      apply EndsAfter.stop
      simp only [elementTurn, show module.element? id = none from hinner]
      rfl
  | succ bound ih =>
      rw [unwrapUpTo] at hinner ⊢
      cases helement : module.element? id with
      | none => exact .stop (by simp only [elementTurn, helement])
      | some element =>
          rw [helement] at hinner
          exact .again (by simp only [elementTurn, helement]) (ih hinner)

theorem endsAfter_dimensionTurn_of_not_array {id : Ident} (helement : module.element? id = none)
    (dims : List (Option UInt32)) :
    EndsAfter module.dimensionTurn 0 (dims, id)
      ((([] : List Ident).mapM module.arrayLength).map (dims ++ ·)) := by
  apply EndsAfter.stop
  simp [dimensionTurn, helement, Except.map]

theorem endsAfter_dimensionTurn {bound : Nat} {id : Ident}
    (hinner : module.element? (module.unwrapUpTo bound id).2 = none)
    (dims : List (Option UInt32)) :
    ∃ turns ≤ (module.unwrapUpTo bound id).1.length,
      EndsAfter module.dimensionTurn turns (dims, id)
        (((module.unwrapUpTo bound id).1.mapM module.arrayLength).map (dims ++ ·)) := by
  induction bound generalizing id dims with
  | zero => exact ⟨0, le_rfl, endsAfter_dimensionTurn_of_not_array hinner dims⟩
  | succ bound ih =>
      rw [unwrapUpTo] at hinner ⊢
      cases helement : module.element? id with
      | none => exact ⟨0, le_rfl, endsAfter_dimensionTurn_of_not_array helement dims⟩
      | some element =>
          rw [helement] at hinner
          simp only [List.mapM_cons, List.length_cons]
          cases hlength : module.arrayLength id with
          | error error =>
              exact ⟨0, Nat.zero_le _, .stop (by simp only [dimensionTurn, helement, hlength]; rfl)⟩
          | ok dimension =>
              obtain ⟨turns, hturns, hrest⟩ := ih hinner (dims ++ [dimension])
              have hsame : ((Except.ok dimension >>= fun first =>
                  (module.unwrapUpTo bound element).1.mapM module.arrayLength >>= fun rest =>
                    pure (first :: rest)).map (dims ++ ·)) =
                  ((module.unwrapUpTo bound element).1.mapM module.arrayLength).map
                    (dims ++ [dimension] ++ ·) := by
                cases (module.unwrapUpTo bound element).1.mapM module.arrayLength with
                | ok rest => simp [Except.map]
                | error error => rfl
              rw [hsame]
              exact ⟨turns + 1, by omega,
                .again (by simp only [dimensionTurn, helement, hlength]) hrest⟩

/-- Arrays that do not contain themselves are no more than the types there are. -/
theorem ArrayAcyclicFrom.length_unwrapUpTo_le {id : Ident} (bound : Nat)
    (hacyclic : module.ArrayAcyclicFrom id) :
    (module.unwrapUpTo bound id).1.length ≤ module.depth module.Element id := by
  induction bound generalizing id with
  | zero => exact Nat.zero_le _
  | succ bound ih =>
      rw [unwrapUpTo]
      cases helement : module.element? id with
      | none => exact Nat.zero_le _
      | some element =>
          have hlt := hacyclic.depth_lt helement
          have hle := ih (hacyclic.of_element? helement)
          simp only [List.length_cons]
          omega

theorem depth_le_card (below : Ident → Ident → Prop) (id : Ident) :
    module.depth below id ≤ module.typeIds.card := by
  classical
  exact Finset.card_filter_le _ _

theorem ArrayAcyclicFrom.length_arrayWrappers_le {id : Ident}
    (hacyclic : module.ArrayAcyclicFrom id) :
    (module.arrayWrappers id).length ≤ module.typeIds.card :=
  (hacyclic.length_unwrapUpTo_le _).trans (depth_le_card _ id)

theorem ArrayAcyclicFrom.endsAfter_elementType {id : Ident}
    (hacyclic : module.ArrayAcyclicFrom id) :
    EndsAfter module.elementTurn (module.arrayWrappers id).length id (module.elementType id) :=
  endsAfter_elementTurn hacyclic.element?_elementType

theorem ArrayAcyclicFrom.endsAfter_arrayDims {id : Ident}
    (hacyclic : module.ArrayAcyclicFrom id) :
    ∃ turns ≤ (module.arrayWrappers id).length,
      EndsAfter module.dimensionTurn turns ([], id) (module.arrayDims id) := by
  obtain ⟨turns, hturns, hends⟩ := endsAfter_dimensionTurn hacyclic.element?_elementType []
  have hsame : ((module.arrayWrappers id).mapM module.arrayLength).map ([] ++ ·) =
      module.arrayDims id := by
    unfold arrayDims
    cases (module.arrayWrappers id).mapM module.arrayLength <;> rfl
  exact ⟨turns, hturns, hsame ▸ hends⟩

/-! ## The descent to a size -/

theorem computedBy_congr {size size' : Ident → Except ModuleError UInt32} {query : SizeQuery}
    (hsize : ∀ part, module.Part part query.target → size part = size' part) :
    module.computedBy size query = module.computedBy size' query := by
  cases query with
  | type id => exact sizeBy_congr hsize
  | struct id => exact structSizeBy_congr hsize
  | member id index => exact memberSizeBy_congr index hsize

theorem declared_eq_computedBy {query : SizeQuery}
    (hacyclic : module.AcyclicFrom query.target) :
    module.declared query = module.computedBy module.declaredSize query := by
  cases query with
  | type id => exact declaredSize_eq hacyclic
  | struct id => rfl
  | member id index => rfl

/-- There is at most one answer, whatever has been entered before. -/
theorem Computes.unique {entered entered' : List Ident} {query : SizeQuery}
    {answer answer' : Except ModuleError UInt32} (hanswer : module.Computes entered query answer)
    (hanswer' : module.Computes entered' query answer') : answer = answer' := by
  induction hanswer generalizing entered' answer' with
  | enter _ _ ih =>
      cases hanswer' with
      | enter _ hparts' =>
          apply computedBy_congr
          intro part hpart
          exact ih part hpart (hparts' part hpart)

/-- The descent goes from wholes to parts, so without cycles it never meets a type from which it has
come. -/
theorem AcyclicFrom.computes_declared {id : Ident} (hacyclic : module.AcyclicFrom id) :
    ∀ (entered : List Ident) (query : SizeQuery), query.target = id →
      (∀ whole ∈ entered, ¬ Relation.ReflTransGen module.Part whole id) →
      module.Computes entered query (module.declared query) := by
  refine hacyclic.induction fun id hacyclic ih entered query htarget hentered => ?_
  subst htarget
  rw [declared_eq_computedBy hacyclic]
  apply Computes.enter
  · intro hmem
    exact hentered _ hmem .refl
  · intro part hpart
    refine ih part hpart _ (.type part) rfl ?_
    intro whole hwhole hreach
    rcases List.mem_cons.mp hwhole with rfl | hwhole
    · exact hacyclic _ .refl (.tail' hreach hpart)
    · exact hentered whole hwhole (hreach.tail hpart)

theorem acyclic_of_wellFounded (hwell : WellFounded module.Part) : module.Acyclic := by
  intro id hcycle
  exact hwell.transGen.irrefl.irrefl id hcycle

theorem terminates_of_wellFounded (hwell : WellFounded module.Part) : module.Terminates := by
  have hacyclic := acyclic_of_wellFounded hwell
  have harrays := hacyclic.arrayAcyclic
  constructor
  case wellFounded => exact hwell
  case elementType =>
    intro id
    have hid := harrays.arrayAcyclicFrom id
    exact ⟨_, hid.length_arrayWrappers_le, hid.endsAfter_elementType⟩
  case arrayDims =>
    intro id
    have hid := harrays.arrayAcyclicFrom id
    obtain ⟨turns, hturns, hends⟩ := hid.endsAfter_arrayDims
    exact ⟨turns, hturns.trans hid.length_arrayWrappers_le, hends⟩
  case declared =>
    intro query answer
    have hanswer : module.Computes [] query (module.declared query) :=
      (hacyclic.acyclicFrom query.target).computes_declared [] query rfl (by simp)
    constructor
    · exact fun hother => hother.unique hanswer
    · rintro rfl
      exact hanswer

/-! ## Declarations in order -/

theorem nodup_typeIds_of_accepted {insts : List Instruction} (haccepted : Accepted insts) :
    (insts.filterMap Instruction.typeId?).Nodup := by
  have hsame : insts.filterMap (Instruction.said? Fact.typeId?) =
      insts.filterMap Instruction.typeId? := by
    apply List.filterMap_congr
    intro inst hinst
    exact Instruction.said?_typeId?_eq (haccepted.formed inst hinst)
  exact hsame ▸ haccepted.distinct

theorem idxOf_lt_of_nodup {before after : List Ident} {part whole : Ident}
    (hnodup : (before ++ whole :: after).Nodup) (hpart : part ∈ before) :
    (before ++ whole :: after).idxOf part < (before ++ whole :: after).idxOf whole := by
  have hnew : whole ∉ before := by
    intro hmem
    exact (List.nodup_append.mp hnodup).2.2 whole hmem whole List.mem_cons_self rfl
  rw [List.idxOf_append_of_mem hpart, List.idxOf_append_of_notMem hnew, List.idxOf_cons_self]
  exact List.idxOf_lt_length_of_mem hpart

/-- Every part is declared before the whole. -/
theorem idxOf_lt_of_part {version : Version} {insts : List Instruction}
    (haccepted : Accepted insts) (horder : DeclaredInOrder insts) {part whole : Ident}
    (hpart : (recordAll { version } insts).Part part whole) :
    (insts.filterMap Instruction.typeId?).idxOf part <
      (insts.filterMap Instruction.typeId?).idxOf whole := by
  obtain ⟨decl, hdecl, hmem⟩ := hpart
  obtain ⟨inst, hinst, hfact⟩ := (type?_recordAll_iff version haccepted).mp hdecl
  obtain ⟨htype, hid, hread⟩ := Instruction.fact?_eq_type_iff.mp hfact
  obtain ⟨place, hplace, rfl⟩ := List.mem_iff_getElem.mp hinst
  have hwhole : insts[place].typeId? = some whole := by
    rw [Instruction.typeId?, if_pos htype, hid]
  have hbefore : part ∈ (insts.take place).filterMap Instruction.typeId? := by
    apply horder ⟨place, hplace⟩
    change part ∈ (TypeDecl.ofOperands? insts[place].opcode insts[place].operands).elim [] _
    rw [hread]
    exact hmem
  have hsplit : insts.filterMap Instruction.typeId? =
      (insts.take place).filterMap Instruction.typeId? ++
        whole :: (insts.drop (place + 1)).filterMap Instruction.typeId? := by
    rw [← List.filterMap_cons_some hwhole, ← List.filterMap_append,
      ← List.drop_eq_getElem_cons hplace, List.take_append_drop]
  have hnodup := nodup_typeIds_of_accepted haccepted
  rw [hsplit] at hnodup ⊢
  exact idxOf_lt_of_nodup hnodup hbefore

/-- A module that was collected from instructions in which each type is declared before it is used
as a part answers all questions about its types without a bound on the way. -/
theorem ofStream_terminates {stream : Stream} {module : Module}
    (hmodule : ofStream stream = .ok module) (horder : DeclaredInOrder stream.instructions) :
    module.Terminates := by
  obtain ⟨haccepted, rfl⟩ := ofInstructions_eq_ok.mp hmodule
  apply terminates_of_wellFounded
  have hrank : Subrelation
      (recordAll { version := .ofWord stream.versionWord } stream.instructions).Part
      (InvImage (· < ·) fun id => (stream.instructions.filterMap Instruction.typeId?).idxOf id) :=
    idxOf_lt_of_part haccepted horder
  exact hrank.wf (InvImage.wf _ wellFounded_lt)

/-- An array of structs that hold a matrix and an array, each declared before it is used. -/
def nestedArrays : Stream where
  versionWord := 0x00010000
  instructions :=
    [{ opcode := .typeFloat, resultId := some 1, operands := [.int32 32] },
      { opcode := .typeVector, resultId := some 2, operands := [.ref 1, .int32 4] },
      { opcode := .typeMatrix, resultId := some 3, operands := [.ref 2, .int32 4] },
      { opcode := .typeInt, resultId := some 4, operands := [.int32 32, .int32 0] },
      { opcode := .constant, resultType := some 4, resultId := some 5, operands := [.int32 3] },
      { opcode := .typeArray, resultId := some 6, operands := [.ref 2, .ref 5] },
      { opcode := .typeStruct, resultId := some 7, operands := [.ref 3, .ref 6] },
      { opcode := .typeArray, resultId := some 8, operands := [.ref 7, .ref 5] },
      { opcode := .typeRuntimeArray, resultId := some 9, operands := [.ref 8] }]

theorem ofStream_terminates_nestedArrays : ∃ module, ofStream nestedArrays = .ok module ∧
    DeclaredInOrder nestedArrays.instructions ∧ module.Terminates := by
  have horder : DeclaredInOrder nestedArrays.instructions := by decide
  obtain ⟨module, hmodule⟩ : ∃ module, ofStream nestedArrays = .ok module := ⟨_, rfl⟩
  exact ⟨module, hmodule, horder, ofStream_terminates hmodule horder⟩

end Module

end ShaderInterface
