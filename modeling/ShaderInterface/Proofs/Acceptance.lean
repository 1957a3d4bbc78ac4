import Mathlib.Data.List.Basic
import ShaderInterface.Proofs.Declarations
import ShaderInterface.Proofs.Tabulated.Grammar

/-!
# Which modules are accepted

Decoded instructions have the operands that collecting them asks for, so almost nothing can go
wrong after decoding: a module is refused only for a type that is declared twice and for a forward
pointer, which has no result although one is asked for. The error is that of the first such
instruction.
-/

namespace ShaderInterface

namespace Instruction

variable {inst : Instruction}

/-- The identifier under which the instruction declares a type. -/
def typeId? (inst : Instruction) : Option Ident :=
  if inst.opcode.declaresType then inst.resultId else none

/-- Every instruction but a forward pointer declares what its opcode is for, or has no part in a
module at all. -/
theorem Grammatical.formed (hgrammatical : inst.Grammatical)
    (hop : inst.opcode ≠ .typeForwardPointer) (hfact : inst.fact? = none) : inst.Silent := by
  unfold Grammatical at hgrammatical
  generalize hopcode : inst.opcode = op at hgrammatical hop
  -- the operands of each opcode are read off its grammar
  cases op <;> simp only [Opcode.operands?, Option.some.injEq, forall_eq', completes_nil,
    completes_resultType, completes_result, completes_id, completes_literal, completes_text,
    completes_enumerant, completes_refs, Enumeration.hasParameters, forall_const, reduceCtorEq,
    false_imp_iff, true_and] at hgrammatical
  case typeForwardPointer => exact absurd rfl hop
  case entryPoint =>
    obtain ⟨model, _, rfl, function, name, interface, rfl⟩ := hgrammatical
    simp only [fact?, List.nil_append, List.cons_append, mapM_ref?_map_ref, Option.map_some,
      reduceCtorEq] at hfact
  case name =>
    obtain ⟨target, text, rfl⟩ := hgrammatical
    cases hfact
  case memberName =>
    obtain ⟨target, member, text, rfl⟩ := hgrammatical
    cases hfact
  case decorate =>
    obtain ⟨target, decoration, parameters, rfl⟩ := hgrammatical
    cases hfact
  case memberDecorate =>
    obtain ⟨target, member, decoration, parameters, rfl⟩ := hgrammatical
    cases hfact
  case constant | specConstant =>
    obtain ⟨type, id, hnumber⟩ := hgrammatical
    obtain ⟨number, rfl⟩ := hnumber.exists_operands (by decide) (by decide) (by decide)
    exact ⟨rfl, Option.map_eq_none_iff.mp hfact⟩
  case specConstantTrue | specConstantFalse =>
    obtain ⟨type, id, rfl⟩ := hgrammatical
    cases hfact
  case var =>
    obtain ⟨type, id, storageClass, _, rfl, hinitializer⟩ := hgrammatical
    obtain ⟨initializer, rfl⟩ := hinitializer.exists_operands (by decide) (by decide) (by decide)
    by_cases hclass : storageClass = StorageClass.function
    · subst hclass
      exact ⟨rfl, rfl⟩
    · simp [fact?, hclass] at hfact
  case typeInt =>
    obtain ⟨id, width, signedness, rfl⟩ := hgrammatical
    cases hfact
  case typeFloat =>
    obtain ⟨id, width, rfl⟩ := hgrammatical
    cases hfact
  case typeVector | typeMatrix =>
    obtain ⟨id, part, count, rfl⟩ := hgrammatical
    cases hfact
  case typeImage =>
    obtain ⟨id, sampledType, dim, _, rfl, depth, arrayed, multisampled, sampled, format, _, rfl,
      haccess⟩ := hgrammatical
    obtain ⟨access, rfl⟩ := haccess.exists_operands (by decide) (by decide) (by decide)
    cases hfact
  case typeSampledImage | typeRuntimeArray =>
    obtain ⟨id, part, rfl⟩ := hgrammatical
    cases hfact
  case typeArray =>
    obtain ⟨id, element, length, rfl⟩ := hgrammatical
    cases hfact
  case typeStruct =>
    obtain ⟨id, members, rfl⟩ := hgrammatical
    simp only [fact?, TypeDecl.ofOperands?, List.nil_append, mapM_ref?_map_ref, Option.map_some,
      Option.bind_some, reduceCtorEq] at hfact
  case typePointer =>
    obtain ⟨id, storageClass, _, rfl, pointee, rfl⟩ := hgrammatical
    cases hfact
  case typeFunction =>
    obtain ⟨id, returned, arguments, rfl⟩ := hgrammatical
    cases hfact
  case typeOpaque =>
    obtain ⟨id, name, rfl⟩ := hgrammatical
    cases hfact
  case typePipe =>
    obtain ⟨id, access, _, rfl, rfl⟩ := hgrammatical
    cases hfact
  case typeVoid | typeBool | typeSampler | typeEvent | typeDeviceEvent | typeReserveId
      | typeQueue =>
    obtain ⟨id, rfl⟩ := hgrammatical
    cases hfact
  -- no other opcode has a part in a module
  case other =>
    unfold Silent
    rw [hopcode]
    exact Opcode.declaresType_other _ _ _
  all_goals
    unfold Silent
    rw [hopcode]
    rfl

/-- A forward pointer has operands and no result. -/
theorem Grammatical.forwardPointer (hgrammatical : inst.Grammatical)
    (hop : inst.opcode = .typeForwardPointer) : ∃ target storageClass, inst =
      { opcode := .typeForwardPointer,
        operands := [.ref target, .enumerant .storageClass storageClass] } := by
  unfold Grammatical at hgrammatical
  rw [hop] at hgrammatical
  simp only [Opcode.operands?, Option.some.injEq, forall_eq', completes_nil, completes_id,
    completes_enumerant, Enumeration.hasParameters, forall_const] at hgrammatical
  obtain ⟨target, storageClass, _, rfl, rfl⟩ := hgrammatical
  exact ⟨target, storageClass, rfl⟩

/-- The type that an instruction declares is declared under its result. -/
theorem said?_typeId?_eq (hformed : inst.fact? = none → inst.Silent) :
    inst.said? Fact.typeId? = inst.typeId? := by
  unfold typeId?
  by_cases htype : inst.opcode.declaresType = true
  · obtain ⟨id, decl, hid, hfact⟩ := exists_type_of_declaresType hformed htype
    rw [if_pos htype, hid, Module.said?_typeId?_iff]
    exact ⟨decl, hfact⟩
  · rw [if_neg htype, Option.eq_none_iff_forall_ne_some]
    intro id hid
    obtain ⟨decl, hfact⟩ := Module.said?_typeId?_iff.mp hid
    exact htype (declaredBy_of_fact? hfact)

/-- Why an instruction is refused behind others. -/
inductive RefusedAfter (before : List Instruction) (inst : Instruction) : ModuleError → Prop where
  | forwardPointer (hop : inst.opcode = .typeForwardPointer) :
      RefusedAfter before inst (.missingResult .typeForwardPointer)
  | redefined {id : Ident} (hid : inst.typeId? = some id)
      (hbefore : id ∈ before.filterMap typeId?) : RefusedAfter before inst (.redefinedType id)

end Instruction

namespace Module

/-- No instruction is a forward pointer, and none declares a type again. -/
structure Admissible (insts : List Instruction) : Prop where
  noForwardPointer : ∀ inst ∈ insts, inst.opcode ≠ .typeForwardPointer
  distinct : (insts.filterMap Instruction.typeId?).Nodup

/-- The first instruction that is refused is refused with this error. -/
def Refused (insts : List Instruction) (error : ModuleError) : Prop :=
  ∃ before inst after, insts = before ++ inst :: after ∧ Admissible before ∧
    inst.RefusedAfter before error

section

variable {module : Module} {insts : List Instruction} {inst : Instruction}

theorem filterMap_said?_typeId? (hgrammatical : ∀ inst ∈ insts, inst.Grammatical)
    (hforward : ∀ inst ∈ insts, inst.opcode ≠ .typeForwardPointer) :
    insts.filterMap (Instruction.said? Fact.typeId?) = insts.filterMap Instruction.typeId? := by
  apply List.filterMap_congr
  intro inst hinst
  exact Instruction.said?_typeId?_eq ((hgrammatical inst hinst).formed (hforward inst hinst))

/-- Among decoded instructions the admissible ones are those that can be collected. -/
theorem accepted_iff_admissible (hgrammatical : ∀ inst ∈ insts, inst.Grammatical) :
    Accepted insts ↔ Admissible insts := by
  constructor
  · intro haccepted
    have hforward : ∀ inst ∈ insts, inst.opcode ≠ .typeForwardPointer := by
      intro inst hinst hop
      obtain ⟨target, storageClass, rfl⟩ := (hgrammatical inst hinst).forwardPointer hop
      -- it declares nothing, and only what has a result may do so
      have hsilent := haccepted.formed _ hinst rfl
      cases hsilent
    refine ⟨hforward, ?_⟩
    rw [← filterMap_said?_typeId? hgrammatical hforward]
    exact haccepted.distinct
  · intro hadmissible
    have hforward := hadmissible.noForwardPointer
    refine ⟨fun inst hinst => (hgrammatical inst hinst).formed (hforward inst hinst), ?_⟩
    rw [filterMap_said?_typeId? hgrammatical hforward]
    exact hadmissible.distinct

theorem add_of_redefined {id : Ident} {decl : TypeDecl}
    (hfact : inst.fact? = some (.type id decl)) (hknown : module.types.contains id = true) :
    module.add inst = .error (.redefinedType id) := by
  obtain ⟨htype, hid, hdecl⟩ := Instruction.fact?_eq_type_iff.mp hfact
  have hadd : module.add inst = module.addType inst := by
    obtain ⟨op, resultType, resultId, operands⟩ := inst
    cases op <;> first | rfl | cases htype | simp at htype
  have hread : inst.reading (OperandReader.typeDecl inst.opcode) = .ok (some decl) :=
    Instruction.reading_eq_ok.mpr ((OperandReader.typeDecl_eq_ok htype).mpr ⟨decl, rfl, hdecl⟩)
  rw [hadd, addType, Instruction.requiredResult_eq_ok.mpr hid, ok_bind, hread, ok_bind]
  simp only [hknown, if_true]

theorem add_of_forwardPointer (hgrammatical : inst.Grammatical)
    (hop : inst.opcode = .typeForwardPointer) :
    module.add inst = .error (.missingResult .typeForwardPointer) := by
  obtain ⟨target, storageClass, rfl⟩ := hgrammatical.forwardPointer hop
  rfl

theorem contains_recordAll (version : Version) {id : Ident}
    (hid : id ∈ insts.filterMap (Instruction.said? Fact.typeId?)) (decl : TypeDecl) :
    (recordAll { version } insts).types.contains id = true := by
  by_contra hnew
  have hadmits : (recordAll { version } insts).Admits (.type id decl) := by
    simpa [Admits] using hnew
  exact admits_recordAll.mp hadmits id rfl hid

section

variable (version : Version) (hgrammatical : inst.Grammatical)
  (hids : insts.filterMap (Instruction.said? Fact.typeId?) =
    insts.filterMap Instruction.typeId?)

include hgrammatical hids

theorem add_of_refusedAfter {error : ModuleError} (hrefused : inst.RefusedAfter insts error) :
    (recordAll { version } insts).add inst = .error error := by
  cases hrefused with
  | forwardPointer hop => exact add_of_forwardPointer hgrammatical hop
  | @redefined id hid hbefore =>
      have hop : inst.opcode ≠ .typeForwardPointer := by
        intro hop
        rw [Instruction.typeId?, hop] at hid
        cases hid
      have hsaid := (Instruction.said?_typeId?_eq (hgrammatical.formed hop)).trans hid
      obtain ⟨decl, hfact⟩ := said?_typeId?_iff.mp hsaid
      exact add_of_redefined hfact (contains_recordAll version (hids ▸ hbefore) decl)

theorem exists_adds (hallowed : ∀ error, ¬ inst.RefusedAfter insts error) :
    ∃ result, (recordAll { version } insts).Adds inst result := by
  have hformed := hgrammatical.formed fun hop => hallowed _ (.forwardPointer hop)
  cases hfact : inst.fact? with
  | none => exact ⟨_, .inr ⟨hformed hfact, rfl⟩⟩
  | some fact =>
      refine ⟨_, .inl ⟨fact, hfact, admits_recordAll.mpr ?_, rfl⟩⟩
      intro id hid hbefore
      refine hallowed _ (.redefined ?_ (hids ▸ hbefore))
      rw [← Instruction.said?_typeId?_eq hformed, Instruction.said?, hfact]
      exact hid

/-- Behind admissible instructions, one that is refused ends collecting with its error. -/
theorem add_eq_error {error : ModuleError} :
    (recordAll { version } insts).add inst = .error error ↔ inst.RefusedAfter insts error := by
  refine ⟨fun herror => ?_, add_of_refusedAfter version hgrammatical hids⟩
  by_cases hallowed : ∀ error, ¬ inst.RefusedAfter insts error
  · obtain ⟨result, hresult⟩ := exists_adds version hgrammatical hids hallowed
    rw [add_eq_ok.mpr hresult] at herror
    cases herror
  · obtain ⟨other, hrefused⟩ := not_forall_not.mp hallowed
    rw [add_of_refusedAfter version hgrammatical hids hrefused] at herror
    cases herror
    exact hrefused

end

theorem refused_append_singleton {error : ModuleError} :
    Refused (insts ++ [inst]) error ↔
      Refused insts error ∨ Admissible insts ∧ inst.RefusedAfter insts error := by
  constructor
  · rintro ⟨before, refused, after, hsplit, hbefore, hrefused⟩
    rcases List.eq_nil_or_concat after with rfl | ⟨after, last, rfl⟩
    · obtain ⟨rfl, hlast⟩ := List.append_inj' hsplit rfl
      cases hlast
      exact .inr ⟨hbefore, hrefused⟩
    · have hsplit : insts ++ [inst] = (before ++ refused :: after) ++ [last] := by
        simpa using hsplit
      obtain ⟨rfl, -⟩ := List.append_inj' hsplit rfl
      exact .inl ⟨before, refused, after, rfl, hbefore, hrefused⟩
  · rintro (⟨before, refused, after, rfl, hbefore, hrefused⟩ | ⟨hadmissible, hrefused⟩)
    · exact ⟨before, refused, after ++ [inst], by simp, hbefore, hrefused⟩
    · exact ⟨insts, inst, [], rfl, hadmissible, hrefused⟩

end

/-- Collecting decoded instructions fails exactly with the error of the first one refused. -/
theorem ofInstructions_eq_error (version : Version) {insts : List Instruction}
    (hgrammatical : ∀ inst ∈ insts, inst.Grammatical) {error : ModuleError} :
    ofInstructions version insts = .error error ↔ Refused insts error := by
  -- a run fails where it failed before its last instruction, or at this one
  induction insts using List.reverseRecOn with
  | nil =>
      constructor
      · intro herror
        cases herror
      · rintro ⟨before, inst, after, hsplit, -⟩
        simp at hsplit
  | append_singleton insts inst ih =>
      have hbefore : ∀ inst ∈ insts, inst.Grammatical :=
        fun inst hinst => hgrammatical inst (List.mem_append_left _ hinst)
      have hlast : inst.Grammatical := hgrammatical inst (by simp)
      rw [refused_append_singleton, ← ih hbefore, ofInstructions_append_singleton]
      cases hrun : ofInstructions version insts with
      | error earlier =>
          have hnot : ¬ Admissible insts := by
            intro hadmissible
            have haccepted := (accepted_iff_admissible hbefore).mpr hadmissible
            rw [ofInstructions_eq_ok.mpr ⟨haccepted, rfl⟩] at hrun
            cases hrun
          simp [hnot]
      | ok module =>
          obtain ⟨haccepted, rfl⟩ := ofInstructions_eq_ok.mp hrun
          have hadmissible := (accepted_iff_admissible hbefore).mp haccepted
          have hids := filterMap_said?_typeId? hbefore hadmissible.noForwardPointer
          rw [ok_bind, add_eq_error version hlast hids]
          simp [hadmissible]

/-- How reading words ends, given how decoding them does. -/
def Judged : Except String Stream → Except ModuleError Module → Prop
  | .error text, result => result = .error (.undecodable text)
  | .ok stream, result =>
      ((∃ module, result = .ok module) ↔ Admissible stream.instructions) ∧
        ∀ error, result = .error error ↔ Refused stream.instructions error

end Module

/-- Words are refused exactly if they cannot be decoded, declare a type twice or hold a forward
pointer. -/
theorem Decoder.readWords_judged {decoder : Decoder} (hdecoder : decoder.FollowsGrammar)
    (words : List UInt32) :
    Module.Judged (decoder.decode words) (decoder.readWords words).run.value := by
  rw [Module.value_readWords]
  cases hdecode : decoder.decode words with
  | error text => rfl
  | ok stream =>
      have hgrammatical := hdecoder words stream hdecode
      refine ⟨?_, fun error => Module.ofInstructions_eq_error _ hgrammatical⟩
      rw [← Module.accepted_iff_admissible hgrammatical]
      constructor
      · rintro ⟨module, hmodule⟩
        exact (Module.ofInstructions_eq_ok.mp hmodule).1
      · intro haccepted
        exact ⟨_, Module.ofInstructions_eq_ok.mpr ⟨haccepted, rfl⟩⟩

/-- A module that announces a pointer type before it declares it. -/
def announcedPointer : List UInt32 :=
  [0x07230203, 0x00010000, 0, 4, 0, 0x00030027, 1, 2, 0x00040020, 1, 2, 3]

namespace Decoder

theorem readWords_judged_announcedPointer : tabulated.FollowsGrammar ∧
    Module.Judged (tabulated.decode announcedPointer)
      (tabulated.readWords announcedPointer).run.value :=
  ⟨tabulated_followsGrammar, readWords_judged tabulated_followsGrammar announcedPointer⟩

/-- Decoded and without a type declared twice, the module is refused for its forward pointer. -/
theorem readWords_announcedPointer :
    ∃ stream, tabulated.decode announcedPointer = .ok stream ∧
      (stream.instructions.filterMap Instruction.typeId?).Nodup ∧
      (tabulated.readWords announcedPointer).run.value =
        .error (.missingResult .typeForwardPointer) ∧
      ModuleError.message (.missingResult .typeForwardPointer) =
        "invalid module: OpTypeForwardPointer: missing result id" :=
  ⟨_, rfl, by decide, rfl, rfl⟩

end Decoder

end ShaderInterface
