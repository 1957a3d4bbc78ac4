import Mathlib.Data.List.Induction
import ShaderInterface.Assembler
import ShaderInterface.Binary.Instruction

/-!
# What is assembled

Each step of an assembler writes instructions into one section, or into two for a function. What is
written are the words of the results and operands of these instructions, section by section.
-/

namespace ShaderInterface

/-! ## Words of instructions -/

/-- The words that say an operand. -/
def Operand.words : Operand → List UInt32
  | .ref target => [target]
  | .int32 value => [value]
  | .int64 value => Assembler.words64 value
  | .float32 bits => [bits]
  | .float64 bits => Assembler.words64 bits
  | .string text => Text.toWords text
  | .extInst number => [number]
  | .opcode op => [UInt32.ofNat op.number]
  | .enumerant _ value => [value.number]
  | .other words => words

/-- The opcode of an instruction and the words that say its result and its operands. -/
def Instruction.raw (inst : Instruction) : RawInstruction where
  opcode := inst.opcode
  operands := inst.resultType.toList ++ inst.resultId.toList ++ inst.operands.flatMap Operand.words

theorem Operand.flatMap_words_map_ref (ids : List Ident) :
    (ids.map Operand.ref).flatMap Operand.words = ids := by
  rw [List.flatMap_map]
  exact List.flatMap_singleton' ids

theorem Operand.flatMap_words_map_int32 (values : List UInt32) :
    (values.map Operand.int32).flatMap Operand.words = values := by
  rw [List.flatMap_map]
  exact List.flatMap_singleton' values

namespace RawInstruction

/-- The length of the instruction fits its first word. -/
def Short (raw : RawInstruction) : Prop :=
  raw.words.length ≤ 65535

variable {raw : RawInstruction}

theorem toNat_first (hshort : raw.Short) :
    (UInt32.ofNat ((raw.operands.length + 1) * 65536 + raw.opcode.number)).toNat =
      (raw.operands.length + 1) * 65536 + raw.opcode.number := by
  have hnumber := raw.opcode.number_lt
  have hlength : raw.operands.length + 1 ≤ 65535 := hshort
  exact UInt32.toNat_ofNat_of_lt' (by rw [UInt32.size]; omega)

/-- The upper half of the first word counts the words. -/
theorem first_div (hshort : raw.Short) :
    (UInt32.ofNat ((raw.operands.length + 1) * 65536 + raw.opcode.number)).toNat / 65536 =
      raw.operands.length + 1 := by
  have hnumber := raw.opcode.number_lt
  rw [toNat_first hshort]
  omega

/-- The lower half is the opcode. -/
theorem first_mod (hshort : raw.Short) :
    (UInt32.ofNat ((raw.operands.length + 1) * 65536 + raw.opcode.number)).toNat % 65536 =
      raw.opcode.number := by
  have hnumber := raw.opcode.number_lt
  rw [toNat_first hshort]
  omega

end RawInstruction

/-! ## Instructions of calls -/

/-- A step and the identifier that the assembler answered with. -/
abbrev AssemblerCall := AssemblerStep × Option Ident

namespace Instruction

/-- An instruction that declares a type. -/
def declaring (op : Opcode) (id : Ident) (operands : List Operand) : Instruction :=
  { opcode := op, resultId := some id, operands }

/-- An instruction that defines a value. -/
def defining (op : Opcode) (type id : Ident) (operands : List Operand) : Instruction :=
  { opcode := op, resultType := some type, resultId := some id, operands }

end Instruction

namespace AssemblerCall

open Instruction

/-- The instructions that a call writes into the section of capabilities and entry points. -/
def preamble : AssemblerCall → List Instruction
  | (.entryPoint model function name interface, _) =>
      [{ opcode := .entryPoint,
         operands := .enumerant .executionModel model :: .ref function :: .string name ::
           interface.map .ref }]
  | _ => []

/-- The instructions that a call writes into the section of names and decorations. -/
def annotations : AssemblerCall → List Instruction
  | (.name target text, _) => [{ opcode := .name, operands := [.ref target, .string text] }]
  | (.memberName target member text, _) =>
      [{ opcode := .memberName, operands := [.ref target, .int32 member, .string text] }]
  | (.decorate target decoration params, _) =>
      [{ opcode := .decorate,
         operands := .ref target :: .enumerant .decoration decoration :: params.map .int32 }]
  | (.memberDecorate target member decoration params, _) =>
      [{ opcode := .memberDecorate,
         operands := .ref target :: .int32 member :: .enumerant .decoration decoration ::
           params.map .int32 }]
  | _ => []

/-- The instructions that a call writes into the section of types, constants and variables. -/
def globals : AssemblerCall → List Instruction
  | (.typeVoid, some id) => [declaring .typeVoid id []]
  | (.typeBool, some id) => [declaring .typeBool id []]
  | (.typeInt width signed, some id) =>
      [declaring .typeInt id [.int32 width, .int32 (if signed then 1 else 0)]]
  | (.typeFloat width, some id) => [declaring .typeFloat id [.int32 width]]
  | (.typeVector component count, some id) =>
      [declaring .typeVector id [.ref component, .int32 count]]
  | (.typeMatrix column count, some id) => [declaring .typeMatrix id [.ref column, .int32 count]]
  | (.typeImage sampledType dim sampled format, some id) =>
      [declaring .typeImage id [.ref sampledType, .enumerant .dim dim, .int32 0, .int32 0, .int32 0,
        .int32 sampled, .enumerant .imageFormat format]]
  | (.typeSampler, some id) => [declaring .typeSampler id []]
  | (.typeSampledImage image, some id) => [declaring .typeSampledImage id [.ref image]]
  | (.typeArray element length, some id) => [declaring .typeArray id [.ref element, .ref length]]
  | (.typeRuntimeArray element, some id) => [declaring .typeRuntimeArray id [.ref element]]
  | (.typeStruct members, some id) => [declaring .typeStruct id (members.map .ref)]
  | (.typePointer storageClass pointee, some id) =>
      [declaring .typePointer id [.enumerant .storageClass storageClass, .ref pointee]]
  | (.constant32 type value, some id) => [defining .constant type id [.int32 value]]
  | (.constant64 type value, some id) => [defining .constant type id [.int64 value]]
  | (.specConstant32 type value, some id) => [defining .specConstant type id [.int32 value]]
  | (.specConstantBool type value, some id) =>
      [defining (if value then .specConstantTrue else .specConstantFalse) type id []]
  | (.var pointer storageClass, some id) =>
      [defining .var pointer id [.enumerant .storageClass storageClass]]
  -- the types that a function needs come before it
  | (.function, some id) =>
      [declaring .typeVoid (id - 2) [], declaring .typeFunction (id - 1) [.ref (id - 2)]]
  | _ => []

/-- A function may be inlined or not. -/
def noControl : Enumerant .functionControl := ⟨0⟩

/-- The instructions that a call writes into the section of function bodies. -/
def functions : AssemblerCall → List Instruction
  | (.function, some id) =>
      [defining .function (id - 2) id [.enumerant .functionControl noControl, .ref (id - 1)],
        declaring .label (id + 1) [], { opcode := .ret }, { opcode := .functionEnd }]
  | _ => []

end AssemblerCall

namespace Assembler

/-- The steps with the answers to them. -/
def calls (asm : Assembler) : List AssemblerStep → List AssemblerCall
  | [] => []
  | step :: rest => (step, (asm.step step).1) :: (asm.step step).2.calls rest

theorem run_append_singleton (asm : Assembler) (steps : List AssemblerStep) (step : AssemblerStep) :
    asm.run (steps ++ [step]) = ((asm.run steps).step step).2 := by
  simp [run]

theorem calls_append_singleton (asm : Assembler) (steps : List AssemblerStep)
    (step : AssemblerStep) :
    asm.calls (steps ++ [step]) = asm.calls steps ++ [(step, ((asm.run steps).step step).1)] := by
  induction steps generalizing asm with
  | nil => rfl
  | cons first rest ih => exact congrArg _ (ih (asm.step first).2)

end Assembler

section Function

variable (asm : Assembler)

/-- The identifiers of the types that a function needs. -/
theorem sub_function_ids (id : Ident) : id + 1 + 1 - 2 = id ∧ id + 1 + 1 - 1 = id + 1 := by
  grind

/-- The third of the identifiers that a function takes is the answer. -/
theorem Assembler.answer_function : (asm.step .function).1 = some (asm.nextId + 1 + 1) :=
  rfl

theorem AssemblerCall.globals_function :
    AssemblerCall.globals (.function, (asm.step .function).1) =
      [.declaring .typeVoid asm.nextId [],
        .declaring .typeFunction (asm.nextId + 1) [.ref asm.nextId]] := by
  obtain ⟨hvoid, htype⟩ := sub_function_ids asm.nextId
  simp only [asm.answer_function, AssemblerCall.globals, hvoid, htype]

theorem AssemblerCall.functions_function :
    AssemblerCall.functions (.function, (asm.step .function).1) =
      [.defining .function asm.nextId (asm.nextId + 1 + 1)
          [.enumerant .functionControl noControl, .ref (asm.nextId + 1)],
        .declaring .label (asm.nextId + 1 + 1 + 1) [], { opcode := .ret },
        { opcode := .functionEnd }] := by
  obtain ⟨hvoid, htype⟩ := sub_function_ids asm.nextId
  simp only [asm.answer_function, AssemblerCall.functions, hvoid, htype]

theorem Assembler.globals_function : (asm.step .function).2.globals =
    asm.globals ++
      [⟨.typeVoid, [asm.nextId]⟩, ⟨.typeFunction, [asm.nextId + 1, asm.nextId]⟩] :=
  List.append_assoc _ _ _

theorem Assembler.functions_function : (asm.step .function).2.functions =
    asm.functions ++
      [⟨.function, [asm.nextId, asm.nextId + 1 + 1, 0, asm.nextId + 1]⟩,
        ⟨.label, [asm.nextId + 1 + 1 + 1]⟩, ⟨.ret, []⟩, ⟨.functionEnd, []⟩] :=
  rfl

end Function

namespace Assembler

/-- What every module starts with. -/
def header : List Instruction :=
  [{ opcode := .capability, operands := [.enumerant .capability ⟨shaderCapability⟩] },
    { opcode := .memoryModel,
      operands := [.enumerant .addressingModel ⟨logicalAddressing⟩,
        .enumerant .memoryModel ⟨shadingMemoryModel⟩] }]

/-- The instructions that calls stand for, in the order of the sections. -/
def decoded (calls : List AssemblerCall) : List Instruction :=
  header ++ calls.flatMap AssemblerCall.preamble ++ calls.flatMap AssemblerCall.annotations ++
    calls.flatMap AssemblerCall.globals ++ calls.flatMap AssemblerCall.functions

theorem flatMap_calls_append_singleton (insts : AssemblerCall → List Instruction)
    (steps : List AssemblerStep) (step : AssemblerStep) :
    (new.calls (steps ++ [step])).flatMap insts =
      (new.calls steps).flatMap insts ++ insts (step, ((new.run steps).step step).1) := by
  rw [calls_append_singleton, List.flatMap_append, List.flatMap_singleton]

theorem step_mem_of_mem_calls {asm : Assembler} {steps : List AssemblerStep} {call : AssemblerCall}
    (hcall : call ∈ asm.calls steps) : call.1 ∈ steps := by
  induction steps generalizing asm with
  | nil => cases hcall
  | cons step rest ih =>
      rcases List.mem_cons.mp hcall with rfl | hcall
      · exact List.mem_cons_self
      · exact List.mem_cons_of_mem _ (ih hcall)

section Step

variable (asm : Assembler) (step : AssemblerStep)

theorem preamble_step : (asm.step step).2.preamble =
    asm.preamble ++ (AssemblerCall.preamble (step, (asm.step step).1)).map Instruction.raw := by
  cases step with
  | entryPoint model function name interface =>
      simp [Assembler.step, addPreamble, AssemblerCall.preamble, Instruction.raw, Operand.words,
        Operand.flatMap_words_map_ref]
  | _ => exact (List.append_nil _).symm

theorem annotations_step : (asm.step step).2.annotations =
    asm.annotations ++
      (AssemblerCall.annotations (step, (asm.step step).1)).map Instruction.raw := by
  cases step with
  | name | memberName | decorate | memberDecorate =>
      simp [Assembler.step, addAnnotation, AssemblerCall.annotations, Instruction.raw,
        Operand.words, Operand.flatMap_words_map_int32]
  | _ => exact (List.append_nil _).symm

theorem globals_step : (asm.step step).2.globals =
    asm.globals ++ (AssemblerCall.globals (step, (asm.step step).1)).map Instruction.raw := by
  cases step with
  | allocId | entryPoint | name | memberName | decorate | memberDecorate =>
      exact (List.append_nil _).symm
  | typeStruct members =>
      simp [Assembler.step, defining, declareType, alloc, addGlobal, AssemblerCall.globals,
        Instruction.declaring, Instruction.raw, Operand.flatMap_words_map_ref]
  | specConstantBool type value => cases value <;> rfl
  | function =>
      rw [asm.globals_function, AssemblerCall.globals_function]
      rfl
  | _ => rfl

theorem functions_step : (asm.step step).2.functions =
    asm.functions ++ (AssemblerCall.functions (step, (asm.step step).1)).map Instruction.raw := by
  cases step with
  | function =>
      rw [asm.functions_function, AssemblerCall.functions_function]
      rfl
  | _ => exact (List.append_nil _).symm

end Step

/-- The sections hold the instructions that the calls stand for, in the order of the calls. -/
theorem instructions_run (steps : List AssemblerStep) :
    (new.run steps).instructions = (decoded (new.calls steps)).map Instruction.raw := by
  have hsections : (new.run steps).preamble =
        (header ++ (new.calls steps).flatMap AssemblerCall.preamble).map Instruction.raw ∧
      (new.run steps).annotations =
        ((new.calls steps).flatMap AssemblerCall.annotations).map Instruction.raw ∧
      (new.run steps).globals =
        ((new.calls steps).flatMap AssemblerCall.globals).map Instruction.raw ∧
      (new.run steps).functions =
        ((new.calls steps).flatMap AssemblerCall.functions).map Instruction.raw := by
    induction steps using List.reverseRecOn with
    | nil => exact ⟨rfl, rfl, rfl, rfl⟩
    | append_singleton steps step ih =>
        obtain ⟨hpreamble, hannotations, hglobals, hfunctions⟩ := ih
        simp only [run_append_singleton, flatMap_calls_append_singleton, preamble_step,
          annotations_step, globals_step, functions_step, hpreamble, hannotations, hglobals,
          hfunctions, List.map_append, List.append_assoc, and_self]
  obtain ⟨hpreamble, hannotations, hglobals, hfunctions⟩ := hsections
  rw [instructions, hpreamble, hannotations, hglobals, hfunctions]
  simp only [decoded, List.map_append]

end Assembler

end ShaderInterface
