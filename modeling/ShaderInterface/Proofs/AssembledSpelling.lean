import ShaderInterface.Proofs.AssembledIdentifiers
import ShaderInterface.Proofs.Spelling

/-!
# Assembled modules are spelled

The assembled words stand for the instructions that the calls ask for. That a number is written in
the width of its type needs the calls before it: the type was declared by one of them, and no later
one defines its identifier again.
-/

namespace ShaderInterface

/-! ## Steps -/

namespace Vocabulary

variable (vocabulary : Vocabulary)

/-- The vocabulary knows the values that are in every assembled module or function. -/
structure KnowsShaders : Prop where
  capability : vocabulary.Knows .capability Assembler.shaderCapability
  addressingModel : vocabulary.Knows .addressingModel Assembler.logicalAddressing
  memoryModel : vocabulary.Knows .memoryModel Assembler.shadingMemoryModel
  functionControl : vocabulary.Knows .functionControl AssemblerCall.noControl.number

end Vocabulary

namespace AssemblerStep

/-- The text that the step writes. -/
def text? : AssemblerStep → Option String
  | .entryPoint _ _ text _ | .name _ text | .memberName _ _ text => some text
  | _ => none

/-- The values that the step writes belong to their vocabularies. -/
def Known (vocabulary : Vocabulary) : AssemblerStep → Prop
  | .entryPoint model _ _ _ => vocabulary.Knows .executionModel model.number
  | .decorate _ decoration _ | .memberDecorate _ _ decoration _ =>
      vocabulary.Knows .decoration decoration.number
  | .typeImage _ dim _ format =>
      vocabulary.Knows .dim dim.number ∧ vocabulary.Knows .imageFormat format.number
  | .typePointer storageClass _ | .var _ storageClass =>
      vocabulary.Knows .storageClass storageClass.number
  | _ => True

/-- A decoration of the step is given the integers that it takes. -/
def TakesLiterals (vocabulary : Vocabulary) : AssemblerStep → Prop
  | .decorate _ decoration params | .memberDecorate _ _ decoration params =>
      vocabulary.TakesIntegers decoration params.length
  | _ => True

/-- The type of a number that the step defines, and the width of the number. -/
def numberType? : AssemblerStep → Option (Ident × UInt32)
  | .constant32 type _ | .specConstant32 type _ => some (type, 32)
  | .constant64 type _ => some (type, 64)
  | _ => none

end AssemblerStep

/-! ## Instructions -/

/-- Behind others the words of the instruction are those that its grammar asks for. -/
def Instruction.Spelled (vocabulary : Vocabulary) (before : List Instruction)
    (inst : Instruction) : Prop :=
  ∃ specs, inst.opcode.operands? = some specs ∧
    SpellsOperands vocabulary before specs { opcode := inst.opcode } inst.raw.operands inst

/-- Behind others each of the instructions is spelled. -/
inductive AllSpelled (vocabulary : Vocabulary) : List Instruction → List Instruction → Prop where
  | nil (before : List Instruction) : AllSpelled vocabulary before []
  | cons {before insts : List Instruction} {inst : Instruction}
      (hinst : inst.Spelled vocabulary before)
      (hinsts : AllSpelled vocabulary (before ++ [inst]) insts) :
      AllSpelled vocabulary before (inst :: insts)

namespace AllSpelled

variable {vocabulary : Vocabulary} {before insts more : List Instruction}

theorem append (hinsts : AllSpelled vocabulary before insts)
    (hmore : AllSpelled vocabulary (before ++ insts) more) :
    AllSpelled vocabulary before (insts ++ more) := by
  induction hinsts with
  | nil => simpa using hmore
  | cons hinst _ ih => exact .cons hinst (ih (by simpa using hmore))

theorem singleton {inst : Instruction} (hinst : inst.Spelled vocabulary before) :
    AllSpelled vocabulary before [inst] :=
  .cons hinst (.nil _)

/-- What does not depend on the instructions before is spelled in any order. -/
theorem of_forall (hinsts : ∀ inst ∈ insts, ∀ before, inst.Spelled vocabulary before) :
    AllSpelled vocabulary before insts := by
  induction insts generalizing before with
  | nil => exact .nil before
  | cons inst rest ih =>
      exact .cons (hinsts inst List.mem_cons_self before)
        (ih fun later hlater => hinsts later (List.mem_cons_of_mem _ hlater))

/-- Instructions that fit their first words stand behind each other. -/
theorem spells (hinsts : AllSpelled vocabulary before insts)
    (hshort : ∀ inst ∈ insts, inst.raw.Short) :
    Spells vocabulary before ((insts.map Instruction.raw).flatMap RawInstruction.words) insts := by
  induction hinsts with
  | nil before => exact .nil before
  | @cons before insts inst hinst _ ih =>
      obtain ⟨specs, hspecs, hspells⟩ := hinst
      have hfirst : inst.raw.Short := hshort inst List.mem_cons_self
      exact .cons (RawInstruction.first_div hfirst) (RawInstruction.first_mod hfirst) hspecs hspells
        (ih fun later hlater => hshort later (List.mem_cons_of_mem _ hlater))

end AllSpelled

section Spelled

open Instruction

variable {vocabulary : Vocabulary} {before : List Instruction}

theorem spelled_entryPoint {model : ExecutionModel} (function : Ident) {name : String}
    (interface : List Ident) (hknown : vocabulary.Knows .executionModel model.number)
    (hnul : Text.NulFree name) : Spelled vocabulary before
      { opcode := .entryPoint,
        operands := .enumerant .executionModel model :: .ref function :: .string name ::
          interface.map .ref } := by
  refine ⟨_, rfl, ?_⟩
  change SpellsOperands _ _ _ _ (model.number :: function ::
    (Text.toWords name ++ (interface.map Operand.ref).flatMap Operand.words)) _
  rw [Operand.flatMap_words_map_ref]
  refine .word (.value model rfl hknown) (.word (.id function) ?_)
  exact .one (.toWords hnul) (.refs _ interface)

theorem spelled_name (target : Ident) {text : String} (hnul : Text.NulFree text) :
    Spelled vocabulary before { opcode := .name, operands := [.ref target, .string text] } := by
  refine ⟨_, rfl, ?_⟩
  change SpellsOperands _ _ _ _ (target :: (Text.toWords text ++ [])) _
  exact .word (.id target) (.one (.toWords hnul) (.nil _))

theorem spelled_memberName (target : Ident) (member : UInt32) {text : String}
    (hnul : Text.NulFree text) : Spelled vocabulary before
      { opcode := .memberName, operands := [.ref target, .int32 member, .string text] } := by
  refine ⟨_, rfl, ?_⟩
  change SpellsOperands _ _ _ _ (target :: member :: (Text.toWords text ++ [])) _
  refine .word (.id target) (.word (.literal member) ?_)
  exact .one (.toWords hnul) (.nil _)

section Decoration

variable {decoration : Decoration} {params : List UInt32}
  (hknown : vocabulary.Knows .decoration decoration.number)
  (hparams : vocabulary.TakesIntegers decoration params.length)

include hknown hparams

theorem spelled_decorate (target : Ident) : Spelled vocabulary before
    { opcode := .decorate,
      operands := .ref target :: .enumerant .decoration decoration :: params.map .int32 } := by
  refine ⟨_, rfl, ?_⟩
  change SpellsOperands _ _ _ _ (target :: decoration.number ::
    (params.map Operand.int32).flatMap Operand.words) _
  rw [Operand.flatMap_words_map_int32]
  exact .word (.id target) (.last (.decoration hknown hparams))

theorem spelled_memberDecorate (target : Ident) (member : UInt32) : Spelled vocabulary before
    { opcode := .memberDecorate,
      operands := .ref target :: .int32 member :: .enumerant .decoration decoration ::
        params.map .int32 } := by
  refine ⟨_, rfl, ?_⟩
  change SpellsOperands _ _ _ _ (target :: member :: decoration.number ::
    (params.map Operand.int32).flatMap Operand.words) _
  rw [Operand.flatMap_words_map_int32]
  refine .word (.id target) (.word (.literal member) ?_)
  exact .last (.decoration hknown hparams)

end Decoration

theorem spelled_typeImage (id sampledType : Ident) {dim : Dim} (sampled : UInt32)
    {format : ImageFormat} (hdim : vocabulary.Knows .dim dim.number)
    (hformat : vocabulary.Knows .imageFormat format.number) : Spelled vocabulary before
      (declaring .typeImage id [.ref sampledType, .enumerant .dim dim, .int32 0, .int32 0,
        .int32 0, .int32 sampled, .enumerant .imageFormat format]) := by
  refine ⟨_, rfl, .result id (.word (.id sampledType) ?_)⟩
  refine .word (.value dim rfl hdim) (.word (.literal 0) ?_)
  refine .word (.literal 0) (.word (.literal 0) ?_)
  refine .word (.literal sampled) (.word (.value format rfl hformat) ?_)
  exact .short (by decide) _

theorem spelled_typeStruct (id : Ident) (members : List Ident) :
    Spelled vocabulary before (declaring .typeStruct id (members.map .ref)) := by
  refine ⟨_, rfl, ?_⟩
  change SpellsOperands _ _ _ _ (id :: (members.map Operand.ref).flatMap Operand.words) _
  rw [Operand.flatMap_words_map_ref]
  exact .result id (.refs _ members)

theorem spelled_typePointer (id : Ident) {storageClass : StorageClass} (pointee : Ident)
    (hknown : vocabulary.Knows .storageClass storageClass.number) : Spelled vocabulary before
      (declaring .typePointer id [.enumerant .storageClass storageClass, .ref pointee]) := by
  refine ⟨_, rfl, .result id (.word (.value storageClass rfl hknown) ?_)⟩
  exact .word (.id pointee) (.nil _)

theorem spelled_number32 {op : Opcode} (hop : op = .constant ∨ op = .specConstant) {type : Ident}
    (id : Ident) (value : UInt32) (hdeclared : DeclaresInteger before type 32) :
    Spelled vocabulary before (defining op type id [.int32 value]) := by
  obtain rfl | rfl := hop
  all_goals
    refine ⟨_, rfl, .resultType type (.result id ?_)⟩
    exact .word (.int32 rfl hdeclared value) (.nil _)

theorem toNat_words64 (value : UInt64) : value.toNat =
    (UInt32.ofNat value.toNat).toNat +
      UInt32.size * (UInt32.ofNat (value.toNat / UInt32.size)).toNat := by
  have hlt := value.toNat_lt
  simp only [UInt32.size, UInt32.toNat_ofNat']
  omega

theorem spelled_constant64 {type : Ident} (id : Ident) (value : UInt64)
    (hdeclared : DeclaresInteger before type 64) :
    Spelled vocabulary before (defining .constant type id [.int64 value]) := by
  refine ⟨_, rfl, .resultType type (.result id ?_)⟩
  exact .last (.int64 rfl hdeclared (toNat_words64 value))

theorem spelled_var (pointer id : Ident) {storageClass : StorageClass}
    (hknown : vocabulary.Knows .storageClass storageClass.number) :
    Spelled vocabulary before
      (defining .var pointer id [.enumerant .storageClass storageClass]) := by
  refine ⟨_, rfl, .resultType pointer (.result id ?_)⟩
  exact .word (.value storageClass rfl hknown) (.short (by decide) _)

end Spelled

namespace AssemblerCall

variable {vocabulary : Vocabulary} {before : List Instruction} {call : AssemblerCall}
  {inst : Instruction}

theorem spelled_of_mem_preamble (hinst : inst ∈ call.preamble)
    (hknown : call.1.Known vocabulary) (hnul : ∀ text ∈ call.1.text?, Text.NulFree text) :
    inst.Spelled vocabulary before := by
  obtain ⟨step, answer⟩ := call
  cases step with
  | entryPoint model function name interface =>
      obtain rfl := List.mem_singleton.mp hinst
      exact spelled_entryPoint function interface hknown (hnul name rfl)
  | _ => cases hinst

theorem spelled_of_mem_annotations (hinst : inst ∈ call.annotations)
    (hknown : call.1.Known vocabulary) (hparams : call.1.TakesLiterals vocabulary)
    (hnul : ∀ text ∈ call.1.text?, Text.NulFree text) : inst.Spelled vocabulary before := by
  obtain ⟨step, answer⟩ := call
  cases step with
  | name target text =>
      obtain rfl := List.mem_singleton.mp hinst
      exact spelled_name target (hnul text rfl)
  | memberName target member text =>
      obtain rfl := List.mem_singleton.mp hinst
      exact spelled_memberName target member (hnul text rfl)
  | decorate target decoration params =>
      obtain rfl := List.mem_singleton.mp hinst
      exact spelled_decorate hknown hparams target
  | memberDecorate target member decoration params =>
      obtain rfl := List.mem_singleton.mp hinst
      exact spelled_memberDecorate hknown hparams target member
  | _ => cases hinst

theorem spelled_of_mem_functions (hinst : inst ∈ call.functions)
    (hbasics : vocabulary.KnowsShaders) : inst.Spelled vocabulary before := by
  obtain ⟨step, answer⟩ := call
  cases answer with
  | none => cases step <;> cases hinst
  | some id =>
      cases step with
      | function =>
          simp only [functions, List.mem_cons, List.not_mem_nil, or_false] at hinst
          rcases hinst with rfl | rfl | rfl | rfl
          · refine ⟨_, rfl, .resultType _ (.result id ?_)⟩
            refine .word (.value noControl rfl hbasics.functionControl) ?_
            exact .word (.id _) (.nil _)
          · exact ⟨_, rfl, .result _ (.nil _)⟩
          · exact ⟨_, rfl, .nil _⟩
          · exact ⟨_, rfl, .nil _⟩
      | _ => cases hinst

/-- Constants need to know the widths of their types, which are declared before. -/
theorem allSpelled_globals (hknown : call.1.Known vocabulary)
    (hnumber : ∀ number ∈ call.1.numberType?, DeclaresInteger before number.1 number.2) :
    AllSpelled vocabulary before call.globals := by
  obtain ⟨step, answer⟩ := call
  cases answer with
  | none => cases step <;> exact .nil before
  | some id =>
      cases step with
      | typeVoid | typeBool | typeSampler => exact .singleton ⟨_, rfl, .result id (.nil _)⟩
      | typeInt width signed =>
          refine .singleton ⟨_, rfl, .result id (.word (.literal width) ?_)⟩
          exact .word (.literal _) (.nil _)
      | typeFloat width =>
          exact .singleton ⟨_, rfl, .result id (.word (.literal width) (.nil _))⟩
      | typeVector part count | typeMatrix part count =>
          refine .singleton ⟨_, rfl, .result id (.word (.id part) ?_)⟩
          exact .word (.literal count) (.nil _)
      | typeImage sampledType dim sampled format =>
          exact .singleton (spelled_typeImage id sampledType sampled hknown.1 hknown.2)
      | typeSampledImage part | typeRuntimeArray part =>
          exact .singleton ⟨_, rfl, .result id (.word (.id part) (.nil _))⟩
      | typeArray element length =>
          refine .singleton ⟨_, rfl, .result id (.word (.id element) ?_)⟩
          exact .word (.id length) (.nil _)
      | typeStruct members => exact .singleton (spelled_typeStruct id members)
      | typePointer storageClass pointee => exact .singleton (spelled_typePointer id pointee hknown)
      | constant32 type value =>
          exact .singleton (spelled_number32 (.inl rfl) id value (hnumber (type, 32) rfl))
      | constant64 type value =>
          exact .singleton (spelled_constant64 id value (hnumber (type, 64) rfl))
      | specConstant32 type value =>
          exact .singleton (spelled_number32 (.inr rfl) id value (hnumber (type, 32) rfl))
      | specConstantBool type value =>
          cases value <;> exact .singleton ⟨_, rfl, .resultType type (.result id (.nil _))⟩
      | var pointer storageClass => exact .singleton (spelled_var pointer id hknown)
      | function =>
          refine .cons ⟨_, rfl, .result _ (.nil _)⟩ (.singleton ⟨_, rfl, .result _ ?_⟩)
          exact .word (.id _) (.refs _ [])
      | allocId | entryPoint | name | memberName | decorate | memberDecorate => exact .nil before

end AssemblerCall

/-! ## Runs -/

/-- Of instructions with results of their own the one that declares an integer type is the last to
define its identifier. -/
theorem declaresInteger_of_mem {before insts : List Instruction} {id : Ident} {width : UInt32}
    {operands : List Operand}
    (hdistinct : insts.Pairwise fun inst later => inst.resultId ≠ later.resultId)
    (hmem : Instruction.declaring .typeInt id (.int32 width :: operands) ∈ insts) :
    DeclaresInteger (before ++ insts) id width := by
  obtain ⟨earlier, later, rfl⟩ := List.append_of_mem hmem
  obtain ⟨-, hlast, -⟩ := List.pairwise_append.mp hdistinct
  refine ⟨before ++ earlier, _, later, (List.append_assoc ..).symm, rfl, rfl, rfl, ?_⟩
  intro inst hinst
  exact (List.rel_of_pairwise_cons hlast hinst).symm

namespace Assembler

/-- Steps that make a module which says what they say. -/
structure Usable (vocabulary : Vocabulary) (steps : List AssemblerStep) : Prop where
  fewIds : idCount steps < 65536
  nulFree : ∀ step ∈ steps, ∀ text ∈ step.text?, Text.NulFree text
  short : ∀ inst ∈ (new.run steps).instructions, inst.Short
  known : ∀ step ∈ steps, step.Known vocabulary
  literals : ∀ step ∈ steps, step.TakesLiterals vocabulary
  /-- Numbers are defined in integer types of their width. -/
  numbers : ∀ before step after, steps = before ++ step :: after →
    ∀ number ∈ step.numberType?, ∃ signed,
      (AssemblerStep.typeInt number.2 signed, some number.1) ∈ new.calls before

variable {vocabulary : Vocabulary} {steps : List AssemblerStep}

theorem allSpelled_globals_run (before : List Instruction) (hfew : idCount steps < 65536)
    (hknown : ∀ step ∈ steps, step.Known vocabulary)
    (hnumbers : ∀ before step after, steps = before ++ step :: after →
      ∀ number ∈ step.numberType?, ∃ signed,
        (AssemblerStep.typeInt number.2 signed, some number.1) ∈ new.calls before) :
    AllSpelled vocabulary before ((new.calls steps).flatMap AssemblerCall.globals) := by
  induction steps using List.reverseRecOn with
  | nil => exact .nil before
  | append_singleton steps step ih =>
      rw [idCount_append_singleton] at hfew
      have hearlier := ih (by omega) (fun earlier hmem => hknown earlier (by simp [hmem]))
        fun before earlier after hsplit =>
          hnumbers before earlier (after ++ [step]) (by simp [hsplit])
      rw [flatMap_calls_append_singleton]
      refine hearlier.append (AssemblerCall.allSpelled_globals (hknown step (by simp)) ?_)
      intro number hnumber
      -- the type was declared by an earlier call, and no later one has its identifier
      obtain ⟨signed, hcall⟩ := hnumbers steps step [] rfl number hnumber
      have htype : Instruction.declaring .typeInt number.1
          [.int32 number.2, .int32 (if signed then 1 else 0)] ∈
            (new.calls steps).flatMap AssemblerCall.globals :=
        List.mem_flatMap.mpr ⟨_, hcall, List.mem_singleton_self _⟩
      exact declaresInteger_of_mem (numbered_run (by omega)).distinct htype

theorem spelled_of_mem_header (hbasics : vocabulary.KnowsShaders) {inst : Instruction}
    (hinst : inst ∈ header) (before : List Instruction) : inst.Spelled vocabulary before := by
  simp only [header, List.mem_cons, List.not_mem_nil, or_false] at hinst
  rcases hinst with rfl | rfl
  · exact ⟨_, rfl, .word (.value _ rfl hbasics.capability) (.nil _)⟩
  · refine ⟨_, rfl, .word (.value _ rfl hbasics.addressingModel) ?_⟩
    exact .word (.value _ rfl hbasics.memoryModel) (.nil _)

/-- The words behind the header of an assembled module stand for the instructions of the calls. -/
theorem spells_instructions (hbasics : vocabulary.KnowsShaders)
    (husable : Usable vocabulary steps) :
    Spells vocabulary [] ((new.run steps).instructions.flatMap RawInstruction.words)
      (decoded (new.calls steps)) := by
  have hshort := husable.short
  rw [instructions_run] at hshort ⊢
  refine AllSpelled.spells ?_ fun inst hinst => hshort _ (List.mem_map_of_mem hinst)
  refine AllSpelled.append (.append (.append (.append ?_ ?_) ?_) ?_) ?_
  · exact .of_forall fun inst hinst => spelled_of_mem_header hbasics hinst
  · refine .of_forall fun inst hinst _ => ?_
    obtain ⟨call, hcall, hinst⟩ := List.mem_flatMap.mp hinst
    have hstep := step_mem_of_mem_calls hcall
    exact AssemblerCall.spelled_of_mem_preamble hinst (husable.known _ hstep)
      (husable.nulFree _ hstep)
  · refine .of_forall fun inst hinst _ => ?_
    obtain ⟨call, hcall, hinst⟩ := List.mem_flatMap.mp hinst
    have hstep := step_mem_of_mem_calls hcall
    exact AssemblerCall.spelled_of_mem_annotations hinst (husable.known _ hstep)
      (husable.literals _ hstep) (husable.nulFree _ hstep)
  · exact allSpelled_globals_run _ husable.fewIds husable.known husable.numbers
  · refine .of_forall fun inst hinst _ => ?_
    obtain ⟨call, -, hinst⟩ := List.mem_flatMap.mp hinst
    exact AssemblerCall.spelled_of_mem_functions hinst hbasics

end Assembler

end ShaderInterface
