import ShaderInterface.Proofs.AssembledSpelling
import ShaderInterface.Proofs.Declarations
import ShaderInterface.Proofs.Tabulated.Reading

/-!
# Modules are read back from their assembly

Every call of an assembler tells something about the module. The module that is read from the
assembled words holds what all calls told, although the sections change their order.
-/

namespace ShaderInterface

namespace AssemblerCall

/-- What a call tells about the module. Variables of functions are no part of it. -/
def facts : AssemblerCall → List Fact
  | (.entryPoint model function name interface, _) =>
      [.entryPoint { model, function, name, interface }]
  | (.name target text, _) => [.name target text]
  | (.memberName target member text, _) => [.memberName target member text]
  | (.decorate target decoration params, _) => [.decoration target decoration params]
  | (.memberDecorate target member decoration params, _) =>
      [.memberDecoration target member decoration params]
  | (.typeVoid, some id) => [.type id .void]
  | (.typeBool, some id) => [.type id .bool]
  | (.typeInt width signed, some id) => [.type id (.int width signed)]
  | (.typeFloat width, some id) => [.type id (.float width)]
  | (.typeVector component count, some id) => [.type id (.vector component count)]
  | (.typeMatrix column count, some id) => [.type id (.matrix column count)]
  | (.typeImage sampledType dim sampled _, some id) => [.type id (.image sampledType dim sampled)]
  | (.typeSampler, some id) => [.type id .sampler]
  | (.typeSampledImage image, some id) => [.type id (.sampledImage image)]
  | (.typeArray element length, some id) => [.type id (.array element length)]
  | (.typeRuntimeArray element, some id) => [.type id (.runtimeArray element)]
  | (.typeStruct members, some id) => [.type id (.struct members)]
  | (.typePointer storageClass pointee, some id) => [.type id (.pointer storageClass pointee)]
  | (.constant32 _ value, some id) => [.constant id value.toUInt64]
  | (.constant64 _ value, some id) => [.constant id value]
  | (.specConstant32 _ value, some id) => [.constant id value.toUInt64]
  | (.specConstantBool _ value, some id) => [.constant id (if value then 1 else 0)]
  | (.var pointer storageClass, some id) =>
      if storageClass = StorageClass.function then []
      else [.var { id, type := pointer, storageClass }]
  | (.function, some id) => [.type (id - 2) .void, .type (id - 1) .function]
  | _ => []

end AssemblerCall

/-- Where assembled modules declare the facts of a kind. -/
inductive AssemblerSection where
  | preamble
  | annotations
  | globals
  deriving DecidableEq

def Fact.home : Fact → AssemblerSection
  | .entryPoint _ => .preamble
  | .name .. | .memberName .. | .decoration .. | .memberDecoration .. => .annotations
  | .type .. | .constant .. | .var _ => .globals

namespace AssemblerCall

theorem filterMap_int32? (params : List UInt32) :
    (params.map Operand.int32).filterMap Operand.int32? = params := by
  rw [List.filterMap_map]
  exact List.filterMap_some

variable (call : AssemblerCall)

theorem filterMap_fact?_preamble :
    call.preamble.filterMap Instruction.fact? = call.facts.filter (·.home = .preamble) := by
  obtain ⟨step, answer⟩ := call
  cases step with
  | entryPoint model function name interface =>
      refine List.filterMap_cons_some
        (b := Fact.entryPoint { model, function, name, interface }) ?_
      simp only [Instruction.fact?, mapM_ref?_map_ref, Option.map_some]
  | var pointer storageClass =>
      cases answer with
      | none => rfl
      | some id =>
          by_cases hclass : storageClass = StorageClass.function <;>
            simp [preamble, facts, hclass, Fact.home]
  | name | memberName | decorate | memberDecorate => rfl
  | _ => cases answer <;> rfl

theorem filterMap_fact?_annotations :
    call.annotations.filterMap Instruction.fact? =
      call.facts.filter (·.home = .annotations) := by
  obtain ⟨step, answer⟩ := call
  cases step with
  | decorate target decoration params =>
      refine List.filterMap_cons_some (b := Fact.decoration target decoration params) ?_
      simp only [Instruction.fact?, filterMap_int32?]
  | memberDecorate target member decoration params =>
      refine List.filterMap_cons_some
        (b := Fact.memberDecoration target member decoration params) ?_
      simp only [Instruction.fact?, filterMap_int32?]
  | var pointer storageClass =>
      cases answer with
      | none => rfl
      | some id =>
          by_cases hclass : storageClass = StorageClass.function <;>
            simp [annotations, facts, hclass, Fact.home]
  | name | memberName | entryPoint => rfl
  | _ => cases answer <;> rfl

theorem filterMap_fact?_globals :
    call.globals.filterMap Instruction.fact? = call.facts.filter (·.home = .globals) := by
  obtain ⟨step, answer⟩ := call
  rcases answer with _ | id
  · cases step <;> rfl
  cases step with
  | typeInt width signed => cases signed <;> rfl
  | typeStruct members =>
      refine List.filterMap_cons_some (b := Fact.type id (.struct members)) ?_
      simp only [Instruction.fact?, Instruction.declaring, TypeDecl.ofOperands?,
        mapM_ref?_map_ref, Option.map_some, Option.bind_some]
  | var pointer storageClass =>
      by_cases hclass : storageClass = StorageClass.function <;>
        simp [globals, facts, hclass, Fact.home, Instruction.defining, Instruction.fact?]
  | specConstantBool type value => cases value <;> rfl
  | _ => rfl

theorem filterMap_fact?_functions : call.functions.filterMap Instruction.fact? = [] := by
  obtain ⟨step, answer⟩ := call
  cases step <;> cases answer <;> rfl

/-- Of what a call writes only variables of functions and their bodies declare nothing. -/
theorem silent_of_fact?_eq_none {inst : Instruction}
    (hinst : inst ∈ call.preamble ++ call.annotations ++ call.globals ++ call.functions)
    (hnone : inst.fact? = none) : inst.Silent := by
  obtain ⟨step, answer⟩ := call
  cases step with
  | entryPoint =>
      obtain rfl := List.mem_singleton.mp hinst
      simp only [Instruction.fact?, mapM_ref?_map_ref, Option.map_some, reduceCtorEq] at hnone
  | decorate | memberDecorate | name | memberName =>
      obtain rfl := List.mem_singleton.mp hinst
      cases hnone
  | typeStruct members =>
      cases answer with
      | none => exact absurd hinst List.not_mem_nil
      | some id =>
          obtain rfl := List.mem_singleton.mp hinst
          simp only [Instruction.fact?, Instruction.declaring, TypeDecl.ofOperands?,
            mapM_ref?_map_ref, Option.map_some, Option.bind_some, reduceCtorEq] at hnone
  | specConstantBool type value =>
      cases answer with
      | none => exact absurd hinst List.not_mem_nil
      | some id =>
          obtain rfl := List.mem_singleton.mp hinst
          cases value <;> cases hnone
  | var pointer storageClass =>
      cases answer with
      | none => exact absurd hinst List.not_mem_nil
      | some id =>
          obtain rfl := List.mem_singleton.mp hinst
          by_cases hclass : storageClass = StorageClass.function
          · subst hclass
            exact ⟨rfl, rfl⟩
          · simp [Instruction.fact?, Instruction.defining, hclass] at hnone
  | function =>
      cases answer with
      | none => exact absurd hinst List.not_mem_nil
      | some id =>
          -- the types of the function declare something, its body does not
          rcases List.mem_append.mp hinst with htype | hbody
          · simp only [preamble, annotations, globals, List.nil_append, List.mem_cons,
              List.not_mem_nil, or_false] at htype
            rcases htype with rfl | rfl <;> cases hnone
          · simp only [functions, List.mem_cons, List.not_mem_nil, or_false] at hbody
            rcases hbody with rfl | rfl | rfl | rfl <;> rfl
  | _ =>
      cases answer with
      | none => exact absurd hinst List.not_mem_nil
      | some id =>
          first
          | obtain rfl := List.mem_singleton.mp hinst
            cases hnone
          | exact absurd hinst List.not_mem_nil

end AssemblerCall

section Decoded

open Assembler

variable {α : Type} {tells? : Fact → Option α} {place : AssemblerSection}
  (calls : List AssemblerCall)

/-- The facts of one section are looked up among all facts. -/
theorem filterMap_filter_home (hhome : ∀ fact value, tells? fact = some value → fact.home = place)
    (other : AssemblerSection) (facts : List Fact) :
    (facts.filter (·.home = other)).filterMap tells? =
      if other = place then facts.filterMap tells? else [] := by
  rw [List.filterMap_filter]
  split
  next hsame =>
    congr 1
    funext fact
    cases hvalue : tells? fact with
    | none => simp
    | some value => simp [hhome fact value hvalue, hsame]
  next hother =>
    refine List.filterMap_eq_nil_iff.mpr fun fact _ => ?_
    cases hvalue : tells? fact with
    | none => simp
    | some value => simp [hhome fact value hvalue, Ne.symm hother]

theorem filterMap_fact?_decoded : (decoded calls).filterMap Instruction.fact? =
    (calls.flatMap AssemblerCall.facts).filter (·.home = .preamble) ++
      (calls.flatMap AssemblerCall.facts).filter (·.home = .annotations) ++
      (calls.flatMap AssemblerCall.facts).filter (·.home = .globals) := by
  have hheader : header.filterMap Instruction.fact? = [] := rfl
  simp only [decoded, List.filterMap_append, List.filterMap_flatMap, List.filter_flatMap,
    AssemblerCall.filterMap_fact?_preamble, AssemblerCall.filterMap_fact?_annotations,
    AssemblerCall.filterMap_fact?_globals, AssemblerCall.filterMap_fact?_functions, hheader,
    List.nil_append]
  simp

/-- What is told in one section is told in the order of the calls. -/
theorem filterMap_said?_decoded
    (hhome : ∀ fact value, tells? fact = some value → fact.home = place) :
    (decoded calls).filterMap (Instruction.said? tells?) =
      (calls.flatMap AssemblerCall.facts).filterMap tells? := by
  rw [Instruction.filterMap_said?, filterMap_fact?_decoded, List.filterMap_append,
    List.filterMap_append, filterMap_filter_home hhome, filterMap_filter_home hhome,
    filterMap_filter_home hhome]
  -- two of the three sections are empty, whichever holds what is told
  cases place <;> simp

theorem filterMap_fact?_globals :
    (calls.flatMap AssemblerCall.globals).filterMap Instruction.fact? =
      (calls.flatMap AssemblerCall.facts).filter (·.home = .globals) := by
  simp only [List.filterMap_flatMap, List.filter_flatMap, AssemblerCall.filterMap_fact?_globals]

theorem mem_globals_of_mem_facts {fact : Fact} (hhome : fact.home = .globals)
    (hfact : fact ∈ calls.flatMap AssemblerCall.facts) :
    ∃ inst ∈ calls.flatMap AssemblerCall.globals, inst.fact? = some fact := by
  rw [← List.mem_filterMap, filterMap_fact?_globals]
  exact List.mem_filter.mpr ⟨hfact, decide_eq_true hhome⟩

end Decoded

/-! ## Results -/

/-- The identifier of what the fact defines. -/
def Fact.definedId? : Fact → Option Ident
  | .type id _ => some id
  | .constant id _ => some id
  | .var declared => some declared.id
  | _ => none

theorem resultId_of_fact? {inst : Instruction} {fact : Fact} (hfact : inst.fact? = some fact)
    (hhome : fact.home = .globals) : inst.resultId = fact.definedId? := by
  obtain ⟨op, resultType, resultId, operands⟩ := inst
  have hkind := Instruction.declaredBy_of_fact? hfact
  cases fact with
  | type id decl => exact (Instruction.fact?_eq_type_iff.mp hfact).2.1
  | constant id value =>
      rcases hkind with rfl | rfl | rfl | rfl
      -- numbers may have no value, while truth values always have one
      case inl | inr.inl =>
        obtain ⟨result, hresult, hvalue⟩ := Option.bind_eq_some_iff.mp hfact
        obtain ⟨_, -, hsame⟩ := Option.map_eq_some_iff.mp hvalue
        cases hsame
        exact hresult
      all_goals
        obtain ⟨result, hresult, hsame⟩ := Option.map_eq_some_iff.mp hfact
        cases hsame
        exact hresult
  | var declared =>
      obtain rfl : op = .var := hkind
      simp only [Instruction.fact?] at hfact
      split at hfact
      next =>
        split at hfact <;> cases hfact
        rfl
      next => cases hfact
  | _ => cases hhome

namespace Assembler

variable {steps : List AssemblerStep}

/-- Two facts that define the same are one. -/
theorem eq_of_definedId? (hfew : idCount steps < 65536) {fact other : Fact}
    (hfact : fact ∈ (new.calls steps).flatMap AssemblerCall.facts)
    (hother : other ∈ (new.calls steps).flatMap AssemblerCall.facts)
    (hhome : fact.home = .globals) (hotherHome : other.home = .globals)
    (hid : fact.definedId? = other.definedId?) : fact = other := by
  obtain ⟨inst, hinst, hsaid⟩ := mem_globals_of_mem_facts _ hhome hfact
  obtain ⟨later, hlater, hsaidLater⟩ := mem_globals_of_mem_facts _ hotherHome hother
  rw [← resultId_of_fact? hsaid hhome, ← resultId_of_fact? hsaidLater hotherHome] at hid
  have hsame : inst = later := (numbered_run hfew).eq_of_resultId hinst hlater hid
  rw [hsame, hsaidLater, Option.some.injEq] at hsaid
  exact hsaid.symm

theorem accepted_decoded (hfew : idCount steps < 65536) :
    Module.Accepted (decoded (new.calls steps)) := by
  constructor
  · intro inst hinst hnone
    have hwritten : inst ∈ header ∨ ∃ call ∈ new.calls steps,
        inst ∈ call.preamble ++ call.annotations ++ call.globals ++ call.functions := by
      simp only [decoded, List.mem_append, List.mem_flatMap] at hinst ⊢
      grind
    rcases hwritten with hheader | ⟨call, -, hcall⟩
    · simp only [header, List.mem_cons, List.not_mem_nil, or_false] at hheader
      rcases hheader with rfl | rfl <;> rfl
    · exact call.silent_of_fact?_eq_none hcall hnone
  · have hhome : ∀ fact id, Fact.typeId? fact = some id → fact.home = .globals := by
      intro fact id hid
      cases fact with
      | type => rfl
      | _ => cases hid
    have hglobals : ((new.calls steps).flatMap AssemblerCall.facts).filterMap Fact.typeId? =
        ((new.calls steps).flatMap AssemblerCall.globals).filterMap
          (Instruction.said? Fact.typeId?) := by
      rw [Instruction.filterMap_said?, filterMap_fact?_globals, filterMap_filter_home hhome,
        if_pos rfl]
    -- types that are declared have results, and no two results are the same
    rw [filterMap_said?_decoded _ hhome, hglobals]
    refine List.pairwise_filterMap.mpr ((numbered_run hfew).distinct.imp ?_)
    rintro inst later hne id hid other hother rfl
    obtain ⟨decl, hfact⟩ := Module.said?_typeId?_iff.mp hid
    obtain ⟨said, hsaid⟩ := Module.said?_typeId?_iff.mp hother
    exact hne ((resultId_of_fact? hfact rfl).trans (resultId_of_fact? hsaid rfl).symm)

end Assembler

/-! ## Reading back -/

namespace Module

/-- The module answers as the facts tell, of names and decorations the last ones. -/
structure Holds (module : Module) (facts : List Fact) : Prop where
  entryPoints : module.entryPoints = facts.filterMap Fact.entryPoint?
  vars : module.vars = facts.filterMap Fact.var?
  type : ∀ id decl, module.type? id = some decl ↔ Fact.type id decl ∈ facts
  constant : ∀ id value, module.constant? id = some value ↔ Fact.constant id value ∈ facts
  name : ∀ id, Told facts (fun fact text => fact = .name id text) (module.name? id)
  memberName : ∀ id member, Told facts (fun fact text => fact = .memberName id member text)
    (module.memberName? id member)
  decoration : ∀ id decoration,
    Told facts (fun fact params => fact = .decoration id decoration params)
      (module.decoration? id decoration)
  memberDecoration : ∀ id member decoration,
    Told facts (fun fact params => fact = .memberDecoration id member decoration params)
      (module.memberDecoration? id member decoration)

section Lookup

variable {α : Type} {lookup : Module → Option α} {tells? : Fact → Option α} {declares : α → Fact}
  {place : AssemblerSection} (version : Version) (calls : List AssemblerCall)

/-- A look-up in a decoded module is a look-up among the facts of the calls. -/
theorem Tracks.decoded (htracks : Tracks lookup tells?)
    (hhome : ∀ fact value, tells? fact = some value → fact.home = place) :
    lookup (Module.recordAll { version } (Assembler.decoded calls)) =
      ((calls.flatMap AssemblerCall.facts).filterMap tells?).getLast? := by
  rw [htracks.recordAll, filterMap_said?_decoded calls hhome]

theorem Tracks.told_decoded (htracks : Tracks lookup tells?)
    (htells : ∀ fact value, tells? fact = some value ↔ fact = declares value)
    (hhome : ∀ value, (declares value).home = place) :
    Told (calls.flatMap AssemblerCall.facts) (fun fact value => fact = declares value)
      (lookup (Module.recordAll { version } (Assembler.decoded calls))) := by
  have hplace : ∀ fact value, tells? fact = some value → fact.home = place :=
    fun fact value hvalue => (htells fact value).mp hvalue ▸ hhome value
  rw [htracks.decoded version calls hplace]
  exact told_getLast? (fun fact value => (htells fact value).symm) _

theorem Tracks.mem_decoded (htracks : Tracks lookup tells?)
    (htells : ∀ fact value, tells? fact = some value ↔ fact = declares value)
    (hhome : ∀ value, (declares value).home = place)
    (hunique : ∀ value other, declares value ∈ calls.flatMap AssemblerCall.facts →
      declares other ∈ calls.flatMap AssemblerCall.facts → value = other) {value : α} :
    lookup (Module.recordAll { version } (Assembler.decoded calls)) = some value ↔
      declares value ∈ calls.flatMap AssemblerCall.facts := by
  have htold := htracks.told_decoded version calls htells hhome
  cases hlookup : lookup (Module.recordAll { version } (Assembler.decoded calls)) with
  | none =>
      rw [hlookup] at htold
      exact ⟨nofun, fun hmem => absurd rfl (htold _ hmem value)⟩
  | some last =>
      rw [hlookup] at htold
      obtain ⟨before, fact, after, hsplit, rfl, -⟩ := htold
      have hlast : declares last ∈ calls.flatMap AssemblerCall.facts := by simp [hsplit]
      rw [Option.some.injEq]
      constructor
      · rintro rfl
        exact hlast
      · exact fun hmem => hunique last value hlast hmem

end Lookup

end Module

namespace Assembler

/-- The module that is read from assembled words holds exactly what the calls told, whatever decoder
reads what is spelled. -/
theorem readWords_assemble {decoder : Decoder} {vocabulary : Vocabulary}
    {steps : List AssemblerStep} (hdecoder : decoder.Reads vocabulary)
    (hbasics : vocabulary.KnowsShaders) (husable : Usable vocabulary steps) :
    ∃ module, (decoder.readWords (new.run steps).assemble).run.value = .ok module ∧
      module.version = ⟨1, 0⟩ ∧
      module.Holds ((new.calls steps).flatMap AssemblerCall.facts) := by
  have hdecode : decoder.decode (new.run steps).assemble =
      .ok ⟨versionWord, decoded (new.calls steps)⟩ :=
    hdecoder _ _ _ _ _ _ (spells_instructions hbasics husable)
  have hread : (decoder.readWords (new.run steps).assemble).run.value = .ok
      (Module.recordAll { version := .ofWord versionWord } (decoded (new.calls steps))) := by
    rw [Module.value_readWords, hdecode]
    exact Module.ofInstructions_eq_ok.mpr ⟨accepted_decoded husable.fewIds, rfl⟩
  refine ⟨_, hread, Module.version_recordAll _ _, ?_⟩
  constructor
  case entryPoints =>
    have hhome : ∀ fact entry, Fact.entryPoint? fact = some entry → fact.home = .preamble := by
      intro fact entry hentry
      cases fact <;> first | rfl | cases hentry
    rw [Module.gathers_entryPoints.recordAll, filterMap_said?_decoded _ hhome]
  case vars =>
    have hhome : ∀ fact var, Fact.var? fact = some var → fact.home = .globals := by
      intro fact var hvar
      cases fact <;> first | rfl | cases hvar
    rw [Module.gathers_vars.recordAll, filterMap_said?_decoded _ hhome]
  case type =>
    intro id decl
    refine (Module.tracks_type id).mem_decoded _ _ (Fact.typeOf?_eq_some id) (fun _ => rfl) ?_
    intro said again hsaid hagain
    exact (Fact.type.inj (eq_of_definedId? husable.fewIds hsaid hagain rfl rfl rfl)).2
  case constant =>
    intro id value
    refine (Module.tracks_constant id).mem_decoded _ _ (Fact.valueOf?_eq_some id) (fun _ => rfl) ?_
    intro said again hsaid hagain
    exact (Fact.constant.inj (eq_of_definedId? husable.fewIds hsaid hagain rfl rfl rfl)).2
  case name =>
    exact fun id => (Module.tracks_name id).told_decoded _ _ (Fact.nameOf?_eq_some id) fun _ => rfl
  case memberName =>
    exact fun id member => (Module.tracks_memberName id member).told_decoded _ _
      (Fact.memberNameOf?_eq_some id member) fun _ => rfl
  case decoration =>
    exact fun id decoration => (Module.tracks_decoration id decoration).told_decoded _ _
      (Fact.paramsOf?_eq_some id decoration) fun _ => rfl
  case memberDecoration =>
    exact fun id member decoration =>
      (Module.tracks_memberDecoration id member decoration).told_decoded _ _
        (Fact.memberParamsOf?_eq_some id member decoration) fun _ => rfl

/-- Numbers of both widths, an entry point and a number that is named twice. -/
def namedNumbers : List AssemblerStep :=
  [.typeInt 32 false, .typeInt 64 false, .constant32 1 7, .constant64 2 4294967296,
    .decorate 3 Decoration.location [5], .function, .entryPoint ExecutionModel.vertex 7 "main" [],
    .name 3 "first", .name 3 "last"]

theorem usable_namedNumbers : Usable .tabulated namedNumbers where
  fewIds := by decide
  nulFree := by simp [namedNumbers, AssemblerStep.text?, Text.NulFree]
  short := by
    unfold RawInstruction.Short
    decide +kernel
  known := by
    have hlocation : Vocabulary.tabulated.Knows .decoration Decoration.location.number := rfl
    have hvertex : Vocabulary.tabulated.Knows .executionModel ExecutionModel.vertex.number := rfl
    simpa [namedNumbers, AssemblerStep.Known] using And.intro hlocation hvertex
  literals := by
    have hlocation : Vocabulary.tabulated.TakesIntegers Decoration.location 1 := rfl
    simpa [namedNumbers, AssemblerStep.TakesLiterals] using hlocation
  numbers := by
    intro before step after hsplit number hnumber
    -- the constants are the third and the fourth step
    rcases before with _ | ⟨_, _ | ⟨_, _ | ⟨_, _ | ⟨_, before⟩⟩⟩⟩
    · cases hsplit
      cases hnumber
    · cases hsplit
      cases hnumber
    · cases hsplit
      cases hnumber
      exact ⟨false, List.mem_cons_self⟩
    · cases hsplit
      cases hnumber
      exact ⟨false, List.mem_cons_of_mem _ List.mem_cons_self⟩
    · have hrest : ∀ step ∈ namedNumbers.drop 4, step.numberType? = none := by
        simp [namedNumbers, AssemblerStep.numberType?]
      have hstep : step ∈ namedNumbers.drop 4 := by simp [hsplit]
      rw [hrest step hstep] at hnumber
      cases hnumber

theorem knowsShaders_tabulated : Vocabulary.tabulated.KnowsShaders :=
  ⟨rfl, rfl, rfl, rfl⟩

theorem readWords_assemble_namedNumbers : Decoder.tabulated.Reads .tabulated ∧
    Vocabulary.tabulated.KnowsShaders ∧ Usable .tabulated namedNumbers ∧
    ∃ module, (Decoder.tabulated.readWords (new.run namedNumbers).assemble).run.value = .ok module ∧
      module.version = ⟨1, 0⟩ ∧
      module.Holds ((new.calls namedNumbers).flatMap AssemblerCall.facts) :=
  ⟨Decoder.tabulated_reads, knowsShaders_tabulated, usable_namedNumbers,
    readWords_assemble Decoder.tabulated_reads knowsShaders_tabulated usable_namedNumbers⟩

end Assembler

end ShaderInterface
