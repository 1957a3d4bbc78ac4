import ShaderInterface.Binary.Grammar
import ShaderInterface.Binary.Stream

/-!
# Instructions that follow the grammar

The grammar says which operands may stand behind an opcode. An instruction follows it if it has a
result type and a result exactly where the grammar names them, and its operands have the kinds and
the order of the grammar up to the place where optional ones were left out. What a value of a
vocabulary takes as parameters is left open, so one that may have any may have any operands behind
it.
-/

namespace ShaderInterface

/-! ## The operands that a grammar allows -/

/-- The operands that one operand of the grammar can stand for, the parameters of a value apart. -/
inductive Operand.Atomic : OperandKind → List Operand → Prop where
  | resultType : Atomic .resultType []
  | result : Atomic .result []
  | id (target : Ident) : Atomic .id [.ref target]
  | literal (value : UInt32) : Atomic .literal [.int32 value]
  | text (text : String) : Atomic .text [.string text]
  | extInst (number : UInt32) : Atomic .extInst [.extInst number]
  | int32 (value : UInt32) : Atomic .number [.int32 value]
  | int64 (value : UInt64) : Atomic .number [.int64 value]
  | float32 (bits : UInt32) : Atomic .number [.float32 bits]
  | float64 (bits : UInt64) : Atomic .number [.float64 bits]
  | specOp (op : Opcode) (targets : List Ident) :
      Atomic .specOp (.opcode op :: targets.map .ref)
  | idLiteralPair (target : Ident) (value : UInt32) :
      Atomic .idLiteralPair [.ref target, .int32 value]
  | enumerant {enumeration : Enumeration} (value : Enumerant enumeration) :
      Atomic (.enumerant enumeration) [.enumerant enumeration value]

/-- The operands that one operand of the grammar can stand for. -/
def Operand.Derived : OperandKind → List Operand → Prop
  | .enumerant enumeration, operands => ∃ value parameters,
      operands = .enumerant enumeration value :: parameters ∧
        (enumeration.hasParameters = false → parameters = [])
  | kind, operands => Atomic kind operands

namespace Instruction

/-- The second instruction is the first one with one more operand of the grammar. -/
def Extends (inst : Instruction) : OperandKind → Instruction → Prop
  | .resultType, next => ∃ type, next = { inst with resultType := some type }
  | .result, next => ∃ id, next = { inst with resultId := some id }
  | kind, next => ∃ operands, Operand.Derived kind operands ∧
      next = { inst with operands := inst.operands ++ operands }

/-- The second instruction is the first one with operands of one kind, any number of times. -/
inductive Repeats (kind : OperandKind) : Instruction → Instruction → Prop where
  | refl (inst : Instruction) : Repeats kind inst inst
  | step {inst next result : Instruction} (hnext : inst.Extends kind next)
      (hrest : Repeats kind next result) : Repeats kind inst result

/-- The second instruction is the first one with the operands of a grammar. What need not be given
may be left out together with all that follows. -/
inductive Completes : List OperandSpec → Instruction → Instruction → Prop where
  | nil (inst : Instruction) : Completes [] inst inst
  | short {spec : OperandSpec} {specs : List OperandSpec} (hspec : spec.occurrence ≠ .one)
      (inst : Instruction) : Completes (spec :: specs) inst inst
  | cons {spec : OperandSpec} {specs : List OperandSpec} {inst next result : Instruction}
      (hspec : spec.occurrence ≠ .repeated) (hnext : inst.Extends spec.kind next)
      (hrest : Completes specs next result) : Completes (spec :: specs) inst result
  | repeated {spec : OperandSpec} {specs : List OperandSpec} {inst next result : Instruction}
      (hspec : spec.occurrence = .repeated) (hnext : Repeats spec.kind inst next)
      (hrest : Completes specs next result) : Completes (spec :: specs) inst result

/-- The grammar of its opcode, if it is given, derives the instruction. -/
def Grammatical (inst : Instruction) : Prop :=
  ∀ specs, inst.opcode.operands? = some specs → Completes specs { opcode := inst.opcode } inst

theorem Extends.opcode_eq {inst next : Instruction} {kind : OperandKind}
    (hnext : inst.Extends kind next) : next.opcode = inst.opcode := by
  cases kind with
  | resultType =>
      obtain ⟨type, rfl⟩ := hnext
      rfl
  | result =>
      obtain ⟨id, rfl⟩ := hnext
      rfl
  | _ =>
      obtain ⟨operands, -, rfl⟩ := hnext
      rfl

theorem Repeats.opcode_eq {inst next : Instruction} {kind : OperandKind}
    (hrepeats : Repeats kind inst next) : next.opcode = inst.opcode := by
  induction hrepeats with
  | refl => rfl
  | step hnext _ ih => rw [ih, hnext.opcode_eq]

/-- Operands never change the opcode. -/
theorem Completes.opcode_eq {specs : List OperandSpec} {inst result : Instruction}
    (hcompletes : Completes specs inst result) : result.opcode = inst.opcode := by
  induction hcompletes with
  | nil => rfl
  | short => rfl
  | cons _ hnext _ ih => rw [ih, hnext.opcode_eq]
  | repeated _ hnext _ ih => rw [ih, hnext.opcode_eq]

end Instruction

/-! ## Reading derivations -/

namespace Operand

variable (operands : List Operand)

theorem derived_id : Derived .id operands ↔ ∃ target, operands = [.ref target] := by
  constructor
  · intro hatomic
    cases hatomic
    exact ⟨_, rfl⟩
  · rintro ⟨target, rfl⟩
    exact Atomic.id target

theorem derived_literal : Derived .literal operands ↔ ∃ value, operands = [.int32 value] := by
  constructor
  · intro hatomic
    cases hatomic
    exact ⟨_, rfl⟩
  · rintro ⟨value, rfl⟩
    exact Atomic.literal value

theorem derived_text : Derived .text operands ↔ ∃ text, operands = [.string text] := by
  constructor
  · intro hatomic
    cases hatomic
    exact ⟨_, rfl⟩
  · rintro ⟨text, rfl⟩
    exact Atomic.text text

end Operand

namespace Instruction

variable {inst next result : Instruction} {specs : List OperandSpec} {kind : OperandKind}

theorem completes_nil : Completes [] inst result ↔ result = inst := by
  constructor
  · intro hcompletes
    cases hcompletes
    rfl
  · rintro rfl
    exact .nil result

theorem completes_one : Completes (.one kind :: specs) inst result ↔
    ∃ next, inst.Extends kind next ∧ Completes specs next result := by
  constructor
  · intro hcompletes
    cases hcompletes with
    | short hspec => exact absurd rfl hspec
    | cons _ hnext hrest => exact ⟨_, hnext, hrest⟩
    | repeated hspec => cases hspec
  · rintro ⟨next, hnext, hrest⟩
    exact .cons (by simp [OperandSpec.one]) hnext hrest

theorem completes_resultType : Completes (.one .resultType :: specs) inst result ↔
    ∃ type, Completes specs { inst with resultType := some type } result := by
  rw [completes_one]
  constructor
  · rintro ⟨_, ⟨type, rfl⟩, hrest⟩
    exact ⟨type, hrest⟩
  · rintro ⟨type, hrest⟩
    exact ⟨_, ⟨type, rfl⟩, hrest⟩

theorem completes_result : Completes (.one .result :: specs) inst result ↔
    ∃ id, Completes specs { inst with resultId := some id } result := by
  rw [completes_one]
  constructor
  · rintro ⟨_, ⟨id, rfl⟩, hrest⟩
    exact ⟨id, hrest⟩
  · rintro ⟨id, hrest⟩
    exact ⟨_, ⟨id, rfl⟩, hrest⟩

/-- What is no part of the result is among the operands. -/
theorem extends_operands (htype : kind ≠ .resultType) (hresult : kind ≠ .result) :
    inst.Extends kind next ↔ ∃ operands, Operand.Derived kind operands ∧
      next = { inst with operands := inst.operands ++ operands } := by
  cases kind with
  | resultType => exact absurd rfl htype
  | result => exact absurd rfl hresult
  | _ => exact Iff.rfl

/-- An operand that is always `make` of something is read as what it is made of. -/
theorem completes_made {α : Type} {make : α → List Operand} (htype : kind ≠ .resultType)
    (hresult : kind ≠ .result)
    (hderived : ∀ operands, Operand.Derived kind operands ↔ ∃ value, operands = make value) :
    Completes (.one kind :: specs) inst result ↔ ∃ value,
      Completes specs { inst with operands := inst.operands ++ make value } result := by
  rw [completes_one]
  constructor
  · rintro ⟨next, hnext, hrest⟩
    obtain ⟨operands, hoperands, rfl⟩ := (extends_operands htype hresult).mp hnext
    obtain ⟨value, rfl⟩ := (hderived operands).mp hoperands
    exact ⟨value, hrest⟩
  · rintro ⟨value, hrest⟩
    have hmade : Operand.Derived kind (make value) := (hderived _).mpr ⟨value, rfl⟩
    exact ⟨_, (extends_operands htype hresult).mpr ⟨_, hmade, rfl⟩, hrest⟩

theorem completes_id : Completes (.one .id :: specs) inst result ↔
    ∃ target, Completes specs { inst with operands := inst.operands ++ [.ref target] } result :=
  completes_made (by decide) (by decide) Operand.derived_id

theorem completes_literal : Completes (.one .literal :: specs) inst result ↔
    ∃ value, Completes specs { inst with operands := inst.operands ++ [.int32 value] } result :=
  completes_made (by decide) (by decide) Operand.derived_literal

theorem completes_text : Completes (.one .text :: specs) inst result ↔
    ∃ text, Completes specs { inst with operands := inst.operands ++ [.string text] } result :=
  completes_made (by decide) (by decide) Operand.derived_text

theorem completes_enumerant {enumeration : Enumeration} :
    Completes (.one (.enumerant enumeration) :: specs) inst result ↔ ∃ value parameters,
      (enumeration.hasParameters = false → parameters = []) ∧
        Completes specs { inst with
          operands := inst.operands ++ .enumerant enumeration value :: parameters } result := by
  rw [completes_one]
  constructor
  · rintro ⟨_, ⟨_, ⟨value, parameters, rfl, hparameters⟩, rfl⟩, hrest⟩
    exact ⟨value, parameters, hparameters, hrest⟩
  · rintro ⟨value, parameters, hparameters, hrest⟩
    exact ⟨_, ⟨_, ⟨value, parameters, rfl, hparameters⟩, rfl⟩, hrest⟩

theorem extends_id : inst.Extends .id next ↔
    ∃ target, next = { inst with operands := inst.operands ++ [.ref target] } := by
  rw [extends_operands (by decide) (by decide)]
  constructor
  · rintro ⟨operands, hoperands, rfl⟩
    obtain ⟨target, rfl⟩ := (Operand.derived_id operands).mp hoperands
    exact ⟨target, rfl⟩
  · rintro ⟨target, rfl⟩
    exact ⟨_, (Operand.derived_id _).mpr ⟨target, rfl⟩, rfl⟩

theorem repeats_id : Repeats .id inst next ↔ ∃ targets : List Ident,
    next = { inst with operands := inst.operands ++ targets.map .ref } := by
  constructor
  · intro hrepeats
    induction hrepeats with
    | refl inst => exact ⟨[], by simp⟩
    | step hnext _ ih =>
        obtain ⟨target, rfl⟩ := extends_id.mp hnext
        obtain ⟨targets, rfl⟩ := ih
        exact ⟨target :: targets, by simp⟩
  · rintro ⟨targets, rfl⟩
    induction targets generalizing inst with
    | nil => simpa using Repeats.refl inst
    | cons target targets ih =>
        refine .step (extends_id.mpr ⟨target, rfl⟩) ?_
        simpa using @ih { inst with operands := inst.operands ++ [.ref target] }

theorem completes_refs : Completes [.repeated .id] inst result ↔ ∃ targets : List Ident,
    result = { inst with operands := inst.operands ++ targets.map .ref } := by
  rw [← repeats_id]
  constructor
  · intro hcompletes
    cases hcompletes with
    | short => exact .refl inst
    | cons hspec => exact absurd rfl hspec
    | repeated _ hnext hrest =>
        obtain rfl := completes_nil.mp hrest
        exact hnext
  · intro hrepeats
    exact .repeated rfl hrepeats (.nil result)

/-- A last operand that is no result only adds operands. -/
theorem Completes.exists_operands {spec : OperandSpec} (hcompletes : Completes [spec] inst result)
    (hspec : spec.occurrence ≠ .repeated) (htype : spec.kind ≠ .resultType)
    (hresult : spec.kind ≠ .result) :
    ∃ more, result = { inst with operands := inst.operands ++ more } := by
  cases hcompletes with
  | short => exact ⟨[], by simp⟩
  | repeated hrepeated => exact absurd hrepeated hspec
  | cons _ hnext hrest =>
      obtain rfl := completes_nil.mp hrest
      obtain ⟨more, -, rfl⟩ := (extends_operands htype hresult).mp hnext
      exact ⟨more, rfl⟩

end Instruction

/-! ## What is asked of decoders -/

/-- Every instruction that the decoder returns follows the grammar. -/
def Decoder.FollowsGrammar (decoder : Decoder) : Prop :=
  ∀ words stream, decoder.decode words = .ok stream →
    ∀ inst ∈ stream.instructions, inst.Grammatical

end ShaderInterface
