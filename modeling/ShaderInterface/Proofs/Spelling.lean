import ShaderInterface.Binary.Grammar
import ShaderInterface.Binary.Stream
import ShaderInterface.Proofs.TextWords

/-!
# Words that stand for instructions

Which words a sequence of instructions is written in, apart from whoever writes or reads them. An
instruction starts with its length and its opcode, and the operands of its grammar follow. How a
number is written depends on the type that was declared for it before. Only the instructions whose
grammar is given are spelled, with parameters only behind decorations and only integers as such.
-/

namespace ShaderInterface

/-- What a decoder knows of the values that operands are drawn from. -/
structure Vocabulary where
  /-- The number is one of a value. -/
  Knows : Enumeration → UInt32 → Prop
  /-- The parameters of the decoration are as many integers of one word. -/
  TakesIntegers : Decoration → Nat → Prop

/-- The last of the instructions that defines the identifier declares integers of the width. -/
def DeclaresInteger (insts : List Instruction) (type : Ident) (width : UInt32) : Prop :=
  ∃ before inst after, insts = before ++ inst :: after ∧ inst.opcode = .typeInt ∧
    inst.resultId = some type ∧ inst.operands.head? = some (.int32 width) ∧
    ∀ later ∈ after, later.resultId ≠ some type

section

variable (vocabulary : Vocabulary) (before : List Instruction)

/-- The words stand for the operands, in an instruction with the given result type behind others. -/
inductive SpellsOperand (resultType : Option Ident) :
    OperandKind → List UInt32 → List Operand → Prop where
  | id (target : Ident) : SpellsOperand resultType .id [target] [.ref target]
  | literal (value : UInt32) : SpellsOperand resultType .literal [value] [.int32 value]
  /-- The bytes of a text are followed by at least one zero, up to a whole word. -/
  | text {text : String} {words : List UInt32} {zeros : Nat} (hnul : Text.NulFree text)
      (hpos : 1 ≤ zeros) (hle : zeros ≤ 4)
      (hwords : Word.unpack words = Utf8.encode text ++ List.replicate zeros 0) :
      SpellsOperand resultType .text words [.string text]
  | int32 {type : Ident} (htype : resultType = some type)
      (hdeclared : DeclaresInteger before type 32) (value : UInt32) :
      SpellsOperand resultType .number [value] [.int32 value]
  | int64 {type : Ident} {low high : UInt32} {value : UInt64} (htype : resultType = some type)
      (hdeclared : DeclaresInteger before type 64)
      (hvalue : value.toNat = low.toNat + UInt32.size * high.toNat) :
      SpellsOperand resultType .number [low, high] [.int64 value]
  | value {enumeration : Enumeration} (value : Enumerant enumeration)
      (hnone : enumeration.hasParameters = false)
      (hknown : vocabulary.Knows enumeration value.number) :
      SpellsOperand resultType (.enumerant enumeration) [value.number]
        [.enumerant enumeration value]
  | decoration {decoration : Decoration} {params : List UInt32}
      (hknown : vocabulary.Knows .decoration decoration.number)
      (hparams : vocabulary.TakesIntegers decoration params.length) :
      SpellsOperand resultType (.enumerant .decoration) (decoration.number :: params)
        (.enumerant .decoration decoration :: params.map .int32)

/-- With the words for what the grammar still asks for the first instruction becomes the second. -/
inductive SpellsOperands : List OperandSpec → Instruction → List UInt32 → Instruction → Prop where
  | nil (inst : Instruction) : SpellsOperands [] inst [] inst
  /-- What need not be given may be left out together with all that follows. -/
  | short {spec : OperandSpec} {specs : List OperandSpec} (hspec : spec.occurrence ≠ .one)
      (inst : Instruction) : SpellsOperands (spec :: specs) inst [] inst
  | resultType {specs : List OperandSpec} {inst result : Instruction} {words : List UInt32}
      (type : Ident)
      (hrest : SpellsOperands specs { inst with resultType := some type } words result) :
      SpellsOperands (.one .resultType :: specs) inst (type :: words) result
  | result {specs : List OperandSpec} {inst result : Instruction} {words : List UInt32}
      (id : Ident) (hrest : SpellsOperands specs { inst with resultId := some id } words result) :
      SpellsOperands (.one .result :: specs) inst (id :: words) result
  | cons {spec : OperandSpec} {specs : List OperandSpec} {inst result : Instruction}
      {words rest : List UInt32} {operands : List Operand} (hspec : spec.occurrence ≠ .repeated)
      (hfirst : SpellsOperand vocabulary before inst.resultType spec.kind words operands)
      (hrest : SpellsOperands specs { inst with operands := inst.operands ++ operands } rest
        result) : SpellsOperands (spec :: specs) inst (words ++ rest) result
  | refs (inst : Instruction) (targets : List Ident) :
      SpellsOperands [.repeated .id] inst targets
        { inst with operands := inst.operands ++ targets.map .ref }

end

/-- Behind the instructions `before` the words stand for the others. -/
inductive Spells (vocabulary : Vocabulary) :
    List Instruction → List UInt32 → List Instruction → Prop where
  | nil (before : List Instruction) : Spells vocabulary before [] []
  /-- The first word holds the number of words and that of the opcode. -/
  | cons {before : List Instruction} {first : UInt32} {words rest : List UInt32}
      {inst : Instruction} {insts : List Instruction} {specs : List OperandSpec}
      (hlength : first.toNat / 65536 = words.length + 1)
      (hopcode : first.toNat % 65536 = inst.opcode.number)
      (hspecs : inst.opcode.operands? = some specs)
      (hinst : SpellsOperands vocabulary before specs { opcode := inst.opcode } words inst)
      (hrest : Spells vocabulary (before ++ [inst]) rest insts) :
      Spells vocabulary before (first :: (words ++ rest)) (inst :: insts)

/-- The decoder misses nothing: behind any header it decodes words into the instructions that they
stand for. -/
def Decoder.Reads (decoder : Decoder) (vocabulary : Vocabulary) : Prop :=
  ∀ version generator bound schema words insts, Spells vocabulary [] words insts →
    decoder.decode (Stream.magic :: version :: generator :: bound :: schema :: words) =
      .ok ⟨version, insts⟩

/-! ## Spelling -/

section

variable {vocabulary : Vocabulary} {before : List Instruction} {resultType : Option Ident}
  {kind : OperandKind} {words rest : List UInt32} {operands : List Operand}
  {specs : List OperandSpec} {inst result : Instruction}

/-- Every operand stands for words. -/
theorem SpellsOperand.words_ne_nil
    (hspells : SpellsOperand vocabulary before resultType kind words operands) : words ≠ [] := by
  cases hspells with
  | @text _ _ zeros _ hpos _ hwords =>
      rintro rfl
      have hlength := congrArg List.length hwords
      rw [List.length_append, List.length_replicate] at hlength
      simp only [Word.unpack, List.flatMap_nil, List.length_nil] at hlength
      omega
  | _ => exact List.cons_ne_nil _ _

theorem SpellsOperand.toWords {text : String} (hnul : Text.NulFree text) :
    SpellsOperand vocabulary before resultType .text (Text.toWords text) [.string text] := by
  obtain ⟨zeros, hpos, hle, hwords⟩ := Text.exists_unpack_toWords text
  exact .text hnul hpos hle hwords

/-- An operand that has to be given comes before those behind it. -/
theorem SpellsOperands.one
    (hfirst : SpellsOperand vocabulary before inst.resultType kind words operands)
    (hrest : SpellsOperands vocabulary before specs
      { inst with operands := inst.operands ++ operands } rest result) :
    SpellsOperands vocabulary before (.one kind :: specs) inst (words ++ rest) result :=
  .cons nofun hfirst hrest

/-- The next operand is one word. -/
theorem SpellsOperands.word {word : UInt32}
    (hfirst : SpellsOperand vocabulary before inst.resultType kind [word] operands)
    (hrest : SpellsOperands vocabulary before specs
      { inst with operands := inst.operands ++ operands } rest result) :
    SpellsOperands vocabulary before (.one kind :: specs) inst (word :: rest) result :=
  .one hfirst hrest

/-- The next operand is all words that are left. -/
theorem SpellsOperands.last
    (hfirst : SpellsOperand vocabulary before inst.resultType kind words operands) :
    SpellsOperands vocabulary before [.one kind] inst words
      { inst with operands := inst.operands ++ operands } := by
  have hspells := SpellsOperands.one hfirst (.nil _)
  rwa [List.append_nil] at hspells

end

end ShaderInterface
