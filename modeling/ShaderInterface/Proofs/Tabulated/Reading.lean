import Mathlib.Data.List.Induction
import Mathlib.Data.List.TakeWhile
import ShaderInterface.Proofs.Spelling
import ShaderInterface.Proofs.Tabulated.Grammar

/-!
# The tabulated decoder reads what is spelled

A reader that is given the words of a value takes exactly these and returns the value. The readers
of an instruction's operands are put together from such steps; the last one ends with the words. A
word stream is divided into the instructions that it spells, and these are decoded one after the
other.
-/

namespace ShaderInterface

/-! ## Texts -/

theorem Word.byte_three_ofBytes (a b c d : UInt8) : byte (ofBytes a b c d) 3 = d := by
  have hbytes := bytes_ofBytes a b c d
  simp only [bytes, List.cons.injEq] at hbytes
  exact hbytes.2.2.2.1

namespace Text

theorem isLast_ofBytes (a b c d : UInt8) : isLast (Word.ofBytes a b c d) = decide (d = 0) := by
  rw [isLast, Word.byte_three_ofBytes]

/-- Behind bytes that are not zero a zero byte ends the string, whatever follows. -/
theorem split?_pack_append {data : List UInt8} (hdata : ∀ byte ∈ data, byte ≠ 0)
    (rest : List UInt32) : split? (Word.pack (data ++ [0]) ++ rest) =
      some (Word.pack (data ++ [0]), rest) := by
  induction data using Word.pack.induct with
  | case1 => simp [Word.pack, split?, isLast_ofBytes]
  | case2 a => simp [Word.pack, split?, isLast_ofBytes]
  | case3 a b => simp [Word.pack, split?, isLast_ofBytes]
  | case4 a b c => simp [Word.pack, split?, isLast_ofBytes]
  | case5 a b c d tail ih =>
      have hd : d ≠ 0 := hdata d (by simp)
      have htail := ih fun byte hbyte => hdata byte (by simp [hbyte])
      simp [Word.pack, split?, isLast_ofBytes, hd, htail]

theorem trimZeros_append_replicate {data : List UInt8} (hdata : ∀ byte ∈ data, byte ≠ 0)
    (count : Nat) : trimZeros (data ++ List.replicate count 0) = data := by
  have hzeros : ∀ byte ∈ List.replicate count (0 : UInt8), decide (byte = 0) = true := by
    intro byte hbyte
    rw [List.eq_of_mem_replicate hbyte]
    rfl
  have hkept : data.reverse.dropWhile (fun byte => decide (byte = 0)) = data.reverse := by
    refine List.dropWhile_eq_self_iff.mpr fun hpos hzero => ?_
    have hmem : data.reverse[0] ∈ data := List.mem_reverse.mp (List.getElem_mem hpos)
    exact hdata _ hmem (of_decide_eq_true hzero)
  rw [trimZeros, List.reverse_append, List.reverse_replicate, List.dropWhile_append_of_pos hzeros,
    hkept, List.reverse_reverse]

/-- A string of a text is split off as a whole. -/
theorem split?_toWords_append {text : String} (hnul : NulFree text) (rest : List UInt32) :
    split? (toWords text ++ rest) = some (toWords text, rest) :=
  split?_pack_append (fun _ hbyte => Utf8.ne_zero_of_mem_encode hnul hbyte) rest

/-- A text is read back from its words. -/
theorem ofWords_toWords {text : String} (hnul : NulFree text) :
    ofWords (toWords text) = .ok text := by
  obtain ⟨count, -, -, hunpack⟩ := exists_unpack_toWords text
  have hbytes : ∀ byte ∈ Utf8.encode text, byte ≠ 0 :=
    fun _ hbyte => Utf8.ne_zero_of_mem_encode hnul hbyte
  rw [ofWords, hunpack, trimZeros_append_replicate hbytes, Utf8.decode_encode]

end Text

/-! ## Steps -/

variable {α β : Type}

/-- The reader takes the words from the front of any others and returns the value. -/
def Reader.Takes (reader : Reader α) (words : List UInt32) (value : α) : Prop :=
  ∀ rest offset, reader.run.run ⟨words ++ rest, 0, offset⟩ =
    (.ok value, ⟨rest, 0, offset + 4 * words.length⟩)

/-- The reader returns the value and leaves none of the words. -/
def Reader.Ends (reader : Reader α) (words : List UInt32) (value : α) : Prop :=
  ∀ offset, reader.run.run ⟨words, 0, offset⟩ = (.ok value, ⟨[], 0, offset + 4 * words.length⟩)

namespace Reader

theorem takes_pure (value : α) : Takes (pure value) [] value :=
  fun _ _ => rfl

theorem run_bind_of_ok {reader : Reader α} {next : α → Reader β} {value : α}
    {cursor after : Cursor} (hread : reader.run.run cursor = (.ok value, after)) :
    (reader >>= next).run.run cursor = (next value).run.run after := by
  rw [ExceptT.run_bind, StateT.run_bind, hread]
  rfl

theorem Takes.bind {reader : Reader α} {next : α → Reader β} {words more : List UInt32}
    {value : α} {result : β} (htakes : Takes reader words value)
    (hnext : Takes (next value) more result) : Takes (reader >>= next) (words ++ more) result := by
  intro rest offset
  rw [List.append_assoc, run_bind_of_ok (htakes _ offset), hnext, List.length_append]
  simp only [Nat.mul_add, Nat.add_assoc]

theorem Takes.map {reader : Reader α} {f : α → β} {words : List UInt32} {value : α}
    (htakes : Takes reader words value) :
    Takes (reader >>= fun value => pure (f value)) words (f value) := by
  have hbind : Takes (reader >>= fun value => pure (f value)) (words ++ []) (f value) :=
    htakes.bind (takes_pure (f value))
  rwa [List.append_nil] at hbind

theorem Takes.bind_ends {reader : Reader α} {next : α → Reader β} {words more : List UInt32}
    {value : α} {result : β} (htakes : Takes reader words value)
    (hnext : Ends (next value) more result) : Ends (reader >>= next) (words ++ more) result := by
  intro offset
  rw [run_bind_of_ok (htakes _ offset), hnext, List.length_append]
  simp only [Nat.mul_add, Nat.add_assoc]

theorem takes_word (value : UInt32) : Takes word [value] value :=
  fun _ _ => rfl

theorem takes_enumerant {enumeration : Enumeration} {value : Enumerant enumeration}
    (hknown : enumeration.knows value.number = true) :
    Takes (enumerant enumeration) [value.number] value := by
  intro rest offset
  have hnext (missing offset : Nat) :
      Cursor.next ⟨value.number :: rest, missing, offset⟩ =
        (.ok value.number, ⟨rest, missing, offset + 4⟩) := rfl
  unfold enumerant
  simp only [ExceptT.run_mk, StateT.run, List.cons_append, List.nil_append, hnext,
    Enumerant.ofNumber?_number hknown]
  rfl

theorem takes_string {text : String} (hnul : Text.NulFree text) :
    Takes string (Text.toWords text) text := by
  intro rest offset
  unfold string
  simp only [ExceptT.run_mk, StateT.run, Text.split?_toWords_append hnul,
    Text.ofWords_toWords hnul, Cursor.advance, List.drop_left]
  rfl

theorem takes_doubleWord {low high : UInt32} {value : UInt64}
    (hvalue : value.toNat = low.toNat + UInt32.size * high.toNat) :
    Takes doubleWord [low, high] value := by
  have hsame : UInt64.ofNat (low.toNat + UInt32.size * high.toNat) = value := by
    rw [← hvalue, UInt64.ofNat_toNat]
  have hhigh : Takes (word >>= fun high => pure (UInt64.ofNat
      (low.toNat + UInt32.size * high.toNat))) [high] value :=
    hsame ▸ (takes_word high).map
  unfold doubleWord
  exact (takes_word low).bind hhigh

/-! ## Operands -/

section Operands

variable {context : DecodeContext} {resultType : Option Ident}

theorem takes_ref (target : Ident) :
    Takes (operand context resultType .id) [target] [.ref target] :=
  (takes_word target).map

theorem takes_literal (value : UInt32) :
    Takes (operand context resultType .literal) [value] [.int32 value] :=
  (takes_word value).map

theorem takes_text {text : String} (hnul : Text.NulFree text) :
    Takes (operand context resultType .text) (Text.toWords text) [.string text] :=
  (takes_string hnul).map

theorem takes_literals (params : List UInt32) :
    Takes (atoms context resultType (List.replicate params.length .literal)) params
      (params.map .int32) := by
  induction params with
  | nil => exact takes_pure []
  | cons param rest ih =>
      have hrest : Takes (atoms context resultType (List.replicate rest.length .literal) >>=
          fun operands => pure ([Operand.int32 param] ++ operands)) rest
          ([Operand.int32 param] ++ rest.map .int32) := ih.map
      have hparam : Takes (atom context resultType .literal) [param] [.int32 param] :=
        (takes_word param).map
      exact hparam.bind hrest

/-- A value is taken with its parameters. -/
theorem takes_parameters {enumeration : Enumeration} {value : Enumerant enumeration}
    {words : List UInt32} {parameters : List Operand}
    (hknown : enumeration.knows value.number = true)
    (hparameters : Takes (atoms context resultType (enumeration.parameters value.number)) words
      parameters) :
    Takes (operand context resultType (.enumerant enumeration)) (value.number :: words)
      (.enumerant enumeration value :: parameters) := by
  have hrest : Takes (atoms context resultType (enumeration.parameters value.number) >>=
      fun parameters => pure (Operand.enumerant enumeration value :: parameters)) words
      (Operand.enumerant enumeration value :: parameters) := hparameters.map
  exact (takes_enumerant hknown).bind hrest

theorem takes_int32 {value : UInt32} {type : Ident}
    (hform : context.forms.get? type = some (.int 32)) :
    Takes (operand context (some type) .number) [value] [.int32 value] := by
  have hnumber : Takes (number context (some type)) [value] (.int32 value) := by
    have hword : Takes (word >>= fun read => pure (Operand.int32 read)) [value] (.int32 value) :=
      (takes_word value).map
    unfold number
    rw [Option.bind_some, hform]
    exact hword
  exact hnumber.map

theorem takes_int64 {low high : UInt32} {value : UInt64} {type : Ident}
    (hform : context.forms.get? type = some (.int 64))
    (hvalue : value.toNat = low.toNat + UInt32.size * high.toNat) :
    Takes (operand context (some type) .number) [low, high] [.int64 value] := by
  have hnumber : Takes (number context (some type)) [low, high] (.int64 value) := by
    have hwords : Takes (doubleWord >>= fun read => pure (Operand.int64 read)) [low, high]
        (.int64 value) := (takes_doubleWord hvalue).map
    unfold number
    rw [Option.bind_some, hform]
    exact hwords
  exact hnumber.map

end Operands

/-! ## Fields -/

section Fields

variable {context : DecodeContext} {inst next result : Instruction} {words rest : List UInt32}

theorem takes_resultType (type : Ident) :
    Takes (field context inst .resultType) [type] { inst with resultType := some type } :=
  (takes_word type).map

theorem takes_result (id : Ident) :
    Takes (field context inst .result) [id] { inst with resultId := some id } :=
  (takes_word id).map

theorem takes_field {kind : OperandKind} {operands : List Operand} (htype : kind ≠ .resultType)
    (hresult : kind ≠ .result)
    (htakes : Takes (operand context inst.resultType kind) words operands) :
    Takes (field context inst kind) words { inst with operands := inst.operands ++ operands } := by
  have hfield : Takes (operand context inst.resultType kind >>= fun operands =>
      pure { inst with operands := inst.operands ++ operands }) words
      { inst with operands := inst.operands ++ operands } := htakes.map
  cases kind with
  | resultType => exact absurd rfl htype
  | result => exact absurd rfl hresult
  | _ => exact hfield

theorem ends_nil : Ends (fields context [] inst) [] inst :=
  fun _ => rfl

/-- An operand that may be left out is left out at the end. -/
theorem ends_short {spec : OperandSpec} {specs : List OperandSpec}
    (hspec : spec.occurrence ≠ .one) : Ends (fields context (spec :: specs) inst) [] inst := by
  intro offset
  obtain ⟨kind, occurrence⟩ := spec
  cases occurrence with
  | one => exact absurd rfl hspec
  | _ => rfl

/-- An operand that is there is read before those behind it. -/
theorem ends_cons {spec : OperandSpec} {specs : List OperandSpec}
    (hspec : spec.occurrence ≠ .repeated) (hwords : words ≠ [])
    (hfield : Takes (field context inst spec.kind) words next)
    (hrest : Ends (fields context specs next) rest result) :
    Ends (fields context (spec :: specs) inst) (words ++ rest) result := by
  have hboth := hfield.bind_ends hrest
  intro offset
  rw [← hboth offset]
  obtain ⟨kind, occurrence⟩ := spec
  obtain ⟨word, more, rfl⟩ := List.exists_cons_of_ne_nil hwords
  cases occurrence with
  | repeated => exact absurd rfl hspec
  | _ => rfl

/-- The operand takes one word. -/
theorem ends_word {spec : OperandSpec} {specs : List OperandSpec} {word : UInt32}
    (hspec : spec.occurrence ≠ .repeated)
    (hfield : Takes (field context inst spec.kind) [word] next)
    (hrest : Ends (fields context specs next) rest result) :
    Ends (fields context (spec :: specs) inst) (word :: rest) result :=
  ends_cons hspec (List.cons_ne_nil _ _) hfield hrest

theorem ends_refsUpTo {bound : Nat} {targets : List Ident} (hbound : targets.length ≤ bound) :
    Ends (fieldsUpTo context .id bound inst) targets
      { inst with operands := inst.operands ++ targets.map .ref } := by
  -- each reference is one word, so the bound falls with the references left
  induction targets generalizing bound inst with
  | nil =>
      intro offset
      rw [List.map_nil, List.append_nil]
      cases bound <;> rfl
  | cons target rest ih =>
      cases bound with
      | zero => simp at hbound
      | succ bound =>
          have htarget : Takes (field context inst .id) [target]
              { inst with operands := inst.operands ++ [.ref target] } :=
            takes_field nofun nofun (takes_ref target)
          have hrest : Ends (fieldsUpTo context .id bound
              { inst with operands := inst.operands ++ [.ref target] }) rest
              { inst with operands := inst.operands ++ [.ref target] ++ rest.map .ref } :=
            ih (Nat.le_of_succ_le_succ hbound)
          have hboth := htarget.bind_ends hrest
          rw [List.append_assoc] at hboth
          exact hboth

/-- References that are repeated up to the end of the instruction. -/
theorem ends_refs (targets : List Ident) :
    Ends (fields context [.repeated .id] inst) targets
      { inst with operands := inst.operands ++ targets.map .ref } := by
  cases targets with
  | nil =>
      rw [List.map_nil, List.append_nil]
      exact ends_short nofun
  | cons target rest =>
      intro offset
      have hread : Ends (fieldsUpTo context .id (target :: rest).length inst) (target :: rest)
          { inst with operands := inst.operands ++ (target :: rest).map .ref } :=
        ends_refsUpTo (Nat.le_refl _)
      have hfields : (fields context [.repeated .id] inst).run.run ⟨target :: rest, 0, offset⟩ =
          (fieldsUpTo context .id (target :: rest).length inst >>= fields context []).run.run
            ⟨target :: rest, 0, offset⟩ := rfl
      rw [hfields, run_bind_of_ok (hread offset)]
      rfl

end Fields

end Reader

/-! ## Instructions -/

/-- What the tables of the decoder say. -/
def Vocabulary.tabulated : Vocabulary where
  Knows enumeration number := enumeration.knows number = true
  TakesIntegers decoration count :=
    Enumeration.decoration.parameters decoration.number = List.replicate count .literal

/-- What the instructions say about the numbers of their results. -/
def NumberForms.after (insts : List Instruction) : NumberForms :=
  insts.foldl NumberForms.record .empty

namespace NumberForms

theorem after_append_singleton (insts : List Instruction) (inst : Instruction) :
    after (insts ++ [inst]) = (after insts).record inst := by
  rw [after, List.foldl_append]
  rfl

theorem get?_record_of_ne {forms : NumberForms} {inst : Instruction} {id : Ident}
    (hne : inst.resultId ≠ some id) : (forms.record inst).get? id = forms.get? id := by
  unfold record
  split
  next result form hresult hform =>
    refine Table.get?_insert_of_ne _ _ ?_
    rintro rfl
    exact hne hresult
  next => rfl

theorem get?_record_typeInt {forms : NumberForms} {inst : Instruction} {id : Ident}
    {width : UInt32} (hop : inst.opcode = .typeInt) (hid : inst.resultId = some id)
    (hwidth : inst.operands.head? = some (.int32 width)) :
    (forms.record inst).get? id = some (.int width) := by
  obtain ⟨op, resultType, resultId, operands⟩ := inst
  obtain ⟨rest, rfl⟩ := List.head?_eq_some_iff.mp hwidth
  cases hop
  cases hid
  exact Table.get?_insert_self ..

/-- The width of an integer type is known until its identifier is given to something else. -/
theorem get?_after {insts : List Instruction} {type : Ident} {width : UInt32}
    (hdeclares : DeclaresInteger insts type width) :
    (after insts).get? type = some (.int width) := by
  obtain ⟨before, inst, later, rfl, hop, hid, hwidth, hlater⟩ := hdeclares
  induction later using List.reverseRecOn with
  | nil =>
      rw [after_append_singleton]
      exact get?_record_typeInt hop hid hwidth
  | append_singleton later last ih =>
      rw [← List.cons_append, ← List.append_assoc, after_append_singleton,
        get?_record_of_ne (hlater last (by simp))]
      exact ih fun inst hinst => hlater inst (List.mem_append_left _ hinst)

end NumberForms

section Instructions

open Reader

variable {before : List Instruction} {index : Nat}

/-- The words of an operand are read as what they stand for. -/
theorem SpellsOperand.takes {resultType : Option Ident} {kind : OperandKind} {words : List UInt32}
    {operands : List Operand}
    (hspells : SpellsOperand .tabulated before resultType kind words operands) :
    Takes (operand ⟨index, .after before⟩ resultType kind) words operands := by
  cases hspells with
  | id target => exact takes_ref target
  | literal value => exact takes_literal value
  | text hnul hpos hle hwords =>
      rw [Text.eq_toWords_of_unpack hpos hle hwords]
      exact takes_text hnul
  | int32 htype hdeclared value =>
      rw [htype]
      exact takes_int32 (NumberForms.get?_after hdeclared)
  | int64 htype hdeclared hvalue =>
      rw [htype]
      exact takes_int64 (NumberForms.get?_after hdeclared) hvalue
  | @value enumeration value hnone hknown =>
      apply takes_parameters hknown
      rw [Enumeration.parameters_eq_nil hnone]
      exact takes_pure []
  | @decoration decoration params hknown hparams =>
      apply takes_parameters hknown
      rw [show Enumeration.decoration.parameters decoration.number = _ from hparams]
      exact takes_literals params

theorem SpellsOperand.takes_field {inst : Instruction} {kind : OperandKind} {words : List UInt32}
    {operands : List Operand}
    (hspells : SpellsOperand .tabulated before inst.resultType kind words operands) :
    Takes (field ⟨index, .after before⟩ inst kind) words
      { inst with operands := inst.operands ++ operands } := by
  refine Reader.takes_field ?_ ?_ hspells.takes
  all_goals
    rintro rfl
    cases hspells

/-- The words of an instruction are read to their end. -/
theorem SpellsOperands.ends {specs : List OperandSpec} {inst result : Instruction}
    {words : List UInt32} (hspells : SpellsOperands .tabulated before specs inst words result)
    (index : Nat) : Ends (fields ⟨index, .after before⟩ specs inst) words result := by
  induction hspells with
  | nil inst => exact ends_nil
  | short hspec inst => exact ends_short hspec
  | resultType type _ ih => exact ends_word nofun (takes_resultType type) ih
  | result id _ ih => exact ends_word nofun (takes_result id) ih
  | cons hspec hfirst _ ih => exact ends_cons hspec hfirst.words_ne_nil hfirst.takes_field ih
  | refs inst targets => exact ends_refs targets

end Instructions

namespace Stream

/-- Instructions are decoded one after the other into what their words stand for. -/
theorem decodeChunks_spells {before : List Instruction} {words : List UInt32}
    {insts : List Instruction} (hspells : Spells .tabulated before words insts)
    (index offset : Nat) :
    decodeChunks (.after before) index offset (chunks words) = .ok insts := by
  induction hspells generalizing index offset with
  | nil => rfl
  | @cons before first words rest inst insts specs hlength hopcode hspecs hinst _ ih =>
      have hfirst : Chunk.decode ⟨first, words, 0⟩ ⟨index, .after before⟩ offset = .ok inst := by
        have hpos : Chunk.length ⟨first, words, 0⟩ ≠ 0 := by
          rw [Chunk.length, hlength]
          exact Nat.succ_ne_zero _
        rw [Chunk.decode, if_neg hpos, Chunk.opcodeNumber, hopcode,
          OpcodeEntry.find?_number hspecs]
        have hread := hinst.ends index (offset + 4)
        simp only [Reader.instruction]
        rw [hread]
        rfl
      have hrest := ih (index + 1) (offset + 4 * Chunk.length ⟨first, words, 0⟩)
      rw [NumberForms.after_append_singleton] at hrest
      rw [chunks_cons_append hlength, decodeChunks, hfirst, ok_bind, hrest, ok_bind]
      rfl

end Stream

theorem Decoder.tabulated_reads : tabulated.Reads .tabulated := by
  intro version generator bound schema words insts hspells
  have hchunks := Stream.decodeChunks_spells hspells 1 (4 * Stream.headerLength)
  refine decode_tabulated_eq_ok.mpr ?_
  simp only [Stream.ofWords]
  rw [if_neg (by decide), if_neg (fun hmagic => hmagic rfl)]
  rw [show NumberForms.after [] = .empty from rfl] at hchunks
  rw [hchunks]
  rfl

end ShaderInterface
