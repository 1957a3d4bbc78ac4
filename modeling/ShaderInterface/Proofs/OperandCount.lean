import ShaderInterface.Proofs.Declarations

/-!
# How many operands instructions have

Half a word holds the length of an instruction, so if every operand stands for words, half a word
can count the operands of any decoded instruction, and the members of any struct that is declared by
one.
-/

namespace ShaderInterface

/-- No instruction announces as many words, as half a word holds their number. -/
def wordCountLimit : Nat := 65536

/-- A decoded instruction has fewer operands than an instruction can have words. -/
def Decoder.BoundsOperands (decoder : Decoder) : Prop :=
  ∀ words stream, decoder.decode words = .ok stream →
    ∀ inst ∈ stream.instructions, inst.operands.length < wordCountLimit

theorem length_of_mapM_ref? {operands : List Operand} {ids : List Ident}
    (hids : operands.mapM Operand.ref? = some ids) : ids.length = operands.length := by
  induction operands generalizing ids with
  | nil =>
      cases hids
      rfl
  | cons operand rest ih =>
      rw [List.mapM_cons] at hids
      obtain ⟨id, -, hids⟩ := Option.bind_eq_some_iff.mp hids
      obtain ⟨later, hlater, hids⟩ := Option.bind_eq_some_iff.mp hids
      cases hids
      rw [List.length_cons, List.length_cons, ih hlater]

/-- A struct has one member for each operand of its declaration. -/
theorem TypeDecl.length_of_ofOperands? {op : Opcode} {operands : List Operand}
    {members : List Ident} (hdecl : TypeDecl.ofOperands? op operands = some (.struct members)) :
    members.length = operands.length := by
  unfold ofOperands? at hdecl
  split at hdecl
  case h_12 =>
    obtain ⟨ids, hids, hstruct⟩ := Option.map_eq_some_iff.mp hdecl
    cases hstruct
    exact length_of_mapM_ref? hids
  all_goals cases hdecl

namespace Decoder

variable {decoder : Decoder} (hdecoder : decoder.BoundsOperands)

include hdecoder

/-- A struct in a module that was read has fewer members than an instruction can have words. -/
theorem length_members_lt_of_readWords {words : List UInt32} {module : Module} {id : Ident}
    {members : List Ident} (hmodule : (decoder.readWords words).run.value = .ok module)
    (htype : module.type? id = some (.struct members)) : members.length < wordCountLimit := by
  rw [Module.value_readWords] at hmodule
  cases hdecode : decoder.decode words with
  | error => simp [hdecode] at hmodule
  | ok stream =>
      rw [hdecode] at hmodule
      obtain ⟨haccepted, rfl⟩ := Module.ofInstructions_eq_ok.mp hmodule
      obtain ⟨inst, hinst, hfact⟩ := (Module.type?_recordAll_iff _ haccepted).mp htype
      obtain ⟨-, -, hdecl⟩ := Instruction.fact?_eq_type_iff.mp hfact
      rw [TypeDecl.length_of_ofOperands? hdecl]
      exact hdecoder words stream hdecode inst hinst

theorem length_members_lt_of_readBytes {code : List UInt8} {module : Module} {id : Ident}
    {members : List Ident} (hmodule : (decoder.readBytes code).run.value = .ok module)
    (htype : module.type? id = some (.struct members)) : members.length < wordCountLimit := by
  unfold readBytes at hmodule
  split at hmodule
  next => exact length_members_lt_of_readWords hdecoder hmodule htype
  next => cases hmodule

end Decoder

end ShaderInterface
