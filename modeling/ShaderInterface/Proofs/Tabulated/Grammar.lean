import ShaderInterface.Decoding.Tabulated
import ShaderInterface.Proofs.Except
import ShaderInterface.Proofs.Grammar

/-!
# The tabulated decoder follows the grammar

Whatever the words are, an instruction that the decoder returns is one that the operands in its
table derive.
-/

namespace ShaderInterface

/-! ## What reading returns -/

namespace Reader

variable {α β : Type} (context : DecodeContext) (resultType : Option Ident) {inst : Instruction}

/-- Every value that the reader returns has the property. -/
def Returns (reader : Reader α) (post : α → Prop) : Prop :=
  ∀ cursor value after, reader.run.run cursor = (.ok value, after) → post value

theorem returns_true (reader : Reader α) : reader.Returns fun _ => True :=
  fun _ _ _ _ => trivial

theorem returns_pure {value : α} {post : α → Prop} (hpost : post value) :
    Returns (pure value) post := by
  intro cursor returned after hrun
  cases hrun
  exact hpost

theorem returns_throw (fault : Fault) (post : α → Prop) :
    Returns (throw fault : Reader α) post := by
  intro cursor value after hrun
  cases hrun

/-- A sequence returns what its second step does after the first one has returned. -/
theorem run_bind_eq_ok {reader : Reader α} {next : α → Reader β} {cursor after : Cursor}
    {value : β} : (reader >>= next).run.run cursor = (.ok value, after) ↔
      ∃ read between, reader.run.run cursor = (.ok read, between) ∧
        (next read).run.run between = (.ok value, after) := by
  rw [ExceptT.run_bind, StateT.run_bind]
  cases hread : reader.run.run cursor with
  | mk result between =>
      cases result with
      | error fault =>
          constructor
          · intro hrun
            cases hrun
          · intro hrun
            obtain ⟨read, other, heq, -⟩ := hrun
            cases heq
      | ok read =>
          constructor
          · intro hrun
            exact ⟨read, between, rfl, hrun⟩
          · intro hrun
            obtain ⟨other, later, heq, hrun⟩ := hrun
            cases heq
            exact hrun

theorem Returns.bind {reader : Reader α} {next : α → Reader β} {mid : α → Prop}
    {post : β → Prop} (hreader : reader.Returns mid)
    (hnext : ∀ value, mid value → (next value).Returns post) : (reader >>= next).Returns post := by
  intro cursor value after hrun
  obtain ⟨read, between, hread, hrun⟩ := run_bind_eq_ok.mp hrun
  exact hnext read (hreader cursor read between hread) between value after hrun

theorem returns_map {reader : Reader α} {f : α → β} {post : β → Prop}
    (hpost : ∀ value, post (f value)) : (reader >>= fun value => pure (f value)).Returns post :=
  (returns_true reader).bind fun value _ => returns_pure (hpost value)

theorem returns_number :
    (number context resultType).Returns fun operand => Operand.Atomic .number [operand] := by
  unfold number
  split
  · exact returns_map Operand.Atomic.int32
  · split
    · exact returns_map Operand.Atomic.int32
    · split
      · exact returns_map Operand.Atomic.int64
      · exact (returns_true _).bind fun _ _ => returns_throw _ _
  · split
    · exact returns_map Operand.Atomic.float32
    · split
      · exact returns_map Operand.Atomic.float64
      · exact (returns_true _).bind fun _ _ => returns_throw _ _

theorem returns_refs (count : Nat) :
    (refs count).Returns fun operands =>
      ∃ targets : List Ident, operands = targets.map .ref := by
  induction count with
  | zero => exact returns_pure ⟨[], rfl⟩
  | succ count ih =>
      refine (returns_true word).bind fun target _ => ih.bind fun operands hoperands => ?_
      obtain ⟨targets, rfl⟩ := hoperands
      exact returns_pure ⟨target :: targets, rfl⟩

theorem returns_operation : (operation context).Returns (Operand.Atomic .specOp) := by
  refine (returns_true word).bind fun first _ => ?_
  split
  next entry _ =>
    refine (returns_refs entry.referenceCount).bind fun operands hoperands => ?_
    obtain ⟨targets, rfl⟩ := hoperands
    exact returns_pure (.specOp entry.opcode targets)
  next => exact (returns_true _).bind fun _ _ => returns_throw _ _

theorem returns_atom (kind : OperandKind) :
    (atom context resultType kind).Returns (Operand.Atomic kind) := by
  cases kind with
  | resultType => exact returns_pure .resultType
  | result => exact returns_pure .result
  | id => exact returns_map Operand.Atomic.id
  | literal => exact returns_map Operand.Atomic.literal
  | text => exact returns_map Operand.Atomic.text
  | extInst => exact returns_map Operand.Atomic.extInst
  | number => exact (returns_number context resultType).bind fun _ hoperand => returns_pure hoperand
  | specOp => exact returns_operation context
  | idLiteralPair =>
      exact (returns_true word).bind fun target _ =>
        returns_map (Operand.Atomic.idLiteralPair target)
  | enumerant enumeration => exact returns_map Operand.Atomic.enumerant

/-- Where a vocabulary has no parameters, nothing is read behind its value. -/
theorem returns_parameters {enumeration : Enumeration} (value : Enumerant enumeration) :
    (atoms context resultType (enumeration.parameters value.number)).Returns fun parameters =>
      enumeration.hasParameters = false → parameters = [] := by
  cases hparameters : enumeration.hasParameters with
  | true => exact fun _ _ _ _ => nofun
  | false =>
      rw [Enumeration.parameters_eq_nil hparameters]
      exact returns_pure fun _ => rfl

theorem returns_operand (kind : OperandKind) :
    (operand context resultType kind).Returns (Operand.Derived kind) := by
  have hatom := returns_atom context resultType kind
  cases kind with
  | enumerant enumeration =>
      exact (returns_true _).bind fun value _ =>
        (returns_parameters context resultType value).bind fun parameters hparameters =>
        returns_pure ⟨value, parameters, rfl, hparameters⟩
  | _ => exact hatom

theorem returns_field (kind : OperandKind) :
    (field context inst kind).Returns (inst.Extends kind) := by
  cases kind with
  | resultType => exact returns_map fun type => ⟨type, rfl⟩
  | result => exact returns_map fun id => ⟨id, rfl⟩
  | _ =>
      exact (returns_operand context _ _).bind fun operands hoperands =>
        returns_pure ⟨operands, hoperands, rfl⟩

theorem returns_fieldsUpTo (kind : OperandKind) (bound : Nat) (inst : Instruction) :
    (fieldsUpTo context kind bound inst).Returns (Instruction.Repeats kind inst) := by
  induction bound generalizing inst with
  | zero => exact returns_pure (.refl inst)
  | succ bound ih =>
      refine (returns_true _).bind fun cursor _ => ?_
      split
      · exact returns_pure (.refl inst)
      · refine (returns_field context kind).bind fun next hnext => ?_
        intro cursor result after hrun
        exact .step hnext (ih next cursor result after hrun)

/-- Reading the operands of a grammar completes the instruction as the grammar says. -/
theorem returns_fields (specs : List OperandSpec) (inst : Instruction) :
    (fields context specs inst).Returns (Instruction.Completes specs inst) := by
  induction specs generalizing inst with
  | nil => exact returns_pure (.nil inst)
  | cons spec specs ih =>
      refine (returns_true _).bind fun cursor _ => ?_
      split
      -- no words are left
      · cases hspec : spec.occurrence with
        | one => exact returns_throw _ _
        | optional | repeated => exact returns_pure (.short (by simp [hspec]) inst)
      · cases hspec : spec.occurrence with
        | one | optional =>
            refine (returns_field context spec.kind).bind fun next hnext => ?_
            intro cursor result after hrun
            exact .cons (by simp [hspec]) hnext (ih next cursor result after hrun)
        | repeated =>
            refine (returns_fieldsUpTo context spec.kind _ inst).bind fun next hnext => ?_
            intro cursor result after hrun
            exact .repeated hspec hnext (ih next cursor result after hrun)

end Reader

/-! ## What decoding returns -/

/-- Where the grammar of an opcode is given, it stands in the table. -/
theorem OpcodeEntry.operands_eq_of_find? {number : Nat} {entry : OpcodeEntry}
    {specs : List OperandSpec} (hfind : find? number = some entry)
    (hspecs : entry.opcode.operands? = some specs) : entry.operands = specs := by
  rcases List.mem_append.mp (List.mem_of_find?_eq_some hfind) with hnamed | hother
  · obtain ⟨op, -, hop⟩ := List.mem_filterMap.mp hnamed
    obtain ⟨operands, hoperands, rfl⟩ := Option.map_eq_some_iff.mp hop
    exact Option.some.inj (hoperands.symm.trans hspecs)
  · have hnone : ∀ entry ∈ others, entry.opcode.operands? = none := by decide
    rw [hnone entry hother] at hspecs
    cases hspecs

namespace Chunk

variable {chunk : Chunk} {context : DecodeContext} {offset : Nat} {inst : Instruction}

/-- A decoded instruction was read from the words of its chunk. -/
theorem exists_read_of_decode (hdecode : chunk.decode context offset = .ok inst) :
    ∃ entry cursor, OpcodeEntry.find? chunk.opcodeNumber = some entry ∧
      (Reader.instruction context entry).run.run ⟨chunk.rest, chunk.missing, offset + 4⟩ =
        (.ok inst, cursor) := by
  unfold decode at hdecode
  split at hdecode
  next => cases hdecode
  next =>
    split at hdecode
    next => cases hdecode
    next entry hentry =>
      cases hread : (Reader.instruction context entry).run.run
          ⟨chunk.rest, chunk.missing, offset + 4⟩ with
      | mk result cursor =>
          simp only [hread] at hdecode
          split at hdecode
          next =>
            subst hdecode
            exact ⟨entry, cursor, hentry, hread⟩
          next => cases hdecode

theorem grammatical_of_decode (hdecode : chunk.decode context offset = .ok inst) :
    inst.Grammatical := by
  obtain ⟨entry, cursor, hentry, hread⟩ := exists_read_of_decode hdecode
  have hcompletes := Reader.returns_fields context entry.operands _ _ inst cursor hread
  have hop : inst.opcode = entry.opcode := hcompletes.opcode_eq
  intro specs hspecs
  rw [hop] at hspecs ⊢
  rwa [← OpcodeEntry.operands_eq_of_find? hentry hspecs]

end Chunk

namespace Stream

theorem exists_chunk_of_decodeChunks {forms : NumberForms} {index offset : Nat}
    {chunks : List Chunk} {insts : List Instruction}
    (hdecode : decodeChunks forms index offset chunks = .ok insts) :
    ∀ inst ∈ insts, ∃ chunk ∈ chunks, ∃ context offset,
      chunk.decode context offset = .ok inst := by
  induction chunks generalizing forms index offset insts with
  | nil =>
      cases hdecode
      intro inst hinst
      cases hinst
  | cons chunk rest ih =>
      obtain ⟨first, hfirst, hdecode⟩ := bind_eq_ok.mp hdecode
      obtain ⟨later, hlater, hdecode⟩ := bind_eq_ok.mp hdecode
      cases hdecode
      intro inst hinst
      rcases List.mem_cons.mp hinst with rfl | hinst
      · exact ⟨chunk, List.mem_cons_self, _, _, hfirst⟩
      · obtain ⟨later, hmem, hlater⟩ := ih hlater inst hinst
        exact ⟨later, List.mem_cons_of_mem _ hmem, hlater⟩

/-- Every instruction of a decoded module comes from one of the chunks behind the header. -/
theorem exists_chunk_of_ofWords {words : List UInt32} {stream : Stream}
    (hdecode : ofWords words = .ok stream) : ∀ inst ∈ stream.instructions,
      ∃ chunk ∈ chunks (words.drop headerLength), ∃ context offset,
        chunk.decode context offset = .ok inst := by
  unfold ofWords at hdecode
  split at hdecode
  next =>
    split at hdecode
    next => cases hdecode
    next =>
      split at hdecode
      next => cases hdecode
      next =>
        obtain ⟨insts, hinsts, hdecode⟩ := bind_eq_ok.mp hdecode
        cases hdecode
        exact exists_chunk_of_decodeChunks hinsts
  next => cases hdecode

end Stream

namespace Decoder

theorem decode_tabulated_eq_ok {words : List UInt32} {stream : Stream} :
    tabulated.decode words = .ok stream ↔ Stream.ofWords words = .ok stream := by
  change (Stream.ofWords words).mapError Fault.message = .ok stream ↔ _
  cases Stream.ofWords words with
  | error => exact ⟨nofun, nofun⟩
  | ok decoded =>
      change Except.ok decoded = Except.ok stream ↔ _
      rw [Except.ok.injEq, Except.ok.injEq]

theorem tabulated_followsGrammar : tabulated.FollowsGrammar := by
  intro words stream hdecode inst hinst
  obtain ⟨chunk, -, context, offset, hchunk⟩ :=
    Stream.exists_chunk_of_ofWords (decode_tabulated_eq_ok.mp hdecode) inst hinst
  exact Chunk.grammatical_of_decode hchunk

end Decoder

end ShaderInterface
