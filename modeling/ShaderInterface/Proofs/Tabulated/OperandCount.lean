import ShaderInterface.Proofs.OperandCount
import ShaderInterface.Proofs.Tabulated.Grammar

/-!
# The tabulated decoder reads operands from words

Every operand is read from at least one word of its instruction, and half a word holds the length of
an instruction. So half a word can count the operands of any decoded instruction.
-/

namespace ShaderInterface

theorem Text.ne_nil_of_split? {words string after : List UInt32}
    (hsplit : Text.split? words = some (string, after)) : string ≠ [] := by
  cases words with
  | nil => cases hsplit
  | cons word rest =>
      rw [Text.split?] at hsplit
      split at hsplit
      next =>
        cases hsplit
        exact List.cons_ne_nil _ _
      next =>
        obtain ⟨pair, -, hpair⟩ := Option.map_eq_some_iff.mp hsplit
        cases hpair
        exact List.cons_ne_nil _ _

theorem Cursor.remaining_next {cursor after : Cursor} {word : UInt32}
    (hnext : cursor.next = (.ok word, after)) : after.remaining + 1 = cursor.remaining := by
  obtain ⟨unread, missing, offset⟩ := cursor
  cases unread with
  | nil => cases hnext
  | cons first rest =>
      cases hnext
      simp only [Cursor.remaining, Cursor.advance, List.drop_succ_cons, List.drop_zero,
        List.length_cons]
      omega

/-! ## Paying with words -/

namespace Reader

variable {α β : Type} {credit : Nat}

/-- What the reader returns is paid for with words: its weight is no more than the credit and the
words that are spent on it. -/
def Spends (reader : Reader α) (credit : Nat) (weight : α → Nat) : Prop :=
  ∀ cursor value after, reader.run.run cursor = (.ok value, after) →
    weight value + after.remaining ≤ credit + cursor.remaining

theorem spends_pure {value : α} {weight : α → Nat} (hweight : weight value ≤ credit) :
    Spends (pure value) credit weight := by
  intro cursor returned after hrun
  cases hrun
  exact Nat.add_le_add_right hweight _

theorem spends_throw (fault : Fault) (weight : α → Nat) :
    Spends (throw fault : Reader α) credit weight := by
  intro cursor value after hrun
  cases hrun

theorem spends_get : Spends (get : Reader Cursor) credit fun _ => credit := by
  intro cursor value after hrun
  cases hrun
  exact Nat.le_refl _

theorem Spends.bind {reader : Reader α} {next : α → Reader β} {mid : α → Nat} {weight : β → Nat}
    (hreader : reader.Spends credit mid)
    (hnext : ∀ value, (next value).Spends (mid value) weight) :
    (reader >>= next).Spends credit weight := by
  intro cursor value after hrun
  obtain ⟨read, between, hread, hrun⟩ := run_bind_eq_ok.mp hrun
  have hfirst := hreader cursor read between hread
  have hlast := hnext read between value after hrun
  omega

/-- What a returned value is turned into may weigh less. -/
theorem Spends.map {reader : Reader α} {f : α → β} {mid : α → Nat} {weight : β → Nat}
    (hreader : reader.Spends credit mid) (hweight : ∀ value, weight (f value) ≤ mid value) :
    (reader >>= fun value => pure (f value)).Spends credit weight :=
  hreader.bind fun value => spends_pure (hweight value)

/-- A reader that takes at least one word may give something of weight one for it. -/
theorem spends_one {reader : Reader α}
    (htakes : ∀ cursor value after, reader.run.run cursor = (.ok value, after) →
      after.remaining + 1 ≤ cursor.remaining) : reader.Spends credit fun _ => credit + 1 := by
  intro cursor value after hrun
  have hle := htakes cursor value after hrun
  calc
    credit + 1 + after.remaining = credit + (after.remaining + 1) := by omega
    _ ≤ credit + cursor.remaining := Nat.add_le_add_left hle credit

theorem spends_word : word.Spends credit fun _ => credit + 1 := by
  apply spends_one
  intro cursor value after hrun
  cases hnext : cursor.next with
  | mk result between =>
      have hword : word.run.run cursor = (result.mapError .operand, between) := by
        unfold word
        simp only [ExceptT.run_mk, StateT.run, hnext]
      rw [hword] at hrun
      cases result with
      | error => cases hrun
      | ok number =>
          cases hrun
          exact Nat.le_of_eq (Cursor.remaining_next hnext)

theorem spends_enumerant (enumeration : Enumeration) :
    (enumerant enumeration).Spends credit fun _ => credit + 1 := by
  apply spends_one
  intro cursor value after hrun
  unfold enumerant at hrun
  simp only [ExceptT.run_mk, StateT.run] at hrun
  split at hrun
  next => cases hrun
  next number between hnext =>
    split at hrun
    next =>
      cases hrun
      exact Nat.le_of_eq (Cursor.remaining_next hnext)
    next => cases hrun

theorem spends_string : string.Spends credit fun _ => credit + 1 := by
  apply spends_one
  intro cursor value after hrun
  unfold string at hrun
  simp only [ExceptT.run_mk, StateT.run] at hrun
  split at hrun
  next words rest hsplit =>
    have hlength := congrArg List.length (Text.append_of_split? hsplit)
    have hpos := List.length_pos_iff.mpr (Text.ne_nil_of_split? hsplit)
    obtain rfl : cursor.advance words.length = after := (Prod.mk.inj hrun).2
    simp only [Cursor.remaining, Cursor.advance, List.length_drop, List.length_append] at hlength ⊢
    omega
  next => cases hrun

theorem spends_doubleWord : doubleWord.Spends credit fun _ => credit + 1 :=
  spends_word.bind fun _ => spends_word.map fun _ => Nat.le_succ _

variable (context : DecodeContext) (resultType : Option Ident)

theorem spends_number : (number context resultType).Spends credit fun _ => credit + 1 := by
  have hword : ∀ make : UInt32 → Operand,
      (word >>= fun value => pure (make value)).Spends credit fun _ => credit + 1 :=
    fun make => spends_word.map fun _ => Nat.le_refl _
  have hdoubleWord : ∀ make : UInt64 → Operand,
      (doubleWord >>= fun value => pure (make value)).Spends credit fun _ => credit + 1 :=
    fun make => spends_doubleWord.map fun _ => Nat.le_refl _
  unfold number
  split
  · exact hword _
  · split
    · exact hword _
    · split
      · exact hdoubleWord _
      · exact spends_get.bind fun _ => spends_throw _ _
  · split
    · exact hword _
    · split
      · exact hdoubleWord _
      · exact spends_get.bind fun _ => spends_throw _ _

theorem spends_refs (count : Nat) :
    (refs count).Spends credit fun operands => credit + operands.length := by
  induction count generalizing credit with
  | zero => exact spends_pure (Nat.le_refl _)
  | succ count ih =>
      refine spends_word.bind fun target => ih.map fun operands => ?_
      rw [List.length_cons]
      omega

theorem spends_operation :
    (operation context).Spends credit fun operands => credit + operands.length := by
  refine spends_word.bind fun first => ?_
  split
  next =>
    refine (spends_refs _).map fun operands => ?_
    rw [List.length_cons]
    omega
  next => exact spends_get.bind fun _ => spends_throw _ _

theorem spends_atom (kind : OperandKind) :
    (atom context resultType kind).Spends credit fun operands => credit + operands.length := by
  cases kind with
  | resultType | result => exact spends_pure (Nat.le_refl _)
  | id | literal | extInst => exact spends_word.map fun _ => Nat.le_refl _
  | text => exact spends_string.map fun _ => Nat.le_refl _
  | number => exact (spends_number context resultType).map fun _ => Nat.le_refl _
  | specOp => exact spends_operation context
  | idLiteralPair => exact spends_word.bind fun _ => spends_word.map fun _ => Nat.le_refl _
  | enumerant enumeration => exact (spends_enumerant enumeration).map fun _ => Nat.le_refl _

theorem spends_atoms (kinds : List OperandKind) :
    (atoms context resultType kinds).Spends credit fun operands => credit + operands.length := by
  induction kinds generalizing credit with
  | nil => exact spends_pure (Nat.le_refl _)
  | cons kind kinds ih =>
      refine (spends_atom context resultType kind).bind fun first => ih.map fun rest => ?_
      rw [List.length_append]
      omega

theorem spends_operand (kind : OperandKind) :
    (operand context resultType kind).Spends credit fun operands => credit + operands.length := by
  have hatom : (atom context resultType kind).Spends credit
      fun operands => credit + operands.length := spends_atom context resultType kind
  cases kind with
  | enumerant enumeration =>
      refine (spends_enumerant enumeration).bind fun value =>
        (spends_atoms context resultType _).map fun parameters => ?_
      rw [List.length_cons]
      omega
  | _ => exact hatom

variable {context}

/-- An instruction gets longer by no more operands than words are read. -/
theorem spends_field (inst : Instruction) (kind : OperandKind) :
    (field context inst kind).Spends inst.operands.length fun next => next.operands.length := by
  cases kind with
  | resultType | result => exact spends_word.map fun _ => Nat.le_succ _
  | _ =>
      exact (spends_operand context _ _).map fun _ => Nat.le_of_eq List.length_append

theorem spends_fieldsUpTo (kind : OperandKind) (bound : Nat) (inst : Instruction) :
    (fieldsUpTo context kind bound inst).Spends inst.operands.length
      fun next => next.operands.length := by
  induction bound generalizing inst with
  | zero => exact spends_pure (Nat.le_refl _)
  | succ bound ih =>
      refine spends_get.bind fun cursor => ?_
      split
      · exact spends_pure (Nat.le_refl _)
      · exact (spends_field inst kind).bind ih

theorem spends_fields (specs : List OperandSpec) (inst : Instruction) :
    (fields context specs inst).Spends inst.operands.length fun next => next.operands.length := by
  induction specs generalizing inst with
  | nil => exact spends_pure (Nat.le_refl _)
  | cons spec specs ih =>
      refine spends_get.bind fun cursor => ?_
      split
      · -- no words are left, so only an operand that must stand here is missed
        cases spec.occurrence with
        | one => exact spends_throw _ _
        | optional | repeated => exact spends_pure (Nat.le_refl _)
      · cases spec.occurrence with
        | one | optional => exact (spends_field inst spec.kind).bind ih
        | repeated => exact (spends_fieldsUpTo spec.kind _ inst).bind ih

end Reader

/-! ## Decoded instructions -/

theorem Chunk.length_operands_le {chunk : Chunk} {context : DecodeContext} {offset : Nat}
    {inst : Instruction} (hdecode : chunk.decode context offset = .ok inst) :
    inst.operands.length ≤ chunk.rest.length + chunk.missing := by
  obtain ⟨entry, cursor, -, hread⟩ := exists_read_of_decode hdecode
  have hspent := Reader.spends_fields entry.operands { opcode := entry.opcode } _ inst cursor hread
  simp only [Cursor.remaining, List.length_nil] at hspent
  omega

theorem Stream.lt_wordCountLimit_of_mem_chunksAfter {skipped : Nat} {words : List UInt32}
    {chunk : Chunk} (hmem : chunk ∈ chunksAfter skipped words) :
    chunk.rest.length + chunk.missing < wordCountLimit := by
  induction words generalizing skipped with
  | nil => cases skipped <;> cases hmem
  | cons first words ih =>
      cases skipped with
      | succ skipped => exact ih hmem
      | zero =>
          rcases List.mem_cons.mp hmem with rfl | hmem
          · have hfirst := first.toNat_lt
            simp only [List.length_take, wordCountLimit]
            omega
          · exact ih hmem

theorem Decoder.tabulated_boundsOperands : tabulated.BoundsOperands := by
  intro words stream hdecode inst hinst
  obtain ⟨chunk, hmem, context, offset, hchunk⟩ :=
    Stream.exists_chunk_of_ofWords (decode_tabulated_eq_ok.mp hdecode) inst hinst
  calc
    inst.operands.length ≤ chunk.rest.length + chunk.missing := Chunk.length_operands_le hchunk
    _ < wordCountLimit := Stream.lt_wordCountLimit_of_mem_chunksAfter hmem

end ShaderInterface
