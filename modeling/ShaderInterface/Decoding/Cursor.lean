import ShaderInterface.Decoding.Fault
import ShaderInterface.Decoding.Text
import ShaderInterface.Decoding.Vocabulary

/-!
# Reading the words of one instruction

A cursor stands between the words of an instruction that have been read and those that have not.
An instruction may announce more words than the module still has; the cursor counts those as
missing, so that reading past the instruction and reading past the module are told apart.
-/

namespace ShaderInterface

/-- A position among the words of an instruction. -/
structure Cursor where
  /-- The words not read yet. -/
  unread : List UInt32
  /-- How many announced words the module does not have. -/
  missing : Nat
  /-- The place of the next word, in bytes from the start of the module. -/
  offset : Nat

/-- A reading step. It moves the cursor also when it fails. -/
abbrev Reader := ExceptT Fault (StateM Cursor)

namespace Cursor

/-- How many announced words have not been read. -/
def remaining (cursor : Cursor) : Nat :=
  cursor.unread.length + cursor.missing

/-- The cursor behind the next `count` words. -/
def advance (cursor : Cursor) (count : Nat) : Cursor :=
  { cursor with unread := cursor.unread.drop count, offset := cursor.offset + 4 * count }

/-- What asking for a word beyond the last one reports. Each missing word is asked for once. -/
def exhausted (cursor : Cursor) : OperandFault × Cursor :=
  match cursor.missing with
  | 0 => (.limitReached cursor.offset, cursor)
  | missing + 1 => (.streamExpected cursor.offset, { cursor with missing })

/-- The next word. -/
def next (cursor : Cursor) : Except OperandFault UInt32 × Cursor :=
  match cursor.unread with
  | word :: _ => (.ok word, cursor.advance 1)
  | [] =>
      let (fault, after) := cursor.exhausted
      (.error fault, after)

end Cursor

namespace Reader

/-- Read one word. -/
def word : Reader UInt32 :=
  ExceptT.mk fun cursor =>
    let (result, after) := cursor.next
    (result.mapError .operand, after)

/-- Read one value of a vocabulary. Of a word that is not there it is only said that the words
ended. -/
def enumerant (enumeration : Enumeration) : Reader (Enumerant enumeration) :=
  ExceptT.mk fun cursor =>
    match cursor.next with
    | (.error _, after) => (.error (.operand (.streamExpected after.offset)), after)
    | (.ok number, after) =>
        match Enumerant.ofNumber? enumeration number with
        | some value => (.ok value, after)
        | none => (.error (.operand (.unknown enumeration cursor.offset number)), after)

/-- Read one string. One that does not end is read to the end of the words. -/
def string : Reader String :=
  ExceptT.mk fun cursor =>
    match Text.split? cursor.unread with
    | some (words, _) =>
        let result := (Text.ofWords words).mapError fun cause =>
          Fault.operand (.malformedText cursor.offset cause)
        (result, cursor.advance words.length)
    | none =>
        let (fault, after) := (cursor.advance cursor.unread.length).exhausted
        (.error (.operand fault), after)

/-- Read one 64-bit number, the low word first. -/
def doubleWord : Reader UInt64 := do
  let low ← word
  let high ← word
  return UInt64.ofNat (low.toNat + UInt32.size * high.toNat)

end Reader

end ShaderInterface
