/-!
# Text from bytes

Bytes are read as UTF-8. Bytes that are not well formed are refused with the place of the first
fault: the index of the first byte that belongs to no character, and how many bytes there are the
beginning of a character that does not go on as it must.
-/

namespace ShaderInterface.Utf8

/-- Why a byte sequence is no text. -/
inductive Malformed where
  /-- The `count` bytes from `index` on cannot be continued to a character by the byte after
  them, or are a single byte that starts none. -/
  | invalid (count index : Nat)
  /-- The bytes end inside the character that starts at `index`. -/
  | incomplete (index : Nat)
  deriving DecidableEq

/-- The words in which a fault is reported. -/
def Malformed.message : Malformed → String
  | .invalid count index => s!"invalid utf-8 sequence of {count} bytes from index {index}"
  | .incomplete index => s!"incomplete utf-8 byte sequence from index {index}"

/-- Inclusive bounds on one byte. -/
structure ByteRange where
  low : UInt8
  high : UInt8

/-- The byte lies within the bounds. -/
def ByteRange.contains (range : ByteRange) (byte : UInt8) : Bool :=
  range.low ≤ byte && byte ≤ range.high

/-- What most bytes after the first must be. -/
def continuation : ByteRange :=
  ⟨0x80, 0xBF⟩

/-- The bounds on the bytes that must follow a first byte, or `none` if no character starts
with it. The narrowed second bytes rule out overlong forms, surrogates and numbers beyond the last
code point. -/
def following? (first : UInt8) : Option (List ByteRange) :=
  if first < 0x80 then some []
  else if first < 0xC2 then none
  else if first < 0xE0 then some [continuation]
  else if first = 0xE0 then some [⟨0xA0, 0xBF⟩, continuation]
  else if first = 0xED then some [⟨0x80, 0x9F⟩, continuation]
  else if first < 0xF0 then some [continuation, continuation]
  else if first = 0xF0 then some [⟨0x90, 0xBF⟩, continuation, continuation]
  else if first < 0xF4 then some [continuation, continuation, continuation]
  else if first = 0xF4 then some [⟨0x80, 0x8F⟩, continuation, continuation]
  else none

/-- The first fault of the bytes, where the current character started at `start`, has `seen` bytes
so far and still owes bytes within the bounds `owed`. -/
def faultFrom (start seen : Nat) : List ByteRange → List UInt8 → Option Malformed
  | [], [] => none
  | _ :: _, [] => some (.incomplete start)
  | [], byte :: rest =>
      match following? byte with
      | some owed => faultFrom (start + seen) 1 owed rest
      | none => some (.invalid 1 (start + seen))
  | range :: owed, byte :: rest =>
      if range.contains byte then faultFrom start (seen + 1) owed rest
      else some (.invalid seen start)

/-- The first fault of a byte sequence. -/
def fault? (bytes : List UInt8) : Option Malformed :=
  faultFrom 0 0 [] bytes

/-- The text that the bytes encode. -/
def decode (bytes : List UInt8) : Except Malformed String :=
  match String.fromUTF8? ⟨bytes.toArray⟩ with
  | some text => .ok text
  | none => .error ((fault? bytes).getD (.incomplete bytes.length))

/-- The bytes of a text. -/
def encode (text : String) : List UInt8 :=
  text.toUTF8.data.toList

/-- Every text is read back from its bytes. -/
@[simp] theorem decode_encode (text : String) : decode (encode text) = .ok text := by
  have hbytes : (⟨(encode text).toArray⟩ : ByteArray) = text.toUTF8 := by
    simp [encode]
  have hread : String.fromUTF8? text.toUTF8 = some text := by
    simp only [String.fromUTF8?, String.toUTF8_eq_toByteArray, dif_pos text.isValidUTF8]
    rfl
  simp only [decode, hbytes, hread]

end ShaderInterface.Utf8
