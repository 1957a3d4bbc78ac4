import ShaderInterface.Binary.Text

/-!
# Reading literal strings

The end of a string is recognised by the last byte of a word: a word whose highest byte is zero is
the last one. Zero bytes before that are part of the string, except that trailing ones are never
kept.
-/

namespace ShaderInterface.Text

/-- The highest byte of the word is zero, so no string goes on after it. -/
def isLast (word : UInt32) : Bool :=
  Word.byte word 3 = 0

/-- The words of a leading string and the words after it, if the string ends. -/
def split? : List UInt32 → Option (List UInt32 × List UInt32)
  | [] => none
  | word :: rest =>
      if isLast word then some ([word], rest)
      else (split? rest).map fun (string, after) => (word :: string, after)

/-- The bytes without the zeros at their end. -/
def trimZeros (bytes : List UInt8) : List UInt8 :=
  (bytes.reverse.dropWhile (· = 0)).reverse

/-- The text that the words of one string hold. -/
def ofWords (words : List UInt32) : Except Utf8.Malformed String :=
  Utf8.decode (trimZeros (Word.unpack words))

/-- Splitting only divides the words. -/
theorem append_of_split? {words string after : List UInt32}
    (hsplit : split? words = some (string, after)) : string ++ after = words := by
  induction words generalizing string with
  | nil => simp [split?] at hsplit
  | cons word rest ih =>
      simp only [split?] at hsplit
      split at hsplit
      · simp only [Option.some.injEq, Prod.mk.injEq] at hsplit
        obtain ⟨rfl, rfl⟩ := hsplit
        rfl
      · obtain ⟨⟨tail, last⟩, htail, hpair⟩ := Option.map_eq_some_iff.mp hsplit
        simp only [Prod.mk.injEq] at hpair
        obtain ⟨rfl, rfl⟩ := hpair
        simp [ih htail]

end ShaderInterface.Text
