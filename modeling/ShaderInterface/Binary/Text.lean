import ShaderInterface.Utf8
import ShaderInterface.Word

/-!
# Literal strings in a word stream

A string operand is the bytes of its text followed by at least one zero byte, up to a whole number
of words.
-/

namespace ShaderInterface.Text

/-- The words of a text: its bytes, one zero byte, and zeros up to a whole word. -/
def toWords (text : String) : List UInt32 :=
  Word.pack (Utf8.encode text ++ [0])

end ShaderInterface.Text
