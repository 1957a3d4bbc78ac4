import ShaderInterface.Decoding.Tabulated
import ShaderInterface.Reflection.Provider

/-!
# Reflecting with the tabulated decoder

What can be done with any decoder, with the one that has tables.
-/

namespace ShaderInterface

namespace Module

/-- The module in a sequence of words. -/
def ofWords (words : List UInt32) : ExceptT ModuleError Logged Module :=
  Decoder.tabulated.readWords words

/-- The module in a sequence of bytes, the lowest byte of each word first. -/
def ofBytes (bytes : List UInt8) : ExceptT ModuleError Logged Module :=
  Decoder.tabulated.readBytes bytes

end Module

/-- The provider that decodes words with tables. -/
def Provider.decoding : Provider Logged :=
  Decoder.tabulated.provider

/-- Reflect the module in a sequence of bytes with the usual options. -/
def reflect (code : List UInt8) : Reflecting Reflection :=
  Decoder.tabulated.reflect code

end ShaderInterface
