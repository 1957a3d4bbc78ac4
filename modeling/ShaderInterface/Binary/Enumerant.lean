/-!
# Enumerated operands

Many operands are numbers from a vocabulary: storage classes, decorations, image dimensions. A value
of one vocabulary is never a value of another. Which numbers a vocabulary has is for whoever decodes
them to say.
-/

namespace ShaderInterface

/-- Vocabularies that operands are drawn from. The last three are sets of flags. -/
inductive Enumeration where
  | capability
  | sourceLanguage
  | executionModel
  | addressingModel
  | memoryModel
  | executionMode
  | storageClass
  | dim
  | imageFormat
  | accessQualifier
  | linkageType
  | functionParameterAttribute
  | fpRoundingMode
  | decoration
  | builtIn
  | memoryAccess
  | functionControl
  | fpFastMathMode
  deriving DecidableEq

namespace Enumeration

/-- The name under which faults report the vocabulary. -/
def name : Enumeration → String
  | .capability => "Capability"
  | .sourceLanguage => "SourceLanguage"
  | .executionModel => "ExecutionModel"
  | .addressingModel => "AddressingModel"
  | .memoryModel => "MemoryModel"
  | .executionMode => "ExecutionMode"
  | .storageClass => "StorageClass"
  | .dim => "Dim"
  | .imageFormat => "ImageFormat"
  | .accessQualifier => "AccessQualifier"
  | .linkageType => "LinkageType"
  | .functionParameterAttribute => "FunctionParameterAttribute"
  | .fpRoundingMode => "FPRoundingMode"
  | .decoration => "Decoration"
  | .builtIn => "BuiltIn"
  | .memoryAccess => "MemoryAccess"
  | .functionControl => "FunctionControl"
  | .fpFastMathMode => "FPFastMathMode"

/-- A value of the vocabulary may be followed by parameters. -/
def hasParameters : Enumeration → Bool
  | .decoration | .executionMode | .memoryAccess => true
  | _ => false

end Enumeration

/-- A value of a vocabulary, held as its number. -/
structure Enumerant (enumeration : Enumeration) where
  number : UInt32
  deriving DecidableEq

/-- Which stage or kernel an entry point belongs to. -/
abbrev ExecutionModel := Enumerant .executionModel

namespace ExecutionModel

/-- The stage that runs once for each vertex. -/
def vertex : ExecutionModel := ⟨0⟩

end ExecutionModel

/-- Where the object of a pointer or variable lives. -/
abbrev StorageClass := Enumerant .storageClass

namespace StorageClass

/-- Images and samplers that are bound from outside. -/
def uniformConstant : StorageClass := ⟨0⟩

/-- Values that come from the stage before. -/
def input : StorageClass := ⟨1⟩

/-- Blocks that are bound from outside and, unless marked otherwise, only read. -/
def uniform : StorageClass := ⟨2⟩

/-- Values that go to the next stage. -/
def output : StorageClass := ⟨3⟩

/-- Variables of one call of a function. -/
def function : StorageClass := ⟨7⟩

/-- The small block that is passed with the command. -/
def pushConstant : StorageClass := ⟨9⟩

/-- Blocks that are bound from outside and may be written. -/
def storageBuffer : StorageClass := ⟨12⟩

end StorageClass

/-- The dimensionality of an image. -/
abbrev Dim := Enumerant .dim

namespace Dim

/-- The image is an attachment of the render pass, read at the own position. -/
def subpassData : Dim := ⟨6⟩

end Dim

/-- The texel format of an image. -/
abbrev ImageFormat := Enumerant .imageFormat

/-- A property attached to an identifier or to a struct member. -/
abbrev Decoration := Enumerant .decoration

namespace Decoration

/-- The struct is laid out as a block. -/
def block : Decoration := ⟨2⟩

/-- The struct is laid out as a block that may be written, in the older way of saying so. -/
def bufferBlock : Decoration := ⟨3⟩

/-- The rows of a matrix are stored one after the other. -/
def rowMajor : Decoration := ⟨4⟩

/-- The distance between array elements in bytes. -/
def arrayStride : Decoration := ⟨6⟩

/-- The distance between the rows or columns of a matrix in bytes. -/
def matrixStride : Decoration := ⟨7⟩

/-- The object stands for a value of the pipeline. -/
def builtIn : Decoration := ⟨11⟩

/-- The object is not written. -/
def nonWritable : Decoration := ⟨24⟩

/-- The object is not read. -/
def nonReadable : Decoration := ⟨25⟩

/-- The place of an input or output among those of its stage. -/
def location : Decoration := ⟨30⟩

/-- The number of a resource in its set. -/
def binding : Decoration := ⟨33⟩

/-- The set that a resource is in. -/
def descriptorSet : Decoration := ⟨34⟩

/-- The place of a member in its struct in bytes. -/
def offset : Decoration := ⟨35⟩

end Decoration

end ShaderInterface
