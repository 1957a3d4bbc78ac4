import ShaderInterface.Assembler
import ShaderInterface.Binary.Chunk
import ShaderInterface.Binary.Enumerant
import ShaderInterface.Binary.Grammar
import ShaderInterface.Binary.Instruction
import ShaderInterface.Binary.Opcode
import ShaderInterface.Binary.Stream
import ShaderInterface.Binary.Text
import ShaderInterface.DataType
import ShaderInterface.Decoding.Cursor
import ShaderInterface.Decoding.Decode
import ShaderInterface.Decoding.Fault
import ShaderInterface.Decoding.Instructions
import ShaderInterface.Decoding.Tabulated
import ShaderInterface.Decoding.Text
import ShaderInterface.Decoding.Vocabulary
import ShaderInterface.Introspection.Basic
import ShaderInterface.Introspection.OfModule
import ShaderInterface.Introspection.Tabulated
import ShaderInterface.Log
import ShaderInterface.Module.Basic
import ShaderInterface.Module.Collect
import ShaderInterface.Module.Error
import ShaderInterface.Module.Layout
import ShaderInterface.Module.Query
import ShaderInterface.Proofs.Acceptance
import ShaderInterface.Proofs.Alike
import ShaderInterface.Proofs.ArrayDimensions
import ShaderInterface.Proofs.ArrayLayouts
import ShaderInterface.Proofs.Assembled
import ShaderInterface.Proofs.AssembledIdentifiers
import ShaderInterface.Proofs.AssembledModule
import ShaderInterface.Proofs.AssembledSpelling
import ShaderInterface.Proofs.AssembledWords
import ShaderInterface.Proofs.BlockContents
import ShaderInterface.Proofs.BlockExtent
import ShaderInterface.Proofs.BlockLists
import ShaderInterface.Proofs.Correspondence
import ShaderInterface.Proofs.DataTypes
import ShaderInterface.Proofs.DebugNames
import ShaderInterface.Proofs.DeclarationOrder
import ShaderInterface.Proofs.Declarations
import ShaderInterface.Proofs.DeclaredSize
import ShaderInterface.Proofs.ElementCounts
import ShaderInterface.Proofs.Except
import ShaderInterface.Proofs.Facts
import ShaderInterface.Proofs.Grammar
import ShaderInterface.Proofs.GrowingArrays
import ShaderInterface.Proofs.ImageLists
import ShaderInterface.Proofs.Locality
import ShaderInterface.Proofs.Notes
import ShaderInterface.Proofs.OperandCount
import ShaderInterface.Proofs.Options
import ShaderInterface.Proofs.Providers
import ShaderInterface.Proofs.QuestionOrder
import ShaderInterface.Proofs.Reflectable
import ShaderInterface.Proofs.Renumbering
import ShaderInterface.Proofs.ReportLines
import ShaderInterface.Proofs.ResourceLists
import ShaderInterface.Proofs.ResourceNames
import ShaderInterface.Proofs.Shapes
import ShaderInterface.Proofs.SharedSlots
import ShaderInterface.Proofs.SimilarAnswers
import ShaderInterface.Proofs.Similarity
import ShaderInterface.Proofs.Spelling
import ShaderInterface.Proofs.StageInputs
import ShaderInterface.Proofs.StorageAccess
import ShaderInterface.Proofs.StructExtent
import ShaderInterface.Proofs.StructQuestions
import ShaderInterface.Proofs.Tabulated.Grammar
import ShaderInterface.Proofs.Tabulated.OperandCount
import ShaderInterface.Proofs.Tabulated.Reading
import ShaderInterface.Proofs.TextBoundaries
import ShaderInterface.Proofs.TextWords
import ShaderInterface.Proofs.TypeGraph
import ShaderInterface.Proofs.VariablePointers
import ShaderInterface.Proofs.Warnings
import ShaderInterface.Reflection.Basic
import ShaderInterface.Reflection.Block
import ShaderInterface.Reflection.Provider
import ShaderInterface.Reflection.Reflect
import ShaderInterface.Reflection.Report
import ShaderInterface.Reflection.Resources
import ShaderInterface.Table
import ShaderInterface.Utf8
import ShaderInterface.Word
