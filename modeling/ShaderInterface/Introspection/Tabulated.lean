import ShaderInterface.Introspection.Basic
import ShaderInterface.Table

/-!
# Answers from tables

A module described by rows, for callers that read modules in their own way. Any question can be
made to fail: a failure names a question and the beginning of its arguments, and the first one that
fits decides the text.
-/

namespace ShaderInterface

/-- The questions that can fail. -/
inductive QueryName where
  | entryPoints
  | resources
  | typeInfo
  | memberTypes
  | hasDecoration
  | decoration
  | memberDecoration
  | declaredStructSize
  | declaredMemberSize
  deriving DecidableEq

/-- An argument of a question. -/
inductive QueryArgument where
  | number (value : UInt32)
  | kind (kind : ResourceKind)
  deriving DecidableEq

/-- Questions that are to fail: those of one name whose arguments begin as given. -/
structure QueryFailure where
  query : QueryName
  arguments : List QueryArgument
  text : String

/-- The failure is about the question. -/
def QueryFailure.fits (failure : QueryFailure) (query : QueryName)
    (arguments : List QueryArgument) : Bool :=
  failure.query = query && failure.arguments.isPrefixOf arguments

/-- A module described by tables. -/
structure TabulatedModule where
  version : Version := ⟨0, 0⟩
  entryPoints : List EntryPointInfo := []
  /-- The resources of all categories, those of each one in its order. -/
  resources : List (ResourceKind × Resource) := []
  types : Table Ident TypeInfo := .empty
  members : Table Ident (List Ident) := .empty
  names : Table Ident String := .empty
  memberNames : Table (Ident × UInt32) String := .empty
  /-- The first parameter of each decoration, if it has one. -/
  decorations : Table (Ident × Decoration) (Option UInt32) := .empty
  memberDecorations : Table (Ident × UInt32 × Decoration) (Option UInt32) := .empty
  structSizes : Table Ident UInt32 := .empty
  memberSizes : Table (Ident × UInt32) UInt32 := .empty
  failures : List QueryFailure := []

namespace TabulatedModule

variable (module : TabulatedModule)

/-- Answer a question unless it is to fail. -/
def answer {α : Type} (query : QueryName) (arguments : List QueryArgument) (result : Answer α) :
    Answer α :=
  match module.failures.find? (·.fits query arguments) with
  | some failure => .error ⟨failure.text⟩
  | none => result

/-- The value that a table has for an identifier. -/
def required {α : Type} (what : String) (id : Ident) : Option α → Answer α
  | some value => .ok value
  | none => .error ⟨s!"no {what} for %{id}"⟩

/-- The answers that the tables give. -/
def introspection : Introspection where
  version := module.version
  entryPoints := module.answer .entryPoints [] (.ok module.entryPoints)
  resources kind := module.answer .resources [.kind kind]
    (.ok ((module.resources.filter fun row => row.1 = kind).map Prod.snd))
  typeInfo id := module.answer .typeInfo [.number id]
    (required "type" id (module.types.get? id))
  memberTypes id := module.answer .memberTypes [.number id]
    (required "struct" id (module.members.get? id))
  hasDecoration id decoration :=
    module.answer .hasDecoration [.number id, .number decoration.number]
      (.ok (module.decorations.contains (id, decoration)))
  decoration id decoration := module.answer .decoration [.number id, .number decoration.number]
    (.ok (module.decorations.get? (id, decoration)).join)
  memberDecoration id member decoration :=
    module.answer .memberDecoration [.number id, .number member, .number decoration.number]
      (.ok (module.memberDecorations.get? (id, member, decoration)).join)
  name := module.names.get?
  memberName id member := module.memberNames.get? (id, member)
  declaredStructSize id := module.answer .declaredStructSize [.number id]
    (required "struct size" id (module.structSizes.get? id))
  declaredMemberSize id member :=
    module.answer .declaredMemberSize [.number id, .number member]
      (required "member size" id (module.memberSizes.get? (id, member)))

end TabulatedModule

end ShaderInterface
