import ShaderInterface.Introspection.Basic
import ShaderInterface.Log
import ShaderInterface.Reflection.Basic

/-!
# The layout of blocks

A block is described by the members of its struct, one level deep, with their offsets and declared
sizes. Structs inside it are members like any other.
-/

namespace ShaderInterface

/-- A part of a reflection: it may fail and may note messages, and what it noted before it failed
stays noted. -/
abbrev Reflecting := ExceptT ReflectError Logged

namespace Reflecting

/-- Ask a question; if it fails, the error names the context. -/
def ask {α : Type} (context : String) (answer : Answer α) : Reflecting α :=
  match answer with
  | .ok value => pure value
  | .error error => throw (.query context error.text)

/-- Note a message. -/
def note (level : Level) (text : String) : Reflecting Unit :=
  ExceptT.lift (Logged.note level text)

@[simp] theorem ask_ok {α : Type} (context : String) (value : α) :
    ask context (.ok value) = pure value := rfl

/-- A question that fails ends the reflection with the provider's own text. -/
@[simp] theorem ask_error {α : Type} (context : String) (error : ProviderError) :
    (ask context (.error error) : Reflecting α) = throw (.query context error.text) := rfl

@[simp] theorem run_note (level : Level) (text : String) :
    (note level text).run = ⟨.ok (), [⟨level, text⟩]⟩ := rfl

end Reflecting

/-- How an identifier is called in messages: by its name if that is not empty, else by its
number. -/
def label (name : Option String) (id : Ident) : String :=
  match name with
  | some name => if name.isEmpty then s!"%{id}" else s!"`{name}`"
  | none => s!"%{id}"

/-- A module under reflection. -/
structure Reflector where
  module : Introspection
  options : ReflectOptions := {}

namespace Reflector

open Reflecting

variable (reflector : Reflector)

/-- The name of a struct member, or the chosen one if it has none or an empty one. -/
def memberName (id : Ident) (member : UInt32) : String :=
  match reflector.module.memberName id member with
  | some name => if name.isEmpty then reflector.options.unnamed else name
  | none => reflector.options.unnamed

/-- One member of the struct `id`, which is called `structLabel` in messages. -/
def member (id : Ident) (structLabel : String) (index : UInt32) (type : Ident) :
    Reflecting BufferMember := do
  let context := s!"struct {structLabel} member {index}"
  let info ← ask context (reflector.module.typeInfo type)
  let offset ← ask context (reflector.module.memberDecoration id index Decoration.offset)
  let size ← ask context (reflector.module.declaredMemberSize id index)
  return {
    name := reflector.memberName id index
    dataType := info.dataType
    offset := offset.getD 0
    size
    arrayLength := info.arrayLength }

/-- The members of the struct `id` from number `index` on. -/
def membersFrom (id : Ident) (structLabel : String) :
    Nat → List Ident → Reflecting (List BufferMember)
  | _, [] => return []
  | index, type :: types => do
      let member ← reflector.member id structLabel index.toUInt32 type
      return member :: (← membersFrom id structLabel (index + 1) types)

/-- The layout of a struct. Arrays around it are taken off first, so that all questions are about
the struct itself. -/
def layout (type : Ident) : Reflecting BlockLayout := do
  let info ← ask s!"type %{type}" (reflector.module.typeInfo type)
  let id := info.baseTypeId
  let structLabel := label (reflector.module.name id) id
  let types ← ask s!"struct {structLabel}" (reflector.module.memberTypes id)
  let members ← reflector.membersFrom id structLabel 0 types
  let size ← ask s!"struct {structLabel}" (reflector.module.declaredStructSize id)
  note .trace s!"struct {structLabel}: {members.length} members, {size} bytes"
  return { members, size }

end Reflector

end ShaderInterface
