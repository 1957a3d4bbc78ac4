import ShaderInterface.Introspection.OfModule
import ShaderInterface.Module.Collect
import ShaderInterface.Reflection.Resources

/-!
# Reflecting a module

A reflection is whole or not at all: it fails with the first category that fails. Resources that
are bound to one slot are legal and only noted.
-/

namespace ShaderInterface

/-- A resource with the slot that it takes. -/
structure Binding where
  slot : Slot
  name : String
  deriving DecidableEq

namespace Reflection

/-- The resources that take a slot, category by category. -/
def bindings (reflection : Reflection) : List Binding :=
  reflection.uniformBuffers.map (fun buffer => ⟨buffer.slot, buffer.name⟩) ++
    reflection.storageBuffers.map (fun buffer => ⟨buffer.slot, buffer.variableName⟩) ++
    reflection.sampledImages.map (fun image => ⟨image.slot, image.name⟩) ++
    reflection.storageImages.map (fun image => ⟨image.slot, image.name⟩)

/-- The note about a resource that takes the slot of an earlier one. -/
def sharedSlotNote (earlier later : Binding) : String :=
  s!"`{earlier.name}` and `{later.name}` share set {later.slot.set}, " ++
    s!"binding {later.slot.binding}"

/-- The notes about the resources that take a slot of an earlier one, each of which names the latest
such. The resources in `taken` come before, the latest first. -/
def sharedSlotNotesFrom (taken : List Binding) : List Binding → List String
  | [] => []
  | binding :: rest =>
      let notes := sharedSlotNotesFrom (binding :: taken) rest
      match taken.find? (·.slot = binding.slot) with
      | some earlier => sharedSlotNote earlier binding :: notes
      | none => notes

/-- The notes about slots that more than one resource takes. -/
def sharedSlotNotes (reflection : Reflection) : List String :=
  sharedSlotNotesFrom [] reflection.bindings

/-- What a reader is told about a reflection. -/
def summary (reflection : Reflection) : String :=
  s!"reflected `{reflection.entryPoint}`: " ++
    s!"{reflection.uniformBuffers.length} uniform buffers, " ++
    s!"{reflection.storageBuffers.length} storage buffers, " ++
    s!"{reflection.pushConstants.length} push constant blocks, " ++
    s!"{reflection.sampledImages.length} sampled images, " ++
    s!"{reflection.storageImages.length} storage images"

end Reflection

namespace Reflector

open Reflecting

variable (reflector : Reflector)

/-- The name and the stage of the first entry point. That there are others is noted. -/
def entryPoint : Reflecting (String × Option Stage) := do
  match ← ask "entry points" reflector.module.entryPoints with
  | [] => return (reflector.options.missingEntryPoint, none)
  | first :: others =>
      if !others.isEmpty then
        note .debug s!"{others.length + 1} entry points; reflecting as `{first.name}`"
      return (first.name, Stage.ofModel? first.model)

/-- The stage inputs if they are asked for. -/
def chosenStageInputs : Reflecting (List StageInput) :=
  if reflector.options.stageInputs then reflector.stageInputs else return []

/-- Reflect a module whose bytes are `code`. -/
def reflect (code : List UInt8) : Reflecting Reflection := do
  let (entryPoint, stage) ← reflector.entryPoint
  let stageInputs ← reflector.chosenStageInputs
  let uniformBuffers ← reflector.uniformBuffers
  let storageBuffers ← reflector.storageBuffers
  let pushConstants ← reflector.pushConstants
  let sampledImages ← reflector.sampledImages
  let storageImages ← reflector.storageImages
  let reflection : Reflection := {
    entryPoint
    stage
    version := reflector.module.version
    code
    uniformBuffers
    storageBuffers
    pushConstants
    sampledImages
    storageImages
    stageInputs }
  reflection.sharedSlotNotes.forM (note .warn)
  note .debug reflection.summary
  return reflection

end Reflector

/-- Something that reads modules, with effects of its own. -/
structure Provider (m : Type → Type) where
  parse : List UInt32 → m (Answer Introspection)

namespace Provider

variable {m : Type → Type} [Monad m]

/-- The provider that also keeps the words of every module it was asked to read, in order. -/
def recording (provider : Provider m) : Provider (StateT (List (List UInt32)) m) where
  parse words := do
    modify (· ++ [words])
    provider.parse words

/-- Reflect a module that the provider reads from words. Bytes that are no whole number of words
are refused before the provider is asked. -/
def reflect [MonadLiftT Logged m] (provider : Provider m) (code : List UInt8)
    (options : ReflectOptions) : ExceptT ReflectError m Reflection := do
  ExceptT.lift (liftM (Logged.note .trace s!"reflect_with(bytes.len(): {code.length})"))
  match Word.pack? code with
  | none => throw (.malformedInput code.length)
  | some words =>
      match ← ExceptT.lift (provider.parse words) with
      | .error error => throw (.parse error.text)
      | .ok module =>
          let reflector : Reflector := { module, options }
          ExceptT.mk (liftM (reflector.reflect code).run)

end Provider

namespace Decoder

variable (decoder : Decoder)

/-- The provider that has words decoded and asks the module in them. -/
def provider : Provider Logged where
  parse words := do
    let result ← (decoder.readWords words).run
    return Module.answer (result.map Module.introspection)

/-- Reflect the module in a sequence of bytes with the usual options. -/
def reflect (code : List UInt8) : Reflecting Reflection :=
  decoder.provider.reflect code {}

end Decoder

end ShaderInterface
