import ShaderInterface.Reflection.Basic

/-!
# The text report of a reflection

A report is a sequence of lines: two headings, and for each category a line that counts its
resources, followed by one line for each of them and one for each of its members.
-/

namespace ShaderInterface

/-- The length of an array behind a name. Nothing is written for a single element. -/
def arraySuffix (length : UInt32) : String :=
  if 1 < length then s!"[{length}]" else ""

namespace BufferMember

/-- The description of a member whose array is written with the given length. -/
def describe (member : BufferMember) (length : UInt32) : String :=
  s!"{member.dataType.text} {member.name}{arraySuffix length}" ++
    s!" (offset {member.offset}, size {member.size})"

/-- The description of a member. -/
def text (member : BufferMember) : String :=
  member.describe member.arrayLength

end BufferMember

/-- The description of a member of a storage block. -/
def StorageMember.text (member : StorageMember) : String :=
  member.describe member.arraySize

/-- The line of a resource. -/
def resourceLine (text : String) : String :=
  "  " ++ text

/-- The line of a member. -/
def memberLine (text : String) : String :=
  "    " ++ text

namespace UniformBuffer

/-- The description of a uniform buffer without its members. -/
def heading (buffer : UniformBuffer) : String :=
  s!"{buffer.name} (set {buffer.slot.set}, binding {buffer.slot.binding}, size {buffer.size})"

/-- Its line and the lines of its members. -/
def lines (buffer : UniformBuffer) : List String :=
  resourceLine buffer.heading :: buffer.members.map (memberLine ·.text)

end UniformBuffer

namespace StorageBuffer

/-- The description of a storage buffer without its members. -/
def heading (buffer : StorageBuffer) : String :=
  s!"{buffer.typeName} {buffer.variableName} (set {buffer.slot.set}, " ++
    s!"binding {buffer.slot.binding}, size {buffer.size}, {buffer.access.text})"

/-- Its line and the lines of its members. -/
def lines (buffer : StorageBuffer) : List String :=
  resourceLine buffer.heading :: buffer.members.map (memberLine ·.text)

end StorageBuffer

namespace PushConstantBlock

/-- The description of a push constant block without its members. -/
def heading (block : PushConstantBlock) : String :=
  s!"{block.name} (size {block.size})"

/-- Its line and the lines of its members. -/
def lines (block : PushConstantBlock) : List String :=
  resourceLine block.heading :: block.members.map (memberLine ·.text)

end PushConstantBlock

/-- The description of an image. -/
def ImageBinding.heading (image : ImageBinding) : String :=
  s!"{image.dataType.text} {image.name} (set {image.slot.set}, binding {image.slot.binding})"

/-- The line of an image. -/
def ImageBinding.lines (image : ImageBinding) : List String :=
  [resourceLine image.heading]

/-- The description of a stage input. -/
def StageInput.heading (input : StageInput) : String :=
  s!"{input.dataType.text} {input.name}{arraySuffix input.arraySize}" ++
    s!" (location {input.location})"

/-- The line of a stage input. -/
def StageInput.lines (input : StageInput) : List String :=
  [resourceLine input.heading]

namespace Reflection

/-- The entry point with its stage, then the version and the length of the module. -/
def headings (reflection : Reflection) : List String :=
  let stage := match reflection.stage with
    | some stage => s!" ({stage.text})"
    | none => ""
  [s!"entry point: {reflection.entryPoint}{stage}",
    s!"version: {reflection.version}, {reflection.code.length} bytes"]

/-- The lines of one category. -/
def category {α : Type} (title : String) (resources : List α) (lines : α → List String) :
    List String :=
  s!"{title}: {resources.length}" :: resources.flatMap lines

/-- The lines of the report. -/
def lines (reflection : Reflection) : List String :=
  reflection.headings ++
    category "uniform buffers" reflection.uniformBuffers UniformBuffer.lines ++
    category "storage buffers" reflection.storageBuffers StorageBuffer.lines ++
    category "push constants" reflection.pushConstants PushConstantBlock.lines ++
    category "sampled images" reflection.sampledImages ImageBinding.lines ++
    category "storage images" reflection.storageImages ImageBinding.lines ++
    category "stage inputs" reflection.stageInputs StageInput.lines

/-- The report, every line ended by a line break. -/
def text (reflection : Reflection) : String :=
  String.join (reflection.lines.map (· ++ "\n"))

end Reflection

end ShaderInterface
