import ShaderInterface.Reflection.Report

/-!
# Reports are read line by line

If no name has a line break in it, the lines of a report are found again at its line breaks: two
headings, and for each category a count and the lines of as many resources, each with those of its
members right behind it.
-/

namespace ShaderInterface

/-! ## Texts of one line -/

/-- The text has no line break. -/
def OneLine (text : String) : Prop :=
  '\n' ∉ text.toList

instance (text : String) : Decidable (OneLine text) :=
  inferInstanceAs (Decidable (_ ∉ _))

/-- The pieces of a text between its line breaks. If the last line is ended too, nothing is left
behind it. -/
def piecesOf (text : String) : List String :=
  (text.toList.splitOn '\n').map String.ofList

@[simp] theorem oneLine_append {text more : String} :
    OneLine (text ++ more) ↔ OneLine text ∧ OneLine more := by
  rw [OneLine, String.toList_append, List.mem_append, not_or]
  rfl

@[simp] theorem oneLine_toString {text : String} : OneLine (toString text) ↔ OneLine text :=
  Iff.rfl

/-- Numbers are written in digits. -/
@[simp] theorem oneLine_repr (n : Nat) : OneLine n.repr := by
  intro hbreak
  rw [Nat.toList_repr] at hbreak
  have hdigit := Nat.isDigit_of_mem_toDigits (by decide) (by decide) hbreak
  exact absurd hdigit (by decide)

@[simp] theorem oneLine_word (n : UInt32) : OneLine (toString n) :=
  oneLine_repr n.toNat

@[simp] theorem oneLine_version (version : Version) : OneLine (toString version) := by
  have hmajor : OneLine (toString version.major) := oneLine_repr version.major.toNat
  have hminor : OneLine (toString version.minor) := oneLine_repr version.minor.toNat
  change OneLine s!"{version.major}.{version.minor}"
  simp +decide [hmajor, hminor]

/-- Lines that are ended one after the other are found again. -/
theorem piecesOf_join {lines : List String} (hlines : ∀ line ∈ lines, OneLine line) :
    piecesOf (String.join (lines.map (· ++ "\n"))) = lines ++ [""] := by
  induction lines with
  | nil => rfl
  | cons line rest ih =>
      have hfirst : '\n' ∉ line.toList := hlines line List.mem_cons_self
      have hrest := ih fun later hlater => hlines later (List.mem_cons_of_mem _ hlater)
      have htext : (String.join ((line :: rest).map (· ++ "\n"))).toList =
          line.toList ++ '\n' :: (String.join (rest.map (· ++ "\n"))).toList := by
        simp
      rw [piecesOf, htext, List.splitOn_append_cons_self_of_not_mem hfirst, List.map_cons,
        String.ofList_toList, ← piecesOf, hrest, List.cons_append]

/-! ## What a report lists -/

/-- The lines of resources in their order: one for each, set in by two spaces, and right behind it
one for each of its members, set in by four. -/
inductive ListsResources {α : Type} (heading : α → String) (members : α → List String) :
    List α → List String → Prop where
  | nil : ListsResources heading members [] []
  | cons {resource : α} {resources : List α} {lines : List String}
      (hrest : ListsResources heading members resources lines) :
      ListsResources heading members (resource :: resources)
        (("  " ++ heading resource) :: (members resource).map ("    " ++ ·) ++ lines)

namespace Reflection

variable (reflection : Reflection)

/-- No text that comes from the module or its caller has a line break. -/
structure OneLined : Prop where
  entryPoint : OneLine reflection.entryPoint
  uniformBuffers : ∀ buffer ∈ reflection.uniformBuffers,
    OneLine buffer.name ∧ ∀ member ∈ buffer.members, OneLine member.name
  storageBuffers : ∀ buffer ∈ reflection.storageBuffers,
    OneLine buffer.typeName ∧ OneLine buffer.variableName ∧
      ∀ member ∈ buffer.members, OneLine member.name
  pushConstants : ∀ block ∈ reflection.pushConstants,
    OneLine block.name ∧ ∀ member ∈ block.members, OneLine member.name
  sampledImages : ∀ image ∈ reflection.sampledImages, OneLine image.name
  storageImages : ∀ image ∈ reflection.storageImages, OneLine image.name
  stageInputs : ∀ input ∈ reflection.stageInputs, OneLine input.name

/-- How many resources and inputs there are. -/
def resourceCount : Nat :=
  reflection.uniformBuffers.length + reflection.storageBuffers.length +
    reflection.pushConstants.length + reflection.sampledImages.length +
    reflection.storageImages.length + reflection.stageInputs.length

/-- How many members the blocks have. -/
def memberCount : Nat :=
  (reflection.uniformBuffers.flatMap UniformBuffer.members).length +
    (reflection.storageBuffers.flatMap StorageBuffer.members).length +
    (reflection.pushConstants.flatMap PushConstantBlock.members).length

/-- The lines are two headings and the six categories in their order, each with the number of its
resources before them. -/
def IsReport (lines : List String) : Prop :=
  ∃ first second uniform storage push sampled loaded inputs,
    reflection.headings = [first, second] ∧ lines = [first, second] ++
      s!"uniform buffers: {reflection.uniformBuffers.length}" :: uniform ++
      s!"storage buffers: {reflection.storageBuffers.length}" :: storage ++
      s!"push constants: {reflection.pushConstants.length}" :: push ++
      s!"sampled images: {reflection.sampledImages.length}" :: sampled ++
      s!"storage images: {reflection.storageImages.length}" :: loaded ++
      s!"stage inputs: {reflection.stageInputs.length}" :: inputs ∧
    ListsResources UniformBuffer.heading (·.members.map BufferMember.text)
      reflection.uniformBuffers uniform ∧
    ListsResources StorageBuffer.heading (·.members.map StorageMember.text)
      reflection.storageBuffers storage ∧
    ListsResources PushConstantBlock.heading (·.members.map BufferMember.text)
      reflection.pushConstants push ∧
    ListsResources ImageBinding.heading (fun _ => []) reflection.sampledImages sampled ∧
    ListsResources ImageBinding.heading (fun _ => []) reflection.storageImages loaded ∧
    ListsResources StageInput.heading (fun _ => []) reflection.stageInputs inputs

end Reflection

section Lists

variable {α : Type} {heading : α → String} {members : α → List String} {lines : α → List String}

theorem listsResources_flatMap
    (hlines : ∀ resource, lines resource =
      resourceLine (heading resource) :: (members resource).map memberLine)
    (resources : List α) : ListsResources heading members resources (resources.flatMap lines) := by
  induction resources with
  | nil => exact .nil
  | cons resource rest ih =>
      rw [List.flatMap_cons, hlines, List.cons_append]
      exact .cons ih

theorem ListsResources.length_eq {resources : List α} {listed : List String}
    (hlisted : ListsResources heading members resources listed) :
    listed.length = resources.length + (resources.flatMap members).length := by
  induction hlisted with
  | nil => rfl
  | cons _ ih =>
      simp only [List.length_cons, List.length_append, List.length_map, List.flatMap_cons, ih]
      omega

theorem ListsResources.oneLine {resources : List α} {listed : List String}
    (hlisted : ListsResources heading members resources listed)
    (hresources : ∀ resource ∈ resources,
      OneLine (heading resource) ∧ ∀ text ∈ members resource, OneLine text) :
    ∀ line ∈ listed, OneLine line := by
  induction hlisted with
  | nil => nofun
  | cons _ ih =>
      obtain ⟨⟨hheading, hmembers⟩, hrest⟩ := List.forall_mem_cons.mp hresources
      intro line hline
      rcases List.mem_append.mp hline with hentry | hlater
      · rcases List.mem_cons.mp hentry with rfl | hmember
        · exact oneLine_append.mpr ⟨by decide, hheading⟩
        · obtain ⟨text, htext, rfl⟩ := List.mem_map.mp hmember
          exact oneLine_append.mpr ⟨by decide, hmembers text htext⟩
      · exact ih hrest line hlater

end Lists

/-! ## Only names could break a line -/

theorem DataType.oneLine_text (dataType : DataType) : OneLine dataType.text := by
  cases dataType <;> decide

theorem Stage.oneLine_text (stage : Stage) : OneLine stage.text := by
  cases stage <;> decide

theorem Access.oneLine_text (access : Access) : OneLine access.text := by
  cases access <;> decide

theorem oneLine_arraySuffix (length : UInt32) : OneLine (arraySuffix length) := by
  unfold arraySuffix
  split
  · simp +decide
  · decide

theorem BufferMember.oneLine_describe {member : BufferMember} (hname : OneLine member.name)
    (length : UInt32) : OneLine (member.describe length) := by
  simp +decide [describe, hname, DataType.oneLine_text, oneLine_arraySuffix]

theorem UniformBuffer.oneLine_heading {buffer : UniformBuffer} (hname : OneLine buffer.name) :
    OneLine buffer.heading := by
  simp +decide [heading, hname]

theorem StorageBuffer.oneLine_heading {buffer : StorageBuffer} (htype : OneLine buffer.typeName)
    (hname : OneLine buffer.variableName) : OneLine buffer.heading := by
  simp +decide [heading, htype, hname, Access.oneLine_text]

theorem PushConstantBlock.oneLine_heading {block : PushConstantBlock} (hname : OneLine block.name) :
    OneLine block.heading := by
  simp +decide [heading, hname]

theorem ImageBinding.oneLine_heading {image : ImageBinding} (hname : OneLine image.name) :
    OneLine image.heading := by
  simp +decide [heading, hname, DataType.oneLine_text]

theorem StageInput.oneLine_heading {input : StageInput} (hname : OneLine input.name) :
    OneLine input.heading := by
  simp +decide [heading, hname, DataType.oneLine_text, oneLine_arraySuffix]

namespace Reflection

variable {reflection : Reflection} {lines : List String}

theorem oneLine_of_mem_headings {line : String} (hentry : OneLine reflection.entryPoint)
    (hline : line ∈ reflection.headings) : OneLine line := by
  simp only [headings, List.mem_cons, List.not_mem_nil, or_false] at hline
  rcases hline with rfl | rfl
  · cases reflection.stage with
    | none => simp +decide [hentry]
    | some stage => simp +decide [hentry, Stage.oneLine_text]
  · simp +decide

theorem isReport_lines (reflection : Reflection) : reflection.IsReport reflection.lines := by
  refine ⟨_, _, _, _, _, _, _, _, rfl, rfl, ?_, ?_, ?_, ?_, ?_, ?_⟩
  · exact listsResources_flatMap (fun buffer => by rw [List.map_map]; rfl) _
  · exact listsResources_flatMap (fun buffer => by rw [List.map_map]; rfl) _
  · exact listsResources_flatMap (fun block => by rw [List.map_map]; rfl) _
  · exact listsResources_flatMap (fun _ => rfl) _
  · exact listsResources_flatMap (fun _ => rfl) _
  · exact listsResources_flatMap (fun _ => rfl) _

theorem IsReport.length_eq (hreport : reflection.IsReport lines) :
    lines.length = 8 + reflection.resourceCount + reflection.memberCount := by
  obtain ⟨first, second, uniform, storage, push, sampled, loaded, inputs, -, rfl, huniform,
    hstorage, hpush, hsampled, hloaded, hinputs⟩ := hreport
  have hnone {α : Type} (resources : List α) :
      resources.flatMap (fun _ => ([] : List String)) = [] := by simp
  simp only [List.length_append, List.length_cons, List.length_nil, huniform.length_eq,
    hstorage.length_eq, hpush.length_eq, hsampled.length_eq, hloaded.length_eq,
    hinputs.length_eq, hnone, ← List.map_flatMap, List.length_map, resourceCount, memberCount]
  omega

theorem oneLine_of_mem_counted {title : String} {count : Nat} {listed : List String}
    (htitle : OneLine title) (hlisted : ∀ line ∈ listed, OneLine line) :
    ∀ line ∈ (title ++ toString count) :: listed, OneLine line :=
  List.forall_mem_cons.mpr ⟨oneLine_append.mpr ⟨htitle, oneLine_repr count⟩, hlisted⟩

theorem IsReport.oneLine (hreport : reflection.IsReport lines) (hnames : reflection.OneLined) :
    ∀ line ∈ lines, OneLine line := by
  obtain ⟨first, second, uniform, storage, push, sampled, loaded, inputs, hheadings, rfl,
    huniform, hstorage, hpush, hsampled, hloaded, hinputs⟩ := hreport
  have hheading : ∀ line ∈ [first, second], OneLine line :=
    fun line hline => oneLine_of_mem_headings hnames.entryPoint (hheadings ▸ hline)
  have hmembers {members : List BufferMember} (hnames : ∀ member ∈ members, OneLine member.name) :
      ∀ text ∈ members.map BufferMember.text, OneLine text :=
    List.forall_mem_map.mpr fun member hmember =>
      BufferMember.oneLine_describe (hnames member hmember) _
  have hstored {members : List StorageMember}
      (hnames : ∀ member ∈ members, OneLine member.name) :
      ∀ text ∈ members.map StorageMember.text, OneLine text :=
    List.forall_mem_map.mpr fun member hmember =>
      BufferMember.oneLine_describe (hnames member hmember) _
  simp only [List.forall_mem_append]
  refine ⟨⟨⟨⟨⟨⟨hheading, ?uniform⟩, ?storage⟩, ?push⟩, ?sampled⟩, ?loaded⟩, ?inputs⟩
  case uniform =>
    exact oneLine_of_mem_counted (by decide) (huniform.oneLine fun buffer hbuffer =>
      ⟨UniformBuffer.oneLine_heading (hnames.uniformBuffers buffer hbuffer).1,
        hmembers (hnames.uniformBuffers buffer hbuffer).2⟩)
  case storage =>
    refine oneLine_of_mem_counted (by decide) (hstorage.oneLine fun buffer hbuffer => ?_)
    obtain ⟨htype, hname, hfields⟩ := hnames.storageBuffers buffer hbuffer
    exact ⟨StorageBuffer.oneLine_heading htype hname, hstored hfields⟩
  case push =>
    exact oneLine_of_mem_counted (by decide) (hpush.oneLine fun block hblock =>
      ⟨PushConstantBlock.oneLine_heading (hnames.pushConstants block hblock).1,
        hmembers (hnames.pushConstants block hblock).2⟩)
  case sampled =>
    exact oneLine_of_mem_counted (by decide) (hsampled.oneLine fun image himage =>
      ⟨ImageBinding.oneLine_heading (hnames.sampledImages image himage), nofun⟩)
  case loaded =>
    exact oneLine_of_mem_counted (by decide) (hloaded.oneLine fun image himage =>
      ⟨ImageBinding.oneLine_heading (hnames.storageImages image himage), nofun⟩)
  case inputs =>
    exact oneLine_of_mem_counted (by decide) (hinputs.oneLine fun input hinput =>
      ⟨StageInput.oneLine_heading (hnames.stageInputs input hinput), nofun⟩)

/-- Where no name has a line break, the text of a report is its lines, every one of them ended: two
headings, one line that counts each category, one for each resource and one for each member. -/
theorem text_isReport (hnames : reflection.OneLined) :
    ∃ lines, reflection.text = String.join (lines.map (· ++ "\n")) ∧
      piecesOf reflection.text = lines ++ [""] ∧ reflection.IsReport lines ∧
      lines.length = 8 + reflection.resourceCount + reflection.memberCount := by
  have hreport := isReport_lines reflection
  exact ⟨reflection.lines, rfl, piecesOf_join (hreport.oneLine hnames), hreport, hreport.length_eq⟩

/-- Two blocks with members and one without, an image and an array of inputs. -/
def mixedReport : Reflection where
  entryPoint := "main"
  stage := some .fragment
  version := ⟨1, 3⟩
  code := List.replicate 20 0
  uniformBuffers := [
    { name := "camera", slot := ⟨0, 1⟩, size := 80,
      members := [⟨"tint", .vec4, 0, 16, 1⟩, ⟨"lights", .vec4, 16, 64, 4⟩] },
    { name := "", slot := ⟨0, 2⟩, size := 0, members := [] }]
  storageBuffers := [
    { variableName := "particles", typeName := "Particles", slot := ⟨1, 0⟩, size := 16,
      access := .readOnly, members := [⟨⟨"speed", .float, 0, 4, 1⟩, 8⟩] }]
  sampledImages := [{ name := "albedo", slot := ⟨2, 0⟩, dataType := .float }]
  stageInputs := [{ name := "uv", location := 0, dataType := .vec2, arraySize := 2 }]

theorem text_isReport_mixedReport : mixedReport.OneLined ∧
    piecesOf mixedReport.text = ["entry point: main (fragment)", "version: 1.3, 20 bytes",
      "uniform buffers: 2",
      "  camera (set 0, binding 1, size 80)",
      "    vec4 tint (offset 0, size 16)",
      "    vec4 lights[4] (offset 16, size 64)",
      "   (set 0, binding 2, size 0)",
      "storage buffers: 1",
      "  Particles particles (set 1, binding 0, size 16, readonly)",
      "    float speed[8] (offset 0, size 4)",
      "push constants: 0",
      "sampled images: 1",
      "  float albedo (set 2, binding 0)",
      "storage images: 0",
      "stage inputs: 1",
      "  vec2 uv[2] (location 0)", ""] ∧
    ∃ lines, mixedReport.text = String.join (lines.map (· ++ "\n")) ∧
      piecesOf mixedReport.text = lines ++ [""] ∧ mixedReport.IsReport lines ∧
      lines.length = 16 := by
  have hnames : mixedReport.OneLined := by
    constructor
    all_goals decide
  have hread : piecesOf mixedReport.text = mixedReport.lines ++ [""] :=
    piecesOf_join ((isReport_lines mixedReport).oneLine hnames)
  refine ⟨hnames, ?_, text_isReport hnames⟩
  rw [hread]
  decide +kernel

end Reflection

end ShaderInterface
