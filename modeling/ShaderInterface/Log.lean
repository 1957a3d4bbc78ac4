/-!
# Log messages

A computation that notes messages returns its value together with what it noted, in order.
Sequencing concatenates the notes, so a message is never lost, moved or repeated.
-/

namespace ShaderInterface

/-- How urgent a message is, the most urgent first. -/
inductive Level where
  | warn
  | debug
  | trace
  deriving DecidableEq

namespace Level

/-- A smaller rank is more urgent. -/
def rank : Level → Nat
  | .warn => 0
  | .debug => 1
  | .trace => 2

/-- A message of this level is seen by a reader who asks for `threshold` or more urgent. -/
def visibleAt (level threshold : Level) : Bool :=
  level.rank ≤ threshold.rank

end Level

/-- One noted message. -/
structure Entry where
  level : Level
  text : String
  deriving DecidableEq

/-- A value together with the messages noted while it was computed. -/
structure Logged (α : Type) where
  value : α
  log : List Entry

namespace Logged

variable {α β : Type}

@[ext] theorem ext {x y : Logged α} (hvalue : x.value = y.value) (hlog : x.log = y.log) :
    x = y := by
  cases x
  cases y
  simp_all

instance : Monad Logged where
  pure value := ⟨value, []⟩
  bind x next := ⟨(next x.value).value, x.log ++ (next x.value).log⟩

/-- Note one message. -/
def note (level : Level) (text : String) : Logged Unit :=
  ⟨(), [⟨level, text⟩]⟩

/-- The messages that a reader at `threshold` sees, in order. -/
def visible (x : Logged α) (threshold : Level) : List Entry :=
  x.log.filter (·.level.visibleAt threshold)

@[simp] theorem value_pure (value : α) : (pure value : Logged α).value = value := rfl

@[simp] theorem log_pure (value : α) : (pure value : Logged α).log = [] := rfl

@[simp] theorem value_bind (x : Logged α) (next : α → Logged β) :
    (x >>= next).value = (next x.value).value := rfl

@[simp] theorem log_bind (x : Logged α) (next : α → Logged β) :
    (x >>= next).log = x.log ++ (next x.value).log := rfl

@[simp] theorem log_note (level : Level) (text : String) :
    (note level text).log = [⟨level, text⟩] := rfl

instance : LawfulMonad Logged :=
  LawfulMonad.mk' Logged
    (fun _ => Logged.ext rfl (by simp [Functor.map]))
    (fun _ _ => Logged.ext rfl (by simp))
    (fun _ _ _ => Logged.ext rfl (by simp))

end Logged

end ShaderInterface
