/-!
# Tables of facts keyed by identifier

A table is the sequence of its writes, the newest first, and a look-up answers with the newest
write of its key. A later fact about a key therefore replaces an earlier one, and facts about
different keys never influence each other.
-/

namespace ShaderInterface

/-- A finite map that remembers every write, the newest first. -/
structure Table (κ α : Type) where
  writes : List (κ × α)

namespace Table

variable {κ α : Type}

/-- The table in which nothing is recorded. -/
def empty : Table κ α :=
  ⟨[]⟩

instance : Inhabited (Table κ α) :=
  ⟨empty⟩

/-- Record a fact, in place of any earlier one with the same key. -/
def insert (table : Table κ α) (key : κ) (value : α) : Table κ α :=
  ⟨(key, value) :: table.writes⟩

/-- The rows of a list as a table: of two rows with one key the later one counts. -/
def ofRows (rows : List (κ × α)) : Table κ α :=
  ⟨rows.reverse⟩

/-- The number of writes. -/
def size (table : Table κ α) : Nat :=
  table.writes.length

variable [DecidableEq κ]

/-- The newest value recorded under a key. -/
def get? (table : Table κ α) (key : κ) : Option α :=
  (table.writes.find? fun row => decide (row.1 = key)).map Prod.snd

/-- Something is recorded under the key. -/
def contains (table : Table κ α) (key : κ) : Bool :=
  (table.get? key).isSome

@[simp] theorem get?_empty (key : κ) : (empty : Table κ α).get? key = none := rfl

@[simp] theorem get?_insert_self (table : Table κ α) (key : κ) (value : α) :
    (table.insert key value).get? key = some value := by
  simp [get?, insert]

theorem get?_insert_of_ne (table : Table κ α) {key other : κ} (value : α) (hne : key ≠ other) :
    (table.insert key value).get? other = table.get? other := by
  simp [get?, insert, hne]

theorem get?_insert (table : Table κ α) (key other : κ) (value : α) :
    (table.insert key value).get? other =
      if key = other then some value else table.get? other := by
  by_cases h : key = other
  · subst h
    simp
  · simp [get?_insert_of_ne table value h, h]

end Table

end ShaderInterface
