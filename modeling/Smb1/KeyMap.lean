/-! Finite maps from texts. Entries stay in the order in which their keys were first inserted, and
the first entry of a key counts. -/
namespace Smb1

structure KeyMap (α : Type) where
  entries : List (String × α)
  deriving DecidableEq, Repr

namespace KeyMap

variable {α : Type}

def empty : KeyMap α := ⟨[]⟩

instance : Inhabited (KeyMap α) := ⟨empty⟩

def lookup? (key : String) : List (String × α) → Option α
  | [] => none
  | entry :: rest => if entry.1 = key then some entry.2 else lookup? key rest

def find? (m : KeyMap α) (key : String) : Option α := lookup? key m.entries

def contains (m : KeyMap α) (key : String) : Bool := (m.find? key).isSome

def insertEntry (key : String) (value : α) : List (String × α) → List (String × α)
  | [] => [(key, value)]
  | entry :: rest =>
    if entry.1 = key then (key, value) :: rest else entry :: insertEntry key value rest

def insert (m : KeyMap α) (key : String) (value : α) : KeyMap α :=
  ⟨insertEntry key value m.entries⟩

def erase (m : KeyMap α) (key : String) : KeyMap α := ⟨m.entries.filter (·.1 ≠ key)⟩

def keys (m : KeyMap α) : List String := m.entries.map (·.1)

def ofList (entries : List (String × α)) : KeyMap α :=
  entries.foldl (fun m entry => m.insert entry.1 entry.2) empty

theorem lookup?_insertEntry (key other : String) (value : α) (entries : List (String × α)) :
    lookup? other (insertEntry key value entries) =
      if key = other then some value else lookup? other entries := by
  induction entries with
  | nil => simp [insertEntry, lookup?]
  | cons entry rest ih =>
    simp only [insertEntry, lookup?]
    split <;> grind [lookup?]

@[simp] theorem find?_insert (m : KeyMap α) (key other : String) (value : α) :
    (m.insert key value).find? other = if key = other then some value else m.find? other :=
  lookup?_insertEntry key other value m.entries

theorem insertEntry_insertEntry (key : String) (first second : α) (entries : List (String × α)) :
    insertEntry key second (insertEntry key first entries) = insertEntry key second entries := by
  induction entries with
  | nil => simp [insertEntry]
  | cons entry rest ih => grind [insertEntry]

@[simp] theorem insert_insert (m : KeyMap α) (key : String) (first second : α) :
    (m.insert key first).insert key second = m.insert key second :=
  congrArg mk (insertEntry_insertEntry key first second m.entries)

theorem insertEntry_of_lookup? {key : String} {value : α} {entries : List (String × α)}
    (found : lookup? key entries = some value) : insertEntry key value entries = entries := by
  induction entries with
  | nil => cases found
  | cons entry rest ih => grind [lookup?, insertEntry]

/-- To insert what is there changes nothing. -/
theorem insert_of_find? {m : KeyMap α} {key : String} {value : α}
    (found : m.find? key = some value) : m.insert key value = m :=
  congrArg mk (insertEntry_of_lookup? found)

theorem lookup?_filter (key other : String) (entries : List (String × α)) :
    lookup? other (entries.filter (·.1 ≠ key)) =
      if key = other then none else lookup? other entries := by
  induction entries with
  | nil => simp [lookup?]
  | cons entry rest ih =>
    rw [List.filter_cons]
    grind [lookup?]

@[simp] theorem find?_erase (m : KeyMap α) (key other : String) :
    (m.erase key).find? other = if key = other then none else m.find? other :=
  lookup?_filter key other m.entries

theorem lookup?_isSome (key : String) (entries : List (String × α)) :
    (lookup? key entries).isSome ↔ key ∈ entries.map (·.1) := by
  induction entries with
  | nil => simp [lookup?]
  | cons entry rest ih =>
    by_cases h : entry.1 = key
    · simp [lookup?, h]
    · simp [lookup?, h, ih, Ne.symm h]

theorem mem_keys {m : KeyMap α} {key : String} : key ∈ m.keys ↔ m.contains key :=
  (lookup?_isSome key m.entries).symm

end KeyMap

end Smb1
