/-!
# Dictionaries in ascending key order

A dictionary is an association list whose keys ascend strictly.  Keys compare
by code point, which is the order of their UTF-8 bytes.  Inserting and erasing
keep the order, so listing a dictionary gives each key once, in ascending
order, whatever the history that built it.
-/

namespace EventRelay

/--
Values filed under text keys, kept in ascending key order by the operations
below.
-/
abbrev Dictionary (α : Type) := List (String × α)

namespace Dictionary

variable {α : Type}

/-- The value that is filed under a key. -/
def find? (key : String) : Dictionary α → Option α
  | [] => none
  | (other, value) :: rest => if key = other then some value else find? key rest

/-- Files a value under a key, replacing the one that was there. -/
def insert (key : String) (value : α) : Dictionary α → Dictionary α
  | [] => [(key, value)]
  | (other, present) :: rest =>
    if key = other then (key, value) :: rest
    else if key < other then (key, value) :: (other, present) :: rest
    else (other, present) :: insert key value rest

/-- Removes what is filed under a key, if there is anything. -/
def erase (key : String) : Dictionary α → Dictionary α
  | [] => []
  | (other, value) :: rest =>
    if key = other then rest else (other, value) :: erase key rest

/--
Files entries one after the other; of entries with one key the last stays.
-/
def ofEntries (entries : List (String × α)) : Dictionary α :=
  entries.foldl (fun dictionary entry => dictionary.insert entry.1 entry.2) []

/-- The values in the order of their keys. -/
def values (dictionary : Dictionary α) : List α :=
  dictionary.map Prod.snd

/-- The keys in ascending order. -/
def keys (dictionary : Dictionary α) : List String :=
  dictionary.map Prod.fst

@[simp]
theorem find?_insert_self
    (key : String) (value : α) (dictionary : Dictionary α) :
    (dictionary.insert key value).find? key = some value := by
  induction dictionary with
  | nil => simp [insert, find?]
  | cons entry rest induction =>
    obtain ⟨other, present⟩ := entry
    by_cases same : key = other
    · simp [insert, find?, same]
    · by_cases before : key < other
        <;> simp [insert, find?, same, before, induction]

/-- Filing under one key leaves the others as they were. -/
theorem find?_insert_of_ne
    {key other : String} (different : other ≠ key) (value : α)
    (dictionary : Dictionary α) :
    (dictionary.insert key value).find? other = dictionary.find? other := by
  induction dictionary with
  | nil => simp [insert, find?, different]
  | cons entry rest induction =>
    obtain ⟨present, content⟩ := entry
    by_cases same : key = present
    · subst same
      simp [insert, find?, different]
    · by_cases before : key < present
      · simp [insert, find?, same, before, different]
      · by_cases here : other = present
          <;> simp [insert, find?, same, before, here, induction]

end Dictionary

end EventRelay
