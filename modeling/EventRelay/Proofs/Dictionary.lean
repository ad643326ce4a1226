import EventRelay.Dictionary

/-!
# Finding and filing in ascending dictionaries

The keys of a dictionary that was built by filing ascend strictly.  Each key
then occurs once, so an entry is listed exactly if looking for its key finds
its value, and filing exchanges the entry of one key and no other.
-/

namespace EventRelay.Dictionary

variable {α : Type}

/-- The keys ascend strictly. -/
def Ascending (dictionary : Dictionary α) : Prop :=
  dictionary.Pairwise fun left right => left.1 < right.1

theorem ascending_nil : Ascending ([] : Dictionary α) :=
  .nil

private theorem lt_of_not_lt {left right : String} (different : left ≠ right)
    (unordered : ¬left < right) : right < left := by
  apply Decidable.byContradiction
  intro backwards
  exact different (String.le_antisymm (String.not_lt.mp backwards)
    (String.not_lt.mp unordered))

theorem insert_nil (key : String) (value : α) :
    Dictionary.insert key value [] = [(key, value)] := rfl

theorem insert_cons_of_lt
    {key other : String} (before : key < other) (value present : α)
    (rest : Dictionary α) :
    Dictionary.insert key value ((other, present) :: rest) =
      (key, value) :: (other, present) :: rest := by
  have different : key ≠ other := by
    intro same
    exact String.lt_irrefl other (same ▸ before)
  unfold insert
  rw [if_neg different, if_pos before]

theorem insert_cons_of_gt
    {key other : String} (after : other < key) (value present : α)
    (rest : Dictionary α) :
    Dictionary.insert key value ((other, present) :: rest) =
      (other, present) :: rest.insert key value := by
  have different : key ≠ other := by
    intro same
    exact String.lt_irrefl other (same ▸ after)
  have unordered : ¬key < other := by
    intro before
    exact String.lt_irrefl other (String.lt_trans after before)
  conv => lhs; unfold insert
  rw [if_neg different, if_neg unordered]

theorem eq_or_mem_of_mem_insert {key : String} {value : α} {entry : String × α}
    {dictionary : Dictionary α} (member : entry ∈ dictionary.insert key value) :
    entry = (key, value) ∨ entry ∈ dictionary := by
  induction dictionary with
  | nil => exact .inl (List.mem_singleton.mp member)
  | cons first rest induction =>
      obtain ⟨other, present⟩ := first
      unfold insert at member
      split at member
      · rcases List.mem_cons.mp member with here | later
        · exact .inl here
        · exact .inr (List.mem_cons_of_mem _ later)
      · split at member
        · exact List.mem_cons.mp member
        · rcases List.mem_cons.mp member with here | later
          · exact .inr (here ▸ List.mem_cons_self)
          · exact (induction later).imp_right (List.mem_cons_of_mem _)

theorem Ascending.insert
    {dictionary : Dictionary α} (ascending : dictionary.Ascending)
    (key : String) (value : α) :
    Ascending (dictionary.insert key value) := by
  induction dictionary with
  | nil => exact List.pairwise_singleton _ _
  | cons first rest induction =>
      obtain ⟨other, present⟩ := first
      obtain ⟨above, ordered⟩ := List.pairwise_cons.mp ascending
      unfold Dictionary.insert
      split
      · next same =>
          subst same
          exact List.pairwise_cons.mpr ⟨above, ordered⟩
      · next different =>
          split
          · next before =>
              refine List.pairwise_cons.mpr ⟨?_, ascending⟩
              intro entry member
              rcases List.mem_cons.mp member with rfl | later
              · exact before
              · exact String.lt_trans before (above entry later)
          · next unordered =>
              refine List.pairwise_cons.mpr ⟨?_, induction ordered⟩
              intro entry member
              rcases eq_or_mem_of_mem_insert member with rfl | later
              · exact lt_of_not_lt different unordered
              · exact above entry later

/-- What was built by filing one entry after the other is in order. -/
theorem ascending_ofEntries (entries : List (String × α)) :
    Ascending (ofEntries entries) := by
  have filed : ∀ (dictionary : Dictionary α), dictionary.Ascending →
      Ascending
        (entries.foldl (fun dictionary entry => dictionary.insert entry.1
          entry.2) dictionary) := by
    induction entries with
    | nil => exact fun _ ascending => ascending
    | cons entry entries induction =>
        intro dictionary ascending
        exact induction _ (ascending.insert entry.1 entry.2)
  exact filed [] ascending_nil

theorem mem_of_find?
    {dictionary : Dictionary α} {key : String} {value : α}
    (found : dictionary.find? key = some value) :
    (key, value) ∈ dictionary := by
  induction dictionary with
  | nil => cases found
  | cons first rest induction =>
      obtain ⟨other, present⟩ := first
      unfold find? at found
      split at found
      · next same =>
          cases found
          exact same ▸ List.mem_cons_self
      · exact List.mem_cons_of_mem _ (induction found)

/--
In a dictionary that is in order, looking for a key finds exactly what is
listed under it.
-/
theorem Ascending.find?_eq_some_iff {dictionary : Dictionary α}
    (ascending : dictionary.Ascending) {key : String} {value : α} :
    dictionary.find? key = some value ↔ (key, value) ∈ dictionary := by
  refine ⟨mem_of_find?, ?_⟩
  intro member
  induction dictionary with
  | nil => cases member
  | cons first rest induction =>
      obtain ⟨other, present⟩ := first
      obtain ⟨above, ordered⟩ := List.pairwise_cons.mp ascending
      unfold find?
      rcases List.mem_cons.mp member with here | later
      · cases here
        exact if_pos rfl
      · have different : key ≠ other := by
          intro same
          exact String.lt_irrefl other (same ▸ above (key, value) later)
        rw [if_neg different]
        exact induction ordered later

/-- Filing exchanges the entry of one key. -/
theorem Ascending.mem_insert
    {dictionary : Dictionary α} (ascending : dictionary.Ascending)
    {key : String} {value : α} {entry : String × α} :
    entry ∈ dictionary.insert key value ↔
      entry = (key, value) ∨ (entry ∈ dictionary ∧ entry.1 ≠ key) := by
  obtain ⟨other, present⟩ := entry
  rw [← (ascending.insert key value).find?_eq_some_iff]
  by_cases same : other = key
  · subst same
    simp [eq_comm]
  · rw [find?_insert_of_ne same, ascending.find?_eq_some_iff]
    simp [same]

/-! ## Erasing -/

/-- Erasing takes out the entry of one key. -/
theorem Ascending.mem_erase
    {dictionary : Dictionary α} (ascending : dictionary.Ascending)
    {key : String} {entry : String × α} :
    entry ∈ dictionary.erase key ↔ entry ∈ dictionary ∧ entry.1 ≠ key := by
  induction dictionary with
  | nil => simp [erase]
  | cons first rest induction =>
      obtain ⟨other, present⟩ := first
      obtain ⟨above, ordered⟩ := List.pairwise_cons.mp ascending
      unfold erase
      split
      · next same =>
          subst same
          -- No later entry has the key of the first one.
          have later : ∀ entry ∈ rest, entry.1 ≠ key := by
            intro entry member same
            exact String.lt_irrefl key (same ▸ above entry member)
          constructor
          · intro member
            exact ⟨List.mem_cons_of_mem _ member, later entry member⟩
          · rintro ⟨member, different⟩
            rcases List.mem_cons.mp member with rfl | member
            · exact absurd rfl different
            · exact member
      · next different =>
          rw [List.mem_cons, List.mem_cons, induction ordered]
          constructor
          · rintro (rfl | ⟨member, other⟩)
            · exact ⟨.inl rfl, Ne.symm different⟩
            · exact ⟨.inr member, other⟩
          · rintro ⟨rfl | member, other⟩
            · exact .inl rfl
            · exact .inr ⟨member, other⟩

theorem erase_sublist (key : String) (dictionary : Dictionary α) :
    (dictionary.erase key).Sublist dictionary := by
  induction dictionary with
  | nil => exact .slnil
  | cons first rest induction =>
      obtain ⟨other, present⟩ := first
      unfold erase
      split
      · exact List.sublist_cons_self _ rest
      · exact induction.cons_cons _

theorem Ascending.erase
    {dictionary : Dictionary α} (ascending : dictionary.Ascending)
    (key : String) :
    Ascending (dictionary.erase key) :=
  ascending.sublist (erase_sublist key dictionary)

/-- Erasing a key that is not there changes nothing. -/
theorem erase_of_find?_eq_none {key : String} {dictionary : Dictionary α}
    (missing : dictionary.find? key = none) :
    dictionary.erase key = dictionary := by
  induction dictionary with
  | nil => rfl
  | cons first rest induction =>
      obtain ⟨other, present⟩ := first
      unfold find? at missing
      split at missing
      · cases missing
      · next different =>
          unfold erase
          rw [if_neg different, induction missing]

/-- Filing again what is there changes nothing. -/
theorem Ascending.insert_of_find?
    {dictionary : Dictionary α} (ascending : dictionary.Ascending)
    {key : String} {value : α} (found : dictionary.find? key = some value) :
    dictionary.insert key value = dictionary := by
  induction dictionary with
  | nil => cases found
  | cons first rest induction =>
      obtain ⟨other, present⟩ := first
      obtain ⟨above, ordered⟩ := List.pairwise_cons.mp ascending
      unfold find? at found
      split at found
      · next same =>
          cases found
          subst same
          exact if_pos rfl
      · have member := mem_of_find? found
        rw [insert_cons_of_gt (above _ member), induction ordered found]

/-! ## Changing the values -/

variable {β : Type}

/-- The same keys with other values. -/
def mapValues (change : α → β) (dictionary : Dictionary α) : Dictionary β :=
  dictionary.map fun entry => (entry.1, change entry.2)

@[simp]
theorem values_mapValues (change : α → β) (dictionary : Dictionary α) :
    (dictionary.mapValues change).values = dictionary.values.map change := by
  simp [mapValues, values]

theorem find?_mapValues
    (change : α → β) (key : String) (dictionary : Dictionary α) :
    (dictionary.mapValues change).find? key =
      (dictionary.find? key).map change := by
  induction dictionary with
  | nil => rfl
  | cons entry rest induction =>
      obtain ⟨other, present⟩ := entry
      by_cases same : key = other
      · simp [mapValues, find?, same]
      · simpa [mapValues, find?, same] using induction

/-- Filing a value and changing all values may come in either order. -/
theorem mapValues_insert
    (change : α → β) (key : String) (value : α) (dictionary : Dictionary α) :
    Dictionary.mapValues change (dictionary.insert key value) =
      (dictionary.mapValues change).insert key (change value) := by
  induction dictionary with
  | nil => rfl
  | cons entry rest induction =>
      obtain ⟨other, present⟩ := entry
      by_cases same : key = other
      · simp [mapValues, insert, same]
      · by_cases before : key < other
        · simp [mapValues, insert, same, before]
        · simpa [mapValues, insert, same, before] using induction

/-! ## Dictionaries of listed entries -/

/-- What comes after all keys is filed at the end. -/
theorem insert_last
    {key : String} {dictionary : Dictionary α}
    (last : ∀ entry ∈ dictionary, entry.1 < key) (value : α) :
    dictionary.insert key value = dictionary ++ [(key, value)] := by
  induction dictionary with
  | nil => rfl
  | cons first rest induction =>
      obtain ⟨other, present⟩ := first
      rw [List.forall_mem_cons] at last
      rw [insert_cons_of_gt last.1, induction last.2]
      rfl

/-- Entries that are in order are kept as they are. -/
theorem ofEntries_of_ascending {entries : Dictionary α}
    (ascending : entries.Ascending) : ofEntries entries = entries := by
  have filed : ∀ dictionary : Dictionary α,
      Ascending (dictionary ++ entries) →
        entries.foldl (fun dictionary entry => dictionary.insert entry.1
          entry.2) dictionary = dictionary ++ entries := by
    clear ascending
    induction entries with
    | nil => exact fun dictionary _ => (List.append_nil dictionary).symm
    | cons entry entries induction =>
        intro dictionary ascending
        have last : ∀ other ∈ dictionary, other.1 < entry.1 := by
          intro other member
          exact (List.pairwise_append.mp ascending).2.2 other member entry
            List.mem_cons_self
        rw [List.foldl_cons, insert_last last]
        have next := induction (dictionary ++ [entry])
        rw [List.append_assoc, List.singleton_append] at next
        exact next ascending
  exact filed [] ascending

theorem mem_of_mem_ofEntries {entries : List (String × α)} {entry : String × α}
    (member : entry ∈ ofEntries entries) : entry ∈ entries := by
  have filed : ∀ (dictionary : Dictionary α),
      entry ∈
        entries.foldl (fun dictionary entry => dictionary.insert entry.1
          entry.2) dictionary →
        entry ∈ dictionary ∨ entry ∈ entries := by
    clear member
    induction entries with
    | nil => exact fun _ member => .inl member
    | cons next entries induction =>
        intro dictionary member
        rcases induction _ member with earlier | later
        · rcases eq_or_mem_of_mem_insert earlier with here | before
          · exact .inr (here ▸ List.mem_cons_self)
          · exact .inl before
        · exact .inr (List.mem_cons_of_mem next later)
  rcases filed [] member with never | listed
  · cases never
  · exact listed

/-- Entries whose keys all differ are kept one and all. -/
theorem mem_ofEntries_iff
    {entries : List (String × α)} (distinct : (entries.map Prod.fst).Nodup)
    (entry : String × α) :
    entry ∈ ofEntries entries ↔ entry ∈ entries := by
  refine ⟨mem_of_mem_ofEntries, ?_⟩
  intro member
  have filed : ∀ (dictionary : Dictionary α), dictionary.Ascending →
      entry ∈ entries ∨ (entry ∈ dictionary ∧ entry.1 ∉ entries.map Prod.fst) →
        entry ∈
          entries.foldl (fun dictionary entry => dictionary.insert entry.1
            entry.2) dictionary := by
    clear member
    induction entries with
    | nil =>
        rintro dictionary _ (never | ⟨kept, _⟩)
        · cases never
        · exact kept
    | cons next entries induction =>
        obtain ⟨fresh, distinct⟩ := List.nodup_cons.mp distinct
        rintro dictionary ascending cases
        refine induction distinct _ (ascending.insert next.1 next.2) ?_
        rcases cases with listed | ⟨kept, absent⟩
        · rcases List.mem_cons.mp listed with here | later
          · subst here
            exact .inr ⟨ascending.mem_insert.mpr (.inl rfl), fresh⟩
          · exact .inl later
        · rw [List.map_cons, List.mem_cons, not_or] at absent
          exact .inr ⟨ascending.mem_insert.mpr (.inr ⟨kept, absent.1⟩),
            absent.2⟩
  exact filed [] ascending_nil (.inl member)

end EventRelay.Dictionary
