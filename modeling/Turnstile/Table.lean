/-!
# Tables

Values filed under names, at most one under each.  A table is a list of entries;
the order of the entries is of no meaning.

Main definitions and results:

- `Table.get?`, `Table.insert`, `Table.erase`, `Table.filter`.
- `Table.get?_insert`, `Table.get?_erase`, `Table.get?_filter`: what each operation
  does to the values.
- `Table.mem_entries_iff`: the entries are the values under their names.
- `Table.insert_of_get?`, `Table.erase_insert`, `Table.erase_of_get?_eq_none`: when
  the operations undo one another or do nothing.
-/

namespace Turnstile

variable {α : Type}

/-! ## Entry lists -/

/-- The value under a name in a list of entries. -/
def lookup? (name : String) : List (String × α) → Option α
  | [] => none
  | (key, a) :: rest => if key = name then some a else lookup? name rest

/-- Files a value: in place of an older one, or at the end. -/
def fileUnder (name : String) (a : α) : List (String × α) → List (String × α)
  | [] => [(name, a)]
  | (key, b) :: rest => if key = name then (name, a) :: rest else (key, b) :: fileUnder name a rest

/-- Filing a value adds its name and no other. -/
theorem mem_keys_fileUnder (name key : String) (a : α) (l : List (String × α)) :
    key ∈ (fileUnder name a l).map Prod.fst ↔ key = name ∨ key ∈ l.map Prod.fst := by
  induction l with
  | nil => simp [fileUnder]
  | cons entry rest ih =>
      obtain ⟨other, b⟩ := entry
      by_cases h : other = name
      · subst h
        simp [fileUnder]
      · simp only [fileUnder, if_neg h, List.map_cons, List.mem_cons, ih]
        grind

/-- Filing a value keeps the names apart. -/
theorem nodup_fileUnder (name : String) (a : α) {l : List (String × α)}
    (h : (l.map Prod.fst).Nodup) : ((fileUnder name a l).map Prod.fst).Nodup := by
  induction l with
  | nil => simp [fileUnder]
  | cons entry rest ih =>
      obtain ⟨other, b⟩ := entry
      simp only [List.map_cons, List.nodup_cons] at h
      by_cases hname : other = name
      · subst hname
        simp [fileUnder, h]
      · simp only [fileUnder, if_neg hname, List.map_cons, List.nodup_cons, mem_keys_fileUnder]
        exact ⟨by grind, ih h.2⟩

/-- Filing a value changes what is under its name. -/
theorem lookup?_fileUnder (name key : String) (a : α) (l : List (String × α)) :
    lookup? key (fileUnder name a l) = if key = name then some a else lookup? key l := by
  induction l with
  | nil => simp [fileUnder, lookup?, eq_comm]
  | cons entry rest ih =>
      obtain ⟨other, b⟩ := entry
      by_cases h : other = name
      · subst h
        simp only [fileUnder, if_pos, lookup?]
        grind
      · simp only [fileUnder, if_neg h, lookup?, ih]
        grind

/-- With the names apart, an entry is the value under its name. -/
theorem mem_iff_lookup? {name : String} {a : α} {l : List (String × α)}
    (h : (l.map Prod.fst).Nodup) : (name, a) ∈ l ↔ lookup? name l = some a := by
  induction l with
  | nil => simp [lookup?]
  | cons entry rest ih =>
      obtain ⟨other, b⟩ := entry
      simp only [List.map_cons, List.nodup_cons] at h
      by_cases hname : other = name
      · subst hname
        have absent : (other, a) ∉ rest := fun hmem => h.1 (List.mem_map.2 ⟨_, hmem, rfl⟩)
        simp [lookup?, absent, eq_comm]
      · have other_ne : name ≠ other := fun same => hname same.symm
        simp [lookup?, hname, other_ne, ih h.2]

/-- Filing the value that is there already changes nothing. -/
theorem fileUnder_of_lookup? {name : String} {a : α} {l : List (String × α)}
    (h : lookup? name l = some a) : fileUnder name a l = l := by
  induction l with
  | nil => simp [lookup?] at h
  | cons entry rest ih =>
      obtain ⟨other, b⟩ := entry
      by_cases hname : other = name
      · subst hname
        have same : b = a := by simpa [lookup?] using h
        simp [fileUnder, same]
      · have later : lookup? name rest = some a := by simpa [lookup?, hname] using h
        simp only [fileUnder, if_neg hname, ih later]

/-- What is filed under a name is gone once the name is taken out. -/
theorem filter_fileUnder (name : String) (a : α) (l : List (String × α)) :
    (fileUnder name a l).filter (fun entry => entry.1 != name) =
      l.filter fun entry => entry.1 != name := by
  induction l with
  | nil => simp [fileUnder]
  | cons entry rest ih =>
      obtain ⟨other, b⟩ := entry
      by_cases hname : other = name
      · subst hname
        simp [fileUnder]
      · simp only [fileUnder, if_neg hname, List.filter_cons, ih]

/-! ## Tables -/

/-- Values filed under names, at most one under each. -/
structure Table (α : Type) where
  entries : List (String × α)
  nodup : (entries.map Prod.fst).Nodup

namespace Table

/-- The table without entries. -/
def empty : Table α := ⟨[], List.nodup_nil⟩

/-- The value under a name. -/
def get? (table : Table α) (name : String) : Option α :=
  lookup? name table.entries

/-- Files a value under a name, in place of an older one. -/
def insert (table : Table α) (name : String) (a : α) : Table α :=
  ⟨fileUnder name a table.entries, nodup_fileUnder name a table.nodup⟩

/-- Keeps the entries that pass a test. -/
def filter (table : Table α) (keep : String → α → Bool) : Table α :=
  ⟨table.entries.filter fun (name, a) => keep name a,
    table.nodup.sublist (List.filter_sublist.map _)⟩

/-- Takes away the entry under a name. -/
def erase (table : Table α) (name : String) : Table α :=
  table.filter fun key _ => key != name

/-- The number of entries. -/
def size (table : Table α) : Nat :=
  table.entries.length

/-- Two tables with the same entries are the same. -/
@[ext] theorem ext {s t : Table α} (h : s.entries = t.entries) : s = t := by
  cases s
  cases t
  cases h
  rfl

@[simp] theorem get?_empty (name : String) : (empty : Table α).get? name = none := rfl

/-- Filing a value changes what is under its name and nothing else. -/
theorem get?_insert (table : Table α) (name key : String) (a : α) :
    (table.insert name a).get? key = if key = name then some a else table.get? key :=
  lookup?_fileUnder name key a table.entries

/-- The entries are the values under their names. -/
theorem mem_entries_iff (table : Table α) (name : String) (a : α) :
    (name, a) ∈ table.entries ↔ table.get? name = some a :=
  mem_iff_lookup? table.nodup

/-- A test keeps the values that pass it. -/
theorem get?_filter (table : Table α) (keep : String → α → Bool) (name : String) :
    (table.filter keep).get? name = (table.get? name).filter (keep name) := by
  apply Option.ext
  intro a
  rw [← mem_entries_iff, Option.filter_eq_some_iff, ← mem_entries_iff]
  simp [filter]

/-- Taking an entry away empties its name and no other. -/
theorem get?_erase (table : Table α) (name key : String) :
    (table.erase name).get? key = if key = name then none else table.get? key := by
  rw [erase, get?_filter]
  by_cases h : key = name
  · simp [h, Option.filter]
    split <;> rfl
  · simp [h, Option.filter]
    split <;> simp_all

/-- Filing the value that is there already changes nothing. -/
theorem insert_of_get? {table : Table α} {name : String} {a : α}
    (h : table.get? name = some a) : table.insert name a = table := by
  apply Table.ext
  exact fileUnder_of_lookup? h

/-- What is filed under a name is gone once the name is taken out. -/
theorem erase_insert (table : Table α) (name : String) (a : α) :
    (table.insert name a).erase name = table.erase name := by
  apply Table.ext
  exact filter_fileUnder name a table.entries

/-- Taking out a name that has no value changes nothing. -/
theorem erase_of_get?_eq_none {table : Table α} {name : String}
    (h : table.get? name = none) : table.erase name = table := by
  apply Table.ext
  refine List.filter_eq_self.mpr fun entry hentry => ?_
  have absent : entry.1 ≠ name := by
    intro same
    have filed : table.get? entry.1 = some entry.2 := (table.mem_entries_iff _ _).mp hentry
    rw [same, h] at filed
    contradiction
  simpa using absent

end Table

end Turnstile
