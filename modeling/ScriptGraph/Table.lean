/-!
# Tables in insertion order

A table maps texts to values and remembers the order in which the keys first came in: writing to a
key that is present keeps its place, a new key goes to the end, and erasing keeps the order of the
rest.  Node properties, the palette of node kinds and the variables of a script are such tables.

The keys are distinct by construction, so a table is determined by its list of entries.
-/

namespace ScriptGraph

/-- A map from texts to values that lists its entries in the order their keys were first set. -/
structure Table (α : Type) where
  entries : List (String × α)
  distinct : (entries.map Prod.fst).Nodup

namespace Table

variable {α : Type}

@[ext] theorem ext {s t : Table α} (h : s.entries = t.entries) : s = t := by
  cases s; cases t; cases h; rfl

/-- The table without entries. -/
def empty : Table α := ⟨[], List.nodup_nil⟩

instance : EmptyCollection (Table α) := ⟨empty⟩

instance : Inhabited (Table α) := ⟨empty⟩

/-- The keys in order. -/
def keys (t : Table α) : List String :=
  t.entries.map Prod.fst

/-- The values in the order of their keys. -/
def values (t : Table α) : List α :=
  t.entries.map Prod.snd

/-- The number of entries. -/
def size (t : Table α) : Nat :=
  t.entries.length

def isEmpty (t : Table α) : Bool :=
  t.entries.isEmpty

/-- The value under a key. -/
def get? (t : Table α) (key : String) : Option α :=
  (t.entries.find? fun entry => entry.1 == key).map Prod.snd

def contains (t : Table α) (key : String) : Bool :=
  t.keys.contains key

/-- What `set` does to the list of entries: replace in place, or append. -/
def setEntries (key : String) (value : α) : List (String × α) → List (String × α)
  | [] => [(key, value)]
  | entry :: rest =>
    if entry.1 = key then (key, value) :: rest else entry :: setEntries key value rest

theorem mem_keys_setEntries {key : String} {value : α} {entries : List (String × α)} {x : String} :
    x ∈ (setEntries key value entries).map Prod.fst ↔ x = key ∨ x ∈ entries.map Prod.fst := by
  induction entries with
  | nil => simp [setEntries]
  | cons entry rest ih =>
    by_cases h : entry.1 = key
    · simp [setEntries, h]
    · simp only [setEntries, h, if_false, List.map_cons, List.mem_cons, ih]
      exact ⟨fun h => h.elim (.inr ∘ .inl) (·.elim .inl (.inr ∘ .inr)),
        fun h => h.elim (.inr ∘ .inl) (·.elim .inl (.inr ∘ .inr))⟩

theorem nodup_setEntries {key : String} {value : α} {entries : List (String × α)}
    (h : (entries.map Prod.fst).Nodup) : ((setEntries key value entries).map Prod.fst).Nodup := by
  induction entries with
  | nil => simp [setEntries]
  | cons entry rest ih =>
    rw [List.map_cons, List.nodup_cons] at h
    by_cases hk : entry.1 = key
    · simp only [setEntries, hk, if_true, List.map_cons, List.nodup_cons]
      exact ⟨hk ▸ h.1, h.2⟩
    · simp only [setEntries, hk, if_false, List.map_cons, List.nodup_cons]
      refine ⟨?_, ih h.2⟩
      rw [mem_keys_setEntries]
      rintro (rfl | hmem)
      · exact hk rfl
      · exact h.1 hmem

theorem mem_setEntries {key : String} {value : α} {entries : List (String × α)}
    {entry : String × α} (h : entry ∈ setEntries key value entries) :
    entry = (key, value) ∨ entry ∈ entries := by
  induction entries with
  | nil => exact Or.inl (List.mem_singleton.mp h)
  | cons first rest ih =>
      rw [setEntries] at h
      split at h
      · rcases List.mem_cons.mp h with hnew | hold
        · exact Or.inl hnew
        · exact Or.inr (List.mem_cons_of_mem _ hold)
      · rcases List.mem_cons.mp h with rfl | hold
        · exact Or.inr List.mem_cons_self
        · exact (ih hold).imp_right (List.mem_cons_of_mem _)

/-- Put a value under a key. -/
def set (t : Table α) (key : String) (value : α) : Table α :=
  ⟨setEntries key value t.entries, nodup_setEntries t.distinct⟩

/-- Take a key out. -/
def erase (t : Table α) (key : String) : Table α :=
  ⟨t.entries.filter fun entry => entry.1 != key, t.distinct.sublist (List.filter_sublist.map _)⟩

/-- Set the entries of a list one after the other: of two with the same key the first gives the
place and the last the value. -/
def ofList (entries : List (String × α)) : Table α :=
  entries.foldl (fun t entry => t.set entry.1 entry.2) empty

end Table

end ScriptGraph
