import ScriptGraph.Json.Value
import ScriptGraph.Proofs.Json.Text

/-!
# Values are read back from their trees

Not every value survives being written.  An integer must fit into 64 bits, or it comes back as a
floating-point number; the keys of a map must be in ascending order, because that is how they come
back; and it must not nest too deeply (`Value.Readable`).  Of a floating-point number it is assumed
that its decimal is read back.  Under these conditions a value comes back from its tree
(`Value.Readable.toValue?_toTree`), and its tree can be written.
-/

namespace ScriptGraph.Json

/-! ## Ascending keys -/

section

variable {α : Type}

theorem insertSorted_of_last {key : String} (value : α) {sorted : List (String × α)}
    (hlast : ∀ entry ∈ sorted, entry.1 < key) :
    insertSorted key value sorted = sorted ++ [(key, value)] := by
  induction sorted with
  | nil => rfl
  | cons entry sorted ih =>
      have hlt : entry.1 < key := hlast entry List.mem_cons_self
      have hne : key ≠ entry.1 := by
        rintro rfl
        exact String.lt_irrefl _ hlt
      rw [insertSorted, if_neg (String.lt_asymm hlt), if_neg hne,
        ih fun e he => hlast e (List.mem_cons_of_mem _ he), List.cons_append]

/-- Entries in ascending order stay as they are. -/
theorem sortEntries_of_ascending {entries : List (String × α)}
    (hascending : entries.Pairwise fun a b => a.1 < b.1) : sortEntries entries = entries := by
  -- what is sorted already comes before everything that is left
  suffices hfold : ∀ sorted : List (String × α), (sorted ++ entries).Pairwise (fun a b => a.1 < b.1) →
      entries.foldl (fun sorted entry => insertSorted entry.1 entry.2 sorted) sorted =
        sorted ++ entries from hfold [] hascending
  clear hascending
  induction entries with
  | nil => exact fun sorted _ => (List.append_nil sorted).symm
  | cons entry entries ih =>
      intro sorted hascending
      have hlast : ∀ e ∈ sorted, e.1 < entry.1 := by
        intro e he
        exact (List.pairwise_append.mp hascending).2.2 e he entry List.mem_cons_self
      have hsplit : sorted ++ entry :: entries = (sorted ++ [entry]) ++ entries := by simp
      rw [List.foldl_cons, insertSorted_of_last entry.2 hlast, hsplit]
      rw [hsplit] at hascending
      exact ih _ hascending

end

/-! ## Trees of values -/

theorem itemTrees_eq_map (items : List Value) : itemTrees items = items.map Value.toTree := by
  induction items with
  | nil => rfl
  | cons item items ih => rw [itemTrees, ih, List.map_cons]

theorem entryTrees_eq_map (entries : List (String × Value)) :
    entryTrees entries = entries.map fun entry => (some entry.1, entry.2.toTree) := by
  induction entries with
  | nil => rfl
  | cons entry entries ih =>
      obtain ⟨key, value⟩ := entry
      rw [entryTrees, ih, List.map_cons]

/-- The 64-bit floating-point number of a tree. -/
def Tree.float? : Tree → Option Float
  | .number n => n.toFloat?
  | _ => none

/-- A value that nests at most to a depth and comes back from its text. -/
inductive Value.Readable : Nat → Value → Prop
  | null {depth : Nat} : Readable depth .null
  | bool {depth : Nat} (b : Bool) : Readable depth (.bool b)
  | int {depth : Nat} {i : Int} : -0x8000000000000000 ≤ i → i ≤ maxSignificand →
      Readable depth (.int i)
  | float {depth : Nat} {f : Float} : Tree.float? (.ofFloat f) = some f → Readable depth (.float f)
  | text {depth : Nat} (s : String) : Readable depth (.text s)
  | list {depth : Nat} {items : List Value} : (∀ item ∈ items, Readable depth item) →
      Readable (depth + 1) (.list items)
  | dict {depth : Nat} {entries : List (String × Value)} :
      entries.Pairwise (fun a b => a.1 < b.1) → (∀ entry ∈ entries, Readable depth entry.2) →
      Readable (depth + 1) (.dict entries)

theorem writable_floatTree (format : Decimal.BinaryFormat) (layout : NumberLayout) (bits : Nat) :
    (floatTree format layout bits).Writable := by
  rcases floatTree_valid format layout bits with hnull | ⟨n, hnumber, hvalid, -⟩
  · rw [hnull]
    exact .null
  · rw [hnumber]
    exact .number hvalid

theorem writable_ofSingle (f : Float32) : (Tree.ofSingle f).Writable := writable_floatTree ..

theorem Value.writable_toTree {depth : Nat} {v : Value} (h : v.Readable depth) :
    v.toTree.Writable := by
  induction h with
  | null => exact .null
  | bool b => exact .bool b
  | int => exact .number (Numeral.valid_ofInt _)
  | float => exact writable_floatTree _ _ _
  | text s => exact .string s
  | list _ ih =>
      rw [toTree, itemTrees_eq_map]
      exact writable_array ih
  | dict _ _ ih =>
      rw [toTree, entryTrees_eq_map]
      exact writable_object ih

theorem itemValues?_map {depth : Nat} {items : List Value}
    (hitems : ∀ item ∈ items, item.toTree.toValue? depth = some item) :
    itemValues? depth (items.map Value.toTree) = some items := by
  induction items with
  | nil => rfl
  | cons item items ih =>
      rw [List.map_cons, itemValues?, hitems item List.mem_cons_self,
        ih fun other hother => hitems other (List.mem_cons_of_mem _ hother)]

theorem memberValues?_map {depth : Nat} {entries : List (String × Value)}
    (hentries : ∀ entry ∈ entries, entry.2.toTree.toValue? depth = some entry.2) :
    memberValues? depth (entries.map fun entry => (some entry.1, entry.2.toTree)) =
      some entries := by
  induction entries with
  | nil => rfl
  | cons entry entries ih =>
      have hrest := ih fun other hother => hentries other (List.mem_cons_of_mem _ hother)
      simp only [List.map_cons, memberValues?, hentries entry List.mem_cons_self, hrest]

/-- A value comes back from its tree. -/
theorem Value.Readable.toValue?_toTree {depth : Nat} {v : Value} (h : v.Readable depth) :
    v.toTree.toValue? depth = some v := by
  induction h with
  | null => rfl
  | bool b => rfl
  | int hlow hhigh =>
      change Numeral.toValue? (.ofInt _) = _
      rw [Numeral.toValue?, Numeral.toInt?_ofInt hlow hhigh]
  | @float depth f hback =>
      rcases floatTree_valid .double .double f.toBits.toNat with hnull | ⟨n, hnumber, -, hint⟩
      · rw [Tree.ofFloat, hnull] at hback
        cases hback
      · change (Tree.ofFloat f).toValue? depth = _
        rw [Tree.ofFloat, hnumber] at hback ⊢
        change n.toFloat? = some f at hback
        rw [Tree.toValue?, Numeral.toValue?, hint]
        change n.toFloat?.map Value.float = _
        rw [hback, Option.map_some]
  | text s => rfl
  | @list depth items _ ih =>
      rw [toTree, itemTrees_eq_map, Tree.toValue?, itemValues?_map ih, Option.map_some]
  | @dict depth entries hascending _ ih =>
      rw [toTree, entryTrees_eq_map, Tree.toValue?, memberValues?_map ih, Option.map_some,
        sortEntries_of_ascending hascending]

end ScriptGraph.Json
