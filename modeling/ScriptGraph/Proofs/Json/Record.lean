import ScriptGraph.Json.Record
import ScriptGraph.Proofs.Json.Text
import ScriptGraph.Proofs.Palette.Regular

/-!
# Records are read back from their trees

A record is written as an object with exactly the fields that its reader looks for, so the reader
finds a table of them (`exists_record`).  Each field is then read back by itself
(`required?_of_mem`, `optional?_of_mem`), and a list item by item (`list?_map`).
-/

namespace ScriptGraph.Json

/-! ## Fields -/

theorem knownMembers?_map {names : List String} {known : Table Tree} {members : List (String × Tree)}
    (hnames : ∀ member ∈ members, member.1 ∈ names)
    (hdistinct : (known.keys ++ members.map Prod.fst).Nodup) :
    knownMembers? names known (members.map fun (key, value) => (some key, value)) =
      some (members.foldl (fun fields member => fields.set member.1 member.2) known) := by
  induction members generalizing known with
  | nil => rfl
  | cons member members ih =>
      obtain ⟨key, value⟩ := member
      have hnew : key ∉ known.keys := by
        intro hmem
        exact (List.nodup_append.mp hdistinct).2.2 key hmem key List.mem_cons_self rfl
      rw [List.map_cons, knownMembers?, if_pos (hnames _ List.mem_cons_self), if_neg,
        List.foldl_cons]
      · apply ih
        · exact fun member hm => hnames member (List.mem_cons_of_mem _ hm)
        · rw [Table.keys, Table.set_entries_of_notMem hnew]
          simpa [Table.keys] using hdistinct
      · simpa [Table.contains] using hnew

/-- A record with exactly the fields of its reader is read as a table of them. -/
theorem exists_record {tree : Tree} {members : List (String × Tree)} {names : List String}
    (htree : tree = .fields members) (hdistinct : names.Nodup)
    (hkeys : members.map Prod.fst = names) :
    ∃ fields, tree.record? names = some fields ∧ fields.entries = members := by
  subst htree hkeys
  refine ⟨_, knownMembers?_map (fun member hm => ?_) hdistinct, Table.foldl_set_entries hdistinct⟩
  exact List.mem_map_of_mem hm

section

variable {α : Type} {fields : Table Tree} {name : String} {tree : Tree} {read? : Tree → Option α}
  {a : α}

theorem required?_of_mem (hmem : (name, tree) ∈ fields.entries) (hread : read? tree = some a) :
    required? fields name read? = some a := by
  rw [required?, Table.get?_eq_some_iff.mpr hmem, Option.bind_some, hread]

theorem optional?_of_mem (missing : α) (hmem : (name, tree) ∈ fields.entries)
    (hread : read? tree = some a) : optional? fields name missing read? = some a := by
  rw [optional?, Table.get?_eq_some_iff.mpr hmem]
  exact hread

end

/-! ## What stands in a field -/

theorem text?_text (s : String) : (Tree.text s).text? = some s := rfl

theorem nat?_ofNat {n : Nat} (hn : n < UInt64.size) : (Tree.ofNat n).nat? = some n := by
  have hmax : n ≤ maxSignificand := Nat.le_of_lt_succ hn
  change (Numeral.ofNat n).toInt?.bind Int.toNat? = some n
  rw [Numeral.toInt?_ofNat hmax]
  rfl

section

variable {α β : Type}

theorem mapM_map {item? : β → Option α} {f : α → β} {l : List α}
    (h : ∀ a ∈ l, item? (f a) = some a) : (l.map f).mapM item? = some l := by
  induction l with
  | nil => rfl
  | cons a l ih =>
      rw [List.map_cons, List.mapM_cons, h a List.mem_cons_self,
        ih fun b hb => h b (List.mem_cons_of_mem _ hb)]
      rfl

theorem list?_map {item? : Tree → Option α} {toTree : α → Tree} {l : List α}
    (h : ∀ a ∈ l, item? (toTree a) = some a) : Tree.list? item? (.array (l.map toTree)) = some l :=
  mapM_map h

end

end ScriptGraph.Json
