import ScriptGraph.Host.FileTree

/-!
# What is written is read

A text that was written to a file is read from it again (`FileTree.read_write`), unless the path
names the sink, and also after the file was made executable (`FileTree.read_makeExecutable`).
Nothing is asked of the tree: where two sequences of names have the same key, a file never takes the
place of a directory, so every directory on the way to the file is still there
(`FileTree.entryAt_put_of_directory`).

A file that can be read can also be written (`FileTree.exists_write`).
-/

namespace ScriptGraph

/-! ## Texts as bytes -/

theorem byteList_loop (bytes : ByteArray) (i : Nat) (front : List UInt8) :
    ByteArray.toList.loop bytes i front = front.reverse ++ bytes.data.toList.drop i := by
  induction i, front using ByteArray.toList.loop.induct bytes with
  | case1 i front hi ih =>
      have hlength : i < bytes.data.toList.length := hi
      have hget : bytes.get! i = bytes.data.toList[i] := getElem!_pos bytes.data i hi
      rw [ByteArray.toList.loop, if_pos hi, ih, List.drop_eq_getElem_cons hlength, hget]
      simp
  | case2 i front hi =>
      have hlength : bytes.data.toList.length ≤ i := Nat.le_of_not_lt hi
      rw [ByteArray.toList.loop, if_neg hi, List.drop_eq_nil_of_le hlength, List.append_nil]

theorem File.text_of_bytes {f : File} {text : String} (h : f.bytes = text.toUTF8.toList) :
    f.text = .ok text := by
  have hbytes : (⟨f.bytes.toArray⟩ : ByteArray) = text.toByteArray := by
    rw [h, ByteArray.toList, byteList_loop]
    simp
  have htext : String.fromUTF8? text.toByteArray = some text := by
    rw [String.fromUTF8?, dif_pos text.isValidUTF8]
    rfl
  rw [File.text, hbytes, htext]

/-! ## Tables -/

theorem Table.get?_set {α : Type} (t : Table α) (key : String) (value : α) (other : String) :
    (t.set key value).get? other = if key = other then some value else t.get? other := by
  obtain ⟨entries, hdistinct⟩ := t
  simp only [Table.get?, Table.set]
  clear hdistinct
  induction entries with
  | nil => by_cases h : key = other <;> simp [setEntries, h]
  | cons entry rest ih =>
      by_cases hentry : entry.1 = key
      · by_cases h : key = other <;> simp [setEntries, hentry, h]
      · by_cases h : entry.1 = other
        · subst h
          simp [setEntries, hentry, Ne.symm hentry]
        · simpa [setEntries, hentry, h] using ih

/-! ## Paths -/

namespace FileTree

variable {tree tree' : FileTree} {names other : List String} {path text : String}

theorem isPrefixOf_eq_false (h : tree.entryAt names ≠ some .directory) :
    names.isPrefixOf tree.workingDirectory = false :=
  Bool.eq_false_iff.mpr fun hinside => h (if_pos hinside)

theorem entryAt_put_self (h : tree.entryAt names ≠ some .directory) (entry : Entry) :
    (tree.put names entry).entryAt names = some entry := by
  simp [entryAt, put, isPrefixOf_eq_false h, Table.get?_set]

/-- A directory is still there after something was put where there was none. -/
theorem entryAt_put_of_directory (h : tree.entryAt names ≠ some .directory) (entry : Entry)
    (hother : tree.entryAt other = some .directory) :
    (tree.put names entry).entryAt other = some .directory := by
  by_cases hinside : other.isPrefixOf tree.workingDirectory = true
  · exact if_pos hinside
  · have hget : tree.entries.get? (key other) = some .directory := by
      rwa [entryAt, if_neg hinside] at hother
    -- under the same key the directory would be what stood there before
    have hkey : key names ≠ key other := by
      intro hkey
      refine h ?_
      rw [entryAt, isPrefixOf_eq_false h, hkey]
      exact hget
    simpa [entryAt, put, hinside, Table.get?_set, hkey] using hget

theorem descend_put (h : tree.entryAt names ≠ some .directory) (entry : Entry)
    {at_ directory : List String} {way : List String}
    (hway : tree.descend at_ way = .ok directory) :
    (tree.put names entry).descend at_ way = .ok directory := by
  induction way generalizing at_ with
  | nil => exact hway
  | cons name way ih =>
      rw [descend] at hway ⊢
      split at hway
      · cases hway
      · rename_i hshort
        rw [if_neg hshort]
        dsimp only at hway ⊢
        split at hway
        · cases hway
        · rename_i hnext
          rw [entryAt_put_of_directory h entry hnext]
          exact ih hway
        · cases hway

theorem resolve_put (h : tree.entryAt names ≠ some .directory) (entry : Entry) {target : Target}
    (hpath : tree.resolve path = .ok target) :
    (tree.put names entry).resolve path = .ok target := by
  unfold resolve at hpath ⊢
  split at hpath
  · cases hpath
  · rename_i hnul
    split at hpath
    · cases hpath
    · rename_i hempty
      split at hpath
      · cases hpath
      · rename_i hlong
        rw [if_neg hnul, if_neg hempty, if_neg hlong]
        cases hdirectory : tree.directoryOf path with
        | error cause =>
            rw [hdirectory] at hpath
            cases hpath
        | ok directory =>
            rw [hdirectory] at hpath
            have hput : (tree.put names entry).directoryOf path = .ok directory :=
              descend_put h entry hdirectory
            rw [hput]
            exact hpath

/-! ## Files -/

/-- What a change of a file that succeeds does: it puts the changed file where the path leads, or
the path names the sink and nothing happens. -/
theorem modify_cases {f : File → File} (h : tree.modify path f = .ok tree') :
    ∃ target, tree.resolve path = .ok target ∧ target.slash = false ∧ target.isTooLong = false ∧
      ((tree.entryAt target.names = some .sink ∧ tree' = tree) ∨
        ∃ old, (tree.entryAt target.names = some (.file old) ∨
            (tree.entryAt target.names = none ∧ old = { bytes := [] })) ∧
          tree' = tree.put target.names (.file (f old))) := by
  unfold modify at h
  split at h
  · cases h
  · rename_i target htarget
    split at h
    · cases h
    · rename_i hslash
      split at h
      · cases h
      · rename_i hlong
        refine ⟨target, htarget, by simpa using hslash, by simpa using hlong, ?_⟩
        split at h
        · cases h
        · rename_i hentry
          cases h
          exact .inl ⟨hentry, rfl⟩
        · rename_i old hentry
          cases h
          exact .inr ⟨old, .inl hentry, rfl⟩
        · rename_i hentry
          cases h
          exact .inr ⟨_, .inr ⟨hentry, rfl⟩, rfl⟩

theorem find_of_resolve {target : Target} (htarget : tree.resolve path = .ok target)
    (hslash : target.slash = false) (hlong : target.isTooLong = false) {entry : Entry}
    (hentry : tree.entryAt target.names = some entry) : tree.find path = .ok entry := by
  cases entry <;> simp [find, htarget, hslash, hlong, hentry]

/-- A file that was changed is found where it was, or where there was none. -/
theorem find_modify {f : File → File} (hsink : tree.find path ≠ .ok .sink)
    (h : tree.modify path f = .ok tree') :
    ∃ old, tree'.find path = .ok (.file (f old)) ∧
      (tree.find path = .ok (.file old) ∨ tree.find path = .error .notFound) := by
  obtain ⟨target, htarget, hslash, hlong, ⟨hentry, -⟩ | ⟨old, hold, rfl⟩⟩ := modify_cases h
  · exact absurd (find_of_resolve htarget hslash hlong hentry) hsink
  · have hdirectory : tree.entryAt target.names ≠ some .directory := by
      rcases hold with hentry | ⟨hentry, -⟩ <;> simp [hentry]
    refine ⟨old, find_of_resolve (resolve_put hdirectory _ htarget) hslash hlong
      (entryAt_put_self hdirectory (.file (f old))), ?_⟩
    rcases hold with hentry | ⟨hentry, -⟩
    · exact .inl (find_of_resolve htarget hslash hlong hentry)
    · exact .inr (by simp [find, htarget, hlong, hentry])

theorem read_of_file {f : File} (h : tree.find path = .ok (.file f)) :
    tree.read path = f.text := by
  simp only [read, fileAt, h]
  rfl

/-- What is written to a file is read from it. -/
theorem read_write (hsink : tree.find path ≠ .ok .sink) (h : tree.write path text = .ok tree') :
    tree'.read path = .ok text := by
  obtain ⟨old, hfind, -⟩ := find_modify hsink h
  rw [read_of_file hfind]
  exact File.text_of_bytes rfl

/-- A file that is made executable keeps its text. -/
theorem read_makeExecutable (hsink : tree.find path ≠ .ok .sink)
    (h : tree.makeExecutable path = .ok tree') (hread : tree.read path = .ok text) :
    tree'.read path = .ok text := by
  obtain ⟨old, hfind, hold | hnone⟩ := find_modify hsink h
  · rw [read_of_file hold] at hread
    rw [read_of_file hfind]
    exact hread
  · simp only [read, fileAt, hnone] at hread
    cases hread

theorem read_of_sink (h : tree.find path = .ok .sink) : tree.read path = .ok "" := by
  have hempty : File.text { bytes := [] } = .ok "" := File.text_of_bytes (by simp)
  simp only [read, fileAt, h]
  exact hempty

/-- A file that is there can be written. -/
theorem exists_write {f : File} (h : tree.find path = .ok (.file f)) (text : String) :
    ∃ tree', tree.write path text = .ok tree' := by
  unfold find at h
  split at h
  · cases h
  · rename_i target htarget
    split at h
    · cases h
    · rename_i hlong
      split at h
      · cases h
      · cases h
      · rename_i entry _ hentry
        split at h
        · cases h
        · rename_i hslash
          cases h
          simp [write, modify, htarget, hlong, hslash, hentry]

end FileTree

end ScriptGraph
