import ScriptGraph.Proofs.Graph.Operations

/-!
# Clashes between ports

A node cannot be put into a graph if one of its ports has an identifier that is taken, or that
another of its ports has.  The first such port is the one reported.  `firstClash?` finds it as it
goes through the ports and adds each one to those that are taken; `firstClash?_eq_some_iff` says
what it finds in terms of the list alone.

Of the taken identifiers only those count that occur in the list (`firstClash?_congr`), and of the
list only those that could clash (`firstClash?_filter`).
-/

namespace ScriptGraph.Graph

/-! ## The first clash -/

theorem firstClash?_congr {taken taken' ids : List PortId}
    (h : ∀ id ∈ ids, (id ∈ taken ↔ id ∈ taken')) :
    firstClash? taken ids = firstClash? taken' ids := by
  induction ids generalizing taken taken' with
  | nil => rfl
  | cons id rest ih =>
      rw [List.forall_mem_cons] at h
      rw [firstClash?, firstClash?]
      by_cases hid : id ∈ taken
      · rw [if_pos hid, if_pos (h.1.mp hid)]
      · rw [if_neg hid, if_neg (mt h.1.mpr hid)]
        refine ih fun other hother => ?_
        rw [List.mem_cons, List.mem_cons, h.2 other hother]

/-- The first clash is the first identifier that is taken or stands further in front. -/
theorem firstClash?_eq_some_iff {taken ids : List PortId} {port : PortId} :
    firstClash? taken ids = some port ↔
      ∃ before after, ids = before ++ port :: after ∧ port ∈ before ++ taken ∧
        before.Nodup ∧ ∀ id ∈ before, id ∉ taken := by
  induction ids generalizing taken with
  | nil => simp [firstClash?]
  | cons id rest ih =>
      rw [firstClash?]
      by_cases hid : id ∈ taken
      · rw [if_pos hid, Option.some.injEq]
        constructor
        · rintro rfl
          exact ⟨[], rest, rfl, hid, List.nodup_nil, fun _ hother => absurd hother List.not_mem_nil⟩
        · rintro ⟨before, after, heq, -, -, hfree⟩
          cases before with
          | nil => exact (List.cons.inj heq).1
          | cons first before =>
              obtain rfl := (List.cons.inj heq).1
              exact absurd hid (hfree id List.mem_cons_self)
      · rw [if_neg hid, ih]
        constructor
        · rintro ⟨before, after, rfl, hport, hdistinct, hfree⟩
          have hnew : id ∉ before := fun hmem => hfree id hmem List.mem_cons_self
          refine ⟨id :: before, after, rfl, ?_, List.nodup_cons.mpr ⟨hnew, hdistinct⟩, ?_⟩
          · simp only [List.mem_append, List.mem_cons] at hport ⊢
            tauto
          · intro other hother hmem
            rcases List.mem_cons.mp hother with rfl | hother
            · exact hid hmem
            · exact hfree other hother (List.mem_cons_of_mem _ hmem)
        · rintro ⟨before, after, heq, hport, hdistinct, hfree⟩
          cases before with
          | nil =>
              obtain rfl := (List.cons.inj heq).1
              exact absurd hport hid
          | cons first before =>
              obtain ⟨rfl, rfl⟩ := List.cons.inj heq
              obtain ⟨hnew, hdistinct⟩ := List.nodup_cons.mp hdistinct
              refine ⟨before, after, rfl, ?_, hdistinct, fun other hother hmem => ?_⟩
              · simp only [List.mem_append, List.mem_cons] at hport ⊢
                tauto
              · rcases List.mem_cons.mp hmem with rfl | hmem
                · exact hnew hother
                · exact hfree other (List.mem_cons_of_mem _ hother) hmem

/-- Identifiers that are neither taken nor repeated may be left out of the search. -/
theorem firstClash?_filter {taken ids : List PortId} {keep : PortId → Bool}
    (hdistinct : (ids.filter fun id => !keep id).Nodup)
    (hfree : ∀ id ∈ ids, keep id = false → id ∉ taken) :
    firstClash? taken ids = firstClash? taken (ids.filter keep) := by
  induction ids generalizing taken with
  | nil => rfl
  | cons id rest ih =>
      rw [List.forall_mem_cons] at hfree
      cases hkeep : keep id with
      | true =>
          have hrest : (rest.filter fun id => !keep id).Nodup := by simpa [hkeep] using hdistinct
          rw [List.filter_cons_of_pos hkeep, firstClash?, firstClash?]
          split
          · rfl
          · refine ih hrest fun other hother hdrop hmem => ?_
            rcases List.mem_cons.mp hmem with rfl | hmem
            · rw [hkeep] at hdrop
              cases hdrop
            · exact hfree.2 other hother hdrop hmem
      | false =>
          -- the search adds `id` to what is taken, where no kept identifier meets it
          have hdistinct : id ∉ rest.filter (fun id => !keep id) ∧
              (rest.filter fun id => !keep id).Nodup := by simpa [hkeep] using hdistinct
          have hnew : id ∉ rest := by
            intro hmem
            exact hdistinct.1 (List.mem_filter.mpr ⟨hmem, by rw [hkeep]; rfl⟩)
          have hnotkept : ¬ keep id = true := by rw [hkeep]; exact Bool.false_ne_true
          rw [List.filter_cons_of_neg hnotkept, firstClash?, if_neg (hfree.1 hkeep),
            ih hdistinct.2 fun other hother hdrop hmem => ?_]
          · refine firstClash?_congr fun other hother => ?_
            have hne : other ≠ id := fun heq => hnew (heq ▸ List.mem_of_mem_filter hother)
            rw [List.mem_cons, or_iff_right hne]
          · rcases List.mem_cons.mp hmem with rfl | hmem
            · exact hnew hother
            · exact hfree.2 other hother hdrop hmem

/-! ## Refused nodes -/

/-- A node is refused for its own identifier, or else for the first of its ports that clashes. -/
theorem WellFormed.insert_eq_error_iff {g : Graph} (h : g.WellFormed) {n : Node}
    {cause : InsertError} :
    g.insert n = .error cause ↔
      n.id ∈ g.nodes.map Node.id ∧ cause = .duplicateNode n.id ∨
      n.id ∉ g.nodes.map Node.id ∧
        ∃ port, firstClash? g.portIds n.portIds = some port ∧ cause = .duplicatePort port := by
  have hnode : (g.node? n.id).isSome = true ↔ n.id ∈ g.nodes.map Node.id := by
    simp [node?, List.find?_isSome]
  unfold Graph.insert
  by_cases htaken : n.id ∈ g.nodes.map Node.id
  · rw [if_pos (hnode.mpr htaken), Except.error.injEq, eq_comm]
    simp [htaken]
  · rw [if_neg (mt hnode.mp htaken), h.map_fst_owners]
    cases firstClash? g.portIds n.portIds with
    | none => simp [htaken]
    | some port => simp [htaken, eq_comm]

theorem WellFormed.portIds_of_insert {g g' : Graph} (h : g.WellFormed) {n : Node}
    (hinsert : g.insert n = .ok g') : g'.portIds = g.portIds ++ n.portIds := by
  have hclear : (n.mapPorts Port.clear).portIds = n.portIds := Node.portIds_mapPorts fun _ => rfl
  obtain ⟨-, rfl⟩ := h.insert_eq_ok_iff.mp hinsert
  rw [portIds_eq_flatMap, portIds_eq_flatMap, List.flatMap_append, List.flatMap_singleton, hclear]

end ScriptGraph.Graph
