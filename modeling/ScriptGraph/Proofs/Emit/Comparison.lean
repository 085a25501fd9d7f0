import ScriptGraph.Proofs.Emit.Bounds

/-!
# Comparing walks and scripts

Corresponding nodes write the same, one node at a time (`Corresponds.statementWith`).  From there it
is one induction to walks (`Corresponds.walkWithin`), and a few steps more to functions and main
part (`Corresponds.draft`).

A walk enters nodes and leaves them, and it asks whether it is inside of one already.  So the
relation between the two drafts now also says which nodes the first one is inside of, and both sides
must give the same answer about corresponding nodes (`Draft.Tracks`).
-/

namespace ScriptGraph

/-- A relation between drafts of which the first is inside of given nodes.  It is kept whatever a
compilation does on behalf of corresponding nodes. -/
structure Draft.Tracks (N : Node → Node → Prop) (R : List NodeId → Draft → Draft → Prop) :
    Prop where
  keeps : ∀ active, Draft.Keeps N (R active)
  mem_active_iff : ∀ {active d d' n n'}, N n n' → R active d d' →
    (n'.id ∈ d'.active ↔ n.id ∈ d.active)
  enter : ∀ {active d d' n n'}, N n n' → R active d d' →
    R (n.id :: active) (d.enter n.id) (d'.enter n'.id)
  leave : ∀ {active d d' n n'}, N n n' → R (n.id :: active) d d' →
    R active (d.leave n.id) (d'.leave n'.id)
  revisited : ∀ {active d d' n n'}, N n n' → R active d d' →
    R active (d.note (.revisited n.title n.id)) (d'.note (.revisited n'.title n'.id))
  unregisteredNode : ∀ {active d d' n n'}, N n n' → R active d d' →
    R active (d.warn (.unregisteredNode n.id n.tag)) (d'.warn (.unregisteredNode n'.id n'.tag))
  missingStart : ∀ {active d d'}, R active d d' →
    R active (d.warn .missingStart) (d'.warn .missingStart)
  declare : ∀ {active d d'}, R active d d' → ∀ name, R active (d.declare name) (d'.declare name)

/-- The same draft on both sides, where corresponding nodes go by the same names. -/
theorem Draft.tracks_same {N : Node → Node → Prop} (hid : ∀ {n n'}, N n n' → n'.id = n.id)
    (htag : ∀ {n n'}, N n n' → n'.tag = n.tag) (htitle : ∀ {n n'}, N n n' → n'.title = n.title) :
    Draft.Tracks N fun _ d d' => d' = d where
  keeps _ :=
    { line := by rintro d _ rfl text; rfl
      functionLine := by rintro d _ rfl text; rfl
      assign := by rintro d _ rfl name text; rfl
      indent := by rintro d _ rfl; rfl
      endBlock := by rintro d _ before _ rfl rfl; rfl
      beginFunction := by rintro d _ rfl; rfl
      endFunction := by rintro d _ before _ rfl rfl; rfl
      ask := by rintro d _ n n' hn rfl; rw [hid hn]
      missingCondition := by rintro d _ n n' hn rfl construct; rw [hid hn, htitle hn]
      undefinedFunction := by rintro d _ n n' hn rfl name; rw [hid hn]
      declared_eq := by rintro d _ rfl; rfl }
  mem_active_iff := by rintro _ d _ n n' hn rfl; rw [hid hn]
  enter := by rintro _ d _ n n' hn rfl; rw [hid hn]
  leave := by rintro _ d _ n n' hn rfl; rw [hid hn]
  revisited := by rintro _ d _ n n' hn rfl; rw [hid hn, htitle hn]
  unregisteredNode := by rintro _ d _ n n' hn rfl; rw [hid hn, htag hn]
  missingStart := by rintro _ d _ rfl; rfl
  declare := by rintro _ d _ rfl name; rfl

namespace Drawing.Corresponds

variable {D D' : Drawing} {N : Node → Node → Prop} {R : List NodeId → Draft → Draft → Prop}
  (h : D.Corresponds D' N) (hR : Draft.Tracks N R)
include h hR

/-- One step of the walk: what the two sides do inside of corresponding nodes before they go on. -/
theorem turn {walk walk' : Node → Draft → Draft} {active : List NodeId}
    (hwalk : ∀ {m m'}, N m m' → ∀ {d d'}, R active d d' → R active (walk m d) (walk' m' d'))
    {n n' : Node} (hn : N n n') {d d' : Draft} (hd : R active d d') :
    R active (D.turn walk n d).1 (D'.turn walk' n' d').1 ∧
      Option.Rel N (D.turn walk n d).2 (D'.turn walk' n' d').2 := by
  unfold Drawing.turn
  rw [h.behaviour?_eq hn]
  cases D.behaviour? n with
  | none => exact ⟨hR.unregisteredNode hn hd, .none⟩
  | some behaviour =>
      obtain ⟨htext, hdraft⟩ := h.statementWith (hR.keeps active) hwalk hn hd behaviour
      dsimp only
      rw [htext]
      refine ⟨(hR.keeps active).line? hdraft _, ?_⟩
      split
      · exact h.successor hn
      · exact .none

/-- Walks from corresponding nodes keep the relation, with the same bound on both sides. -/
theorem walkWithin (depth : Nat) (active : List NodeId) {n n' : Node} (hn : N n n')
    {d d' : Draft} (hd : R active d d') :
    R active (D.walkWithin depth n d) (D'.walkWithin depth n' d') := by
  induction depth generalizing active n n' d d' with
  | zero => exact hd
  | succ depth ih =>
      have hiff := hR.mem_active_iff hn hd
      rw [walkWithin_succ, walkWithin_succ]
      by_cases hmem : n.id ∈ d.active
      · rw [if_pos hmem, if_pos (hiff.mpr hmem)]
        exact hR.revisited hn hd
      · rw [if_neg hmem, if_neg (mt hiff.mp hmem)]
        -- both walks inside of the node, the nested ones and the one that goes on, are shorter
        obtain ⟨hturn, hnext⟩ := h.turn hR (fun hm => ih _ hm) hn (hR.enter hn hd)
        unfold visit
        generalize D.turn _ n (d.enter n.id) = result at hturn hnext
        generalize D'.turn _ n' (d'.enter n'.id) = result' at hturn hnext
        obtain ⟨inner, next⟩ := result
        obtain ⟨inner', next'⟩ := result'
        apply hR.leave hn
        cases hnext with
        | none => exact hturn
        | some hm => exact ih _ hm hturn

variable (hwalk : ∀ {m m'}, N m m' → ∀ {d d'}, R [] d d' → R [] (D.walk m d) (D'.walk m' d'))
include hwalk

theorem hoist {n n' : Node} (hn : N n n') {d d' : Draft} (hd : R [] d d') :
    R [] (D.hoist n d) (D'.hoist n' d') := by
  unfold Drawing.hoist statement
  rw [h.behaviour?_eq hn]
  cases D.behaviour? n with
  | none => exact hd
  | some behaviour =>
      have hstatement := h.statementWith (hR.keeps []) hwalk hn hd behaviour
      dsimp only
      generalize D.statementWith _ n d behaviour = result at hstatement
      generalize D'.statementWith _ n' d' behaviour = result' at hstatement
      obtain ⟨text, draft⟩ := result
      obtain ⟨text', draft'⟩ := result'
      obtain ⟨rfl, hdraft⟩ := hstatement
      dsimp only
      split
      · exact hdraft
      · split
        · exact hdraft
        · exact (hR.keeps []).functionLine hdraft _

theorem writeFunctions (hhoisted : List.Forall₂ N D.hoisted D'.hoisted) {d d' : Draft}
    (hd : R [] d d') : R [] (D.writeFunctions d) (D'.writeFunctions d') := by
  unfold Drawing.writeFunctions
  refine List.rel_foldl (fun d d' hd n n' hn => ?_) ?_ hhoisted
  · exact h.hoist hR hwalk hn hd
  · refine List.rel_foldl (fun d d' hd n n' hn => ?_) hd hhoisted
    rw [(h.nodes_match hn).functionName_eq]
    exact hR.declare hd _

/-- Functions and main part, given that the functions correspond one by one. -/
theorem draft (hstart : Option.Rel N D.graph.start? D'.graph.start?)
    (hhoisted : List.Forall₂ N D.hoisted D'.hoisted) (config : Config)
    (hempty : R [] { width := config.indentWidth.toNat } { width := config.indentWidth.toNat }) :
    R [] (D.draft config) (D'.draft config) := by
  have hfunctions := h.writeFunctions hR hwalk hhoisted hempty
  unfold Drawing.draft
  generalize D.writeFunctions _ = d at hfunctions
  generalize D'.writeFunctions _ = d' at hfunctions
  unfold writeMain
  generalize D.graph.start? = start at hstart
  generalize D'.graph.start? = start' at hstart
  cases hstart with
  | none => exact hR.missingStart hfunctions
  | some hn =>
      rename_i n n'
      have hfirst := h.successor hn
      dsimp only
      generalize D.successor? n = first at hfirst
      generalize D'.successor? n' = first' at hfirst
      cases hfirst with
      | none => exact hfunctions
      | some hm => exact hwalk hm hfunctions

end Drawing.Corresponds

end ScriptGraph
