import ScriptGraph.Proofs.Emit.Alike
import ScriptGraph.Proofs.Emit.Comparison

/-!
# Scripts depend on the meaning of a drawing only

Drawings that are alike compile to the same script.  The two compilations are compared step by step:
corresponding nodes write the same lines, and the drafts differ in the identifiers of nodes only,
among the active nodes and in the notices (`Draft.Alike`, `tracks_alike`).  Where the walk asks
whether it is inside of a node already, both sides give the same answer because `ν` is injective on
nodes (`mem_active_iff`).
-/

namespace ScriptGraph

open ScriptGraph.Graph (Twins)

variable {ν : NodeId → NodeId} {ε : EdgeId → EdgeId}

/-! ## What was noticed -/

/-- The same warning about corresponding nodes, whatever their titles. -/
inductive Warning.Alike (ν : NodeId → NodeId) : Warning → Warning → Prop
  | missingStart : Alike ν .missingStart .missingStart
  | missingCondition (node : NodeId) (title title' : String) (construct : Construct) :
      Alike ν (.missingCondition node title construct) (.missingCondition (ν node) title' construct)
  | unregisteredNode (node : NodeId) (tag : String) :
      Alike ν (.unregisteredNode node tag) (.unregisteredNode (ν node) tag)
  | undefinedFunction (node : NodeId) (name : String) :
      Alike ν (.undefinedFunction node name) (.undefinedFunction (ν node) name)

/-- The same notice about corresponding nodes, whatever their titles. -/
inductive Notice.Alike (ν : NodeId → NodeId) : Notice → Notice → Prop
  | warning {w w' : Warning} : w.Alike ν w' → Alike ν (.warning w) (.warning w')
  | revisited (title title' : String) (node : NodeId) :
      Alike ν (.revisited title node) (.revisited title' (ν node))

theorem Notice.Alike.warning? {n n' : Notice} (h : n.Alike ν n') :
    Option.Rel (Warning.Alike ν) n.warning? n'.warning? := by
  cases h with
  | warning hw => exact .some hw
  | revisited => exact .none

/-! ## Drafts -/

/-- Drafts that differ in the identifiers of nodes only.  The first one is inside of the nodes
`active`. -/
structure Draft.Alike (ν : NodeId → NodeId) (active : List NodeId) (d d' : Draft) : Prop where
  width_eq : d'.width = d.width
  depth_eq : d'.depth = d.depth
  buffer_eq : d'.buffer = d.buffer
  main_eq : d'.main = d.main
  functions_eq : d'.functions = d.functions
  declared_eq : d'.declared = d.declared
  notices : List.Forall₂ (Notice.Alike ν) d.notices d'.notices
  active_eq : d.active = active
  active_eq' : d'.active = active.map ν

namespace Draft.Alike

variable {active : List NodeId} {d d' : Draft} (h : d.Alike ν active d')
include h

theorem note {n n' : Notice} (hn : n.Alike ν n') : (d.note n).Alike ν active (d'.note n') :=
  { h with notices := List.rel_append h.notices (.cons hn .nil) }

theorem line (text : String) : (d.line text).Alike ν active (d'.line text) := by
  have hindented : d'.indented text = d.indented text := by
    unfold Draft.indented
    rw [h.width_eq, h.depth_eq]
  unfold Draft.line
  rw [h.buffer_eq, hindented]
  cases hbuffer : d.buffer with
  | main => exact { h with
      buffer_eq := rfl, main_eq := congrArg (· ++ [d.indented text]) h.main_eq }
  | functions => exact { h with
      buffer_eq := rfl, functions_eq := congrArg (· ++ [d.indented text]) h.functions_eq }

theorem current_eq : d'.current = d.current := by
  unfold Draft.current
  rw [h.buffer_eq, h.main_eq, h.functions_eq]

theorem dedent : d.dedent.Alike ν active d'.dedent :=
  { h with depth_eq := congrArg (· - 1) h.depth_eq }

theorem declare (name : String) : (d.declare name).Alike ν active (d'.declare name) := by
  unfold Draft.declare
  rw [h.declared_eq]
  split
  · exact h
  · exact { h with declared_eq := rfl }

theorem enter (id : NodeId) : (d.enter id).Alike ν (id :: active) (d'.enter (ν id)) :=
  { h with
    active_eq := congrArg (id :: ·) h.active_eq
    active_eq' := congrArg (ν id :: ·) h.active_eq' }

end Draft.Alike

theorem Draft.Alike.leave {active : List NodeId} {d d' : Draft} {id : NodeId}
    (h : d.Alike ν (id :: active) d') : (d.leave id).Alike ν active (d'.leave (ν id)) :=
  { h with
    active_eq := by rw [Draft.leave, h.active_eq, List.erase_cons_head]
    active_eq' := by rw [Draft.leave, h.active_eq', List.map_cons, List.erase_cons_head] }

/-- Writing the same on behalf of corresponding nodes keeps drafts alike. -/
theorem Draft.keeps_alike (g g' : Graph) (active : List NodeId) :
    Draft.Keeps (Twins ν g g') (Draft.Alike ν active) where
  line h text := h.line text
  functionLine h text := { h with functions_eq := congrArg (· ++ [text]) h.functions_eq }
  assign h name text := { h with }
  indent h := { h with depth_eq := congrArg (· + 1) h.depth_eq }
  endBlock := by
    intro d d' before before' h hbefore
    unfold Draft.endBlock
    rw [h.current_eq, hbefore.current_eq]
    split
    · exact (h.line ":").dedent
    · exact h.dedent
  beginFunction h := { h with depth_eq := rfl, buffer_eq := rfl }
  endFunction h hbefore :=
    { h with depth_eq := hbefore.depth_eq, buffer_eq := hbefore.buffer_eq }
  ask hn h := { h with }
  missingCondition := by
    intro d d' n n' hn h construct
    rw [hn.id_eq]
    exact h.note (.warning (.missingCondition ..))
  undefinedFunction := by
    intro d d' n n' hn h name
    rw [hn.id_eq]
    exact h.note (.warning (.undefinedFunction ..))
  declared_eq h := h.declared_eq

/-! ## Corresponding drawings -/

namespace Drawing

variable {g g' : Graph} (h : g.Alike ν ε g') (hwf : g.WellFormed) (hwf' : g'.WellFormed)
  (palette : Palette)

theorem rel_bind {α β : Type} {R : α → α → Prop} {S : β → β → Prop} {a a' : Option α}
    {f f' : α → Option β} (ha : Option.Rel R a a')
    (hf : ∀ x x', R x x' → Option.Rel S (f x) (f' x')) : Option.Rel S (a.bind f) (a'.bind f') := by
  cases ha with
  | none => exact .none
  | some hx => exact hf _ _ hx

include h in
theorem matches_of_twins {n n' : Node} (ht : Twins ν g g' n n') : n.Matches n' where
  tag_eq := (h.alike ht).tag_eq
  properties_eq := (h.alike ht).properties_eq
  default_eq input := by
    have hport := (h.alike ht).input? input
    generalize n.input? input = port at hport
    generalize n'.input? input = port' at hport
    cases hport with
    | none => rfl
    | some hp => exact hp.1.default_eq
  connected_eq output := by
    have hport := (h.alike ht).output? output
    unfold outputConnected
    generalize n.output? output = port at hport
    generalize n'.output? output = port' at hport
    cases hport with
    | none => rfl
    | some hp => exact hp.1.isConnected_eq

include h hwf hwf'

theorem parallels_of_alike : Parallels ⟨g, palette⟩ ⟨g', palette⟩ (Twins ν g g') where
  palette_eq := rfl
  nodes_match := matches_of_twins h
  source := by
    intro n n' ht input
    refine rel_bind ((h.alike ht).input? input) ?_
    rintro p p' ⟨hpp, hp, hp'⟩
    exact h.sourceOf? hwf hwf' hpp
      (Graph.mem_ports.mpr ⟨n, ht.left_mem, Node.mem_ports_of_mem_inputs hp⟩)
      (Graph.mem_ports.mpr ⟨n', ht.right_mem, Node.mem_ports_of_mem_inputs hp'⟩)
  next := by
    intro n n' ht output
    refine rel_bind ((h.alike ht).output? output) ?_
    rintro p p' ⟨hpp, hp, hp'⟩
    exact h.execTarget? hwf hwf' hpp
      (Graph.mem_ports.mpr ⟨n, ht.left_mem, Node.mem_ports_of_mem_outputs hp⟩)
      (Graph.mem_ports.mpr ⟨n', ht.right_mem, Node.mem_ports_of_mem_outputs hp'⟩)
  successor := by
    intro n n' ht
    refine rel_bind (h.alike ht).execOutput? ?_
    rintro p p' ⟨hpp, hp, hp'⟩
    exact h.execTarget? hwf hwf' hpp
      (Graph.mem_ports.mpr ⟨n, ht.left_mem, Node.mem_ports_of_mem_outputs hp⟩)
      (Graph.mem_ports.mpr ⟨n', ht.right_mem, Node.mem_ports_of_mem_outputs hp'⟩)

theorem corresponds_of_alike : Corresponds ⟨g, palette⟩ ⟨g', palette⟩ (Twins ν g g') :=
  (parallels_of_alike h hwf hwf' palette).corresponds h.length_eq

omit hwf in
/-- Both sides have entered a node, or neither has. -/
theorem mem_active_iff {active : List NodeId} (hactive : active ⊆ g.nodes.map Node.id)
    {n n' : Node} (ht : Twins ν g g' n n') : n'.id ∈ active.map ν ↔ n.id ∈ active := by
  rw [ht.id_eq]
  constructor
  · intro hmem
    obtain ⟨id, hid, heq⟩ := List.mem_map.mp hmem
    obtain ⟨m, hm, rfl⟩ := List.mem_map.mp (hactive hid)
    rwa [← h.id_injOn hwf' hm ht.left_mem heq]
  · exact fun hmem => List.mem_map_of_mem hmem

omit hwf in
/-- Drafts stay alike along a compilation, which is inside of nodes of the drawing only. -/
theorem tracks_alike : Draft.Tracks (Twins ν g g') fun active d d' =>
    d.Alike ν active d' ∧ active ⊆ g.nodes.map Node.id where
  keeps active := (Draft.keeps_alike g g' active).and_const _
  mem_active_iff := by
    rintro active d d' n n' ht ⟨hd, hactive⟩
    rw [hd.active_eq, hd.active_eq']
    exact mem_active_iff h hwf' hactive ht
  enter := by
    rintro active d d' n n' ht ⟨hd, hactive⟩
    rw [ht.id_eq]
    exact ⟨hd.enter n.id, List.cons_subset.mpr ⟨List.mem_map_of_mem ht.left_mem, hactive⟩⟩
  leave := by
    rintro active d d' n n' ht ⟨hd, hactive⟩
    rw [ht.id_eq]
    exact ⟨hd.leave, (List.cons_subset.mp hactive).2⟩
  revisited := by
    rintro active d d' n n' ht ⟨hd, hactive⟩
    rw [ht.id_eq]
    exact ⟨hd.note (.revisited ..), hactive⟩
  unregisteredNode := by
    rintro active d d' n n' ht ⟨hd, hactive⟩
    rw [ht.id_eq, (h.alike ht).tag_eq]
    exact ⟨hd.note (.warning (.unregisteredNode ..)), hactive⟩
  missingStart hd := ⟨hd.1.note (.warning .missingStart), hd.2⟩
  declare hd name := ⟨hd.1.declare name, hd.2⟩

/-- Functions and main part, given that the functions correspond one by one. -/
theorem draft_alike (hstart : Option.Rel (Twins ν g g') g.start? g'.start?)
    (hhoisted : List.Forall₂ (Twins ν g g') (hoisted ⟨g, palette⟩) (hoisted ⟨g', palette⟩))
    (config : Config) :
    Draft.Alike ν [] (draft ⟨g, palette⟩ config) (draft ⟨g', palette⟩ config) := by
  have hcorr := corresponds_of_alike h hwf hwf' palette
  have htracks := tracks_alike h hwf'
  have hdepth : walkDepth ⟨g', palette⟩ = walkDepth ⟨g, palette⟩ := congrArg (· + 1) h.length_eq
  refine (hcorr.draft htracks (fun ht => ?_) hstart hhoisted config ?_).1
  · intro d d' hd
    unfold walk
    rw [hdepth]
    exact hcorr.walkWithin htracks _ [] ht hd
  · exact ⟨⟨rfl, rfl, rfl, rfl, rfl, rfl, .nil, rfl, rfl⟩, List.nil_subset _⟩

omit h hwf hwf' in
theorem twins_of_ids {l l' : List Node} (hl : l ⊆ g.nodes) (hl' : l' ⊆ g'.nodes)
    (hids : l'.map Node.id = l.map fun n => ν n.id) : List.Forall₂ (Twins ν g g') l l' := by
  induction l generalizing l' with
  | nil =>
      obtain rfl := List.map_eq_nil_iff.mp hids
      exact .nil
  | cons n l ih =>
      obtain ⟨n', rest, rfl, hid, hrest⟩ := List.map_eq_cons_iff.mp hids
      obtain ⟨hn, hl⟩ := List.cons_subset.mp hl
      obtain ⟨hn', hl'⟩ := List.cons_subset.mp hl'
      exact .cons ⟨hn, hn', hid⟩ (ih hl hl' hrest)

omit hwf hwf' in
theorem start_twins : Option.Rel (Twins ν g g') g.start? g'.start? := by
  have hids := h.start_eq
  cases hstart : g.start? with
  | none =>
      rw [hstart, Option.map_none, Option.map_eq_none_iff] at hids
      rw [hids]
      exact .none
  | some n =>
      rw [hstart, Option.map_some, Option.map_eq_some_iff] at hids
      obtain ⟨n', hstart', hid⟩ := hids
      rw [hstart']
      exact .some ⟨List.mem_of_find?_eq_some hstart, List.mem_of_find?_eq_some hstart', hid⟩

end Drawing

open Drawing in
/-- Drawings made with the standard palette that are alike have the same script, with the same
warnings about corresponding nodes. -/
theorem script_of_alike {g g' : Graph} (hg : g.Reachable Palette.standard.Has)
    (hg' : g'.Reachable Palette.standard.Has) (h : g.Alike ν ε g') (config : Config) :
    let script := Drawing.compile ⟨g, .standard⟩ config
    let script' := Drawing.compile ⟨g', .standard⟩ config
    script'.text = script.text ∧
      List.Forall₂ (Warning.Alike ν) script.warnings script'.warnings := by
  have hhoisted : List.Forall₂ (Twins ν g g') (hoisted ⟨g, .standard⟩) (hoisted ⟨g', .standard⟩) := by
    rw [(regular_of_reachable hg).hoisted_eq, (regular_of_reachable hg').hoisted_eq]
    exact twins_of_ids (List.filter_subset_self _) (List.filter_subset_self _) h.functions_eq
  have hdraft := draft_alike h hg.sound.wellFormed hg'.sound.wellFormed .standard (start_twins h)
    hhoisted config
  constructor
  · change Script.ofLines (scriptLines config _) = Script.ofLines (scriptLines config _)
    rw [scriptLines, scriptLines, hdraft.functions_eq, hdraft.main_eq]
  · exact List.rel_filterMap (fun _ _ hn => hn.warning?) hdraft.notices

/-! ## Two drawings that mean the same -/

theorem Graph.Reachable.edit {K : NodeKind → Prop} {g : Graph} (h : g.Reachable K) (id : NodeId)
    (title : String) (position : Position) (properties : Properties) :
    (g.updateNode id fun n => n.edit title position properties).Reachable K := by
  obtain ⟨loose, hrun⟩ := h
  exact ⟨loose, hrun.tail (.edit _ id title position properties)⟩

/-- A test without a condition, a call after it, and the function called.  Its greeting comes first,
so the exit that it also drives is never reached. -/
def Graph.untested : Graph :=
  sketch [.start, .branch, .echo, .function, .call, .exit]
    [wire 0 1 3, wire 1 7 15, wire 2 13 9, wire 3 13 18]

/-- The same drawn in another order, with another title. -/
def Graph.untestedAgain : Graph :=
  (sketch [.exit, .call, .echo, .start, .function, .branch]
    [wire 5 13 7, wire 6 19 4, wire 7 13 1, wire 8 11 15]).updateNode ⟨⟨14⟩⟩ fun n =>
      n.edit "Which one?" ⟨100, 50⟩ NodeKind.branch.properties

/-- Identifiers by a table of numbers. -/
def renumber (table : List (Nat × Nat)) (id : Uuid) : Uuid :=
  ⟨BitVec.ofNat 128 ((table.lookup id.bits.toNat).getD 0)⟩

theorem script_of_untestedAgain :
    let ν (id : NodeId) : NodeId :=
      ⟨renumber [(0, 10), (2, 14), (8, 6), (12, 12), (14, 3), (17, 0)] id.uuid⟩
    let ε (id : EdgeId) : EdgeId := ⟨renumber [(0, 8), (1, 6), (2, 5), (3, 7)] id.uuid⟩
    let script := Drawing.compile ⟨.untested, .standard⟩ {}
    let script' := Drawing.compile ⟨.untestedAgain, .standard⟩ {}
    Graph.untested.Reachable Palette.standard.Has ∧
    Graph.untestedAgain.Reachable Palette.standard.Has ∧
    Graph.untested.Alike ν ε .untestedAgain ∧
    script.warnings = [.missingCondition ⟨⟨2⟩⟩ "If" .branch] ∧
    script'.warnings = [.missingCondition ⟨⟨14⟩⟩ "Which one?" .branch] ∧
    script'.text = script.text ∧ List.Forall₂ (Warning.Alike ν) script.warnings script'.warnings := by
  intro ν ε script script'
  have hkinds : ∀ kind ∈ NodeKind.builtin, Palette.standard.Has kind :=
    fun _ => Palette.standard_has_iff.mpr
  have hg : Graph.untested.Reachable Palette.standard.Has := by
    refine Graph.sketch_reachable (fun kind hkind => hkinds kind ?_) _
    revert kind
    simp [NodeKind.builtin, NodeKind.flow, NodeKind.commands, NodeKind.storage]
  have hg' : Graph.untestedAgain.Reachable Palette.standard.Has := by
    refine Graph.Reachable.edit (Graph.sketch_reachable (fun kind hkind => hkinds kind ?_) _) ..
    revert kind
    simp [NodeKind.builtin, NodeKind.flow, NodeKind.commands, NodeKind.storage]
  have halike : Graph.untested.Alike ν ε .untestedAgain :=
    ⟨by decide, by decide, by decide, by decide⟩
  exact ⟨hg, hg', halike, by decide, by decide, script_of_alike hg hg' halike {}⟩

end ScriptGraph
