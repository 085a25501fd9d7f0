import ScriptGraph.Proofs.Document.RoundTrip
import ScriptGraph.Proofs.Graph.Clash

/-!
# Restoring the nodes of any document

A document may be damaged, and then its nodes cannot be restored.  What can be wrong with a record
depends on the records before it (`NodeRecord.Fault`): its kind is unknown, its identifier is taken,
or one of the identifiers that it gives to ports is.

The graph knows nothing of records.  It checks the ports of a node, and of these only some have
identifiers from the record, since a record may list fewer ports than the kind has; the others have
new ones.  New identifiers clash with nothing, so the check comes to the same as one of the restored
identifiers alone (`firstClash?_filter`, `Loaded.firstClash?_eq`).  With this the records can be
followed one by one (`Loaded.restore`) until the first one with a fault (`insertRecords_spec`).
-/

namespace ScriptGraph

/-! ## The ports of a restored node -/

namespace IdSource

/-- The identifiers that ports get next. -/
def nextPorts (ids : IdSource) (count : Nat) : List PortId :=
  (List.range' ids.drawn count).map fun i => ⟨ids.sequence i⟩

theorem mem_nextPorts {ids : IdSource} {count : Nat} {port : PortId} :
    port ∈ ids.nextPorts count ↔
      ∃ i, ids.drawn ≤ i ∧ i < ids.drawn + count ∧ port = ⟨ids.sequence i⟩ := by
  simp only [nextPorts, List.mem_map, List.mem_range'_1, and_assoc, eq_comm]

theorem nextPorts_append (ids : IdSource) (a b : Nat) :
    ids.nextPorts a ++ (ids.skip a).nextPorts b = ids.nextPorts (a + b) := by
  rw [nextPorts, nextPorts, nextPorts, ← List.range'_append_1, List.map_append]
  rfl

theorem nextPorts_nodup {ids : IdSource} {count : Nat}
    (hdistinct : ∀ i j, ids.drawn ≤ i → i < j → j < ids.drawn + count →
      ids.sequence i ≠ ids.sequence j) : (ids.nextPorts count).Nodup := by
  have hmap : ids.nextPorts count = (ids.upcoming count).map fun id => ⟨id.uuid⟩ := by
    rw [upcoming, List.map_map]
    rfl
  rw [hmap]
  refine (upcoming_nodup hdistinct).map fun a b heq => ?_
  exact congrArg EdgeId.mk (congrArg PortId.uuid heq)

theorem forEach_snd_eq {α : Type} (ids : IdSource) (l : List α) :
    (ids.forEach l).2 = ids.skip l.length := by
  induction l generalizing ids with
  | nil => rfl
  | cons a rest ih =>
      rw [forEach, ih, List.length_cons, Nat.add_comm, ← skip_skip]
      rfl

theorem forEach_map_fst {α : Type} (ids : IdSource) (l : List α) :
    (ids.forEach l).1.map (fun pair => (⟨pair.1⟩ : PortId)) = ids.nextPorts l.length := by
  induction l generalizing ids with
  | nil => rfl
  | cons a rest ih =>
      rw [forEach, List.map_cons, ih]
      rfl

end IdSource

theorem NodeKind.instantiate_inputs_id (kind : NodeKind) (ids : IdSource) :
    (kind.instantiate ids).1.inputs.map Port.id = (ids.skip 1).nextPorts kind.inputs.length := by
  rw [← IdSource.forEach_map_fst]
  exact List.map_map

theorem NodeKind.instantiate_outputs_id (kind : NodeKind) (ids : IdSource) :
    (kind.instantiate ids).1.outputs.map Port.id =
      (ids.skip (1 + kind.inputs.length)).nextPorts kind.outputs.length := by
  rw [← IdSource.skip_skip, ← IdSource.forEach_snd_eq, ← IdSource.forEach_map_fst]
  exact List.map_map

/-- Saved identifiers come first, as far as there are ports, and the ports left over keep theirs. -/
theorem Node.adoptIds_map (saved : List PortId) (ports : List Port) :
    (adoptIds saved ports).map Port.id =
      saved.take ports.length ++ (ports.map Port.id).drop saved.length := by
  induction saved generalizing ports with
  | nil => cases ports <;> rfl
  | cons id saved ih =>
      cases ports with
      | nil => rfl
      | cons p ports => simp [adoptIds, ih]

/-- Saved identifiers stand in front, as far as there are ports. -/
theorem Node.adoptIds_take (saved : List PortId) (ports : List Port) :
    ((adoptIds saved ports).map Port.id).take saved.length =
      saved.take (adoptIds saved ports).length := by
  induction saved generalizing ports with
  | nil => cases ports <;> rfl
  | cons id saved ih =>
      cases ports with
      | nil => rfl
      | cons p ports => simpa [adoptIds] using ih ports

/-- Whether a kind can have made a node does not depend on the edges at its ports. -/
theorem Node.OfKind.of_clear {n : Node} {kind : NodeKind}
    (h : (n.mapPorts Port.clear).OfKind kind) : n.OfKind kind where
  ports_own p hp := h.ports_own p.clear (by simpa using ⟨p, hp, rfl⟩)
  inputs_receive p hp := h.inputs_receive p.clear (List.mem_map_of_mem hp)
  outputs_send p hp := h.outputs_send p.clear (List.mem_map_of_mem hp)
  tag_eq := h.tag_eq
  inputs_eq := by simpa [Function.comp_def, Port.clear] using h.inputs_eq
  outputs_eq := by simpa [Function.comp_def, Port.clear] using h.outputs_eq

/-- A relation to the elements of a list, if it only depends on how they look. -/
theorem forall₂_of_map_eq {α β γ : Type} {R : α → β → Prop} {f : β → γ}
    (hR : ∀ a b b', R a b → f b' = f b → R a b') {l : List α} {m m' : List β}
    (h : List.Forall₂ R l m) (hsame : m'.map f = m.map f) : List.Forall₂ R l m' := by
  induction h generalizing m' with
  | nil =>
      obtain rfl := List.map_eq_nil_iff.mp hsame
      exact .nil
  | cons hfirst _ ih =>
      obtain ⟨b, rest, rfl, hb, hrest⟩ := List.map_eq_cons_iff.mp hsame
      exact .cons (hR _ _ _ hfirst hb) (ih hrest)

namespace NodeRecord

/-- The identifiers that a record gives back to the ports of a node of some kind, inputs first.
Those that it lists beyond the ports of the kind are not used. -/
def restored (r : NodeRecord) (kind : NodeKind) : List PortId :=
  (r.inputs.map PortRecord.id).take kind.inputs.length ++
    (r.outputs.map PortRecord.id).take kind.outputs.length

/-- The identifiers that records give back to ports. -/
def allRestored (palette : Palette) (records : List NodeRecord) : List PortId :=
  records.flatMap fun r => (palette.get? r.tag).elim [] r.restored

/-- How many identifiers are drawn to make nodes for records. -/
def demand (palette : Palette) : List NodeRecord → Nat
  | [] => 0
  | r :: records =>
    (palette.get? r.tag).elim 0 (fun kind => 1 + kind.inputs.length + kind.outputs.length) +
      demand palette records

/-- The ports of a restored node have the identifiers of the record, as far as these go, and new
ones. -/
theorem restore_portIds (r : NodeRecord) (kind : NodeKind) (ids : IdSource) :
    (r.restore (kind.instantiate ids).1).portIds =
      ((r.inputs.map PortRecord.id).take kind.inputs.length ++
        ((ids.skip 1).nextPorts kind.inputs.length).drop r.inputs.length) ++
      ((r.outputs.map PortRecord.id).take kind.outputs.length ++
        ((ids.skip (1 + kind.inputs.length)).nextPorts kind.outputs.length).drop
          r.outputs.length) := by
  have hids : ∀ ports : List Port,
      (ports.map fun p => { p with node := r.id }).map Port.id = ports.map Port.id :=
    fun ports => List.map_map
  have hof := kind.instantiate_ofKind ids
  have hin : (kind.instantiate ids).1.inputs.length = kind.inputs.length := by
    rw [← hof.inputs_eq, List.length_map]
  have hout : (kind.instantiate ids).1.outputs.length = kind.outputs.length := by
    rw [← hof.outputs_eq, List.length_map]
  change (Node.adoptIds _ _ ++ Node.adoptIds _ _).map Port.id = _
  rw [List.map_append, Node.adoptIds_map, Node.adoptIds_map]
  simp only [Node.withId, Node.mapPorts_inputs, Node.mapPorts_outputs, hids, List.length_map, hin,
    hout, kind.instantiate_inputs_id, kind.instantiate_outputs_id]

section

variable {r : NodeRecord} {kind : NodeKind} {ids : IdSource}

/-- Leaving out what was drawn leaves what was restored. -/
theorem filter_restore_portIds {keep : PortId → Bool}
    (hrestored : ∀ port ∈ r.restored kind, keep port = true)
    (hdrawn : ∀ port ∈ (ids.skip 1).nextPorts (kind.inputs.length + kind.outputs.length),
      keep port = false) :
    (r.restore (kind.instantiate ids).1).portIds.filter keep = r.restored kind ∧
      ((r.restore (kind.instantiate ids).1).portIds.filter fun port => !keep port).Sublist
        ((ids.skip 1).nextPorts (kind.inputs.length + kind.outputs.length)) := by
  rw [restored, List.forall_mem_append] at hrestored
  rw [← IdSource.nextPorts_append, IdSource.skip_skip, List.forall_mem_append] at hdrawn
  obtain ⟨hin, hout⟩ := hrestored
  obtain ⟨hnewIn, hnewOut⟩ := hdrawn
  have hnone : ∀ {l : List PortId} (count : Nat), (∀ port ∈ l, keep port = false) →
      (l.drop count).filter keep = [] ∧
        (l.drop count).filter (fun port => !keep port) = l.drop count := by
    intro l count hl
    have hdrop := fun port hport => hl port (List.mem_of_mem_drop (i := count) hport)
    constructor
    · exact List.filter_eq_nil_iff.mpr fun port hport => by simp [hdrop port hport]
    · exact List.filter_eq_self.mpr fun port hport => by simp [hdrop port hport]
  have hall : ∀ {l : List PortId}, (∀ port ∈ l, keep port = true) →
      l.filter keep = l ∧ l.filter (fun port => !keep port) = [] := by
    intro l hl
    constructor
    · exact List.filter_eq_self.mpr hl
    · exact List.filter_eq_nil_iff.mpr fun port hport => by simp [hl port hport]
  rw [restore_portIds]
  simp only [List.filter_append, (hall hin).1, (hall hin).2, (hall hout).1, (hall hout).2,
    (hnone _ hnewIn).1, (hnone _ hnewIn).2, (hnone _ hnewOut).1, (hnone _ hnewOut).2,
    List.append_nil, List.nil_append]
  refine ⟨rfl, ?_⟩
  rw [← IdSource.nextPorts_append, IdSource.skip_skip]
  exact (List.drop_sublist _ _).append (List.drop_sublist _ _)

theorem restored_subset : r.restored kind ⊆ (r.restore (kind.instantiate ids).1).portIds := by
  intro port hport
  rw [restore_portIds]
  simp only [restored, List.mem_append] at hport ⊢
  tauto

theorem mem_restore_portIds {port : PortId}
    (hport : port ∈ (r.restore (kind.instantiate ids).1).portIds) :
    port ∈ r.restored kind ∨
      port ∈ (ids.skip 1).nextPorts (kind.inputs.length + kind.outputs.length) := by
  rw [restore_portIds] at hport
  rw [← IdSource.nextPorts_append, IdSource.skip_skip]
  simp only [restored, List.mem_append] at hport ⊢
  rcases hport with (hin | hnew) | (hout | hnew)
  · exact Or.inl (Or.inl hin)
  · exact Or.inr (Or.inl (List.mem_of_mem_drop hnew))
  · exact Or.inl (Or.inr hout)
  · exact Or.inr (Or.inr (List.mem_of_mem_drop hnew))

end

/-! ## What can be wrong with a record -/

/-- Something is wrong with a record that comes after others. -/
def Faulty (palette : Palette) (earlier : List NodeRecord) (r : NodeRecord) : Prop :=
  palette.get? r.tag = none ∨ r.id ∈ earlier.map NodeRecord.id ∨
    ∃ kind before port after, palette.get? r.tag = some kind ∧
      r.restored kind = before ++ port :: after ∧
      (port ∈ before ∨ port ∈ allRestored palette earlier)

/-- What is wrong with a record that comes after others: the kind counts before the identifier of
the node, and this before those of the ports, of which the first one counts. -/
inductive Fault (palette : Palette) (earlier : List NodeRecord) (r : NodeRecord) :
    LoadError → Prop
  | unknownKind : palette.get? r.tag = none → Fault palette earlier r (.unknownKind r.tag)
  | duplicateNode {kind : NodeKind} : palette.get? r.tag = some kind →
      r.id ∈ earlier.map NodeRecord.id → Fault palette earlier r (.insert (.duplicateNode r.id))
  | duplicatePort {kind : NodeKind} {before after : List PortId} {port : PortId} :
      palette.get? r.tag = some kind → r.id ∉ earlier.map NodeRecord.id →
      r.restored kind = before ++ port :: after → port ∈ before ++ allRestored palette earlier →
      before.Nodup → (∀ other ∈ before, other ∉ allRestored palette earlier) →
      Fault palette earlier r (.insert (.duplicatePort port))

section

variable {palette : Palette} {earlier : List NodeRecord} {r : NodeRecord} {kind : NodeKind}

/-- The faults of a record whose kind is known, in terms of the first clash. -/
theorem fault_iff (hkind : palette.get? r.tag = some kind) {cause : LoadError} :
    r.Fault palette earlier cause ↔
      r.id ∈ earlier.map NodeRecord.id ∧ cause = .insert (.duplicateNode r.id) ∨
      r.id ∉ earlier.map NodeRecord.id ∧
        ∃ port, Graph.firstClash? (allRestored palette earlier) (r.restored kind) = some port ∧
          cause = .insert (.duplicatePort port) := by
  constructor
  · intro hfault
    cases hfault with
    | unknownKind hnone =>
        rw [hkind] at hnone
        cases hnone
    | duplicateNode _ hid => exact Or.inl ⟨hid, rfl⟩
    | duplicatePort hkind' hid hsplit hport hdistinct hfree =>
        obtain rfl := Option.some.inj (hkind.symm.trans hkind')
        refine Or.inr ⟨hid, _, ?_, rfl⟩
        exact Graph.firstClash?_eq_some_iff.mpr ⟨_, _, hsplit, hport, hdistinct, hfree⟩
  · rintro (⟨hid, rfl⟩ | ⟨hid, port, hclash, rfl⟩)
    · exact .duplicateNode hkind hid
    · obtain ⟨before, after, hsplit, hport, hdistinct, hfree⟩ :=
        Graph.firstClash?_eq_some_iff.mp hclash
      exact .duplicatePort hkind hid hsplit hport hdistinct hfree

/-- A record has one fault at most. -/
theorem Fault.unique {cause cause' : LoadError} (h : r.Fault palette earlier cause)
    (h' : r.Fault palette earlier cause') : cause = cause' := by
  cases hkind : palette.get? r.tag with
  | none =>
      cases h <;> cases h' <;> simp_all
  | some kind =>
      rw [fault_iff hkind] at h h'
      rcases h with ⟨hid, rfl⟩ | ⟨hid, port, hclash, rfl⟩
      · rcases h' with ⟨-, rfl⟩ | ⟨hnot, -⟩
        · rfl
        · exact absurd hid hnot
      · rcases h' with ⟨hnot, -⟩ | ⟨-, port', hclash', rfl⟩
        · exact absurd hnot hid
        · rw [Option.some.inj (hclash.symm.trans hclash')]

theorem exists_fault_iff : (∃ cause, r.Fault palette earlier cause) ↔ r.Faulty palette earlier := by
  constructor
  · rintro ⟨cause, hfault⟩
    cases hfault with
    | unknownKind hnone => exact Or.inl hnone
    | duplicateNode _ hid => exact Or.inr (Or.inl hid)
    | duplicatePort hkind _ hsplit hport =>
        exact Or.inr (Or.inr ⟨_, _, _, _, hkind, hsplit, List.mem_append.mp hport⟩)
  · intro hfaulty
    cases hkind : palette.get? r.tag with
    | none => exact ⟨_, .unknownKind hkind⟩
    | some kind =>
        by_cases hid : r.id ∈ earlier.map NodeRecord.id
        · exact ⟨_, .duplicateNode hkind hid⟩
        · rcases hfaulty with hnone | htaken | ⟨kind', before, port, after, hkind', hsplit, hport⟩
          · rw [hkind] at hnone
            cases hnone
          · exact absurd htaken hid
          · obtain rfl := Option.some.inj (hkind.symm.trans hkind')
            cases hclash : Graph.firstClash? (allRestored palette earlier) (r.restored kind) with
            | some first => exact ⟨_, (fault_iff hkind).mpr (Or.inr ⟨hid, first, hclash, rfl⟩)⟩
            | none =>
                -- without a clash the identifiers would be distinct and free
                obtain ⟨hdistinct, hfree⟩ := Graph.firstClash?_eq_none_iff.mp hclash
                rw [hsplit] at hdistinct hfree
                rcases hport with hbefore | htaken
                · exact absurd rfl ((List.nodup_append.mp hdistinct).2.2 port hbefore port
                    List.mem_cons_self)
                · exact absurd htaken (hfree port (by simp))

end

/-! ## One record after the other -/

/-- A node as a record describes it, with the ports of its kind. -/
structure Restores (palette : Palette) (r : NodeRecord) (n : Node) : Prop where
  id_eq : n.id = r.id
  tag_eq : n.tag = r.tag
  title_eq : n.title = r.title
  position_eq : n.position = r.position
  of_kind : ∃ kind, palette.get? r.tag = some kind ∧ n.OfKind kind ∧
    n.properties = r.properties.getD kind.properties
  inputs_restored : (n.inputs.map Port.id).take r.inputs.length =
    (r.inputs.map PortRecord.id).take n.inputs.length
  outputs_restored : (n.outputs.map Port.id).take r.outputs.length =
    (r.outputs.map PortRecord.id).take n.outputs.length

/-- A record describes a node no matter which edges are at its ports. -/
theorem Restores.of_clear {palette : Palette} {r : NodeRecord} {n m : Node}
    (h : r.Restores palette n) (hsame : m.mapPorts Port.clear = n.mapPorts Port.clear) :
    r.Restores palette m := by
  have hids : ∀ ports : List Port, (ports.map Port.clear).map Port.id = ports.map Port.id :=
    fun ports => List.map_map
  have hin : m.inputs.map Port.clear = n.inputs.map Port.clear := congrArg Node.inputs hsame
  have hout : m.outputs.map Port.clear = n.outputs.map Port.clear := congrArg Node.outputs hsame
  have hinLength : m.inputs.length = n.inputs.length := by simpa using congrArg List.length hin
  have houtLength : m.outputs.length = n.outputs.length := by simpa using congrArg List.length hout
  obtain ⟨kind, hkind, hof, hproperties⟩ := h.of_kind
  have hof' : (m.mapPorts Port.clear).OfKind kind := by
    rw [hsame]
    exact hof.mapPorts (fun _ => rfl) (fun _ => rfl) (fun _ => rfl)
  exact
    { id_eq := (congrArg Node.id hsame).trans h.id_eq
      tag_eq := (congrArg Node.tag hsame).trans h.tag_eq
      title_eq := (congrArg Node.title hsame).trans h.title_eq
      position_eq := (congrArg Node.position hsame).trans h.position_eq
      of_kind := ⟨kind, hkind, hof'.of_clear, (congrArg Node.properties hsame).trans hproperties⟩
      inputs_restored := by
        rw [← hids m.inputs, hin, hids, hinLength]
        exact h.inputs_restored
      outputs_restored := by
        rw [← hids m.outputs, hout, hids, houtLength]
        exact h.outputs_restored }

/-- The same for all nodes of a graph. -/
theorem restores_of_clear {palette : Palette} {records : List NodeRecord} {nodes nodes' : List Node}
    (h : List.Forall₂ (Restores palette) records nodes)
    (hsame : nodes'.map (·.mapPorts Port.clear) = nodes.map (·.mapPorts Port.clear)) :
    List.Forall₂ (Restores palette) records nodes' :=
  forall₂_of_map_eq (fun _ _ _ hr hclear => hr.of_clear hclear) h hsame

theorem restores_restore {palette : Palette} {r : NodeRecord} {kind : NodeKind}
    (hkind : palette.get? r.tag = some kind) (ids : IdSource) :
    r.Restores palette (r.restore (kind.instantiate ids).1) where
  id_eq := rfl
  tag_eq := Palette.tag_of_get? hkind
  title_eq := rfl
  position_eq := rfl
  of_kind := ⟨kind, hkind, (kind.instantiate_ofKind ids).restore r, rfl⟩
  inputs_restored := by
    rw [← List.length_map PortRecord.id]
    exact Node.adoptIds_take _ _
  outputs_restored := by
    rw [← List.length_map PortRecord.id]
    exact Node.adoptIds_take _ _

/-- What is drawn to make nodes for records differs from each other and from what the records give
back to ports. -/
structure Fresh (palette : Palette) (records : List NodeRecord) (ids : IdSource) : Prop where
  distinct : ∀ i j, ids.drawn ≤ i → i < j → j < ids.drawn + demand palette records →
    ids.sequence i ≠ ids.sequence j
  unused : ∀ i, ids.drawn ≤ i → i < ids.drawn + demand palette records →
    (⟨ids.sequence i⟩ : PortId) ∉ allRestored palette records

/-- A graph in which records have been restored: the ports have the identifiers that the records
give back, and ones drawn since. -/
structure Loaded (palette : Palette) (ids : IdSource) (records : List NodeRecord) (g : Graph)
    (later : IdSource) : Prop where
  wellFormed : g.WellFormed
  edges_eq : g.edges = []
  restores : List.Forall₂ (Restores palette) records g.nodes
  sequence_eq : later.sequence = ids.sequence
  drawn_le : ids.drawn ≤ later.drawn
  restored_subset : allRestored palette records ⊆ g.portIds
  mem_ports : ∀ port ∈ g.portIds, port ∈ allRestored palette records ∨
    ∃ i, ids.drawn ≤ i ∧ i < later.drawn ∧ port = ⟨ids.sequence i⟩

theorem loaded_nil (palette : Palette) (ids : IdSource) : Loaded palette ids [] ∅ ids where
  wellFormed := Graph.wellFormed_empty
  edges_eq := rfl
  restores := .nil
  sequence_eq := rfl
  drawn_le := Nat.le_refl _
  restored_subset := List.nil_subset _
  mem_ports := fun _ hport => absurd hport List.not_mem_nil

theorem allRestored_append_singleton {palette : Palette} {r : NodeRecord} {kind : NodeKind}
    (hkind : palette.get? r.tag = some kind) (earlier : List NodeRecord) :
    allRestored palette (earlier ++ [r]) = allRestored palette earlier ++ r.restored kind := by
  simp [allRestored, hkind]

namespace Loaded

variable {palette : Palette} {ids later : IdSource} {earlier : List NodeRecord} {g : Graph}
  (h : Loaded palette ids earlier g later) {r : NodeRecord} {kind : NodeKind}
  (hkind : palette.get? r.tag = some kind)
include h hkind

/-- One more record, whose node could be put in. -/
theorem restore {g' : Graph}
    (hinsert : g.insert (r.restore (kind.instantiate later).1) = .ok g') :
    Loaded palette ids (earlier ++ [r]) g' (kind.instantiate later).2 := by
  have hof := (kind.instantiate_ofKind later).restore r
  have hwf := h.wellFormed.insert hof.toWellMade hinsert
  have hports := h.wellFormed.portIds_of_insert hinsert
  obtain ⟨-, rfl⟩ := h.wellFormed.insert_eq_ok_iff.mp hinsert
  have hdrawn := kind.instantiate_snd_drawn later
  have hlow := h.drawn_le
  refine
    { wellFormed := hwf
      edges_eq := h.edges_eq
      restores := List.rel_append h.restores (.cons ?_ .nil)
      sequence_eq := (kind.instantiate_snd_sequence later).trans h.sequence_eq
      drawn_le := by omega
      restored_subset := ?_
      mem_ports := ?_ }
  · exact (restores_restore hkind later).of_clear (Node.mapPorts_mapPorts _ _ _)
  · rw [allRestored_append_singleton hkind, hports]
    refine List.append_subset.mpr ⟨?_, ?_⟩
    · exact List.Subset.trans h.restored_subset (List.subset_append_left _ _)
    · exact List.Subset.trans NodeRecord.restored_subset (List.subset_append_right _ _)
  · intro port hport
    rw [hports] at hport
    rw [allRestored_append_singleton hkind, List.mem_append]
    rcases List.mem_append.mp hport with hold | hnew
    · rcases h.mem_ports port hold with hrestored | ⟨i, hi, hi', rfl⟩
      · exact Or.inl (Or.inl hrestored)
      · exact Or.inr ⟨i, hi, by omega, rfl⟩
    · rcases mem_restore_portIds hnew with hrestored | hnext
      · exact Or.inl (Or.inr hrestored)
      · obtain ⟨i, hi, hi', rfl⟩ := IdSource.mem_nextPorts.mp hnext
        have hi : later.drawn + 1 ≤ i := hi
        have hi' : i < later.drawn + 1 + (kind.inputs.length + kind.outputs.length) := hi'
        exact Or.inr ⟨i, by omega, by omega, congrArg PortId.mk (congrFun h.sequence_eq i)⟩

variable {records : List NodeRecord} (hfresh : Fresh palette records ids)
  (hsub : allRestored palette (earlier ++ [r]) ⊆ allRestored palette records)
  (hbound : later.drawn + (1 + kind.inputs.length + kind.outputs.length) ≤
    ids.drawn + demand palette records)
include hfresh hsub hbound

/-- The graph finds a clash among the ports of the new node exactly where the record has one. -/
theorem firstClash?_eq :
    Graph.firstClash? g.portIds (r.restore (kind.instantiate later).1).portIds =
      Graph.firstClash? (allRestored palette earlier) (r.restored kind) := by
  rw [allRestored_append_singleton hkind, List.append_subset] at hsub
  have hlow := h.drawn_le
  have hnext : ∀ port ∈ (later.skip 1).nextPorts (kind.inputs.length + kind.outputs.length),
      ∃ i, later.drawn < i ∧ i < ids.drawn + demand palette records ∧
        port = ⟨ids.sequence i⟩ := by
    intro port hport
    obtain ⟨i, hi, hi', rfl⟩ := IdSource.mem_nextPorts.mp hport
    have hi : later.drawn + 1 ≤ i := hi
    have hi' : i < later.drawn + 1 + (kind.inputs.length + kind.outputs.length) := hi'
    exact ⟨i, by omega, by omega, congrArg PortId.mk (congrFun h.sequence_eq i)⟩
  have hrestored : ∀ port ∈ r.restored kind,
      decide (port ∉ ids.nextPorts (demand palette records)) = true := by
    intro port hport
    refine decide_eq_true fun hmem => ?_
    obtain ⟨i, hi, hi', rfl⟩ := IdSource.mem_nextPorts.mp hmem
    exact hfresh.unused i hi hi' (hsub.2 hport)
  have hdrawn : ∀ port ∈ (later.skip 1).nextPorts (kind.inputs.length + kind.outputs.length),
      decide (port ∉ ids.nextPorts (demand palette records)) = false := by
    intro port hport
    obtain ⟨i, hi, hi', rfl⟩ := hnext port hport
    refine decide_eq_false fun hnot => hnot ?_
    exact IdSource.mem_nextPorts.mpr ⟨i, by omega, hi', rfl⟩
  -- what was drawn is left out first, then what earlier nodes have drawn
  obtain ⟨hfilter, hsublist⟩ := filter_restore_portIds hrestored hdrawn
  rw [Graph.firstClash?_filter (hsublist.nodup ?_) ?_, hfilter]
  · refine Graph.firstClash?_congr fun port hport => ⟨fun hmem => ?_, fun hmem => ?_⟩
    · rcases h.mem_ports port hmem with hearlier | ⟨i, hi, hi', rfl⟩
      · exact hearlier
      · exact absurd (hsub.2 hport) (hfresh.unused i hi (by omega))
    · exact h.restored_subset hmem
  · refine IdSource.nextPorts_nodup fun i j hi hij hj => ?_
    have hi : later.drawn + 1 ≤ i := hi
    have hj : j < later.drawn + 1 + (kind.inputs.length + kind.outputs.length) := hj
    change later.sequence i ≠ later.sequence j
    rw [h.sequence_eq]
    exact hfresh.distinct i j (by omega) hij (by omega)
  · intro port hport hnew hmem
    rcases mem_restore_portIds hport with hback | hdrawn
    · rw [hrestored port hback] at hnew
      cases hnew
    · obtain ⟨j, hj, hj', rfl⟩ := hnext port hdrawn
      rcases h.mem_ports _ hmem with hearlier | ⟨i, hi, hi', heq⟩
      · exact hfresh.unused j (by omega) hj' (hsub.1 hearlier)
      · exact hfresh.distinct i j hi (by omega) hj' (congrArg PortId.uuid heq).symm

/-- The node of a record can be put in unless the record has a fault. -/
theorem fault_iff_refused {cause : LoadError} :
    r.Fault palette earlier cause ↔
      ∃ refusal, g.insert (r.restore (kind.instantiate later).1) = .error refusal ∧
        cause = .insert refusal := by
  have hids : g.nodes.map Node.id = earlier.map NodeRecord.id := by
    have hsame : List.Forall₂ (fun a b => a = b) (g.nodes.map Node.id)
        (earlier.map NodeRecord.id) := by
      rw [List.forall₂_map_left_iff, List.forall₂_map_right_iff]
      exact h.restores.flip.imp fun n r hr => hr.id_eq
    exact List.forall₂_eq_eq_eq ▸ hsame
  have hclash := h.firstClash?_eq hkind hfresh hsub hbound
  have hid : (r.restore (kind.instantiate later).1).id = r.id := rfl
  simp only [fault_iff hkind, h.wellFormed.insert_eq_error_iff, hclash, hids, hid]
  constructor
  · rintro (⟨hmem, rfl⟩ | ⟨hmem, port, hport, rfl⟩)
    · exact ⟨_, Or.inl ⟨hmem, rfl⟩, rfl⟩
    · exact ⟨_, Or.inr ⟨hmem, port, hport, rfl⟩, rfl⟩
  · rintro ⟨_, ⟨hmem, rfl⟩ | ⟨hmem, port, hport, rfl⟩, rfl⟩
    · exact Or.inl ⟨hmem, rfl⟩
    · exact Or.inr ⟨hmem, port, hport, rfl⟩

end Loaded

/-! ## Up to the first fault -/

/-- The record at a place has a fault, after those before it. -/
def FaultAt (palette : Palette) (records : List NodeRecord) (i : Nat) (cause : LoadError) : Prop :=
  ∃ r, records[i]? = some r ∧ r.Fault palette (records.take i) cause

/-- The fault of the first record that has one. -/
def FirstFault (palette : Palette) (records : List NodeRecord) (cause : LoadError) : Prop :=
  ∃ i, FaultAt palette records i cause ∧ ∀ j < i, ∀ other, ¬ FaultAt palette records j other

theorem faultAt_append {palette : Palette} {earlier rest : List NodeRecord} {r : NodeRecord}
    {cause : LoadError} :
    FaultAt palette (earlier ++ r :: rest) earlier.length cause ↔
      r.Fault palette earlier cause := by
  simp [FaultAt]

/-- There is one first fault at most. -/
theorem FirstFault.unique {palette : Palette} {records : List NodeRecord} {cause cause' : LoadError}
    (h : FirstFault palette records cause) (h' : FirstFault palette records cause') :
    cause = cause' := by
  obtain ⟨i, hfault, hfirst⟩ := h
  obtain ⟨j, hfault', hfirst'⟩ := h'
  rcases lt_trichotomy i j with hlt | rfl | hgt
  · exact absurd hfault (hfirst' i hlt cause)
  · obtain ⟨r, hr, hfault⟩ := hfault
    obtain ⟨r', hr', hfault'⟩ := hfault'
    obtain rfl := Option.some.inj (hr.symm.trans hr')
    exact hfault.unique hfault'
  · exact absurd hfault' (hfirst j hgt cause')

theorem allRestored_subset {palette : Palette} {some all : List NodeRecord} (h : some ⊆ all) :
    allRestored palette some ⊆ allRestored palette all := by
  intro port hport
  obtain ⟨r, hr, hmem⟩ := List.mem_flatMap.mp hport
  exact List.mem_flatMap.mpr ⟨r, h hr, hmem⟩

/-- The rest of the records is restored up to the first fault, or as a whole if there is none. -/
theorem Loaded.insertRecords {palette : Palette} {ids later : IdSource}
    {records earlier rest : List NodeRecord} (hfresh : Fresh palette records ids) {g : Graph}
    (h : Loaded palette ids earlier g later) (hsplit : records = earlier ++ rest)
    (hbound : later.drawn + demand palette rest ≤ ids.drawn + demand palette records)
    (hclear : ∀ j < earlier.length, ∀ cause, ¬ FaultAt palette records j cause) :
    (∃ cause, ScriptGraph.insertRecords palette g later rest = .error cause ∧
      FirstFault palette records cause) ∨
    (∃ g' last, ScriptGraph.insertRecords palette g later rest = .ok (g', last) ∧
      Loaded palette ids records g' last) ∧
      ∀ j cause, ¬ FaultAt palette records j cause := by
  induction rest generalizing earlier g later with
  | nil =>
      rw [List.append_nil] at hsplit
      subst hsplit
      refine Or.inr ⟨⟨g, later, rfl, h⟩, fun j cause hfault => ?_⟩
      by_cases hj : j < records.length
      · exact hclear j hj cause hfault
      · obtain ⟨r, hr, -⟩ := hfault
        rw [List.getElem?_eq_none (Nat.le_of_not_lt hj)] at hr
        cases hr
  | cons r rest ih =>
      -- whatever is wrong here is the first fault, as the earlier records are clear
      have hhere : ∀ cause, FaultAt palette records earlier.length cause ↔
          r.Fault palette earlier cause := by
        intro cause
        rw [hsplit]
        exact faultAt_append
      rw [ScriptGraph.insertRecords, toNode?]
      cases hkind : palette.get? r.tag with
      | none =>
          exact Or.inl ⟨_, rfl, _, (hhere _).mpr (.unknownKind hkind), hclear⟩
      | some kind =>
          rw [demand, hkind] at hbound
          have hbound : later.drawn + (1 + kind.inputs.length + kind.outputs.length +
            demand palette rest) ≤ ids.drawn + demand palette records := hbound
          have hsplit' : records = earlier ++ [r] ++ rest := by
            rw [hsplit, List.append_assoc, List.singleton_append]
          have hsub : allRestored palette (earlier ++ [r]) ⊆ allRestored palette records := by
            rw [hsplit']
            exact allRestored_subset (List.subset_append_left _ _)
          have hfault : ∀ cause, r.Fault palette earlier cause ↔
              ∃ refusal, g.insert (r.restore (kind.instantiate later).1) = .error refusal ∧
                cause = .insert refusal :=
            fun cause => h.fault_iff_refused hkind hfresh hsub (by omega)
          simp only [Option.map_some]
          cases hinsert : g.insert (r.restore (kind.instantiate later).1) with
          | error refusal =>
              refine Or.inl ⟨_, rfl, _, (hhere _).mpr ((hfault _).mpr ?_), hclear⟩
              exact ⟨refusal, hinsert, rfl⟩
          | ok next =>
              refine ih (h.restore hkind hinsert) hsplit' ?_ ?_
              · rw [kind.instantiate_snd_drawn]
                omega
              · intro j hj cause hbad
                rw [List.length_append, List.length_singleton] at hj
                rcases Nat.lt_or_eq_of_le (Nat.le_of_lt_succ hj) with hlt | rfl
                · exact hclear j hlt cause hbad
                · obtain ⟨refusal, hrefused, -⟩ := (hfault cause).mp ((hhere cause).mp hbad)
                  rw [hinsert] at hrefused
                  cases hrefused

/-- The nodes of a document are restored up to the first record with a fault, or as a whole. -/
theorem insertRecords_spec {palette : Palette} {ids : IdSource} {records : List NodeRecord}
    (hfresh : Fresh palette records ids) :
    (∃ cause, ScriptGraph.insertRecords palette ∅ ids records = .error cause ∧
      FirstFault palette records cause) ∨
    (∃ g later, ScriptGraph.insertRecords palette ∅ ids records = .ok (g, later) ∧
      Loaded palette ids records g later) ∧
      ∀ j cause, ¬ FaultAt palette records j cause := by
  refine (loaded_nil palette ids).insertRecords hfresh rfl (Nat.le_refl _) ?_
  exact fun j hj => absurd hj (Nat.not_lt_zero j)

end NodeRecord

end ScriptGraph
