import ScriptGraph.Proofs.Document.Restoring
import ScriptGraph.Proofs.Session.Pasting

/-!
# The nodes of a fragment

All nodes of a fragment are made before the first of them is put into the graph.  Making them stops
at the first entry of an unknown kind (`makeNodes_eq_error_iff`).  If there is none, then there is a
node for each entry (`FragmentNode.Describes`), and nodes and ports have the identifiers that the
source gives out next (`makeNodes_eq_ok`).

If what is drawn is new for the graph (`Graph.AllFresh`), no node is refused, and the graph has all
of them at its end (`WellFormed.insertNodes_eq`).
-/

namespace ScriptGraph

/-! ## Drawing identifiers -/

/-- The identifiers that a source gives out next. -/
def IdSource.block (ids : IdSource) (count : Nat) : List Uuid :=
  (List.range' ids.drawn count).map ids.sequence

theorem IdSource.block_append (ids : IdSource) (a b : Nat) :
    ids.block a ++ (ids.skip a).block b = ids.block (a + b) := by
  rw [block, block, block, ← List.range'_append_1, List.map_append]
  rfl

theorem IdSource.mem_block {ids : IdSource} {count : Nat} {id : Uuid} :
    id ∈ ids.block count ↔ ∃ i, ids.drawn ≤ i ∧ i < ids.drawn + count ∧ ids.sequence i = id := by
  simp only [block, List.mem_map, List.mem_range'_1, and_assoc]

/-- The identifiers of a node and of its ports. -/
def Node.uuids (n : Node) : List Uuid :=
  n.id.uuid :: n.portIds.map PortId.uuid

theorem NodeKind.instantiate_uuids (kind : NodeKind) (ids : IdSource) :
    (kind.instantiate ids).1.uuids = ids.block (1 + kind.inputs.length + kind.outputs.length) := by
  have hports : (kind.instantiate ids).1.portIds =
      (ids.skip 1).nextPorts (kind.inputs.length + kind.outputs.length) := by
    rw [Node.portIds, Node.ports, List.map_append, kind.instantiate_inputs_id,
      kind.instantiate_outputs_id, ← IdSource.skip_skip, IdSource.nextPorts_append]
  have huuids : ((ids.skip 1).nextPorts (kind.inputs.length + kind.outputs.length)).map
      PortId.uuid = (ids.skip 1).block (kind.inputs.length + kind.outputs.length) := List.map_map
  calc (kind.instantiate ids).1.uuids
    _ = ids.sequence ids.drawn ::
        (ids.skip 1).block (kind.inputs.length + kind.outputs.length) := by
        rw [Node.uuids, hports, huuids]
        rfl
    _ = ids.block 1 ++ (ids.skip 1).block (kind.inputs.length + kind.outputs.length) := rfl
    _ = ids.block (1 + kind.inputs.length + kind.outputs.length) := by
        rw [IdSource.block_append, Nat.add_assoc]

/-- The identifiers that a source gives out up to a later state differ from each other and from
those of the nodes, ports and edges of a graph. -/
structure Graph.AllFresh (g : Graph) (ids later : IdSource) : Prop extends g.Fresh ids later where
  nodes_unused : ∀ i, ids.drawn ≤ i → i < later.drawn →
    (⟨ids.sequence i⟩ : NodeId) ∉ g.nodes.map Node.id
  ports_unused : ∀ i, ids.drawn ≤ i → i < later.drawn →
    (⟨ids.sequence i⟩ : PortId) ∉ g.portIds

/-! ## Making nodes -/

/-- A node as an entry of a fragment describes it, moved by an offset, with the ports of its
kind. -/
structure FragmentNode.Describes (palette : Palette) (offset : Position) (entry : FragmentNode)
    (n : Node) : Prop where
  of_kind : ∃ kind, palette.get? entry.tag = some kind ∧ n.OfKind kind
  title_eq : n.title = entry.title
  position_eq : n.position = ⟨entry.position.x + offset.x, entry.position.y + offset.y⟩
  properties_eq : n.properties = entry.properties

/-- An entry describes a node no matter which edges are at its ports. -/
theorem FragmentNode.Describes.of_clear {palette : Palette} {offset : Position}
    {entry : FragmentNode} {n m : Node} (h : entry.Describes palette offset n)
    (hsame : m.mapPorts Port.clear = n.mapPorts Port.clear) :
    entry.Describes palette offset m where
  of_kind := by
    obtain ⟨kind, hkind, hof⟩ := h.of_kind
    have hof' : (m.mapPorts Port.clear).OfKind kind := by
      rw [hsame]
      exact hof.mapPorts (fun _ => rfl) (fun _ => rfl) (fun _ => rfl)
    exact ⟨kind, hkind, hof'.of_clear⟩
  title_eq := (congrArg Node.title hsame).trans h.title_eq
  position_eq := (congrArg Node.position hsame).trans h.position_eq
  properties_eq := (congrArg Node.properties hsame).trans h.properties_eq

namespace Fragment

variable {palette : Palette} {offset : Position} {ids : IdSource} {entries : List FragmentNode}

/-- Making the nodes of a fragment stops at the first entry of an unknown kind. -/
theorem makeNodes_eq_error_iff {cause : LoadError} :
    makeNodes palette offset ids entries = .error cause ↔
      ∃ entry, entries.find? (fun entry => (palette.get? entry.tag).isNone) = some entry ∧
        cause = .unknownKind entry.tag := by
  induction entries generalizing ids with
  | nil => simp [makeNodes]
  | cons entry entries ih =>
      unfold makeNodes
      cases hkind : palette.get? entry.tag with
      | none => simp [hkind, eq_comm]
      | some kind =>
          rw [List.find?_cons_of_neg (by simp [hkind]), ← @ih (kind.instantiate ids).2]
          cases hrest : makeNodes palette offset (kind.instantiate ids).2 entries with
          | error other => simp [hrest, Except.map]
          | ok made => simp [hrest, Except.map]

/-- Whether the nodes of a fragment can be made is a matter of their kinds alone. -/
theorem exists_makeNodes_error_iff :
    (∃ cause, makeNodes palette offset ids entries = .error cause) ↔
      ∃ entry ∈ entries, palette.get? entry.tag = none := by
  simp only [makeNodes_eq_error_iff]
  constructor
  · rintro ⟨_, entry, hfirst, -⟩
    exact ⟨entry, List.mem_of_find?_eq_some hfirst, by simpa using List.find?_some hfirst⟩
  · rintro ⟨entry, hentry, hnone⟩
    have hsome : (entries.find? fun entry => (palette.get? entry.tag).isNone).isSome :=
      List.find?_isSome.mpr ⟨entry, hentry, by simp [hnone]⟩
    obtain ⟨first, hfirst⟩ := Option.isSome_iff_exists.mp hsome
    exact ⟨_, first, hfirst, rfl⟩

/-- The nodes that are made are those that the entries describe, and take the next identifiers. -/
theorem makeNodes_eq_ok {nodes : List Node} {later : IdSource}
    (hmake : makeNodes palette offset ids entries = .ok (nodes, later)) :
    List.Forall₂ (FragmentNode.Describes palette offset) entries nodes ∧
      ∃ count, later = ids.skip count ∧ nodes.flatMap Node.uuids = ids.block count := by
  induction entries generalizing ids nodes with
  | nil =>
      obtain ⟨rfl, rfl⟩ : [] = nodes ∧ ids = later := by
        simpa [makeNodes, Prod.ext_iff] using hmake
      exact ⟨.nil, 0, rfl, rfl⟩
  | cons entry entries ih =>
      unfold makeNodes at hmake
      cases hkind : palette.get? entry.tag with
      | none => simp [hkind] at hmake
      | some kind =>
          simp only [hkind] at hmake
          cases hrest : makeNodes palette offset (kind.instantiate ids).2 entries with
          | error cause => simp [hrest, Except.map] at hmake
          | ok made =>
              obtain ⟨rest, last⟩ := made
              simp only [hrest, Except.map, Except.ok.injEq, Prod.mk.injEq] at hmake
              obtain ⟨rfl, rfl⟩ := hmake
              obtain ⟨hdescribed, count, hlast, huuids⟩ := ih hrest
              rw [kind.instantiate_snd_eq] at hlast huuids
              refine ⟨.cons ⟨⟨kind, hkind, ?_⟩, rfl, rfl, rfl⟩ hdescribed,
                1 + kind.inputs.length + kind.outputs.length + count, ?_, ?_⟩
              · exact (kind.instantiate_ofKind ids).edit entry.title _ _
              · rw [hlast, IdSource.skip_skip]
              · rw [List.flatMap_cons, huuids, ← IdSource.block_append, ← kind.instantiate_uuids]
                rfl

end Fragment

/-! ## Putting nodes in -/

namespace Graph

/-- The graph with more nodes, which have no edges yet. -/
def withNodes (g : Graph) (nodes : List Node) : Graph :=
  { g with
    nodes := g.nodes ++ nodes.map (·.mapPorts Port.clear)
    owners := g.owners ++ nodes.flatMap Node.owned }

theorem withNodes_cons (g : Graph) (n : Node) (nodes : List Node) :
    g.withNodes (n :: nodes) = (g.withNodes [n]).withNodes nodes := by
  simp [withNodes]

theorem portIds_withNodes (g : Graph) (nodes : List Node) :
    (g.withNodes nodes).portIds = g.portIds ++ nodes.flatMap Node.portIds := by
  have hclear : ∀ n : Node, (n.mapPorts Port.clear).portIds = n.portIds :=
    fun n => Node.portIds_mapPorts fun _ => rfl
  simp [portIds_eq_flatMap, withNodes, List.flatMap_map, hclear]

theorem map_id_withNodes (g : Graph) (nodes : List Node) :
    (g.withNodes nodes).nodes.map Node.id = g.nodes.map Node.id ++ nodes.map Node.id := by
  simp [withNodes, Function.comp_def]

variable {g : Graph}

/-- Nodes with identifiers of their own go in one after the other. -/
theorem WellFormed.insertNodes_eq (hwf : g.WellFormed) {nodes : List Node}
    (hmade : ∀ n ∈ nodes, n.WellMade) (hnodes : (g.nodes.map Node.id ++ nodes.map Node.id).Nodup)
    (hports : (g.portIds ++ nodes.flatMap Node.portIds).Nodup) :
    Fragment.insertNodes g nodes = .ok (g.withNodes nodes) ∧ (g.withNodes nodes).WellFormed := by
  induction nodes generalizing g with
  | nil =>
      have hsame : g.withNodes [] = g := by simp [withNodes]
      rw [hsame]
      exact ⟨rfl, hwf⟩
  | cons n nodes ih =>
      rw [List.forall_mem_cons] at hmade
      rw [List.map_cons, ← List.singleton_append, ← List.append_assoc] at hnodes
      rw [List.flatMap_cons, ← List.append_assoc] at hports
      have hfirst := (List.nodup_append.mp hports).1
      have hinsert : g.insert n = .ok (g.withNodes [n]) := by
        refine hwf.insert_eq_ok_iff.mpr ⟨⟨?_, ?_, ?_⟩, ?_⟩
        · intro hmem
          exact (List.nodup_append.mp (List.nodup_append.mp hnodes).1).2.2 _ hmem _
            List.mem_cons_self rfl
        · exact (List.nodup_append.mp hfirst).2.1
        · intro id hid hmem
          exact (List.nodup_append.mp hfirst).2.2 id hmem id hid rfl
        · simp [withNodes]
      have hnext := hwf.insert hmade.1 hinsert
      have hrest := ih hnext hmade.2 (by rwa [map_id_withNodes])
        (by rwa [portIds_withNodes, List.flatMap_singleton])
      rw [Fragment.insertNodes, hinsert, withNodes_cons g n nodes]
      exact hrest

/-- Nodes whose identifiers have just been drawn share none with each other or with the graph. -/
theorem AllFresh.nodup {ids later : IdSource} (hfresh : g.AllFresh ids later)
    (hwf : g.WellFormed) {nodes : List Node} {count : Nat}
    (huuids : nodes.flatMap Node.uuids = ids.block count)
    (hlater : ids.drawn + count ≤ later.drawn) :
    (g.nodes.map Node.id ++ nodes.map Node.id).Nodup ∧
      (g.portIds ++ nodes.flatMap Node.portIds).Nodup := by
  have hblock : (nodes.flatMap Node.uuids).Nodup := by
    have hupcoming : (ids.block count).map EdgeId.mk = ids.upcoming count := List.map_map
    rw [huuids]
    refine List.Nodup.of_map EdgeId.mk (hupcoming ▸ IdSource.upcoming_nodup ?_)
    exact fun i j hi hij hj => hfresh.distinct i j hi hij (hj.trans_le hlater)
  have hdrawn : ∀ n ∈ nodes, ∀ id ∈ n.uuids,
      ∃ i, ids.drawn ≤ i ∧ i < later.drawn ∧ ids.sequence i = id := by
    intro n hn id hid
    have hmem : id ∈ ids.block count := huuids ▸ List.mem_flatMap.mpr ⟨n, hn, hid⟩
    obtain ⟨i, hlow, hhigh, hi⟩ := IdSource.mem_block.mp hmem
    exact ⟨i, hlow, hhigh.trans_le hlater, hi⟩
  refine ⟨List.nodup_append.mpr ⟨hwf.nodes_distinct, ?_, ?_⟩,
    List.nodup_append.mpr ⟨hwf.ports_distinct, ?_, ?_⟩⟩
  · refine List.Nodup.of_map NodeId.uuid (hblock.sublist ?_)
    rw [List.map_map, List.map_eq_flatMap]
    exact List.Sublist.flatMap_right nodes fun n _ => List.sublist_append_left [n.id.uuid] _
  · rintro id hold _ hnew rfl
    obtain ⟨n, hn, rfl⟩ := List.mem_map.mp hnew
    obtain ⟨i, hlow, hhigh, hi⟩ := hdrawn n hn n.id.uuid List.mem_cons_self
    exact hfresh.nodes_unused i hlow hhigh (hi ▸ hold)
  · refine List.Nodup.of_map PortId.uuid (hblock.sublist ?_)
    rw [List.map_flatMap]
    exact List.Sublist.flatMap_right nodes fun n _ => List.sublist_cons_self _ _
  · rintro id hold _ hnew rfl
    obtain ⟨n, hn, hid⟩ := List.mem_flatMap.mp hnew
    obtain ⟨i, hlow, hhigh, hi⟩ := hdrawn n hn id.uuid
      (List.mem_cons_of_mem _ (List.mem_map_of_mem hid))
    exact hfresh.ports_unused i hlow hhigh (hi ▸ hold)

end Graph

end ScriptGraph
