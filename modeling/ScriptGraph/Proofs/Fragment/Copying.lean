import ScriptGraph.Document.Fragment
import ScriptGraph.Proofs.Graph.Removal
import ScriptGraph.Proofs.Session.Agreement

/-!
# Copying a part of a graph

A fragment has no identifiers: its edges name nodes and ports by their places.  An edge of a
fragment stands for an edge of a graph if these places are those of the two ends
(`FragmentEdge.StandsFor`).  Among nodes with distinct identifiers the places of an edge are found
exactly if both of its ends are there (`Fragment.edgeOf?_eq_some_iff`), so a copy holds all edges
between the selected nodes and no others (`copy_holds_selection`).
-/

namespace ScriptGraph

variable {K : NodeKind → Prop}

/-! ## Places in lists -/

/-- With distinct keys, the place of a key is the place of the element that has it. -/
theorem findIdx?_key_eq_some_iff {α κ : Type} [DecidableEq κ] (key : α → κ) {l : List α}
    (hdistinct : (l.map key).Nodup) {k : κ} {i : Nat} :
    l.findIdx? (fun x => key x == k) = some i ↔ ∃ a, l[i]? = some a ∧ key a = k := by
  induction l generalizing i with
  | nil => simp
  | cons x rest ih =>
      rw [List.map_cons, List.nodup_cons] at hdistinct
      rw [List.findIdx?_cons]
      by_cases hx : key x = k
      · -- no later element has the key
        have hlater : ∀ j a, rest[j]? = some a → key a ≠ k := fun j a ha hk =>
          hdistinct.1 (List.mem_map.mpr ⟨a, List.mem_of_getElem? ha, hk.trans hx.symm⟩)
        rw [if_pos (beq_iff_eq.mpr hx)]
        cases i with
        | zero => simp [hx]
        | succ j => simpa using hlater j
      · rw [if_neg (by simpa using hx)]
        cases i with
        | zero => simp [hx]
        | succ j => simpa using ih hdistinct.2

theorem place_unique {α κ : Type} [DecidableEq κ] (key : α → κ) {l : List α}
    (hdistinct : (l.map key).Nodup) {i j : Nat} {a b : α} (ha : l[i]? = some a)
    (hb : l[j]? = some b) (hkey : key a = key b) : i = j := by
  have hi := (findIdx?_key_eq_some_iff key hdistinct).mpr ⟨a, ha, hkey⟩
  have hj := (findIdx?_key_eq_some_iff key hdistinct).mpr ⟨b, hb, rfl⟩
  exact Option.some.inj (hi.symm.trans hj)

/-- Without their repetitions, the elements of a list are in the order in which they first occur. -/
theorem pairwise_idxOf_eraseDups {α : Type} [DecidableEq α] (l : List α) :
    l.eraseDups.Pairwise fun a b => l.idxOf a < l.idxOf b := by
  induction l using List.reverseRecOn with
  | nil => exact .nil
  | append_singleton l a ih =>
      have hold : l.eraseDups.Pairwise fun b c => (l ++ [a]).idxOf b < (l ++ [a]).idxOf c := by
        refine ih.imp_of_mem fun {b c} hb hc hlt => ?_
        rw [List.idxOf_append_of_mem (List.mem_eraseDups.mp hb),
          List.idxOf_append_of_mem (List.mem_eraseDups.mp hc)]
        exact hlt
      by_cases ha : a ∈ l
      · have hsame : (l ++ [a]).eraseDups = l.eraseDups := by
          simp [List.eraseDups_append, List.removeAll, ha]
        rwa [hsame]
      · have hmore : (l ++ [a]).eraseDups = l.eraseDups ++ [a] := by
          simp [List.eraseDups_append, List.removeAll, ha, List.eraseDups_cons]
        rw [hmore, List.pairwise_append]
        refine ⟨hold, List.pairwise_singleton _ _, fun b hb c hc => ?_⟩
        obtain rfl := List.mem_singleton.mp hc
        have hmem : b ∈ l := List.mem_eraseDups.mp hb
        rw [List.idxOf_append_of_mem hmem, List.idxOf_append_of_notMem ha, List.idxOf_cons_self]
        exact List.idxOf_lt_length_of_mem hmem

theorem eraseDups_of_nodup {α : Type} [DecidableEq α] {l : List α} (h : l.Nodup) :
    l.eraseDups = l := by
  induction l with
  | nil => rfl
  | cons a rest ih =>
      rw [List.nodup_cons] at h
      have hothers : (rest.filter fun b => !b == a) = rest := by
        refine List.filter_eq_self.mpr fun b hb => ?_
        have hne : b ≠ a := fun heq => h.1 (heq ▸ hb)
        simpa using hne
      rw [List.eraseDups_cons, hothers, ih h.2]

/-- What a partial function gives on a list, side by side with the elements on which it is
defined. -/
theorem forall₂_filter_filterMap {α β : Type} {R : α → β → Prop} {p : α → Bool} {f : α → Option β}
    {l : List α} (hkept : ∀ a ∈ l, p a = true → ∃ b, f a = some b ∧ R a b)
    (hdropped : ∀ a ∈ l, p a = false → f a = none) :
    List.Forall₂ R (l.filter p) (l.filterMap f) := by
  induction l with
  | nil => exact .nil
  | cons a rest ih =>
      rw [List.forall_mem_cons] at hkept hdropped
      have hrest := ih hkept.2 hdropped.2
      cases hp : p a with
      | false =>
          rw [List.filter_cons_of_neg (by simp [hp]), List.filterMap_cons_none (hdropped.1 hp)]
          exact hrest
      | true =>
          obtain ⟨b, hb, hR⟩ := hkept.1 hp
          rw [List.filter_cons_of_pos hp, List.filterMap_cons_some hb]
          exact .cons hR hrest

/-! ## Edges by places -/

/-- The places of an edge of a fragment are those of the output and the input, among some nodes,
that an edge runs between. -/
structure FragmentEdge.StandsFor (entry : FragmentEdge) (nodes : List Node) (e : Edge) : Prop where
  source : ∃ n p, nodes[entry.sourceNode]? = some n ∧ n.outputs[entry.sourceOutput]? = some p ∧
    e.source = ⟨n.id, p.id⟩
  target : ∃ n p, nodes[entry.targetNode]? = some n ∧ n.inputs[entry.targetInput]? = some p ∧
    e.target = ⟨n.id, p.id⟩

namespace Fragment

/-- Among nodes with distinct identifiers, the places found for an edge are those of its ends. -/
theorem edgeOf?_eq_some_iff {nodes : List Node} (hdistinct : (nodes.map Node.id).Nodup)
    (hports : ∀ n ∈ nodes, n.portIds.Nodup) {e : Edge} {entry : FragmentEdge} :
    edgeOf? nodes e = some entry ↔ entry.StandsFor nodes e := by
  have hnode (id : NodeId) (i : Nat) : nodes.findIdx? (fun n => n.id == id) = some i ↔
      ∃ n, nodes[i]? = some n ∧ n.id = id :=
    findIdx?_key_eq_some_iff Node.id hdistinct
  have houtput {n : Node} {i : Nat} (hn : nodes[i]? = some n) (id : PortId) (j : Nat) :
      place? n.outputs id = some j ↔ ∃ p, n.outputs[j]? = some p ∧ p.id = id :=
    findIdx?_key_eq_some_iff Port.id
      ((hports n (List.mem_of_getElem? hn)).sublist ((List.sublist_append_right _ _).map _))
  have hinput {n : Node} {i : Nat} (hn : nodes[i]? = some n) (id : PortId) (j : Nat) :
      place? n.inputs id = some j ↔ ∃ p, n.inputs[j]? = some p ∧ p.id = id :=
    findIdx?_key_eq_some_iff Port.id
      ((hports n (List.mem_of_getElem? hn)).sublist ((List.sublist_append_left _ _).map _))
  simp only [edgeOf?, Option.bind_eq_bind, Option.bind_eq_some_iff, Option.pure_def,
    Option.some.injEq]
  constructor
  · rintro ⟨i, hi, j, hj, s, hs, t, ht, k, hk, l, hl, rfl⟩
    obtain ⟨n, hn, hsource⟩ := (hnode _ _).mp hi
    obtain ⟨m, hm, htarget⟩ := (hnode _ _).mp hj
    obtain rfl : n = s := Option.some.inj (hn.symm.trans hs)
    obtain rfl : m = t := Option.some.inj (hm.symm.trans ht)
    obtain ⟨p, hp, hsourcePort⟩ := (houtput hn _ _).mp hk
    obtain ⟨q, hq, htargetPort⟩ := (hinput hm _ _).mp hl
    exact ⟨⟨n, p, hn, hp, by rw [hsource, hsourcePort]⟩,
      ⟨m, q, hm, hq, by rw [htarget, htargetPort]⟩⟩
  · rintro ⟨⟨n, p, hn, hp, hsource⟩, ⟨m, q, hm, hq, htarget⟩⟩
    refine ⟨entry.sourceNode, (hnode _ _).mpr ⟨n, hn, by rw [hsource]⟩, entry.targetNode,
      (hnode _ _).mpr ⟨m, hm, by rw [htarget]⟩, n, hn, m, hm, entry.sourceOutput,
      (houtput hn _ _).mpr ⟨p, hp, by rw [hsource]⟩, entry.targetInput,
      (hinput hm _ _).mpr ⟨q, hq, by rw [htarget]⟩, rfl⟩

/-! ## The selected nodes -/

section

variable {g : Graph} (h : g.WellFormed)
include h

theorem mem_selection {ids : List NodeId} {n : Node} :
    n ∈ selection g ids ↔ n ∈ g.nodes ∧ n.id ∈ ids := by
  simp only [selection, List.mem_filterMap, List.mem_eraseDups, h.node?_eq_some_iff]
  constructor
  · rintro ⟨id, hid, hn, rfl⟩
    exact ⟨hn, hid⟩
  · rintro ⟨hn, hid⟩
    exact ⟨n.id, hid, hn, rfl⟩

/-- The selected nodes are in the order in which they are first named. -/
theorem pairwise_selection (ids : List NodeId) :
    ((selection g ids).map Node.id).Pairwise fun a b => ids.idxOf a < ids.idxOf b := by
  have hsub : ∀ l : List NodeId, ((l.filterMap g.node?).map Node.id).Sublist l := by
    intro l
    induction l with
    | nil => exact .slnil
    | cons id rest ih =>
        cases hfind : g.node? id with
        | none => simpa [hfind] using ih.cons id
        | some n =>
            obtain ⟨-, rfl⟩ := h.node?_eq_some_iff.mp hfind
            simpa [hfind] using ih.cons_cons n.id
  exact (pairwise_idxOf_eraseDups ids).sublist (hsub _)

theorem selection_distinct (ids : List NodeId) : ((selection g ids).map Node.id).Nodup := by
  refine (pairwise_selection h ids).imp fun hlt heq => ?_
  rw [heq] at hlt
  exact Nat.lt_irrefl _ hlt

theorem portIds_nodup_of_mem_selection {ids : List NodeId} :
    ∀ n ∈ selection g ids, n.portIds.Nodup :=
  fun _ hn => h.node_portIds_nodup ((mem_selection h).mp hn).1

/-- Nodes that are named one by one are selected as they are. -/
theorem selection_map_id {nodes : List Node} (hsub : nodes ⊆ g.nodes)
    (hdistinct : (nodes.map Node.id).Nodup) : selection g (nodes.map Node.id) = nodes := by
  have hfound : ∀ n ∈ nodes, g.node? n.id = some n :=
    fun n hn => h.node?_eq_some_iff.mpr ⟨hsub hn, rfl⟩
  rw [selection, eraseDups_of_nodup hdistinct, List.filterMap_map]
  exact (List.filterMap_congr hfound).trans List.filterMap_some

/-- An edge between selected nodes has its places among them. -/
theorem exists_standsFor {ids : List NodeId} {e : Edge} (he : e ∈ g.edges)
    (hsource : e.source.node ∈ ids) (htarget : e.target.node ∈ ids) :
    ∃ entry : FragmentEdge, entry.StandsFor (selection g ids) e := by
  obtain ⟨s, hs, t, ht, p, hp, q, hq, hsource', htarget', -⟩ := h.edges_join e he
  rw [hsource'] at hsource
  rw [htarget'] at htarget
  obtain ⟨i, hi⟩ := List.mem_iff_getElem?.mp ((mem_selection h).mpr ⟨hs, hsource⟩)
  obtain ⟨j, hj⟩ := List.mem_iff_getElem?.mp ((mem_selection h).mpr ⟨ht, htarget⟩)
  obtain ⟨k, hk⟩ := List.mem_iff_getElem?.mp hp
  obtain ⟨l, hl⟩ := List.mem_iff_getElem?.mp hq
  exact ⟨⟨i, k, j, l⟩, ⟨s, p, hi, hk, hsource'⟩, ⟨t, q, hj, hl, htarget'⟩⟩

/-- The edges of a copy are, one by one and in order, those between selected nodes. -/
theorem forall₂_copy_edges (ids : List NodeId) :
    List.Forall₂ (fun e entry => entry.StandsFor (selection g ids) e) (g.inner ids.contains)
      (copy g ids).edges := by
  have hplaces (e : Edge) (entry : FragmentEdge) :
      edgeOf? (selection g ids) e = some entry ↔ entry.StandsFor (selection g ids) e :=
    edgeOf?_eq_some_iff (selection_distinct h ids) (portIds_nodup_of_mem_selection h)
  refine forall₂_filter_filterMap (fun e he hends => ?_) (fun e he hends => ?_)
  · rw [Bool.and_eq_true, List.contains_iff_mem, List.contains_iff_mem] at hends
    obtain ⟨entry, hentry⟩ := exists_standsFor h he hends.1 hends.2
    exact ⟨entry, (hplaces e entry).mpr hentry, hentry⟩
  · refine Option.eq_none_iff_forall_ne_some.mpr fun entry hentry => ?_
    obtain ⟨⟨n, p, hn, -, hsource⟩, ⟨m, q, hm, -, htarget⟩⟩ := (hplaces e entry).mp hentry
    have hn := ((mem_selection h).mp (List.mem_of_getElem? hn)).2
    have hm := ((mem_selection h).mp (List.mem_of_getElem? hm)).2
    simp [hsource, htarget, hn, hm] at hends

end

/-- A copy has one entry for each selected node of the graph, in the order in which they are first
named, and its edges stand, one by one and in order, for the edges between selected nodes. -/
theorem copy_holds_selection {g : Graph} (h : g.Reachable K) (ids : List NodeId) :
    ∃ selected : List Node,
      (∀ n, n ∈ selected ↔ n ∈ g.nodes ∧ n.id ∈ ids) ∧
      (selected.map Node.id).Pairwise (fun a b => ids.idxOf a < ids.idxOf b) ∧
      (copy g ids).nodes = selected.map (fun n => ⟨n.tag, n.title, n.position, n.properties⟩) ∧
      List.Forall₂ (fun e entry => entry.StandsFor selected e)
        (g.edges.filter fun e => ids.contains e.source.node && ids.contains e.target.node)
        (copy g ids).edges := by
  have hwf := h.sound.wellFormed
  exact ⟨selection g ids, fun n => mem_selection hwf, pairwise_selection hwf ids, rfl,
    forall₂_copy_edges hwf ids⟩

/-- The call, the test and the greeting of the sample, with the call named twice and a node that is
not there. -/
theorem copy_sample_holds_selection :
    let ids : List NodeId := [15, 2, 15, 99, 11].map fun id => ⟨⟨BitVec.ofNat 128 id⟩⟩
    (Graph.sample.Reachable fun _ => True) ∧
    (copy Graph.sample ids).nodes.map FragmentNode.tag = ["call", "if", "echo"] ∧
    (copy Graph.sample ids).edges = [⟨1, 1, 2, 0⟩, ⟨1, 2, 0, 0⟩] ∧
    ∃ selected : List Node,
      (∀ n, n ∈ selected ↔ n ∈ Graph.sample.nodes ∧ n.id ∈ ids) ∧
      (selected.map Node.id).Pairwise (fun a b => ids.idxOf a < ids.idxOf b) ∧
      List.Forall₂ (fun e entry => entry.StandsFor selected e)
        (Graph.sample.edges.filter fun e =>
          ids.contains e.source.node && ids.contains e.target.node)
        (copy Graph.sample ids).edges := by
  intro ids
  have hreach : Graph.sample.Reachable fun _ => True := Graph.sample_reachable fun _ _ => trivial
  obtain ⟨selected, hmem, horder, -, hedges⟩ := copy_holds_selection hreach ids
  exact ⟨hreach, by decide, by decide, selected, hmem, horder, hedges⟩

end Fragment

end ScriptGraph
