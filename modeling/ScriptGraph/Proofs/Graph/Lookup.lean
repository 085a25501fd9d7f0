import Mathlib.Data.List.Flatten
import Mathlib.Data.List.Nodup
import ScriptGraph.Graph.Connect

/-!
# Look-ups by identifier and changes of ports

Nodes, edges and ports are looked up by identifier in lists, and the index of ports is a list of
pairs.  Where the identifiers are distinct, a look-up finds exactly the element that has the
identifier (`find?_eq_some_iff_mem`, `lookup_eq_some_iff_mem`).

The second half is about `Node.mapPorts`, the form in which every operation of this library changes
the edge lists of ports.
-/

namespace ScriptGraph

/-- With distinct keys, the first element with a key is the element with that key. -/
theorem find?_eq_some_iff_mem {α κ : Type} [DecidableEq κ] (key : α → κ) {l : List α}
    (hdistinct : (l.map key).Nodup) {k : κ} {a : α} :
    l.find? (fun x => key x == k) = some a ↔ a ∈ l ∧ key a = k := by
  constructor
  · intro hfind
    exact ⟨List.mem_of_find?_eq_some hfind, by simpa using List.find?_some hfind⟩
  · rintro ⟨hmem, rfl⟩
    cases hfind : l.find? (fun x => key x == key a) with
    | none => exact absurd (List.find?_eq_none.mp hfind a hmem) (by simp)
    | some b =>
        have hkey : key b = key a := by simpa using List.find?_some hfind
        rw [List.inj_on_of_nodup_map hdistinct (List.mem_of_find?_eq_some hfind) hmem hkey]

/-- With distinct keys, an element is the only one with its key. -/
theorem filter_key_eq_singleton {α κ : Type} [DecidableEq κ] (key : α → κ) {l : List α}
    (hdistinct : (l.map key).Nodup) {a : α} (ha : a ∈ l) :
    (l.filter fun x => key x == key a) = [a] := by
  induction l with
  | nil => cases ha
  | cons x rest ih =>
      rw [List.map_cons, List.nodup_cons] at hdistinct
      rcases List.mem_cons.mp ha with rfl | ha
      · have hrest : (rest.filter fun x => key x == key a) = [] := by
          refine List.filter_eq_nil_iff.mpr fun y hy heq => hdistinct.1 ?_
          exact beq_iff_eq.mp heq ▸ List.mem_map_of_mem hy
        rw [List.filter_cons, if_pos (beq_self_eq_true _), hrest]
      · have hne : ¬ (key x == key a) = true := fun heq =>
          hdistinct.1 (beq_iff_eq.mp heq ▸ List.mem_map_of_mem ha)
        rw [List.filter_cons, if_neg hne, ih hdistinct.2 ha]

/-- With distinct keys, the value under a key is the one paired with it. -/
theorem lookup_eq_some_iff_mem {κ β : Type} [DecidableEq κ] {l : List (κ × β)}
    (hdistinct : (l.map Prod.fst).Nodup) {k : κ} {b : β} :
    l.lookup k = some b ↔ (k, b) ∈ l := by
  induction l with
  | nil => simp
  | cons entry rest ih =>
      obtain ⟨k', b'⟩ := entry
      rw [List.map_cons, List.nodup_cons] at hdistinct
      by_cases hk : k = k'
      · subst hk
        have hrest : (k, b) ∉ rest := fun hmem =>
          hdistinct.1 (List.mem_map.mpr ⟨(k, b), hmem, rfl⟩)
        simp [hrest, eq_comm]
      · have hbeq : (k == k') = false := by simpa using hk
        simp [List.lookup_cons, hbeq, ih hdistinct.2, hk]

/-- A filter that keeps or drops the blocks of a concatenation as a whole. -/
theorem filter_flatMap_of_blocks {α β : Type} (f : α → List β) (p : β → Bool) (keep : α → Bool)
    {l : List α} (hblock : ∀ a ∈ l, (f a).filter p = if keep a then f a else []) :
    (l.flatMap f).filter p = (l.filter keep).flatMap f := by
  induction l with
  | nil => rfl
  | cons a rest ih =>
      rw [List.forall_mem_cons] at hblock
      rw [List.flatMap_cons, List.filter_append, hblock.1, ih hblock.2]
      by_cases hkeep : keep a = true <;> simp [hkeep]

theorem exists_of_forall₂ {α β : Type} {R : α → β → Prop} {l : List α} {l' : List β}
    (h : List.Forall₂ R l l') {a : α} (ha : a ∈ l) : ∃ b ∈ l', R a b := by
  induction h with
  | nil => cases ha
  | cons hab _ ih =>
      rcases List.mem_cons.mp ha with rfl | ha
      · exact ⟨_, List.mem_cons_self, hab⟩
      · obtain ⟨b, hb, hr⟩ := ih ha
        exact ⟨b, List.mem_cons_of_mem _ hb, hr⟩

namespace Node

@[simp] theorem mapPorts_id (n : Node) (f : Port → Port) : (n.mapPorts f).id = n.id := rfl

@[simp] theorem mapPorts_tag (n : Node) (f : Port → Port) : (n.mapPorts f).tag = n.tag := rfl

@[simp] theorem mapPorts_inputs (n : Node) (f : Port → Port) :
    (n.mapPorts f).inputs = n.inputs.map f := rfl

@[simp] theorem mapPorts_outputs (n : Node) (f : Port → Port) :
    (n.mapPorts f).outputs = n.outputs.map f := rfl

@[simp] theorem mapPorts_ports (n : Node) (f : Port → Port) :
    (n.mapPorts f).ports = n.ports.map f := by
  simp [ports]

theorem mapPorts_mapPorts (n : Node) (f h : Port → Port) :
    (n.mapPorts f).mapPorts h = n.mapPorts (h ∘ f) := by
  simp [mapPorts]

theorem mem_ports_of_mem_inputs {n : Node} {p : Port} (h : p ∈ n.inputs) : p ∈ n.ports :=
  List.mem_append_left _ h

theorem mem_ports_of_mem_outputs {n : Node} {p : Port} (h : p ∈ n.outputs) : p ∈ n.ports :=
  List.mem_append_right _ h

theorem mapPorts_congr {n : Node} {f h : Port → Port} (heq : ∀ p ∈ n.ports, f p = h p) :
    n.mapPorts f = n.mapPorts h := by
  have hin : n.inputs.map f = n.inputs.map h :=
    List.map_congr_left fun p hp => heq p (mem_ports_of_mem_inputs hp)
  have hout : n.outputs.map f = n.outputs.map h :=
    List.map_congr_left fun p hp => heq p (mem_ports_of_mem_outputs hp)
  simp only [mapPorts, hin, hout]

theorem mapPorts_eq_self {n : Node} {f : Port → Port} (heq : ∀ p ∈ n.ports, f p = p) :
    n.mapPorts f = n := by
  rw [mapPorts_congr heq]
  simp [mapPorts]

/-- Changes that keep the identifiers of ports keep the list of them. -/
theorem portIds_mapPorts {n : Node} {f : Port → Port} (hid : ∀ p, (f p).id = p.id) :
    (n.mapPorts f).portIds = n.portIds := by
  simp [portIds, hid]

theorem owned_mapPorts {n : Node} {f : Port → Port} (hid : ∀ p, (f p).id = p.id) :
    (n.mapPorts f).owned = n.owned := by
  simp [owned, portIds_mapPorts hid]

/-- The identifiers a node enters into an index are those of its ports. -/
@[simp] theorem map_fst_owned (n : Node) : n.owned.map Prod.fst = n.portIds := by
  simp [owned, Function.comp_def]

theorem mem_owned {n : Node} {id : PortId} {node : NodeId} :
    (id, node) ∈ n.owned ↔ id ∈ n.portIds ∧ node = n.id := by
  simp only [owned, List.mem_map, Prod.mk.injEq]
  constructor
  · rintro ⟨port, hport, rfl, rfl⟩
    exact ⟨hport, rfl⟩
  · rintro ⟨hport, rfl⟩
    exact ⟨id, hport, rfl, rfl⟩

end Node

namespace Graph

theorem mem_ports {g : Graph} {p : Port} : p ∈ g.ports ↔ ∃ n ∈ g.nodes, p ∈ n.ports :=
  List.mem_flatMap

theorem mem_portIds {g : Graph} {id : PortId} :
    id ∈ g.portIds ↔ ∃ n ∈ g.nodes, id ∈ n.portIds := by
  simp only [portIds, ports, List.map_flatMap, List.mem_flatMap, Node.portIds]

theorem portIds_eq_flatMap (g : Graph) : g.portIds = g.nodes.flatMap Node.portIds := by
  simp only [portIds, ports, List.map_flatMap]
  rfl

end Graph

end ScriptGraph
