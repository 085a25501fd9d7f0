import ScriptGraph.Proofs.Emit.Alike
import ScriptGraph.Proofs.Emit.Comparison
import ScriptGraph.Proofs.Session.Pasting

/-!
# What is added to a graph does not show in the script

A script starts from the first start node and from the functions, and it is found by following edges
from there.  So nodes that were added at the end, with edges among themselves only, are never met
(`Extends.parallels`).

What remains are the two bounds of a compilation, which grow with the number of nodes.  A graph
without cycles does not meet them, so values and conditions stay the same (`Extends.corresponds`),
and no walk meets its bound in any case (`walk_eq_of_extends`).
-/

namespace ScriptGraph

open Drawing

variable {K : NodeKind → Prop}

namespace Graph.Extends

variable {g g' : Graph} (h : g.Extends K g') (hwf : g.WellFormed) (hwf' : g'.WellFormed)
  {p : Port} {n : Node}
include h hwf'

/-! ## Look-ups -/

theorem node?_eq (hn : n ∈ g.nodes) : g'.node? n.id = some n :=
  hwf'.node?_eq_some_iff.mpr ⟨h.nodes_subset hn, rfl⟩

include hwf

/-- An old port has the same oldest edge. -/
theorem firstEdge?_eq (hp : p ∈ g.ports) : g'.firstEdge? p.id = g.firstEdge? p.id := by
  have hp' : p ∈ g'.ports := h.ports_subset hp
  cases hhead : p.edges.head? with
  | none => rw [hwf.firstEdge?_eq_none hp hhead, hwf'.firstEdge?_eq_none hp' hhead]
  | some id =>
      obtain ⟨e, he, rfl⟩ := hwf.exists_edge_of_mem hp (List.mem_of_mem_head? hhead)
      rw [(hwf.firstEdge?_eq_some_iff hp).mpr ⟨he, hhead⟩,
        (hwf'.firstEdge?_eq_some_iff hp').mpr ⟨h.edges_subset he, hhead⟩]

theorem execTarget?_eq (hp : p ∈ g.ports) : g'.execTarget? p.id = g.execTarget? p.id := by
  unfold execTarget?
  rw [h.firstEdge?_eq hwf hwf' hp]
  refine Option.bind_congr fun e he => ?_
  obtain ⟨_, _, t, ht, _, _, _, _, _, htarget, _⟩ :=
    hwf.edges_join e ((hwf.firstEdge?_eq_some_iff hp).mp he).1
  rw [htarget, h.node?_eq hwf' ht, hwf.node?_eq_some_iff.mpr ⟨ht, rfl⟩]

theorem sourceOf?_eq (hp : p ∈ g.ports) : g'.sourceOf? p.id = g.sourceOf? p.id := by
  unfold sourceOf?
  rw [h.firstEdge?_eq hwf hwf' hp]
  refine Option.bind_congr fun e he => ?_
  obtain ⟨s, hs, _, _, _, _, _, _, hsource, _⟩ :=
    hwf.edges_join e ((hwf.firstEdge?_eq_some_iff hp).mp he).1
  rw [hsource, h.node?_eq hwf' hs, hwf.node?_eq_some_iff.mpr ⟨hs, rfl⟩]

/-! ## Old nodes in both drawings -/

/-- An old node leads to the same nodes in both drawings, and these are old as well. -/
theorem parallels (palette : Palette) :
    Parallels ⟨g, palette⟩ ⟨g', palette⟩ fun n n' => n' = n ∧ n ∈ g.nodes where
  palette_eq := rfl
  nodes_match := by
    rintro _ n ⟨rfl, -⟩
    exact Node.Matches.refl n
  source := by
    rintro _ n ⟨rfl, hn⟩ input
    have hsame : source? ⟨g', palette⟩ n input = source? ⟨g, palette⟩ n input := by
      refine Option.bind_congr fun p hp => ?_
      have hmem := Node.mem_ports_of_mem_inputs (List.mem_of_find?_eq_some hp)
      rw [h.sourceOf?_eq hwf hwf' (mem_ports.mpr ⟨n, hn, hmem⟩)]
    rw [hsame]
    exact rel_self fun _ => mem_nodes_of_source?
  next := by
    rintro _ n ⟨rfl, hn⟩ output
    have hsame : next? ⟨g', palette⟩ n output = next? ⟨g, palette⟩ n output := by
      refine Option.bind_congr fun p hp => ?_
      have hmem := Node.mem_ports_of_mem_outputs (List.mem_of_find?_eq_some hp)
      exact h.execTarget?_eq hwf hwf' (mem_ports.mpr ⟨n, hn, hmem⟩)
    rw [hsame]
    exact rel_self fun _ => mem_nodes_of_next?
  successor := by
    rintro _ n ⟨rfl, hn⟩
    have hsame : successor? ⟨g', palette⟩ n = successor? ⟨g, palette⟩ n := by
      refine Option.bind_congr fun p hp => ?_
      have hmem := Node.mem_ports_of_mem_outputs (List.mem_of_find?_eq_some hp)
      exact h.execTarget?_eq hwf hwf' (mem_ports.mpr ⟨n, hn, hmem⟩)
    rw [hsame]
    exact rel_self fun _ => mem_nodes_of_successor?

omit hwf hwf' in
theorem length_le : g.nodes.length ≤ g'.nodes.length := by
  obtain ⟨added, hnodes, -⟩ := h.nodes_append
  rw [hnodes, List.length_append]
  exact Nat.le_add_right _ _

/-- Expressions of old nodes may lead further back in the larger drawing, but they do not. -/
theorem corresponds (hacyclic : Acyclic g.edges) (palette : Palette) :
    Corresponds ⟨g, palette⟩ ⟨g', palette⟩ fun n n' => n' = n ∧ n ∈ g.nodes where
  toParallels := h.parallels hwf hwf' palette
  value?_eq := by
    rintro _ n ⟨rfl, hn⟩
    calc value? ⟨g', palette⟩ n
        = valueWithin ⟨g, palette⟩ g'.nodes.length n :=
          (h.parallels hwf hwf' palette).valueWithin_eq _ ⟨rfl, hn⟩
      _ = valueFrom ⟨g, palette⟩ (fun _ => none) g'.nodes.length n := (valueFrom_none _ _).symm
      _ = value? ⟨g, palette⟩ n := valueFrom_eq hwf hacyclic _ h.length_le hn
  condition?_eq := by
    rintro _ n ⟨rfl, hn⟩
    calc condition? ⟨g', palette⟩ n
        = conditionWithin ⟨g, palette⟩ g'.nodes.length n :=
          (h.parallels hwf hwf' palette).conditionWithin_eq _ ⟨rfl, hn⟩
      _ = conditionFrom ⟨g, palette⟩ (fun _ => none) (fun _ => none) g'.nodes.length n :=
          (conditionFrom_none _ _).symm
      _ = condition? ⟨g, palette⟩ n := conditionFrom_eq hwf hacyclic _ _ h.length_le hn

end Graph.Extends

/-! ## The same script -/

namespace Drawing

/-- The same draft on both sides, on behalf of the same nodes. -/
theorem tracks_old (nodes : List Node) :
    Draft.Tracks (fun n n' => n' = n ∧ n ∈ nodes) fun _ d d' => d' = d :=
  Draft.tracks_same (fun hn => congrArg Node.id hn.1) (fun hn => congrArg Node.tag hn.1)
    fun hn => congrArg Node.title hn.1

section

variable {g g' : Graph} (h : g.Extends K g') (hwf : g.WellFormed) (hwf' : g'.WellFormed)
  (hacyclic : Acyclic g.edges) {palette : Palette}
include h hwf hwf' hacyclic

/-- A walk from an old node is the same in both drawings, though it may nest deeper in the larger
one. -/
theorem walk_eq_of_extends {n : Node} (hn : n ∈ g.nodes) (d : Draft) :
    walk ⟨g', palette⟩ n d = walk ⟨g, palette⟩ n d := by
  have hcorr := h.corresponds hwf hwf' hacyclic palette
  have hfree : free ⟨g, palette⟩ d.active < walkDepth ⟨g', palette⟩ :=
    Nat.lt_succ_of_le ((free_le _ _).trans h.length_le)
  calc walk ⟨g', palette⟩ n d
      = walkWithin ⟨g, palette⟩ (walkDepth ⟨g', palette⟩) n d :=
        hcorr.walkWithin (tracks_old g.nodes) _ [] ⟨rfl, hn⟩ rfl
    _ = walk ⟨g, palette⟩ n d := (walkWithin_eq_walk hn hfree).1

/-- A graph that has a start compiles to the same script after additions, unless a function is
added. -/
theorem compile_eq_of_extends (hstart : g.start?.isSome)
    (hplain : ∀ kind, K kind →
      ((palette.behaviour? kind.tag).map Behaviour.hoisted).getD false = false)
    (config : Config) : compile ⟨g', palette⟩ config = compile ⟨g, palette⟩ config := by
  obtain ⟨added, hnodes, hmade⟩ := h.nodes_append
  obtain ⟨start, hfirst⟩ := Option.isSome_iff_exists.mp hstart
  have hfirst' : g'.start? = some start := by
    rw [Graph.start?, hnodes, List.find?_append, ← Graph.start?, hfirst, Option.some_or]
  have hhoisted : hoisted ⟨g', palette⟩ = hoisted ⟨g, palette⟩ := by
    have hnone : (added.filter fun n =>
        ((behaviour? ⟨g', palette⟩ n).map Behaviour.hoisted).getD false) = [] := by
      refine List.filter_eq_nil_iff.mpr fun n hn => ?_
      obtain ⟨kind, hkind, hof⟩ := hmade n hn
      rw [behaviour?, hof.tag_eq, hplain kind hkind]
      exact Bool.false_ne_true
    unfold hoisted
    rw [hnodes, List.filter_append, hnone, List.append_nil]
    rfl
  have hdraft : draft ⟨g', palette⟩ config = draft ⟨g, palette⟩ config := by
    refine (h.corresponds hwf hwf' hacyclic palette).draft (R := fun _ d d' => d' = d)
      (tracks_old g.nodes) ?_ ?_ ?_ config rfl
    · rintro _ n ⟨rfl, hn⟩ _ d rfl
      exact walk_eq_of_extends h hwf hwf' hacyclic hn d
    · change Option.Rel _ g.start? g'.start?
      rw [hfirst, hfirst']
      exact .some ⟨rfl, List.mem_of_find?_eq_some hfirst⟩
    · rw [hhoisted]
      refine List.forall₂_same.mpr fun n hn => ⟨rfl, List.mem_of_mem_filter hn⟩
  unfold compile
  rw [hdraft]

end

/-- Pasting a fragment into a drawing that a session can come to, and that has a start, leaves its
script as it was, with everything noticed on the way, unless the fragment has a node that is written
among the functions.  The palette may have built-in behaviours and those of `Custom`, all of which
look at their node and at what its ports lead to; a behaviour that looked at the whole graph, such
as the number of its nodes, is not among them. -/
theorem pasting_keeps_script {g : Graph} (hg : g.Reachable K) (hstart : g.start?.isSome)
    {palette : Palette} {f : Fragment}
    (hplain : ∀ kind, f.Uses palette kind → kind.behaviour.hoisted = false) {offset : Position}
    {ids : IdSource} {pasted : Fragment.Pasted}
    (hpaste : (f.paste palette g offset ids).outcome = .ok pasted)
    (hfresh : g.Fresh ids pasted.ids) (config : Config) :
    compile ⟨pasted.graph, palette⟩ config = compile ⟨g, palette⟩ config := by
  have hwf : g.WellFormed := hg.sound.wellFormed
  obtain ⟨hwf', hextends⟩ := Graph.Extends.paste hwf hpaste hfresh
  refine compile_eq_of_extends hextends hwf hwf' hg.acyclic hstart (fun kind huses => ?_) config
  have ⟨entry, _, hkind⟩ := huses
  rw [Palette.behaviour?, Palette.tag_of_get? hkind, hkind]
  exact hplain kind huses

/-- A start of its own, two greetings after each other, and a test without a condition.  Edges
compete for an input, close a ring and lead nowhere. -/
def clutter : Fragment :=
  let entry (kind : NodeKind) : FragmentNode := ⟨kind.tag, kind.title, .origin, kind.properties⟩
  { nodes := [entry .start, entry .echo, entry .echo, entry .branch]
    edges := [⟨0, 0, 1, 0⟩, ⟨2, 0, 1, 0⟩, ⟨1, 0, 2, 0⟩, ⟨0, 0, 3, 0⟩, ⟨7, 0, 1, 0⟩] }

theorem pasting_keeps_script_clutter :
    (Graph.sample.Reachable fun _ => True) ∧ Graph.sample.start?.isSome ∧
    (∀ kind, clutter.Uses .standard kind → kind.behaviour.hoisted = false) ∧
    ∃ pasted, (clutter.paste .standard .sample .origin Graph.laterIds).outcome = .ok pasted ∧
      Graph.sample.Fresh Graph.laterIds pasted.ids ∧
      pasted.graph.nodes.length = Graph.sample.nodes.length + 4 ∧
      pasted.graph.edges.length = Graph.sample.edges.length + 2 ∧
      compile ⟨pasted.graph, .standard⟩ {} = compile ⟨.sample, .standard⟩ {} := by
  have hreach : Graph.sample.Reachable fun _ => True := Graph.sample_reachable fun _ _ => trivial
  have hstart : Graph.sample.start?.isSome := by decide
  have hplain : ∀ kind, clutter.Uses .standard kind → kind.behaviour.hoisted = false := by
    rintro kind ⟨entry, hentry, hkind⟩
    have hall : ∀ entry ∈ clutter.nodes, ∀ kind ∈ Palette.standard.get? entry.tag,
        kind.behaviour.hoisted = false := by decide
    exact hall entry hentry kind hkind
  have hpaste : (clutter.paste .standard .sample .origin Graph.laterIds).outcome = .ok _ := rfl
  refine ⟨hreach, hstart, hplain, _, hpaste, Graph.sample_fresh (by decide), by decide,
    by decide, ?_⟩
  exact pasting_keeps_script hreach hstart hplain hpaste (Graph.sample_fresh (by decide)) {}

end Drawing

end ScriptGraph
