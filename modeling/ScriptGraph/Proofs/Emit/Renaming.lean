import ScriptGraph.Proofs.Emit.Comparison
import ScriptGraph.Proofs.Graph.Renaming

/-!
# The script does not depend on the identifiers of edges

A drawing with renamed edges compiles to the same script with the same notices
(`compile_renameEdges`), whatever the palette.  Each node corresponds to itself with renamed edges:
it says the same of itself and leads to the same nodes (`parallels_renameEdges`).
-/

namespace ScriptGraph.Drawing

/-- The same drawing with other identifiers for its edges. -/
def renameEdges (ρ : EdgeId → EdgeId) (D : Drawing) : Drawing :=
  ⟨D.graph.renameEdges ρ, D.palette⟩

variable {D : Drawing} {ρ : EdgeId → EdgeId}

/-! ## Look-ups -/

theorem isConnected_renameEdges (p : Port) : (p.renameEdges ρ).isConnected = p.isConnected := by
  cases hedges : p.edges <;> simp [Port.isConnected, Port.renameEdges, hedges]

theorem matches_renameEdges (n : Node) : n.Matches (n.renameEdges ρ) where
  tag_eq := rfl
  properties_eq := rfl
  default_eq input := by
    rw [n.input?_renameEdges, Option.bind_map]
    rfl
  connected_eq output := by
    unfold outputConnected
    rw [n.output?_renameEdges, Option.map_map]
    congr 1
    exact Option.map_congr fun p _ => isConnected_renameEdges p

theorem start?_renameEdges :
    (D.renameEdges ρ).graph.start? = D.graph.start?.map (Node.renameEdges ρ) := by
  unfold Graph.start?
  rw [renameEdges, Graph.renameEdges, List.find?_map]
  rfl

theorem hoisted_renameEdges :
    (D.renameEdges ρ).hoisted = D.hoisted.map (Node.renameEdges ρ) := by
  unfold hoisted
  rw [renameEdges, Graph.renameEdges, List.filter_map]
  rfl

theorem length_renameEdges : (D.renameEdges ρ).graph.nodes.length = D.graph.nodes.length :=
  List.length_map _

section

variable (hwf : D.graph.WellFormed) (hapart : D.graph.RenamedApart ρ) (n : Node)
include hwf hapart

theorem next?_renameEdges (output : String) :
    (D.renameEdges ρ).next? (n.renameEdges ρ) output =
      (D.next? n output).map (Node.renameEdges ρ) := by
  unfold next?
  rw [n.output?_renameEdges, Option.bind_map, Option.map_bind]
  exact Option.bind_congr fun p _ => Graph.execTarget?_renameEdges hwf hapart p.id

theorem successor?_renameEdges :
    (D.renameEdges ρ).successor? (n.renameEdges ρ) =
      (D.successor? n).map (Node.renameEdges ρ) := by
  unfold successor?
  rw [n.execOutput?_renameEdges, Option.bind_map, Option.map_bind]
  exact Option.bind_congr fun p _ => Graph.execTarget?_renameEdges hwf hapart p.id

theorem source?_renameEdges (input : String) :
    (D.renameEdges ρ).source? (n.renameEdges ρ) input =
      (D.source? n input).map (Node.renameEdges ρ) := by
  unfold source?
  rw [n.input?_renameEdges, Option.bind_map, Option.map_bind]
  refine Option.bind_congr fun p _ => ?_
  change ((D.graph.renameEdges ρ).sourceOf? p.id).map Prod.fst =
    ((D.graph.sourceOf? p.id).map Prod.fst).map _
  rw [Graph.sourceOf?_renameEdges hwf hapart, Option.map_map, Option.map_map]
  rfl

end

/-! ## The same script -/

theorem rel_map {α β : Type} (f : α → β) (a : Option α) :
    Option.Rel (fun x y => y = f x) a (a.map f) := by
  cases a with
  | none => exact .none
  | some x => exact .some rfl

section

variable (hwf : D.graph.WellFormed) (hapart : D.graph.RenamedApart ρ)
include hwf hapart

theorem parallels_renameEdges :
    D.Parallels (D.renameEdges ρ) fun n n' => n' = n.renameEdges ρ where
  palette_eq := rfl
  nodes_match := by
    rintro n _ rfl
    exact matches_renameEdges n
  source := by
    rintro n _ rfl input
    rw [source?_renameEdges hwf hapart]
    exact rel_map _ _
  next := by
    rintro n _ rfl output
    rw [next?_renameEdges hwf hapart]
    exact rel_map _ _
  successor := by
    rintro n _ rfl
    rw [successor?_renameEdges hwf hapart]
    exact rel_map _ _

/-- A drawing compiles to the same script, with the same notices, whatever its edges are called. -/
theorem compile_renameEdges (config : Config) :
    (D.renameEdges ρ).compile config = D.compile config := by
  have hcorr := (parallels_renameEdges hwf hapart).corresponds length_renameEdges
  have htracks : Draft.Tracks (fun n n' => n' = n.renameEdges ρ) fun _ d d' => d' = d := by
    refine Draft.tracks_same ?_ ?_ ?_ <;> rintro n _ rfl <;> rfl
  have hdraft : (D.renameEdges ρ).draft config = D.draft config := by
    refine hcorr.draft htracks ?_ ?_ ?_ config rfl
    · intro n n' hn d d' hd
      unfold walk walkDepth
      rw [length_renameEdges]
      exact hcorr.walkWithin htracks _ [] hn hd
    · rw [start?_renameEdges]
      exact rel_map _ _
    · rw [hoisted_renameEdges]
      exact List.forall₂_map_right_iff.mpr (List.forall₂_same.mpr fun _ _ => rfl)
  unfold compile
  rw [hdraft]

end

end ScriptGraph.Drawing
