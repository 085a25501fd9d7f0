import Mathlib.Data.Fintype.EquivFin
import Mathlib.Data.List.Perm.Subperm
import Mathlib.Logic.Relation
import ScriptGraph.Graph.Reach

/-!
# Paths along edges

A node leads to another when an edge runs from the one to the other.  This module relates the search
of `ScriptGraph.Graph.Reach` to paths of such steps, and states when a list of edges has no cycle.

* `Graph.exists_search_eq_some`: the search comes to an answer, and finds the goal exactly when a path
  leads to it from a node on the stack.  It may pass over visited nodes, because a path to the goal
  comes out of these on the stack (`Searching.exists_path_of_visited`); and it ends, because each
  step takes a node from the stack and each edge puts one there once (`Graph.unfollowed_cons`).
* `reaches_eq_true_iff`: hence `Graph.reaches` decides the existence of a path.
* `acyclic_append_singleton`: a new edge closes no cycle if nothing leads back from its target.
* `Acyclic.append`, `Acyclic.of_map`: edges in two places close no cycle together, and neither do
  copies of edges.
* `Acyclic.wellFounded`, `Acyclic.wellFounded_upstream`: without cycles the ways downstream and
  upstream end, so they can be used for induction.
-/

namespace ScriptGraph

open Relation

/-- Some edge of a list runs from one node to another. -/
def Leads (edges : List Edge) (a b : NodeId) : Prop :=
  ∃ e ∈ edges, e.source.node = a ∧ e.target.node = b

/-- A path, possibly empty, leads from one node to another. -/
abbrev Path (edges : List Edge) : NodeId → NodeId → Prop :=
  ReflTransGen (Leads edges)

/-- No path along edges comes back to where it started. -/
def Acyclic (edges : List Edge) : Prop :=
  ∀ a, ¬ TransGen (Leads edges) a a

theorem Leads.mono {edges larger : List Edge} (hsub : edges ⊆ larger) {a b : NodeId}
    (h : Leads edges a b) : Leads larger a b := by
  obtain ⟨e, he, hends⟩ := h
  exact ⟨e, hsub he, hends⟩

theorem path_mono {edges larger : List Edge} (hsub : edges ⊆ larger) {a b : NodeId}
    (h : Path edges a b) : Path larger a b :=
  ReflTransGen.mono (fun _ _ => Leads.mono hsub) _ _ h

theorem Acyclic.of_subset {edges larger : List Edge} (hsub : edges ⊆ larger)
    (h : Acyclic larger) : Acyclic edges :=
  fun a hcycle => h a (TransGen.mono (fun _ _ => Leads.mono hsub) _ _ hcycle)

theorem acyclic_nil : Acyclic [] := by
  intro a hcycle
  obtain ⟨b, ⟨e, he, -⟩, -⟩ := TransGen.head'_iff.mp hcycle
  exact absurd he List.not_mem_nil

/-! ## The search follows paths -/

namespace Graph

theorem mem_targets {edges : List Edge} {a b : NodeId} :
    b ∈ targets edges a ↔ Leads edges a b := by
  simp [targets, Leads, and_assoc]

/-- What holds whenever the search takes a node from the stack: the goal was not met, and where the
edges of visited nodes lead to has been visited or is still on the stack. -/
structure Searching (edges : List Edge) (goal : NodeId) (stack visited : List NodeId) : Prop where
  goal_not_mem : goal ∉ visited
  targets_seen : ∀ a ∈ visited, ∀ b, Leads edges a b → b ∈ visited ∨ b ∈ stack

namespace Searching

variable {edges : List Edge} {goal node : NodeId} {stack visited : List NodeId}

theorem start (edges : List Edge) (goal start : NodeId) : Searching edges goal [start] [] where
  goal_not_mem := List.not_mem_nil
  targets_seen := by simp

/-- A path to the goal has to come out of the visited nodes, and comes out on the stack. -/
theorem exists_path_of_visited (h : Searching edges goal stack visited) {a : NodeId}
    (hpath : Path edges a goal) (ha : a ∈ visited) : ∃ b ∈ stack, Path edges b goal := by
  induction hpath using ReflTransGen.head_induction_on with
  | refl => exact absurd ha h.goal_not_mem
  | @head a c hstep hrest ih =>
      rcases h.targets_seen a ha c hstep with hvisited | hstack
      · exact ih hvisited
      · exact ⟨c, hstack, hrest⟩

/-- A node that was visited before can be passed over. -/
theorem skip (h : Searching edges goal (node :: stack) visited) (hnode : node ∈ visited) :
    Searching edges goal stack visited where
  goal_not_mem := h.goal_not_mem
  targets_seen := by
    intro a ha b hstep
    rcases h.targets_seen a ha b hstep with hvisited | hstack
    · exact Or.inl hvisited
    · rcases List.mem_cons.mp hstack with rfl | hstack
      · exact Or.inl hnode
      · exact Or.inr hstack

/-- Any other node is visited by putting its targets on the stack. -/
theorem visit (h : Searching edges goal (node :: stack) visited) (hne : node ≠ goal) :
    Searching edges goal ((targets edges node).reverse ++ stack) (node :: visited) where
  goal_not_mem := by
    rw [List.mem_cons]
    rintro (rfl | hvisited)
    · exact hne rfl
    · exact h.goal_not_mem hvisited
  targets_seen := by
    intro a ha b hstep
    rw [List.mem_cons, List.mem_append, List.mem_reverse]
    rcases List.mem_cons.mp ha with rfl | hvisited
    · exact Or.inr (Or.inl (mem_targets.mpr hstep))
    · rcases h.targets_seen a hvisited b hstep with hvisited | hstack
      · exact Or.inl (Or.inr hvisited)
      · rcases List.mem_cons.mp hstack with rfl | hstack
        · exact Or.inl (Or.inl rfl)
        · exact Or.inr (Or.inr hstack)

/-- Passing over a visited node loses no path. -/
theorem exists_path_skip (h : Searching edges goal (node :: stack) visited)
    (hnode : node ∈ visited) :
    (∃ a ∈ stack, Path edges a goal) ↔ ∃ a ∈ node :: stack, Path edges a goal := by
  constructor
  · rintro ⟨a, ha, hpath⟩
    exact ⟨a, List.mem_cons_of_mem _ ha, hpath⟩
  · rintro ⟨a, ha, hpath⟩
    rcases List.mem_cons.mp ha with rfl | hstack
    · exact (h.skip hnode).exists_path_of_visited hpath hnode
    · exact ⟨a, hstack, hpath⟩

/-- Visiting a node neither loses a path nor makes one up. -/
theorem exists_path_visit (h : Searching edges goal (node :: stack) visited) (hne : node ≠ goal) :
    (∃ a ∈ (targets edges node).reverse ++ stack, Path edges a goal) ↔
      ∃ a ∈ node :: stack, Path edges a goal := by
  constructor
  · rintro ⟨a, ha, hpath⟩
    rcases List.mem_append.mp ha with htarget | hstack
    · have hstep : Leads edges node a := mem_targets.mp (List.mem_reverse.mp htarget)
      exact ⟨node, List.mem_cons_self .., ReflTransGen.head hstep hpath⟩
    · exact ⟨a, List.mem_cons_of_mem _ hstack, hpath⟩
  · rintro ⟨a, ha, hpath⟩
    rcases List.mem_cons.mp ha with rfl | hstack
    · exact (h.visit hne).exists_path_of_visited hpath (List.mem_cons_self ..)
    · exact ⟨a, List.mem_append_right _ hstack, hpath⟩

end Searching

/-- How many edges leave nodes that are not visited yet. -/
def unfollowed (edges : List Edge) (visited : List NodeId) : Nat :=
  (edges.filter fun e => e.source.node ∉ visited).length

/-- The edges that a visit follows are followed from then on. -/
theorem unfollowed_cons (edges : List Edge) {node : NodeId} {visited : List NodeId}
    (hnew : node ∉ visited) :
    unfollowed edges (node :: visited) + (targets edges node).length =
      unfollowed edges visited := by
  have hfollowed : (edges.filter fun e => e.source.node == node) =
      (edges.filter fun e => e.source.node ∉ visited).filter fun e => e.source.node == node := by
    rw [List.filter_filter]
    refine List.filter_congr fun e _ => ?_
    by_cases hsource : e.source.node = node <;> simp [hsource, hnew]
  have hleft : (edges.filter fun e => e.source.node ∉ node :: visited) =
      (edges.filter fun e => e.source.node ∉ visited).filter fun e => !(e.source.node == node) := by
    rw [List.filter_filter]
    refine List.filter_congr fun e _ => ?_
    by_cases hsource : e.source.node = node <;> simp [hsource]
  unfold unfollowed targets
  rw [List.length_map, hfollowed, hleft, Nat.add_comm]
  exact (List.length_eq_length_filter_add _).symm

/-- The search comes to an answer, given a step for each node on the stack and each edge that it has
not followed yet, and the answer is whether a path leads from the stack to the goal. -/
theorem exists_search_eq_some {edges : List Edge} {goal : NodeId} {most : Nat}
    {stack visited : List NodeId} (hmost : stack.length + unfollowed edges visited ≤ most)
    (h : Searching edges goal stack visited) :
    ∃ answer, search edges goal most stack visited = some answer ∧
      (answer = true ↔ ∃ a ∈ stack, Path edges a goal) := by
  induction most generalizing stack visited with
  | zero =>
      have hstack : stack = [] := List.length_eq_zero_iff.mp (by omega)
      exact ⟨false, by rw [hstack, search], by simp [hstack]⟩
  | succ most ih =>
      cases stack with
      | nil => exact ⟨false, rfl, by simp⟩
      | cons node stack =>
          rw [List.length_cons] at hmost
          rw [search]
          split_ifs with hgoal hvisited
          · have hhere : Path edges node goal := hgoal ▸ ReflTransGen.refl
            exact ⟨true, rfl, iff_of_true rfl ⟨node, List.mem_cons_self .., hhere⟩⟩
          · rw [← h.exists_path_skip hvisited]
            exact ih (by omega) (h.skip hvisited)
          · -- the targets that come on the stack are as many as the edges that are followed now
            have hfollowed := unfollowed_cons edges hvisited
            rw [← h.exists_path_visit hgoal]
            refine ih ?_ (h.visit hgoal)
            rw [List.length_append, List.length_reverse]
            omega

/-- The search for a goal from one node comes to its answer with a step for that node and each
edge. -/
theorem exists_search_start (g : Graph) (start goal : NodeId) (more : Nat) :
    ∃ answer, search g.edges goal (g.edges.length + 1 + more) [start] [] = some answer ∧
      (answer = true ↔ Path g.edges start goal) := by
  have hmost : [start].length + unfollowed g.edges [] ≤ g.edges.length + 1 + more := by
    simp [unfollowed]
    omega
  obtain ⟨answer, hanswer, hpath⟩ := exists_search_eq_some hmost (.start g.edges goal start)
  exact ⟨answer, hanswer, by simpa using hpath⟩

end Graph

/-- `reaches` decides whether a path leads from one node to another. -/
theorem reaches_eq_true_iff {g : Graph} {start goal : NodeId} :
    g.reaches start goal = true ↔ Path g.edges start goal := by
  obtain ⟨answer, hanswer, hpath⟩ := Graph.exists_search_start g start goal 0
  rw [Graph.reaches, ← hpath]
  rw [Nat.add_zero] at hanswer
  rw [hanswer, Option.getD_some]

/-- Whatever the edges look like, the search ends, with the same answer however many more steps it
might take, and it answers whether a path of edges, possibly of none, leads from the one node to the
other. -/
theorem Graph.search_decides_path (g : Graph) (start goal : NodeId) :
    (∀ more, search g.edges goal (g.edges.length + 1 + more) [start] [] =
      some (g.reaches start goal)) ∧
    (g.reaches start goal = true ↔ Path g.edges start goal) := by
  refine ⟨fun more => ?_, reaches_eq_true_iff⟩
  obtain ⟨answer, hanswer, hpath⟩ := exists_search_start g start goal more
  rw [hanswer, Option.some_inj, Bool.eq_iff_iff, hpath, reaches_eq_true_iff]

-- a ring of two nodes, with two edges the one way, and a third node that no edge meets
example :
    let id (i : Nat) : Uuid := ⟨BitVec.ofNat 128 i⟩
    let edge (i a b : Nat) : Edge := ⟨⟨id i⟩, ⟨⟨id a⟩, ⟨id 10⟩⟩, ⟨⟨id b⟩, ⟨id 11⟩⟩⟩
    let g : Graph := { edges := [edge 0 1 2, edge 1 1 2, edge 2 2 1] }
    g.reaches ⟨id 2⟩ ⟨id 1⟩ = true ∧ g.reaches ⟨id 1⟩ ⟨id 3⟩ = false ∧
      g.reaches ⟨id 3⟩ ⟨id 3⟩ = true := by
  decide

/-! ## Adding an edge -/

/-- A path that may use a new edge avoids it, or runs up to it and on from it. -/
theorem path_append_singleton {edges : List Edge} {e : Edge} {a b : NodeId}
    (h : Path (edges ++ [e]) a b) :
    Path edges a b ∨ (Path edges a e.source.node ∧ Path edges e.target.node b) := by
  induction h with
  | refl => exact Or.inl ReflTransGen.refl
  | @tail b c _ hstep ih =>
      obtain ⟨f, hf, rfl, rfl⟩ := hstep
      rcases List.mem_append.mp hf with hold | hnew
      · have hlast : Leads edges f.source.node f.target.node := ⟨f, hold, rfl, rfl⟩
        rcases ih with hpath | ⟨hto, hfrom⟩
        · exact Or.inl (hpath.tail hlast)
        · exact Or.inr ⟨hto, hfrom.tail hlast⟩
      · obtain rfl := List.mem_singleton.mp hnew
        rcases ih with hpath | ⟨hto, -⟩
        · exact Or.inr ⟨hpath, ReflTransGen.refl⟩
        · exact Or.inr ⟨hto, ReflTransGen.refl⟩

/-- A new edge closes no cycle if no path leads from its target back to its source. -/
theorem acyclic_append_singleton {edges : List Edge} {e : Edge} (h : Acyclic edges)
    (hback : ¬ Path edges e.target.node e.source.node) : Acyclic (edges ++ [e]) := by
  intro a hcycle
  obtain ⟨b, hpath, f, hf, rfl, rfl⟩ := TransGen.tail'_iff.mp hcycle
  rcases List.mem_append.mp hf with hold | hnew
  · have hlast : Leads edges f.source.node f.target.node := ⟨f, hold, rfl, rfl⟩
    rcases path_append_singleton hpath with hkept | ⟨hto, hfrom⟩
    · exact h _ (TransGen.tail' hkept hlast)
    · exact hback ((hfrom.tail hlast).trans hto)
  · obtain rfl := List.mem_singleton.mp hnew
    rcases path_append_singleton hpath with hkept | ⟨hto, -⟩
    · exact hback hkept
    · exact hback hto

/-! ## Edges in two places -/

/-- Edges in two places that no edge runs between close no cycle together. -/
theorem Acyclic.append {edges more : List Edge} (h : Acyclic edges) (hmore : Acyclic more)
    {P : NodeId → Prop} (hhere : ∀ e ∈ edges, P e.source.node ∧ P e.target.node)
    (hthere : ∀ e ∈ more, ¬ P e.source.node ∧ ¬ P e.target.node) : Acyclic (edges ++ more) := by
  -- a path stays where it starts
  have hstays : ∀ a b, TransGen (Leads (edges ++ more)) a b →
      P b ∧ TransGen (Leads edges) a b ∨ ¬ P b ∧ TransGen (Leads more) a b := by
    intro a b hpath
    induction hpath with
    | single hstep =>
        obtain ⟨e, he, rfl, rfl⟩ := hstep
        rcases List.mem_append.mp he with he | he
        · exact Or.inl ⟨(hhere e he).2, .single ⟨e, he, rfl, rfl⟩⟩
        · exact Or.inr ⟨(hthere e he).2, .single ⟨e, he, rfl, rfl⟩⟩
    | tail _ hstep ih =>
        obtain ⟨e, he, rfl, rfl⟩ := hstep
        rcases List.mem_append.mp he with he | he
        · rcases ih with ⟨-, hpath⟩ | ⟨hnot, -⟩
          · exact Or.inl ⟨(hhere e he).2, hpath.tail ⟨e, he, rfl, rfl⟩⟩
          · exact absurd (hhere e he).1 hnot
        · rcases ih with ⟨hP, -⟩ | ⟨-, hpath⟩
          · exact absurd hP (hthere e he).1
          · exact Or.inr ⟨(hthere e he).2, hpath.tail ⟨e, he, rfl, rfl⟩⟩
  intro a hcycle
  rcases hstays a a hcycle with ⟨-, hcycle⟩ | ⟨-, hcycle⟩
  · exact h a hcycle
  · exact hmore a hcycle

/-- Edges that follow others, node by node, close no cycle if those do not. -/
theorem Acyclic.of_map {edges image : List Edge} (h : Acyclic image) (φ : NodeId → NodeId)
    (hmap : ∀ e ∈ edges, Leads image (φ e.source.node) (φ e.target.node)) : Acyclic edges := by
  intro a hcycle
  refine h (φ a) (hcycle.lift φ ?_)
  rintro _ _ ⟨e, he, rfl, rfl⟩
  exact hmap e he

/-! ## Induction downstream and upstream -/

instance : Finite NodeId :=
  Finite.of_injective (fun id : NodeId => id.uuid.bits.toFin) (by
    rintro ⟨⟨a⟩⟩ ⟨⟨b⟩⟩ h
    simpa using congrArg BitVec.ofFin h)

/-- Without cycles every way downstream ends. -/
theorem Acyclic.wellFounded {edges : List Edge} (h : Acyclic edges) :
    WellFounded fun a b => TransGen (Leads edges) b a := by
  have : IsTrans NodeId fun a b => TransGen (Leads edges) b a :=
    ⟨fun _ _ _ hab hbc => hbc.trans hab⟩
  have : Std.Irrefl fun a b => TransGen (Leads edges) b a := ⟨h⟩
  exact Finite.wellFounded_of_trans_of_irrefl _

/-- Without cycles every way upstream ends. -/
theorem Acyclic.wellFounded_upstream {edges : List Edge} (h : Acyclic edges) :
    WellFounded (TransGen (Leads edges)) := by
  have : Std.Irrefl (TransGen (Leads edges)) := ⟨h⟩
  exact Finite.wellFounded_of_trans_of_irrefl _

end ScriptGraph
