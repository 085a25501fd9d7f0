import ScriptGraph.Proofs.Emit.Flow

/-!
# Statements and their layout

A chain of control stands for a tree of statements.  Each statement names the node it comes from and
is followed by the rest of its chain; branches and loops hold the trees of their bodies.
`Statements.render` lays a tree out, and `Statements.nodes` lists its nodes in the order in which
they are written.  A control structure without a condition has no lines of its own, only a warning
(`omission?`).

Which tree a chain stands for is said by the relation `Chain`, one rule for each kind of statement,
without reference to the walk.  A chain stands for one tree at most (`Chain.unique`),
and in a regular drawing everything that an output drives stands for one (`Regular.exists_chain`):
the way downstream ends, and on it there is nothing but statements.
-/

namespace ScriptGraph

open Relation

/-- A chain of statements, as a tree. -/
inductive Statements where
  | done
  /-- a plain statement with its line, if it has one -/
  | plain (node : Node) (text : Option String) (rest : Statements)
  /-- a control structure that is left out for want of a condition -/
  | skip (node : Node) (rest : Statements)
  | branch (node : Node) (condition : String) (yes rest : Statements)
  | branchElse (node : Node) (condition : String) (yes no rest : Statements)
  | forEach (node : Node) (name list : String) (body rest : Statements)
  | repeatWhile (node : Node) (condition : String) (body rest : Statements)

/-- A line behind the spaces of its depth. -/
def pad (width depth : Nat) (text : String) : String :=
  String.ofList (List.replicate (width * depth) ' ') ++ text

/-- The lines of a body.  One that would be empty is a colon. -/
def bodyLines (width depth : Nat) (lines : List String) : List String :=
  if lines = [] then [pad width depth ":"] else lines

/-- The line of a plain statement, unless there is none or it is empty. -/
def lineOf (width depth : Nat) : Option String → List String
  | none => []
  | some text => if text.isEmpty then [] else [pad width depth text]

namespace Statements

/-- The lines of a tree at a depth: every line behind the spaces of its depth, bodies one level
deeper, and every control structure closed at the depth where it was opened. -/
def render (width : Nat) : Nat → Statements → List String
  | _, .done => []
  | depth, .plain _ text rest => lineOf width depth text ++ rest.render width depth
  | depth, .skip _ rest => rest.render width depth
  | depth, .branch _ condition yes rest =>
    pad width depth ("if " ++ condition ++ "; then") ::
      (bodyLines width (depth + 1) (yes.render width (depth + 1)) ++
      pad width depth "fi" :: rest.render width depth)
  | depth, .branchElse _ condition yes no rest =>
    pad width depth ("if " ++ condition ++ "; then") ::
      (bodyLines width (depth + 1) (yes.render width (depth + 1)) ++
      pad width depth "else" ::
      (bodyLines width (depth + 1) (no.render width (depth + 1)) ++
      pad width depth "fi" :: rest.render width depth))
  | depth, .forEach _ name list body rest =>
    pad width depth ("for " ++ name ++ " in " ++ list ++ "; do") ::
      (bodyLines width (depth + 1) (body.render width (depth + 1)) ++
      pad width depth "done" :: rest.render width depth)
  | depth, .repeatWhile _ condition body rest =>
    pad width depth ("while " ++ condition ++ "; do") ::
      (bodyLines width (depth + 1) (body.render width (depth + 1)) ++
      pad width depth "done" :: rest.render width depth)

/-- The nodes of a tree in the order of their statements. -/
def nodes : Statements → List Node
  | .done => []
  | .plain node _ rest => node :: rest.nodes
  | .skip node rest => node :: rest.nodes
  | .branch node _ yes rest => node :: (yes.nodes ++ rest.nodes)
  | .branchElse node _ yes no rest => node :: (yes.nodes ++ (no.nodes ++ rest.nodes))
  | .forEach node _ _ body rest => node :: (body.nodes ++ rest.nodes)
  | .repeatWhile node _ body rest => node :: (body.nodes ++ rest.nodes)

end Statements

/-- The control structure that a behaviour is, if it needs a condition. -/
def Behaviour.construct? : Behaviour → Option Construct
  | .branch => some .branch
  | .repeatWhile => some .loop
  | _ => none

theorem Behaviour.exists_construct {behaviour : Behaviour}
    (hcases : behaviour ∈ [.branch, .repeatWhile]) :
    ∃ construct, behaviour.construct? = some construct := by
  simp only [List.mem_cons, List.not_mem_nil, or_false] at hcases
  rcases hcases with rfl | rfl
  · exact ⟨.branch, rfl⟩
  · exact ⟨.loop, rfl⟩

theorem Behaviour.construct?_of_isPlain {behaviour : Behaviour}
    (hplain : behaviour.isPlain = true) : behaviour.construct? = none := by
  cases behaviour <;> first | rfl | cases hplain

namespace Drawing

/-- The condition of a control structure, if it resolves. -/
def guard? (D : Drawing) (n : Node) : Option String :=
  D.resolveCondition D.condition? n "Condition"

/-- The list that a loop runs through. -/
def loopList (D : Drawing) (n : Node) : String :=
  D.resolveLiteral D.value? n "List" "list" "*"

/-- The warning that a node is left out, if it is. -/
def omission? (D : Drawing) (n : Node) : Option Warning :=
  match D.guard? n with
  | some _ => none
  | none => ((D.behaviour? n).bind Behaviour.construct?).map (.missingCondition n.id n.title)

section

variable {D : Drawing} {n : Node} {behaviour : Behaviour}

theorem omission?_of_guard {condition : String} (hguard : D.guard? n = some condition) :
    D.omission? n = none := by
  rw [omission?, hguard]

theorem omission?_of_behaviour (hbehaviour : D.behaviour? n = some behaviour)
    (hconstruct : behaviour.construct? = none) : D.omission? n = none := by
  rw [omission?, hbehaviour, Option.bind_some, hconstruct]
  split <;> rfl

theorem omission?_of_construct {construct : Construct}
    (hbehaviour : D.behaviour? n = some behaviour)
    (hconstruct : behaviour.construct? = some construct) (hguard : D.guard? n = none) :
    D.omission? n = some (.missingCondition n.id n.title construct) := by
  rw [omission?, hguard, hbehaviour, Option.bind_some, hconstruct]
  rfl

theorem exists_of_omission? {w : Warning} (hw : D.omission? n = some w) :
    ∃ construct, w = .missingCondition n.id n.title construct := by
  rw [omission?] at hw
  split at hw
  · cases hw
  · obtain ⟨construct, -, rfl⟩ := Option.map_eq_some_iff.mp hw
    exact ⟨construct, rfl⟩

end

/-- What a chain of control stands for: the chain that begins at a node, or the one of an output
that drives none. -/
inductive Chain (D : Drawing) : Option Node → Statements → Prop
  | stop : Chain D none .done
  | plain {n : Node} {behaviour : Behaviour} {rest : Statements} :
      D.behaviour? n = some behaviour → behaviour.isPlain = true → Chain D (D.successor? n) rest →
      Chain D (some n) (.plain n (D.plainLine n behaviour) rest)
  | skip {n : Node} {behaviour : Behaviour} {rest : Statements} :
      D.behaviour? n = some behaviour → behaviour ∈ [.branch, .repeatWhile] → D.guard? n = none →
      Chain D (D.next? n "Next") rest → Chain D (some n) (.skip n rest)
  | branch {n : Node} {condition : String} {yes rest : Statements} :
      D.behaviour? n = some .branch → D.guard? n = some condition →
      outputConnected n "False" = false → Chain D (D.next? n "True") yes →
      Chain D (D.next? n "Next") rest → Chain D (some n) (.branch n condition yes rest)
  | branchElse {n : Node} {condition : String} {yes no rest : Statements} :
      D.behaviour? n = some .branch → D.guard? n = some condition →
      outputConnected n "False" = true → Chain D (D.next? n "True") yes →
      Chain D (D.next? n "False") no → Chain D (D.next? n "Next") rest →
      Chain D (some n) (.branchElse n condition yes no rest)
  | forEach {n : Node} {body rest : Statements} :
      D.behaviour? n = some .forEach → Chain D (D.next? n "Loop Body") body →
      Chain D (D.next? n "Next") rest →
      Chain D (some n) (.forEach n (loopVariable n) (D.loopList n) body rest)
  | repeatWhile {n : Node} {condition : String} {body rest : Statements} :
      D.behaviour? n = some .repeatWhile → D.guard? n = some condition →
      Chain D (D.next? n "Body") body → Chain D (D.next? n "Next") rest →
      Chain D (some n) (.repeatWhile n condition body rest)

/-- A chain stands for one tree at most. -/
theorem Chain.unique {D : Drawing} {target : Option Node} {S T : Statements} (hS : D.Chain target S)
    (hT : D.Chain target T) : S = T := by
  -- behaviour, condition and the output for `else` tell the rules apart
  induction hS generalizing T with
  | stop => cases hT; rfl
  | plain hbehaviour hplain _ ih => cases hT <;> grind [Behaviour.isPlain]
  | skip hbehaviour hcases hguard _ ih => cases hT <;> grind [Behaviour.isPlain]
  | branch hbehaviour hguard hfalse _ _ ihYes ihRest => cases hT <;> grind [Behaviour.isPlain]
  | branchElse hbehaviour hguard hfalse _ _ _ ihYes ihNo ihRest =>
      cases hT <;> grind [Behaviour.isPlain]
  | forEach hbehaviour _ _ ihBody ihRest => cases hT <;> grind [Behaviour.isPlain]
  | repeatWhile hbehaviour hguard _ _ ihBody ihRest => cases hT <;> grind [Behaviour.isPlain]

/-! ## Every chain stands for a tree -/

/-- Some control output of the drawing drives the node. -/
def Driven (D : Drawing) (m : Node) : Prop :=
  ∃ n ∈ D.graph.nodes, ∃ p, D.Drives n p m

theorem Driven.mem_nodes {D : Drawing} (h : D.graph.WellFormed) {m : Node} (hm : D.Driven m) :
    m ∈ D.graph.nodes := by
  obtain ⟨n, hn, p, hdrives⟩ := hm
  exact (h.leads_of_execTarget? hn hdrives.mem_outputs hdrives.target).1

/-- A statement stands for a tree if the chains after it do. -/
theorem Chain.exists_of_after {D : Drawing} {m : Node} {behaviour : Behaviour}
    (hbehaviour : D.behaviour? m = some behaviour)
    (hcases : behaviour.isPlain = true ∨ behaviour ∈ [.branch, .forEach, .repeatWhile])
    (hsuccessor : ∃ S, D.Chain (D.successor? m) S)
    (hnext : ∀ output ∈ behaviour.outlets, ∃ S, D.Chain (D.next? m output) S) :
    ∃ S, D.Chain (some m) S := by
  rcases hcases with hplain | hcases
  · obtain ⟨rest, hrest⟩ := hsuccessor
    exact ⟨_, .plain hbehaviour hplain hrest⟩
  simp only [List.mem_cons, List.not_mem_nil, or_false] at hcases
  rcases hcases with rfl | rfl | rfl
  · obtain ⟨rest, hrest⟩ := hnext "Next" (by simp [Behaviour.outlets])
    cases hguard : D.guard? m with
    | none => exact ⟨_, .skip hbehaviour (by simp) hguard hrest⟩
    | some condition =>
        obtain ⟨yes, hyes⟩ := hnext "True" (by simp [Behaviour.outlets])
        cases hfalse : outputConnected m "False" with
        | false => exact ⟨_, .branch hbehaviour hguard hfalse hyes hrest⟩
        | true =>
            obtain ⟨no, hno⟩ := hnext "False" (by simp [Behaviour.outlets])
            exact ⟨_, .branchElse hbehaviour hguard hfalse hyes hno hrest⟩
  · obtain ⟨body, hbody⟩ := hnext "Loop Body" (by simp [Behaviour.outlets])
    obtain ⟨rest, hrest⟩ := hnext "Next" (by simp [Behaviour.outlets])
    exact ⟨_, .forEach hbehaviour hbody hrest⟩
  · obtain ⟨rest, hrest⟩ := hnext "Next" (by simp [Behaviour.outlets])
    cases hguard : D.guard? m with
    | none => exact ⟨_, .skip hbehaviour (by simp) hguard hrest⟩
    | some condition =>
        obtain ⟨body, hbody⟩ := hnext "Body" (by simp [Behaviour.outlets])
        exact ⟨_, .repeatWhile hbehaviour hguard hbody hrest⟩

namespace Regular

variable {D : Drawing} (h : D.Regular)
include h

/-- What a control structure goes on at is driven, and lies downstream. -/
theorem driven_of_next? {n m : Node} (hn : n ∈ D.graph.nodes) {behaviour : Behaviour}
    (hbehaviour : D.behaviour? n = some behaviour) {output : String}
    (houtlet : output ∈ behaviour.outlets) (hnext : D.next? n output = some m) :
    D.Driven m ∧ Leads D.graph.edges n.id m.id := by
  obtain ⟨p, hdrives, -⟩ := h.drives_of_next? hn hbehaviour houtlet hnext
  exact ⟨⟨n, hn, p, hdrives⟩, (leads_of_next? h.wellFormed hn hnext).2⟩

theorem driven_of_successor? {n m : Node} (hn : n ∈ D.graph.nodes)
    (hnext : D.successor? n = some m) : D.Driven m ∧ Leads D.graph.edges n.id m.id := by
  obtain ⟨p, hdrives⟩ := drives_of_successor? hnext
  exact ⟨⟨n, hn, p, hdrives⟩, (leads_of_successor? h.wellFormed hn hnext).2⟩

/-- A chain that begins at a driven node stands for a tree. -/
theorem exists_chain {m : Node} (hm : D.Driven m) : ∃ S, D.Chain (some m) S := by
  -- the walk goes downstream, so the chains after this one are there already
  induction hid : m.id using h.acyclic.wellFounded.induction generalizing m with
  | h id ih =>
      subst hid
      have hnode := hm.mem_nodes h.wellFormed
      have hafter : ∀ {target : Option Node},
          (∀ k, target = some k → D.Driven k ∧ Leads D.graph.edges m.id k.id) →
          ∃ S, D.Chain target S := by
        intro target htarget
        cases target with
        | none => exact ⟨.done, .stop⟩
        | some k =>
            obtain ⟨hdriven, hleads⟩ := htarget k rfl
            exact ih k.id (.single hleads) hdriven rfl
      obtain ⟨n, hn, p, hdrives⟩ := hm
      obtain ⟨behaviour, hbehaviour, hcases⟩ := h.behaviour_of_drives hn hdrives
      exact Chain.exists_of_after hbehaviour hcases
        (hafter fun k => h.driven_of_successor? hnode)
        fun output houtlet => hafter fun k => h.driven_of_next? hnode hbehaviour houtlet

/-- What an output drives, if it drives anything, stands for a tree. -/
theorem exists_chain_of_target {target : Option Node}
    (htarget : ∀ m, target = some m → D.Driven m) : ∃ S, D.Chain target S := by
  cases target with
  | none => exact ⟨.done, .stop⟩
  | some m => exact h.exists_chain (htarget m rfl)

end Regular

end Drawing

end ScriptGraph
