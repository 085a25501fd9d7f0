import ScriptGraph.Proofs.Emit.Meaning
import ScriptGraph.Proofs.Emit.Upstream
import ScriptGraph.Proofs.Session.Agreement
import ScriptGraph.Proofs.Shell.Formula

/-!
# The structure of integer expressions

Operators on integers are drawn as nodes that feed each other, and one node may feed several.  The
formula drawn at a node is what comes out when every operand is put in its place
(`Drawing.Unfolds`).  The text of the node is read as this formula and as no other
(`Drawing.integers_read_as_drawn`), since each expansion brings its own parentheses and a minus sign
is never taken for an operator.
-/

namespace ScriptGraph

open Relation Shell

/-! ## Integer properties -/

namespace Node

/-- A property that is an integer, or zero. -/
def integer (n : Node) (property : String) : Int :=
  match n.property? property with
  | some (.int i) => i.toInt
  | _ => 0

/-- Whether a property is an integer or absent. -/
def hasInteger (n : Node) (property : String) : Bool :=
  match n.property? property with
  | none | some (.int _) => true
  | _ => false

theorem propertyText_eq_toString {n : Node} {property : String}
    (h : n.hasInteger property = true) :
    n.propertyText property "0" = toString (n.integer property) := by
  rw [propertyText, integer]
  rw [hasInteger] at h
  cases hproperty : n.property? property with
  | none => rfl
  | some value =>
      rw [hproperty] at h
      cases value with
      | int i => rfl
      | bool b => cases h
      | text s => cases h

end Node

namespace Drawing

variable {D : Drawing} {n m : Node} {input property : String}

/-! ## What is drawn -/

/-- Whether a node is an integer, or an operator on integers whose operands are fed to it or are
integers. -/
def isIntegral (D : Drawing) (n : Node) : Bool :=
  match D.behaviour? n with
  | some .integer => n.hasInteger NodeKind.literalProperty
  | some (.arithmetic _) =>
    ((D.source? n "A").isSome || n.hasInteger "a") && ((D.source? n "B").isSome || n.hasInteger "b")
  | _ => false

/-- A node with nothing but integers and operators on them upstream. -/
def IntegralCone (D : Drawing) (n : Node) : Prop :=
  ∀ m, ReflTransGen D.FedBy n m → D.isIntegral m = true

/-- The formula that is drawn at a node. -/
inductive Unfolds (D : Drawing) : Node → Formula → Prop
  | literal {n : Node} : D.behaviour? n = some .integer →
      Unfolds D n (.literal (n.integer NodeKind.literalProperty))
  | operation {n : Node} {op : ArithOp} {a b : Formula} : D.behaviour? n = some (.arithmetic op) →
      (∀ m, D.source? n "A" = some m → Unfolds D m a) →
      (D.source? n "A" = none → a = .literal (n.integer "a")) →
      (∀ m, D.source? n "B" = some m → Unfolds D m b) →
      (D.source? n "B" = none → b = .literal (n.integer "b")) →
      Unfolds D n (.operation op a b)

/-- One formula is drawn at a node at most. -/
theorem Unfolds.unique {e e' : Formula} (h : D.Unfolds n e) (h' : D.Unfolds n e') : e = e' := by
  induction h generalizing e' with
  | literal hkind =>
      cases h' with
      | literal _ => rfl
      | operation hkind' _ _ _ _ => cases hkind.symm.trans hkind'
  | @operation n op a b hkind _ hfree _ hfree' ih ih' =>
      cases h' with
      | literal hkind' => cases hkind.symm.trans hkind'
      | @operation _ _ a' b' hkind' hfed hfree₁ hfed' hfree₁' =>
          cases hkind.symm.trans hkind'
          have hleft : a = a' := by
            cases hsource : D.source? n "A" with
            | none => rw [hfree hsource, hfree₁ hsource]
            | some m => exact ih m hsource (hfed m hsource)
          have hright : b = b' := by
            cases hsource : D.source? n "B" with
            | none => rw [hfree' hsource, hfree₁' hsource]
            | some m => exact ih' m hsource (hfed' m hsource)
          rw [hleft, hright]

/-! ## What is written -/

/-- The node has a text as a value, and it stands for the formula drawn there. -/
def Calculates (D : Drawing) (n : Node) : Prop :=
  ∃ e text, D.Unfolds n e ∧ D.value? n = some text ∧ Denotes text.toList e

/-- The text of an operand stands for the formula fed to it or for the property in its place. -/
theorem denotes_operand (hdefault : ∀ p ∈ n.input? input, p.spec.default = none)
    (hfed : ∀ m, D.source? n input = some m → D.Calculates m)
    (hfree : D.source? n input = none → n.hasInteger property = true) :
    ∃ e, (∀ m, D.source? n input = some m → D.Unfolds m e) ∧
      (D.source? n input = none → e = .literal (n.integer property)) ∧
      Denotes (D.resolveValue D.value? n input property "0").toList e := by
  cases hsource : D.source? n input with
  | none =>
      refine ⟨.literal (n.integer property), nofun, fun _ => rfl, ?_⟩
      have htext : fallback n input property "0" = n.propertyText property "0" := by
        rw [fallback, Node.propertyText]
        cases n.property? property with
        | some value => rfl
        | none =>
            cases hinput : n.input? input with
            | none => rfl
            | some p => simp [hdefault p hinput]
      rw [resolveValue, hsource, Option.bind_none, Option.getD_none, htext,
        Node.propertyText_eq_toString (hfree hsource)]
      exact denotes_toString _
  | some m =>
      obtain ⟨e, text, hunfolds, hvalue, hdenotes⟩ := hfed m hsource
      refine ⟨e, fun m' hm' => Option.some.inj hm' ▸ hunfolds, nofun, ?_⟩
      rw [resolveValue, hsource, Option.bind_some, hvalue, Option.getD_some]
      exact hdenotes

/-- No operand of a built-in kind has a default. -/
theorem default_operand {g : Graph} (h : g.Reachable Palette.standard.Has) (hn : n ∈ g.nodes)
    (hinput : input ∈ ["A", "B"]) : ∀ p ∈ n.input? input, p.spec.default = none := by
  have hkinds : ∀ kind ∈ NodeKind.builtin, ∀ s ∈ kind.inputs, s.name ∈ ["A", "B"] →
      s.default = none := by decide
  intro p hp
  have hname : p.name = input := by simpa using List.find?_some hp
  obtain ⟨kind, hkind, hof, -⟩ := exists_builtin h hn
  have hspec : p.spec ∈ kind.inputs :=
    hof.inputs_eq ▸ List.mem_map_of_mem (List.mem_of_find?_eq_some hp)
  have hoperand : p.name ∈ ["A", "B"] := hname ▸ hinput
  exact hkinds kind hkind p.spec hspec hoperand

section

variable (hwf : D.graph.WellFormed) (hacyclic : Acyclic D.graph.edges)
  (hdefault : ∀ n ∈ D.graph.nodes, ∀ input ∈ ["A", "B"],
    ∀ p ∈ n.input? input, p.spec.default = none)
include hwf hacyclic hdefault

/-- A node calculates what is drawn there if the nodes that feed it do. -/
theorem calculates_of_fedBy (hn : n ∈ D.graph.nodes) (hintegral : D.isIntegral n = true)
    (ih : ∀ m, D.FedBy n m → D.Calculates m) : D.Calculates n := by
  have hvalue := value?_eq hwf hacyclic hn
  have hoperand : ∀ {input property : String}, input ∈ ["A", "B"] →
      ((D.source? n input).isSome || n.hasInteger property) = true →
      ∃ e, (∀ m, D.source? n input = some m → D.Unfolds m e) ∧
        (D.source? n input = none → e = .literal (n.integer property)) ∧
        Denotes (D.resolveValue D.value? n input property "0").toList e := by
    intro input property hinput hgiven
    refine denotes_operand (hdefault n hn input hinput) (fun m hm => ih m ⟨input, hm⟩) ?_
    intro hnone
    simpa [hnone] using hgiven
  rw [isIntegral] at hintegral
  split at hintegral
  · rename_i hkind
    refine ⟨_, _, .literal hkind, by rw [hvalue, hkind]; rfl, ?_⟩
    rw [Node.propertyText_eq_toString hintegral]
    exact denotes_toString _
  · rename_i op hkind
    obtain ⟨hgiven, hgiven'⟩ := Bool.and_eq_true_iff.mp hintegral
    obtain ⟨a, hfed, hfree, hdenotes⟩ := hoperand (by simp) hgiven
    obtain ⟨b, hfed', hfree', hdenotes'⟩ := hoperand (by simp) hgiven'
    refine ⟨.operation op a b, _, .operation hkind hfed hfree hfed' hfree',
      by rw [hvalue, hkind]; rfl, ?_⟩
    have hblank : Blank [' '] := by simp [Blank, isBlank]
    have hsymbol : op.symbol.toList = [operatorChar op] := by cases op <;> rfl
    simpa [operandTexts, String.toList_append, hsymbol] using
      Denotes.operation op hdenotes hdenotes' hblank hblank
  · cases hintegral

/-- A node calculates what is drawn there if there is nothing but integers upstream. -/
theorem calculates (hn : n ∈ D.graph.nodes) (hcone : D.IntegralCone n) : D.Calculates n := by
  refine upstream_induction (P := fun n => D.IntegralCone n → D.Calculates n) hwf hacyclic ?_ hn
    hcone
  intro n hn ih hcone
  refine calculates_of_fedBy hwf hacyclic hdefault hn (hcone n .refl) ?_
  rintro m ⟨input, hsource⟩
  refine ih m (leads_of_source? hwf hn hsource).1 ⟨input, hsource⟩ fun m' hpath => ?_
  exact hcone m' (.head ⟨input, hsource⟩ hpath)

end

/-! ## Reading an expression back -/

/-- In a drawing made with the standard palette, a node that is made of integers and of operators on
them alone has a text as a value, and this text stands for the formula drawn there and for no
other.  So nodes with the same text have the same formula drawn at them. -/
theorem integers_read_as_drawn {g : Graph} (h : g.Reachable Palette.standard.Has) {n : Node}
    (hn : n ∈ g.nodes) (hcone : IntegralCone ⟨g, .standard⟩ n) :
    let D : Drawing := ⟨g, .standard⟩
    ∃ drawn text, (∀ e, D.Unfolds n e ↔ e = drawn) ∧ D.value? n = some text ∧
      (∀ e, Denotes text.toList e ↔ e = drawn) ∧
      ∀ (g' : Graph) (n' : Node), g'.Reachable Palette.standard.Has → n' ∈ g'.nodes →
        IntegralCone ⟨g', .standard⟩ n' → value? ⟨g', .standard⟩ n' = some text →
        ∀ e, Unfolds ⟨g', .standard⟩ n' e → e = drawn := by
  intro D
  have hcalculates : ∀ (g : Graph) (n : Node), g.Reachable Palette.standard.Has → n ∈ g.nodes →
      IntegralCone ⟨g, .standard⟩ n → Calculates ⟨g, .standard⟩ n := by
    intro g n h hn hcone
    have hreg := regular_of_reachable h
    refine calculates hreg.wellFormed hreg.acyclic (fun n hn input hinput => ?_) hn hcone
    exact default_operand h hn hinput
  obtain ⟨drawn, text, hdrawn, hvalue, hdenotes⟩ := hcalculates g n h hn hcone
  refine ⟨drawn, text, fun e => ⟨fun he => he.unique hdrawn, fun he => he ▸ hdrawn⟩, hvalue,
    fun e => ⟨fun he => he.unique hdenotes, fun he => he ▸ hdenotes⟩, ?_⟩
  intro g' n' h' hn' hcone' hsame e he
  obtain ⟨drawn', text', hdrawn', hvalue', hdenotes'⟩ := hcalculates g' n' h' hn' hcone'
  obtain rfl := Option.some.inj (hsame.symm.trans hvalue')
  rw [he.unique hdrawn']
  exact hdenotes'.unique hdenotes

end Drawing

/-- The square of a difference of two negative numbers, one of which is fed to it and one of which
it keeps itself. -/
def Graph.squared : Graph :=
  ((sketch [.intConstant, .arithmetic "subtraction" "Subtraction" .sub (0xE6, 0x7E, 0x22),
      .arithmetic "multiplication" "Multiplication" .mul (0xD3, 0x54, 0x00)]
    [wire 0 1 3, wire 1 5 7, wire 2 5 8]).updateNode
    ⟨⟨0⟩⟩ fun n => n.edit "Int" ⟨0, 0⟩ (.ofList [("value", .int (-5))])).updateNode
    ⟨⟨2⟩⟩ fun n => n.edit "Subtraction" ⟨0, 0⟩ (.ofList [("b", .int (-30))])

theorem Drawing.integers_read_as_drawn_squared :
    let D : Drawing := ⟨.squared, .standard⟩
    Graph.squared.Reachable Palette.standard.Has ∧ ∃ n ∈ Graph.squared.nodes, n.id = ⟨⟨6⟩⟩ ∧
      D.IntegralCone n ∧ D.value? n = some "$(($((-5 - -30)) * $((-5 - -30))))" ∧
      ∃ drawn, (∀ e, D.Unfolds n e ↔ e = drawn) ∧
        ∀ e, Denotes "$(($((-5 - -30)) * $((-5 - -30))))".toList e ↔ e = drawn := by
  intro D
  have hreach : Graph.squared.Reachable Palette.standard.Has := by
    refine .edit (.edit (Graph.sketch_reachable (fun kind hkind => ?_) _) ..) ..
    refine Palette.standard_has_iff.mpr ?_
    revert kind
    simp [NodeKind.builtin, NodeKind.operators]
  obtain ⟨n, hn, hid, hvalue⟩ : ∃ n ∈ Graph.squared.nodes, n.id = ⟨⟨6⟩⟩ ∧
      D.value? n = some "$(($((-5 - -30)) * $((-5 - -30))))" := by
    decide
  have hcone : D.IntegralCone n := by
    have hall : ∀ m ∈ Graph.squared.nodes, D.isIntegral m = true := by decide
    intro m hpath
    refine hall m ?_
    induction hpath with
    | refl => exact hn
    | tail _ hfed ih =>
        obtain ⟨input, hsource⟩ := hfed
        exact (leads_of_source? hreach.sound.wellFormed ih hsource).1
  obtain ⟨drawn, text, hdrawn, htext, hdenotes, -⟩ := integers_read_as_drawn hreach hn hcone
  obtain rfl := Option.some.inj (hvalue.symm.trans htext)
  exact ⟨hreach, n, hn, hid, hcone, hvalue, drawn, hdrawn, hdenotes⟩

end ScriptGraph
