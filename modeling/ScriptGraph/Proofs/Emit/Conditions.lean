import ScriptGraph.Proofs.Emit.Meaning
import ScriptGraph.Proofs.Emit.Upstream
import ScriptGraph.Proofs.Session.Agreement
import ScriptGraph.Proofs.Shell.AndOr

/-!
# The structure of conditions

A connective is drawn as a node whose operands feed it, and is written as a text around the texts of
its operands.  Whether an operand is put between braces is decided by its characters alone.  So a
test may get braces that it does not need, but nothing that has to have them goes without
(`Shell.Spells.grouped`), and the text of a node means what is drawn there
(`Drawing.Regular.faithful`).
-/

namespace ScriptGraph

open Shell (Spells)

/-! ## Grouping -/

theorem Quote.hasPair_append (first second : Char) (before after : List Char) :
    hasPair first second (before ++ first :: second :: after) = true := by
  induction before with
  | nil => simp [hasPair]
  | cons c before ih =>
      rcases before with _ | ⟨d, before⟩ <;> simp_all [hasPair]

/-- Two texts with a connective between them are compound. -/
theorem Quote.isCompound_join (op : LogicOp) (a b : String) :
    isCompound (a ++ " " ++ op.symbol ++ " " ++ b) = true := by
  have hpair : ∀ c : Char, op.symbol.toList = [c, c] →
      hasPair c c (a ++ " " ++ op.symbol ++ " " ++ b).toList = true := by
    intro c hsymbol
    have happend := hasPair_append c c (a.toList ++ [' ']) (' ' :: b.toList)
    simpa [String.toList_append, hsymbol] using happend
  cases op with
  | and => rw [isCompound, hpair '&' rfl, Bool.true_or, Bool.true_or]
  | or => rw [isCompound, hpair '|' rfl, Bool.or_true, Bool.true_or]

theorem Quote.isCompound_negation (a : String) : isCompound ("! " ++ a) = true := by
  simp [isCompound, String.toList_append]

/-- An operand is a command once it is grouped, if it is one without braces whenever it has none. -/
theorem Shell.Spells.grouped {α : Type} {spell : α → List Char} {text : String}
    {c : Shell.Condition α} (hlist : Spells spell .list text.toList c)
    (hcommand : Quote.isCompound text = false → Spells spell .command text.toList c) :
    Spells spell .command (Quote.group text).toList c := by
  unfold Quote.group
  split
  · simpa [String.toList_append] using hlist.group
  · rename_i hplain
    exact hcommand (by simpa using hplain)

namespace Drawing

variable {D : Drawing} {n m : Node}

/-! ## What is drawn -/

/-- A node that is a condition by itself. -/
def IsTest (D : Drawing) (n : Node) : Prop :=
  D.behaviour? n = some .fileExists ∨ ∃ op, D.behaviour? n = some (.comparison op)

/-- The condition that is drawn at a node, with connectives unfolded down to tests. -/
inductive Draws (D : Drawing) : Node → Shell.Condition Node → Prop
  | test {n : Node} : D.IsTest n → Draws D n (.test n)
  | join {n a b : Node} {op : LogicOp} {c c' : Shell.Condition Node} :
      D.behaviour? n = some (.logical op) → D.source? n "A" = some a → D.source? n "B" = some b →
      Draws D a c → Draws D b c' → Draws D n (.join op c c')
  | negation {n a : Node} {c : Shell.Condition Node} :
      D.behaviour? n = some .negation → D.source? n "A" = some a →
      Draws D a c → Draws D n (.negation c)

theorem IsTest.behaviour_ne (h : D.IsTest n) {behaviour : Behaviour}
    (hbehaviour : D.behaviour? n = some behaviour) :
    (∀ op, behaviour ≠ .logical op) ∧ behaviour ≠ .negation := by
  rcases h with hkind | ⟨op, hkind⟩ <;>
    (cases hkind.symm.trans hbehaviour; simp)

/-- One condition is drawn at a node at most. -/
theorem Draws.unique {c c' : Shell.Condition Node} (h : D.Draws n c) (h' : D.Draws n c') :
    c = c' := by
  induction h generalizing c' with
  | test htest =>
      cases h' with
      | test _ => rfl
      | join hop _ _ _ _ => exact absurd rfl ((htest.behaviour_ne hop).1 _)
      | negation hop _ _ => exact absurd rfl (htest.behaviour_ne hop).2
  | join hop ha hb _ _ iha ihb =>
      cases h' with
      | test htest => exact absurd rfl ((htest.behaviour_ne hop).1 _)
      | join hop' ha' hb' hc hc' =>
          cases hop.symm.trans hop'
          cases ha.symm.trans ha'
          cases hb.symm.trans hb'
          rw [iha hc, ihb hc']
      | negation hop' _ _ => cases hop.symm.trans hop'
  | negation hop ha _ ih =>
      cases h' with
      | test htest => exact absurd rfl (htest.behaviour_ne hop).2
      | join hop' _ _ _ _ => cases hop.symm.trans hop'
      | negation _ ha' hc =>
          cases ha.symm.trans ha'
          rw [ih hc]

/-- The tests of a drawn condition are nodes of the drawing. -/
theorem Draws.isTest_of_mem (hwf : D.graph.WellFormed) {c : Shell.Condition Node} (h : D.Draws n c)
    (hn : n ∈ D.graph.nodes) : ∀ a ∈ c.tests, a ∈ D.graph.nodes ∧ D.IsTest a := by
  induction h with
  | test htest =>
      intro a ha
      obtain rfl := List.mem_singleton.mp ha
      exact ⟨hn, htest⟩
  | join _ ha hb _ _ iha ihb =>
      intro a hmem
      rcases List.mem_append.mp hmem with hleft | hright
      · exact iha (leads_of_source? hwf hn ha).1 a hleft
      · exact ihb (leads_of_source? hwf hn hb).1 a hright
  | negation _ ha _ ih => exact ih (leads_of_source? hwf hn ha).1

/-! ## What is written -/

/-- The characters of a node as a condition. -/
def conditionChars (D : Drawing) (n : Node) : List Char :=
  ((D.condition? n).getD "").toList

/-- The text of the node as a condition means what is drawn there.  Unless it is compound it is a
command as it stands. -/
def Faithful (D : Drawing) (n : Node) : Prop :=
  ∀ text, D.condition? n = some text →
    ∃ c, D.Draws n c ∧ Spells D.conditionChars .list text.toList c ∧
      (Quote.isCompound text = false → Spells D.conditionChars .command text.toList c)

namespace Regular

variable (h : D.Regular)
include h

/-- A test is written between brackets. -/
theorem condition?_of_isTest (hn : n ∈ D.graph.nodes) (htest : D.IsTest n) :
    ∃ inner, D.condition? n = some ("(( " ++ inner ++ " ))") ∨
      D.condition? n = some ("[ -f \"" ++ inner ++ "\" ]") := by
  rw [condition?_eq h.wellFormed h.acyclic hn]
  rcases htest with hkind | ⟨op, hkind⟩
  · exact ⟨_, Or.inr (by rw [hkind]; rfl)⟩
  · refine ⟨(D.operandTexts D.value? n).1 ++ " " ++ op.symbol ++ " " ++
      (D.operandTexts D.value? n).2, Or.inl ?_⟩
    rw [hkind]
    simp [conditionOf, String.append_assoc]

/-- A bracket begins no other word. -/
theorem distinct_conditionChars (hn : n ∈ D.graph.nodes) (htest : D.IsTest n) :
    Shell.Distinct D.conditionChars n := by
  have hmarks : ∀ m : Shell.Mark, m.chars.head? ≠ some '(' ∧ m.chars.head? ≠ some '[' := by
    intro m
    rcases m with (_ | _) | _ | _ | _ | _ <;> simp [Shell.Mark.chars]
  obtain ⟨inner, htext | htext⟩ := h.condition?_of_isTest hn htest
  · have hfirst : D.conditionChars n = '(' :: ("( " ++ inner ++ " ))").toList := by
      simp [conditionChars, htext, String.toList_append]
    exact ⟨'(', _, hfirst, by decide, fun m => (hmarks m).1⟩
  · have hfirst : D.conditionChars n = '[' :: (" -f \"" ++ inner ++ "\" ]").toList := by
      simp [conditionChars, htext, String.toList_append]
    exact ⟨'[', _, hfirst, by decide, fun m => (hmarks m).2⟩

/-- The ways to have a condition: to be a test, or to connect conditions. -/
theorem condition_cases (hn : n ∈ D.graph.nodes) {text : String}
    (htext : D.condition? n = some text) :
    D.IsTest n ∨
    (∃ op a b ta tb, D.behaviour? n = some (.logical op) ∧ D.source? n "A" = some a ∧
      D.source? n "B" = some b ∧ D.condition? a = some ta ∧ D.condition? b = some tb ∧
      text = Quote.group ta ++ " " ++ op.symbol ++ " " ++ Quote.group tb) ∨
    ∃ a ta, D.behaviour? n = some .negation ∧ D.source? n "A" = some a ∧
      D.condition? a = some ta ∧ text = "! " ++ Quote.group ta := by
  rw [condition?_eq h.wellFormed h.acyclic hn] at htext
  obtain ⟨behaviour, hbehaviour, hof⟩ := Option.bind_eq_some_iff.mp htext
  obtain ⟨kind, hkind, -, hreg⟩ := h.behaviour?_eq hn
  obtain rfl := Option.some.inj (hbehaviour.symm.trans hkind)
  have hcases := hreg.behaviour_cases
  cases hb : kind.behaviour with
  | fileExists => exact Or.inl (Or.inl (hb ▸ hkind))
  | comparison op => exact Or.inl (Or.inr ⟨op, hb ▸ hkind⟩)
  | logical op =>
      simp only [hb, conditionOf, Option.bind_eq_bind, Option.bind_eq_some_iff,
        resolveCondition_eq_some_iff] at hof
      obtain ⟨ta, ⟨a, ha, hta, -⟩, tb, ⟨b, hb', htb, -⟩, heq⟩ := hof
      exact Or.inr (Or.inl ⟨op, a, b, ta, tb, hb ▸ hkind, ha, hb', hta, htb,
        (Option.some.inj heq).symm⟩)
  | negation =>
      simp only [hb, conditionOf, Option.bind_eq_bind, Option.bind_eq_some_iff,
        resolveCondition_eq_some_iff] at hof
      obtain ⟨ta, ⟨a, ha, hta, -⟩, heq⟩ := hof
      exact Or.inr (Or.inr ⟨a, ta, hb ▸ hkind, ha, hta, (Option.some.inj heq).symm⟩)
  | custom c => simp [hb, Behaviour.isPlain] at hcases
  | _ => simp [hb, conditionOf] at hof

/-- A node is faithful if the nodes that feed it are. -/
theorem faithful_of_fedBy (hn : n ∈ D.graph.nodes)
    (ih : ∀ m ∈ D.graph.nodes, D.FedBy n m → D.Faithful m) : D.Faithful n := by
  intro text htext
  have hoperand : ∀ {input : String} {a : Node} {ta : String}, D.source? n input = some a →
      D.condition? a = some ta →
      ∃ c, D.Draws a c ∧ Spells D.conditionChars .command (Quote.group ta).toList c := by
    intro input a ta ha hta
    obtain ⟨c, hc, hlist, hcommand⟩ :=
      ih a (leads_of_source? h.wellFormed hn ha).1 ⟨input, ha⟩ ta hta
    exact ⟨c, hc, hlist.grouped hcommand⟩
  rcases h.condition_cases hn htext with htest | ⟨op, a, b, ta, tb, hop, ha, hb, hta, htb, rfl⟩ |
    ⟨a, ta, hop, ha, hta, rfl⟩
  · have hspells : Spells D.conditionChars .command text.toList (.test n) := by
      have hchars : D.conditionChars n = text.toList := by rw [conditionChars, htext]; rfl
      exact hchars ▸ Spells.test n
    exact ⟨.test n, .test htest, hspells.list, fun _ => hspells⟩
  · obtain ⟨c, hc, hleft⟩ := hoperand ha hta
    obtain ⟨c', hc', hright⟩ := hoperand hb htb
    refine ⟨.join op c c', .join hop ha hb hc hc', ?_, fun hplain => ?_⟩
    · simpa [String.toList_append] using hleft.join op hright
    · rw [Quote.isCompound_join] at hplain
      cases hplain
  · obtain ⟨c, hc, hgroup⟩ := hoperand ha hta
    refine ⟨.negation c, .negation hop ha hc, ?_, fun hplain => ?_⟩
    · simpa [String.toList_append] using hgroup.negation
    · rw [Quote.isCompound_negation] at hplain
      cases hplain

theorem faithful (hn : n ∈ D.graph.nodes) : D.Faithful n :=
  upstream_induction h.wellFormed h.acyclic (fun _ hn ih => h.faithful_of_fedBy hn ih) hn

end Regular

/-! ## Reading a condition back -/

/-- In a drawing made with the standard palette the text of a condition can be read as an and-or
list whose tests are the tests drawn, each written between brackets, and however it is so read, it
holds exactly if what is drawn does. -/
theorem condition_read_as_drawn {g : Graph} (h : g.Reachable Palette.standard.Has) {n : Node}
    (hn : n ∈ g.nodes) {text : String}
    (htext : (⟨g, .standard⟩ : Drawing).condition? n = some text) :
    let D : Drawing := ⟨g, .standard⟩
    ∃ drawn : Shell.Condition Node,
      (∀ c, D.Draws n c ↔ c = drawn) ∧
      (∀ a ∈ drawn.tests, ∃ inner, D.condition? a = some ("(( " ++ inner ++ " ))") ∨
        D.condition? a = some ("[ -f \"" ++ inner ++ "\" ]")) ∧
      (∃ ws c, Shell.Written D.conditionChars ws text.toList ∧
        ws.filterMap Shell.Word.test? = drawn.tests ∧ Shell.Reads .list ws c) ∧
      ∀ ws c, Shell.Written D.conditionChars ws text.toList →
        ws.filterMap Shell.Word.test? = drawn.tests → Shell.Reads .list ws c →
        ∀ truth : Node → Bool, c.holds truth = drawn.holds truth := by
  intro D
  have hreg : D.Regular := regular_of_reachable h
  obtain ⟨drawn, hdraws, ⟨ws, hwritten, hreads⟩, -⟩ := hreg.faithful hn text htext
  have htests := hdraws.isTest_of_mem hreg.wellFormed hn
  refine ⟨drawn, fun c => ⟨fun hc => hc.unique hdraws, fun hc => hc ▸ hdraws⟩, fun a ha => ?_,
    ⟨ws, drawn, hwritten, hreads.tests_eq, hreads⟩, fun ws' c hwritten' htests' hreads' truth => ?_⟩
  · obtain ⟨hmem, htest⟩ := htests a ha
    exact hreg.condition?_of_isTest hmem htest
  · have hwords : ws = ws' := by
      refine hwritten.unique hwritten' (hreads.tests_eq.trans htests'.symm) fun a ha => ?_
      rw [hreads.tests_eq] at ha
      obtain ⟨hmem, htest⟩ := htests a ha
      exact hreg.distinct_conditionChars hmem htest
    subst hwords
    rw [hreads.unique hreads']

end Drawing

/-- A test for a file that is both an operand of a conjunction and, through a disjunction and a
negation, a part of its other operand.  The name of the file looks like a conjunction. -/
def Graph.knot : Graph :=
  (sketch [.fileExists, .comparison "less_than" "Less Than" .less (0x34, 0x98, 0xDB),
      .logical "logical_or" "Or" .or, .negation, .logical "logical_and" "And" .and]
    [wire 0 2 8, wire 1 6 9, wire 2 10 12, wire 3 13 15, wire 4 2 16]).updateNode
    ⟨⟨0⟩⟩ fun n => n.edit "File Exists" ⟨0, 0⟩ (.ofList [("path", .text "a\" ] && [ -f \"b")])

theorem Drawing.condition_read_as_drawn_knot :
    let D : Drawing := ⟨.knot, .standard⟩
    Graph.knot.Reachable Palette.standard.Has ∧ ∃ n ∈ Graph.knot.nodes, n.id = ⟨⟨14⟩⟩ ∧
      ∃ text, D.condition? n = some text ∧
      text = "\x7b ! \x7b \x7b [ -f \"a\" ] && [ -f \"b\" ]; \x7d || (( 0 < 0 )); \x7d; \x7d && " ++
        "\x7b [ -f \"a\" ] && [ -f \"b\" ]; \x7d" ∧
      ∃ drawn : Shell.Condition Node, (∀ c, D.Draws n c ↔ c = drawn) ∧
        ∃ ws c, Shell.Written D.conditionChars ws text.toList ∧ Shell.Reads .list ws c ∧
          ∀ truth, c.holds truth = drawn.holds truth := by
  intro D
  have hreach : Graph.knot.Reachable Palette.standard.Has := by
    refine .edit (Graph.sketch_reachable (fun kind hkind => ?_) _) ..
    refine Palette.standard_has_iff.mpr ?_
    revert kind
    simp [NodeKind.builtin, NodeKind.storage, NodeKind.operators]
  obtain ⟨n, hn, hid, htext⟩ : ∃ n ∈ Graph.knot.nodes, n.id = ⟨⟨14⟩⟩ ∧ D.condition? n = some
      ("\x7b ! \x7b \x7b [ -f \"a\" ] && [ -f \"b\" ]; \x7d || (( 0 < 0 )); \x7d; \x7d && " ++
        "\x7b [ -f \"a\" ] && [ -f \"b\" ]; \x7d") := by
    decide
  obtain ⟨drawn, hdrawn, -, ⟨ws, c, hwritten, htests, hreads⟩, hevery⟩ :=
    condition_read_as_drawn hreach hn htext
  exact ⟨hreach, n, hn, hid, _, htext, rfl, drawn, hdrawn, ws, c, hwritten, hreads,
    hevery ws c hwritten htests hreads⟩

end ScriptGraph
