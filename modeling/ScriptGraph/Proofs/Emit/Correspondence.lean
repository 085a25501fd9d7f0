import ScriptGraph.Emit.Script

/-!
# Comparing two compilations

Two compilations are compared node by node.  Nodes of the one drawing correspond to nodes of the
other if they say the same of themselves (`Node.Matches`) and lead to corresponding nodes, both
downstream and upstream (`Drawing.Parallels`).  Expressions of corresponding nodes are then the same
text after equally many steps back (`valueOf_eq`, `conditionOf_eq`), and so are statements if
expressions are the same altogether (`Drawing.Corresponds`, `plainLine_eq`).

Statements also change the draft.  How the two drafts are related is left open: any relation will do
that is kept when the same is written on both sides (`Draft.Keeps`).  Related drafts stay related
when corresponding nodes are asked for their statements, provided that the walks from corresponding
nodes keep the relation (`Corresponds.statementWith`).

One drawing may be compared with itself, under two ways of walking it.
-/

namespace ScriptGraph

open Drawing (outputConnected fallback)

/-! ## Nodes that say the same -/

/-- Two nodes of one kind with the same properties, the same defaults and the same outputs in
use. -/
structure Node.Matches (n n' : Node) : Prop where
  tag_eq : n'.tag = n.tag
  properties_eq : n'.properties = n.properties
  default_eq : ∀ input, (n'.input? input).bind (fun p => p.spec.default) =
    (n.input? input).bind fun p => p.spec.default
  connected_eq : ∀ output, outputConnected n' output = outputConnected n output

namespace Node.Matches

theorem refl (n : Node) : n.Matches n :=
  ⟨rfl, rfl, fun _ => rfl, fun _ => rfl⟩

variable {n n' : Node} (h : n.Matches n')
include h

theorem property?_eq (key : String) : n'.property? key = n.property? key := by
  unfold property?
  rw [h.properties_eq]

theorem propertyText_eq (key default : String) :
    n'.propertyText key default = n.propertyText key default := by
  unfold propertyText
  rw [h.property?_eq]

theorem fallback_eq (input property default : String) :
    fallback n' input property default = fallback n input property default := by
  unfold fallback
  rw [h.property?_eq, h.default_eq]

theorem functionName_eq : n'.functionName = n.functionName :=
  h.propertyText_eq _ _

end Node.Matches

namespace Drawing

variable {D D' : Drawing} {n n' : Node}

/-! ## Expressions -/

theorem bind_eq_of_rel {S : Node → Node → Prop} {α : Type} {a b : Option Node}
    (hrel : Option.Rel S a b) {f g : Node → Option α} (hfg : ∀ m m', S m m' → g m' = f m) :
    b.bind g = a.bind f := by
  cases hrel with
  | some hm => exact hfg _ _ hm
  | none => rfl

section

variable {S : Node → Node → Prop} {value value' condition condition' : Node → Option String}
  (hn : n.Matches n') (hsource : ∀ input, Option.Rel S (D.source? n input) (D'.source? n' input))
include hsource

theorem resolveCondition_eq (hcondition : ∀ m m', S m m' → condition' m' = condition m)
    (input : String) :
    D'.resolveCondition condition' n' input = D.resolveCondition condition n input := by
  unfold resolveCondition
  rw [bind_eq_of_rel (hsource input) hcondition]

variable (hvalue : ∀ m m', S m m' → value' m' = value m)
include hn hvalue

theorem resolveValue_eq (input property default : String) :
    D'.resolveValue value' n' input property default =
      D.resolveValue value n input property default := by
  unfold resolveValue
  rw [bind_eq_of_rel (hsource input) hvalue, hn.fallback_eq]

variable (hliteral : ∀ m m', S m m' → m.Matches m')
include hliteral

theorem resolveLiteral_eq (input property default : String) :
    D'.resolveLiteral value' n' input property default =
      D.resolveLiteral value n input property default := by
  unfold resolveLiteral
  rw [bind_eq_of_rel (hsource input) fun m m' hm => ?_, hn.fallback_eq]
  rw [(hliteral m m' hm).property?_eq, hvalue m m' hm]

/-- A node as a value, compared once for all behaviours. -/
theorem valueOf_eq (behaviour : Behaviour) :
    D'.valueOf value' n' behaviour = D.valueOf value n behaviour := by
  have hresolve := resolveValue_eq hn hsource hvalue
  have hliteral := resolveLiteral_eq hn hsource hvalue hliteral
  cases behaviour <;>
    simp only [valueOf, commandLine, fileTest, operandTexts, loopVariable, hresolve, hliteral,
      hn.propertyText_eq]

/-- A node as a condition, compared once for all behaviours. -/
theorem conditionOf_eq (hcondition : ∀ m m', S m m' → condition' m' = condition m)
    (behaviour : Behaviour) :
    D'.conditionOf value' condition' n' behaviour = D.conditionOf value condition n behaviour := by
  have hresolve := resolveValue_eq hn hsource hvalue
  have hliteral := resolveLiteral_eq hn hsource hvalue hliteral
  have hguard := resolveCondition_eq hsource hcondition
  cases behaviour <;> simp only [conditionOf, fileTest, operandTexts, hresolve, hliteral, hguard]

end

/-! ## Drawings that correspond -/

/-- Nodes of two drawings correspond: they say the same and lead to corresponding nodes. -/
structure Parallels (D D' : Drawing) (N : Node → Node → Prop) : Prop where
  palette_eq : D'.palette = D.palette
  nodes_match : ∀ {n n'}, N n n' → n.Matches n'
  source : ∀ {n n'}, N n n' → ∀ input, Option.Rel N (D.source? n input) (D'.source? n' input)
  next : ∀ {n n'}, N n n' → ∀ output, Option.Rel N (D.next? n output) (D'.next? n' output)
  successor : ∀ {n n'}, N n n' → Option.Rel N (D.successor? n) (D'.successor? n')

/-- Corresponding nodes have the same expressions as well.  The two drawings may differ in how far
an expression may lead back, so this does not follow by itself. -/
structure Corresponds (D D' : Drawing) (N : Node → Node → Prop) : Prop extends
    Parallels D D' N where
  value?_eq : ∀ {n n'}, N n n' → D'.value? n' = D.value? n
  condition?_eq : ∀ {n n'}, N n n' → D'.condition? n' = D.condition? n

namespace Parallels

variable {N : Node → Node → Prop} (h : D.Parallels D' N)
include h

theorem behaviour?_eq (hn : N n n') : D'.behaviour? n' = D.behaviour? n := by
  unfold behaviour?
  rw [h.palette_eq, (h.nodes_match hn).tag_eq]

theorem valueWithin_eq (steps : Nat) {n n' : Node} (hn : N n n') :
    D'.valueWithin steps n' = D.valueWithin steps n := by
  induction steps generalizing n n' with
  | zero => rfl
  | succ steps ih =>
      unfold valueWithin
      rw [h.behaviour?_eq hn]
      refine Option.bind_congr fun behaviour _ => ?_
      exact valueOf_eq (h.nodes_match hn) (h.source hn) (fun m m' => ih) (fun m m' => h.nodes_match)
        behaviour

theorem conditionWithin_eq (steps : Nat) {n n' : Node} (hn : N n n') :
    D'.conditionWithin steps n' = D.conditionWithin steps n := by
  induction steps generalizing n n' with
  | zero => rfl
  | succ steps ih =>
      unfold conditionWithin
      rw [h.behaviour?_eq hn]
      refine Option.bind_congr fun behaviour _ => ?_
      exact conditionOf_eq (h.nodes_match hn) (h.source hn) (fun m m' => h.valueWithin_eq steps)
        (fun m m' => h.nodes_match) (fun m m' => ih) behaviour

/-- Drawings in which expressions may lead back equally far. -/
theorem corresponds (hreach : D'.reach = D.reach) : D.Corresponds D' N where
  toParallels := h
  value?_eq hn := by
    unfold value?
    rw [hreach, h.valueWithin_eq _ hn]
  condition?_eq hn := by
    unfold condition?
    rw [hreach, h.conditionWithin_eq _ hn]

end Parallels

namespace Corresponds

variable {N : Node → Node → Prop} (h : D.Corresponds D' N)
include h

theorem assigned_eq (hn : N n n') : D'.assigned n' = D.assigned n := by
  unfold assigned
  rw [bind_eq_of_rel (h.source hn _) fun m m' => h.value?_eq, (h.nodes_match hn).propertyText_eq]

/-- The line of a plain statement, compared once for all behaviours. -/
theorem plainLine_eq (hn : N n n') (behaviour : Behaviour) :
    D'.plainLine n' behaviour = D.plainLine n behaviour := by
  have hmatch := h.nodes_match hn
  have htext := hmatch.propertyText_eq
  have hresolve := resolveValue_eq hmatch (h.source hn) fun m m' => h.value?_eq
  have hliteral := resolveLiteral_eq hmatch (h.source hn) (fun m m' => h.value?_eq)
    fun m m' => h.nodes_match
  cases behaviour with
  | runCommand =>
      have hcommand : D'.commandLine D'.value? n' = D.commandLine D.value? n :=
        hliteral "Command" "command" ""
      rw [plainLine, plainLine, hcommand]
  | setVariable => simp only [plainLine, assignedName, h.assigned_eq hn, htext]
  | _ => simp only [plainLine, callLine, gitCloneLine, hresolve, hliteral, htext]

end Corresponds

end Drawing

/-! ## Statements -/

/-- A relation between drafts that is kept when the same is written on both sides, on behalf of
corresponding nodes. -/
structure Draft.Keeps (N : Node → Node → Prop) (R : Draft → Draft → Prop) : Prop where
  line : ∀ {d d'}, R d d' → ∀ text, R (d.line text) (d'.line text)
  functionLine : ∀ {d d'}, R d d' → ∀ text, R (d.functionLine text) (d'.functionLine text)
  assign : ∀ {d d'}, R d d' → ∀ name text, R (d.assign name text) (d'.assign name text)
  indent : ∀ {d d'}, R d d' → R d.indent d'.indent
  endBlock : ∀ {d d' before before'}, R d d' → R before before' →
    R (d.endBlock before) (d'.endBlock before')
  beginFunction : ∀ {d d'}, R d d' → R d.beginFunction d'.beginFunction
  endFunction : ∀ {d d' before before'}, R d d' → R before before' →
    R (d.endFunction before) (d'.endFunction before')
  ask : ∀ {d d' n n'}, N n n' → R d d' → R (d.ask n.id) (d'.ask n'.id)
  missingCondition : ∀ {d d' n n'}, N n n' → R d d' → ∀ construct,
    R (d.warn (.missingCondition n.id n.title construct))
      (d'.warn (.missingCondition n'.id n'.title construct))
  undefinedFunction : ∀ {d d' n n'}, N n n' → R d d' → ∀ name,
    R (d.warn (.undefinedFunction n.id name)) (d'.warn (.undefinedFunction n'.id name))
  declared_eq : ∀ {d d'}, R d d' → d'.declared = d.declared

namespace Draft.Keeps

variable {N : Node → Node → Prop} {R : Draft → Draft → Prop} (hR : Draft.Keeps N R) {d d' : Draft}
include hR

theorem line? (hd : R d d') (text : Option String) : R (d.line? text) (d'.line? text) := by
  unfold Draft.line?
  split
  · exact hd
  · split
    · exact hd
    · exact hR.line hd _

theorem block {body body' : Draft → Draft} (hd : R d d')
    (hbody : R (body d.indent) (body' d'.indent)) : R (d.block body) (d'.block body') :=
  hR.endBlock hbody hd

theorem inFunction {body body' : Draft → Draft} (hd : R d d')
    (hbody : R (body d.beginFunction) (body' d'.beginFunction)) :
    R (d.inFunction body) (d'.inFunction body') :=
  hR.endFunction hbody hd

/-- The relation may be restricted by what does not depend on the drafts. -/
theorem and_const (p : Prop) : Draft.Keeps N fun d d' => R d d' ∧ p where
  line hd text := ⟨hR.line hd.1 text, hd.2⟩
  functionLine hd text := ⟨hR.functionLine hd.1 text, hd.2⟩
  assign hd name text := ⟨hR.assign hd.1 name text, hd.2⟩
  indent hd := ⟨hR.indent hd.1, hd.2⟩
  endBlock hd hbefore := ⟨hR.endBlock hd.1 hbefore.1, hd.2⟩
  beginFunction hd := ⟨hR.beginFunction hd.1, hd.2⟩
  endFunction hd hbefore := ⟨hR.endFunction hd.1 hbefore.1, hd.2⟩
  ask hn hd := ⟨hR.ask hn hd.1, hd.2⟩
  missingCondition hn hd construct := ⟨hR.missingCondition hn hd.1 construct, hd.2⟩
  undefinedFunction hn hd name := ⟨hR.undefinedFunction hn hd.1 name, hd.2⟩
  declared_eq hd := hR.declared_eq hd.1

end Draft.Keeps

namespace Drawing

namespace Corresponds

variable {D D' : Drawing} {N : Node → Node → Prop} {R : Draft → Draft → Prop}
  {walk walk' : Node → Draft → Draft} {n n' : Node} {d d' : Draft}
  (h : D.Corresponds D' N) (hR : Draft.Keeps N R)
  (hwalk : ∀ {m m'}, N m m' → ∀ {d d'}, R d d' → R (walk m d) (walk' m' d'))
  (hn : N n n')

include h hwalk hn in
theorem followWith (output : String) {d d' : Draft} (hd : R d d') :
    R (D.followWith walk n output d) (D'.followWith walk' n' output d') := by
  have hnext := h.next hn output
  unfold Drawing.followWith
  generalize D.next? n output = target at hnext
  generalize D'.next? n' output = target' at hnext
  cases hnext with
  | none => exact hd
  | some hm => exact hwalk hm hd

include h hR hn

theorem plainEffect (hd : R d d') (behaviour : Behaviour) :
    R (D.plainEffect n d behaviour) (D'.plainEffect n' d' behaviour) := by
  have htext := (h.nodes_match hn).propertyText_eq
  cases behaviour with
  | call =>
      have hcall : callLine n' = callLine n := by
        unfold callLine
        rw [htext]
      unfold Drawing.plainEffect
      simp only [hcall, Draft.isDeclared, hR.declared_eq hd]
      split
      · exact hd
      · rename_i name _
        by_cases hname : d.declared.contains name = true
        · simpa only [hname, if_true] using hd
        · simpa only [hname, if_false, Bool.false_eq_true] using hR.undefinedFunction hn hd name
  | setVariable =>
      unfold Drawing.plainEffect
      simp only [assignedName, htext, h.assigned_eq hn]
      exact hR.assign hd _ _
  | _ => exact hd

include hwalk

theorem skipConstruct (hd : R d d') (construct : Construct) :
    R (D.skipConstruct walk n construct d) (D'.skipConstruct walk' n' construct d') := by
  unfold Drawing.skipConstruct
  apply h.followWith hwalk hn
  exact hR.missingCondition hn hd construct

theorem writeBranch (hd : R d d') : R (D.writeBranch walk n d) (D'.writeBranch walk' n' d') := by
  have hguard := resolveCondition_eq (h.source hn) (fun m m' => h.condition?_eq) "Condition"
  have hfollow := h.followWith hwalk hn
  unfold Drawing.writeBranch
  rw [hguard, (h.nodes_match hn).connected_eq]
  split
  · exact h.skipConstruct hR hwalk hn hd .branch
  · rename_i condition _
    have hopen := hR.line hd ("if " ++ condition ++ "; then")
    have hyes := hR.block hopen (hfollow "True" (hR.indent hopen))
    apply hfollow
    apply hR.line
    split
    · have helse := hR.line hyes "else"
      exact hR.block helse (hfollow "False" (hR.indent helse))
    · exact hyes

theorem writeForEach (hd : R d d') : R (D.writeForEach walk n d) (D'.writeForEach walk' n' d') := by
  have hliteral := resolveLiteral_eq (h.nodes_match hn) (h.source hn) (fun m m' => h.value?_eq)
    fun m m' => h.nodes_match
  have hfollow := h.followWith hwalk hn
  unfold Drawing.writeForEach loopVariable
  simp only [hliteral, (h.nodes_match hn).propertyText_eq]
  apply hfollow
  apply hR.line
  have hopen := hR.line (hR.assign hd (n.propertyText "variable" "item") "")
    ("for " ++ n.propertyText "variable" "item" ++ " in " ++
      D.resolveLiteral D.value? n "List" "list" "*" ++ "; do")
  exact hR.block hopen (hfollow "Loop Body" (hR.indent hopen))

theorem writeRepeatWhile (hd : R d d') :
    R (D.writeRepeatWhile walk n d) (D'.writeRepeatWhile walk' n' d') := by
  have hguard := resolveCondition_eq (h.source hn) (fun m m' => h.condition?_eq) "Condition"
  have hfollow := h.followWith hwalk hn
  unfold Drawing.writeRepeatWhile
  rw [hguard]
  split
  · exact h.skipConstruct hR hwalk hn hd .loop
  · rename_i condition _
    have hopen := hR.line hd ("while " ++ condition ++ "; do")
    apply hfollow
    apply hR.line
    exact hR.block hopen (hfollow "Body" (hR.indent hopen))

theorem writeDefinition (hd : R d d') :
    R (D.writeDefinition walk n d) (D'.writeDefinition walk' n' d') := by
  unfold Drawing.writeDefinition
  rw [(h.nodes_match hn).functionName_eq]
  apply hR.functionLine
  apply hR.functionLine
  have hopen := hR.functionLine hd (n.functionName ++ "() \x7b")
  have hbegin := hR.beginFunction hopen
  apply hR.inFunction hopen
  exact hR.block hbegin (h.followWith hwalk hn "Exec" (hR.indent hbegin))

omit hR in
theorem detourWith (hd : R d d') (detour : Detour) :
    R (D.detourWith walk n d detour) (D'.detourWith walk' n' d' detour) := by
  cases detour with
  | follow output => exact h.followWith hwalk hn output hd
  | reenter => exact hwalk hn hd

omit hR in
theorem runCustom (hd : R d d') (c : Custom) :
    R (D.runCustom walk n d c) (D'.runCustom walk' n' d' c) := by
  unfold Drawing.runCustom
  generalize c.detours = detours
  induction detours generalizing d d' with
  | nil => exact hd
  | cons detour detours ih => exact ih (h.detourWith hwalk hn hd detour)

/-- A node as a statement, compared once for all behaviours: the same line, and related drafts. -/
theorem statementWith (hd : R d d') (behaviour : Behaviour) :
    (D'.statementWith walk' n' d' behaviour).1 = (D.statementWith walk n d behaviour).1 ∧
      R (D.statementWith walk n d behaviour).2 (D'.statementWith walk' n' d' behaviour).2 := by
  have hask := hR.ask hn hd
  unfold Drawing.statementWith
  cases behaviour with
  | branch => exact ⟨rfl, h.writeBranch hR hwalk hn hask⟩
  | forEach => exact ⟨rfl, h.writeForEach hR hwalk hn hask⟩
  | repeatWhile => exact ⟨rfl, h.writeRepeatWhile hR hwalk hn hask⟩
  | define => exact ⟨rfl, h.writeDefinition hR hwalk hn hask⟩
  | custom c => exact ⟨rfl, h.runCustom hwalk hn hask c⟩
  | _ =>
      simp only [Drawing.writeWith]
      exact ⟨h.plainLine_eq hn _, h.plainEffect hR hn hask _⟩

end Corresponds

end Drawing

end ScriptGraph
