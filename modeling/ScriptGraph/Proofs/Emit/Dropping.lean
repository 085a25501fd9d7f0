import ScriptGraph.Proofs.Emit.Calls
import ScriptGraph.Proofs.Emit.Conditions
import ScriptGraph.Proofs.Emit.Places

/-!
# When a control structure is left out

A condition is missing where an input has nothing connected to it, and whatever is made of a missing
condition is missing as well.  So a branch or a loop has no condition exactly if its input for one
is free or if somewhere upstream of it, along the edges that carry conditions, a connective has a
free input (`Regular.guard?_eq_none_iff`).  In the script it is then passed over with one warning,
since no node is asked twice for its statement (`Regular.filter_omits`), and the chain goes on at
the same depth as it does after a control structure that is written
(`dropped_iff_condition_missing`).
-/

namespace ScriptGraph

open Relation

/-! ## Kinds and conditions -/

namespace Behaviour

/-- Behaviours of nodes that can be asked for a condition. -/
def isCondition : Behaviour → Bool
  | .fileExists | .comparison _ | .logical _ | .negation => true
  | _ => false

/-- The inputs at which a behaviour asks for a condition. -/
def conditionInputs : Behaviour → List String
  | .logical _ => ["A", "B"]
  | .negation => ["A"]
  | .branch | .repeatWhile => ["Condition"]
  | _ => []

end Behaviour

namespace NodeKind

/-- The tags of the kinds that connect conditions. -/
def connectiveTags : List String :=
  ["logical_and", "logical_or", "logical_not"]

/-- A kind whose ports show what it does with conditions. -/
structure Testable (kind : NodeKind) : Prop where
  names_distinct : (kind.inputs.map PortSpec.name).Nodup
  inputs_eq : (kind.inputs.filter fun s => s.type == .condition).map PortSpec.name =
    kind.behaviour.conditionInputs
  /-- what gives conditions can be asked for one -/
  output_isCondition : ∀ s ∈ kind.outputs, s.type = .condition → kind.behaviour.isCondition = true
  connective_iff : kind.tag ∈ connectiveTags ↔
    kind.behaviour.isCondition = true ∧ kind.behaviour.conditionInputs ≠ []
  connective_inputs : kind.tag ∈ connectiveTags → ∀ s ∈ kind.inputs, s.type = .condition

theorem testable_of_mem_builtin : ∀ kind ∈ builtin, kind.Testable := by
  have hdistinct : ∀ kind ∈ builtin, (kind.inputs.map PortSpec.name).Nodup := by decide
  have hinputs : ∀ kind ∈ builtin, (kind.inputs.filter fun s => s.type == .condition).map
      PortSpec.name = kind.behaviour.conditionInputs := by decide
  have houtput : ∀ kind ∈ builtin, ∀ s ∈ kind.outputs, s.type = .condition →
      kind.behaviour.isCondition = true := by decide
  have hconnective : ∀ kind ∈ builtin, kind.tag ∈ connectiveTags ↔
      kind.behaviour.isCondition = true ∧ kind.behaviour.conditionInputs ≠ [] := by decide
  have hall : ∀ kind ∈ builtin, kind.tag ∈ connectiveTags →
      ∀ s ∈ kind.inputs, s.type = .condition := by decide
  intro kind hkind
  exact ⟨hdistinct kind hkind, hinputs kind hkind, houtput kind hkind, hconnective kind hkind,
    hall kind hkind⟩

end NodeKind

namespace Node.OfKind

variable {n : Node} {kind : NodeKind} {p : Port} {input : String}

/-- Where the names of inputs are distinct, an input is found under its name. -/
theorem input?_eq_some_iff (hof : n.OfKind kind) (htest : kind.Testable) :
    n.input? input = some p ↔ p ∈ n.inputs ∧ p.name = input := by
  have hnames : (n.inputs.map Port.name).Nodup := by
    have hspecs := htest.names_distinct
    rwa [← hof.inputs_eq, List.map_map] at hspecs
  exact find?_eq_some_iff_mem Port.name hnames

/-- The inputs for conditions are those at which the behaviour asks for one. -/
theorem mem_conditionInputs_iff (hof : n.OfKind kind) (htest : kind.Testable) :
    input ∈ kind.behaviour.conditionInputs ↔
      ∃ p, n.input? input = some p ∧ p.type = .condition := by
  rw [← htest.inputs_eq, ← hof.inputs_eq]
  simp only [hof.input?_eq_some_iff htest, List.mem_map, List.mem_filter, beq_iff_eq]
  constructor
  · rintro ⟨_, ⟨⟨p, hp, rfl⟩, htype⟩, rfl⟩
    exact ⟨p, ⟨hp, rfl⟩, htype⟩
  · rintro ⟨p, ⟨hp, rfl⟩, htype⟩
    exact ⟨p.spec, ⟨⟨p, hp, rfl⟩, htype⟩, rfl⟩

end Node.OfKind

namespace Drawing

variable {D : Drawing} {n m : Node} {behaviour : Behaviour} {input : String}

/-! ## Along edges that carry conditions -/

/-- An edge runs from the second node to an input for conditions of the first. -/
def TestedBy (D : Drawing) (n m : Node) : Prop :=
  m ∈ D.graph.nodes ∧ ∃ p ∈ n.inputs, p.type = .condition ∧
    ∃ e ∈ D.graph.edges, e.source.node = m.id ∧ e.target = ⟨n.id, p.id⟩

/-- A connective with a free input. -/
def OpenConnective (n : Node) : Prop :=
  n.tag ∈ NodeKind.connectiveTags ∧ ∃ p ∈ n.inputs, p.isConnected = false

/-- The input for a condition is free, or somewhere upstream of it a connective has a free input. -/
def LacksCondition (D : Drawing) (n : Node) : Prop :=
  inputConnected n "Condition" = false ∨ ∃ m, TransGen D.TestedBy n m ∧ OpenConnective m

/-- A drawing whose nodes are of kinds whose ports show what they do with conditions. -/
def Testable (D : Drawing) : Prop :=
  ∀ n ∈ D.graph.nodes, ∃ kind, n.OfKind kind ∧ D.behaviour? n = some kind.behaviour ∧ kind.Testable

theorem testable_of_reachable {g : Graph} (h : g.Reachable Palette.standard.Has) :
    Testable ⟨g, .standard⟩ := by
  intro n hn
  obtain ⟨kind, hkind, hof, hbehaviour⟩ := exists_builtin h hn
  exact ⟨kind, hof, hbehaviour, NodeKind.testable_of_mem_builtin kind hkind⟩

section

variable (hwf : D.graph.WellFormed) (htest : D.Testable)
include hwf htest

/-- What stands at the start of an edge to an input for conditions is what is asked for one. -/
theorem testedBy_iff (hn : n ∈ D.graph.nodes) (hbehaviour : D.behaviour? n = some behaviour) :
    D.TestedBy n m ↔ ∃ input ∈ behaviour.conditionInputs, D.source? n input = some m := by
  obtain ⟨kind, hof, hkind, hports⟩ := htest n hn
  obtain rfl := Option.some.inj (hbehaviour.symm.trans hkind)
  constructor
  · rintro ⟨hm, p, hp, htype, e, he, hfrom, hto⟩
    have hinput := (hof.input?_eq_some_iff hports).mpr ⟨hp, rfl⟩
    refine ⟨p.name, (hof.mem_conditionInputs_iff hports).mpr ⟨p, hinput, htype⟩, ?_⟩
    rw [source?, hinput, Option.bind_some]
    exact hwf.sourceOf?_of_target hn hp he hto hm hfrom
  · rintro ⟨input, hmem, hsource⟩
    obtain ⟨p, hp, htype⟩ := (hof.mem_conditionInputs_iff hports).mp hmem
    rw [source?, hp, Option.bind_some] at hsource
    obtain ⟨⟨m', q⟩, hfound, rfl⟩ := Option.map_eq_some_iff.mp hsource
    have hinputs := List.mem_of_find?_eq_some hp
    obtain ⟨hm, -, e, he, hfrom, hto, -⟩ := hwf.edge_of_sourceOf? hn hinputs hfound
    exact ⟨hm, p, hinputs, htype, e, he, by rw [hfrom], hto⟩

/-- What is asked for a condition can give one. -/
theorem isCondition_of_source? (hn : n ∈ D.graph.nodes)
    (hbehaviour : D.behaviour? n = some behaviour) (hinput : input ∈ behaviour.conditionInputs)
    (hsource : D.source? n input = some m) :
    ∃ behaviour, D.behaviour? m = some behaviour ∧ behaviour.isCondition = true := by
  obtain ⟨kind, hof, hkind, hports⟩ := htest n hn
  obtain rfl := Option.some.inj (hbehaviour.symm.trans hkind)
  obtain ⟨p, hp, htype⟩ := (hof.mem_conditionInputs_iff hports).mp hinput
  rw [source?, hp, Option.bind_some] at hsource
  obtain ⟨⟨m', q⟩, hfound, rfl⟩ := Option.map_eq_some_iff.mp hsource
  obtain ⟨hm, hq, -, -, -, -, hsame⟩ :=
    hwf.edge_of_sourceOf? hn (List.mem_of_find?_eq_some hp) hfound
  obtain ⟨kind', hof', hkind', hports'⟩ := htest m' hm
  refine ⟨_, hkind', hports'.output_isCondition q.spec ?_ (hsame.trans htype)⟩
  exact hof'.outputs_eq ▸ List.mem_map_of_mem hq

/-- A connective has a free input exactly if nothing feeds one of the inputs at which it asks for a
condition. -/
theorem openConnective_iff (hn : n ∈ D.graph.nodes) (hbehaviour : D.behaviour? n = some behaviour)
    (hcondition : behaviour.isCondition = true) :
    OpenConnective n ↔ ∃ input ∈ behaviour.conditionInputs, D.source? n input = none := by
  obtain ⟨kind, hof, hkind, hports⟩ := htest n hn
  obtain rfl := Option.some.inj (hbehaviour.symm.trans hkind)
  have hfree : ∀ {p : Port}, n.input? p.name = some p →
      (p.isConnected = false ↔ D.source? n p.name = none) := by
    intro p hp
    have hconnected := inputConnected_eq hwf hn p.name
    rw [inputConnected, hp, Option.map_some, Option.getD_some] at hconnected
    rw [hconnected, Option.isSome_eq_false_iff, Option.isNone_iff_eq_none]
  constructor
  · rintro ⟨htag, p, hp, hopen⟩
    have htype := hports.connective_inputs (hof.tag_eq ▸ htag) p.spec
      (hof.inputs_eq ▸ List.mem_map_of_mem hp)
    have hinput := (hof.input?_eq_some_iff hports).mpr ⟨hp, rfl⟩
    exact ⟨p.name, (hof.mem_conditionInputs_iff hports).mpr ⟨p, hinput, htype⟩,
      (hfree hinput).mp hopen⟩
  · rintro ⟨input, hmem, hnone⟩
    obtain ⟨p, hinput, -⟩ := (hof.mem_conditionInputs_iff hports).mp hmem
    obtain ⟨hp, rfl⟩ := (hof.input?_eq_some_iff hports).mp hinput
    have htag := hports.connective_iff.mpr ⟨hcondition, List.ne_nil_of_mem hmem⟩
    exact ⟨hof.tag_eq ▸ htag, p, hp, (hfree hinput).mpr hnone⟩

end

/-! ## Missing conditions -/

namespace Regular

variable (h : D.Regular)
include h

/-- No condition is blank. -/
theorem allBlank_condition (hn : n ∈ D.graph.nodes) {text : String}
    (htext : D.condition? n = some text) : Text.allBlank text = false := by
  rcases h.condition_cases hn htext with
    hkind | ⟨op, -, -, -, -, -, -, -, -, -, rfl⟩ | ⟨-, -, -, -, -, rfl⟩
  · obtain ⟨inner, hform | hform⟩ := h.condition?_of_isTest hn hkind
    · obtain rfl := Option.some.inj (htext.symm.trans hform)
      simp [Text.allBlank, String.toList_append, Text.isBlank]
    · obtain rfl := Option.some.inj (htext.symm.trans hform)
      simp [Text.allBlank, String.toList_append, Text.isBlank]
  · cases op <;> simp [Text.allBlank, String.toList_append, LogicOp.symbol, Text.isBlank]
  · simp [Text.allBlank, String.toList_append, Text.isBlank]

/-- An input gives no condition exactly if what feeds it, if anything does, has none. -/
theorem resolveCondition_eq_none_iff (hn : n ∈ D.graph.nodes) :
    D.resolveCondition D.condition? n input = none ↔
      ∀ m, D.source? n input = some m → D.condition? m = none := by
  constructor
  · intro hnone m hsource
    cases htext : D.condition? m with
    | none => rfl
    | some text =>
        have hblank := h.allBlank_condition (leads_of_source? h.wellFormed hn hsource).1 htext
        rw [resolveCondition_eq_some_iff.mpr ⟨m, hsource, htext, hblank⟩] at hnone
        cases hnone
  · intro hmissing
    cases hresolve : D.resolveCondition D.condition? n input with
    | none => rfl
    | some text =>
        obtain ⟨m, hsource, htext, -⟩ := resolveCondition_eq_some_iff.mp hresolve
        rw [hmissing m hsource] at htext
        cases htext

/-- The condition of a node is missing exactly if one that it asks for is. -/
theorem condition?_eq_none_iff (hn : n ∈ D.graph.nodes)
    (hbehaviour : D.behaviour? n = some behaviour) (hcondition : behaviour.isCondition = true) :
    D.condition? n = none ↔ ∃ input ∈ behaviour.conditionInputs,
      ∀ m, D.source? n input = some m → D.condition? m = none := by
  simp only [← h.resolveCondition_eq_none_iff hn]
  rw [condition?_eq h.wellFormed h.acyclic hn, hbehaviour, Option.bind_some]
  cases behaviour with
  | fileExists => simp [conditionOf, Behaviour.conditionInputs]
  | comparison op => simp [conditionOf, Behaviour.conditionInputs]
  | logical op =>
      cases ha : D.resolveCondition D.condition? n "A" <;>
        cases hb : D.resolveCondition D.condition? n "B" <;>
        simp [conditionOf, Behaviour.conditionInputs, ha, hb]
  | negation =>
      cases ha : D.resolveCondition D.condition? n "A" <;>
        simp [conditionOf, Behaviour.conditionInputs, ha]
  | _ => cases hcondition

variable (htest : D.Testable)
include htest

/-- A connective with a free input upstream takes the condition of a node away. -/
theorem condition?_eq_none_of_open (hpath : ReflTransGen D.TestedBy n m) (hopen : OpenConnective m)
    (hn : n ∈ D.graph.nodes) (hbehaviour : D.behaviour? n = some behaviour)
    (hcondition : behaviour.isCondition = true) : D.condition? n = none := by
  induction hpath using ReflTransGen.head_induction_on generalizing behaviour with
  | refl =>
      obtain ⟨input, hinput, hnone⟩ :=
        (openConnective_iff h.wellFormed htest hn hbehaviour hcondition).mp hopen
      refine (h.condition?_eq_none_iff hn hbehaviour hcondition).mpr ⟨input, hinput, ?_⟩
      intro m hsource
      rw [hnone] at hsource
      cases hsource
  | @head n n' htested _ ih =>
      obtain ⟨input, hinput, hsource⟩ :=
        (testedBy_iff h.wellFormed htest hn hbehaviour).mp htested
      obtain ⟨behaviour', hbehaviour', hcondition'⟩ :=
        isCondition_of_source? h.wellFormed htest hn hbehaviour hinput hsource
      have hmissing := ih htested.1 hbehaviour' hcondition'
      refine (h.condition?_eq_none_iff hn hbehaviour hcondition).mpr ⟨input, hinput, ?_⟩
      intro m hm
      obtain rfl := Option.some.inj (hsource.symm.trans hm)
      exact hmissing

/-- Where a condition is missing, a connective upstream has a free input. -/
theorem exists_open_of_condition?_eq_none (hn : n ∈ D.graph.nodes) :
    ∀ behaviour, D.behaviour? n = some behaviour → behaviour.isCondition = true →
      D.condition? n = none → ∃ m, ReflTransGen D.TestedBy n m ∧ OpenConnective m := by
  refine upstream_induction (P := fun n => ∀ behaviour, D.behaviour? n = some behaviour →
    behaviour.isCondition = true → D.condition? n = none →
    ∃ m, ReflTransGen D.TestedBy n m ∧ OpenConnective m) h.wellFormed h.acyclic ?_ hn
  intro n hn ih behaviour hbehaviour hcondition hmissing
  obtain ⟨input, hinput, hnone⟩ := (h.condition?_eq_none_iff hn hbehaviour hcondition).mp hmissing
  cases hsource : D.source? n input with
  | none =>
      refine ⟨n, .refl, ?_⟩
      exact (openConnective_iff h.wellFormed htest hn hbehaviour hcondition).mpr
        ⟨input, hinput, hsource⟩
  | some m =>
      obtain ⟨behaviour', hbehaviour', hcondition'⟩ :=
        isCondition_of_source? h.wellFormed htest hn hbehaviour hinput hsource
      have htested := (testedBy_iff h.wellFormed htest hn hbehaviour).mpr ⟨input, hinput, hsource⟩
      obtain ⟨k, hpath, hopen⟩ :=
        ih m htested.1 ⟨input, hsource⟩ behaviour' hbehaviour' hcondition' (hnone m hsource)
      exact ⟨k, .head htested hpath, hopen⟩

/-- A control structure has no condition exactly if its input for one is free or a connective
upstream has a free input. -/
theorem guard?_eq_none_iff (hn : n ∈ D.graph.nodes) (hbehaviour : D.behaviour? n = some behaviour)
    {construct : Construct} (hconstruct : behaviour.construct? = some construct) :
    D.guard? n = none ↔ D.LacksCondition n := by
  have hinputs : behaviour.conditionInputs = ["Condition"] := by
    cases behaviour <;> first | rfl | cases hconstruct
  have htested : ∀ m, D.TestedBy n m ↔ D.source? n "Condition" = some m := by
    intro m
    rw [testedBy_iff h.wellFormed htest hn hbehaviour, hinputs]
    simp
  rw [guard?, h.resolveCondition_eq_none_iff hn, LacksCondition,
    inputConnected_eq h.wellFormed hn]
  cases hsource : D.source? n "Condition" with
  | none => simp
  | some m =>
      obtain ⟨behaviour', hbehaviour', hcondition'⟩ := isCondition_of_source? h.wellFormed htest hn
        hbehaviour (hinputs ▸ List.mem_singleton_self _) hsource
      have hm := (leads_of_source? h.wellFormed hn hsource).1
      simp only [Option.some.injEq, forall_eq', Option.isSome_some, Bool.true_eq_false, false_or]
      constructor
      · intro hmissing
        obtain ⟨k, hpath, hopen⟩ := h.exists_open_of_condition?_eq_none htest hm behaviour'
          hbehaviour' hcondition' hmissing
        exact ⟨k, .head' ((htested m).mpr hsource) hpath, hopen⟩
      · rintro ⟨k, hpath, hopen⟩
        obtain ⟨m', hfirst, hrest⟩ := TransGen.head'_iff.mp hpath
        obtain rfl := Option.some.inj (hsource.symm.trans ((htested m').mp hfirst))
        exact h.condition?_eq_none_of_open htest hrest hopen hm hbehaviour' hcondition'

end Regular

end Drawing

/-! ## Warnings -/

namespace Warning

/-- Whether a warning says that a node is left out. -/
def omits (id : NodeId) : Warning → Bool
  | .missingCondition node .. => node == id
  | _ => false

theorem isOmission_of_omits {id : NodeId} {w : Warning} (h : w.omits id = true) :
    w.isOmission = true := by
  cases w with
  | missingCondition node title construct => rfl
  | _ => cases h

end Warning

/-- A node of the script is warned of once if it is left out, and else not. -/
theorem Drawing.Regular.filter_omits {D : Drawing} (h : D.Regular) {n : Node} (hn : D.Walked n)
    (config : Config) :
    (D.compile config).warnings.filter (Warning.omits n.id) = (D.omission? n).toList := by
  obtain ⟨main, bodies, hmain, hbodies⟩ := h.exists_statements
  obtain ⟨-, -, -, warnings, hnotices, homissions⟩ := h.draft_eq hmain hbodies config
  have hwarnings : (D.compile config).warnings = warnings := by
    change (D.draft config).notices.filterMap Notice.warning? = warnings
    rw [hnotices, List.filterMap_map]
    exact List.filterMap_some
  have hdistinct := h.script_ids_nodup hmain hbodies
  have hmem := (h.mem_script_nodes_iff hmain hbodies).mpr hn
  generalize D.hoisted.flatMap (fun n => n :: (bodies n).nodes) ++ main.nodes = nodes
    at homissions hdistinct hmem
  calc (D.compile config).warnings.filter (Warning.omits n.id)
      = (warnings.filter Warning.isOmission).filter (Warning.omits n.id) := by
        rw [hwarnings, List.filter_filter]
        refine List.filter_congr fun w _ => ?_
        cases homits : w.omits n.id with
        | false => rw [Bool.false_and]
        | true => rw [Warning.isOmission_of_omits homits, Bool.true_and]
    _ = (nodes.filter fun m => m.id == n.id).filterMap D.omission? := by
        rw [homissions, List.filter_filterMap, List.filterMap_filter]
        refine List.filterMap_congr fun m _ => ?_
        cases hm : D.omission? m with
        | none => simp
        | some w =>
            obtain ⟨construct, rfl⟩ := Drawing.exists_of_omission? hm
            simp [Option.filter, Warning.omits]
    _ = (D.omission? n).toList := by
        rw [filter_key_eq_singleton Node.id hdistinct hmem]
        cases hm : D.omission? n with
        | none => rw [List.filterMap_cons_none hm]; rfl
        | some w => rw [List.filterMap_cons_some hm]; rfl

/-! ## In the script -/

/-- The line that opens a control structure. -/
def Construct.opening (condition : String) : Construct → String
  | .branch => "if " ++ condition ++ "; then"
  | .loop => "while " ++ condition ++ "; do"

/-- The line that closes a control structure. -/
def Construct.closing : Construct → String
  | .branch => "fi"
  | .loop => "done"

namespace Drawing

variable {D : Drawing} {n : Node}

/-- The chain of a control structure is that of its output `Next`, behind the lines of the control
structure if it has a condition. -/
theorem Chain.of_construct {S : Statements} (hchain : D.Chain (some n) S) {behaviour : Behaviour}
    (hbehaviour : D.behaviour? n = some behaviour) {construct : Construct}
    (hconstruct : behaviour.construct? = some construct) :
    ∃ rest, D.Chain (D.next? n "Next") rest ∧ S.rest? = some rest ∧
      (D.guard? n = none → S = .skip n rest) ∧
      ∀ condition, D.guard? n = some condition → ∀ width depth, ∃ body, S.render width depth =
        pad width depth (construct.opening condition) ::
          (body ++ pad width depth construct.closing :: rest.render width depth) := by
  cases hchain with
  | plain hkind hplain _ =>
      obtain rfl := Option.some.inj (hkind.symm.trans hbehaviour)
      rw [Behaviour.construct?_of_isPlain hplain] at hconstruct
      cases hconstruct
  | @skip _ _ rest hkind hcases hguard hrest =>
      refine ⟨rest, hrest, rfl, fun _ => rfl, fun condition hsome => ?_⟩
      cases hguard.symm.trans hsome
  | @branch _ found yes rest hkind hguard hfalse hyes hrest =>
      obtain rfl := Option.some.inj (hkind.symm.trans hbehaviour)
      obtain rfl := Option.some.inj hconstruct
      refine ⟨rest, hrest, rfl, fun hnone => ?_, fun condition hsome width depth => ?_⟩
      · cases hguard.symm.trans hnone
      · obtain rfl := Option.some.inj (hguard.symm.trans hsome)
        exact ⟨_, rfl⟩
  | @branchElse _ found yes no rest hkind hguard hfalse hyes hno hrest =>
      obtain rfl := Option.some.inj (hkind.symm.trans hbehaviour)
      obtain rfl := Option.some.inj hconstruct
      refine ⟨rest, hrest, rfl, fun hnone => ?_, fun condition hsome width depth => ?_⟩
      · cases hguard.symm.trans hnone
      · obtain rfl := Option.some.inj (hguard.symm.trans hsome)
        refine ⟨bodyLines width (depth + 1) (yes.render width (depth + 1)) ++
          pad width depth "else" :: bodyLines width (depth + 1) (no.render width (depth + 1)), ?_⟩
        simp [Statements.render, Construct.opening, Construct.closing]
  | forEach hkind _ _ =>
      obtain rfl := Option.some.inj (hkind.symm.trans hbehaviour)
      cases hconstruct
  | @repeatWhile _ found body rest hkind hguard hbody hrest =>
      obtain rfl := Option.some.inj (hkind.symm.trans hbehaviour)
      obtain rfl := Option.some.inj hconstruct
      refine ⟨rest, hrest, rfl, fun hnone => ?_, fun condition hsome width depth => ?_⟩
      · cases hguard.symm.trans hnone
      · obtain rfl := Option.some.inj (hguard.symm.trans hsome)
        exact ⟨_, rfl⟩

/-- The kinds that need a condition have the keywords of the control structures as tags. -/
theorem construct?_of_tag {g : Graph} (h : g.Reachable Palette.standard.Has) (hn : n ∈ g.nodes)
    {construct : Construct} (htag : n.tag = construct.keyword) :
    ∃ behaviour, behaviour? ⟨g, .standard⟩ n = some behaviour ∧
      behaviour.construct? = some construct := by
  have hkinds : ∀ kind ∈ NodeKind.builtin,
      (kind.tag = Construct.branch.keyword → kind.behaviour.construct? = some .branch) ∧
      (kind.tag = Construct.loop.keyword → kind.behaviour.construct? = some .loop) := by decide
  obtain ⟨kind, hkind, hof, hbehaviour⟩ := exists_builtin h hn
  rw [hof.tag_eq] at htag
  refine ⟨kind.behaviour, hbehaviour, ?_⟩
  cases construct with
  | branch => exact (hkinds kind hkind).1 htag
  | loop => exact (hkinds kind hkind).2 htag

/-- Branches and loops in a drawing made with the standard palette.  One whose condition is missing
is passed over with one warning, and any other is written with a condition that is not blank and
without such a warning.  In either case the chain of its output `Next` stands behind it, at the same
depth. -/
theorem dropped_iff_condition_missing {g : Graph} (h : g.Reachable Palette.standard.Has)
    (config : Config) {n : Node} (hn : Walked ⟨g, .standard⟩ n) {construct : Construct}
    (htag : n.tag = construct.keyword) :
    let D : Drawing := ⟨g, .standard⟩
    let width := config.indentWidth.toNat
    let missing := (D.compile config).warnings.filter (Warning.omits n.id)
    ∃ S rest depth, D.Chain (some n) S ∧ D.Chain (D.next? n "Next") rest ∧
      D.Placed S depth ∧ D.Placed rest depth ∧
      S.render width depth <:+: scriptLines config (D.draft config) ∧
      (D.LacksCondition n → S = .skip n rest ∧ S.render width depth = rest.render width depth ∧
        missing = [.missingCondition n.id n.title construct]) ∧
      (¬ D.LacksCondition n → missing = [] ∧ ∃ condition body, Text.allBlank condition = false ∧
        S.render width depth = pad width depth (construct.opening condition) ::
          (body ++ pad width depth construct.closing :: rest.render width depth)) := by
  intro D width missing
  have hreg : D.Regular := regular_of_reachable h
  have hmem := hreg.mem_nodes_of_walked hn
  obtain ⟨behaviour, hbehaviour, hconstruct⟩ := construct?_of_tag h hmem htag
  have hmissing : missing = (D.omission? n).toList := hreg.filter_omits hn config
  have hlacks := hreg.guard?_eq_none_iff (testable_of_reachable h) hmem hbehaviour hconstruct
  have hfunction : n.tag ≠ NodeKind.function.tag := by
    rw [htag]
    cases construct <;> decide
  obtain ⟨S, depth, hchain, hplaced⟩ := hreg.placed_of_walked hn hfunction
  obtain ⟨rest, hrest, hafter, hskip, hwritten⟩ := hchain.of_construct hbehaviour hconstruct
  refine ⟨S, rest, depth, hchain, hrest, hplaced, hplaced.rest hafter,
    hreg.isInfix_render hplaced config, fun hlacking => ?_, fun hhas => ?_⟩
  · have hguard := hlacks.mpr hlacking
    rw [hmissing, omission?_of_construct hbehaviour hconstruct hguard]
    refine ⟨hskip hguard, ?_, rfl⟩
    rw [hskip hguard]
    rfl
  · obtain ⟨condition, hguard⟩ := Option.ne_none_iff_exists'.mp (mt hlacks.mp hhas)
    obtain ⟨-, -, -, hblank⟩ := resolveCondition_eq_some_iff.mp hguard
    obtain ⟨body, hlines⟩ := hwritten condition hguard width depth
    rw [hmissing, omission?_of_guard hguard]
    exact ⟨rfl, condition, body, hblank, hlines⟩

end Drawing

/-- A branch whose condition is a conjunction with one operand, and a loop after it that asks for
the same operand. -/
def Graph.halfTested : Graph :=
  sketch [.start, .branch, .logical "logical_and" "And" .and, .fileExists, .repeatWhile, .echo]
    [wire 0 1 3, wire 1 11 4, wire 2 14 9, wire 3 7 16, wire 4 14 17, wire 5 5 21]

theorem Drawing.dropped_iff_condition_missing_halfTested :
    let D : Drawing := ⟨.halfTested, .standard⟩
    Graph.halfTested.Reachable Palette.standard.Has ∧
    scriptLines {} (D.draft {}) = ["#!/bin/bash", "", Script.banner, "",
      "while [ -f \"\" ]; do", "    :", "done"] ∧
    (∃ n, D.Walked n ∧ n.id = ⟨⟨2⟩⟩ ∧ n.tag = Construct.branch.keyword ∧ D.LacksCondition n ∧
      (D.compile {}).warnings.filter (Warning.omits n.id) =
        [.missingCondition n.id n.title .branch]) ∧
    ∃ n, D.Walked n ∧ n.id = ⟨⟨15⟩⟩ ∧ n.tag = Construct.loop.keyword ∧ ¬ D.LacksCondition n ∧
      (D.compile {}).warnings.filter (Warning.omits n.id) = [] := by
  intro D
  have hreach : Graph.halfTested.Reachable Palette.standard.Has := by
    refine Graph.sketch_reachable (fun kind hkind => Palette.standard_has_iff.mpr ?_) _
    revert kind
    simp [NodeKind.builtin, NodeKind.flow, NodeKind.commands, NodeKind.storage,
      NodeKind.operators]
  have hwalked : ∀ n ∈ Graph.halfTested.nodes, n.id ∈ (D.draft {}).asked → D.Walked n :=
    fun n hn => ((regular_of_reachable hreach).mem_asked_iff {} hn).mp
  refine ⟨hreach, by decide, ?_, ?_⟩
  · obtain ⟨n, hn, hid, htag, hasked, hwarned⟩ : ∃ n ∈ Graph.halfTested.nodes, n.id = ⟨⟨2⟩⟩ ∧
        n.tag = Construct.branch.keyword ∧ n.id ∈ (D.draft {}).asked ∧
        (D.compile {}).warnings.filter (Warning.omits n.id) ≠ [] := by decide
    obtain ⟨S, rest, depth, -, -, -, -, -, hdropped, hkept⟩ :=
      dropped_iff_condition_missing hreach {} (hwalked n hn hasked) htag
    have hlacks : D.LacksCondition n := by
      by_contra hhas
      exact hwarned (hkept hhas).1
    exact ⟨n, hwalked n hn hasked, hid, htag, hlacks, (hdropped hlacks).2.2⟩
  · obtain ⟨n, hn, hid, htag, hasked, hsilent⟩ : ∃ n ∈ Graph.halfTested.nodes, n.id = ⟨⟨15⟩⟩ ∧
        n.tag = Construct.loop.keyword ∧ n.id ∈ (D.draft {}).asked ∧
        (D.compile {}).warnings.filter (Warning.omits n.id) = [] := by decide
    obtain ⟨S, rest, depth, -, -, -, -, -, hdropped, -⟩ :=
      dropped_iff_condition_missing hreach {} (hwalked n hn hasked) htag
    refine ⟨n, hwalked n hn hasked, hid, htag, fun hlacks => ?_, hsilent⟩
    have hwarned := (hdropped hlacks).2.2
    rw [hsilent] at hwarned
    cases hwarned

end ScriptGraph
