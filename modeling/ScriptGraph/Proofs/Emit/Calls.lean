import ScriptGraph.Proofs.Emit.Coverage
import ScriptGraph.Proofs.Emit.Meaning
import ScriptGraph.Proofs.Emit.Steps

/-!
# Calls and definitions

A call is checked when its node is asked for its statement, against the functions declared up to
then.  All functions are declared before the first of them is written, and no step of a compilation
declares another one (`Evolves.reports`).  So wherever a call stands, in the main part or in a
function in front of the one that it calls, it is checked against all definitions of the drawing.
A compilation that complains of no call has written the functions that are called, and all of them
stand in front of the main part (`calls_checked_against_definitions`).
-/

namespace ScriptGraph

/-- The function that this node calls, if it is a call.  An empty name calls nothing. -/
def Node.callee (n : Node) : String :=
  n.propertyText "function" ""

namespace Script

theorem mem_warnings_iff {script : Script} {w : Warning} :
    w ∈ script.warnings ↔ .warning w ∈ script.notices := by
  rw [warnings, List.mem_filterMap]
  constructor
  · rintro ⟨notice, hmem, hwarning⟩
    cases notice with
    | warning w' => exact Option.some.inj hwarning ▸ hmem
    | _ => cases hwarning
  · exact fun hmem => ⟨_, hmem, rfl⟩

end Script

namespace Drawing

variable {D : Drawing} {n : Node} {d d' d'' : Draft}

theorem callLine_eq_some_iff {name : String} :
    callLine n = some name ↔ n.callee = name ∧ name ≠ "" := by
  change (if n.callee.isEmpty then none else some n.callee) = some name ↔ _
  rw [Option.ite_none_left_eq_some, String.isEmpty_iff, Option.some.injEq]
  constructor
  · rintro ⟨hne, rfl⟩
    exact ⟨rfl, hne⟩
  · rintro ⟨rfl, hne⟩
    exact ⟨hne, rfl⟩

/-! ## What a compilation complains of -/

/-- A node that calls a function by a name that is not among the given ones. -/
structure CallsBeyond (D : Drawing) (declared : List String) (n : Node) (name : String) : Prop where
  behaviour_eq : D.behaviour? n = some .call
  line_eq : callLine n = some name
  undeclared : name ∉ declared

/-- A draft that changed while some nodes were asked for their statements.  Of the calls among them
there are complaints about those to functions not declared, and about no others. -/
structure Reports (D : Drawing) (d d' : Draft) (nodes : List Node) (noticed : List Notice) :
    Prop where
  mem_nodes : nodes ⊆ D.graph.nodes
  declared_eq : d'.declared = d.declared
  asked_eq : d'.asked = d.asked ++ nodes.map Node.id
  notices_eq : d'.notices = d.notices ++ noticed
  undefined_iff : ∀ id name, .warning (.undefinedFunction id name) ∈ noticed ↔
    ∃ n ∈ nodes, n.id = id ∧ D.CallsBeyond d.declared n name

namespace Reports

variable {nodes others : List Node} {noticed later : List Notice}

theorem silent (hdeclared : d'.declared = d.declared) (hasked : d'.asked = d.asked)
    (hnotices : d'.notices = d.notices) : D.Reports d d' [] [] := by
  constructor <;> simp [hdeclared, hasked, hnotices]

theorem trans (h : D.Reports d d' nodes noticed) (h' : D.Reports d' d'' others later) :
    D.Reports d d'' (nodes ++ others) (noticed ++ later) where
  mem_nodes := List.append_subset.mpr ⟨h.mem_nodes, h'.mem_nodes⟩
  declared_eq := h'.declared_eq.trans h.declared_eq
  asked_eq := by rw [h'.asked_eq, h.asked_eq, List.map_append, List.append_assoc]
  notices_eq := by rw [h'.notices_eq, h.notices_eq, List.append_assoc]
  undefined_iff id name := by
    have hlater := h'.undefined_iff id name
    rw [h.declared_eq] at hlater
    simp only [List.mem_append, h.undefined_iff, hlater, or_and_right, exists_or]

/-- Asking a node leaves no complaint if it calls nothing beyond what is declared. -/
theorem ask (hn : n ∈ D.graph.nodes) (hnone : ∀ name, ¬ D.CallsBeyond d.declared n name) :
    D.Reports d (d.ask n.id) [n] [] where
  mem_nodes := List.cons_subset.mpr ⟨hn, List.nil_subset _⟩
  declared_eq := rfl
  asked_eq := rfl
  notices_eq := (List.append_nil _).symm
  undefined_iff id name := by simp [hnone]

end Reports

theorem reports_line (d : Draft) (text : String) : D.Reports d (d.line text) [] [] := by
  unfold Draft.line
  split <;> exact .silent rfl rfl rfl

theorem reports_endBlock (d before : Draft) : D.Reports d (d.endBlock before) [] [] := by
  unfold Draft.endBlock
  split
  · exact (reports_line d ":").trans (.silent rfl rfl rfl)
  · exact .silent rfl rfl rfl

/-- A call to a function that is not declared is complained of. -/
theorem reports_warn (hn : n ∈ D.graph.nodes) {name : String}
    (hcall : D.CallsBeyond d.declared n name) :
    D.Reports d ((d.ask n.id).warn (.undefinedFunction n.id name)) [n]
      [.warning (.undefinedFunction n.id name)] where
  mem_nodes := List.cons_subset.mpr ⟨hn, List.nil_subset _⟩
  declared_eq := rfl
  asked_eq := rfl
  notices_eq := rfl
  undefined_iff id name' := by
    simp only [List.mem_singleton, Notice.warning.injEq, Warning.undefinedFunction.injEq,
      exists_eq_left]
    constructor
    · rintro ⟨rfl, rfl⟩
      exact ⟨rfl, hcall⟩
    · rintro ⟨rfl, hcall'⟩
      exact ⟨rfl, Option.some.inj (hcall'.line_eq.symm.trans hcall.line_eq)⟩

/-- What is left by asking a node, compared with the functions declared. -/
theorem exists_reports_plainEffect (hn : n ∈ D.graph.nodes) {behaviour : Behaviour}
    (hbehaviour : D.behaviour? n = some behaviour) (d : Draft) :
    ∃ noticed, D.Reports d (D.plainEffect n (d.ask n.id) behaviour) [n] noticed := by
  by_cases hcall : ∃ name, D.CallsBeyond d.declared n name
  · obtain ⟨name, hcall⟩ := hcall
    obtain rfl : behaviour = .call :=
      Option.some.inj (hbehaviour.symm.trans hcall.behaviour_eq)
    have heffect : D.plainEffect n (d.ask n.id) .call =
        (d.ask n.id).warn (.undefinedFunction n.id name) := by
      have hundeclared : (d.ask n.id).isDeclared name = false := by
        simpa [Draft.isDeclared, Draft.ask] using hcall.undeclared
      simp only [plainEffect, hcall.line_eq, hundeclared, Bool.false_eq_true, if_false]
    rw [heffect]
    exact ⟨_, reports_warn hn hcall⟩
  · have hask : D.Reports d (d.ask n.id) [n] [] := .ask hn (not_exists.mp hcall)
    refine ⟨[], hask.trans ?_⟩
    cases behaviour with
    | call =>
        cases hline : callLine n with
        | none =>
            rw [plainEffect, hline]
            exact .silent rfl rfl rfl
        | some name =>
            have hdeclared : (d.ask n.id).isDeclared name = true := by
              by_contra hnot
              refine hcall ⟨name, hbehaviour, hline, ?_⟩
              simpa [Draft.isDeclared, Draft.ask] using hnot
            simp only [plainEffect, hline, hdeclared, if_true]
            exact .silent rfl rfl rfl
    | _ => exact .silent rfl rfl rfl

/-- No step declares a function, and every call is checked when its node is asked. -/
theorem Evolves.reports (h : D.Evolves d d') : ∃ nodes noticed, D.Reports d d' nodes noticed := by
  induction h with
  | nothing d => exact ⟨[], [], .silent rfl rfl rfl⟩
  | comp _ _ ih ih' =>
      obtain ⟨nodes, noticed, hfirst⟩ := ih
      obtain ⟨others, later, hsecond⟩ := ih'
      exact ⟨_, _, hfirst.trans hsecond⟩
  | line d text => exact ⟨[], [], reports_line d text⟩
  | functionLine d text => exact ⟨[], [], .silent rfl rfl rfl⟩
  | assign d name expression => exact ⟨[], [], .silent rfl rfl rfl⟩
  | ask d hn hbehaviour => exact ⟨_, exists_reports_plainEffect hn hbehaviour d⟩
  | @note d notice hother =>
      refine ⟨[], [notice], ⟨List.nil_subset _, rfl, (List.append_nil _).symm, rfl, ?_⟩⟩
      simpa [eq_comm] using hother
  | @block d d' _ ih =>
      obtain ⟨nodes, noticed, hbody⟩ := ih
      have hopen : D.Reports d d.indent [] [] := .silent rfl rfl rfl
      exact ⟨_, _, (hopen.trans hbody).trans (reports_endBlock d' d)⟩
  | @inFunction d d' _ ih =>
      obtain ⟨nodes, noticed, hbody⟩ := ih
      have hopen : D.Reports d d.beginFunction [] [] := .silent rfl rfl rfl
      have hclose : D.Reports d' (d'.endFunction d) [] [] := .silent rfl rfl rfl
      exact ⟨_, _, (hopen.trans hbody).trans hclose⟩
  | @visit d d' n _ _ ih =>
      obtain ⟨nodes, noticed, hbody⟩ := ih
      have henter : D.Reports d (d.enter n.id) [] [] := .silent rfl rfl rfl
      have hleave : D.Reports d' (d'.leave n.id) [] [] := .silent rfl rfl rfl
      exact ⟨_, _, (henter.trans hbody).trans hleave⟩

/-- Declaring the functions of some nodes declares these and does nothing else. -/
theorem foldl_declare_spec (nodes : List Node) (d : Draft) :
    let d' := nodes.foldl (fun d n => d.declare n.functionName) d
    (∀ name, name ∈ d'.declared ↔ name ∈ d.declared ∨ ∃ n ∈ nodes, n.functionName = name) ∧
      d'.asked = d.asked ∧ d'.notices = d.notices := by
  induction nodes generalizing d with
  | nil => simp
  | cons n nodes ih =>
      have hfirst : ∀ name, name ∈ (d.declare n.functionName).declared ↔
          name ∈ d.declared ∨ n.functionName = name := by
        intro name
        unfold Draft.declare
        split
        · rename_i hmem
          exact ⟨Or.inl, fun hname => hname.elim id fun heq => heq ▸ hmem⟩
        · simp [eq_comm]
      have hrest : (d.declare n.functionName).asked = d.asked ∧
          (d.declare n.functionName).notices = d.notices := by
        unfold Draft.declare
        split <;> exact ⟨rfl, rfl⟩
      obtain ⟨hdeclared, hasked, hnotices⟩ := ih (d.declare n.functionName)
      refine ⟨fun name => ?_, hasked.trans hrest.1, hnotices.trans hrest.2⟩
      rw [List.foldl_cons, hdeclared, hfirst]
      simp [or_assoc]

/-- To begin with, the functions of the drawing are declared and nothing has happened yet. -/
theorem announced_spec (D : Drawing) (config : Config) :
    (∀ name, name ∈ (D.announced config).declared ↔ ∃ n ∈ D.hoisted, n.functionName = name) ∧
      (D.announced config).asked = [] ∧ (D.announced config).notices = [] := by
  obtain ⟨hdeclared, hrest⟩ := foldl_declare_spec D.hoisted { width := config.indentWidth.toNat }
  refine ⟨fun name => ?_, hrest⟩
  rw [announced, hdeclared]
  simp

namespace Regular

variable (h : D.Regular) (config : Config)
include h

/-- The nodes asked for their statements are those with a place in the script. -/
theorem mem_asked_iff (hn : n ∈ D.graph.nodes) :
    n.id ∈ (D.draft config).asked ↔ D.Walked n := by
  obtain ⟨main, bodies, hmain, hbodies⟩ := h.exists_statements
  rw [(h.draft_eq hmain hbodies config).2.2.1, List.mem_map]
  simp only [h.mem_script_nodes_iff hmain hbodies]
  constructor
  · rintro ⟨m, hm, hid⟩
    exact h.wellFormed.node_unique (h.mem_nodes_of_walked hm) hn hid ▸ hm
  · exact fun hwalked => ⟨n, hwalked, rfl⟩

/-- The calls complained of are those with a place in the script that no definition answers. -/
theorem undefined_iff (id : NodeId) (name : String) :
    .undefinedFunction id name ∈ (D.compile config).warnings ↔
      ∃ n, D.Walked n ∧ n.id = id ∧ D.behaviour? n = some .call ∧ callLine n = some name ∧
        ∀ m ∈ D.hoisted, m.functionName ≠ name := by
  obtain ⟨nodes, noticed, hreports⟩ := (D.evolves_draft config).reports
  obtain ⟨hdeclared, hasked, hnotices⟩ := D.announced_spec config
  have hwalked : ∀ n ∈ D.graph.nodes, n ∈ nodes ↔ D.Walked n := by
    intro n hn
    rw [← h.mem_asked_iff config hn, hreports.asked_eq, hasked, List.nil_append, List.mem_map]
    constructor
    · exact fun hmem => ⟨n, hmem, rfl⟩
    · rintro ⟨m, hm, hid⟩
      exact h.wellFormed.node_unique (hreports.mem_nodes hm) hn hid ▸ hm
  have hmem : .undefinedFunction id name ∈ (D.compile config).warnings ↔
      .warning (.undefinedFunction id name) ∈ noticed := by
    rw [Script.mem_warnings_iff]
    change _ ∈ (D.draft config).notices ↔ _
    rw [hreports.notices_eq, hnotices, List.nil_append]
  have hundeclared : name ∉ (D.announced config).declared ↔
      ∀ m ∈ D.hoisted, m.functionName ≠ name := by
    rw [hdeclared]
    simp
  rw [hmem, hreports.undefined_iff]
  constructor
  · rintro ⟨n, hn, hid, hcall⟩
    have hplace := (hwalked n (hreports.mem_nodes hn)).mp hn
    exact ⟨n, hplace, hid, hcall.behaviour_eq, hcall.line_eq, hundeclared.mp hcall.undeclared⟩
  · rintro ⟨n, hn, hid, hbehaviour, hline, hnone⟩
    refine ⟨n, (hwalked n (h.mem_nodes_of_walked hn)).mpr hn, hid, hbehaviour, hline, ?_⟩
    exact hundeclared.mpr hnone

/-- Every definition of the drawing begins with its name among the functions. -/
theorem opening_mem_functions (hn : n ∈ D.hoisted) :
    n.functionName ++ "() \x7b" ∈ (D.draft config).functions := by
  obtain ⟨main, bodies, hmain, hbodies⟩ := h.exists_statements
  rw [(h.draft_eq hmain hbodies config).1]
  exact List.mem_flatMap.mpr ⟨n, hn, List.mem_cons_self⟩

end Regular

/-- In a drawing made with the standard palette the calls are the nodes of one kind. -/
theorem behaviour?_eq_call_iff {g : Graph} (h : g.Reachable Palette.standard.Has)
    (hn : n ∈ g.nodes) :
    (⟨g, .standard⟩ : Drawing).behaviour? n = some .call ↔ n.tag = NodeKind.call.tag := by
  have hkinds : ∀ kind ∈ NodeKind.builtin, kind.behaviour = .call ↔
      kind.tag = NodeKind.call.tag := by decide
  obtain ⟨kind, hkind, hof, hbehaviour⟩ := exists_builtin h hn
  rw [hbehaviour, Option.some.injEq, hof.tag_eq]
  exact hkinds kind hkind

/-! ## Calls are checked against all definitions -/

/-- Calls and definitions in a drawing made with the standard palette.  A call that is asked for its
statement is complained of exactly if no node defines the function called, and of nothing else is
there such a complaint.  If there is none, then the functions called are all defined among the
functions, which come in front of the main part. -/
theorem calls_checked_against_definitions {g : Graph} (h : g.Reachable Palette.standard.Has)
    (config : Config) :
    let D : Drawing := ⟨g, .standard⟩
    let draft := D.draft config
    let script := D.compile config
    (∀ n ∈ g.nodes, n.id ∈ draft.asked ↔ D.Walked n) ∧
    (∀ n, D.Walked n → n.tag = NodeKind.call.tag → n.callee ≠ "" →
      (.undefinedFunction n.id n.callee ∈ script.warnings ↔
        ∀ m ∈ g.nodes, m.tag = NodeKind.function.tag → m.functionName ≠ n.callee)) ∧
    (∀ id name, .undefinedFunction id name ∈ script.warnings →
      ∃ n, D.Walked n ∧ n.id = id ∧ n.tag = NodeKind.call.tag ∧ n.callee = name ∧ name ≠ "") ∧
    (∀ n ∈ g.nodes, ¬ D.Walked n → ∀ name, .undefinedFunction n.id name ∉ script.warnings) ∧
    ((∀ id name, .undefinedFunction id name ∉ script.warnings) →
      ∀ n, D.Walked n → n.tag = NodeKind.call.tag → n.callee ≠ "" →
        n.callee ++ "() \x7b" ∈ draft.functions) ∧
    script.text = Script.ofLines (header config ++ draft.functions ++ draft.main) := by
  intro D draft script
  have hreg : D.Regular := regular_of_reachable h
  have hdefinitions : ∀ name, (∀ m ∈ D.hoisted, m.functionName ≠ name) ↔
      ∀ m ∈ g.nodes, m.tag = NodeKind.function.tag → m.functionName ≠ name := by
    simp [hreg.hoisted_eq, D]
  have hchecked : ∀ n, D.Walked n → n.tag = NodeKind.call.tag → n.callee ≠ "" →
      (.undefinedFunction n.id n.callee ∈ script.warnings ↔
        ∀ m ∈ D.hoisted, m.functionName ≠ n.callee) := by
    intro n hn htag hne
    have hbehaviour := (behaviour?_eq_call_iff h (hreg.mem_nodes_of_walked hn)).mpr htag
    rw [hreg.undefined_iff config]
    constructor
    · rintro ⟨_, -, -, -, -, hnone⟩
      exact hnone
    · exact fun hnone => ⟨n, hn, rfl, hbehaviour, callLine_eq_some_iff.mpr ⟨rfl, hne⟩, hnone⟩
  have hcalls : ∀ id name, .undefinedFunction id name ∈ script.warnings →
      ∃ n, D.Walked n ∧ n.id = id ∧ n.tag = NodeKind.call.tag ∧ n.callee = name ∧ name ≠ "" := by
    intro id name hmem
    obtain ⟨n, hn, hid, hbehaviour, hline, -⟩ := (hreg.undefined_iff config id name).mp hmem
    have htag := (behaviour?_eq_call_iff h (hreg.mem_nodes_of_walked hn)).mp hbehaviour
    exact ⟨n, hn, hid, htag, callLine_eq_some_iff.mp hline⟩
  refine ⟨fun n hn => hreg.mem_asked_iff config hn, fun n hn htag hne => ?_, hcalls, ?_, ?_, rfl⟩
  · rw [hchecked n hn htag hne, hdefinitions]
  · intro n hn hnot name hmem
    obtain ⟨m, hm, hid, -⟩ := hcalls n.id name hmem
    exact hnot (hreg.wellFormed.node_unique (hreg.mem_nodes_of_walked hm) hn hid ▸ hm)
  · intro hclean n hn htag hne
    have hdefined := mt (hchecked n hn htag hne).mpr (hclean n.id n.callee)
    push Not at hdefined
    obtain ⟨m, hm, hname⟩ := hdefined
    exact hname ▸ hreg.opening_mem_functions config hm

end Drawing

/-- A call in the main part and a call in the function that it calls, to a function that is defined
by the last node.  The second call gives its name by a property that is not a text. -/
def Graph.forward : Graph :=
  ((sketch [.start, .call, .function, .call, .function] [wire 0 1 3, wire 1 6 8]).updateNode
    ⟨⟨7⟩⟩ fun n => n.edit "Call" ⟨0, 0⟩ (.ofList [("function", .bool true)])).updateNode
    ⟨⟨10⟩⟩ fun n => n.edit "Function" ⟨0, 0⟩ (.ofList [("name", .text "true")])

/-- The same with another name in the main part. -/
def Graph.astray : Graph :=
  forward.updateNode ⟨⟨2⟩⟩ fun n => n.edit "Call" ⟨0, 0⟩ (.ofList [("function", .text "missing")])

theorem Drawing.calls_checked_against_definitions_forward :
    let D : Drawing := ⟨.forward, .standard⟩
    let D' : Drawing := ⟨.astray, .standard⟩
    Graph.forward.Reachable Palette.standard.Has ∧ Graph.astray.Reachable Palette.standard.Has ∧
    (D.compile {}).warnings = [] ∧
    (∃ n, D.Walked n ∧ n.id = ⟨⟨7⟩⟩ ∧ n.tag = NodeKind.call.tag ∧ n.callee = "true" ∧
      n.callee ++ "() \x7b" ∈ (D.draft {}).functions) ∧
    ∃ n, D'.Walked n ∧ n.id = ⟨⟨2⟩⟩ ∧ n.tag = NodeKind.call.tag ∧ n.callee = "missing" ∧
      .undefinedFunction n.id n.callee ∈ (D'.compile {}).warnings := by
  intro D D'
  have hreach : Graph.forward.Reachable Palette.standard.Has := by
    refine .edit (.edit (Graph.sketch_reachable (fun kind hkind => ?_) _) ..) ..
    refine Palette.standard_has_iff.mpr ?_
    revert kind
    simp [NodeKind.builtin, NodeKind.flow]
  have hreach' : Graph.astray.Reachable Palette.standard.Has := hreach.edit ..
  have hclean : (D.compile {}).warnings = [] := by decide
  refine ⟨hreach, hreach', hclean, ?_, ?_⟩
  · obtain ⟨hasked, -, -, -, hdefined, -⟩ := calls_checked_against_definitions hreach {}
    obtain ⟨n, hn, hid, htag, hcallee⟩ : ∃ n ∈ Graph.forward.nodes, n.id = ⟨⟨7⟩⟩ ∧
        n.tag = NodeKind.call.tag ∧ n.callee = "true" := by decide
    have hwalked : D.Walked n := by
      refine (hasked n hn).mp ?_
      rw [hid]
      decide
    refine ⟨n, hwalked, hid, htag, hcallee, hdefined ?_ n hwalked htag (by simp [hcallee])⟩
    exact fun id name hmem => List.not_mem_nil (hclean ▸ hmem)
  · obtain ⟨hasked, hchecked, -⟩ := calls_checked_against_definitions hreach' {}
    obtain ⟨n, hn, hid, htag, hcallee⟩ : ∃ n ∈ Graph.astray.nodes, n.id = ⟨⟨2⟩⟩ ∧
        n.tag = NodeKind.call.tag ∧ n.callee = "missing" := by decide
    have hwalked : D'.Walked n := by
      refine (hasked n hn).mp ?_
      rw [hid]
      decide
    refine ⟨n, hwalked, hid, htag, hcallee, (hchecked n hwalked htag (by simp [hcallee])).mpr ?_⟩
    rw [hcallee]
    decide

end ScriptGraph
