import ScriptGraph.Proofs.Emit.Steps

/-!
# Every step of a compilation restores the draft

A statement goes deeper for its bodies, turns to the functions for a definition, and enters the nodes
that it walks.  Whatever it does on the way, it comes back: the depth, the buffer in use and the nodes
that the walk is inside of are what they were, no line and no warning is lost, and no function is
declared (`Draft.Restored`).

This is shown for each way in which a draft can change (`Evolves.restored`), and so it holds of the
walk, of what an output drives and of the statement of any behaviour, from any draft at all
(`emission_restores_draft`).
-/

namespace ScriptGraph

namespace Draft

/-- A draft that is back where it was, with perhaps more lines and more warnings. -/
structure Restored (d d' : Draft) : Prop where
  depth_eq : d'.depth = d.depth
  buffer_eq : d'.buffer = d.buffer
  active_eq : d'.active = d.active
  isPrefix_main : d.main <+: d'.main
  isPrefix_functions : d.functions <+: d'.functions
  isPrefix_warnings : d.warnings <+: d'.warnings
  declared_eq : d'.declared = d.declared

namespace Restored

variable {d d' d'' : Draft}

theorem refl (d : Draft) : d.Restored d := by
  constructor <;> simp

theorem trans (h : d.Restored d') (h' : d'.Restored d'') : d.Restored d'' where
  depth_eq := h'.depth_eq.trans h.depth_eq
  buffer_eq := h'.buffer_eq.trans h.buffer_eq
  active_eq := h'.active_eq.trans h.active_eq
  isPrefix_main := h.isPrefix_main.trans h'.isPrefix_main
  isPrefix_functions := h.isPrefix_functions.trans h'.isPrefix_functions
  isPrefix_warnings := h.isPrefix_warnings.trans h'.isPrefix_warnings
  declared_eq := h'.declared_eq.trans h.declared_eq

/-- One level deeper a draft is restored to what it is at its own depth.  The depth inside is not
the outermost, so going out undoes going in. -/
theorem dedent (h : d.indent.Restored d') : d.Restored d'.dedent where
  depth_eq := by
    change d'.depth - 1 = d.depth
    rw [h.depth_eq]
    rfl
  buffer_eq := h.buffer_eq
  active_eq := h.active_eq
  isPrefix_main := h.isPrefix_main
  isPrefix_functions := h.isPrefix_functions
  isPrefix_warnings := h.isPrefix_warnings
  declared_eq := h.declared_eq

/-- Depth and buffer are those from before a body among the functions, whatever the body did to
them. -/
theorem endFunction (h : d.beginFunction.Restored d') : d.Restored (d'.endFunction d) where
  depth_eq := rfl
  buffer_eq := rfl
  active_eq := h.active_eq
  isPrefix_main := h.isPrefix_main
  isPrefix_functions := h.isPrefix_functions
  isPrefix_warnings := h.isPrefix_warnings
  declared_eq := h.declared_eq

/-- Leaving a node undoes entering it. -/
theorem leave {id : NodeId} (h : (d.enter id).Restored d') : d.Restored (d'.leave id) where
  depth_eq := h.depth_eq
  buffer_eq := h.buffer_eq
  active_eq := by
    change d'.active.erase id = d.active
    rw [h.active_eq]
    exact List.erase_cons_head ..
  isPrefix_main := h.isPrefix_main
  isPrefix_functions := h.isPrefix_functions
  isPrefix_warnings := h.isPrefix_warnings
  declared_eq := h.declared_eq

end Restored

theorem restored_line (d : Draft) (text : String) : d.Restored (d.line text) := by
  unfold line
  cases hbuffer : d.buffer <;> constructor <;> simp [hbuffer, warnings]

theorem restored_functionLine (d : Draft) (text : String) : d.Restored (d.functionLine text) := by
  constructor <;> simp [functionLine, warnings]

theorem restored_assign (d : Draft) (name expression : String) :
    d.Restored (d.assign name expression) := by
  constructor <;> simp [assign, warnings]

theorem restored_note (d : Draft) (notice : Notice) : d.Restored (d.note notice) := by
  constructor <;> simp [note, warnings]

theorem restored_ask (d : Draft) (node : NodeId) : d.Restored (d.ask node) := by
  constructor <;> simp [ask, warnings]

/-- The end of a block comes back from its depth, with or without a colon for an empty body. -/
theorem Restored.endBlock {d d' : Draft} (h : d.indent.Restored d') :
    d.Restored (d'.endBlock d) := by
  unfold Draft.endBlock
  split
  · exact (h.trans (d'.restored_line ":")).dedent
  · exact h.dedent

end Draft

namespace Drawing

variable {D : Drawing} {n : Node}

theorem restored_plainEffect (D : Drawing) (n : Node) (d : Draft) (behaviour : Behaviour) :
    d.Restored (D.plainEffect n d behaviour) := by
  cases behaviour with
  | call =>
      unfold plainEffect
      dsimp only
      split
      · exact .refl d
      · split
        · exact .refl d
        · exact d.restored_note _
  | setVariable => exact d.restored_assign _ _
  | _ => exact .refl d

/-- Whatever a compilation makes of a draft, it restores it. -/
theorem Evolves.restored {d d' : Draft} (h : D.Evolves d d') : d.Restored d' := by
  induction h with
  | nothing d => exact .refl d
  | comp _ _ hfirst hsecond => exact hfirst.trans hsecond
  | line d text => exact d.restored_line text
  | functionLine d text => exact d.restored_functionLine text
  | assign d name expression => exact d.restored_assign name expression
  | ask d _ _ => exact (d.restored_ask _).trans (restored_plainEffect D _ _ _)
  | note d _ => exact d.restored_note _
  | block _ hbody => exact hbody.endBlock
  | inFunction _ hbody => exact hbody.endFunction
  | visit n _ _ hinside => exact hinside.leave

/-- A statement restores the draft, also that of a behaviour which is not the node's own. -/
theorem restored_statementWith (hn : n ∈ D.graph.nodes) (d : Draft) (behaviour : Behaviour) :
    d.Restored (D.statementWith D.walk n d behaviour).2 := by
  have hwalk : ∀ m ∈ D.graph.nodes, ∀ d, D.Evolves d (D.walk m d) := fun m hm d => evolves_walk hm d
  have hask : d.Restored (d.ask n.id) := d.restored_ask n.id
  have hplain := hask.trans (restored_plainEffect D n (d.ask n.id) behaviour)
  cases behaviour with
  | branch => exact hask.trans (evolves_writeBranch hwalk n _).restored
  | forEach => exact hask.trans (evolves_writeForEach hwalk n _).restored
  | repeatWhile => exact hask.trans (evolves_writeRepeatWhile hwalk n _).restored
  | define => exact hask.trans (evolves_writeDefinition hwalk n _).restored
  | custom c => exact hask.trans (evolves_runCustom hwalk hn _ c).restored
  | _ => exact hplain

/-- In any drawing and from any draft, the walk from a node, what an output of it drives and the
statement that a behaviour makes of it leave the depth, the buffer in use, the nodes entered and the
functions declared as they were, and only add to the lines and the warnings. -/
theorem emission_restores_draft (D : Drawing) {n : Node} (hn : n ∈ D.graph.nodes) (d : Draft) :
    d.Restored (D.walk n d) ∧
    (∀ output, d.Restored (D.follow n output d)) ∧
    ∀ behaviour, d.Restored (D.statementWith D.walk n d behaviour).2 := by
  have hwalk : ∀ m ∈ D.graph.nodes, ∀ d, D.Evolves d (D.walk m d) := fun m hm d => evolves_walk hm d
  refine ⟨(hwalk n hn d).restored, fun output => ?_, restored_statementWith hn d⟩
  exact (evolves_followWith hwalk n output d).restored

/-- The sample with a greeting that walks its own chain twice more, and without the kinds of the
call and of the exit. -/
def patchy : Drawing :=
  ⟨.sample, .ofKinds [.start, .branch, .fileExists, echoAgain, .function]⟩

/-- A draft in the middle of a function, three levels deep and inside of another node. -/
def nested : Draft :=
  { width := 2, depth := 3, buffer := .functions, functions := ["f() \x7b"]
    active := [⟨⟨BitVec.ofNat 128 77⟩⟩] }

theorem emission_restores_draft_patchy :
    (Graph.sample.Reachable fun _ => True) ∧
    ∃ n ∈ patchy.graph.nodes, n.tag = Graph.startTag ∧
      (patchy.walk n nested).functions =
        ["f() \x7b", "      if [ -f \"\" ]; then", "        :", "      else", "        again",
          "      fi"] ∧
      (patchy.walk n nested).notices.length = 3 ∧
      nested.Restored (patchy.walk n nested) ∧
      nested.Restored (patchy.follow n "Exec" nested) ∧
      nested.Restored (patchy.statementWith patchy.walk n nested .define).2 := by
  have hreach : Graph.sample.Reachable fun _ => True := Graph.sample_reachable fun _ _ => trivial
  have hfirst := List.head_mem (by decide : patchy.graph.nodes ≠ [])
  obtain ⟨hwalk, hfollow, hstatement⟩ := emission_restores_draft patchy hfirst nested
  refine ⟨hreach, _, hfirst, by decide, by decide, by decide, hwalk, ?_, ?_⟩
  · exact hfollow "Exec"
  · exact hstatement .define

end Drawing

end ScriptGraph
