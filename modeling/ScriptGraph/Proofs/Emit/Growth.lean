import ScriptGraph.Proofs.Emit.Statements

/-!
# How a draft grows

Every part of a compilation adds lines to one buffer, asks nodes for their statements and perhaps
gives warnings, and leaves depth, buffer and the nodes it is inside of as they were.
`Draft.Grows` says so for two drafts, and `Drawing.Writes` for a function on drafts, with the lines
as a function of width and depth.  Of the nodes asked those are warned of that are left out, in
order, and no others.  Such functions compose (`Writes.comp`); the lemmas after it put one thing in
front of what is written, so that a control structure is put together from its end.
-/

namespace ScriptGraph

/-- Whether a warning says that a control structure is left out. -/
def Warning.isOmission : Warning → Bool
  | .missingCondition .. => true
  | _ => false

namespace Draft

/-- A draft that grew by some lines in the buffer in use, by some nodes asked for their statement
and by some warnings about what is left out, and is back where it was. -/
structure Grows (d d' : Draft) (lines : List String) (nodes : List Node)
    (omitted : List Warning) : Prop where
  width_eq : d'.width = d.width
  depth_eq : d'.depth = d.depth
  buffer_eq : d'.buffer = d.buffer
  active_eq : d'.active = d.active
  main_eq : d'.main = d.main ++ if d.buffer = .main then lines else []
  functions_eq : d'.functions = d.functions ++ if d.buffer = .functions then lines else []
  asked_eq : d'.asked = d.asked ++ nodes.map Node.id
  /-- whatever is noticed is a warning -/
  notices_eq : ∃ warnings : List Warning, d'.notices = d.notices ++ warnings.map .warning ∧
    warnings.filter Warning.isOmission = omitted

namespace Grows

variable {d d' d'' : Draft} {lines more : List String} {nodes others : List Node}
  {omitted later : List Warning}

theorem refl (d : Draft) : d.Grows d [] [] [] := by
  constructor <;> simp

theorem trans (h : d.Grows d' lines nodes omitted) (h' : d'.Grows d'' more others later) :
    d.Grows d'' (lines ++ more) (nodes ++ others) (omitted ++ later) where
  width_eq := h'.width_eq.trans h.width_eq
  depth_eq := h'.depth_eq.trans h.depth_eq
  buffer_eq := h'.buffer_eq.trans h.buffer_eq
  active_eq := h'.active_eq.trans h.active_eq
  main_eq := by
    rw [h'.main_eq, h.main_eq, h.buffer_eq, List.append_assoc]
    split <;> simp
  functions_eq := by
    rw [h'.functions_eq, h.functions_eq, h.buffer_eq, List.append_assoc]
    split <;> simp
  asked_eq := by rw [h'.asked_eq, h.asked_eq, List.map_append, List.append_assoc]
  notices_eq := by
    obtain ⟨warnings, heq, rfl⟩ := h.notices_eq
    obtain ⟨warnings', heq', rfl⟩ := h'.notices_eq
    refine ⟨warnings ++ warnings', ?_, List.filter_append ..⟩
    rw [heq', heq, List.map_append, List.append_assoc]

theorem current_eq (h : d.Grows d' lines nodes omitted) : d'.current = d.current ++ lines := by
  unfold current
  rw [h.buffer_eq, h.main_eq, h.functions_eq]
  cases d.buffer <;> simp

end Grows

theorem grows_line (d : Draft) {text : String} (htext : text.isEmpty = false) :
    d.Grows (d.line text) [pad d.width d.depth text] [] [] := by
  have hindented : d.indented text = pad d.width d.depth text := by
    rw [indented, htext]
    rfl
  unfold line
  cases hbuffer : d.buffer <;> constructor <;> simp [hbuffer, hindented]

theorem grows_line? (d : Draft) (text : Option String) :
    d.Grows (d.line? text) (lineOf d.width d.depth text) [] [] := by
  unfold line?
  cases text with
  | none => exact Grows.refl d
  | some text =>
      cases htext : text.isEmpty with
      | true => simpa [lineOf, htext] using Grows.refl d
      | false => simpa [lineOf, htext] using d.grows_line htext

theorem grows_ask (d : Draft) (n : Node) : d.Grows (d.ask n.id) [] [n] [] := by
  constructor <;> simp [ask]

theorem grows_warn (d : Draft) (w : Warning) :
    d.Grows (d.warn w) [] [] ([w].filter Warning.isOmission) := by
  constructor
  case notices_eq => exact ⟨[w], rfl, rfl⟩
  all_goals simp [warn, note]

theorem grows_assign (d : Draft) (name expression : String) :
    d.Grows (d.assign name expression) [] [] [] := by
  constructor <;> simp [assign]

/-- Inside of a node a draft grows as it does outside. -/
theorem Grows.leave {d d' : Draft} {id : NodeId} {lines : List String} {nodes : List Node}
    {omitted : List Warning} (h : (d.enter id).Grows d' lines nodes omitted) :
    d.Grows (d'.leave id) lines nodes omitted where
  width_eq := h.width_eq
  depth_eq := h.depth_eq
  buffer_eq := h.buffer_eq
  active_eq := by
    rw [Draft.leave, h.active_eq]
    simp [enter]
  main_eq := h.main_eq
  functions_eq := h.functions_eq
  asked_eq := h.asked_eq
  notices_eq := h.notices_eq

/-- One level deeper a draft grows as it does at its own depth. -/
theorem Grows.dedent {d d' : Draft} {lines : List String} {nodes : List Node}
    {omitted : List Warning} (h : d.indent.Grows d' lines nodes omitted) :
    d.Grows d'.dedent lines nodes omitted where
  width_eq := h.width_eq
  depth_eq := by
    rw [Draft.dedent, h.depth_eq]
    simp [indent]
  buffer_eq := h.buffer_eq
  active_eq := h.active_eq
  main_eq := h.main_eq
  functions_eq := h.functions_eq
  asked_eq := h.asked_eq
  notices_eq := h.notices_eq

/-- A block grows by its body one level deeper, or by a colon. -/
theorem grows_block {d : Draft} {body : Draft → Draft} {lines : List String} {nodes : List Node}
    {omitted : List Warning} (h : d.indent.Grows (body d.indent) lines nodes omitted) :
    d.Grows (d.block body) (bodyLines d.width (d.depth + 1) lines) nodes omitted := by
  have hcurrent : (body d.indent).current.length = d.current.length + lines.length := by
    rw [h.current_eq, List.length_append]
    rfl
  -- a block compares the lengths of the buffer to find out whether its body wrote anything
  unfold block endBlock
  by_cases hempty : lines = []
  · have hcolon := h.trans ((body d.indent).grows_line (rfl : (":" : String).isEmpty = false))
    rw [if_pos (by simp [hcurrent, hempty]), bodyLines, if_pos hempty]
    rw [hempty, h.width_eq, h.depth_eq, List.append_nil, List.append_nil] at hcolon
    exact hcolon.dedent
  · rw [if_neg (by simpa [hcurrent] using hempty), bodyLines, if_neg hempty]
    exact h.dedent

end Draft

/-! ## Growing among the functions -/

namespace Draft

/-- A draft that grew by some lines among the functions, whatever buffer is in use. -/
structure Hoists (d d' : Draft) (lines : List String) (nodes : List Node)
    (omitted : List Warning) : Prop where
  buffer_eq : d'.buffer = d.buffer
  depth_eq : d'.depth = d.depth
  grows : d.beginFunction.Grows d'.beginFunction lines nodes omitted

namespace Hoists

variable {d d' d'' : Draft} {lines more : List String} {nodes others : List Node}
  {omitted later : List Warning}

theorem refl (d : Draft) : d.Hoists d [] [] [] :=
  ⟨rfl, rfl, Grows.refl _⟩

theorem trans (h : d.Hoists d' lines nodes omitted) (h' : d'.Hoists d'' more others later) :
    d.Hoists d'' (lines ++ more) (nodes ++ others) (omitted ++ later) :=
  ⟨h'.buffer_eq.trans h.buffer_eq, h'.depth_eq.trans h.depth_eq, h.grows.trans h'.grows⟩

theorem width_eq (h : d.Hoists d' lines nodes omitted) : d'.width = d.width := h.grows.width_eq

theorem active_eq (h : d.Hoists d' lines nodes omitted) : d'.active = d.active := h.grows.active_eq

theorem main_eq (h : d.Hoists d' lines nodes omitted) : d'.main = d.main := by
  simpa [beginFunction] using h.grows.main_eq

theorem functions_eq (h : d.Hoists d' lines nodes omitted) :
    d'.functions = d.functions ++ lines := by
  simpa [beginFunction] using h.grows.functions_eq

theorem asked_eq (h : d.Hoists d' lines nodes omitted) : d'.asked = d.asked ++ nodes.map Node.id :=
  h.grows.asked_eq

theorem notices_eq (h : d.Hoists d' lines nodes omitted) :
    ∃ warnings : List Warning, d'.notices = d.notices ++ warnings.map .warning ∧
      warnings.filter Warning.isOmission = omitted :=
  h.grows.notices_eq

end Hoists

theorem hoists_ask (d : Draft) (n : Node) : d.Hoists (d.ask n.id) [] [n] [] :=
  ⟨rfl, rfl, d.beginFunction.grows_ask n⟩

theorem hoists_functionLine (d : Draft) (text : String) :
    d.Hoists (d.functionLine text) [text] [] [] := by
  refine ⟨rfl, rfl, ?_⟩
  constructor <;> simp [functionLine, beginFunction]

theorem hoists_declare (d : Draft) (name : String) : d.Hoists (d.declare name) [] [] [] := by
  unfold declare
  split
  · exact Hoists.refl d
  · exact ⟨rfl, rfl, by constructor <;> simp [beginFunction]⟩

/-- What a body writes to the functions from the left margin. -/
theorem hoists_inFunction {d : Draft} {body : Draft → Draft} {lines : List String}
    {nodes : List Node} {omitted : List Warning}
    (h : d.beginFunction.Grows (body d.beginFunction) lines nodes omitted) :
    d.Hoists (d.inFunction body) lines nodes omitted := by
  refine ⟨rfl, rfl, ?_⟩
  have hback : (d.inFunction body).beginFunction = body d.beginFunction := by
    have hbuffer : (body d.beginFunction).buffer = .functions := h.buffer_eq
    have hdepth : (body d.beginFunction).depth = 0 := h.depth_eq
    rw [inFunction, endFunction, beginFunction, ← hbuffer, ← hdepth]
  rw [hback]
  exact h

end Draft

/-! ## Functions that write -/

namespace Drawing

/-- A function that adds lines and nodes to every draft that is inside of the given nodes, with a
warning for each of the added nodes that is left out. -/
def Writes (D : Drawing) (active : List NodeId) (f : Draft → Draft)
    (lines : Nat → Nat → List String) (nodes : List Node) : Prop :=
  ∀ d : Draft, d.active = active →
    d.Grows (f d) (lines d.width d.depth) nodes (nodes.filterMap D.omission?)

namespace Writes

variable {D : Drawing} {active : List NodeId} {f g : Draft → Draft}
  {lines more : Nat → Nat → List String} {n : Node} {nodes others : List Node}

theorem nothing (active : List NodeId) : D.Writes active id (fun _ _ => []) [] :=
  fun d _ => Draft.Grows.refl d

theorem comp (hf : D.Writes active f lines nodes) (hg : D.Writes active g more others) :
    D.Writes active (fun d => g (f d)) (fun width depth => lines width depth ++ more width depth)
      (nodes ++ others) := by
  intro d hactive
  have hfirst := hf d hactive
  have hsecond := hg (f d) (hfirst.active_eq.trans hactive)
  rw [hfirst.width_eq, hfirst.depth_eq] at hsecond
  rw [List.filterMap_append]
  exact hfirst.trans hsecond

theorem congr (heq : ∀ d, f d = g d) (hg : D.Writes active g lines nodes) :
    D.Writes active f lines nodes := by
  intro d hactive
  rw [heq]
  exact hg d hactive

/-- What writes nothing may come first. -/
theorem after_silent (hsilent : ∀ d : Draft, d.Grows (g d) [] [] [])
    (hf : D.Writes active f lines nodes) : D.Writes active (fun d => f (g d)) lines nodes := by
  have hfirst : D.Writes active g (fun _ _ => []) [] := fun d _ => hsilent d
  exact hfirst.comp hf

/-- Asking a node that is not left out. -/
theorem after_ask (hkept : D.omission? n = none) (hf : D.Writes active f lines nodes) :
    D.Writes active (fun d => f (d.ask n.id)) lines (n :: nodes) := by
  have hfirst : D.Writes active (fun d => d.ask n.id) (fun _ _ => []) [n] := by
    intro d _
    rw [List.filterMap_cons_none hkept]
    exact d.grows_ask n
  exact hfirst.comp hf

/-- Asking a node that is left out, with the warning. -/
theorem after_omission {w : Warning} (hw : D.omission? n = some w)
    (hf : D.Writes active f lines nodes) :
    D.Writes active (fun d => f ((d.ask n.id).warn w)) lines (n :: nodes) := by
  have hfirst : D.Writes active (fun d => (d.ask n.id).warn w) (fun _ _ => []) [n] := by
    intro d _
    have hgrows := (d.grows_ask n).trans ((d.ask n.id).grows_warn w)
    obtain ⟨construct, rfl⟩ := exists_of_omission? hw
    rw [List.filterMap_cons_some hw]
    exact hgrows
  exact hfirst.comp hf

theorem after_line {text : String} (htext : text.isEmpty = false)
    (hf : D.Writes active f lines nodes) :
    D.Writes active (fun d => f (d.line text))
      (fun width depth => pad width depth text :: lines width depth) nodes := by
  have hfirst : D.Writes active (fun d => d.line text)
      (fun width depth => [pad width depth text]) [] :=
    fun d _ => d.grows_line htext
  exact hfirst.comp hf

theorem after_line? (text : Option String) (hf : D.Writes active f lines nodes) :
    D.Writes active (fun d => f (d.line? text))
      (fun width depth => lineOf width depth text ++ lines width depth) nodes := by
  have hfirst : D.Writes active (fun d => d.line? text)
      (fun width depth => lineOf width depth text) [] :=
    fun d _ => d.grows_line? text
  exact hfirst.comp hf

theorem after_block {body : Draft → Draft} (hbody : D.Writes active body lines nodes)
    (hf : D.Writes active f more others) :
    D.Writes active (fun d => f (d.block body))
      (fun width depth => bodyLines width (depth + 1) (lines width (depth + 1)) ++ more width depth)
      (nodes ++ others) := by
  have hfirst : D.Writes active (fun d => d.block body)
      (fun width depth => bodyLines width (depth + 1) (lines width (depth + 1))) nodes :=
    fun d hactive => Draft.grows_block (hbody d.indent hactive)
  exact hfirst.comp hf

end Writes

end Drawing

end ScriptGraph
