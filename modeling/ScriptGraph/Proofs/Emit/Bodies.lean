import ScriptGraph.Proofs.Emit.Calls
import ScriptGraph.Proofs.Emit.Places

/-!
# Bodies that show something

A body in which nothing was written gets a colon, since a body must not be empty.  What counts there
is whether a line was written, not whether anything can be seen in it.  Every statement but one
writes lines with something to see or none at all: a command of blanks is none, but a call to a
function whose name is made of blanks is written as it is.  So a body shows nothing exactly if it
consists of such calls and of statements that write nothing, and there is such a call in it
(`body_blank_iff`).
-/

namespace ScriptGraph

/-! ## Blank lines -/

namespace Text

theorem allBlank_append (s t : String) : allBlank (s ++ t) = (allBlank s && allBlank t) := by
  rw [allBlank, String.toList_append, List.all_append]
  rfl

theorem allBlank_append_left {s : String} (h : allBlank s = false) (t : String) :
    allBlank (s ++ t) = false := by
  rw [allBlank_append, h, Bool.false_and]

theorem isEmpty_of_allBlank {s : String} (h : allBlank s = false) : s.isEmpty = false := by
  cases hempty : s.isEmpty with
  | false => rfl
  | true =>
      rw [String.isEmpty_iff.mp hempty] at h
      cases h

/-- The spaces in front of a line are blank. -/
theorem allBlank_pad (width depth : Nat) (text : String) :
    allBlank (pad width depth text) = allBlank text := by
  have hspaces : allBlank (String.ofList (List.replicate (width * depth) ' ')) = true := by
    rw [allBlank, String.toList_ofList, List.all_replicate]
    split <;> rfl
  rw [pad, allBlank_append, hspaces, Bool.true_and]

end Text

namespace Drawing

variable {D : Drawing} {n : Node} {behaviour : Behaviour}

/-! ## What a statement shows -/

/-- Whether a node calls a function with a name made of blanks. -/
def isBlankCall (D : Drawing) (n : Node) : Bool :=
  D.behaviour? n == some .call && !n.callee.isEmpty && Text.allBlank n.callee

/-- Whether a node writes nothing: a call without a name, a command of blanks, a branch or a loop
without a condition, or no statement at all. -/
def isSilent (D : Drawing) (n : Node) : Bool :=
  match D.behaviour? n with
  | some .call => n.callee.isEmpty
  | some .runCommand => Text.allBlank (D.commandLine D.value? n)
  | some .branch | some .repeatWhile => (D.guard? n).isNone
  | some .forEach | some .giveBack | some .echo | some .exit | some .setVariable | some .sleep
  | some .download | some .gitClone | some .openWebsite => false
  | _ => true

/-- A node that writes something to see. -/
def Shows (D : Drawing) (n : Node) : Prop :=
  D.isSilent n = false ∧ D.isBlankCall n = false

/-- Apart from a call, what a plain statement writes can be seen. -/
theorem allBlank_plainLine {text : String} (hline : D.plainLine n behaviour = some text)
    (hcall : behaviour ≠ .call) : Text.allBlank text = false := by
  cases behaviour with
  | call => exact absurd rfl hcall
  | runCommand =>
      have hcommand : (if Text.allBlank (D.commandLine D.value? n) then none
        else some (D.commandLine D.value? n)) = some text := hline
      obtain ⟨hblank, heq⟩ := Option.ite_none_left_eq_some.mp hcommand
      rw [← Option.some.inj heq]
      exact Bool.eq_false_iff.mpr hblank
  | setVariable =>
      obtain rfl := Option.some.inj hline
      have hsign : Text.allBlank (assignedName n ++ "=") = false := by
        rw [Text.allBlank_append, Bool.and_eq_false_iff]
        exact Or.inr (by decide)
      exact Text.allBlank_append_left hsign _
  | gitClone =>
      obtain rfl := Option.some.inj hline
      have hclone : ∀ url : String, Text.allBlank ("git clone " ++ url) = false :=
        Text.allBlank_append_left (by decide)
      unfold gitCloneLine
      dsimp only
      split
      · exact hclone _
      · exact Text.allBlank_append_left (Text.allBlank_append_left (hclone _) _) _
  | download =>
      obtain rfl := Option.some.inj hline
      exact Text.allBlank_append_left (Text.allBlank_append_left
        (Text.allBlank_append_left (by decide) _) _) _
  | giveBack | echo | exit | sleep | openWebsite =>
      obtain rfl := Option.some.inj hline
      exact Text.allBlank_append_left (by decide) _
  | _ => cases hline

/-- A plain statement is silent if it has no line. -/
theorem isSilent_eq_isNone (hbehaviour : D.behaviour? n = some behaviour)
    (hplain : behaviour.isPlain = true) :
    D.isSilent n = (D.plainLine n behaviour).isNone := by
  have hunless : ∀ (blank : Bool) (text : String),
      blank = (if blank then none else some text).isNone := by
    intro blank text
    cases blank <;> rfl
  rw [isSilent, hbehaviour]
  cases behaviour with
  | call | runCommand => exact hunless _ _
  | branch | forEach | repeatWhile | define | custom => cases hplain
  | _ => rfl

/-- The lines of a plain statement: none if it is silent, else one, and this one is blank only for a
call to a name of blanks. -/
theorem plainLine_cases (hbehaviour : D.behaviour? n = some behaviour)
    (hplain : behaviour.isPlain = true) :
    (D.plainLine n behaviour = none ∧ D.isSilent n = true ∧ D.isBlankCall n = false) ∨
      ∃ text, D.plainLine n behaviour = some text ∧ text.isEmpty = false ∧
        D.isSilent n = false ∧ D.isBlankCall n = Text.allBlank text := by
  have hsilent := isSilent_eq_isNone hbehaviour hplain
  by_cases hcall : behaviour = .call
  · subst hcall
    have hblank : D.isBlankCall n = (!n.callee.isEmpty && Text.allBlank n.callee) := by
      rw [isBlankCall, hbehaviour]
      simp
    have hline : D.plainLine n .call = if n.callee.isEmpty then none else some n.callee := rfl
    rw [hsilent, hblank, hline]
    cases hempty : n.callee.isEmpty with
    | true => exact Or.inl ⟨rfl, rfl, rfl⟩
    | false => exact Or.inr ⟨n.callee, rfl, hempty, rfl, rfl⟩
  · have hblank : D.isBlankCall n = false := by
      rw [isBlankCall, hbehaviour]
      simp [hcall]
    rw [hsilent, hblank]
    cases hline : D.plainLine n behaviour with
    | none => exact Or.inl ⟨rfl, rfl, rfl⟩
    | some text =>
        have hvisible := allBlank_plainLine hline hcall
        exact Or.inr ⟨text, rfl, Text.isEmpty_of_allBlank hvisible, rfl, hvisible.symm⟩

/-- A call to a name of blanks is written. -/
theorem isSilent_of_isBlankCall (hblank : D.isBlankCall n = true) : D.isSilent n = false := by
  have hbehaviour : D.behaviour? n = some .call := by
    simp only [isBlankCall, Bool.and_eq_true, beq_iff_eq] at hblank
    exact hblank.1.1
  rcases plainLine_cases hbehaviour rfl with ⟨-, -, hnot⟩ | ⟨text, -, -, hsilent, -⟩
  · rw [hnot] at hblank
    cases hblank
  · exact hsilent

/-- A control structure shows something if it has its condition. -/
theorem shows_of_guard {condition : String} (hbehaviour : D.behaviour? n = some behaviour)
    (hcases : behaviour ∈ [.branch, .repeatWhile]) (hguard : D.guard? n = some condition) :
    D.Shows n := by
  simp only [List.mem_cons, List.not_mem_nil, or_false] at hcases
  constructor
  · rw [isSilent, hbehaviour, hguard]
    rcases hcases with rfl | rfl <;> rfl
  · rw [isBlankCall, hbehaviour]
    rcases hcases with rfl | rfl <;> rfl

theorem shows_of_forEach (hbehaviour : D.behaviour? n = some .forEach) : D.Shows n := by
  constructor
  · rw [isSilent, hbehaviour]
  · rw [isBlankCall, hbehaviour]
    rfl

theorem isSilent_of_skipped (hbehaviour : D.behaviour? n = some behaviour)
    (hcases : behaviour ∈ [.branch, .repeatWhile]) (hguard : D.guard? n = none) :
    D.isSilent n = true := by
  simp only [List.mem_cons, List.not_mem_nil, or_false] at hcases
  rw [isSilent, hbehaviour, hguard]
  rcases hcases with rfl | rfl <;> rfl

/-! ## What a tree shows -/

/-- Which lines come from which nodes, as far as one can see: there are none if the nodes are
silent, and all of them are blank if the nodes that are not silent call names of blanks. -/
structure Seen (D : Drawing) (nodes : List Node) (lines : List String) : Prop where
  eq_nil_iff : lines = [] ↔ ∀ n ∈ nodes, D.isSilent n = true
  blank_iff : (∀ line ∈ lines, Text.allBlank line = true) ↔
    ∀ n ∈ nodes, D.isSilent n = true ∨ D.isBlankCall n = true

namespace Seen

variable {nodes : List Node} {lines : List String}

theorem nil : D.Seen [] [] :=
  ⟨by simp, by simp⟩

/-- One statement, and what comes after it. -/
theorem append {first : List String} (hfirst : D.Seen [n] first) (h : D.Seen nodes lines) :
    D.Seen (n :: nodes) (first ++ lines) where
  eq_nil_iff := by
    have heq := hfirst.eq_nil_iff
    rw [List.forall_mem_singleton] at heq
    rw [List.append_eq_nil_iff, heq, h.eq_nil_iff, List.forall_mem_cons]
  blank_iff := by
    have heq := hfirst.blank_iff
    rw [List.forall_mem_singleton] at heq
    rw [List.forall_mem_append, heq, h.blank_iff, List.forall_mem_cons]

theorem of_isSilent (hsilent : D.isSilent n = true) : D.Seen [n] [] :=
  ⟨by simp [hsilent], by simp [hsilent]⟩

/-- What is to be seen is written by a node, whatever else is there. -/
theorem of_shows (hshows : D.Shows n) {line : String} (hline : Text.allBlank line = false) :
    D.Seen (n :: nodes) (line :: lines) where
  eq_nil_iff := by simp [hshows.1]
  blank_iff := by simp [hshows.1, hshows.2, hline]

end Seen

variable {target : Option Node} {S : Statements}

theorem seen_lineOf (hbehaviour : D.behaviour? n = some behaviour)
    (hplain : behaviour.isPlain = true) (width depth : Nat) :
    D.Seen [n] (lineOf width depth (D.plainLine n behaviour)) := by
  rcases plainLine_cases hbehaviour hplain with
    ⟨hline, hsilent, -⟩ | ⟨text, hline, hempty, hsilent, hblank⟩
  · rw [hline]
    exact .of_isSilent hsilent
  · rw [hline, lineOf, hempty, if_neg Bool.false_ne_true]
    exact ⟨by simp [hsilent], by simp [hsilent, hblank, Text.allBlank_pad]⟩

/-- A control structure with a condition begins with a line that shows it. -/
theorem seen_of_guard {condition opening closing : String} {nodes : List Node}
    {lines : List String} (hbehaviour : D.behaviour? n = some behaviour)
    (hcases : behaviour ∈ [.branch, .repeatWhile]) (hguard : D.guard? n = some condition)
    (hopening : Text.allBlank opening = false) (width depth : Nat) :
    D.Seen (n :: nodes) (pad width depth (opening ++ condition ++ closing) :: lines) := by
  refine .of_shows (shows_of_guard hbehaviour hcases hguard) ?_
  rw [Text.allBlank_pad]
  exact Text.allBlank_append_left (Text.allBlank_append_left hopening _) _

/-- The lines of a tree show what its nodes show. -/
theorem Chain.seen (hchain : D.Chain target S) (width depth : Nat) :
    D.Seen S.nodes (S.render width depth) := by
  -- a control structure shows its first line, so nothing need be known of what it holds
  induction hchain with
  | stop => exact .nil
  | plain hbehaviour hplain _ ih => exact (seen_lineOf hbehaviour hplain width depth).append ih
  | skip hbehaviour hcases hguard _ ih =>
      exact (Seen.of_isSilent (isSilent_of_skipped hbehaviour hcases hguard)).append ih
  | branch hbehaviour hguard => exact seen_of_guard hbehaviour (by simp) hguard (by decide) _ _
  | branchElse hbehaviour hguard => exact seen_of_guard hbehaviour (by simp) hguard (by decide) _ _
  | repeatWhile hbehaviour hguard => exact seen_of_guard hbehaviour (by simp) hguard (by decide) _ _
  | forEach hbehaviour =>
      refine .of_shows (shows_of_forEach hbehaviour) ?_
      rw [Text.allBlank_pad]
      simp only [String.append_assoc]
      exact Text.allBlank_append_left (by decide) _

/-! ## Bodies -/

/-- A body without lines is a colon, so it shows something. -/
theorem bodyLines_blank_iff (width depth : Nat) (lines : List String) :
    (∀ line ∈ bodyLines width depth lines, Text.allBlank line = true) ↔
      lines ≠ [] ∧ ∀ line ∈ lines, Text.allBlank line = true := by
  unfold bodyLines
  split
  · rename_i hempty
    have hcolon : Text.allBlank ":" = false := by decide
    simp [hempty, Text.allBlank_pad, hcolon]
  · rename_i hne
    exact (and_iff_right hne).symm

/-- A body of the script shows nothing exactly if there is a call to a name of blanks in it, and
nothing else in it writes anything. -/
theorem body_blank_iff {g : Graph} (h : g.Reachable Palette.standard.Has) (config : Config)
    {block : Block} {depth : Nat} (hopens : Opens ⟨g, .standard⟩ block depth) :
    let D : Drawing := ⟨g, .standard⟩
    block.lines config.indentWidth.toNat depth <:+: scriptLines config (D.draft config) ∧
      ((∀ line ∈ block.bodyLines config.indentWidth.toNat depth, Text.allBlank line = true) ↔
        (∃ n ∈ block.body.nodes, D.isBlankCall n = true) ∧
          ∀ n ∈ block.body.nodes, D.isSilent n = true ∨ D.isBlankCall n = true) := by
  intro D
  refine ⟨(regular_of_reachable h).isInfix_lines hopens config, ?_⟩
  obtain ⟨target, hchain⟩ := hopens.exists_chain
  have hseen := hchain.seen config.indentWidth.toNat (depth + 1)
  rw [Block.bodyLines, bodyLines_blank_iff, hseen.blank_iff, ne_eq, hseen.eq_nil_iff]
  refine and_congr_left fun hall => ?_
  constructor
  · intro hnot
    push Not at hnot
    obtain ⟨n, hn, hsilent⟩ := hnot
    exact ⟨n, hn, (hall n hn).resolve_left hsilent⟩
  · rintro ⟨n, hn, hblank⟩ hsilent
    exact Bool.false_ne_true ((isSilent_of_isBlankCall hblank).symm.trans (hsilent n hn))

end Drawing

/-- Two functions, one that calls a name of blanks and one that runs a command of blanks. -/
def Graph.hushed : Graph :=
  ((sketch [.function, .call, .function, .runCommand] [wire 0 1 3, wire 1 6 8]).updateNode
    ⟨⟨2⟩⟩ fun n => n.edit "Call" ⟨0, 0⟩ (.ofList [("function", .text " ")])).updateNode
    ⟨⟨7⟩⟩ fun n => n.edit "Run Command" ⟨0, 0⟩ (.ofList [("command", .text " ")])

theorem Graph.hushed_reachable : Graph.hushed.Reachable Palette.standard.Has := by
  refine .edit (.edit (Graph.sketch_reachable (fun kind hkind => ?_) _) ..) ..
  refine Palette.standard_has_iff.mpr ?_
  revert kind
  simp [NodeKind.builtin, NodeKind.flow, NodeKind.commands]

theorem Drawing.body_blank_iff_hushed :
    let D : Drawing := ⟨.hushed, .standard⟩
    Graph.hushed.Reachable Palette.standard.Has ∧
    scriptLines {} (D.draft {}) = ["#!/bin/bash", "", Script.banner, "",
      "my_function() \x7b", "     ", "\x7d", "", "my_function() \x7b", "    :", "\x7d", ""] ∧
    (∃ block, D.Opens block 0 ∧ (∃ n ∈ block.body.nodes, D.isBlankCall n = true) ∧
      ∀ line ∈ block.bodyLines 4 0, Text.allBlank line = true) ∧
    ∃ block, D.Opens block 0 ∧ (∀ n ∈ block.body.nodes, D.isSilent n = true) ∧
      ¬ ∀ line ∈ block.bodyLines 4 0, Text.allBlank line = true := by
  intro D
  refine ⟨Graph.hushed_reachable, by decide, ?_, ?_⟩
  · obtain ⟨f, hf, c, hc, hcall, hblank, hstop⟩ : ∃ f ∈ D.hoisted, ∃ c ∈ D.next? f "Exec",
        D.behaviour? c = some .call ∧ D.isBlankCall c = true ∧ D.successor? c = none := by
      decide
    have hchain : D.Chain (D.next? f "Exec") (.plain c (D.plainLine c .call) .done) := by
      rw [hc]
      exact .plain hcall rfl (hstop ▸ .stop)
    have hopens := Opens.function hf hchain
    refine ⟨_, hopens, ⟨c, List.mem_cons_self, hblank⟩, ?_⟩
    refine (body_blank_iff Graph.hushed_reachable {} hopens).2.mpr
      ⟨⟨c, List.mem_cons_self, hblank⟩, fun n hn => ?_⟩
    obtain rfl := List.mem_singleton.mp hn
    exact Or.inr hblank
  · obtain ⟨f, hf, c, hc, hcommand, hsilent, hcall, hstop⟩ : ∃ f ∈ D.hoisted,
        ∃ c ∈ D.next? f "Exec", D.behaviour? c = some .runCommand ∧ D.isSilent c = true ∧
          D.isBlankCall c = false ∧ D.successor? c = none := by
      decide
    have hchain : D.Chain (D.next? f "Exec") (.plain c (D.plainLine c .runCommand) .done) := by
      rw [hc]
      exact .plain hcommand rfl (hstop ▸ .stop)
    have hopens := Opens.function hf hchain
    refine ⟨_, hopens, fun n hn => ?_, fun hall => ?_⟩
    · obtain rfl := List.mem_singleton.mp hn
      exact hsilent
    · obtain ⟨⟨n, hn, hblank⟩, -⟩ :=
        (body_blank_iff Graph.hushed_reachable {} hopens).2.mp hall
      obtain rfl := List.mem_singleton.mp hn
      rw [hcall] at hblank
      cases hblank

/-- The body of a function can be a single line of blanks. -/
theorem Drawing.exists_blank_body :
    let D : Drawing := ⟨.hushed, .standard⟩
    Graph.hushed.Reachable Palette.standard.Has ∧
    ∃ block, D.Opens block 0 ∧ block.lines 4 0 = ["my_function() \x7b", "     ", "\x7d"] ∧
      ¬ ∃ line ∈ block.bodyLines 4 0, Text.allBlank line = false := by
  intro D
  obtain ⟨f, hf, c, hc, hname, hcall, hline, hstop⟩ : ∃ f ∈ D.hoisted, ∃ c ∈ D.next? f "Exec",
      f.functionName = "my_function" ∧ D.behaviour? c = some .call ∧
        D.plainLine c .call = some " " ∧ D.successor? c = none := by
    decide
  have hchain : D.Chain (D.next? f "Exec") (.plain c (some " ") .done) := by
    rw [hc, ← hline]
    exact .plain hcall rfl (hstop ▸ .stop)
  have hbody : (f.definition (.plain c (some " ") .done)).bodyLines 4 0 = ["     "] := by
    rfl
  refine ⟨Graph.hushed_reachable, _, .function hf hchain, ?_, ?_⟩
  · rw [Block.lines, hbody, Node.definition, hname]
    rfl
  · rw [hbody]
    decide

end ScriptGraph
