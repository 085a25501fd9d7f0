import Mathlib.Data.List.TakeWhile
import ScriptGraph.Settings.Basic

/-!
# Changed settings and their first line

A change replaces exactly the fields that it gives (`Settings.ChangedBy`).  The first line that
settings ask for is the core of their shebang, which has blanks around it and none at its ends, or
the usual line if nothing is left of the shebang (`FirstLine`).
-/

namespace ScriptGraph

/-! ## Changes -/

namespace Settings

/-- Settings in which exactly what a change gives is replaced. -/
structure ChangedBy (previous : Settings) (change : Change) (s : Settings) : Prop where
  formatVersion_eq : s.formatVersion = previous.formatVersion
  shebang_kept : change.shebang = none → s.shebang = previous.shebang
  shebang_cleared : ∀ line, change.shebang = some line → Text.allBlank line = true →
    s.shebang = none
  shebang_replaced : ∀ line, change.shebang = some line → Text.allBlank line = false →
    s.shebang = some line
  indentWidth_eq : s.indentWidth = change.indentWidth.getD previous.indentWidth
  debug_eq : s.debug = change.debug.getD previous.debug

theorem changedBy_update (s : Settings) (change : Change) : ChangedBy s change (s.update change) := by
  constructor
  · rfl
  · intro hnone
    simp [update, hnone]
  · intro line hline hblank
    simp [update, hline, hblank]
  · intro line hline hblank
    simp [update, hline, hblank]
  · rfl
  · rfl

theorem update_of_isEmpty (s : Settings) {change : Change} (h : change.isEmpty = true) :
    s.update change = s := by
  simp only [Change.isEmpty, Bool.and_eq_true, Option.isNone_iff_eq_none] at h
  obtain ⟨⟨hshebang, hwidth⟩, hdebug⟩ := h
  simp [update, hshebang, hwidth, hdebug]

end Settings

/-! ## First lines -/

namespace Text

/-- The part of a text that has no blank at its ends and has only blanks around it. -/
structure IsCore (s core : String) : Prop where
  exists_blanks : ∃ front back, s.toList = front ++ (core.toList ++ back) ∧
    (∀ c ∈ front, isBlank c = true) ∧ ∀ c ∈ back, isBlank c = true
  head_visible : ∀ c, core.toList.head? = some c → isBlank c = false
  last_visible : ∀ c, core.toList.getLast? = some c → isBlank c = false

theorem isBlank_eq_false_of_head?_dropWhile {cs : List Char} {c : Char}
    (h : (cs.dropWhile isBlank).head? = some c) : isBlank c = false := by
  have hfirst := List.head?_dropWhile_not isBlank cs
  rwa [h] at hfirst

theorem isCore_trim (s : String) : IsCore s (trim s) := by
  have hfront := List.takeWhile_append_dropWhile (p := isBlank) (l := s.toList)
  generalize hrest : s.toList.dropWhile isBlank = rest at hfront
  have hsplit : rest = (rest.reverse.dropWhile isBlank).reverse ++
      (rest.reverse.takeWhile isBlank).reverse :=
    calc rest = (rest.reverse.takeWhile isBlank ++ rest.reverse.dropWhile isBlank).reverse := by
          rw [List.takeWhile_append_dropWhile, List.reverse_reverse]
      _ = _ := List.reverse_append
  have htrim : (trim s).toList = (rest.reverse.dropWhile isBlank).reverse := by
    rw [trim, String.toList_ofList, hrest]
  constructor
  · refine ⟨s.toList.takeWhile isBlank, (rest.reverse.takeWhile isBlank).reverse, ?_, ?_, ?_⟩
    · rw [htrim, ← hsplit, hfront]
    · intro c hc
      exact List.mem_takeWhile_imp hc
    · intro c hc
      exact List.mem_takeWhile_imp (List.mem_reverse.mp hc)
  · intro c hc
    -- the first character of the core is the first behind the blanks in front
    have hhead : (s.toList.dropWhile isBlank).head? = some c := by
      rw [hrest, hsplit, List.head?_append, ← htrim, hc]
      rfl
    exact isBlank_eq_false_of_head?_dropWhile hhead
  · intro c hc
    rw [htrim, List.getLast?_reverse] at hc
    exact isBlank_eq_false_of_head?_dropWhile hc

/-- Nothing is left of a blank text, and only of that. -/
theorem IsCore.eq_empty_iff {s core : String} (h : IsCore s core) :
    core = "" ↔ allBlank s = true := by
  obtain ⟨front, back, hsplit, hfront, hback⟩ := h.exists_blanks
  constructor
  · intro hempty
    simp only [hempty, String.toList_empty, List.nil_append] at hsplit
    rw [allBlank, List.all_eq_true, hsplit]
    intro c hc
    exact (List.mem_append.mp hc).elim (hfront c) (hback c)
  · intro hblank
    rw [allBlank, List.all_eq_true, hsplit] at hblank
    by_contra hne
    obtain ⟨c, cs, hcore⟩ := List.exists_cons_of_ne_nil (mt String.toList_eq_nil_iff.mp hne)
    have hvisible : isBlank c = false := h.head_visible c (by rw [hcore, List.head?_cons])
    rw [hblank c (by simp [hcore])] at hvisible
    cases hvisible

end Text

/-- The first line that a shebang asks for: the usual one if it is absent or blank, and otherwise
the shebang without the blanks at its ends. -/
structure FirstLine (shebang : Option String) (line : String) : Prop where
  of_blank : shebang.all Text.allBlank = true → line = "#!/bin/bash"
  of_visible : ∀ s, shebang = some s → Text.allBlank s = false → Text.IsCore s line

theorem Style.firstLine_shebangLine (style : Style) :
    FirstLine style.shebang style.shebangLine := by
  cases hshebang : style.shebang with
  | none =>
      refine ⟨fun _ => ?_, fun s hs => by cases hs⟩
      rw [shebangLine, hshebang]
      rfl
  | some s =>
      have hempty := (Text.isCore_trim s).eq_empty_iff
      constructor
      · intro hblank
        have htrim : Text.trim s = "" := hempty.mpr hblank
        rw [shebangLine, hshebang, Option.map_some, htrim]
        rfl
      · intro _ hs hvisible
        cases hs
        have htrim : Text.trim s ≠ "" := by
          rw [ne_eq, hempty, hvisible]
          exact Bool.false_ne_true
        have hline : style.shebangLine = Text.trim s := by
          simp [shebangLine, hshebang, Option.filter, htrim]
        rw [hline]
        exact Text.isCore_trim s

theorem Settings.firstLine_style (s : Settings) : FirstLine s.shebang s.style.shebangLine :=
  s.style.firstLine_shebangLine

end ScriptGraph
