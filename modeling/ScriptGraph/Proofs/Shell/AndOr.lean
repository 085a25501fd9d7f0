import ScriptGraph.Behaviour

/-!
# And-or lists

The condition of an `if` or a `while` is an and-or list.  `&&` and `||` bind equally and to the
left, a `!` binds to the one command behind it, and braces make a command of a list.  A test is a
word like any other here, whatever characters it is made of.

`Reads` is the grammar, with the condition that each phrase means.  A list means one condition at
most (`Reads.unique`), because a reader that goes through the words once, with the lists that it is
inside of on a stack, can only arrive at what the grammar says (`Reads.run`).

`Written` spells words out, with blanks between them.  Which words a text consists of is settled by
the tests among them (`Written.unique`), as long as no test begins like another word.
-/

namespace ScriptGraph.Shell

variable {α : Type}

/-! ## Conditions -/

/-- A condition put together from tests. -/
inductive Condition (α : Type) where
  | test (a : α)
  | join (op : LogicOp) (left right : Condition α)
  | negation (operand : Condition α)

namespace Condition

/-- Whether a condition holds, given which tests do. -/
def holds (truth : α → Bool) : Condition α → Bool
  | .test a => truth a
  | .join .and left right => left.holds truth && right.holds truth
  | .join .or left right => left.holds truth || right.holds truth
  | .negation operand => !operand.holds truth

/-- The tests from left to right. -/
def tests : Condition α → List α
  | .test a => [a]
  | .join _ left right => left.tests ++ right.tests
  | .negation operand => operand.tests

end Condition

/-! ## The grammar -/

/-- The words of an and-or list that are no tests. -/
inductive Mark where
  | connective (op : LogicOp)
  | bang
  | opening
  | semicolon
  | closing
  deriving DecidableEq

/-- The words of an and-or list. -/
inductive Word (α : Type) where
  | test (a : α)
  | mark (m : Mark)

/-- The test that a word is, if it is one. -/
def Word.test? : Word α → Option α
  | .test a => some a
  | .mark _ => none

/-- The phrases of the grammar. -/
inductive Rank where
  /-- a test or a group -/
  | command
  /-- a command, perhaps behind a `!` -/
  | pipeline
  /-- pipelines with connectives between them -/
  | list

/-- What words mean as a phrase. -/
inductive Reads : Rank → List (Word α) → Condition α → Prop
  | test (a : α) : Reads .command [.test a] (.test a)
  | group {ws : List (Word α)} {c : Condition α} : Reads .list ws c →
      Reads .command (.mark .opening :: (ws ++ [.mark .semicolon, .mark .closing])) c
  | plain {ws : List (Word α)} {c : Condition α} : Reads .command ws c → Reads .pipeline ws c
  | negated {ws : List (Word α)} {c : Condition α} : Reads .command ws c →
      Reads .pipeline (.mark .bang :: ws) (.negation c)
  | single {ws : List (Word α)} {c : Condition α} : Reads .pipeline ws c → Reads .list ws c
  | joined {ws ws' : List (Word α)} {c c' : Condition α} (op : LogicOp) : Reads .list ws c →
      Reads .pipeline ws' c' → Reads .list (ws ++ .mark (.connective op) :: ws') (.join op c c')

theorem Reads.tests_eq {rank : Rank} {ws : List (Word α)} {c : Condition α} (h : Reads rank ws c) :
    ws.filterMap Word.test? = c.tests := by
  induction h with
  | test a => rfl
  | group _ ih => simpa [List.filterMap_cons, Word.test?] using ih
  | plain _ ih => exact ih
  | negated _ ih => simpa [List.filterMap_cons, Word.test?, Condition.tests] using ih
  | single _ ih => exact ih
  | joined op _ _ ih ih' => simp [List.filterMap_cons, Word.test?, Condition.tests, ih, ih']

/-! ## Reading from left to right -/

/-- What stands in front of an operand that is still to come, within its list. -/
structure Frame (α : Type) where
  left : Option (Condition α × LogicOp) := none
  negated : Bool := false

/-- The list up to and with an operand. -/
def Frame.close (frame : Frame α) (operand : Condition α) : Condition α :=
  let operand := if frame.negated then .negation operand else operand
  match frame.left with
  | none => operand
  | some (left, op) => .join op left operand

/-- What may stand in front of a phrase. -/
def Frame.Admits (frame : Frame α) : Rank → Prop
  | .command => True
  | .pipeline => frame.negated = false
  | .list => frame = {}

/-- A place in a list, with the frames of the lists around it. -/
inductive Reader (α : Type) where
  /-- an operand has to come -/
  | due (frame : Frame α) (outer : List (Frame α))
  /-- the list may end here -/
  | read (c : Condition α) (outer : List (Frame α))
  /-- the list has ended, and so has to do the group -/
  | ended (c : Condition α) (outer : List (Frame α))

/-- Go on by a word. -/
def Reader.step : Reader α → Word α → Option (Reader α)
  | .due frame outer, .test a => some (.read (frame.close (.test a)) outer)
  | .due frame outer, .mark .bang =>
    if frame.negated then none else some (.due { frame with negated := true } outer)
  | .due frame outer, .mark .opening => some (.due {} (frame :: outer))
  | .read c outer, .mark (.connective op) => some (.due { left := some (c, op) } outer)
  | .read c outer, .mark .semicolon => some (.ended c outer)
  | .ended c (frame :: outer), .mark .closing => some (.read (frame.close c) outer)
  | _, _ => none

/-- Where the grammar sees a phrase, the reader comes to the condition that the phrase means. -/
theorem Reads.run {rank : Rank} {ws : List (Word α)} {c : Condition α} (h : Reads rank ws c)
    (frame : Frame α) (hframe : frame.Admits rank) (outer : List (Frame α)) :
    ws.foldlM Reader.step (.due frame outer) = some (.read (frame.close c) outer) := by
  induction h generalizing frame outer with
  | test a => rfl
  | group _ ih =>
      have hinside := ih {} rfl (frame :: outer)
      simp [List.foldlM_append, Reader.step, hinside, Frame.close]
  | plain _ ih => exact ih frame trivial outer
  | negated _ ih =>
      have hfree : frame.negated = false := hframe
      have hoperand := ih { frame with negated := true } trivial outer
      simp [Reader.step, hfree, hoperand, Frame.close]
  | single _ ih =>
      have hfresh : frame = {} := hframe
      exact ih frame (by rw [hfresh]; rfl) outer
  | @joined ws ws' c c' op _ _ ih ih' =>
      have hfresh : frame = {} := hframe
      have hleft := ih frame hfresh outer
      have hright := ih' { left := some (c, op) } rfl outer
      subst hfresh
      simp [List.foldlM_append, Reader.step, hleft, hright, Frame.close]

/-- A list means one condition at most. -/
theorem Reads.unique {ws : List (Word α)} {c c' : Condition α} (h : Reads .list ws c)
    (h' : Reads .list ws c') : c = c' := by
  have hrun := h.run {} rfl []
  rw [h'.run {} rfl []] at hrun
  injection hrun with hread
  injection hread with heq
  exact heq.symm

/-! ## Spelling -/

/-- The characters that end a word. -/
def isMeta (c : Char) : Bool :=
  c ∈ [' ', '\t', '\n', '|', '&', ';', '(', ')', '<', '>']

/-- The characters of a mark. -/
def Mark.chars : Mark → List Char
  | .connective .and => ['&', '&']
  | .connective .or => ['|', '|']
  | .bang => ['!']
  | .opening => ['\x7b']
  | .semicolon => [';']
  | .closing => ['\x7d']

/-- The characters of a word. -/
def Word.chars (spell : α → List Char) : Word α → List Char
  | .test a => spell a
  | .mark m => m.chars

/-- Whether a word is an operator, which ends by itself. -/
def Word.isOperator : Word α → Bool
  | .mark (.connective _) | .mark .semicolon => true
  | _ => false

/-- Whether a word ends in front of these characters. -/
def Word.EndsAt (w : Word α) (rest : List Char) : Prop :=
  w.isOperator = true ∨ ∀ c, rest.head? = some c → isMeta c = true

/-- Words spelled out, with blanks between them. -/
inductive Written (spell : α → List Char) : List (Word α) → List Char → Prop
  | nil : Written spell [] []
  | blank {ws : List (Word α)} {cs : List Char} : Written spell ws cs → Written spell ws (' ' :: cs)
  | word (w : Word α) {ws : List (Word α)} {cs : List Char} : w.EndsAt cs → Written spell ws cs →
      Written spell (w :: ws) (w.chars spell ++ cs)

namespace Written

variable {spell : α → List Char} {ws ws' : List (Word α)} {cs cs' : List Char}

/-- Words behind each other, if the second ones begin with a character that ends a word. -/
theorem append {c : Char} (h : Written spell ws cs) (hc : isMeta c = true)
    (h' : Written spell ws' (c :: cs')) : Written spell (ws ++ ws') (cs ++ c :: cs') := by
  induction h with
  | nil => exact h'
  | blank _ ih => exact .blank ih
  | @word w ws cs hends _ ih =>
      have hends' : w.EndsAt (cs ++ c :: cs') := by
        refine hends.imp_right fun hmeta d hd => ?_
        cases cs with
        | nil => exact Option.some.inj hd ▸ hc
        | cons e cs => exact hmeta d hd
      rw [List.cons_append, List.append_assoc]
      exact .word w hends' ih

/-- The ways to begin: nothing is left, a blank, or a word. -/
theorem inv (h : Written spell ws cs) :
    (ws = [] ∧ cs = []) ∨ (∃ rest, cs = ' ' :: rest ∧ Written spell ws rest) ∨
      ∃ w later rest, ws = w :: later ∧ cs = w.chars spell ++ rest ∧ Written spell later rest := by
  cases h with
  | nil => exact Or.inl ⟨rfl, rfl⟩
  | blank h => exact Or.inr (Or.inl ⟨_, rfl, h⟩)
  | word w _ h => exact Or.inr (Or.inr ⟨w, _, _, rfl, rfl, h⟩)

end Written

/-! ## Telling words apart -/

/-- A test that begins neither with a blank nor like a mark. -/
def Distinct (spell : α → List Char) (a : α) : Prop :=
  ∃ c rest, spell a = c :: rest ∧ c ≠ ' ' ∧ ∀ m : Mark, m.chars.head? ≠ some c

/-- The first character of a mark tells which one it is. -/
theorem Mark.eq_of_chars_append {m m' : Mark} {rest rest' : List Char}
    (heq : m.chars ++ rest = m'.chars ++ rest') : m = m' ∧ rest = rest' := by
  rcases m with (_ | _) | _ | _ | _ | _ <;> rcases m' with (_ | _) | _ | _ | _ | _ <;>
    simp_all [chars]

theorem Mark.exists_chars_eq_cons (m : Mark) : ∃ c rest, m.chars = c :: rest ∧ c ≠ ' ' := by
  rcases m with (_ | _) | _ | _ | _ | _ <;> simp [chars]

/-- Two words that a text begins with are the same, given that tests are. -/
theorem Word.eq_of_chars_append {spell : α → List Char} {w w' : Word α}
    (hw : ∀ a ∈ w.test?, Distinct spell a) (hw' : ∀ a ∈ w'.test?, Distinct spell a)
    (hsame : ∀ a ∈ w.test?, ∀ a' ∈ w'.test?, a = a') {rest rest' : List Char}
    (heq : w.chars spell ++ rest = w'.chars spell ++ rest') : w = w' ∧ rest = rest' := by
  have hapart : ∀ {a : α} {m : Mark} {rest rest' : List Char}, Distinct spell a →
      spell a ++ rest ≠ m.chars ++ rest' := by
    rintro a m rest rest' ⟨c, tail, hspell, -, hc⟩ heq
    obtain ⟨d, tail', hchars, -⟩ := m.exists_chars_eq_cons
    have hfirst := hc m
    rw [hspell, hchars] at heq
    rw [hchars] at hfirst
    exact hfirst (congrArg some (List.cons.inj heq).1.symm)
  cases w with
  | test a =>
      cases w' with
      | test a' =>
          obtain rfl := hsame a rfl a' rfl
          exact ⟨rfl, List.append_cancel_left heq⟩
      | mark m => exact absurd heq (hapart (hw a rfl))
  | mark m =>
      cases w' with
      | test a => exact absurd heq.symm (hapart (hw' a rfl))
      | mark m' =>
          obtain ⟨rfl, hrest⟩ := Mark.eq_of_chars_append heq
          exact ⟨rfl, hrest⟩

theorem Word.exists_chars_eq_cons {spell : α → List Char} {w : Word α}
    (hw : ∀ a ∈ w.test?, Distinct spell a) : ∃ c rest, w.chars spell = c :: rest ∧ c ≠ ' ' := by
  cases w with
  | test a =>
      obtain ⟨c, rest, hspell, hc, -⟩ := hw a rfl
      exact ⟨c, rest, hspell, hc⟩
  | mark m => exact m.exists_chars_eq_cons

theorem tests_cons (w : Word α) (ws : List (Word α)) :
    (w :: ws).filterMap Word.test? = w.test?.toList ++ ws.filterMap Word.test? := by
  cases w <;> rfl

/-- A text is made of the same words however it is read, once the tests among them are known and
begin like no other word. -/
theorem Written.unique {spell : α → List Char} {ws ws' : List (Word α)} {cs : List Char}
    (h : Written spell ws cs) (h' : Written spell ws' cs)
    (htests : ws.filterMap Word.test? = ws'.filterMap Word.test?)
    (hspell : ∀ a ∈ ws.filterMap Word.test?, Distinct spell a) : ws = ws' := by
  have hfirst : ∀ {w : Word α} {later : List (Word α)},
      (∀ a ∈ (w :: later).filterMap Word.test?, Distinct spell a) →
      ∀ a ∈ w.test?, Distinct spell a := by
    intro w later hall a ha
    refine hall a ?_
    rw [tests_cons, List.mem_append, Option.mem_toList]
    exact Or.inl ha
  induction h generalizing ws' with
  | nil =>
      rcases h'.inv with ⟨rfl, -⟩ | ⟨rest, heq, -⟩ | ⟨w, later, rest, rfl, heq, -⟩
      · rfl
      · cases heq
      · obtain ⟨c, tail, hchars, -⟩ := Word.exists_chars_eq_cons (hfirst (htests ▸ hspell))
        rw [hchars] at heq
        cases heq
  | @blank ws cs _ ih =>
      rcases h'.inv with ⟨-, heq⟩ | ⟨rest, heq, hrest⟩ | ⟨w, later, rest, rfl, heq, -⟩
      · cases heq
      · obtain ⟨-, rfl⟩ := List.cons.inj heq
        exact ih hrest htests hspell
      · obtain ⟨c, tail, hchars, hc⟩ := Word.exists_chars_eq_cons (hfirst (htests ▸ hspell))
        rw [hchars] at heq
        exact absurd (List.cons.inj heq).1.symm hc
  | @word w ws cs _ _ ih =>
      rcases h'.inv with ⟨-, heq⟩ | ⟨rest, heq, -⟩ | ⟨w', later, rest, rfl, heq, hrest⟩
      · obtain ⟨c, tail, hchars, -⟩ := Word.exists_chars_eq_cons (hfirst hspell)
        rw [hchars] at heq
        cases heq
      · obtain ⟨c, tail, hchars, hc⟩ := Word.exists_chars_eq_cons (hfirst hspell)
        rw [hchars] at heq
        exact absurd (List.cons.inj heq).1 hc
      · have hsame : ∀ a ∈ w.test?, ∀ a' ∈ w'.test?, a = a' := by
          intro a ha a' ha'
          rw [tests_cons, tests_cons, Option.mem_def.mp ha, Option.mem_def.mp ha'] at htests
          exact (List.cons.inj htests).1
        obtain ⟨rfl, rfl⟩ :=
          Word.eq_of_chars_append (hfirst hspell) (hfirst (htests ▸ hspell)) hsame heq
        rw [tests_cons, tests_cons] at htests
        rw [ih hrest (List.append_cancel_left htests) fun a ha => hspell a ?_]
        rw [tests_cons, List.mem_append]
        exact Or.inr ha

/-! ## Spelled phrases -/

/-- A text whose words mean a condition as a phrase. -/
def Spells (spell : α → List Char) (rank : Rank) (cs : List Char) (c : Condition α) : Prop :=
  ∃ ws, Written spell ws cs ∧ Reads rank ws c

namespace Spells

variable {spell : α → List Char} {cs cs' : List Char} {c c' : Condition α}

theorem test (a : α) : Spells spell .command (spell a) (.test a) := by
  refine ⟨[.test a], ?_, .test a⟩
  have hword : Written spell [.test a] ((Word.test a).chars spell ++ []) :=
    .word _ (Or.inr fun d hd => by cases hd) .nil
  rwa [List.append_nil] at hword

/-- A list between braces is a command. -/
theorem group (h : Spells spell .list cs c) :
    Spells spell .command ('\x7b' :: ' ' :: (cs ++ [';', ' ', '\x7d'])) c := by
  obtain ⟨ws, hws, hreads⟩ := h
  have hend : Written spell [.mark .closing] ((.mark .closing : Word α).chars spell ++ []) :=
    .word _ (Or.inr fun d hd => by cases hd) .nil
  have hstop : Written spell [.mark .semicolon, .mark .closing] [';', ' ', '\x7d'] :=
    .word (.mark .semicolon) (Or.inl rfl) (.blank hend)
  have hinside := Written.blank (hws.append (by decide) hstop)
  refine ⟨_, .word (.mark .opening) (Or.inr ?_) hinside, .group hreads⟩
  intro d hd
  obtain rfl := Option.some.inj hd
  decide

/-- A command behind a `!`. -/
theorem negation (h : Spells spell .command cs c) :
    Spells spell .list ('!' :: ' ' :: cs) (.negation c) := by
  obtain ⟨ws, hws, hreads⟩ := h
  refine ⟨_, .word (.mark .bang) (Or.inr ?_) (.blank hws), .single (.negated hreads)⟩
  intro d hd
  obtain rfl := Option.some.inj hd
  decide

theorem list (h : Spells spell .command cs c) : Spells spell .list cs c := by
  obtain ⟨ws, hws, hreads⟩ := h
  exact ⟨ws, hws, .single (.plain hreads)⟩

/-- Two commands with a connective between them. -/
theorem join (op : LogicOp) (h : Spells spell .command cs c) (h' : Spells spell .command cs' c') :
    Spells spell .list (cs ++ ' ' :: (op.symbol.toList ++ ' ' :: cs')) (.join op c c') := by
  obtain ⟨ws, hws, hreads⟩ := h
  obtain ⟨ws', hws', hreads'⟩ := h'
  have hsymbol : (Word.mark (.connective op)).chars spell = op.symbol.toList := by
    cases op <;> rfl
  have hright : Written spell (.mark (.connective op) :: ws') (op.symbol.toList ++ ' ' :: cs') :=
    hsymbol ▸ .word (.mark (.connective op)) (Or.inl rfl) (.blank hws')
  exact ⟨_, hws.append (by decide) (.blank hright),
    .joined op (.single (.plain hreads)) (.plain hreads')⟩

end Spells

end ScriptGraph.Shell
