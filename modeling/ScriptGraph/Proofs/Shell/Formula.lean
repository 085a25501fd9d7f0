import ScriptGraph.Behaviour
import ScriptGraph.Proofs.Json.Numeral

/-!
# Integer formulas

A formula is an integer, perhaps behind a minus sign, or an arithmetic expansion of two formulas
with an operator between them.  Blanks may stand around the operator.

`Denotes` is the grammar, with the formula that a text stands for.  A text stands for one formula at
most (`Denotes.unique`).  The proof reads two formulas off the same text in parallel, so it is about
texts with something behind them: an integer ends where the digits do, an expansion at its second
parenthesis, and therefore what is left over is the same as well (`Denotes.eq_of_append`).
-/

namespace ScriptGraph.Shell

open Json (IsDigits digitsValue)

/-- An integer, or an operator with two formulas. -/
inductive Formula where
  | literal (value : Int)
  | operation (op : ArithOp) (left right : Formula)
  deriving DecidableEq

/-- The characters that separate words. -/
def isBlank (c : Char) : Bool :=
  c ∈ [' ', '\t', '\n']

/-- Blanks, or nothing. -/
def Blank (cs : List Char) : Prop :=
  ∀ c ∈ cs, isBlank c = true

/-- The character between two operands. -/
def operatorChar : ArithOp → Char
  | .add => '+'
  | .sub => '-'
  | .mul => '*'
  | .div => '/'
  | .mod => '%'

/-- What a text stands for. -/
inductive Denotes : List Char → Formula → Prop
  | positive {digits : List Char} : IsDigits digits →
      Denotes digits (.literal (digitsValue digits))
  | negative {digits : List Char} : IsDigits digits →
      Denotes ('-' :: digits) (.literal (-digitsValue digits))
  | operation (op : ArithOp) {left right before after : List Char} {e e' : Formula} :
      Denotes left e → Denotes right e' → Blank before → Blank after →
      Denotes ('$' :: '(' :: '(' ::
        (left ++ (before ++ operatorChar op :: (after ++ (right ++ [')', ')'])))))
        (.operation op e e')

/-! ## Where a part ends -/

/-- A text whose first character, if there is one, is not of a class. -/
def StopsAt (p : Char → Bool) (rest : List Char) : Prop :=
  ∀ c, rest.head? = some c → p c = false

/-- Characters of a class end where a character that is not of it comes. -/
theorem eq_of_append_of_stopsAt {p : Char → Bool} {cs cs' rest rest' : List Char}
    (hcs : ∀ c ∈ cs, p c = true) (hcs' : ∀ c ∈ cs', p c = true) (hrest : StopsAt p rest)
    (hrest' : StopsAt p rest') (heq : cs ++ rest = cs' ++ rest') : cs = cs' ∧ rest = rest' := by
  induction cs generalizing cs' with
  | nil =>
      cases cs' with
      | nil => exact ⟨rfl, heq⟩
      | cons c cs' =>
          have hstop := hrest c (by rw [List.nil_append] at heq; rw [heq]; rfl)
          rw [hcs' c List.mem_cons_self] at hstop
          cases hstop
  | cons c cs ih =>
      cases cs' with
      | nil =>
          have hstop := hrest' c (by rw [List.nil_append] at heq; rw [← heq]; rfl)
          rw [hcs c List.mem_cons_self] at hstop
          cases hstop
      | cons c' cs' =>
          obtain ⟨rfl, htail⟩ := List.cons.inj heq
          obtain ⟨rfl, hleft⟩ := ih (fun d hd => hcs d (List.mem_cons_of_mem _ hd))
            (fun d hd => hcs' d (List.mem_cons_of_mem _ hd)) htail
          exact ⟨rfl, hleft⟩

theorem not_isDigit_of_isBlank {c : Char} (hc : isBlank c = true) : c.isDigit = false := by
  rcases (by simpa [isBlank] using hc : c = ' ' ∨ c = '\t' ∨ c = '\n') with rfl | rfl | rfl <;> rfl

theorem isDigit_of_append {digits rest tail : List Char} {c : Char} (hdigits : IsDigits digits)
    (heq : digits ++ rest = c :: tail) : c.isDigit = true := by
  obtain ⟨d, digits, rfl⟩ := List.exists_cons_of_ne_nil hdigits.1
  obtain ⟨rfl, -⟩ := List.cons.inj heq
  exact hdigits.2 d List.mem_cons_self

/-- Digits end in front of blanks with an operator behind them. -/
theorem stopsAt_operator {before : List Char} (hbefore : Blank before) (op : ArithOp)
    (rest : List Char) : StopsAt Char.isDigit (before ++ operatorChar op :: rest) := by
  intro c hc
  cases before with
  | nil => cases op <;> (obtain rfl := Option.some.inj hc; rfl)
  | cons d before =>
      obtain rfl := Option.some.inj hc
      exact not_isDigit_of_isBlank (hbefore d List.mem_cons_self)

/-- No operator is a blank. -/
theorem stopsAt_operatorChar (op : ArithOp) (rest : List Char) :
    StopsAt isBlank (operatorChar op :: rest) := by
  intro c hc
  cases op <;> (obtain rfl := Option.some.inj hc; rfl)

/-- Operators are told apart by their characters. -/
theorem eq_of_operatorChar_eq {op op' : ArithOp} (h : operatorChar op = operatorChar op') :
    op = op' := by
  cases op <;> cases op' <;> first | rfl | cases h

namespace Denotes

variable {cs cs' : List Char} {e e' : Formula}

/-- No formula begins with a blank. -/
theorem stopsAt_blank (h : Denotes cs e) (rest : List Char) : StopsAt isBlank (cs ++ rest) := by
  intro c hc
  cases h with
  | positive hdigits =>
      obtain ⟨tail, htail⟩ := List.head?_eq_some_iff.mp hc
      have hdigit := isDigit_of_append hdigits htail
      by_contra hblank
      rw [not_isDigit_of_isBlank (by simpa using hblank)] at hdigit
      cases hdigit
  | negative _ => obtain rfl := Option.some.inj hc; rfl
  | operation _ _ _ _ _ => obtain rfl := Option.some.inj hc; rfl

/-- Two formulas that a text begins with, each with no digit behind it, are the same, and so is what
comes behind them. -/
theorem eq_of_append (h : Denotes cs e) (h' : Denotes cs' e') {rest rest' : List Char}
    (hrest : StopsAt Char.isDigit rest) (hrest' : StopsAt Char.isDigit rest')
    (heq : cs ++ rest = cs' ++ rest') : e = e' ∧ rest = rest' := by
  induction h generalizing cs' e' rest rest' with
  | positive hdigits =>
      cases h' with
      | positive hdigits' =>
          obtain ⟨rfl, hleft⟩ :=
            eq_of_append_of_stopsAt hdigits.2 hdigits'.2 hrest hrest' heq
          exact ⟨rfl, hleft⟩
      | negative _ => cases isDigit_of_append hdigits heq
      | operation _ _ _ _ _ => cases isDigit_of_append hdigits heq
  | negative hdigits =>
      cases h' with
      | positive hdigits' => cases isDigit_of_append hdigits' heq.symm
      | negative hdigits' =>
          obtain ⟨rfl, hleft⟩ := eq_of_append_of_stopsAt hdigits.2 hdigits'.2 hrest hrest'
            (List.cons.inj heq).2
          exact ⟨rfl, hleft⟩
      | operation _ _ _ _ _ => cases (List.cons.inj heq).1
  | operation op hleft hright hbefore hafter ihl ihr =>
      cases h' with
      | positive hdigits' => cases isDigit_of_append hdigits' heq.symm
      | negative _ => cases (List.cons.inj heq).1
      | operation op' hleft' hright' hbefore' hafter' =>
          have hstops : ∀ rest, StopsAt Char.isDigit (')' :: rest) := by
            intro rest c hc
            obtain rfl := Option.some.inj hc
            rfl
          simp only [List.cons_append, List.append_assoc, List.nil_append, List.cons.injEq,
            true_and] at heq
          -- the left formula, the blanks, the operator, the blanks and the right formula in turn
          obtain ⟨rfl, hopen⟩ := ihl hleft' (stopsAt_operator hbefore op _)
            (stopsAt_operator hbefore' op' _) heq
          obtain ⟨-, hoperator⟩ := eq_of_append_of_stopsAt hbefore hbefore'
            (stopsAt_operatorChar op _) (stopsAt_operatorChar op' _) hopen
          obtain ⟨hchar, hbehind⟩ := List.cons.inj hoperator
          obtain rfl := eq_of_operatorChar_eq hchar
          obtain ⟨-, hlast⟩ := eq_of_append_of_stopsAt hafter hafter' (hright.stopsAt_blank _)
            (hright'.stopsAt_blank _) hbehind
          obtain ⟨rfl, hclose⟩ := ihr hright' (hstops _) (hstops _) hlast
          simp only [List.cons.injEq, true_and] at hclose
          exact ⟨rfl, hclose⟩

/-- A text stands for one formula at most. -/
theorem unique (h : Denotes cs e) (h' : Denotes cs e') : e = e' := by
  have hnil : StopsAt Char.isDigit [] := fun c hc => by cases hc
  exact (h.eq_of_append h' hnil hnil rfl).1

end Denotes

/-! ## Numbers -/

/-- A number as it is written stands for itself. -/
theorem denotes_toString (i : Int) : Denotes (toString i).toList (.literal i) := by
  cases i with
  | ofNat n =>
      have hpositive := Denotes.positive (Json.isDigits_decimalDigits n)
      rw [Json.digitsValue_decimalDigits, ← Json.toList_toString n] at hpositive
      exact hpositive
  | negSucc n =>
      have hnegative := Denotes.negative (Json.isDigits_decimalDigits (n + 1))
      rw [Json.digitsValue_decimalDigits, ← Json.toList_toString (n + 1)] at hnegative
      have hchars : (toString (Int.negSucc n)).toList = '-' :: (toString (n + 1)).toList := by
        change ("-" ++ toString (n + 1)).toList = _
        simp [String.toList_append]
      rw [hchars]
      exact hnegative

end ScriptGraph.Shell
