import ScriptGraph.Notation.Number
import ScriptGraph.Proofs.Json.Numeral

/-!
# White space, identifiers and numbers are read back

What the readers of single tokens make of a text that starts with such a token.  An identifier and a
number end where a character follows that cannot belong to them (`identifier?_append`,
`natural?_decimalDigits`).
-/

namespace ScriptGraph.Notation

/-! ## White space -/

/-- Whether a text starts with something to read, and not with white space or a comment. -/
def startsToken (cs : List Char) : Bool :=
  cs.head?.any fun c => !isSpace c && c != '/'

theorem skipSpace?_of_startsToken {cs : List Char} (h : startsToken cs = true) :
    skipSpace? cs = some cs := by
  cases cs with
  | nil => cases h
  | cons c cs =>
      simp only [startsToken, List.head?_cons, Option.any_some, Bool.and_eq_true,
        Bool.not_eq_true', bne_iff_ne] at h
      rw [skipSpace?, Gap.skip?.eq_def]
      split <;> simp_all

theorem startsToken_append {cs : List Char} (h : startsToken cs = true) (rest : List Char) :
    startsToken (cs ++ rest) = true := by
  cases cs with
  | nil => cases h
  | cons c cs => exact h

theorem skipSpace?_of_isSpace {c : Char} (hspace : isSpace c = true) (cs : List Char) :
    skipSpace? (c :: cs) = skipSpace? cs := by
  have hslash : c ≠ '/' := by
    rintro rfl
    cases hspace
  rw [skipSpace?, Gap.skip?.eq_def, skipSpace?]
  split <;> simp_all

/-- White space in front of a token is passed over. -/
theorem skipSpace?_append {gap token : List Char} (hgap : ∀ c ∈ gap, isSpace c = true)
    (htoken : startsToken token = true) : skipSpace? (gap ++ token) = some token := by
  induction gap with
  | nil => exact skipSpace?_of_startsToken htoken
  | cons c gap ih =>
      rw [List.forall_mem_cons] at hgap
      rw [List.cons_append, skipSpace?_of_isSpace hgap.1, ih hgap.2]

/-! ## Identifiers -/

theorem span_append_cons {p : Char → Bool} {front : List Char} (hfront : ∀ c ∈ front, p c = true)
    {c : Char} (hc : p c = false) (rest : List Char) :
    (front ++ c :: rest).span p = (front, c :: rest) := by
  rw [List.span_eq_takeWhile_dropWhile, List.takeWhile_append_of_pos hfront,
    List.dropWhile_append_of_pos hfront, List.takeWhile_cons_of_neg (by simp [hc]),
    List.dropWhile_cons_of_neg (by simp [hc]), List.append_nil]

/-- Whether a text is an identifier that cannot be taken for the start of anything raw. -/
def isPlainName (name : String) : Bool :=
  (name.toList.head?.any fun c => Text.isIdentifierStart c && c != 'r') &&
    name.toList.all Text.isIdentifierPart

/-- An identifier ends at a character that can be in none. -/
theorem identifier?_append {name : String} (hname : isPlainName name = true) {c : Char}
    (hc : isRawPart c = false) (rest : List Char) :
    identifier? (name.toList ++ c :: rest) = some (name, c :: rest) := by
  simp only [isPlainName, Bool.and_eq_true, List.all_eq_true] at hname
  obtain ⟨hfirst, hparts⟩ := hname
  have hend : Text.isIdentifierPart c = false := by
    simp only [isRawPart, Bool.or_eq_false_iff] at hc
    exact hc.2
  have hspan := span_append_cons hparts hend rest
  cases hchars : name.toList with
  | nil => simp [hchars] at hfirst
  | cons d ds =>
      simp only [hchars, List.head?_cons, Option.any_some, Bool.and_eq_true, bne_iff_ne] at hfirst
      obtain ⟨hstart, hplain⟩ := hfirst
      have hback : String.ofList (d :: ds) = name := by rw [← hchars, String.ofList_toList]
      have hnoRaw : startsRawString (d :: ds ++ c :: rest) = false := by
        unfold startsRawString
        split <;> simp_all
      rw [hchars, List.cons_append] at hspan
      unfold identifier?
      rw [hnoRaw, if_neg Bool.false_ne_true, List.cons_append]
      split
      · simp_all
      · rename_i heq
        obtain ⟨rfl, -⟩ := List.cons.inj heq
        rw [if_pos hstart, hspan]
        simp [hc, hback]
      · simp_all

/-! ## Numbers -/

theorem hexValue?_of_isDigit {c : Char} (hc : c.isDigit = true) :
    Uuid.hexValue? c = some (c.toNat - '0'.toNat) := by
  simp only [Char.isDigit, Bool.and_eq_true, decide_eq_true_eq] at hc
  have hrange : '0' ≤ c ∧ c ≤ '9' := hc
  rw [Uuid.hexValue?, if_pos hrange]

theorem isIntegerChar_of_isDigit {c : Char} (hc : c.isDigit = true) : isIntegerChar c = true := by
  rw [isIntegerChar, hexValue?_of_isDigit hc, Option.isSome_some, Bool.or_true]

/-- A digit is none of the characters that mean something else at the start of a number. -/
theorem ne_of_isDigit {c d : Char} (hc : c.isDigit = true) (hd : d.isDigit = false) : c ≠ d := by
  rintro rfl
  rw [hc] at hd
  cases hd

theorem baseValue?_ten {digits : List Char} (hdigits : ∀ c ∈ digits, c.isDigit = true) :
    baseValue? 10 digits = some (Json.digitsValue digits) := by
  have hkept : digits.filter (· != '_') = digits := by
    refine List.filter_eq_self.mpr fun c hc => ?_
    exact bne_iff_ne.mpr (ne_of_isDigit (hdigits c hc) rfl)
  rw [baseValue?, hkept, Json.digitsValue]
  clear hkept
  generalize 0 = start
  induction digits generalizing start with
  | nil => rfl
  | cons c digits ih =>
      rw [List.forall_mem_cons] at hdigits
      have hsmall : c.toNat - '0'.toNat < 10 := by
        have hrange := hdigits.1
        simp only [Char.isDigit, Bool.and_eq_true, decide_eq_true_eq] at hrange
        have hhigh : c.toNat ≤ 57 := hrange.2
        change c.toNat - 48 < 10
        omega
      rw [List.foldlM_cons, List.foldl_cons, hexValue?_of_isDigit hdigits.1]
      simp only [if_pos hsmall, Option.bind_eq_bind, Option.bind_some]
      exact ih hdigits.2 _

theorem isDigit_or_eq_comma {digits rest cs : List Char} {c d : Char}
    (hdigits : Json.IsDigits digits) (heq : digits ++ ',' :: rest = c :: d :: cs) :
    d.isDigit = true ∨ d = ',' := by
  obtain ⟨hne, hall⟩ := hdigits
  cases digits with
  | nil => exact absurd rfl hne
  | cons a digits =>
      cases digits with
      | nil =>
          simp only [List.cons_append, List.nil_append, List.cons.injEq] at heq
          exact .inr heq.2.1.symm
      | cons b digits =>
          simp only [List.cons_append, List.cons.injEq] at heq
          exact .inl (heq.2.1 ▸ hall b (by simp))

/-- Digits with a comma behind them are an integer without sign, base or suffix. -/
theorem integerText_digits {digits : List Char} (hdigits : Json.IsDigits digits)
    (rest : List Char) :
    integerText (digits ++ ',' :: rest) =
      { negative := false, base := 10, digits, suffix := none, rest := ',' :: rest } := by
  obtain ⟨hne, hall⟩ := hdigits
  have hspan : (digits ++ ',' :: rest).span isIntegerChar = (digits, ',' :: rest) :=
    span_append_cons (fun c hc => isIntegerChar_of_isDigit (hall c hc)) rfl rest
  have hsign : sign (digits ++ ',' :: rest) = (false, digits ++ ',' :: rest) := by
    cases digits with
    | nil => exact absurd rfl hne
    | cons c digits =>
        have hplus : c ≠ '+' := ne_of_isDigit (hall c (List.mem_cons_self ..)) rfl
        have hminus : c ≠ '-' := ne_of_isDigit (hall c (List.mem_cons_self ..)) rfl
        unfold sign
        split <;> simp_all
  have hbase : base (digits ++ ',' :: rest) = (10, digits ++ ',' :: rest) := by
    -- the letter of a base would have to be the second digit, or the comma
    unfold base
    split
    · rename_i heq
      rcases isDigit_or_eq_comma ⟨hne, hall⟩ heq with hd | hd <;> cases hd
    · rename_i heq
      rcases isDigit_or_eq_comma ⟨hne, hall⟩ heq with hd | hd <;> cases hd
    · rename_i heq
      rcases isDigit_or_eq_comma ⟨hne, hall⟩ heq with hd | hd <;> cases hd
    · rfl
  have hsuffix : suffix? (',' :: rest) = none := rfl
  simp only [integerText, hsign, hspan, hsuffix, hbase]

theorem startsToken_decimalDigits (n : Nat) : startsToken (Json.decimalDigits n) = true := by
  obtain ⟨hne, hall⟩ := Json.isDigits_decimalDigits n
  obtain ⟨c, digits, hchars⟩ := List.exists_cons_of_ne_nil hne
  have hc : c.isDigit = true := hall c (by simp [hchars])
  have hslash : c ≠ '/' := ne_of_isDigit hc rfl
  have hspace : isSpace c = false := by
    simp only [Char.isDigit, Bool.and_eq_true, decide_eq_true_eq] at hc
    have hlow : 48 ≤ c.toNat := hc.1
    have hhigh : c.toNat ≤ 57 := hc.2
    simp only [isSpace, Bool.or_eq_false_iff, Bool.and_eq_false_iff, decide_eq_false_iff_not,
      beq_eq_false_iff_ne]
    omega
  simp [hchars, startsToken, hspace, hslash]

/-- A number in decimal digits is read back, if it is in the range. -/
theorem natural?_decimalDigits {range : IntegerRange} {n : Nat} (hn : n ≤ range.greatest)
    (rest : List Char) :
    natural? range (Json.decimalDigits n ++ ',' :: rest) = some (n, ',' :: rest) := by
  have hdigits := Json.isDigits_decimalDigits n
  have hvalue : baseValue? 10 (Json.decimalDigits n) = some n := by
    rw [baseValue?_ten hdigits.2, Json.digitsValue_decimalDigits]
  have hmagnitude : IntegerText.magnitudeIn?
      ⟨false, 10, Json.decimalDigits n, none, ',' :: rest⟩ range = some n := by
    rw [IntegerText.magnitudeIn?, Option.getD_none, if_pos rfl, IntegerText.magnitude?]
    split
    · rename_i heq
      exact absurd heq hdigits.1
    · rename_i heq
      have hunder : '_'.isDigit = true := hdigits.2 '_' (by simp_all)
      cases hunder
    · simp [hvalue, hn]
  unfold natural?
  split
  · rename_i heq
    have hletter : 'b'.isDigit = true := by
      obtain ⟨hne, hall⟩ := hdigits
      obtain ⟨c, digits, hchars⟩ := List.exists_cons_of_ne_nil hne
      rw [hchars, List.cons_append] at heq
      exact (List.cons.inj heq).1 ▸ hall c (by simp [hchars])
    cases hletter
  · simp only [integerText_digits hdigits, hmagnitude, Option.map_some]

end ScriptGraph.Notation
