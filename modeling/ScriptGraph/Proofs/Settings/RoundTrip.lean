import ScriptGraph.Proofs.Notation.Quoted
import ScriptGraph.Proofs.Notation.Token
import ScriptGraph.Settings.Text

/-!
# Settings are read back

Settings are read back from their text (`ofText?_text`), so a supported version loads to what was
saved and a later one is refused (`parse_text`).

The text is one field after the other, each with a comma behind it, and the reader takes a step for
each (`readAll?_fieldChars`).
-/

namespace ScriptGraph.Settings

open Notation

/-! ## Values of fields -/

theorem stripStart?_append (start rest : List Char) :
    stripStart? start (start ++ rest) = some rest := by
  induction start with
  | nil => rfl
  | cons c start ih => simp [stripStart?, expect?, ih]

theorem word?_append (word : String) {c : Char} (hc : Text.isIdentifierPart c = false)
    (rest : List Char) : word? word (word.toList ++ c :: rest) = some (c :: rest) := by
  rw [word?, stripStart?_append]
  simp [hc]

-- the depth is that of the table of identifier characters, which is read to its end
set_option maxRecDepth 8000 in
theorem any_isIdentifierPart : [',', '(', ':'].any Text.isIdentifierPart = false := by
  decide

/-- The punctuation of a record is no part of an identifier. -/
theorem isIdentifierPart_of_mem {c : Char} (hc : c ∈ [',', '(', ':']) :
    Text.isIdentifierPart c = false := by
  simpa using List.any_eq_false.mp any_isIdentifierPart c hc

/-- How a truth value is written. -/
def truthChars (b : Bool) : List Char :=
  (if b then "true" else "false").toList

theorem truth?_truthChars (b : Bool) (rest : List Char) :
    truth? (truthChars b ++ ',' :: rest) = some (b, ',' :: rest) := by
  have hcomma : Text.isIdentifierPart ',' = false := isIdentifierPart_of_mem (by simp)
  cases b with
  | true =>
      have hword := word?_append "true" hcomma rest
      simp only [truth?, truthChars, if_true, hword]
  | false =>
      have hother : word? "true" ("false".toList ++ ',' :: rest) = none := rfl
      have hword := word?_append "false" hcomma rest
      have hchars : truthChars false = "false".toList := rfl
      simp only [truth?, hchars, hother, hword, Option.map_some]

/-- How a shebang is written. -/
def shebangChars (line : String) : List Char :=
  "Some".toList ++ '(' :: (quote line ++ [')'])

theorem optionalText?_shebangChars (line : String) (rest : List Char) :
    optionalText? [] (shebangChars line ++ ',' :: rest) = some (some line, ',' :: rest) := by
  have hnone : word? "None" (shebangChars line ++ ',' :: rest) = none := rfl
  have hchars : shebangChars line ++ ',' :: rest =
      "Some".toList ++ '(' :: (quote line ++ ')' :: ',' :: rest) := by
    simp [shebangChars]
  have hsome : word? "Some" (shebangChars line ++ ',' :: rest) =
      some ('(' :: (quote line ++ ')' :: ',' :: rest)) :=
    (congrArg (word? "Some") hchars).trans
      (word?_append "Some" (isIdentifierPart_of_mem (by simp)) _)
  have hopen : skipSpace? ('(' :: (quote line ++ ')' :: ',' :: rest)) =
      some ('(' :: (quote line ++ ')' :: ',' :: rest)) := skipSpace?_of_startsToken rfl
  have hquote : skipSpace? (quote line ++ ')' :: ',' :: rest) =
      some (quote line ++ ')' :: ',' :: rest) := skipSpace?_of_startsToken rfl
  have hclose : comma? (')' :: ',' :: rest) = some (false, ')' :: ',' :: rest) := rfl
  simp [optionalText?, hnone, hsome, hopen, hquote, text?_quote, hclose, expect?]

/-! ## Reading fields -/

theorem read?_formatVersion {fields : Fields} (hfields : fields.formatVersion = none) (n : UInt32)
    (rest : List Char) :
    fields.read? [] "format_version" (Json.decimalDigits n.toNat ++ ',' :: rest) =
      some ({ fields with formatVersion := some n }, ',' :: rest) := by
  have hrange : n.toNat ≤ (IntegerRange.unsigned 32).greatest := Nat.le_sub_one_of_lt n.toNat_lt
  simp [Fields.read?, hfields, natural?_decimalDigits hrange]

theorem read?_shebang {fields : Fields} (hfields : fields.shebang = none) (line : String)
    (rest : List Char) :
    fields.read? [] "custom_shebang" (shebangChars line ++ ',' :: rest) =
      some ({ fields with shebang := some (some line) }, ',' :: rest) := by
  simp [Fields.read?, hfields, optionalText?_shebangChars]

theorem read?_indentWidth {fields : Fields} (hfields : fields.indentWidth = none) (n : UInt64)
    (rest : List Char) :
    fields.read? [] "indent_width" (Json.decimalDigits n.toNat ++ ',' :: rest) =
      some ({ fields with indentWidth := some n }, ',' :: rest) := by
  have hrange : n.toNat ≤ (IntegerRange.unsigned 64).greatest := Nat.le_sub_one_of_lt n.toNat_lt
  simp [Fields.read?, hfields, natural?_decimalDigits hrange]

theorem read?_debug {fields : Fields} (hfields : fields.debug = none) (b : Bool)
    (rest : List Char) :
    fields.read? [] "debug" (truthChars b ++ ',' :: rest) =
      some ({ fields with debug := some b }, ',' :: rest) := by
  simp [Fields.read?, hfields, truth?_truthChars]

/-- A field as it is written, with its comma. -/
def fieldChars (name : String) (value : List Char) : List Char :=
  name.toList ++ ':' :: ' ' :: (value ++ [','])

/-- Whether a text is a name that cannot be taken for the end of a record. -/
def isFieldName (name : String) : Bool :=
  isPlainName name && startsToken name.toList && name.toList.head? != some ')'

/-- The names of the fields of settings. -/
def fieldNames : List String :=
  ["format_version", "custom_shebang", "indent_width", "debug"]

set_option maxRecDepth 8000 in
theorem all_isFieldName : fieldNames.all isFieldName = true := by
  decide

theorem isFieldName_of_mem {name : String} (h : name ∈ fieldNames) : isFieldName name = true :=
  List.all_eq_true.mp all_isFieldName name h

theorem isRawPart_colon : isRawPart ':' = false := by
  rw [isRawPart, isIdentifierPart_of_mem (by simp)]
  rfl

/-- A field is read by reading its value, up to what comes behind its comma. -/
theorem readAll?_fieldChars {name : String} (hname : isFieldName name = true) {value : List Char}
    (hvalue : startsToken value = true) {gap next : List Char} (hgap : ∀ c ∈ gap, isSpace c = true)
    (hnext : startsToken next = true) {fields fields' : Fields}
    (hread : fields.read? [] name (value ++ ',' :: (gap ++ next)) =
      some (fields', ',' :: (gap ++ next))) (fuel : Nat) :
    Fields.readAll? [] (fuel + 1) true fields (fieldChars name value ++ (gap ++ next)) =
      Fields.readAll? [] fuel true fields' next := by
  simp only [isFieldName, Bool.and_eq_true, bne_iff_ne] at hname
  obtain ⟨⟨hplain, hstart⟩, hclose⟩ := hname
  have hchars : fieldChars name value ++ (gap ++ next) =
      name.toList ++ ':' :: ' ' :: (value ++ ',' :: (gap ++ next)) := by
    simp [fieldChars]
  have hskip : skipSpace? (name.toList ++ ':' :: ' ' :: (value ++ ',' :: (gap ++ next))) = _ :=
    skipSpace?_of_startsToken (startsToken_append hstart _)
  have hmore : expect? ')' (name.toList ++ ':' :: ' ' :: (value ++ ',' :: (gap ++ next))) =
      none := by
    cases hlist : name.toList with
    | nil => simp [hlist, startsToken] at hstart
    | cons c cs =>
        have hc : ')' ≠ c := by
          rintro rfl
          exact hclose (by rw [hlist, List.head?_cons])
        simp [expect?, hc]
  have hcolon : skipSpace? (':' :: ' ' :: (value ++ ',' :: (gap ++ next))) = _ :=
    skipSpace?_of_startsToken rfl
  have hspace : skipSpace? (' ' :: (value ++ ',' :: (gap ++ next))) =
      some (value ++ ',' :: (gap ++ next)) := by
    rw [skipSpace?_of_isSpace rfl]
    exact skipSpace?_of_startsToken (startsToken_append hvalue _)
  have hcomma : comma? (',' :: (gap ++ next)) = some (true, next) := by
    have hfirst : skipSpace? (',' :: (gap ++ next)) = _ := skipSpace?_of_startsToken rfl
    simp [comma?, hfirst, expect?, skipSpace?_append hgap hnext]
  have hvalueAt : expect? ':' (':' :: ' ' :: (value ++ ',' :: (gap ++ next))) =
      some (' ' :: (value ++ ',' :: (gap ++ next))) := by
    simp [expect?]
  rw [hchars, Fields.readAll?, hskip]
  simp [hmore, identifier?_append hplain isRawPart_colon, hcolon, hvalueAt, hspace, hread, hcomma]

theorem startsToken_fieldChars {name : String} (hname : isFieldName name = true)
    (value rest : List Char) : startsToken (fieldChars name value ++ rest) = true := by
  simp only [isFieldName, Bool.and_eq_true] at hname
  rw [fieldChars, List.append_assoc]
  exact startsToken_append hname.1.2 _

/-! ## Reading a record -/

/-- What stands in front of a field: the end of the line before and the indentation. -/
def margin : List Char := ['\n', ' ', ' ', ' ', ' ']

theorem isSpace_of_mem_margin : ∀ c ∈ margin, isSpace c = true :=
  List.all_eq_true.mp rfl

theorem readAll?_margin {cs : List Char} (hcs : startsToken cs = true) (fuel : Nat) (more : Bool)
    (fields : Fields) : Fields.readAll? [] fuel more fields (margin ++ cs) =
      Fields.readAll? [] fuel more fields cs := by
  cases fuel with
  | zero => rfl
  | succ fuel =>
      rw [Fields.readAll?, Fields.readAll?, skipSpace?_append isSpace_of_mem_margin hcs,
        skipSpace?_of_startsToken hcs]

/-- The fields that always come, which stand last. -/
def lastChars (s : Settings) : List Char :=
  fieldChars "indent_width" (Json.decimalDigits s.indentWidth.toNat) ++
    (margin ++ (fieldChars "debug" (truthChars s.debug) ++ (['\n'] ++ [')'])))

/-- The fields behind the version. -/
def innerChars (s : Settings) : List Char :=
  (s.shebang.map fun line =>
    fieldChars "custom_shebang" (shebangChars line) ++ (margin ++ lastChars s)).getD (lastChars s)

theorem text_toList (s : Settings) : s.text.toList =
    '(' :: (margin ++ (fieldChars "format_version" (Json.decimalDigits s.formatVersion.toNat) ++
      (margin ++ innerChars s))) := by
  unfold text innerChars lastChars
  cases hshebang : s.shebang with
  | none =>
      simp only [String.toList_append, Json.toList_toString, fieldChars, margin, truthChars,
        Option.map_none, Option.getD_none]
      simp
  | some line =>
      simp only [String.toList_append, Json.toList_toString, String.toList_ofList, fieldChars,
        margin, truthChars, shebangChars, Option.map_some, Option.getD_some]
      simp

theorem startsToken_lastChars (s : Settings) : startsToken (lastChars s) = true :=
  startsToken_fieldChars (isFieldName_of_mem (by simp [fieldNames])) _ _

theorem startsToken_innerChars (s : Settings) : startsToken (innerChars s) = true := by
  cases hshebang : s.shebang with
  | none => simpa [innerChars, hshebang] using startsToken_lastChars s
  | some line =>
      simpa [innerChars, hshebang] using
        startsToken_fieldChars (isFieldName_of_mem (by simp [fieldNames])) _ _

theorem readAll?_lastChars (s : Settings) {fields : Fields}
    (hwidth : fields.indentWidth = none) (hdebug : fields.debug = none) (fuel : Nat) :
    Fields.readAll? [] (fuel + 3) true fields (lastChars s) =
      some ({ fields with indentWidth := some s.indentWidth, debug := some s.debug }, []) := by
  have hnewline : ∀ c ∈ ['\n'], isSpace c = true := List.all_eq_true.mp rfl
  have htruth : startsToken (truthChars s.debug) = true := by
    cases s.debug <;> rfl
  rw [lastChars, readAll?_fieldChars (isFieldName_of_mem (by simp [fieldNames]))
    (startsToken_decimalDigits _) isSpace_of_mem_margin
    (startsToken_fieldChars (isFieldName_of_mem (by simp [fieldNames])) _ _)
    (read?_indentWidth hwidth s.indentWidth _)]
  rw [readAll?_fieldChars (isFieldName_of_mem (by simp [fieldNames])) htruth hnewline rfl
    (read?_debug (by exact hdebug) s.debug _)]
  rfl

theorem readAll?_innerChars (s : Settings) (version : UInt32) (fuel : Nat) :
    Fields.readAll? [] (fuel + 4) true { formatVersion := some version } (innerChars s) =
      some (⟨some version, s.shebang.map some, some s.indentWidth, some s.debug⟩, []) := by
  cases hshebang : s.shebang with
  | none =>
      simp only [innerChars, hshebang, Option.map_none, Option.getD_none]
      exact readAll?_lastChars s rfl rfl (fuel + 1)
  | some line =>
      simp only [innerChars, hshebang, Option.map_some, Option.getD_some]
      rw [readAll?_fieldChars (isFieldName_of_mem (by simp [fieldNames])) rfl
        isSpace_of_mem_margin (startsToken_lastChars s) (read?_shebang rfl line _)]
      exact readAll?_lastChars s rfl rfl fuel

/-- Settings are read back from their text. -/
theorem ofText?_text (s : Settings) : ofText? s.text = some s := by
  have hversion : startsToken
      (fieldChars "format_version" (Json.decimalDigits s.formatVersion.toNat) ++
        (margin ++ innerChars s)) = true :=
    startsToken_fieldChars (isFieldName_of_mem (by simp [fieldNames])) _ _
  have hread : ∀ fuel, Fields.readAll? [] (fuel + 5) true {}
      (margin ++ (fieldChars "format_version" (Json.decimalDigits s.formatVersion.toNat) ++
        (margin ++ innerChars s))) =
      some (⟨some s.formatVersion, s.shebang.map some, some s.indentWidth, some s.debug⟩, []) := by
    intro fuel
    rw [readAll?_margin hversion, readAll?_fieldChars (isFieldName_of_mem (by simp [fieldNames]))
      (startsToken_decimalDigits _) isSpace_of_mem_margin (startsToken_innerChars s)
      (read?_formatVersion rfl s.formatVersion _)]
    exact readAll?_innerChars s _ fuel
  rw [ofText?, text_toList]
  generalize hbody : margin ++
    (fieldChars "format_version" (Json.decimalDigits s.formatVersion.toNat) ++
      (margin ++ innerChars s)) = body at hread ⊢
  have hlength : ∃ fuel, body.length + 1 = fuel + 5 := by
    refine Nat.exists_eq_add_of_le' ?_
    rw [← hbody, margin]
    simp
  obtain ⟨fuel, hfuel⟩ := hlength
  have hopen : skipSpace? ('(' :: body) = some ('(' :: body) := skipSpace?_of_startsToken rfl
  have hdialect : dialect? ('(' :: body) = some ([], '(' :: body) := rfl
  have hname : skipRecordName? false ('(' :: body) = some ('(' :: body) := by
    have hpart : Text.isIdentifierPart '(' = false := isIdentifierPart_of_mem (by simp)
    simp [skipRecordName?, hpart]
  have hend : skipSpace? [] = some [] := rfl
  have hshebang : (s.shebang.map some).getD none = s.shebang := by
    cases s.shebang <;> rfl
  simp [hopen, hdialect, hname, expect?, hfuel, hread, hend, Fields.settings?, hshebang]

/-- What was saved loads again, unless its version is too new. -/
theorem parse_text (s : Settings) : parse s.text =
    if s.formatVersion ≤ supportedVersion then .ok s else .error (.tooNew s.formatVersion) := by
  simp only [parse, ofText?_text, ← UInt32.not_le, ite_not]

/-- Settings that load are of a version that is supported. -/
theorem ofText?_of_parse {text : String} {s : Settings} (h : parse text = .ok s) :
    ofText? text = some s ∧ s.formatVersion ≤ supportedVersion := by
  unfold parse at h
  split at h
  · cases h
  · rename_i loaded hloaded
    split at h
    · cases h
    · rename_i hversion
      cases h
      exact ⟨hloaded, UInt32.not_lt.mp hversion⟩

end ScriptGraph.Settings
