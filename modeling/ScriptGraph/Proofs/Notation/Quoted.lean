import Mathlib.Tactic.SplitIfs
import ScriptGraph.Notation.Quoted

/-!
# Quoted texts are read back

Every text is read back from its quoted form, whatever characters it has (`text?_quote`).  A character
that shows stands for itself; the others are spelled by an escape of one letter or by their code
point in braces.  The reader looks for the closing brace within six characters, which is enough,
because no code point has more digits (`codeEscape?_hexText`).
-/

namespace ScriptGraph.Notation

/-! ## Code points -/

theorem hexValue?_digitChar {d : Nat} (hd : d < 16) : Uuid.hexValue? d.digitChar = some d := by
  have hall : ∀ d < 16, Uuid.hexValue? d.digitChar = some d := by decide
  exact hall d hd

/-- The digits of a number spell it. -/
theorem ofHexDigits?_hexText (n : Nat) : Uuid.ofHexDigits? (hexText n) = some n := by
  induction n using Nat.strongRecOn with
  | ind n ih =>
      rw [hexText, Nat.toDigits_eq_if (by decide)]
      split
      · rename_i hn
        simp [Uuid.ofHexDigits?, hexValue?_digitChar hn]
      · rename_i hn
        have hlead := ih (n / 16) (Nat.div_lt_self (by omega) (by decide))
        have hlast := hexValue?_digitChar (Nat.mod_lt n (by decide : 16 > 0))
        rw [Uuid.ofHexDigits?, hexText] at hlead
        rw [Uuid.ofHexDigits?, List.foldlM_append, hlead]
        simp only [Option.bind_eq_bind, Option.bind_some, List.foldlM_cons, List.foldlM_nil, hlast,
          Option.map_some]
        exact congrArg some (Nat.div_add_mod' n 16)

theorem ne_brace_of_mem_hexText {n : Nat} {c : Char} (hc : c ∈ hexText n) : c ≠ '\x7d' := by
  have hall : ∀ d < 16, d.digitChar ≠ '\x7d' := by decide
  induction n using Nat.strongRecOn with
  | ind n ih =>
      rw [hexText, Nat.toDigits_eq_if (by decide)] at hc
      split at hc
      · rename_i hn
        rw [List.mem_singleton] at hc
        exact hc ▸ hall n hn
      · rename_i hn
        rcases List.mem_append.mp hc with hlead | hlast
        · exact ih (n / 16) (Nat.div_lt_self (by omega) (by decide)) hlead
        · rw [List.mem_singleton] at hlast
          exact hlast ▸ hall (n % 16) (Nat.mod_lt n (by decide))

theorem length_hexText_le (c : Char) : (hexText c.toNat).length ≤ 6 := by
  have hvalid : c.toNat < 0xD800 ∨ 0xDFFF < c.toNat ∧ c.toNat < 0x110000 := c.valid
  rw [hexText, Nat.length_toDigits_le_iff (by decide) (by decide)]
  omega

theorem scalar?_toNat (c : Char) : scalar? c.toNat = some c := by
  have hvalid : c.toNat.isValidChar := c.valid
  rw [scalar?, if_pos hvalid, Char.ofNat_toNat]

/-- A character is read from its code point. -/
theorem codeEscape?_hexText (c : Char) (rest : List Char) :
    codeEscape? (hexText c.toNat ++ '\x7d' :: rest) = some (c, rest) := by
  have hdigits : ((hexText c.toNat ++ '\x7d' :: rest).take 6).takeWhile (· != '\x7d') =
      hexText c.toNat := by
    have hstop : ∀ k, (('\x7d' :: rest).take k).takeWhile (· != '\x7d') = [] := by
      intro k
      cases k <;> simp
    rw [List.take_append, List.take_of_length_le (length_hexText_le c),
      List.takeWhile_append_of_pos (by simpa using fun d => ne_brace_of_mem_hexText), hstop,
      List.append_nil]
  have hne : (hexText c.toNat).isEmpty = false := by
    rw [List.isEmpty_eq_false_iff]
    exact Nat.toDigits_ne_nil
  unfold codeEscape?
  rw [hdigits]
  dsimp only
  rw [List.drop_left]
  simp [hne, ofHexDigits?_hexText, scalar?_toNat]

/-! ## Texts -/

/-- The characters that stand for one character are read as that character. -/
theorem quoted_escape (fuel : Nat) (read : List Char) (c : Char) (cs : List Char) :
    quoted (fuel + 1) read (escape c ++ cs) = quoted fuel (c :: read) cs := by
  unfold escape
  split_ifs with hnul htab hreturn hline hself hshows
  · simp_all [quoted, escape?, letterEscape?, orMalformed]
  · simp_all [quoted, escape?, letterEscape?, orMalformed]
  · simp_all [quoted, escape?, letterEscape?, orMalformed]
  · simp_all [quoted, escape?, letterEscape?, orMalformed]
  · -- a backslash in front of the character itself
    simp only [Bool.or_eq_true, beq_iff_eq] at hself
    rcases hself with (rfl | rfl) | rfl <;> simp [quoted, escape?, letterEscape?, orMalformed]
  · simp only [Bool.or_eq_true, beq_iff_eq, not_or] at hself
    simp [quoted, hself.1.1, hself.1.2]
  · simp [quoted, escape?, expect?, codeEscape?_hexText, orMalformed]

theorem quoted_flatMap {fuel : Nat} {s : List Char} (hfuel : s.length < fuel)
    (read rest : List Char) :
    quoted fuel read (s.flatMap escape ++ '"' :: rest) =
      .ok (String.ofList (read.reverse ++ s), rest) := by
  induction s generalizing fuel read with
  | nil =>
      obtain ⟨fuel, rfl⟩ := Nat.exists_eq_succ_of_ne_zero (Nat.ne_zero_of_lt hfuel)
      simp [quoted]
  | cons c s ih =>
      obtain ⟨fuel, rfl⟩ := Nat.exists_eq_succ_of_ne_zero (Nat.ne_zero_of_lt hfuel)
      rw [List.flatMap_cons, List.append_assoc, quoted_escape,
        ih (Nat.lt_of_succ_lt_succ hfuel)]
      simp

theorem length_le_flatMap_escape (s : List Char) : s.length ≤ (s.flatMap escape).length := by
  induction s with
  | nil => exact Nat.le_refl 0
  | cons c s ih =>
      have hone : 1 ≤ (escape c).length := by
        unfold escape
        split_ifs <;> simp
      rw [List.flatMap_cons, List.length_append, List.length_cons]
      omega

/-- A text is read back from its quoted form. -/
theorem text?_quote (s : String) (rest : List Char) : text? (quote s ++ rest) = some (s, rest) := by
  have hfuel : s.toList.length < (s.toList.flatMap escape ++ '"' :: rest).length + 1 := by
    have hlength := length_le_flatMap_escape s.toList
    rw [List.length_append]
    omega
  rw [text?, quote, List.cons_append, List.append_assoc, List.singleton_append, text,
    quoted_flatMap hfuel]
  simp [Except.toOption]

end ScriptGraph.Notation
