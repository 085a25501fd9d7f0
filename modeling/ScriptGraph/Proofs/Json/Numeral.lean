import Mathlib.Data.List.DropRight
import Mathlib.Data.List.TakeDrop
import Mathlib.Data.List.TakeWhile
import ScriptGraph.Json.Number
import ScriptGraph.Json.Reader
import ScriptGraph.Json.Writer

/-!
# Numerals are read back

A numeral that keeps to the grammar (`Numeral.Valid`) is read back from its characters, as long as
what follows cannot be taken for a part of it (`scanNumber?_chars`).  Whatever is written keeps to
the grammar: integers by what is known of their digits, and floating-point numbers because the
shortest decimal of a number starts with a digit that is not zero (`shortest_leading`).

Integers of 64 bits also mean what they were (`toInt?_ofInt`).
-/

namespace ScriptGraph

namespace Json

/-! ## The grammar -/

/-- Digits, and at least one. -/
def IsDigits (digits : List Char) : Prop :=
  digits ≠ [] ∧ ∀ c ∈ digits, c.isDigit = true

/-- A numeral that keeps to the grammar. -/
structure Numeral.Valid (n : Numeral) : Prop where
  whole : IsDigits n.whole
  /-- a zero in front stands alone -/
  leading : n.whole.head? = some '0' → n.whole = ['0']
  fraction : ∀ c ∈ n.fraction, c.isDigit = true
  exponent : ∀ e, n.exponent = some e → IsDigits e.digits

/-- A text that cannot be taken for a part of the number in front of it. -/
def Ends (rest : List Char) : Prop :=
  ∀ c, rest.head? = some c → c.isDigit = false ∧ c ≠ '.' ∧ c ≠ 'e' ∧ c ≠ 'E'

theorem ends_nil : Ends [] := nofun

theorem ends_cons {c : Char} (hc : c.isDigit = false ∧ c ≠ '.' ∧ c ≠ 'e' ∧ c ≠ 'E')
    (rest : List Char) : Ends (c :: rest) := by
  rintro _ ⟨⟩
  exact hc

/-! ## Reading -/

theorem takeDigits_append {digits rest : List Char} (hdigits : ∀ c ∈ digits, c.isDigit = true)
    (hrest : ∀ c, rest.head? = some c → c.isDigit = false) :
    takeDigits (digits ++ rest) = (digits, rest) := by
  have htake : rest.takeWhile Char.isDigit = [] := by
    cases rest with
    | nil => rfl
    | cons c rest => rw [List.takeWhile_cons_of_neg (by simp [hrest c rfl])]
  have hdrop : rest.dropWhile Char.isDigit = rest := by
    cases rest with
    | nil => rfl
    | cons c rest => rw [List.dropWhile_cons_of_neg (by simp [hrest c rfl])]
  rw [takeDigits, List.span_eq_takeWhile_dropWhile, List.takeWhile_append_of_pos hdigits,
    List.dropWhile_append_of_pos hdigits, htake, hdrop, List.append_nil]

theorem scanWhole?_append {whole rest : List Char} (hwhole : IsDigits whole)
    (hleading : whole.head? = some '0' → whole = ['0'])
    (hrest : ∀ c, rest.head? = some c → c.isDigit = false) :
    scanWhole? (whole ++ rest) = some (whole, rest) := by
  rw [scanWhole?, takeDigits_append hwhole.2 hrest]
  split
  · rename_i heq
    exact absurd (Prod.mk.inj heq).1 hwhole.1
  · rename_i heq
    obtain ⟨rfl, -⟩ := Prod.mk.inj heq
    cases hleading rfl
  · rename_i heq
    obtain ⟨rfl, rfl⟩ := Prod.mk.inj heq
    rfl

/-- The characters of a fraction. -/
def fractionChars (fraction : List Char) : List Char :=
  if fraction.isEmpty then [] else '.' :: fraction

theorem scanFraction?_append {fraction rest : List Char}
    (hfraction : ∀ c ∈ fraction, c.isDigit = true)
    (hrest : ∀ c, rest.head? = some c → c.isDigit = false ∧ c ≠ '.') :
    scanFraction? (fractionChars fraction ++ rest) = some (fraction, rest) := by
  cases fraction with
  | nil =>
      cases rest with
      | nil => rfl
      | cons c rest =>
          have hc := (hrest c rfl).2
          change scanFraction? (c :: rest) = _
          rw [scanFraction?]
          simpa using hc
  | cons d fraction =>
      change scanFraction? ('.' :: ((d :: fraction) ++ rest)) = _
      rw [scanFraction?, takeDigits_append hfraction fun c hc => (hrest c hc).1]

/-- The characters of an exponent. -/
def exponentChars : Option Exponent → List Char
  | none => []
  | some e => 'e' :: (e.sign.text ++ e.digits)

theorem scanSign_append (sign : ExponentSign) {digits : List Char} (hdigits : IsDigits digits)
    (rest : List Char) : scanSign (sign.text ++ (digits ++ rest)) = (sign, digits ++ rest) := by
  cases sign with
  | plus => rfl
  | minus => rfl
  | none =>
      obtain ⟨hne, hall⟩ := hdigits
      cases digits with
      | nil => exact absurd rfl hne
      | cons d digits =>
          have hd : d.isDigit = true := hall d List.mem_cons_self
          change scanSign (d :: (digits ++ rest)) = _
          unfold scanSign
          split
          · rename_i heq
            obtain ⟨rfl, -⟩ := List.cons.inj heq
            cases hd
          · rename_i heq
            obtain ⟨rfl, -⟩ := List.cons.inj heq
            cases hd
          · rfl

theorem scanExponent?_append {exponent : Option Exponent}
    (hexponent : ∀ e, exponent = some e → IsDigits e.digits) {rest : List Char}
    (hrest : Ends rest) :
    scanExponent? (exponentChars exponent ++ rest) = some (exponent, rest) := by
  cases exponent with
  | none =>
      cases rest with
      | nil => rfl
      | cons c rest =>
          obtain ⟨-, -, he, hE⟩ := hrest c rfl
          change scanExponent? (c :: rest) = _
          rw [scanExponent?, if_neg (by simp [he, hE])]
  | some e =>
      obtain ⟨sign, digits⟩ := e
      have hdigits : IsDigits digits := hexponent _ rfl
      change scanExponent? ('e' :: ((sign.text ++ digits) ++ rest)) = _
      rw [scanExponent?, if_pos (by decide), List.append_assoc, scanSign_append sign hdigits]
      dsimp only
      rw [takeDigits_append hdigits.2 fun c hc => (hrest c hc).1]
      cases digits with
      | nil => exact absurd rfl hdigits.1
      | cons d digits => rfl

theorem head?_exponentChars {exponent : Option Exponent} {rest : List Char} (hrest : Ends rest)
    {c : Char} (hc : (exponentChars exponent ++ rest).head? = some c) :
    c.isDigit = false ∧ c ≠ '.' := by
  cases exponent with
  | none => exact ⟨(hrest c hc).1, (hrest c hc).2.1⟩
  | some e =>
      obtain rfl : 'e' = c := Option.some.inj hc
      exact ⟨rfl, by decide⟩

theorem head?_fractionChars {fraction rest : List Char}
    (hrest : ∀ c, rest.head? = some c → c.isDigit = false) {c : Char}
    (hc : (fractionChars fraction ++ rest).head? = some c) : c.isDigit = false := by
  cases fraction with
  | nil => exact hrest c hc
  | cons d fraction =>
      obtain rfl : '.' = c := Option.some.inj hc
      rfl

namespace Numeral

/-- The characters of a numeral behind its sign. -/
def unsignedChars (n : Numeral) : List Char :=
  n.whole ++ (fractionChars n.fraction ++ exponentChars n.exponent)

theorem chars_eq (n : Numeral) :
    n.chars = (if n.negative then ['-'] else []) ++ n.unsignedChars := by
  obtain ⟨negative, whole, fraction, exponent⟩ := n
  cases exponent <;>
    simp only [chars, unsignedChars, fractionChars, exponentChars, List.append_assoc]

theorem scanUnsigned?_append {n : Numeral} (h : n.Valid) {rest : List Char} (hrest : Ends rest) :
    scanUnsigned? n.negative (n.unsignedChars ++ rest) = some (n, rest) := by
  have hexponent : ∀ c, (exponentChars n.exponent ++ rest).head? = some c →
      c.isDigit = false ∧ c ≠ '.' := fun c => head?_exponentChars hrest
  have hfraction : ∀ c, (fractionChars n.fraction ++ (exponentChars n.exponent ++ rest)).head? =
      some c → c.isDigit = false :=
    fun c => head?_fractionChars fun c hc => (hexponent c hc).1
  rw [scanUnsigned?, unsignedChars, List.append_assoc, List.append_assoc,
    scanWhole?_append h.whole h.leading hfraction, Option.bind_eq_bind, Option.bind_some]
  dsimp only
  rw [scanFraction?_append h.fraction hexponent, Option.bind_eq_bind, Option.bind_some]
  dsimp only
  rw [scanExponent?_append h.exponent hrest]
  rfl

/-- A numeral starts with its sign or a digit. -/
theorem exists_chars_eq_cons {n : Numeral} (h : n.Valid) :
    ∃ c cs, n.chars = c :: cs ∧ (c = '-' ∨ c.isDigit = true) := by
  obtain ⟨hne, hall⟩ := h.whole
  rw [chars_eq]
  cases n.negative with
  | true => exact ⟨'-', n.unsignedChars, rfl, .inl rfl⟩
  | false =>
      obtain ⟨c, cs, hwhole⟩ := List.exists_cons_of_ne_nil hne
      refine ⟨c, cs ++ (fractionChars n.fraction ++ exponentChars n.exponent), ?_, .inr ?_⟩
      · simp [unsignedChars, hwhole]
      · exact hall c (hwhole ▸ List.mem_cons_self)

/-- A numeral is read back from its characters. -/
theorem scanNumber?_chars {n : Numeral} (h : n.Valid) {rest : List Char} (hrest : Ends rest) :
    scanNumber? (n.chars ++ rest) = some (n, rest) := by
  have hscan := scanUnsigned?_append h hrest
  rw [chars_eq]
  cases hnegative : n.negative with
  | true =>
      rw [hnegative] at hscan
      exact hscan
  | false =>
      rw [hnegative] at hscan
      obtain ⟨c, cs, hwhole⟩ := List.exists_cons_of_ne_nil h.whole.1
      have hc : c.isDigit = true := h.whole.2 c (hwhole ▸ List.mem_cons_self)
      change scanNumber? (n.unsignedChars ++ rest) = _
      rw [unsignedChars, hwhole] at hscan ⊢
      simp only [List.cons_append] at hscan ⊢
      -- without a sign the first character is a digit, which is not taken for one
      unfold scanNumber?
      split
      · rename_i heq
        obtain ⟨rfl, -⟩ := List.cons.inj heq
        cases hc
      · exact hscan

end Numeral

/-! ## Integers -/

theorem toList_toString (n : Nat) : (toString n).toList = decimalDigits n := by
  simp [toString, Nat.repr, decimalDigits]

theorem isDigits_decimalDigits (n : Nat) : IsDigits (decimalDigits n) :=
  ⟨Nat.toDigits_ne_nil, fun _ => Nat.isDigit_of_mem_toDigits (by decide) (by decide)⟩

/-- The digits of a number other than zero do not start with one. -/
theorem head?_toDigits_ne_zero {n : Nat} (hn : n ≠ 0) : (Nat.toDigits 10 n).head? ≠ some '0' := by
  induction n using Nat.strongRecOn with
  | ind n ih =>
      have hdigit : ∀ m < 10, m ≠ 0 → [m.digitChar].head? ≠ some '0' := by decide
      rw [Nat.toDigits_eq_if (by decide)]
      split
      · rename_i hlt
        exact hdigit n hlt hn
      · rename_i hge
        have hne : Nat.toDigits 10 (n / 10) ≠ [] := Nat.toDigits_ne_nil
        rw [List.head?_append_of_ne_nil _ hne]
        exact ih (n / 10) (by omega) (by omega)

theorem digitsValue_decimalDigits (n : Nat) : digitsValue (decimalDigits n) = n := by
  have hstep : (fun (value : Nat) (c : Char) => value * 10 + (c.toNat - '0'.toNat)) =
      fun sofar c => 10 * sofar + (c.toNat - '0'.toNat) := by
    funext value c
    rw [Nat.mul_comm]
  calc digitsValue (decimalDigits n)
      = Nat.ofDigitChars 10 (Nat.toDigits 10 n) 0 := by
        rw [digitsValue, hstep]
        rfl
    _ = n := Nat.ofDigitChars_ten_toDigits

theorem leading_decimalDigits (n : Nat) (hhead : (decimalDigits n).head? = some '0') :
    decimalDigits n = ['0'] := by
  by_cases hn : n = 0
  · rw [hn]
    rfl
  · exact absurd hhead (head?_toDigits_ne_zero hn)

namespace Numeral

theorem valid_ofInt (i : Int) : (ofInt i).Valid where
  whole := isDigits_decimalDigits _
  leading := leading_decimalDigits _
  fraction := nofun
  exponent := nofun

theorem valid_ofNat (n : Nat) : (ofNat n).Valid where
  whole := isDigits_decimalDigits _
  leading := leading_decimalDigits _
  fraction := nofun
  exponent := nofun

/-- An integer that 64 bits hold, signed or unsigned, means itself. -/
theorem toInt?_ofInt {i : Int} (hlow : -0x8000000000000000 ≤ i) (hhigh : i ≤ maxSignificand) :
    (ofInt i).toInt? = some i := by
  unfold toInt? ofInt
  simp only [digitsValue_decimalDigits]
  by_cases hneg : i < 0
  · simp only [hneg]
    rw [if_neg (by decide), if_pos (by decide), if_pos (by omega)]
    congr 1
    omega
  · simp only [hneg]
    rw [if_neg (by decide), if_neg (by decide), if_pos (by omega)]
    congr 1
    omega

theorem toInt?_ofNat {n : Nat} (hn : n ≤ maxSignificand) : (ofNat n).toInt? = some (n : Int) := by
  unfold toInt? ofNat
  simp only [digitsValue_decimalDigits]
  rw [if_neg (by decide), if_neg (by decide), if_pos hn]

end Numeral

end Json

/-! ## Floating-point numbers -/

namespace Decimal

namespace Interval

/-- In units no larger than its first digit, a number is at least one. -/
theorem one_le_units {i : Interval} (hvalue : 0 < i.value) (hden : 0 < i.denominator) {k : Int}
    (hk : k ≤ i.leadingExponent) :
    1 ≤ (i.inUnits k).value / (i.inUnits k).denominator := by
  unfold leadingExponent at hk
  -- a positive power of ten divides the number and a negative one multiplies it
  cases k with
  | ofNat k =>
      have hpow : 0 < Nat.pow 10 k := Nat.pow_pos (by decide)
      change 1 ≤ i.value / (i.denominator * Nat.pow 10 k)
      rw [Nat.one_le_div_iff (Nat.mul_pos hden hpow)]
      split at hk
      · rename_i hle
        by_cases hzero : k = 0
        · rw [hzero]
          simpa using hle
        · have hmany : ¬(Nat.toDigits 10 (i.value / i.denominator)).length ≤ k := by
            have : (k : Int) ≤ (Nat.toDigits 10 (i.value / i.denominator)).length - 1 := hk
            omega
          rw [Nat.length_toDigits_le_iff (by decide) (by omega), Nat.not_lt,
            Nat.le_div_iff_mul_le hden] at hmany
          rw [Nat.mul_comm]
          exact hmany
      · have hsome : 0 < (Nat.toDigits 10 ((i.denominator - 1) / i.value)).length :=
          Nat.length_toDigits_pos
        have : (k : Int) ≤ -((Nat.toDigits 10 ((i.denominator - 1) / i.value)).length : Int) := hk
        omega
  | negSucc k =>
      have hpow : 0 < Nat.pow 10 (k + 1) := Nat.pow_pos (by decide)
      change 1 ≤ i.value * Nat.pow 10 (k + 1) / i.denominator
      rw [Nat.one_le_div_iff hden]
      split at hk
      · rename_i hle
        exact hle.trans (Nat.le_mul_of_pos_right _ hpow)
      · have hfew : (Nat.toDigits 10 ((i.denominator - 1) / i.value)).length ≤ k + 1 := by omega
        rw [Nat.length_toDigits_le_iff (by decide) (by omega),
          Nat.div_lt_iff_lt_mul hvalue, Nat.mul_comm] at hfew
        have : i.denominator - 1 < i.value * Nat.pow 10 (k + 1) := hfew
        omega

theorem best?_pos {i : Interval} (hone : 1 ≤ i.value / i.denominator) {n : Nat}
    (hbest : i.best? = some n) : n ≠ 0 := by
  unfold best? at hbest
  dsimp only at hbest
  split at hbest
  · cases hbest
  · cases hbest
    omega
  · cases hbest
    omega
  · split at hbest
    · cases hbest
      omega
    · split at hbest
      · cases hbest
        omega
      · cases hbest
        split <;> omega

end Interval

open Json (IsDigits)

/-- The decimal of a number of units other than none. -/
theorem Digits.ofUnits_leading {n : Nat} (hn : n ≠ 0) (k : Int) :
    IsDigits (ofUnits n k).digits ∧ (ofUnits n k).digits.head? ≠ some '0' := by
  change IsDigits ((Nat.toDigits 10 n).rdropWhile (· == '0')) ∧
    ((Nat.toDigits 10 n).rdropWhile (· == '0')).head? ≠ some '0'
  have hhead := Json.head?_toDigits_ne_zero hn
  obtain ⟨hne, hall⟩ := Json.isDigits_decimalDigits n
  obtain ⟨c, cs, hdigits⟩ := List.exists_cons_of_ne_nil hne
  rw [Json.decimalDigits] at hdigits hall
  have hinitial := List.rdropWhile_prefix (· == '0') (Nat.toDigits 10 n)
  have hkept : (Nat.toDigits 10 n).rdropWhile (· == '0') ≠ [] := by
    rw [Ne, List.rdropWhile_eq_nil_iff]
    intro hzeros
    have hc := hzeros c (hdigits ▸ List.mem_cons_self)
    rw [hdigits, List.head?_cons] at hhead
    exact hhead (congrArg some (by simpa using hc))
  refine ⟨⟨hkept, fun d hd => hall d (hinitial.subset hd)⟩, ?_⟩
  have hsame : ((Nat.toDigits 10 n).rdropWhile (· == '0')).head? = (Nat.toDigits 10 n).head? := by
    obtain ⟨tail, htail⟩ := hinitial
    conv_rhs => rw [← htail]
    rw [List.head?_append_of_ne_nil _ hkept]
  rwa [hsame]

theorem shortestFrom_leading {i : Interval} (hvalue : 0 < i.value) (hden : 0 < i.denominator)
    (bound count : Nat) :
    IsDigits (shortestFrom i i.leadingExponent bound count).digits ∧
      (shortestFrom i i.leadingExponent bound count).digits.head? ≠ some '0' := by
  induction bound generalizing count with
  | zero =>
      have hone := Interval.one_le_units hvalue hden (k := i.leadingExponent - count) (by omega)
      exact Digits.ofUnits_leading (Nat.one_le_iff_ne_zero.mp hone) _
  | succ bound ih =>
      have hone := Interval.one_le_units hvalue hden (k := i.leadingExponent - count) (by omega)
      unfold shortestFrom
      dsimp only
      split
      · rename_i n hbest
        exact Digits.ofUnits_leading (Interval.best?_pos hone hbest) _
      · exact ih (count + 1)

/-- The shortest decimal of a number other than zero starts with a digit other than zero. -/
theorem shortest_leading {m : Magnitude} (hm : m.significand ≠ 0) (bias : Nat) :
    IsDigits (shortest m bias).digits ∧ (shortest m bias).digits.head? ≠ some '0' := by
  refine shortestFrom_leading ?_ ?_ _ _
  · have : 0 < Nat.pow 2 m.exponent := Nat.pow_pos (by decide)
    exact Nat.mul_pos (by omega) this
  · exact Nat.pow_pos (by decide)

end Decimal

namespace Json

variable {d : Decimal.Digits} (hdigits : IsDigits d.digits) (hhead : d.digits.head? ≠ some '0')
include hdigits

theorem valid_scientific (negative : Bool) : (scientific negative d).Valid := by
  obtain ⟨hne, hall⟩ := hdigits
  obtain ⟨c, cs, hcons⟩ := List.exists_cons_of_ne_nil hne
  refine ⟨?_, ?_, ?_, ?_⟩
  · refine ⟨?_, fun e he => hall e (List.mem_of_mem_take he)⟩
    simp [scientific, hcons]
  · intro hzero
    simp only [scientific, hcons, List.take_succ_cons, List.take_zero] at hzero ⊢
    rw [Option.some.inj hzero]
  · exact fun e he => hall e (List.mem_of_mem_drop he)
  · rintro _ ⟨⟩
    exact isDigits_decimalDigits _

include hhead

theorem valid_positional (negative : Bool) : (positional negative d).Valid := by
  obtain ⟨hne, hall⟩ := hdigits
  obtain ⟨c, cs, hcons⟩ := List.exists_cons_of_ne_nil hne
  have hzero : '0'.isDigit = true := by decide
  unfold positional
  cases d.exponent with
  | ofNat e =>
      have hwhole : d.digits.take (e + 1) ++ List.replicate (e + 1 - d.digits.length) '0' =
          c :: (cs.take e ++ List.replicate (e + 1 - d.digits.length) '0') := by
        rw [hcons, List.take_succ_cons, List.cons_append]
      refine ⟨⟨?_, ?_⟩, ?_, ?_, nofun⟩
      · simp [hcons]
      · intro a ha
        rcases List.mem_append.mp ha with ha | ha
        · exact hall a (List.mem_of_mem_take ha)
        · rw [List.eq_of_mem_replicate ha]
          exact hzero
      · intro hlead
        dsimp only at hlead
        rw [hwhole, List.head?_cons] at hlead
        rw [hcons, List.head?_cons] at hhead
        exact absurd hlead hhead
      · intro a ha
        dsimp only at ha
        split at ha
        · rw [List.mem_singleton.mp ha]
          exact hzero
        · exact hall a (List.mem_of_mem_drop ha)
  | negSucc e =>
      refine ⟨⟨by simp, ?_⟩, fun _ => rfl, ?_, nofun⟩
      · intro a ha
        rw [List.mem_singleton.mp ha]
        exact hzero
      · intro a ha
        rcases List.mem_append.mp ha with ha | ha
        · rw [List.eq_of_mem_replicate ha]
          exact hzero
        · exact hall a ha

omit hhead in
/-- There is always a digit behind the point. -/
theorem toInt?_positional (negative : Bool) : (positional negative d).toInt? = none := by
  have hfraction : (positional negative d).fraction.isEmpty = false := by
    unfold positional
    cases d.exponent with
    | ofNat e =>
        dsimp only
        split
        · rfl
        · rename_i hfraction
          exact Bool.eq_false_iff.mpr hfraction
    | negSucc e => simp [hdigits.1]
  rw [Numeral.toInt?, hfraction]
  rfl

omit hdigits hhead in
/-- A floating-point number is written as a numeral that keeps to the grammar and is no integer, or
as null. -/
theorem floatTree_valid (format : Decimal.BinaryFormat) (layout : NumberLayout) (bits : Nat) :
    floatTree format layout bits = .null ∨
      ∃ n : Numeral, floatTree format layout bits = .number n ∧ n.Valid ∧ n.toInt? = none := by
  unfold floatTree
  dsimp only
  split
  · exact .inl rfl
  · rename_i m _
    refine .inr ?_
    split
    · refine ⟨_, rfl, ⟨⟨by simp, ?_⟩, fun _ => rfl, ?_, nofun⟩, rfl⟩ <;>
        · intro a ha
          rw [List.mem_singleton.mp ha]
          decide
    · rename_i hm
      obtain ⟨hdigits, hhead⟩ := Decimal.shortest_leading hm format.bias
      split
      · exact ⟨_, rfl, valid_positional hdigits hhead _, toInt?_positional hdigits _⟩
      · refine ⟨_, rfl, valid_scientific hdigits _, ?_⟩
        simp [Numeral.toInt?, scientific]

end Json

end ScriptGraph
