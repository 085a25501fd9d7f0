import ScriptGraph.Uuid

/-!
# Identifiers are read back from their texts

Hexadecimal digits spell the number they were made from, up to the power of sixteen that as many
digits can hold (`ofHexDigits?_hexDigits`), and cutting digits into groups can be undone
(`splitGroups?_joinGroups`).  So the text of an identifier names it (`ofText?_text`).
-/

namespace ScriptGraph.Uuid

/-! ## Hexadecimal digits -/

theorem length_hexDigits (count value : Nat) : (hexDigits count value).length = count := by
  induction count generalizing value with
  | zero => rfl
  | succ count ih => rw [hexDigits, List.length_append, ih, List.length_singleton]

theorem hexValue?_hexDigit {n : Nat} (hn : n < 16) : hexValue? (hexDigit n) = some n := by
  have hall : ∀ n < 16, hexValue? (hexDigit n) = some n := by decide
  exact hall n hn

theorem ofHexDigits?_hexDigits (count value : Nat) :
    ofHexDigits? (hexDigits count value) = some (value % Nat.pow 16 count) := by
  induction count generalizing value with
  | zero => exact congrArg some (Nat.mod_one value).symm
  | succ count ih =>
      have hinitial := ih (value / 16)
      have hsplit : value / 16 % Nat.pow 16 count * 16 + value % 16 =
          value % Nat.pow 16 (count + 1) := by
        change _ = value % (Nat.pow 16 count * 16)
        rw [Nat.mul_comm (Nat.pow 16 count), Nat.mod_mul]
        omega
      unfold ofHexDigits? at hinitial ⊢
      rw [hexDigits, List.foldlM_append, hinitial, ← hsplit]
      simp [hexValue?_hexDigit (Nat.mod_lt value (by decide : 16 > 0))]

/-! ## Groups -/

/-- The number of digits in groups of the given widths. -/
def totalWidth : List Nat → Nat
  | [] => 0
  | width :: widths => width + totalWidth widths

theorem length_joinGroups {widths : List Nat} (hne : widths ≠ []) {digits : List Char}
    (hlength : digits.length = totalWidth widths) :
    (joinGroups widths digits).length + 1 = totalWidth widths + widths.length := by
  induction widths generalizing digits with
  | nil => exact absurd rfl hne
  | cons width widths ih =>
      cases widths with
      | nil => simpa [joinGroups, totalWidth] using hlength
      | cons next widths =>
          have hrest : (digits.drop width).length = totalWidth (next :: widths) := by
            rw [List.length_drop, hlength, totalWidth]
            omega
          have hjoined := ih (by simp) hrest
          rw [joinGroups, List.length_append, List.length_cons, List.length_take, hlength]
          · simp only [totalWidth, List.length_cons] at hjoined ⊢
            omega
          · simp

theorem splitGroups?_joinGroups {widths : List Nat} (hne : widths ≠ []) {digits : List Char}
    (hlength : digits.length = totalWidth widths) :
    splitGroups? widths (joinGroups widths digits) = some digits := by
  induction widths generalizing digits with
  | nil => exact absurd rfl hne
  | cons width widths ih =>
      cases widths with
      | nil =>
          rw [joinGroups, splitGroups?, if_pos (by simpa [totalWidth] using hlength)]
      | cons next widths =>
          have hrest : (digits.drop width).length = totalWidth (next :: widths) := by
            rw [List.length_drop, hlength, totalWidth]
            omega
          have htake : (digits.take width).length = width := by
            rw [List.length_take, hlength, totalWidth]
            omega
          have hcut : (digits.take width ++ '-' :: joinGroups (next :: widths)
              (digits.drop width)).drop width = '-' :: joinGroups (next :: widths)
                (digits.drop width) := List.drop_left' htake
          have hkept : (digits.take width ++ '-' :: joinGroups (next :: widths)
              (digits.drop width)).take width = digits.take width := List.take_left' htake
          rw [joinGroups, splitGroups?, hcut]
          · simp only [ih (by simp) hrest, hkept, Option.map_some, List.take_append_drop]
          · simp
          · simp

/-! ## Texts -/

/-- The text of an identifier names it. -/
theorem ofText?_text (u : Uuid) : ofText? u.text = some u := by
  have hdigits : (hexDigits 32 u.bits.toNat).length = totalWidth groupWidths := length_hexDigits 32 _
  have hlength : (joinGroups groupWidths (hexDigits 32 u.bits.toNat)).length = 36 := by
    have := length_joinGroups (by decide) hdigits
    have hsum : totalWidth groupWidths + groupWidths.length = 37 := by decide
    omega
  have hsplit : splitGroups? groupWidths (joinGroups groupWidths (hexDigits 32 u.bits.toNat)) =
      some (hexDigits 32 u.bits.toNat) := splitGroups?_joinGroups (by decide) hdigits
  have hbits : u.bits.toNat % Nat.pow 16 32 = u.bits.toNat := Nat.mod_eq_of_lt u.bits.isLt
  unfold ofText? text
  rw [String.toList_ofList]
  dsimp only
  rw [if_neg (by omega), if_pos hlength, ofHyphenated?, hsplit, Option.bind_some, ofDigits?,
    if_pos (length_hexDigits 32 _), ofHexDigits?_hexDigits, hbits, Option.map_some,
    BitVec.ofNat_toNat, BitVec.setWidth_eq]

end ScriptGraph.Uuid
