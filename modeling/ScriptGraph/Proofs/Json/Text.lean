import ScriptGraph.Proofs.Json.Numeral
import ScriptGraph.Proofs.Uuid

/-!
# Trees are read back from their texts

A tree that holds only texts and numerals of the grammar (`Tree.Writable`) is read back from what is
written of it, in any layout that puts white space only where it may stand (`Layout.Blank`).  Both
layouts do.

The reader takes a step for each value and each place in a list, so as many steps as there are
characters are enough.  What follows a value is left open in the induction: it may be anything that
cannot be taken for more of a number.
-/

namespace ScriptGraph.Json

/-! ## Strings -/

theorem scanString_unit (read : List Char) (isText : Bool) {a b c d : Char} {unit : Nat}
    (hunit : codeUnit? a b c d = some unit) (hlead : isLead unit = false)
    (htrail : isTrail unit = false) (cs : List Char) :
    scanString read isText ('\\' :: 'u' :: a :: b :: c :: d :: cs) =
      scanString (Char.ofNat unit :: read) isText cs := by
  rw [scanString.eq_def]
  split
  · simp_all
  · simp_all
  · -- what follows is an escape as well, but this unit does not start a pair
    simp_all
  · simp_all
  · rename_i hother heq
    simp only [List.cons.injEq, true_and] at heq
    obtain ⟨rfl, rfl⟩ := heq
    exact absurd rfl (hother a b c d cs rfl)
  · rename_i hother heq
    obtain ⟨rfl, rfl⟩ := List.cons.inj heq
    exact absurd rfl (hother 'u' _ rfl)

/-- The characters that stand for one character are read as that character. -/
theorem scanString_escape (read : List Char) (isText : Bool) (c : Char) (cs : List Char) :
    scanString read isText (escape c ++ cs) = scanString (c :: read) isText cs := by
  unfold escape
  split_ifs with hquote hslash hback htab hline hform hreturn hcontrol
  · simp_all [scanString, simpleEscape?]
  · simp_all [scanString, simpleEscape?]
  · simp_all [scanString, simpleEscape?]
  · simp_all [scanString, simpleEscape?]
  · simp_all [scanString, simpleEscape?]
  · simp_all [scanString, simpleEscape?]
  · simp_all [scanString, simpleEscape?]
  · obtain ⟨x, y, z, w, hdigits⟩ := List.length_eq_four.mp (Uuid.length_hexDigits 4 c.toNat)
    have hunit : codeUnit? x y z w = some c.toNat := by
      have hvalue := Uuid.ofHexDigits?_hexDigits 4 c.toNat
      have hsmall : c.toNat < Nat.pow 16 4 := by
        change c.toNat < 65536
        omega
      rw [hdigits, Nat.mod_eq_of_lt hsmall] at hvalue
      exact hvalue
    have hplain : isLead c.toNat = false ∧ isTrail c.toNat = false := by
      simp only [isLead, isTrail, Bool.and_eq_false_iff, decide_eq_false_iff_not]
      omega
    rw [hdigits]
    change scanString read isText ('\\' :: 'u' :: x :: y :: z :: w :: cs) = _
    rw [scanString_unit read isText hunit hplain.1 hplain.2, Char.ofNat_toNat]
  · change scanString read isText (c :: cs) = _
    have hplain : (decide (c.toNat < 0x20) || c == '\\') = false := by simp_all
    rw [scanString.eq_def]
    split
    · simp_all
    · simp_all
    · simp_all
    · simp_all
    · simp_all
    · rename_i heq
      obtain ⟨rfl, rfl⟩ := List.cons.inj heq
      rw [hplain]
      rfl

theorem scanString_flatMap (read s rest : List Char) :
    scanString read true (s.flatMap escape ++ '"' :: rest) =
      some (some (String.ofList (read.reverse ++ s)), rest) := by
  induction s generalizing read with
  | nil => simp [scanString]
  | cons c s ih =>
      rw [List.flatMap_cons, List.append_assoc, scanString_escape, ih]
      simp

/-- A text is read back from its string, behind the opening quote. -/
theorem scanString_quote (s : String) (rest : List Char) :
    scanString [] true (s.toList.flatMap escape ++ '"' :: rest) = some (some s, rest) := by
  rw [scanString_flatMap, List.reverse_nil, List.nil_append, String.ofList_toList]

/-! ## White space -/

/-- White space only. -/
def Blank (cs : List Char) : Prop :=
  ∀ c ∈ cs, isSpace c = true

theorem blank_nil : Blank [] := nofun

theorem skipSpace_append {blank : List Char} (hblank : Blank blank) {c : Char}
    (hc : isSpace c = false) (cs : List Char) : skipSpace (blank ++ c :: cs) = c :: cs := by
  rw [skipSpace, List.dropWhile_append_of_pos hblank, List.dropWhile_cons_of_neg (by simp [hc])]

theorem not_isSpace_of_isDigit {c : Char} (hc : c.isDigit = true) : isSpace c = false := by
  by_contra hspace
  simp only [isSpace, Bool.not_eq_false, Bool.or_eq_true, beq_iff_eq] at hspace
  rcases hspace with ((rfl | rfl) | rfl) | rfl <;> cases hc

theorem ends_append {blank : List Char} (hblank : Blank blank) {rest : List Char}
    (hrest : Ends rest) : Ends (blank ++ rest) := by
  cases blank with
  | nil => exact hrest
  | cons c blank =>
      have hspace : isSpace c = true := hblank c List.mem_cons_self
      simp only [isSpace, Bool.or_eq_true, beq_iff_eq] at hspace
      apply ends_cons
      rcases hspace with ((rfl | rfl) | rfl) | rfl <;> decide

/-- A layout that puts white space only where it may stand. -/
structure Layout.Blank (layout : Layout) : Prop where
  lineStart : ∀ level, Json.Blank (layout.lineStart level)
  afterColon : Json.Blank layout.afterColon

theorem Layout.blank_compact : Layout.compact.Blank :=
  ⟨fun _ => blank_nil, blank_nil⟩

theorem Layout.blank_indented : Layout.indented.Blank := by
  refine ⟨fun level c hc => ?_, fun c hc => ?_⟩
  · rcases List.mem_cons.mp hc with rfl | hc
    · rfl
    · rw [List.eq_of_mem_replicate hc]
      rfl
  · rw [List.mem_singleton.mp hc]
    rfl

/-! ## Trees -/

/-- A tree whose strings are texts and whose numerals keep to the grammar. -/
inductive Tree.Writable : Tree → Prop
  | null : Writable .null
  | bool (b : Bool) : Writable (.bool b)
  | number {n : Numeral} : n.Valid → Writable (.number n)
  | string (s : String) : Writable (.string (some s))
  | array {items : List Tree} : (∀ item ∈ items, Writable item) → Writable (.array items)
  | object {members : List (Option String × Tree)} :
      (∀ member ∈ members, member.1.isSome = true) → (∀ member ∈ members, Writable member.2) →
      Writable (.object members)

theorem writable_text (s : String) : (Tree.text s).Writable := .string s

theorem writable_ofNat (n : Nat) : (Tree.ofNat n).Writable := .number (Numeral.valid_ofNat n)

theorem writable_array {α : Type} {toTree : α → Tree} {items : List α}
    (h : ∀ item ∈ items, (toTree item).Writable) : (Tree.array (items.map toTree)).Writable := by
  apply Tree.Writable.array
  intro t ht
  obtain ⟨item, hitem, rfl⟩ := List.mem_map.mp ht
  exact h item hitem

theorem writable_object {α : Type} {toTree : α → Tree} {entries : List (String × α)}
    (h : ∀ entry ∈ entries, (toTree entry.2).Writable) :
    (Tree.object (entries.map fun entry => (some entry.1, toTree entry.2))).Writable := by
  apply Tree.Writable.object
  · intro member hmember
    obtain ⟨entry, -, rfl⟩ := List.mem_map.mp hmember
    rfl
  · intro member hmember
    obtain ⟨entry, hentry, rfl⟩ := List.mem_map.mp hmember
    exact h entry hentry

theorem writable_fields {members : List (String × Tree)}
    (h : ∀ member ∈ members, member.2.Writable) : (Tree.fields members).Writable :=
  @writable_object Tree id members h

variable {layout : Layout}

/-- What is written of a tree starts with something that is neither space nor a closing bracket. -/
theorem Tree.Writable.exists_chars_eq_cons {t : Tree} (h : t.Writable) (layout : Layout)
    (level : Nat) :
    ∃ c cs, t.chars layout level = c :: cs ∧ isSpace c = false ∧ c ≠ ']' := by
  cases h with
  | null => exact ⟨'n', _, rfl, by decide⟩
  | bool b =>
      cases b with
      | true => exact ⟨'t', _, rfl, by decide⟩
      | false => exact ⟨'f', _, rfl, by decide⟩
  | number hn =>
      obtain ⟨c, cs, hchars, hc⟩ := Numeral.exists_chars_eq_cons hn
      refine ⟨c, cs, hchars, ?_⟩
      rcases hc with rfl | hc
      · decide
      · refine ⟨not_isSpace_of_isDigit hc, ?_⟩
        rintro rfl
        cases hc
  | string s => exact ⟨'"', _, rfl, by decide⟩
  | @array items _ =>
      cases items with
      | nil => exact ⟨'[', _, rfl, by decide⟩
      | cons item items => exact ⟨'[', _, rfl, by decide⟩
  | @object members _ _ =>
      cases members with
      | nil => exact ⟨'\x7b', _, rfl, by decide⟩
      | cons member members => exact ⟨'\x7b', _, rfl, by decide⟩

/-- A tree is read back wherever it is written, with as many steps as it has characters. -/
def ReadsBack (layout : Layout) (t : Tree) : Prop :=
  ∀ level fuel blank rest, Blank blank → Ends rest → (t.chars layout level).length ≤ fuel →
    scanValue? fuel (blank ++ (t.chars layout level ++ rest)) = some (t, rest)

/-- What starts like a number is read as one. -/
theorem scanValue?_number {c : Char} (hc : c = '-' ∨ c.isDigit = true) {blank : List Char}
    (hblank : Blank blank) (fuel : Nat) (cs : List Char) :
    scanValue? (fuel + 1) (blank ++ c :: cs) =
      (scanNumber? (c :: cs)).map fun (n, rest) => (.number n, rest) := by
  have hskip : skipSpace (blank ++ c :: cs) = c :: cs := by
    refine skipSpace_append hblank ?_ cs
    rcases hc with rfl | hc
    · decide
    · exact not_isSpace_of_isDigit hc
  have hother : ∀ d, d.isDigit = false → d ≠ '-' → c ≠ d := by
    rintro d hdigit hminus rfl
    rcases hc with rfl | hc
    · exact hminus rfl
    · rw [hc] at hdigit
      cases hdigit
  rw [scanValue?, hskip]
  split
  · rename_i heq
    cases heq
  · rename_i heq
    exact absurd (List.cons.inj heq).1 (hother 'n' (by decide) (by decide))
  · rename_i heq
    exact absurd (List.cons.inj heq).1 (hother 't' (by decide) (by decide))
  · rename_i heq
    exact absurd (List.cons.inj heq).1 (hother 'f' (by decide) (by decide))
  · rename_i heq
    exact absurd (List.cons.inj heq).1 (hother '"' (by decide) (by decide))
  · rename_i heq
    exact absurd (List.cons.inj heq).1 (hother '[' (by decide) (by decide))
  · rename_i heq
    exact absurd (List.cons.inj heq).1 (hother '\x7b' (by decide) (by decide))
  · rfl

theorem readsBack_number {n : Numeral} (h : n.Valid) : ReadsBack layout (.number n) := by
  intro level fuel blank rest hblank hrest hfuel
  have hread := Numeral.scanNumber?_chars h hrest
  obtain ⟨c, cs, hchars, hc⟩ := Numeral.exists_chars_eq_cons h
  change n.chars.length ≤ fuel at hfuel
  change scanValue? fuel (blank ++ (n.chars ++ rest)) = _
  rw [hchars] at hread hfuel ⊢
  obtain ⟨fuel, rfl⟩ := Nat.exists_eq_succ_of_ne_zero (Nat.ne_zero_of_lt hfuel)
  rw [List.cons_append, scanValue?_number hc hblank]
  rw [List.cons_append] at hread
  rw [hread]
  rfl

/-- Something longer than nothing takes a step. -/
theorem exists_fuel_succ {cs : List Char} {c : Char} {fuel : Nat} (h : (c :: cs).length ≤ fuel) :
    ∃ less, fuel = less + 1 ∧ cs.length ≤ less := by
  rw [List.length_cons] at h
  exact ⟨fuel - 1, by omega, by omega⟩

theorem readsBack_string (s : String) : ReadsBack layout (.string (some s)) := by
  intro level fuel blank rest hblank hrest hfuel
  change scanValue? fuel (blank ++ (quote s ++ rest)) = _
  obtain ⟨fuel, rfl, -⟩ := exists_fuel_succ hfuel
  rw [quote, List.cons_append, List.append_assoc, scanValue?,
    skipSpace_append hblank (by decide)]
  change (scanString [] true (s.toList.flatMap escape ++ '"' :: rest)).map _ = _
  rw [scanString_quote]
  rfl

section

variable (hlayout : layout.Blank) {level : Nat} {close : List Char} (hclose : Blank close)
include hlayout hclose

/-- The items of an array are read back up to the bracket behind them. -/
theorem scanItems?_chars {item : Tree} {items : List Tree}
    (hitems : ∀ t ∈ item :: items, ReadsBack layout t) {fuel : Nat} {blank : List Char}
    (hblank : Blank blank)
    (hfuel : (item.chars layout level).length + (itemChars layout level items).length < fuel)
    (rest : List Char) :
    scanItems? fuel (blank ++ (item.chars layout level ++
        (itemChars layout level items ++ (close ++ ']' :: rest)))) =
      some (item :: items, rest) := by
  -- the comma in front of each further item pays for the step that reads it
  induction items generalizing item fuel blank with
  | nil =>
      obtain ⟨fuel, rfl⟩ := Nat.exists_eq_succ_of_ne_zero (Nat.ne_zero_of_lt hfuel)
      have hends : Ends (close ++ ']' :: rest) := ends_append hclose (ends_cons (by decide) rest)
      have hvalue := hitems item List.mem_cons_self level fuel blank _ hblank hends (by omega)
      rw [scanItems?, itemChars, List.nil_append, hvalue]
      dsimp only
      rw [skipSpace_append hclose (by decide)]
      rfl
  | cons next items ih =>
      obtain ⟨fuel, rfl⟩ := Nat.exists_eq_succ_of_ne_zero (Nat.ne_zero_of_lt hfuel)
      have hends : Ends (itemChars layout level (next :: items) ++ (close ++ ']' :: rest)) :=
        ends_cons (by decide) _
      have hvalue := hitems item List.mem_cons_self level fuel blank _ hblank hends (by omega)
      have hlength : (next.chars layout level).length + (itemChars layout level items).length <
          fuel := by
        simp only [itemChars, List.length_cons, List.length_append] at hfuel
        omega
      have hrest := ih (fun t ht => hitems t (List.mem_cons_of_mem _ ht)) (hlayout.lineStart level)
        hlength
      rw [scanItems?, hvalue]
      dsimp only
      rw [itemChars, List.cons_append, ← List.nil_append (',' :: _),
        skipSpace_append blank_nil (by decide)]
      simp only [List.append_assoc, hrest, Option.map_some]

omit hlayout hclose in
/-- A member in front of a comma is followed by more. -/
theorem scanMembers?_more (key : String) {blank : List Char} (hblank : Blank blank) {fuel : Nat}
    {value : Tree} {cs rest more : List Char} (hvalue : scanValue? fuel cs = some (value, rest))
    (hcomma : skipSpace rest = ',' :: more) :
    scanMembers? (fuel + 1) (blank ++ (quote key ++ ':' :: cs)) =
      (scanMembers? fuel more).map fun (members, rest) => ((some key, value) :: members, rest) := by
  have hcolon : skipSpace (':' :: cs) = ':' :: cs := skipSpace_append blank_nil (by decide) cs
  rw [scanMembers?, quote, List.cons_append, List.append_assoc,
    skipSpace_append hblank (by decide)]
  simp only [List.cons_append, List.nil_append, scanString_quote, hcolon, hvalue, hcomma]

omit hlayout hclose in
/-- A member in front of a brace is the last. -/
theorem scanMembers?_last (key : String) {blank : List Char} (hblank : Blank blank) {fuel : Nat}
    {value : Tree} {cs rest more : List Char} (hvalue : scanValue? fuel cs = some (value, rest))
    (hbrace : skipSpace rest = '\x7d' :: more) :
    scanMembers? (fuel + 1) (blank ++ (quote key ++ ':' :: cs)) =
      some ([(some key, value)], more) := by
  have hcolon : skipSpace (':' :: cs) = ':' :: cs := skipSpace_append blank_nil (by decide) cs
  rw [scanMembers?, quote, List.cons_append, List.append_assoc,
    skipSpace_append hblank (by decide)]
  simp only [List.cons_append, List.nil_append, scanString_quote, hcolon, hvalue, hbrace]

/-- The members of an object are read back up to the brace behind them. -/
theorem scanMembers?_chars (key : String) {value : Tree} {members : List (Option String × Tree)}
    (hkeys : ∀ member ∈ members, member.1.isSome = true) (hvalue : ReadsBack layout value)
    (hvalues : ∀ member ∈ members, ReadsBack layout member.2) {fuel : Nat} {blank : List Char}
    (hblank : Blank blank)
    (hfuel : (value.chars layout level).length + (memberChars layout level members).length < fuel)
    (rest : List Char) :
    scanMembers? fuel (blank ++ (quote key ++ (':' :: (layout.afterColon ++
        (value.chars layout level ++ (memberChars layout level members ++
          (close ++ '\x7d' :: rest))))))) =
      some ((some key, value) :: members, rest) := by
  induction members generalizing key value fuel blank with
  | nil =>
      obtain ⟨fuel, rfl⟩ := Nat.exists_eq_succ_of_ne_zero (Nat.ne_zero_of_lt hfuel)
      have hends : Ends (close ++ '\x7d' :: rest) := ends_append hclose (ends_cons (by decide) rest)
      have hread := hvalue level fuel layout.afterColon _ hlayout.afterColon hends (by omega)
      exact scanMembers?_last key hblank hread (skipSpace_append hclose (by decide) rest)
  | cons next members ih =>
      obtain ⟨nextKey, nextValue⟩ := next
      obtain ⟨fuel, rfl⟩ := Nat.exists_eq_succ_of_ne_zero (Nat.ne_zero_of_lt hfuel)
      obtain ⟨nextKey, rfl⟩ := Option.isSome_iff_exists.mp (hkeys _ List.mem_cons_self)
      have hends : Ends (memberChars layout level ((some nextKey, nextValue) :: members) ++
          (close ++ '\x7d' :: rest)) := ends_cons (by decide) _
      have hread := hvalue level fuel layout.afterColon _ hlayout.afterColon hends (by omega)
      have hlength : (nextValue.chars layout level).length +
          (memberChars layout level members).length < fuel := by
        simp only [memberChars, List.length_cons, List.length_append] at hfuel
        omega
      have hrest := ih nextKey (fun member hm => hkeys member (List.mem_cons_of_mem _ hm))
        (hvalues _ List.mem_cons_self)
        (fun member hm => hvalues member (List.mem_cons_of_mem _ hm)) (hlayout.lineStart level)
        hlength
      rw [memberChars, List.cons_append] at hread ⊢
      rw [scanMembers?_more key hblank hread (skipSpace_append blank_nil (by decide) _)]
      simp only [Option.getD_some, List.append_assoc, List.cons_append, hrest, Option.map_some]

end

theorem readsBack_array (hlayout : layout.Blank) {items : List Tree}
    (hwritable : ∀ t ∈ items, t.Writable) (hitems : ∀ t ∈ items, ReadsBack layout t) :
    ReadsBack layout (.array items) := by
  intro level fuel blank rest hblank hrest hfuel
  cases items with
  | nil =>
      obtain ⟨fuel, rfl, -⟩ := exists_fuel_succ hfuel
      change scanValue? (fuel + 1) (blank ++ '[' :: ']' :: rest) = _
      rw [scanValue?, skipSpace_append hblank (by decide)]
      rfl
  | cons item items =>
      obtain ⟨fuel, rfl, hless⟩ := exists_fuel_succ hfuel
      have hlength : (item.chars layout (level + 1)).length +
          (itemChars layout (level + 1) items).length < fuel := by
        simp only [List.length_append, List.length_singleton] at hless
        omega
      have hread := scanItems?_chars hlayout (hlayout.lineStart level) hitems blank_nil hlength rest
      -- the bracket is not closed at once, because an item comes first
      obtain ⟨c, cs, hcons, hspace, hbracket⟩ :=
        (hwritable item List.mem_cons_self).exists_chars_eq_cons layout (level + 1)
      have hskip := skipSpace_append (hlayout.lineStart (level + 1)) hspace
        (cs ++ (itemChars layout (level + 1) items ++ (layout.lineStart level ++ ']' :: rest)))
      change scanValue? (fuel + 1) (blank ++ '[' :: (layout.lineStart (level + 1) ++
        item.chars layout (level + 1) ++ itemChars layout (level + 1) items ++
          layout.lineStart level ++ [']'] ++ rest)) = _
      rw [scanValue?, skipSpace_append hblank (by decide)]
      simp only [List.append_assoc, List.nil_append, hcons, List.cons_append] at hread ⊢
      rw [hskip]
      split
      · rename_i heq
        exact absurd (List.cons.inj heq).1 hbracket
      · rw [hread]
        rfl

theorem readsBack_object (hlayout : layout.Blank) {members : List (Option String × Tree)}
    (hkeys : ∀ member ∈ members, member.1.isSome = true)
    (hvalues : ∀ member ∈ members, ReadsBack layout member.2) :
    ReadsBack layout (.object members) := by
  intro level fuel blank rest hblank hrest hfuel
  cases members with
  | nil =>
      obtain ⟨fuel, rfl, -⟩ := exists_fuel_succ hfuel
      change scanValue? (fuel + 1) (blank ++ '\x7b' :: '\x7d' :: rest) = _
      rw [scanValue?, skipSpace_append hblank (by decide)]
      rfl
  | cons member members =>
      obtain ⟨key, value⟩ := member
      obtain ⟨key, rfl⟩ := Option.isSome_iff_exists.mp (hkeys _ List.mem_cons_self)
      obtain ⟨fuel, rfl, hless⟩ := exists_fuel_succ hfuel
      have hlength : (value.chars layout (level + 1)).length +
          (memberChars layout (level + 1) members).length < fuel := by
        simp only [List.length_append, List.length_cons] at hless
        omega
      have hread := scanMembers?_chars hlayout (hlayout.lineStart level) key
        (fun member hm => hkeys member (List.mem_cons_of_mem _ hm))
        (hvalues _ List.mem_cons_self)
        (fun member hm => hvalues member (List.mem_cons_of_mem _ hm)) blank_nil hlength rest
      change scanValue? (fuel + 1) (blank ++ '\x7b' :: (layout.lineStart (level + 1) ++
        quote key ++ ':' :: layout.afterColon ++ value.chars layout (level + 1) ++
          memberChars layout (level + 1) members ++ layout.lineStart level ++ ['\x7d'] ++ rest)) = _
      rw [scanValue?, skipSpace_append hblank (by decide)]
      simp only [List.append_assoc, List.nil_append, List.cons_append, quote] at hread ⊢
      rw [skipSpace_append (hlayout.lineStart (level + 1)) (by decide)]
      change (scanMembers? fuel _).map _ = _
      rw [hread]
      rfl

/-- A tree that can be written is read back. -/
theorem Tree.Writable.readsBack (hlayout : layout.Blank) {t : Tree} (h : t.Writable) :
    ReadsBack layout t := by
  induction h with
  | null =>
      intro level fuel blank rest hblank hrest hfuel
      obtain ⟨fuel, rfl, -⟩ := exists_fuel_succ hfuel
      change scanValue? (fuel + 1) (blank ++ 'n' :: 'u' :: 'l' :: 'l' :: rest) = _
      rw [scanValue?, skipSpace_append hblank (by decide)]
      rfl
  | bool b =>
      intro level fuel blank rest hblank hrest hfuel
      cases b with
      | true =>
          obtain ⟨fuel, rfl, -⟩ := exists_fuel_succ hfuel
          change scanValue? (fuel + 1) (blank ++ 't' :: 'r' :: 'u' :: 'e' :: rest) = _
          rw [scanValue?, skipSpace_append hblank (by decide)]
          rfl
      | false =>
          obtain ⟨fuel, rfl, -⟩ := exists_fuel_succ hfuel
          change scanValue? (fuel + 1) (blank ++ 'f' :: 'a' :: 'l' :: 's' :: 'e' :: rest) = _
          rw [scanValue?, skipSpace_append hblank (by decide)]
          rfl
  | number hn => exact readsBack_number hn
  | string s => exact readsBack_string s
  | array hitems ih => exact readsBack_array hlayout hitems ih
  | object hkeys hvalues ih => exact readsBack_object hlayout hkeys ih

/-- A tree that can be written is read back from its text. -/
theorem Tree.Writable.ofText?_render (hlayout : layout.Blank) {t : Tree} (h : t.Writable) :
    Tree.ofText? (t.render layout) = some t := by
  have hfuel : (t.chars layout 0).length ≤ scanFuel (t.chars layout 0) := by
    unfold scanFuel
    omega
  have hread := h.readsBack hlayout 0 _ [] [] blank_nil ends_nil hfuel
  rw [List.nil_append, List.append_nil] at hread
  unfold Tree.ofText? Tree.render
  rw [String.toList_ofList]
  dsimp only
  rw [hread]
  rfl

end ScriptGraph.Json
