import Mathlib.Data.List.Basic
import MapServices.Json.Parser

/-!
# Values and their text

A value is read back from its text, if its string literals have texts and its numbers are written as
the grammar of JSON wants it.

* `readLiteral_escaped`: a string literal is read back, whatever its characters are.
* `readNumber_append`: a number ends where the grammar says so.
* `parse?_print`: the whole text of a value is read as that value.
-/

namespace MapServices.Json

/-! ## String literals -/

/-- How a character of a written literal is read: control characters without a short escape are
written by their number. -/
def pieceOf (c : Char) : Piece :=
  if c.toNat < 0x20 ∧ c ∉ ['\x08', '\x0c', '\n', '\r', '\t'] then .unit c.toNat else .char c

theorem unit?_digitChar {n : Nat} (h : n < 0x20) :
    unit? '0' '0' (Nat.digitChar (n / 16)) (Nat.digitChar (n % 16)) = some n := by
  revert n
  decide

theorem readPieces_escapedChar (c : Char) (s : List Char) :
    readPieces (escapedChar c ++ s) = (readPieces s).map fun r => (pieceOf c :: r.1, r.2) := by
  have hbind : ∀ p : Piece, ((readPieces s).bind fun r => some (p :: r.1, r.2)) =
      (readPieces s).map fun r => (p :: r.1, r.2) := by
    intro p
    cases readPieces s <;> rfl
  unfold escapedChar
  split
  -- the characters with a short escape
  iterate 7 exact hbind _
  rename_i hquote hslash hb hf hn hr ht
  split
  · rename_i hcontrol
    have hpiece : pieceOf c = .unit c.toNat := by
      refine if_pos ⟨hcontrol, ?_⟩
      simp only [List.mem_cons, List.not_mem_nil, or_false, not_or]
      exact ⟨hb, hf, hn, hr, ht⟩
    rw [hpiece, ← hbind]
    simp only [List.cons_append, List.nil_append, readPieces, unit?_digitChar hcontrol]
    rfl
  · rename_i hcontrol
    have hpiece : pieceOf c = .char c := if_neg fun h => hcontrol h.1
    rw [hpiece, List.singleton_append, readPieces.eq_def]
    split
    · rename_i heq
      exact absurd (List.cons.inj heq).1 hquote
    · rename_i heq
      exact absurd (List.cons.inj heq).1 hslash
    · rename_i heq
      exact absurd (List.cons.inj heq).1 hslash
    · rename_i heq
      obtain ⟨rfl, rfl⟩ := List.cons.inj heq
      refine (if_neg ?_).trans (hbind (.char c))
      simp only [Bool.or_eq_true, decide_eq_true_eq, not_or]
      exact ⟨hcontrol, hslash⟩
    · rename_i heq
      cases heq

theorem readPieces_escaped (s rest : List Char) :
    readPieces (s.flatMap escapedChar ++ '"' :: rest) = some (s.map pieceOf, rest) := by
  induction s with
  | nil => simp [readPieces]
  | cons c s ih =>
    rw [List.flatMap_cons, List.append_assoc, readPieces_escapedChar, ih]
    rfl

theorem join?_unit {n : Nat} (h : n < 0xD800) (pieces : List Piece) :
    join? (.unit n :: pieces) = (join? pieces).map (Char.ofNat n :: ·) := by
  have hhigh : ¬ 0xD800 ≤ n := by omega
  have hlow : ¬ 0xDC00 ≤ n := by omega
  rw [join?.eq_def]
  split
  · rename_i heq
    cases heq
  · rename_i heq
    cases heq
  · rename_i heq
    cases heq
    simp [hhigh, hlow]
  · rename_i heq
    cases heq
    simp [hhigh]

theorem join?_pieceOf (s : List Char) : join? (s.map pieceOf) = some s := by
  induction s with
  | nil => rfl
  | cons c s ih =>
    rw [List.map_cons, pieceOf]
    split
    · rename_i hcontrol
      rw [join?_unit (by omega), ih, Option.map_some, Char.ofNat_toNat]
    · rw [join?, ih, Option.map_some]

theorem readLiteral_escaped (s : String) (rest : List Char) :
    readLiteral (s.toList.flatMap escapedChar ++ '"' :: rest) = some (some s, rest) := by
  simp [readLiteral, readPieces_escaped, join?_pieceOf]

/-! ## Numbers -/

/-- Digits, of which there is one at least. -/
def IsDigits (s : List Char) : Prop := s ≠ [] ∧ ∀ c ∈ s, c.isDigit

/-- Digits that do not start with a zero, or a zero alone. -/
def IsWhole (s : List Char) : Prop := s = ['0'] ∨ (IsDigits s ∧ s.head? ≠ some '0')

/-- A point and digits, or nothing. -/
def IsFraction (s : List Char) : Prop := s = [] ∨ ∃ digits, IsDigits digits ∧ s = '.' :: digits

/-- An exponent with a sign, or nothing. -/
def IsExponent (s : List Char) : Prop :=
  s = [] ∨ ∃ sign digits, sign ∈ ['+', '-'] ∧ IsDigits digits ∧ s = 'e' :: sign :: digits

/-- A number in the grammar of JSON. -/
inductive IsNumber : List Char → Prop where
  | mk {sign whole fraction exponent : List Char} (hsign : sign = [] ∨ sign = ['-'])
      (hwhole : IsWhole whole) (hfraction : IsFraction fraction)
      (hexponent : IsExponent exponent) :
      IsNumber (sign ++ whole ++ fraction ++ exponent)

/-- The text stands behind a value: it is at its end, or goes on with a comma or a bracket. -/
def Follows (s : List Char) : Prop := ∀ c ∈ s.head?, c ∈ [',', ']', '\x7d']

/-- The text does not go on with a digit. -/
def NoDigit (s : List Char) : Prop := ∀ c ∈ s.head?, c.isDigit = false

variable {digits whole fraction exponent s rest : List Char}

theorem Follows.noDigit (h : Follows s) : NoDigit s := by
  intro c hc
  have hmem := h c hc
  simp only [List.mem_cons, List.not_mem_nil, or_false] at hmem
  rcases hmem with rfl | rfl | rfl <;> rfl

theorem IsExponent.noDigit (h : IsExponent exponent) (hrest : Follows rest) :
    NoDigit (exponent ++ rest) := by
  rcases h with rfl | ⟨sign, digits, -, -, rfl⟩
  · exact hrest.noDigit
  · rintro c ⟨⟩
    rfl

theorem IsFraction.noDigit (h : IsFraction fraction) (hrest : NoDigit rest) :
    NoDigit (fraction ++ rest) := by
  rcases h with rfl | ⟨digits, -, rfl⟩
  · exact hrest
  · rintro c ⟨⟩
    rfl

theorem readDigits1_append (h : IsDigits digits) (hrest : NoDigit rest) :
    readDigits1 (digits ++ rest) = some (digits, rest) := by
  obtain ⟨c, ds, rfl⟩ := List.exists_cons_of_ne_nil h.1
  have htake : rest.takeWhile Char.isDigit = [] := by
    cases rest with
    | nil => rfl
    | cons c rest => simp [hrest c rfl]
  have hdrop : rest.dropWhile Char.isDigit = rest := by
    cases rest with
    | nil => rfl
    | cons c rest => simp [hrest c rfl]
  rw [readDigits1, List.takeWhile_append_of_pos h.2, List.dropWhile_append_of_pos h.2, htake, hdrop,
    List.append_nil]

theorem readWhole_append (h : IsWhole whole) (hrest : NoDigit rest) :
    readWhole (whole ++ rest) = some (whole, rest) := by
  rcases h with rfl | ⟨hdigits, hzero⟩
  · rfl
  · rw [← readDigits1_append hdigits hrest, readWhole.eq_def]
    split
    · rename_i heq
      cases whole with
      | nil => exact absurd rfl hdigits.1
      | cons c whole =>
        obtain ⟨rfl, -⟩ := List.cons.inj heq
        exact absurd rfl hzero
    · rfl

theorem readFraction_append (h : IsFraction fraction) (hrest : NoDigit rest)
    (hpoint : rest.head? ≠ some '.') :
    readFraction (fraction ++ rest) = some (fraction, rest) := by
  rcases h with rfl | ⟨digits, hdigits, rfl⟩
  · rw [List.nil_append, readFraction.eq_def]
    split
    · exact absurd rfl hpoint
    · rfl
  · simp [readFraction, readDigits1_append hdigits hrest]

theorem readExponentPart_append (h : IsExponent exponent) (hrest : Follows rest) :
    readExponentPart (exponent ++ rest) = some (exponent, rest) := by
  rcases h with rfl | ⟨sign, digits, hsign, hdigits, rfl⟩
  · cases rest with
    | nil => rfl
    | cons c rest =>
      have hc := hrest c rfl
      simp only [List.mem_cons, List.not_mem_nil, or_false] at hc
      rcases hc with rfl | rfl | rfl <;> rfl
  · have hread : readExponentSign (sign :: (digits ++ rest)) = ([sign], digits ++ rest) := by
      simp only [List.mem_cons, List.not_mem_nil, or_false] at hsign
      rcases hsign with rfl | rfl <;> rfl
    simp [readExponentPart, hread, readDigits1_append hdigits hrest.noDigit]

theorem IsWhole.head (h : IsWhole whole) : ∃ c s, whole = c :: s ∧ c.isDigit := by
  rcases h with rfl | ⟨hdigits, -⟩
  · exact ⟨'0', [], rfl, rfl⟩
  · cases whole with
    | nil => exact absurd rfl hdigits.1
    | cons c s => exact ⟨c, s, rfl, hdigits.2 c List.mem_cons_self⟩

theorem readNumber_append (h : IsNumber s) (hrest : Follows rest) :
    readNumber (s ++ rest) = some (s, rest) := by
  obtain ⟨hsign, hwhole, hfraction, hexponent⟩ := h
  rename_i sign whole fraction exponent
  have hpoint : (exponent ++ rest).head? ≠ some '.' := by
    rcases hexponent with rfl | ⟨_, _, -, -, rfl⟩
    · intro h
      have hmem := hrest '.' h
      simp at hmem
    · simp
  have hend := hexponent.noDigit hrest
  obtain ⟨c, w, hw, hc⟩ := hwhole.head
  have hminus : c ≠ '-' := by
    rintro rfl
    cases hc
  have hread : ((readWhole (whole ++ (fraction ++ (exponent ++ rest)))).bind fun w =>
      (readFraction w.2).bind fun f => (readExponentPart f.2).bind fun e =>
        some (sign ++ w.1 ++ f.1 ++ e.1, e.2)) =
          some (sign ++ whole ++ fraction ++ exponent, rest) := by
    simp [readWhole_append hwhole (hfraction.noDigit hend),
      readFraction_append hfraction hend hpoint, readExponentPart_append hexponent hrest]
  have htail : sign ++ whole ++ fraction ++ exponent ++ rest =
      sign ++ (whole ++ (fraction ++ (exponent ++ rest))) := by simp
  rw [htail, ← hread]
  rcases hsign with rfl | rfl
  · rw [List.nil_append, hw, List.cons_append, readNumber.eq_def]
    split
    rename_i heq
    split at heq
    · rename_i hhead
      exact absurd (List.cons.inj hhead).1 hminus
    · cases heq
      rfl
  · rfl

/-! ## Values -/

/-- A value that is read back from its text: its numbers are in the grammar, and its literals have
texts. -/
inductive IsWritten : Json → Prop where
  | null : IsWritten .null
  | bool (value : Bool) : IsWritten (.bool value)
  | number {written : List Char} (h : IsNumber written) : IsWritten (.number written)
  | text (value : String) : IsWritten (.text (some value))
  | array {items : List Json} (h : ∀ x ∈ items, IsWritten x) : IsWritten (.array items)
  | object {fields : List (Option String × Json)} (hname : ∀ f ∈ fields, f.1.isSome)
      (h : ∀ f ∈ fields, IsWritten f.2) : IsWritten (.object fields)

/-- The value is read from its text, when the calls may be as deep as the text needs. -/
def ReadsBack (j : Json) : Prop :=
  ∀ depth rest, 2 * j.chars.length < depth → Follows rest →
    readValue depth (j.chars ++ rest) = some (j, rest)

theorem ReadsBack.of_add_one {j : Json}
    (h : ∀ depth rest, 2 * j.chars.length ≤ depth → Follows rest →
      readValue (depth + 1) (j.chars ++ rest) = some (j, rest)) : j.ReadsBack := by
  intro depth rest hdepth hrest
  obtain ⟨d, rfl⟩ := Nat.exists_eq_add_one_of_ne_zero (Nat.ne_zero_of_lt hdepth)
  exact h d rest (Nat.le_of_lt_succ hdepth) hrest

theorem skipSpace_cons {c : Char} (h : isSpace c = false) (s : List Char) :
    skipSpace (c :: s) = c :: s := by
  simp [skipSpace, h]

/-- What a number starts with. -/
def StartsNumber (c : Char) : Prop := c = '-' ∨ c.isDigit

theorem StartsNumber.ne {c c' : Char} (h : StartsNumber c) (hminus : c' ≠ '-')
    (hdigit : c'.isDigit = false) : c ≠ c' := by
  rintro rfl
  rcases h with rfl | h
  · exact hminus rfl
  · rw [h] at hdigit
    cases hdigit

theorem StartsNumber.isSpace {c : Char} (h : StartsNumber c) : isSpace c = false := by
  have hblank : c ≠ ' ' := h.ne (by decide) rfl
  have hline : c ≠ '\n' := h.ne (by decide) rfl
  have htab : c ≠ '\t' := h.ne (by decide) rfl
  have hreturn : c ≠ '\r' := h.ne (by decide) rfl
  simp [Json.isSpace, hblank, hline, htab, hreturn]

theorem IsNumber.head (h : IsNumber s) : ∃ c w, s = c :: w ∧ StartsNumber c := by
  obtain ⟨hsign, hwhole, -, -⟩ := h
  rcases hsign with rfl | rfl
  · obtain ⟨c, w, rfl, hc⟩ := hwhole.head
    exact ⟨c, _, rfl, .inr hc⟩
  · exact ⟨'-', _, rfl, .inl rfl⟩

theorem readsBack_number (h : IsNumber s) : ReadsBack (.number s) := by
  refine .of_add_one fun d rest _ hrest => ?_
  obtain ⟨c, w, rfl, hc⟩ := h.head
  have hread := readNumber_append h hrest
  rw [chars, List.cons_append, readValue.eq_def]
  simp only [skipSpace_cons hc.isSpace]
  -- no other kind of value starts with a minus or a digit
  split
  iterate 6
    rename_i heq
    exact absurd (List.cons.inj heq).1 (hc.ne (by decide) rfl)
  rw [List.cons_append] at hread
  rw [hread]
  rfl

/-- What a value starts with is neither white space nor the end of a list. -/
theorem IsWritten.head {j : Json} (h : j.IsWritten) :
    ∃ c w, j.chars = c :: w ∧ isSpace c = false ∧ c ≠ ']' := by
  cases h with
  | null => exact ⟨'n', _, rfl, rfl, by decide⟩
  | bool value => cases value <;> exact ⟨_, _, rfl, rfl, by decide⟩
  | number h =>
    obtain ⟨c, w, hs, hc⟩ := h.head
    exact ⟨c, w, hs, hc.isSpace, hc.ne (by decide) rfl⟩
  | text value => exact ⟨'"', _, rfl, rfl, by decide⟩
  | array h => exact ⟨'[', _, rfl, rfl, by decide⟩
  | object hname h => exact ⟨'\x7b', _, rfl, rfl, by decide⟩

theorem readItems_itemChars {items : List Json} (h : ∀ x ∈ items, ReadsBack x) (hne : items ≠ [])
    {n : Nat} (hn : 2 * (itemChars items).length + 1 < n) (rest : List Char) :
    readItems n (itemChars items ++ ']' :: rest) = some (items, rest) := by
  induction items generalizing n with
  | nil => exact absurd rfl hne
  | cons x items ih =>
    -- each item takes one call, which the comma in front of the next item pays for
    obtain ⟨d, rfl⟩ := Nat.exists_eq_add_one_of_ne_zero (Nat.ne_zero_of_lt hn)
    have hx := h x List.mem_cons_self
    cases items with
    | nil =>
      simp only [itemChars] at hn ⊢
      rw [readItems, hx d _ (by omega) (by simp [Follows])]
      rfl
    | cons y items =>
      simp only [itemChars, List.length_append, List.length_cons] at hn ⊢
      rw [List.append_assoc, List.cons_append, readItems, hx d _ (by omega) (by simp [Follows])]
      have hrest := ih (fun z hz => h z (List.mem_cons_of_mem _ hz)) (List.cons_ne_nil _ _)
        (n := d) (by omega)
      simp [skipSpace_cons, isSpace, hrest]

theorem literal_append (name : String) (rest : List Char) :
    literal (some name) ++ rest = '"' :: (name.toList.flatMap escapedChar ++ '"' :: rest) := by
  have hliteral : literal (some name) = '"' :: name.toList.flatMap escapedChar ++ ['"'] := rfl
  rw [hliteral, List.append_assoc, List.cons_append]
  rfl

/-- A field is read, and then what stands behind it decides. -/
theorem readFields_field {x : Json} (hx : x.ReadsBack) {d : Nat} (hdepth : 2 * x.chars.length < d)
    (name : String) (hrest : Follows rest) :
    readFields (d + 1) (literal (some name) ++ ':' :: (x.chars ++ rest)) =
      match skipSpace rest with
      | '\x7d' :: s => some ([(some name, x)], s)
      | ',' :: s => do
        let (fields, s) ← readFields d s
        return ((some name, x) :: fields, s)
      | _ => none := by
  have hliteral := readLiteral_escaped name (':' :: (x.chars ++ rest))
  have hcolon : skipSpace (':' :: (x.chars ++ rest)) = ':' :: (x.chars ++ rest) := rfl
  rw [literal_append, readFields, skipSpace_cons rfl]
  simp only [hliteral, Option.bind_eq_bind, Option.bind_some, hcolon, hx d rest hdepth hrest]
  rfl

theorem readFields_fieldChars {fields : List (Option String × Json)}
    (hname : ∀ f ∈ fields, f.1.isSome) (h : ∀ f ∈ fields, ReadsBack f.2) (hne : fields ≠ [])
    {n : Nat} (hn : 2 * (fieldChars fields).length + 1 < n) (rest : List Char) :
    readFields n (fieldChars fields ++ '\x7d' :: rest) = some (fields, rest) := by
  induction fields generalizing n with
  | nil => exact absurd rfl hne
  | cons f fields ih =>
    obtain ⟨d, rfl⟩ := Nat.exists_eq_add_one_of_ne_zero (Nat.ne_zero_of_lt hn)
    obtain ⟨name, x⟩ := f
    obtain ⟨name, rfl⟩ := Option.isSome_iff_exists.1 (hname _ List.mem_cons_self)
    have hx : x.ReadsBack := h _ List.mem_cons_self
    cases fields with
    | nil =>
      simp only [fieldChars, List.length_append, List.length_cons] at hn
      rw [fieldChars, List.append_assoc, List.cons_append,
        readFields_field hx (by omega) name (by simp [Follows])]
      rfl
    | cons g fields =>
      simp only [fieldChars, List.length_append, List.length_cons] at hn
      have hrest := ih (fun z hz => hname z (List.mem_cons_of_mem _ hz))
        (fun z hz => h z (List.mem_cons_of_mem _ hz)) (List.cons_ne_nil _ _)
        (n := d) (by omega)
      have htail : fieldChars ((some name, x) :: g :: fields) ++ '\x7d' :: rest =
          literal (some name) ++
            ':' :: (x.chars ++ ',' :: (fieldChars (g :: fields) ++ '\x7d' :: rest)) := by
        simp [fieldChars]
      rw [htail, readFields_field hx (by omega) name (by simp [Follows]), skipSpace_cons rfl]
      simp only [hrest]
      rfl

theorem readsBack_text (value : String) : ReadsBack (.text (some value)) := by
  refine .of_add_one fun d rest _ _ => ?_
  rw [chars, literal_append, readValue, skipSpace_cons rfl]
  simp only [readLiteral_escaped]
  rfl

theorem itemChars_cons {x : Json} {c : Char} {w : List Char} (h : x.chars = c :: w)
    (items : List Json) : ∃ w', itemChars (x :: items) = c :: w' := by
  cases items with
  | nil => exact ⟨w, h⟩
  | cons y items => exact ⟨w ++ ',' :: itemChars (y :: items), by rw [itemChars, h]; rfl⟩

theorem fieldChars_cons {f : Option String × Json} (h : f.1.isSome)
    (fields : List (Option String × Json)) : ∃ w, fieldChars (f :: fields) = '"' :: w := by
  obtain ⟨name, x⟩ := f
  obtain ⟨name, rfl⟩ := Option.isSome_iff_exists.1 h
  cases fields with
  | nil => exact ⟨_, literal_append name _⟩
  | cons g fields =>
    rw [fieldChars, List.append_assoc]
    exact ⟨_, literal_append name _⟩

theorem readsBack_array {items : List Json} (hitems : ∀ x ∈ items, IsWritten x)
    (h : ∀ x ∈ items, ReadsBack x) : ReadsBack (.array items) := by
  refine .of_add_one fun d rest hdepth _ => ?_
  have htext : chars (.array items) ++ rest = '[' :: (itemChars items ++ ']' :: rest) := by
    simp [chars]
  rw [htext, readValue, skipSpace_cons rfl]
  cases items with
  | nil => rfl
  | cons x items =>
    simp only [chars, List.length_append, List.length_cons] at hdepth
    have hread := readItems_itemChars h (List.cons_ne_nil x items) (n := d) (by omega) rest
    -- the list is not taken for an empty one
    obtain ⟨c, w, hc, hspace, hbracket⟩ := (hitems x List.mem_cons_self).head
    obtain ⟨w', hw'⟩ := itemChars_cons hc items
    rw [hw', List.cons_append] at hread ⊢
    simp only [skipSpace_cons hspace]
    split
    · rename_i heq
      exact absurd (List.cons.inj heq).1 hbracket
    · rw [hread]
      rfl

theorem readsBack_object {fields : List (Option String × Json)} (hname : ∀ f ∈ fields, f.1.isSome)
    (h : ∀ f ∈ fields, ReadsBack f.2) : ReadsBack (.object fields) := by
  refine .of_add_one fun d rest hdepth _ => ?_
  have htext : chars (.object fields) ++ rest =
      '\x7b' :: (fieldChars fields ++ '\x7d' :: rest) := by
    simp [chars]
  rw [htext, readValue, skipSpace_cons rfl]
  cases fields with
  | nil => rfl
  | cons f fields =>
    simp only [chars, List.length_append, List.length_cons] at hdepth
    have hread := readFields_fieldChars hname h (List.cons_ne_nil f fields) (n := d)
      (by omega) rest
    obtain ⟨w, hw⟩ := fieldChars_cons (hname f List.mem_cons_self) fields
    rw [hw, List.cons_append] at hread ⊢
    have hspace : skipSpace ('"' :: (w ++ '\x7d' :: rest)) = '"' :: (w ++ '\x7d' :: rest) := rfl
    simp only [hspace]
    exact congrArg (fun r => r.bind fun r => some (object r.1, r.2)) hread

theorem IsWritten.readsBack {j : Json} (h : j.IsWritten) : j.ReadsBack := by
  induction h with
  | null => exact .of_add_one fun d rest _ _ => rfl
  | bool value =>
    refine .of_add_one fun d rest _ _ => ?_
    cases value <;> rfl
  | number h => exact readsBack_number h
  | text value => exact readsBack_text value
  | array h ih => exact readsBack_array h ih
  | object hname h ih => exact readsBack_object hname ih

theorem parse?_print {j : Json} (h : j.IsWritten) : parse? j.print = some j := by
  have hread := h.readsBack (2 * j.chars.length + 2) [] (by omega) (by simp [Follows])
  rw [List.append_nil] at hread
  simp [parse?, print, parseChars?, hread, skipSpace]

end MapServices.Json
