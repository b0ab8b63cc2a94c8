import MapServices.Proofs.Url.Split
import MapServices.Proofs.Xml.Entity
import MapServices.Xml.Markup

/-!
# How a tree may be written

A tree has many spellings: every name in it may stand behind a namespace part of its own,
namespaces may be declared in any tag, and an element without content may be one tag or two.
`Spells` allows for all of them, and `IsPlain` says of which trees a document can give everything
back.

* `Markup.spells`: a tree that is written in one way throughout is spelled.
-/

namespace MapServices.Xml

variable {s part key : List Char} {name : String}

/-! ### Names -/

/-- Code points of the characters with which a name may begin, but for the colon. -/
def nameStartRanges : List (Nat × Nat) :=
  [(0x41, 0x5A), (0x5F, 0x5F), (0x61, 0x7A), (0xC0, 0xD6), (0xD8, 0xF6), (0xF8, 0x2FF),
   (0x370, 0x37D), (0x37F, 0x1FFF), (0x200C, 0x200D), (0x2070, 0x218F), (0x2C00, 0x2FEF),
   (0x3001, 0xD7FF), (0xF900, 0xFDCF), (0xFDF0, 0xFFFD), (0x10000, 0xEFFFF)]

/-- Code points of the characters that may stand in a name, but for the colon. -/
def nameRanges : List (Nat × Nat) :=
  nameStartRanges ++ [(0x2D, 0x2E), (0x30, 0x39), (0xB7, 0xB7), (0x300, 0x36F), (0x203F, 0x2040)]

/-- Whether a name may begin with the character. -/
def isNameStart (c : Char) : Bool := Text.inRanges nameStartRanges c.toNat

/-- Whether the character may stand in a name without a colon. -/
def isNameChar (c : Char) : Bool := Text.inRanges nameRanges c.toNat

/-- Whether the text is a name without a colon. -/
def isName (s : List Char) : Bool := s.head?.any isNameStart && s.all isNameChar

/-- Whether the text is made like a name in which colons may stand. -/
def isQualified (s : List Char) : Bool :=
  s.head?.any isNameStart && s.all fun c => isNameChar c || c = ':'

theorem not_mem_of_isName (h : isName s) {c : Char} (hc : isNameChar c = false) : c ∉ s := by
  intro hmem
  rw [isName, Bool.and_eq_true, List.all_eq_true] at h
  rw [h.2 c hmem] at hc
  cases hc

theorem not_mem_of_isQualified (h : isQualified s) {c : Char} (hc : isNameChar c = false)
    (hcolon : c ≠ ':') : c ∉ s := by
  intro hmem
  rw [isQualified, Bool.and_eq_true, List.all_eq_true] at h
  simpa [hc, hcolon] using h.2 c hmem

theorem isQualified_of_isName (h : isName s) : isQualified s := by
  rw [isName, Bool.and_eq_true, List.all_eq_true] at h
  rw [isQualified, Bool.and_eq_true, List.all_eq_true]
  exact ⟨h.1, fun c hc => by simp [h.2 c hc]⟩

/-- The first character of a name is one with which names begin. -/
theorem exists_head_of_isQualified (h : isQualified s) : ∃ c t, s = c :: t ∧ isNameStart c := by
  rw [isQualified, Bool.and_eq_true] at h
  cases s with
  | nil => cases h.1
  | cons c t => exact ⟨c, t, rfl, h.1⟩

/-- A name as it may be written: by itself, or behind a namespace part. -/
inductive SpellsName (name : String) : List Char → Prop where
  | bare : SpellsName name name.toList
  | qualified {part : List Char} (hpart : isName part) :
    SpellsName name (part ++ ':' :: name.toList)

theorem SpellsName.isQualified (hname : isName name.toList) (h : SpellsName name s) :
    isQualified s := by
  cases h with
  | bare => exact isQualified_of_isName hname
  | qualified hpart =>
    rw [isName, Bool.and_eq_true, List.all_eq_true] at hname hpart
    rw [Xml.isQualified, Bool.and_eq_true, List.all_eq_true]
    refine ⟨?_, ?_⟩
    · rw [List.head?_append]
      obtain ⟨c, hc, hstart⟩ := (Option.any_eq_true _ _).1 hpart.1
      rw [hc]
      exact hstart
    · intro c hc
      rcases List.mem_append.1 hc with hc | hc
      · simp [hpart.2 c hc]
      · rcases List.mem_cons.1 hc with rfl | hc
        · simp
        · simp [hname.2 c hc]

/-- The namespace part is not part of the name. -/
theorem SpellsName.localPart (hname : isName name.toList) (h : SpellsName name s) :
    Tag.localPart s = name.toList := by
  cases h with
  | bare => rw [Tag.localPart, Text.cutAt?_eq_none (not_mem_of_isName hname (by decide))]
  | qualified hpart => rw [Tag.localPart, Text.cutAt?_append (not_mem_of_isName hpart (by decide))]

/-! ### Trees -/

/-- The trees of which a document can give everything back: their names are names without colons,
the attributes of each tag differ and are no namespace declarations, and white space of markup does
not stand at the ends of a text. -/
inductive Element.IsPlain : Element → Prop where
  | intro {name : String} {attributes : List (String × String)} {text : String}
    {children : List Element} (hname : isName name.toList)
    (hattributes : ∀ a ∈ attributes, isName a.1.toList ∧ ¬ "xmlns".toList <+: a.1.toList)
    (hdistinct : (attributes.map Prod.fst).Nodup)
    (hstart : ∀ c ∈ text.toList.head?, isSpace c = false)
    (hend : ∀ c ∈ text.toList.getLast?, isSpace c = false)
    (hchildren : ∀ e ∈ children, e.IsPlain) : IsPlain ⟨name, attributes, text, children⟩

theorem forall_not_isSpace {c? : Option Char} (h : c?.all (!isSpace ·)) :
    ∀ c ∈ c?, isSpace c = false := by
  rintro c ⟨⟩
  simpa using h

theorem Element.IsPlain.leaf {text : String} (hname : isName name.toList)
    (hstart : text.toList.head?.all (!isSpace ·)) (hend : text.toList.getLast?.all (!isSpace ·)) :
    IsPlain { name, text } :=
  .intro hname nofun List.nodup_nil (forall_not_isSpace hstart) (forall_not_isSpace hend) nofun

/-- An attribute as it stands in a tag. -/
def Attribute.chars (a : Attribute) : List Char :=
  ' ' :: a.key ++ '=' :: '"' :: (a.value ++ ['"'])

/-- The row says what the attributes are. Declarations of namespaces may stand anywhere in it. -/
inductive SpellsAttributes : List (String × String) → List Attribute → Prop where
  | nil : SpellsAttributes [] []
  | entry {name value : String} {key : List Char} {attributes : List (String × String)}
    {row : List Attribute} (hkey : SpellsName name key) (hdeclares : ¬ "xmlns".toList <+: key)
    (hrow : SpellsAttributes attributes row) :
    SpellsAttributes ((name, value) :: attributes) (⟨key, escape value.toList⟩ :: row)
  | binding {a : Attribute} {attributes : List (String × String)} {row : List Attribute}
    (hdeclares : "xmlns".toList <+: a.key) (hkey : isQualified a.key) (hvalue : '"' ∉ a.value)
    (hnew : a.key ∉ row.map (·.key)) (hrow : SpellsAttributes attributes row) :
    SpellsAttributes attributes (a :: row)

mutual

/-- The text is a spelling of the tree. -/
inductive Spells : Element → List Char → Prop where
  | content {name : String} {attributes : List (String × String)} {text : String}
    {children : List Element} {written : List Char} {row : List Attribute} {inner : List Char}
    (hname : SpellsName name written) (hrow : SpellsAttributes attributes row)
    (hchildren : SpellsAll children inner) :
    Spells ⟨name, attributes, text, children⟩
      ('<' :: (written ++ row.flatMap Attribute.chars) ++ '>' :: (escape text.toList ++ inner ++
        '<' :: '/' :: written ++ ['>']))
  | empty {name : String} {attributes : List (String × String)} {written : List Char}
    {row : List Attribute} (hname : SpellsName name written)
    (hrow : SpellsAttributes attributes row) :
    Spells ⟨name, attributes, "", []⟩
      ('<' :: (written ++ row.flatMap Attribute.chars) ++ ['/', '>'])

/-- The text is made of spellings of the trees. -/
inductive SpellsAll : List Element → List Char → Prop where
  | nil : SpellsAll [] []
  | cons {e : Element} {es : List Element} {s rest : List Char} (hfirst : Spells e s)
    (hrest : SpellsAll es rest) : SpellsAll (e :: es) (s ++ rest)

end

/-! ### One way of writing throughout -/

/-- The namespace part, if there is one, is a name that declares nothing. -/
def Markup.IsProper (m : Markup) : Prop :=
  ∀ part ∈ m.namespacePart, isName part.toList ∧ ¬ "xmlns".toList <+: part.toList

namespace Markup

variable {m : Markup}

theorem spellsName (hm : m.IsProper) (name : String) : SpellsName name (m.nameChars name) := by
  unfold nameChars
  split
  · rename_i part hpart
    exact .qualified (hm part hpart).1
  · exact .bare

/-- A name behind a part that declares nothing does not declare anything. -/
theorem not_isPrefix_append (hpart : ¬ "xmlns".toList <+: part) (s : List Char) :
    ¬ "xmlns".toList <+: part ++ ':' :: s := by
  intro h
  rcases Nat.lt_or_ge part.length "xmlns".toList.length with hlt | hge
  · have hcolon : part ++ [':'] <+: "xmlns".toList := by
      refine List.prefix_of_prefix_length_le ⟨s, by simp⟩ h ?_
      rw [List.length_append]
      exact hlt
    exact absurd (hcolon.subset (List.mem_append_right _ (List.mem_singleton_self _))) (by decide)
  · exact hpart (List.prefix_of_prefix_length_le h (List.prefix_append _ _) hge)

theorem spellsAttributes (hm : m.IsProper) {attributes : List (String × String)}
    (h : ∀ a ∈ attributes, ¬ "xmlns".toList <+: a.1.toList) :
    SpellsAttributes attributes
      (attributes.map fun a => ⟨m.nameChars a.1, escape a.2.toList⟩) := by
  induction attributes with
  | nil => exact .nil
  | cons a attributes ih =>
    obtain ⟨ha, hattributes⟩ := List.forall_mem_cons.1 h
    refine .entry (spellsName hm a.1) ?_ (ih hattributes)
    unfold nameChars
    split
    · rename_i part hpart
      exact not_isPrefix_append (hm part hpart).2 _
    · exact ha

theorem tagChars_eq (m : Markup) (name : String) (attributes : List (String × String)) :
    m.tagChars name attributes = m.nameChars name ++
      (attributes.map fun a => ⟨m.nameChars a.1, escape a.2.toList⟩).flatMap Attribute.chars := by
  rw [tagChars, List.flatMap_map]
  congr 2
  funext a
  simp [attributeChars, Attribute.chars]

mutual

/-- A tree that is written in one way throughout is spelled. -/
theorem spells (hm : m.IsProper) : ∀ {t : Element}, t.IsPlain → Spells t (m.chars t)
  | ⟨name, attributes, text, children⟩, .intro _ hattributes _ _ _ hchildren => by
    have hrow := spellsAttributes hm fun a ha => (hattributes a ha).2
    rw [chars, tagChars_eq]
    split
    · rename_i hempty
      simp only [Bool.and_eq_true, String.isEmpty_iff, List.isEmpty_iff] at hempty
      obtain ⟨⟨-, rfl⟩, rfl⟩ := hempty
      exact .empty (spellsName hm name) hrow
    · have hspells : Spells ⟨name, attributes, text, children⟩ _ :=
        .content (spellsName hm name) hrow (spellsAll hm hchildren)
      simpa using hspells

theorem spellsAll (hm : m.IsProper) : ∀ {ts : List Element}, (∀ t ∈ ts, t.IsPlain) →
    SpellsAll ts (m.childrenChars ts)
  | [], _ => .nil
  | _ :: _, h => .cons (spells hm (h _ List.mem_cons_self))
      (spellsAll hm fun t ht => h t (List.mem_cons_of_mem _ ht))

end

end Markup

end MapServices.Xml
