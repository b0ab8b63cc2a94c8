import MapServices.Proofs.Xml.Pieces
import MapServices.Proofs.Xml.Spelling

/-!
# A spelled tree is read back

The tags of a spelling are read by themselves: `Element.ofTag_spelled` says what a start tag gives.
The events between a start tag and its end tag then change only the element that the start tag has
opened, whatever the elements around it are. That is shown for a tree and for the trees inside of it
at once.

* `Element.parse_spelled`: every spelling of a plain tree is a document of that tree.
-/

namespace MapServices.Xml

variable {s rest written : List Char} {name text : String} {attributes : List (String × String)}
  {children : List Element} {row : List Attribute} {es es' : List Event}

/-! ### Rows of attributes -/

theorem isSpace_of_isQualified (h : isQualified s) : ∀ c ∈ s, isSpace c = false := by
  intro c hc
  rw [Bool.eq_false_iff]
  intro hspace
  have hchar : isNameChar c = false ∧ c ≠ ':' :=
    forall_isSpace (p := fun c => isNameChar c = false ∧ c ≠ ':') (by decide) (by decide)
      (by decide) (by decide) hspace
  exact not_mem_of_isQualified h hchar.1 hchar.2 hc

namespace Attribute

variable {keys : List (List Char × Nat)} {key value : List Char}

/-- A key is read up to the equals sign. -/
theorem exists_scanFrom_key (read : List Char) (hspace : ∀ c ∈ key, isSpace c = false)
    (hequals : '=' ∉ key) (hnew : keys.lookup (read.reverse ++ key) = none)
    (position start : Nat) (s : List Char) :
    ∃ position', scanFrom (some keys) position (.inKey start read) (key ++ '=' :: s) =
      scanFrom (some ((read.reverse ++ key, start) :: keys)) position'
        (.beforeValue (read.reverse ++ key)) s := by
  induction key generalizing position read with
  | nil =>
    rw [List.append_nil] at hnew ⊢
    exact ⟨_, by simp only [List.nil_append, scanFrom, previous?, Option.bind_some, hnew]; rfl⟩
  | cons c key ih =>
    obtain ⟨hc, hspace⟩ := List.forall_mem_cons.1 hspace
    obtain ⟨hne, hequals⟩ := not_or.1 fun h => hequals (List.mem_cons.2 h)
    have hread : read.reverse ++ c :: key = (c :: read).reverse ++ key := by simp
    rw [hread] at hnew ⊢
    obtain ⟨position', h⟩ := ih (c :: read) hspace hequals hnew (position + c.utf8Size)
    exact ⟨position', by rw [List.cons_append, scanFrom, if_neg (Ne.symm hne), hc]; exact h⟩

/-- A value is read up to its quote. -/
theorem exists_scanFrom_value (key read : List Char) (hvalue : '"' ∉ value)
    (seen : Option (List (List Char × Nat))) (position : Nat) (s : List Char) :
    ∃ position', scanFrom seen position (.inValue key '"' read) (value ++ '"' :: s) =
      (scanFrom seen position' .between s).cons ⟨key, read.reverse ++ value⟩ := by
  induction value generalizing position read with
  | nil => exact ⟨_, by rw [List.nil_append, scanFrom, if_pos rfl, List.append_nil]⟩
  | cons c value ih =>
    obtain ⟨hc, hvalue⟩ := not_or.1 fun h => hvalue (List.mem_cons.2 h)
    obtain ⟨position', h⟩ := ih (c :: read) hvalue (position + c.utf8Size)
    refine ⟨position', ?_⟩
    rw [List.cons_append, scanFrom, if_neg (Ne.symm hc), h]
    simp

/-- An attribute is read as it is written. -/
theorem exists_scanFrom_chars {a : Attribute} (hkey : isQualified a.key) (hvalue : '"' ∉ a.value)
    (hnew : keys.lookup a.key = none) (position : Nat) (s : List Char) :
    ∃ start position', scanFrom (some keys) position .between (a.chars ++ s) =
      (scanFrom (some ((a.key, start) :: keys)) position' .between s).cons a := by
  obtain ⟨key, value⟩ := a
  obtain ⟨c, key, rfl, -⟩ := exists_head_of_isQualified hkey
  obtain ⟨hc, hspace⟩ := List.forall_mem_cons.1 (isSpace_of_isQualified hkey)
  have hequals : '=' ∉ key := fun h =>
    not_mem_of_isQualified hkey (by decide) (by decide) (List.mem_cons_of_mem _ h)
  have hchars : chars ⟨c :: key, value⟩ ++ s =
      ' ' :: c :: (key ++ '=' :: '"' :: (value ++ '"' :: s)) := by
    simp [chars]
  obtain ⟨position₁, h₁⟩ := exists_scanFrom_key [c] hspace hequals hnew
    (position + ' '.utf8Size + c.utf8Size) (position + ' '.utf8Size) ('"' :: (value ++ '"' :: s))
  obtain ⟨position₂, h₂⟩ := exists_scanFrom_value (c :: key) [] hvalue
    (some ((c :: key, position + ' '.utf8Size) :: keys)) (position₁ + '"'.utf8Size) s
  refine ⟨position + ' '.utf8Size, position₂, ?_⟩
  rw [hchars, scanFrom, if_pos (by decide), scanFrom, hc, if_neg Bool.false_ne_true, h₁]
  exact h₂

/-- A row of attributes with different keys is read as it is written. -/
theorem scan_row (hrow : ∀ a ∈ row, isQualified a.key ∧ '"' ∉ a.value)
    (hdistinct : (row.map (·.key)).Nodup) (position : Nat) :
    scan position (row.flatMap chars) = { attributes := row } := by
  suffices hfrom : ∀ keys : List (List Char × Nat), (∀ a ∈ row, keys.lookup a.key = none) →
      ∀ position, scanFrom (some keys) position .between (row.flatMap chars) =
        { attributes := row } from hfrom [] (fun _ _ => rfl) position
  induction row with
  | nil => exact fun _ _ _ => rfl
  | cons a row ih =>
    intro keys hkeys position
    obtain ⟨⟨hkey, hvalue⟩, hrow⟩ := List.forall_mem_cons.1 hrow
    obtain ⟨hnew, hkeys⟩ := List.forall_mem_cons.1 hkeys
    obtain ⟨hfirst, hdistinct⟩ := List.nodup_cons.1 hdistinct
    obtain ⟨start, position', h⟩ := exists_scanFrom_chars hkey hvalue hnew position
      (row.flatMap chars)
    rw [List.flatMap_cons, h, ih hrow hdistinct]
    · rfl
    · intro other hother
      have hne : other.key ≠ a.key := fun heq => hfirst (List.mem_map.2 ⟨other, hother, heq⟩)
      rw [List.lookup_cons, beq_eq_false_iff_ne.2 hne]
      exact hkeys other hother

end Attribute

namespace SpellsAttributes

theorem isQualified (hnames : ∀ a ∈ attributes, isName a.1.toList)
    (h : SpellsAttributes attributes row) : ∀ a ∈ row, isQualified a.key ∧ '"' ∉ a.value := by
  induction h with
  | nil => nofun
  | entry hkey _ _ ih =>
    obtain ⟨hname, hnames⟩ := List.forall_mem_cons.1 hnames
    exact List.forall_mem_cons.2 ⟨⟨hkey.isQualified hname, (not_mem_escape _).2.2.1⟩, ih hnames⟩
  | binding _ hkey hvalue _ _ ih =>
    exact List.forall_mem_cons.2 ⟨⟨hkey, hvalue⟩, ih hnames⟩

/-- What stands in a row declares a namespace or has the name of an attribute. -/
theorem declares_or_spells (h : SpellsAttributes attributes row) :
    ∀ a ∈ row, "xmlns".toList <+: a.key ∨ ∃ b ∈ attributes, SpellsName b.1 a.key := by
  induction h with
  | nil => nofun
  | entry hkey _ _ ih =>
    refine List.forall_mem_cons.2 ⟨.inr ⟨_, List.mem_cons_self, hkey⟩, fun a ha => ?_⟩
    exact (ih a ha).imp_right fun ⟨b, hb, hspells⟩ => ⟨b, List.mem_cons_of_mem _ hb, hspells⟩
  | binding hdeclares _ _ _ _ ih => exact List.forall_mem_cons.2 ⟨.inl hdeclares, ih⟩

/-- The keys differ since the names do, behind whatever namespace parts these are. -/
theorem nodup (hnames : ∀ a ∈ attributes, isName a.1.toList)
    (hdistinct : (attributes.map Prod.fst).Nodup) (h : SpellsAttributes attributes row) :
    (row.map (·.key)).Nodup := by
  induction h with
  | nil => exact List.nodup_nil
  | @entry name value key attributes row hkey hdeclares hrow ih =>
    obtain ⟨hname, hnames⟩ := List.forall_mem_cons.1 hnames
    obtain ⟨hfirst, hdistinct⟩ := List.nodup_cons.1 hdistinct
    refine List.nodup_cons.2 ⟨fun hmem => ?_, ih hnames hdistinct⟩
    obtain ⟨a, ha, rfl⟩ := List.mem_map.1 hmem
    rcases hrow.declares_or_spells a ha with ha | ⟨b, hb, hspells⟩
    · exact hdeclares ha
    · have hlocal := hkey.localPart hname
      rw [hspells.localPart (hnames b hb)] at hlocal
      exact hfirst (List.mem_map.2 ⟨b, hb, String.toList_injective hlocal⟩)
  | binding _ _ _ hnew _ ih => exact List.nodup_cons.2 ⟨hnew, ih hnames hdistinct⟩

theorem mapM_entry (hnames : ∀ a ∈ attributes, isName a.1.toList)
    (h : SpellsAttributes attributes row) :
    (row.filter (!·.isDeclaration)).mapM Attribute.entry = .ok attributes := by
  induction h with
  | nil => rfl
  | @entry name value key attributes row hkey hdeclares _ ih =>
    obtain ⟨hname, hnames⟩ := List.forall_mem_cons.1 hnames
    have hkept : Attribute.isDeclaration ⟨key, escape value.toList⟩ = false := by
      rw [Attribute.isDeclaration, Bool.eq_false_iff]
      exact fun h => hdeclares (List.isPrefixOf_iff_prefix.1 h)
    have hentry : Attribute.entry ⟨key, escape value.toList⟩ = .ok (name, value) := by
      simp only [Attribute.entry, unescape_escape, hkey.localPart hname, String.ofList_toList]
    rw [List.filter_cons_of_pos (by simp [hkept]), List.mapM_cons, hentry, ih hnames]
    rfl
  | binding hdeclares _ _ _ _ ih =>
    have hdropped : ∀ {a : Attribute}, "xmlns".toList <+: a.key → a.isDeclaration = true :=
      fun h => List.isPrefixOf_iff_prefix.2 h
    rw [List.filter_cons_of_neg (by simp [hdropped hdeclares])]
    exact ih hnames

end SpellsAttributes

/-! ### Tags -/

theorem isTagText_append (hwritten : isQualified written)
    (hrow : ∀ a ∈ row, isQualified a.key ∧ '"' ∉ a.value) :
    Reader.IsTagText (written ++ row.flatMap Attribute.chars) := by
  have hplain : ∀ {s}, isQualified s → ∀ c ∈ s, c ≠ '>' ∧ c ≠ '"' ∧ c ≠ '\'' := by
    intro s hs c hc
    refine ⟨?_, ?_, ?_⟩
    all_goals
      rintro rfl
      exact not_mem_of_isQualified hs (by decide) (by decide) hc
  have hbalanced : Reader.Balanced (row.flatMap Attribute.chars) := by
    induction row with
    | nil => exact Reader.balanced_nil
    | cons a row ih =>
      obtain ⟨⟨hkey, hvalue⟩, hrow⟩ := List.forall_mem_cons.1 hrow
      have hchars : a.chars = (' ' :: a.key ++ ['=']) ++ '"' :: (a.value ++ ['"']) := by
        simp [Attribute.chars]
      have hbefore : Reader.Balanced (' ' :: a.key ++ ['=']) := by
        apply Reader.balanced_of_plain
        intro c hc
        rcases List.mem_append.1 hc with hc | hc
        · rcases List.mem_cons.1 hc with rfl | hc
          · decide
          · exact hplain hkey c hc
        · rw [List.mem_singleton.1 hc]
          decide
      rw [List.flatMap_cons, hchars]
      exact (hbefore.append (Reader.balanced_quoted hvalue)).append (ih hrow)
  refine ⟨(Reader.balanced_of_plain (hplain hwritten)).append hbalanced, ?_⟩
  obtain ⟨c, t, rfl, hc⟩ := exists_head_of_isQualified hwritten
  refine ⟨c, rfl, ?_, ?_, ?_⟩
  all_goals
    rintro rfl
    exact absurd hc (by decide)

theorem ofContent_append (hwritten : isQualified written) (row : List Attribute) :
    Tag.ofContent (written ++ row.flatMap Attribute.chars) =
      ⟨written, row.flatMap Attribute.chars⟩ := by
  have hall : ∀ c ∈ written, (!isSpace c) = true := fun c hc => by
    rw [isSpace_of_isQualified hwritten c hc]
    rfl
  have hrow : (row.flatMap Attribute.chars).takeWhile (!isSpace ·) = [] ∧
      (row.flatMap Attribute.chars).dropWhile (!isSpace ·) = row.flatMap Attribute.chars := by
    cases row with
    | nil => exact ⟨rfl, rfl⟩
    | cons a row =>
      exact ⟨List.takeWhile_cons_of_neg (by decide), List.dropWhile_cons_of_neg (by decide)⟩
  rw [Tag.ofContent, List.takeWhile_append_of_pos hall, List.dropWhile_append_of_pos hall, hrow.1,
    hrow.2, List.append_nil]

theorem getLast?_append_ne (hwritten : isQualified written) (row : List Attribute) :
    (written ++ row.flatMap Attribute.chars).getLast? ≠ some '/' := by
  rcases List.eq_nil_or_concat row with rfl | ⟨row, a, rfl⟩
  · rw [List.flatMap_nil, List.append_nil]
    intro h
    exact not_mem_of_isQualified hwritten (by decide) (by decide) (List.mem_of_getLast? h)
  · have hlast : written ++ (row.concat a).flatMap Attribute.chars = (written ++
        row.flatMap Attribute.chars ++ ' ' :: a.key ++ '=' :: '"' :: a.value) ++ ['"'] := by
      simp [Attribute.chars]
    rw [hlast, List.getLast?_concat]
    decide

namespace Element

/-- A spelled tag starts the element that it is to start. -/
theorem ofTag_spelled (hname : isName name.toList) (hnames : ∀ a ∈ attributes, isName a.1.toList)
    (hdistinct : (attributes.map Prod.fst).Nodup) (hwritten : SpellsName name written)
    (hrow : SpellsAttributes attributes row) :
    ofTag ⟨written, row.flatMap Attribute.chars⟩ = .ok { name, attributes } := by
  have hscan : Tag.attributes ⟨written, row.flatMap Attribute.chars⟩ = { attributes := row } :=
    Attribute.scan_row (hrow.isQualified hnames) (hrow.nodup hnames hdistinct) _
  rw [ofTag, hscan]
  refine Failure.bind_eq_ok.2 ⟨attributes, hrow.mapM_entry hnames, ?_⟩
  simp only [Tag.localName, hwritten.localPart hname, String.ofList_toList]

end Element

/-! ### Texts -/

theorem isSpace_of_mem_escapeChar {c : Char} (hc : isSpace c = false) :
    ∀ d ∈ escapeChar c, isSpace d = false := by
  have hall : (escapeChar c).all (!isSpace ·) = true := by
    unfold escapeChar
    split
    any_goals rfl
    simp [hc]
  intro d hd
  simpa using List.all_eq_true.1 hall d hd

theorem escapeChar_ne_nil (c : Char) : escapeChar c ≠ [] := by
  unfold escapeChar
  split
  any_goals decide
  exact List.cons_ne_nil _ _

theorem head?_escape (h : ∀ c ∈ s.head?, isSpace c = false) :
    ∀ c ∈ (escape s).head?, isSpace c = false := by
  cases s with
  | nil => nofun
  | cons d s =>
    intro c hc
    obtain ⟨first, rest, hd⟩ := List.exists_cons_of_ne_nil (escapeChar_ne_nil d)
    rw [escape, List.flatMap_cons, hd] at hc
    cases hc
    exact isSpace_of_mem_escapeChar (h d rfl) c (hd ▸ List.mem_cons_self)

theorem getLast?_escape (h : ∀ c ∈ s.getLast?, isSpace c = false) :
    ∀ c ∈ (escape s).getLast?, isSpace c = false := by
  rcases List.eq_nil_or_concat s with rfl | ⟨s, d, rfl⟩
  · nofun
  · intro c hc
    rw [List.concat_eq_append] at h hc
    have hd := h d (List.getLast?_concat ..)
    obtain ⟨rest, last, hlast⟩ := List.eq_nil_or_concat (escapeChar d) |>.resolve_left
      (escapeChar_ne_nil d)
    rw [escape, List.flatMap_append, List.flatMap_singleton, hlast, List.concat_eq_append,
      ← List.append_assoc, List.getLast?_concat] at hc
    cases hc
    exact isSpace_of_mem_escapeChar hd c (by rw [hlast]; simp)

theorem strip_escape (hstart : ∀ c ∈ s.head?, isSpace c = false)
    (hend : ∀ c ∈ s.getLast?, isSpace c = false) : strip (escape s) = escape s :=
  strip_eq_self (head?_escape hstart) (getLast?_escape hend)

/-! ### Trees -/

/-- The reader comes behind the text, with as many elements open as before, and what it gives puts
the tree in place. -/
structure Builds (r : Reader) (t : Element) (rest : List Char) (es : List Event) (r' : Reader) :
    Prop where
  reads : r.Reads es r'
  inMarkup : r'.inMarkup = false
  rest : r'.rest = rest
  opened : r'.opened = r.opened
  addAll : ∀ b : TreeBuilder, b.addAll es = b.attach t

/-- The reader comes to the markup behind the text, with as many elements open as before, and what
it gives puts the trees into the innermost open element. -/
structure BuildsAll (r : Reader) (ts : List Element) (rest : List Char) (es : List Event)
    (r' : Reader) : Prop where
  reads : r.Reads es r'
  atMarkup : r'.AtMarkup ('<' :: rest)
  opened : r'.opened = r.opened
  addAll : ∀ (b : TreeBuilder) (top : Element) (outer : List Element), b.opened = top :: outer →
    b.addAll es = .ok { b with opened := { top with children := top.children ++ ts } :: outer }

theorem SpellsAll.exists_append {ts : List Element} (h : SpellsAll ts s) (rest : List Char) :
    ∃ t, s ++ '<' :: rest = '<' :: t := by
  cases h with
  | nil => exact ⟨rest, rfl⟩
  | cons hfirst _ => cases hfirst <;> exact ⟨_, rfl⟩

variable {r : Reader}

/-- A start tag, what stands inside of the element, and its end tag put the element in place. -/
theorem exists_builds_content (ht : (Element.mk name attributes text children).IsPlain)
    (hname : SpellsName name written) (hrow : SpellsAttributes attributes row)
    {inner : List Char} (hinner : SpellsAll children inner)
    (hbuilds : ∀ {r : Reader} {rest : List Char}, r.AtMarkup (inner ++ '<' :: rest) →
      ∃ es r', BuildsAll r children rest es r')
    (hr : r.AtMarkup ('<' :: (written ++ row.flatMap Attribute.chars) ++
      '>' :: (escape text.toList ++ (inner ++ '<' :: ('/' :: written ++ '>' :: rest))))) :
    ∃ es r', Builds r ⟨name, attributes, text, children⟩ rest es r' := by
  obtain ⟨hplain, hattributes, hdistinct, hstart, hend, -⟩ := ht
  have hnames : ∀ a ∈ attributes, isName a.1.toList := fun a ha => (hattributes a ha).1
  have hwritten := hname.isQualified hplain
  obtain ⟨t, ht⟩ := hinner.exists_append ('/' :: written ++ '>' :: rest)
  rw [ht] at hr
  obtain ⟨offset, hnext⟩ := hr.start (isTagText_append hwritten (hrow.isQualified hnames))
    (getLast?_append_ne hwritten row)
  rw [ofContent_append hwritten] at hnext
  obtain ⟨r₂, hdata, hat, hopened₂⟩ := Reader.exists_reads_data
    (r := { rest := _, offset, opened := written :: r.opened }) rfl
    (not_mem_escape text.toList).1 rfl
  obtain ⟨es, r₃, hreads, hat, hopened₃, hchildren⟩ := hbuilds (ht ▸ hat)
  obtain ⟨offset', hclose⟩ := hat.close (hopened₃.trans hopened₂)
    (not_mem_of_isQualified hwritten (by decide) (by decide))
    fun c hc => isSpace_of_isQualified hwritten c (List.mem_of_getLast? hc)
  refine ⟨.start ⟨written, row.flatMap Attribute.chars⟩ ::
    (dataEvents (escape text.toList) ++ (es ++ [.close written])),
    { rest, offset := offset', opened := r.opened },
    .cons hnext (hdata.append (hreads.append (.cons hclose (.nil _)))), rfl, rfl, rfl, fun b => ?_⟩
  have hopen : b.add (.start ⟨written, row.flatMap Attribute.chars⟩) =
      .ok { b with opened := ⟨name, attributes, "", []⟩ :: b.opened } := by
    rw [TreeBuilder.add, Element.ofTag_spelled hplain hnames hdistinct hname hrow]
    rfl
  have htext : unescape (strip (escape text.toList)) = .ok text.toList := by
    rw [strip_escape hstart hend, unescape_escape]
  rw [TreeBuilder.addAll_cons_of_eq hopen,
    TreeBuilder.addAll_append_of_eq (TreeBuilder.addAll_dataEvents rfl htext),
    TreeBuilder.addAll_append_of_eq (hchildren _ _ _ rfl), TreeBuilder.addAll_singleton]
  simp [TreeBuilder.add, Element.appendText]

mutual

/-- Every spelling of a plain tree puts it in place. -/
theorem exists_builds : ∀ {t : Element} {s : List Char}, t.IsPlain → Spells t s →
    ∀ {r : Reader} {rest : List Char}, r.AtMarkup (s ++ rest) → ∃ es r', Builds r t rest es r'
  | ⟨_, _, _, _⟩, _, .intro hplain hattributes hdistinct hstart hend hchildren,
      .content hname hrow hspells, r, rest, hr => by
    refine exists_builds_content (.intro hplain hattributes hdistinct hstart hend hchildren) hname
      hrow hspells (exists_buildsAll hchildren hspells) ?_
    simpa using hr
  | ⟨name, attributes, _, _⟩, _, .intro hplain hattributes hdistinct _ _ _,
      @Spells.empty _ _ written row hname hrow, r, rest, hr => by
    have hnames : ∀ a ∈ attributes, isName a.1.toList := fun a ha => (hattributes a ha).1
    have hwritten := hname.isQualified hplain
    obtain ⟨offset, hnext⟩ := Reader.AtMarkup.empty (by simpa using hr)
      (isTagText_append hwritten (hrow.isQualified hnames))
    rw [ofContent_append hwritten] at hnext
    refine ⟨_, _, .cons hnext (.nil _), rfl, rfl, rfl, fun b => ?_⟩
    rw [TreeBuilder.addAll_singleton, TreeBuilder.add,
      Element.ofTag_spelled hplain hnames hdistinct hname hrow]
    rfl

theorem exists_buildsAll : ∀ {ts : List Element} {s : List Char}, (∀ t ∈ ts, t.IsPlain) →
    SpellsAll ts s → ∀ {r : Reader} {rest : List Char}, r.AtMarkup (s ++ '<' :: rest) →
      ∃ es r', BuildsAll r ts rest es r'
  | [], _, _, .nil, r, rest, hr => by
    refine ⟨[], r, .nil r, hr, rfl, fun b top outer hopened => ?_⟩
    obtain ⟨name, attributes, text, children⟩ := top
    rw [List.append_nil, ← hopened]
    rfl
  | t :: ts, _, hplain, .cons hfirst hrest, r, rest, hr => by
    obtain ⟨ht, hts⟩ := List.forall_mem_cons.1 hplain
    obtain ⟨es, r₁, hbuilds⟩ := exists_builds ht hfirst (by simpa using hr)
    obtain ⟨u, hu⟩ := hrest.exists_append rest
    have hat : r₁.AtMarkup ('<' :: u) :=
      Reader.atMarkup_of_blank (d := []) hbuilds.inMarkup nofun (hbuilds.rest.trans hu)
    obtain ⟨es', r₂, hbuildsAll⟩ := exists_buildsAll hts hrest (hu ▸ hat)
    refine ⟨es ++ es', r₂, hbuilds.reads.append hbuildsAll.reads, hbuildsAll.atMarkup,
      hbuildsAll.opened.trans hbuilds.opened, fun b top outer hopened => ?_⟩
    have hattach : b.attach t = .ok { b with opened := top.appendChild t :: outer } := by
      rw [TreeBuilder.attach, hopened]
    rw [TreeBuilder.addAll_append_of_eq ((hbuilds.addAll b).trans hattach),
      hbuildsAll.addAll _ _ _ rfl]
    simp [Element.appendChild]

end

/-! ### Documents -/

namespace Element

/-- The tree of a document is the one that its text puts in place. -/
theorem ofChars_of_spells {t : Element} (ht : t.IsPlain) (h : Spells t s) : ofChars s = .ok t := by
  obtain ⟨u, hu⟩ : ∃ u, s = '<' :: u := by
    cases h <;> exact ⟨_, rfl⟩
  have hstart : Reader.ofChars s = { rest := s } :=
    ofChars_eq fun c hc => by
      rw [hu] at hc
      cases hc
      decide
  have hat : (Reader.ofChars s).AtMarkup (s ++ []) := by
    rw [hstart, List.append_nil, hu]
    exact Reader.atMarkup_of_blank (d := []) rfl nofun rfl
  obtain ⟨es, r', hbuilds⟩ := exists_builds ht h hat
  have hend : r'.readAll = ⟨[], none⟩ := by
    have hnext : r'.next = .ok none := by
      rw [Reader.next, hbuilds.inMarkup, hbuilds.rest]
      rfl
    rw [Reader.readAll, hnext]
  rw [ofChars, Reading.ofChars, hbuilds.reads.readAll_eq, hend, List.append_nil, ofReading,
    hbuilds.addAll]
  rfl

/-- Every proper markup spells a plain tree, and whatever spells the tree is a document of it. -/
theorem parse_spelled {t : Element} (ht : t.IsPlain) :
    (∀ m : Markup, m.IsProper → Spells t (m.chars t)) ∧
      ∀ s, Spells t s → ofString (String.ofList s) = .ok t := by
  refine ⟨fun m hm => Markup.spells hm ht, fun s hs => ?_⟩
  rw [ofString, String.toList_ofList]
  exact ofChars_of_spells ht hs

/-- A layer with markup in its texts, and elements inside of it. -/
def nestedLayer : Element :=
  { name := "Layer", attributes := [("queryable", "1"), ("title", "\"A\" & B")], text := "a < b",
    children := [{ name := "Name", text := "roads" }, { name := "Style" }] }

theorem isPlain_nestedLayer : nestedLayer.IsPlain := by
  refine .intro (by decide +kernel) (by decide +kernel) (by decide +kernel)
    (forall_not_isSpace (by decide +kernel)) (forall_not_isSpace (by decide +kernel)) ?_
  refine List.forall_mem_cons.2 ⟨?_, List.forall_mem_singleton.2 ?_⟩
  · exact .leaf (by decide +kernel) (by decide +kernel) (by decide +kernel)
  · exact .leaf (by decide +kernel) (by decide +kernel) (by decide +kernel)

/-- Names behind a namespace part, and elements without content as one tag. -/
def prefixedMarkup : Markup := { namespacePart := some "wms", closesEmpty := true }

/-- The layer is read back from a spelling with names behind a namespace part. -/
theorem parse_spelled_prefixed : nestedLayer.IsPlain ∧ prefixedMarkup.IsProper ∧
    ofString (prefixedMarkup.render nestedLayer) = .ok nestedLayer := by
  have hproper : prefixedMarkup.IsProper := by
    rintro part ⟨⟩
    decide +kernel
  obtain ⟨hspells, hparse⟩ := parse_spelled isPlain_nestedLayer
  exact ⟨isPlain_nestedLayer, hproper, hparse _ (hspells _ hproper)⟩

end Element

end MapServices.Xml
