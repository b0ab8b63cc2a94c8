import MapServices.Proofs.Response.Declaration
import MapServices.Proofs.Xml.Reading

/-!
# What is cut off before the document of an accepted answer

Byte order marks, white space and the XML declaration are meant to be cut off, and nothing else. A
declaration is known by the five characters that it starts with, and all is cut off once and in one
order. So other instructions whose names start in the same way are taken for declarations, and a
mark behind white space or a second declaration is left standing.

* `Strips` says what is cut off from any text, and `strips_stripDeclaration` that it always holds.
* `Strips.isMeant_iff`: when all that is meant was cut off, and nothing else.
* `isInfix_close_of_ofChars`: where an accepted document starts like a declaration, the end of one
  follows.
* `accepted_data`: the document of an accepted answer, and when it is the one that was meant.
-/

namespace MapServices.Response

variable {text data lead piece blanks inside s : List Char} {indexes : Encoding.Indexes}

/-- A byte order mark or white space. -/
def isFiller (c : Char) : Bool := c = Xml.Reader.byteOrderMark || Text.isBlank c

/-- An instruction whose name starts with `xml`, up to its first closing bracket: `inside` stands
between these letters and the end. -/
structure IsInstruction (piece inside : List Char) : Prop where
  eq : piece = "<?xml".toList ++ inside ++ "?>".toList
  first : ¬ "?>".toList <:+: "<?xml".toList ++ inside ++ ['?']

theorem IsInstruction.append_eq (h : IsInstruction piece inside) (rest : List Char) :
    piece ++ rest = '<' :: ("?xml".toList ++ inside ++ "?>".toList ++ rest) := by
  rw [h.eq]
  rfl

/-- An XML declaration: white space follows its name. -/
def IsXmlDeclaration (piece : List Char) : Prop :=
  ∃ inside, IsInstruction piece inside ∧ inside.head?.any Text.isBlank

/-- The text starts with the name of an XML declaration and white space. -/
def OpensDeclaration (s : List Char) : Prop :=
  "<?xml".toList <+: s ∧ (s.drop 5).head?.any Text.isBlank

/-- Byte order marks, white space and at most one XML declaration. -/
def IsPreface (removed : List Char) : Prop :=
  ∃ before declaration after, removed = before ++ declaration ++ after ∧
    (declaration = [] ∨ IsXmlDeclaration declaration) ∧
    (∀ c ∈ before, isFiller c) ∧ ∀ c ∈ after, isFiller c

/-- The text is a preface and then the document, which starts with nothing of that kind. -/
def IsMeant (text data : List Char) : Prop :=
  ∃ removed, text = removed ++ data ∧ IsPreface removed ∧
    (∀ c ∈ data.head?, isFiller c = false) ∧ ¬ OpensDeclaration data

/-- What is cut off from a text: marks and white space, and then perhaps an instruction and the
white space behind it. -/
structure Strips (text data lead piece blanks : List Char) : Prop where
  text_eq : text = lead ++ piece ++ blanks ++ data
  isLead : IsLead lead
  isPiece : piece = [] ∨ ∃ inside, IsInstruction piece inside
  isBlank : ∀ c ∈ blanks, Text.isBlank c
  head : ∀ c ∈ data.head?, Text.isBlank c = false
  /-- An instruction that could be cut off is left only if it has no end. -/
  left : piece = [] → "<?xml".toList <+: data → ¬ "?>".toList <:+: data

/-! ## Cutting off -/

/-- A text that starts like a declaration is cut behind the first end of an instruction in it. -/
theorem exists_instruction {before rest : List Char} (hs : "<?xml".toList <+: s)
    (hcut : Text.cut? "?>".toList s = some (before, rest)) :
    ∃ piece inside, IsInstruction piece inside ∧ s = piece ++ rest := by
  obtain ⟨tail, rfl⟩ := hs
  have hfirst := Text.not_isInfix_of_cut? (by decide) hcut
  -- no part of the name is the end of an instruction
  have hname : Text.cut? "?>".toList ("<?xml".toList ++ tail) =
      (Text.cut? "?>".toList tail).map fun r => ("<?xml".toList ++ r.1, r.2) := by
    cases h : Text.cut? "?>".toList tail <;> simp_all [Text.cut?, List.isPrefixOf]
  rw [hname] at hcut
  obtain ⟨⟨inside, rest'⟩, htail, heq⟩ := Option.map_eq_some_iff.1 hcut
  cases heq
  refine ⟨_, inside, ⟨rfl, hfirst⟩, ?_⟩
  rw [Text.cut?_eq_some htail]
  simp only [List.append_assoc]

theorem exists_lead (text : List Char) :
    ∃ lead, IsLead lead ∧ text = lead ++ Text.trimStart (dropMarks text) := by
  refine ⟨text.takeWhile (· = Xml.Reader.byteOrderMark) ++ (dropMarks text).takeWhile Text.isBlank,
    ⟨⟨_, _, rfl, fun c hc => ?_, fun c hc => List.mem_takeWhile_imp hc⟩⟩, ?_⟩
  · simpa using List.mem_takeWhile_imp hc
  · rw [List.append_assoc, Text.trimStart, List.takeWhile_append_dropWhile, dropMarks,
      List.takeWhile_append_dropWhile]

theorem strips_stripDeclaration (text : List Char) :
    ∃ lead piece blanks, Strips text (stripDeclaration text) lead piece blanks := by
  obtain ⟨lead, hlead, htext⟩ := exists_lead text
  generalize hs : Text.trimStart (dropMarks text) = s at htext
  have hhead : ∀ c ∈ s.head?, Text.isBlank c = false := by
    rw [← hs]
    exact Text.head?_trimStart _
  simp only [stripDeclaration, hs]
  split
  · rename_i hstart
    rw [List.isPrefixOf_iff_prefix] at hstart
    split
    · rename_i before rest hcut
      obtain ⟨piece, inside, hpiece, rfl⟩ := exists_instruction hstart hcut
      refine ⟨lead, piece, rest.takeWhile Text.isBlank, ?_, hlead, .inr ⟨inside, hpiece⟩,
        fun c hc => List.mem_takeWhile_imp hc, Text.head?_trimStart rest, ?_⟩
      · rw [htext, List.append_assoc _ _ (Text.trimStart rest), Text.trimStart,
          List.takeWhile_append_dropWhile, List.append_assoc]
      · rintro rfl
        cases hpiece.eq
    · rename_i hcut
      refine ⟨lead, [], [], by simpa using htext, hlead, .inl rfl, List.forall_mem_nil _, hhead, ?_⟩
      exact fun _ _ => Text.cut?_eq_none_iff.1 hcut
  · rename_i hstart
    rw [List.isPrefixOf_iff_prefix] at hstart
    exact ⟨lead, [], [], by simpa using htext, hlead, .inl rfl, List.forall_mem_nil _, hhead,
      fun _ h => absurd h hstart⟩

/-! ## What was meant to be cut off -/

theorem IsLead.isFiller (h : IsLead lead) : ∀ c ∈ lead, isFiller c := by
  obtain ⟨marks, blanks, rfl, hmarks, hblanks⟩ := h
  intro c hc
  rw [Response.isFiller, Bool.or_eq_true, decide_eq_true_eq]
  exact (List.mem_append.1 hc).imp (hmarks c) (hblanks c)

/-- What stands before an opening bracket is all that there is of marks and white space. -/
theorem dropWhile_isFiller {before : List Char} (h : ∀ c ∈ before, isFiller c) (s : List Char) :
    (before ++ '<' :: s).dropWhile isFiller = '<' :: s := by
  rw [List.dropWhile_append_of_pos h, List.dropWhile_cons_of_neg (by decide)]

/-- An instruction behind marks and white space is a declaration, if all of it is a preface. -/
theorem isXmlDeclaration_of_isPreface (hlead : ∀ c ∈ lead, isFiller c)
    (hpiece : IsInstruction piece inside) (h : IsPreface (lead ++ piece ++ blanks)) :
    IsXmlDeclaration piece := by
  obtain ⟨before, declaration, after, heq, hdeclaration, hbefore, hafter⟩ := h
  rw [List.append_assoc, hpiece.append_eq] at heq
  rcases hdeclaration with rfl | ⟨inside', hpiece', hblank⟩
  · -- the bracket is neither a mark nor white space
    have hall : ∀ c ∈ before ++ [] ++ after, isFiller c := by
      intro c hc
      rw [List.append_nil] at hc
      exact (List.mem_append.1 hc).elim (hbefore c) (hafter c)
    rw [← heq] at hall
    exact absurd (hall '<' (List.mem_append_right _ List.mem_cons_self)) (by decide)
  · rw [List.append_assoc before, hpiece'.append_eq] at heq
    have hsame := congrArg (List.dropWhile isFiller) heq
    rw [dropWhile_isFiller hlead, dropWhile_isFiller hbefore] at hsame
    simp only [List.cons.injEq, true_and, List.append_assoc, List.append_cancel_left_eq] at hsame
    refine ⟨inside, hpiece, ?_⟩
    cases inside' with
    | nil => cases hblank
    | cons c' inside' =>
      cases inside with
      | nil =>
        obtain ⟨rfl, -⟩ := List.cons.inj hsame
        cases hblank
      | cons c inside =>
        obtain ⟨rfl, -⟩ := List.cons.inj hsame
        exact hblank

/-- All that is meant was cut off, and nothing else, just if an instruction that was cut off is a
declaration, and neither a mark nor another declaration comes next. -/
theorem Strips.isMeant_iff (h : Strips text data lead piece blanks) :
    IsMeant text data ↔ (piece = [] ∨ IsXmlDeclaration piece) ∧
      data.head? ≠ some Xml.Reader.byteOrderMark ∧ ¬ OpensDeclaration data := by
  have hlead := h.isLead.isFiller
  constructor
  · rintro ⟨removed, hremoved, hpreface, hhead, hopens⟩
    have heq : removed = lead ++ piece ++ blanks :=
      List.append_cancel_right (hremoved.symm.trans h.text_eq)
    refine ⟨h.isPiece.imp_right ?_, fun hmark => ?_, hopens⟩
    · rintro ⟨inside, hpiece⟩
      exact isXmlDeclaration_of_isPreface hlead hpiece (heq ▸ hpreface)
    · exact absurd (hhead _ hmark) (by decide)
  · rintro ⟨hpiece, hmark, hopens⟩
    refine ⟨_, h.text_eq, ⟨lead, piece, blanks, rfl, hpiece, hlead, ?_⟩, ?_, hopens⟩
    · intro c hc
      rw [isFiller, h.isBlank c hc, Bool.or_true]
    · intro c hc
      rw [isFiller, h.head c hc, Bool.or_false, decide_eq_false_iff_not]
      rintro rfl
      exact hmark hc

/-! ## Accepted answers -/

/-- A document that starts like a declaration has the end of an instruction, if it has a root. -/
theorem isInfix_close_of_ofChars {root : Root} (h : Root.ofChars s = .ok root)
    (hs : "<?xml".toList <+: s) : "?>".toList <:+: s := by
  obtain ⟨tag, htag, -⟩ := ofChars_eq_ok_iff.1 h
  have hopen : "<?".toList <+: s := (List.prefix_append "<?".toList "xml".toList).trans hs
  exact Xml.Reader.isInfix_close_of_tag hopen htag

/-- The text of an accepted answer is what was cut off and the document behind it. What starts like
a declaration was cut off if nothing like it was before. The document is the one that was meant just
if no other instruction was cut off, and neither a mark nor a second declaration is left. -/
theorem accepted_data {r : Response} {serviceType : ServiceType} {version : Option String}
    {body : CheckedBody} (h : (r.check serviceType version indexes).1 = .ok body) :
    ∃ e lead piece blanks, r.encoding = .ok e ∧ body.encoding = e.name ∧
      Strips (e.decode indexes r.body).text body.data.toList lead piece blanks ∧
      (piece = [] → ¬ "<?xml".toList <+: body.data.toList) ∧
      (IsMeant (e.decode indexes r.body).text body.data.toList ↔
        (piece = [] ∨ IsXmlDeclaration piece) ∧
          body.data.toList.head? ≠ some Xml.Reader.byteOrderMark ∧
          ¬ OpensDeclaration body.data.toList) := by
  obtain ⟨-, e, hencoding, hroot, rfl⟩ := check_eq_ok_iff.1 h
  obtain ⟨root, hroot, -⟩ := checkRoot_eq_ok_iff.1 hroot
  obtain ⟨lead, piece, blanks, hstrips⟩ := strips_stripDeclaration (e.decode indexes r.body).text
  refine ⟨e, lead, piece, blanks, hencoding, rfl, ?_⟩
  rw [String.toList_ofList]
  refine ⟨hstrips, fun hpiece hstart => ?_, hstrips.isMeant_iff⟩
  exact hstrips.left hpiece hstart (isInfix_close_of_ofChars hroot hstart)

/-- What an instruction that names a style sheet says. -/
def styleInside : String := "-stylesheet type='text/xsl' href='wms.xsl'"

/-- A map service of an older kind. -/
def styledRoot : String := "<WMT_MS_Capabilities version='1.1.1'/>"

def styledText : List Char :=
  "<?xml".toList ++ styleInside.toList ++ "?>".toList ++ styledRoot.toList

/-- The document behind the instruction. -/
def styledAnswer : Response where
  status := 200
  contentType := some "text/xml"
  body := Utf8.encode styledText

/-- The instruction is no preface, so the document is not the one that was meant. -/
theorem not_isMeant_styledText : ¬ IsMeant styledText styledRoot.toList := by
  rintro ⟨removed, hremoved, hpreface, -⟩
  have hpiece : IsInstruction ("<?xml".toList ++ styleInside.toList ++ "?>".toList)
      styleInside.toList :=
    ⟨rfl, by decide +kernel⟩
  obtain rfl := List.append_cancel_right hremoved
  rw [← List.append_nil ("<?xml".toList ++ _ ++ _)] at hpreface
  obtain ⟨inside, ⟨heq, -⟩, hblank⟩ :=
    isXmlDeclaration_of_isPreface (List.forall_mem_nil _) hpiece hpreface
  have hinside := List.append_cancel_left (List.append_cancel_right heq)
  rw [← hinside] at hblank
  cases hblank

/-- The instruction is cut off, although it is no declaration. -/
theorem accepted_data_styled :
    (styledAnswer.check .wms none).1 = .ok ⟨"UTF-8", styledRoot⟩ ∧
      ∃ e lead piece blanks, styledAnswer.encoding = .ok e ∧
        (e.decode {} styledAnswer.body).text = styledText ∧
        Strips styledText styledRoot.toList lead piece blanks ∧
        ¬ (piece = [] ∨ IsXmlDeclaration piece) ∧ ¬ IsMeant styledText styledRoot.toList := by
  have hcheck : (styledAnswer.check .wms none).1 = .ok ⟨"UTF-8", styledRoot⟩ :=
    Failure.toOption_eq_some.1 (by decide +kernel)
  obtain ⟨e, lead, piece, blanks, hencoding, -, hstrips, -, hmeant⟩ := accepted_data hcheck
  have hdecoded : styledAnswer.encoding.toOption.map
      (fun e => (e.decode {} styledAnswer.body).text) = some styledText := by
    decide +kernel
  rw [hencoding] at hdecoded
  have htext : (e.decode {} styledAnswer.body).text = styledText := Option.some.inj hdecoded
  rw [htext] at hstrips hmeant
  have hopens : ¬ OpensDeclaration styledRoot.toList := fun h => absurd h.1 (by decide)
  refine ⟨hcheck, e, lead, piece, blanks, hencoding, htext, hstrips, fun hpiece => ?_,
    not_isMeant_styledText⟩
  exact not_isMeant_styledText (hmeant.2 ⟨hpiece, by decide, hopens⟩)

end MapServices.Response
