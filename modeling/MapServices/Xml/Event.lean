import MapServices.Xml.Attribute

/-!
# Events: the pieces of a document

A document is read as a row of pieces: tags, character data, and markup that carries no data. The
reader knows the rules for where each piece ends and that an end tag must match the innermost open
start tag. It cuts white space off both ends of every piece of text between markup, and looks
neither at references nor at attributes.

* `Reader.next` reads one event; `next_length_lt` says that it consumes something.
* `Reading.ofChars` is the whole row, with the fault that ended it if there was one. Positions count
  bytes after a byte order mark.
-/

namespace MapServices.Xml

/-- The name of a start tag as it is written, and what follows the name. -/
structure Tag where
  name : List Char
  rest : List Char
deriving DecidableEq, Repr

namespace Tag

/-- The part of a name after its first colon, or all of it. -/
def localPart (name : List Char) : List Char :=
  match Text.cutAt? ':' name with
  | some (_, part) => part
  | none => name

/-- The name without its namespace part. -/
def localName (t : Tag) : List Char := localPart t.name

/-- The attributes, whose keys must differ. -/
def attributes (t : Tag) : Attribute.ScanResult :=
  Attribute.scan (Text.byteCount t.name) t.rest

/-- The attributes, whose keys may repeat. -/
def attributesRepeating (t : Tag) : Attribute.ScanResult :=
  Attribute.scanRepeating (Text.byteCount t.name) t.rest

/-- The tag that stands between the angle brackets. -/
def ofContent (content : List Char) : Tag :=
  ⟨content.takeWhile (!isSpace ·), content.dropWhile (!isSpace ·)⟩

end Tag

/-- A piece of a document. -/
inductive Event where
  /-- A start tag. -/
  | start (tag : Tag)
  /-- An empty-element tag. -/
  | empty (tag : Tag)
  /-- An end tag. -/
  | close (name : List Char)
  /-- Character data between markup, trimmed, with its references. -/
  | text (raw : List Char)
  /-- The content of a character data section. -/
  | cdata (content : List Char)
  /-- A comment. -/
  | comment
  /-- An XML declaration. -/
  | declaration (tag : Tag)
  /-- A processing instruction. -/
  | instruction
  /-- A document type declaration. -/
  | doctype
deriving DecidableEq, Repr

/-- A kind of markup that must be ended by a certain mark. -/
inductive Construct where
  | element
  | comment
  | cdata
  | doctype
  | instruction
  /-- Markup that starts with an exclamation mark and says nothing more. -/
  | bang
deriving DecidableEq, Repr

/-- The name of the construct in messages. -/
def Construct.name : Construct → String
  | element => "Element"
  | comment => "Comment"
  | cdata => "CData"
  | doctype => "DOCTYPE"
  | instruction => "XmlDecl"
  | bang => "Bang"

/-- Why a piece of a document cannot be read. -/
inductive ReadError where
  /-- The end of the construct is missing, or it does not start as it must. -/
  | unfinished (what : Construct)
  /-- A document type declaration without content. -/
  | emptyDoctype
  /-- No markup starts with an exclamation mark and this byte. -/
  | unknownBang (byte : Nat)
  /-- An end tag that does not match the innermost open start tag. -/
  | wrongEnd (expected found : List Char)
deriving DecidableEq, Repr

/-- The text of the error. -/
def ReadError.message : ReadError → String
  | unfinished what => s!"Unexpected EOF during reading {what.name}"
  | emptyDoctype => "DOCTYPE declaration must not be empty"
  | unknownBang byte =>
    "Only Comment (`--`), CDATA (`[CDATA[`) and DOCTYPE (`DOCTYPE`) nodes can start with a '!', " ++
      "but symbol `" ++ String.singleton (Char.ofNat byte) ++ "` found"
  | wrongEnd expected found =>
    "Expecting </" ++ String.ofList expected ++ "> found </" ++ String.ofList found ++ ">"

/-- A fault of the reader and the byte at which it is reported. -/
structure Failure where
  position : Nat
  error : ReadError
deriving DecidableEq, Repr

/-! ### Where a piece ends -/

/-- Splits at the first `>` at which `ends` holds of the characters before it. They are kept last
character first in `before`. -/
def splitAtClose (ends : List Char → Bool) (before : List Char) :
    List Char → Option (List Char × List Char)
  | [] => none
  | c :: s =>
    if c = '>' && ends before then some (before.reverse, s)
    else splitAtClose ends (c :: before) s

/-- Splits at the first `>` outside quotes. `quote?` is the quote that is open. -/
def splitTag (quote? : Option Char) : List Char → Option (List Char × List Char)
  | [] => none
  | c :: s =>
    match quote? with
    | none =>
      if c = '>' then some ([], s)
      else
        (splitTag (if c = '"' || c = '\'' then some c else none) s).map fun r => (c :: r.1, r.2)
    | some quote =>
      (splitTag (if c = quote then none else some quote) s).map fun r => (c :: r.1, r.2)

theorem splitAtClose_length {ends : List Char → Bool} {before s content rest : List Char}
    (h : splitAtClose ends before s = some (content, rest)) : rest.length < s.length := by
  induction s generalizing before with
  | nil => simp [splitAtClose] at h
  | cons c s ih =>
    unfold splitAtClose at h
    split at h
    · simp only [Option.some.injEq, Prod.mk.injEq] at h
      simp [h.2]
    · have := ih h
      simp only [List.length_cons]; omega

theorem splitTag_length {quote? : Option Char} {s content rest : List Char}
    (h : splitTag quote? s = some (content, rest)) : rest.length < s.length := by
  induction s generalizing quote? content with
  | nil => simp [splitTag] at h
  | cons c s ih =>
    unfold splitTag at h
    split at h
    · split at h
      · simp only [Option.some.injEq, Prod.mk.injEq] at h
        simp [h.2]
      · obtain ⟨⟨a, b⟩, hr, he⟩ := Option.map_eq_some_iff.1 h
        simp only [Prod.mk.injEq] at he
        have := ih (he.2 ▸ hr)
        simp only [List.length_cons]; omega
    · obtain ⟨⟨a, b⟩, hr, he⟩ := Option.map_eq_some_iff.1 h
      simp only [Prod.mk.injEq] at he
      have := ih (he.2 ▸ hr)
      simp only [List.length_cons]; omega

/-- A comment ends after two hyphens that are not those it starts with. -/
def endsComment (before : List Char) : Bool :=
  4 < before.length && ['-', '-'].isPrefixOf before

/-- A character data section ends after two closing brackets. -/
def endsCdata (before : List Char) : Bool := [']', ']'].isPrefixOf before

/-- A document type declaration ends where its angle brackets balance. -/
def endsDoctype (before : List Char) : Bool := before.count '<' = before.count '>'

/-! ### The reader -/

/-- What is left to read. -/
structure Reader where
  rest : List Char
  /-- The number of bytes read so far. -/
  offset : Nat := 0
  /-- The `<` of the next piece of markup was read already. -/
  inMarkup : Bool := false
  /-- The names of the open elements, innermost first. -/
  opened : List (List Char) := []
deriving Repr

namespace Reader

/-- The byte order mark. -/
def byteOrderMark : Char := '\uFEFF'

/-- A reader at the start of a document, after a byte order mark if there is one. -/
def ofChars : List Char → Reader
  | [] => { rest := [] }
  | c :: s => { rest := if c = byteOrderMark then s else c :: s }

/-- Reads markup that starts with `<!`, of the kind that the character after it announces. -/
def nextBang (r : Reader) (s : List Char) : Except Failure (Event × Reader) :=
  let fail (error : ReadError) := Except.error ⟨r.offset, error⟩
  match s with
  | [] => fail (.unfinished .bang)
  | c :: _ =>
    let finish (ends : List Char → Bool) (what : Construct)
        (toEvent : List Char → Except ReadError Event) : Except Failure (Event × Reader) :=
      match splitAtClose ends ['!'] s with
      | none => fail (.unfinished what)
      | some (content, rest) =>
        let offset := r.offset + Text.byteCount content + 1
        match toEvent content with
        | .error e => .error ⟨offset, e⟩
        | .ok event => .ok (event, { r with rest, offset, inMarkup := false })
    if c = '-' then
      finish endsComment .comment fun content =>
        if "!--".toList.isPrefixOf content then .ok .comment else .error (.unfinished .comment)
    else if c = '[' then
      finish endsCdata .cdata fun content =>
        let content := content.take (content.length - 2)
        if Text.startsIgnoringCase "![CDATA[".toList content then .ok (.cdata (content.drop 8))
        else .error (.unfinished .cdata)
    else if c = 'D' || c = 'd' then
      finish endsDoctype .doctype fun content =>
        if Text.startsIgnoringCase "!DOCTYPE".toList content then
          if (content.drop 8).all isSpace then .error .emptyDoctype else .ok .doctype
        else .error (.unfinished .doctype)
    else fail (.unknownBang (EntityError.firstByte c))

/-- The text up to the next `>`, or to the end of the input, and how many bytes that took. -/
def untilClose (s : List Char) : List Char × List Char × Nat :=
  let content := s.takeWhile (· ≠ '>')
  match s.dropWhile (· ≠ '>') with
  | [] => (content, [], Text.byteCount content)
  | _ :: rest => (content, rest, Text.byteCount content + 1)

/-- An end tag without the white space that it ends with, unless there is nothing else. -/
def endName (s : List Char) : List Char :=
  let name := (s.reverse.dropWhile isSpace).reverse
  if name.isEmpty then s else name

/-- Reads an end tag; `s` starts with its slash. -/
def nextEnd (r : Reader) (s : List Char) : Except Failure (Event × Reader) :=
  let (content, rest, size) := untilClose s
  let written := content.drop 1
  let name := endName written
  let wrong (expected found : List Char) : Except Failure (Event × Reader) :=
    .error ⟨r.offset + size - Text.byteCount content, .wrongEnd expected found⟩
  match r.opened with
  | [] => wrong [] written
  | innermost :: outer =>
    if name = innermost then
      .ok (.close name,
        { rest, offset := r.offset + size, inMarkup := false, opened := outer })
    else wrong innermost name

/-- Reads a processing instruction or an XML declaration; `s` starts with its question mark. -/
def nextQuestion (r : Reader) (s : List Char) : Except Failure (Event × Reader) :=
  let (content, rest, size) := untilClose s
  if 2 < content.length && content.getLast? = some '?' then
    let next : Reader := { r with rest, offset := r.offset + size, inMarkup := false }
    let body := (content.drop 1).dropLast
    if 5 < content.length && "xml".toList.isPrefixOf body && (body[3]?.any isSpace) then
      .ok (.declaration ⟨body.take 3, body.drop 3⟩, next)
    else .ok (.instruction, next)
  else .error ⟨r.offset + size - Text.byteCount content, .unfinished .instruction⟩

/-- Reads a start tag or an empty-element tag. -/
def nextTag (r : Reader) (s : List Char) : Except Failure (Event × Reader) :=
  match splitTag none s with
  | none => .error ⟨r.offset, .unfinished .element⟩
  | some (content, rest) =>
    let offset := r.offset + Text.byteCount content + 1
    if content.getLast? = some '/' then
      .ok (.empty (Tag.ofContent content.dropLast), { r with rest, offset, inMarkup := false })
    else
      let tag := Tag.ofContent content
      .ok (.start tag, { rest, offset, inMarkup := false, opened := tag.name :: r.opened })

/-- Reads the markup after a `<`, unless the input ends there. -/
def nextMarkup (r : Reader) : Except Failure (Option (Event × Reader)) :=
  match r.rest with
  | [] => .ok none
  | '!' :: s => some <$> r.nextBang s
  | '/' :: s => some <$> r.nextEnd ('/' :: s)
  | '?' :: s => some <$> r.nextQuestion ('?' :: s)
  | s => some <$> r.nextTag s

/-- Reads the next event, or nothing at the end of the input. -/
def next (r : Reader) : Except Failure (Option (Event × Reader)) :=
  if r.inMarkup then r.nextMarkup
  else
    let blank := r.rest.takeWhile isSpace
    let offset := r.offset + Text.byteCount blank
    match r.rest.dropWhile isSpace with
    | [] => .ok none
    | '<' :: rest => nextMarkup { r with rest, offset := offset + 1, inMarkup := true }
    | c :: s =>
      let content := (c :: s).takeWhile (· ≠ '<')
      let text := (content.reverse.dropWhile isSpace).reverse
      match (c :: s).dropWhile (· ≠ '<') with
      | [] =>
        let offset := offset + Text.byteCount content
        .ok (some (.text text, { r with rest := [], offset, inMarkup := true }))
      | _ :: rest =>
        let offset := offset + Text.byteCount content + 1
        .ok (some (.text text, { r with rest, offset, inMarkup := true }))

/-! ### Every event consumes something -/

theorem length_dropWhile_le (p : Char → Bool) (s : List Char) :
    (s.dropWhile p).length ≤ s.length :=
  (List.dropWhile_sublist p).length_le

theorem nextBang_length {r r' : Reader} {s : List Char} {e : Event}
    (h : r.nextBang s = .ok (e, r')) : r'.rest.length < s.length := by
  unfold nextBang at h
  split at h
  · simp at h
  · simp only at h
    repeat' split at h
    all_goals try simp at h
    all_goals
      rename_i hs _ _ _
      have := splitAtClose_length hs
      simp only [← h.2]
      exact this

theorem untilClose_length {s content rest : List Char} {size : Nat} (hs : s ≠ [])
    (h : untilClose s = (content, rest, size)) : rest.length < s.length := by
  unfold untilClose at h
  have hpos := List.length_pos_iff.2 hs
  have hle := length_dropWhile_le (fun x => decide (x ≠ '>')) s
  simp only at h
  split at h
  · simp only [Prod.mk.injEq] at h
    simp [← h.2.1, hpos]
  · rename_i hd
    simp only [Prod.mk.injEq] at h
    rw [hd] at hle
    simp only [List.length_cons] at hle
    rw [← h.2.1]; omega

theorem nextEnd_length {r r' : Reader} {s : List Char} {e : Event} (hs : s ≠ [])
    (h : r.nextEnd s = .ok (e, r')) : r'.rest.length < s.length := by
  unfold nextEnd at h
  generalize hu : untilClose s = u at h
  obtain ⟨content, rest, size⟩ := u
  have := untilClose_length hs hu
  simp only at h
  split at h
  · simp at h
  · split at h
    · simp only [Except.ok.injEq, Prod.mk.injEq] at h
      rw [← h.2]; exact this
    · simp at h

theorem nextQuestion_length {r r' : Reader} {s : List Char} {e : Event} (hs : s ≠ [])
    (h : r.nextQuestion s = .ok (e, r')) : r'.rest.length < s.length := by
  unfold nextQuestion at h
  generalize hu : untilClose s = u at h
  obtain ⟨content, rest, size⟩ := u
  have := untilClose_length hs hu
  simp only at h
  split at h
  · split at h <;> simp only [Except.ok.injEq, Prod.mk.injEq] at h <;> rw [← h.2] <;> exact this
  · simp at h

theorem nextTag_length {r r' : Reader} {s : List Char} {e : Event}
    (h : r.nextTag s = .ok (e, r')) : r'.rest.length < s.length := by
  unfold nextTag at h
  split at h
  · simp at h
  · rename_i hs
    have := splitTag_length hs
    simp only at h
    split at h <;> simp only [Except.ok.injEq, Prod.mk.injEq] at h <;> rw [← h.2] <;> exact this

theorem nextMarkup_length {r r' : Reader} {e : Event}
    (h : r.nextMarkup = .ok (some (e, r'))) : r'.rest.length < r.rest.length := by
  unfold nextMarkup at h
  split at h
  · simp at h
  · rename_i s hr
    obtain ⟨⟨e', r''⟩, hb, he⟩ := map_eq_ok h
    cases he
    have := nextBang_length hb
    rw [hr]; simp only [List.length_cons]; omega
  · rename_i s hr
    obtain ⟨⟨e', r''⟩, hb, he⟩ := map_eq_ok h
    cases he
    rw [hr]; exact nextEnd_length (by simp) hb
  · rename_i s hr
    obtain ⟨⟨e', r''⟩, hb, he⟩ := map_eq_ok h
    cases he
    rw [hr]; exact nextQuestion_length (by simp) hb
  · obtain ⟨⟨e', r''⟩, hb, he⟩ := map_eq_ok h
    cases he
    exact nextTag_length hb
where
  map_eq_ok {x : Except Failure (Event × Reader)} {y : Option (Event × Reader)}
      (h : some <$> x = Except.ok y) : ∃ z, x = .ok z ∧ some z = y := by
    cases x with
    | error e => simp [Functor.map, Except.map] at h
    | ok z => exact ⟨z, rfl, by simpa [Functor.map, Except.map] using h⟩

/-- Reading an event leaves less to read. -/
theorem next_length_lt {r r' : Reader} {e : Event} (h : r.next = .ok (some (e, r'))) :
    r'.rest.length < r.rest.length := by
  unfold next at h
  split at h
  · exact nextMarkup_length h
  · have hle := length_dropWhile_le isSpace r.rest
    simp only at h
    split at h
    · simp at h
    · rename_i rest hd
      have := nextMarkup_length h
      rw [hd] at hle
      simp only [List.length_cons] at hle this
      omega
    · rename_i c s hc hd
      rw [hd] at hle
      have hle' := length_dropWhile_le (fun x => decide (x ≠ '<')) (c :: s)
      split at h
      · simp only [Except.ok.injEq, Option.some.injEq, Prod.mk.injEq] at h
        rw [← h.2]
        simp only [List.length_cons, List.length_nil] at hle ⊢
        omega
      · rename_i hr
        simp only [Except.ok.injEq, Option.some.injEq, Prod.mk.injEq] at h
        rw [hr] at hle'
        rw [← h.2]
        simp only [List.length_cons] at hle hle' ⊢
        omega

end Reader

/-! ### The whole document -/

/-- The events of a document in order, and the fault that ended them unless the end of the input
did. -/
structure Reading where
  events : List Event
  failure? : Option Failure
deriving DecidableEq, Repr

/-- Reads all events that are left. -/
def Reader.readAll (r : Reader) : Reading :=
  match _h : r.next with
  | .error f => ⟨[], some f⟩
  | .ok none => ⟨[], none⟩
  | .ok (some (e, r')) =>
    let rest := r'.readAll
    ⟨e :: rest.events, rest.failure?⟩
termination_by r.rest.length
decreasing_by exact Reader.next_length_lt _h

/-- The events of a document. -/
def Reading.ofChars (s : List Char) : Reading := (Reader.ofChars s).readAll

end MapServices.Xml
