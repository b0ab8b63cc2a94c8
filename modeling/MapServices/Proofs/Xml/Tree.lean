import MapServices.Proofs.Failure
import MapServices.Proofs.Xml.Reading
import MapServices.Xml.Element

/-!
# The root of a tree

The root element of a tree is the one whose tag comes first in the document, although it is put in
place only when it ends. Nothing that stands before that tag has a part in the tree.

* `TreeBuilder.rootName?_add`: putting an event into a tree changes no name of a root.
* `Element.ofReading_before`: the tree is that of the events from the first tag on.
* `Element.name_of_ofReading`, `Element.ofReading_ne_noRoot`: after a first tag there is a root, and
  it has the name of that tag.
-/

namespace MapServices.Xml

namespace TreeBuilder

variable {b b' : TreeBuilder} {event : Event} {events : List Event} {error : TreeError}

theorem addAll_cons_of_eq (h : b.add event = .ok b') (events : List Event) :
    b.addAll (event :: events) = b'.addAll events := by
  rw [addAll, List.foldlM_cons, h]
  rfl

theorem addAll_append_of_eq (h : b.addAll events = .ok b') (more : List Event) :
    b.addAll (events ++ more) = b'.addAll more := by
  unfold addAll at h ⊢
  rw [List.foldlM_append, h]
  rfl

theorem exists_of_addAll_append {more : List Event} (h : b.addAll (events ++ more) = .ok b') :
    ∃ between, b.addAll events = .ok between ∧ between.addAll more = .ok b' := by
  unfold addAll at h ⊢
  rw [List.foldlM_append] at h
  exact Failure.bind_eq_ok.1 h

theorem addAll_singleton (b : TreeBuilder) (event : Event) : b.addAll [event] = b.add event := by
  cases h : b.add event <;> rw [addAll, List.foldlM_cons, h] <;> rfl

/-- The name of the root, or of the outermost open element as long as there is no root. -/
def rootName? (b : TreeBuilder) : Option String :=
  (b.root?.map (·.name)).or (b.opened.getLast?.map (·.name))

theorem map_getLast?_cons {e e' : Element} (h : e.name = e'.name) (outer : List Element) :
    (e :: outer).getLast?.map (·.name) = (e' :: outer).getLast?.map (·.name) := by
  cases outer with
  | nil => simp [h]
  | cons parent outer => rfl

/-- A finished element goes into the innermost open one, or becomes the root. -/
theorem rootName?_attach {e : Element} (h : b.attach e = .ok b') :
    b'.rootName? = (b.root?.map (·.name)).or ((e :: b.opened).getLast?.map (·.name)) := by
  unfold attach at h
  split at h
  · rename_i parent outer hopened
    cases h
    have hname : (parent.appendChild e).name = parent.name := rfl
    rw [rootName?, hopened, map_getLast?_cons hname]
    rfl
  · rename_i hopened hroot
    cases h
    rw [rootName?, hroot, hopened]
    rfl
  · cases h

theorem rootName?_addText (content : Except EntityError (List Char))
    (h : b.addText content = .ok b') : b'.rootName? = b.rootName? := by
  unfold addText at h
  split at h
  · cases h
    rfl
  · rename_i top outer hopened
    split at h
    · rename_i text
      cases h
      have hname : (top.appendText text).name = top.name := rfl
      rw [rootName?, rootName?, hopened, map_getLast?_cons hname]
    · cases h

theorem name_ofTag {tag : Tag} {e : Element} (h : Element.ofTag tag = .ok e) :
    e.name = String.ofList tag.localName := by
  obtain ⟨attributes, -, h⟩ := Failure.bind_eq_ok.1 h
  split at h
  · cases h
  · cases h
    rfl

/-- An element inside another one is not the outermost one. -/
theorem rootName?_cons {name : String} (h : b.rootName? = some name) (e : Element) :
    (b.root?.map (·.name)).or ((e :: b.opened).getLast?.map (·.name)) = some name := by
  rw [← h, rootName?]
  cases hopened : b.opened with
  | nil =>
    cases hroot : b.root? with
    | none =>
      rw [rootName?, hopened, hroot] at h
      cases h
    | some root => rfl
  | cons top outer => rw [List.getLast?_cons_cons]

/-- The name of a root stays as it is. -/
theorem rootName?_add {name : String} (hname : b.rootName? = some name)
    (h : b.add event = .ok b') : b'.rootName? = some name := by
  cases event with
  | start tag =>
    obtain ⟨e, -, h⟩ := Failure.bind_eq_ok.1 h
    cases h
    exact rootName?_cons hname e
  | empty tag =>
    obtain ⟨e, -, h⟩ := Failure.bind_eq_ok.1 h
    rw [rootName?_attach h]
    exact rootName?_cons hname e
  | close closed =>
    rw [add] at h
    split at h
    · cases h
    · rename_i e outer hopened
      rw [rootName?_attach h, ← hname, rootName?, hopened]
  | text raw => rw [rootName?_addText (unescape raw) h, hname]
  | cdata content => rw [rootName?_addText (.ok content) h, hname]
  | comment | declaration _ | instruction | doctype =>
    cases h
    exact hname

theorem rootName?_addAll {name : String} (hname : b.rootName? = some name)
    (h : b.addAll events = .ok b') : b'.rootName? = some name := by
  induction events generalizing b with
  | nil =>
    cases h
    exact hname
  | cons event events ih =>
    rw [addAll, List.foldlM_cons] at h
    obtain ⟨next, hnext, h⟩ := Failure.bind_eq_ok.1 h
    exact ih (rootName?_add hname hnext) h

/-- The first tag names the root. -/
theorem rootName?_of_add_tag {tag : Tag} (htag : event.tag? = some tag)
    (h : add {} event = .ok b) : b.rootName? = some (String.ofList tag.localName) := by
  cases event with
  | start first =>
    cases htag
    obtain ⟨e, he, h⟩ := Failure.bind_eq_ok.1 h
    cases h
    exact congrArg some (name_ofTag he)
  | empty first =>
    cases htag
    obtain ⟨e, he, h⟩ := Failure.bind_eq_ok.1 h
    cases h
    exact congrArg some (name_ofTag he)
  | _ => cases htag

/-! ### Faults -/

theorem exists_of_ofTag_error {tag : Tag} (h : Element.ofTag tag = .error error) :
    (∃ fault, error = .badAttribute fault) ∨ ∃ fault, error = .badReference fault := by
  rcases Failure.bind_eq_error.1 h with h | ⟨attributes, -, h⟩
  · obtain ⟨entry, -, h⟩ := Failure.exists_of_mapM_eq_error h
    unfold Attribute.entry at h
    split at h
    · cases h
    · cases h
      exact .inr ⟨_, rfl⟩
  · split at h
    · cases h
      exact .inl ⟨_, rfl⟩
    · cases h

/-- An event that does not fit in is no fault of the reader, and no lack of a root. -/
theorem exists_of_add_error (h : b.add event = .error error) :
    (∃ fault, error = .badAttribute fault) ∨ (∃ fault, error = .badReference fault) ∨
      error = .unbalancedEnd ∨ error = .severalRoots := by
  have hattach : ∀ {b : TreeBuilder} {e : Element}, b.attach e = .error error →
      error = .severalRoots := by
    intro b e h
    unfold attach at h
    split at h <;> cases h
    rfl
  have htext : ∀ content : Except EntityError (List Char), b.addText content = .error error →
      ∃ fault, error = .badReference fault := by
    intro content h
    unfold addText at h
    split at h
    · cases h
    · split at h <;> cases h
      exact ⟨_, rfl⟩
  cases event with
  | start tag =>
    rcases Failure.bind_eq_error.1 h with h | ⟨e, -, h⟩
    · exact (exists_of_ofTag_error h).imp_right .inl
    · cases h
  | empty tag =>
    rcases Failure.bind_eq_error.1 h with h | ⟨e, -, h⟩
    · exact (exists_of_ofTag_error h).imp_right .inl
    · exact .inr (.inr (.inr (hattach h)))
  | close closed =>
    rw [add] at h
    split at h
    · cases h
      exact .inr (.inr (.inl rfl))
    · exact .inr (.inr (.inr (hattach h)))
  | text raw => exact .inr (.inl (htext (unescape raw) h))
  | cdata content => exact .inr (.inl (htext (.ok content) h))
  | comment | declaration _ | instruction | doctype => cases h

theorem exists_of_addAll_error (h : b.addAll events = .error error) :
    ∃ b' event, event ∈ events ∧ add b' event = .error error := by
  induction events generalizing b with
  | nil => cases h
  | cons event events ih =>
    rw [addAll, List.foldlM_cons] at h
    rcases Failure.bind_eq_error.1 h with h | ⟨next, -, h⟩
    · exact ⟨b, event, List.mem_cons_self, h⟩
    · obtain ⟨b', event', hmem, h⟩ := ih h
      exact ⟨b', event', List.mem_cons_of_mem _ hmem, h⟩

end TreeBuilder

namespace Element

open TreeBuilder

variable {events : List Event} {event : Event} {failure? : Option Failure} {tag : Tag}

/-- Events that start no element and end none do not get into a tree. -/
theorem addAll_before {before : List Event}
    (h : ∀ e ∈ before, e.openedAfter? [] = some [] ∧ e.tag? = none) :
    TreeBuilder.addAll {} before = .ok {} := by
  induction before with
  | nil => rfl
  | cons e before ih =>
    obtain ⟨⟨hopened, htag⟩, hbefore⟩ := List.forall_mem_cons.1 h
    have hadd : TreeBuilder.add {} e = .ok {} := by
      cases e with
      | start tag => cases htag
      | empty tag => cases htag
      | close name => cases hopened
      | _ => rfl
    rw [TreeBuilder.addAll, List.foldlM_cons, hadd]
    exact ih hbefore

/-- What stands before the first tag has no part in the tree. -/
theorem ofReading_before {before : List Event}
    (h : ∀ e ∈ before, e.openedAfter? [] = some [] ∧ e.tag? = none) :
    ofReading ⟨before ++ events, failure?⟩ = ofReading ⟨events, failure?⟩ := by
  have hall : TreeBuilder.addAll {} (before ++ events) = TreeBuilder.addAll {} events := by
    have hbefore := addAll_before h
    unfold TreeBuilder.addAll at hbefore ⊢
    rw [List.foldlM_append, hbefore]
    rfl
  simp only [ofReading, hall]

/-- The tree of a document is that of what is read from its first tag on. -/
theorem ofChars_of_atRoot {data : List Char} {start inside : Reader}
    (h : (Reader.ofChars data).AtRoot start event tag inside) :
    ofChars data = ofReading ⟨event :: inside.readAll.events, inside.readAll.failure?⟩ := by
  obtain ⟨before, hreads, hbefore⟩ := h.reads
  rw [ofChars, Reading.ofChars, hreads.readAll_eq, ofReading_before hbefore, h.readAll_eq]

/-- A tree fails at an event that does not fit in, at the fault of the reader, or at the end. -/
theorem cases_of_ofReading_error {error : TreeError}
    (h : ofReading ⟨events, failure?⟩ = .error error) :
    (∃ b event, event ∈ events ∧ TreeBuilder.add b event = .error error) ∨
      (∃ f, failure? = some f ∧ error = .unreadable f) ∨
      ∃ b, TreeBuilder.addAll {} events = .ok b ∧ b.finish = .error error := by
  rcases Failure.bind_eq_error.1 h with h | ⟨b, hb, h⟩
  · exact .inl (exists_of_addAll_error h)
  · cases failure? with
    | some f =>
      cases h
      exact .inr (.inl ⟨f, rfl, rfl⟩)
    | none => exact .inr (.inr ⟨b, hb, h⟩)

/-- The first tag names what the tree is built in. -/
theorem rootName?_of_addAll {b : TreeBuilder} (htag : event.tag? = some tag)
    (h : TreeBuilder.addAll {} (event :: events) = .ok b) :
    b.rootName? = some (String.ofList tag.localName) := by
  rw [TreeBuilder.addAll, List.foldlM_cons] at h
  obtain ⟨first, hfirst, h⟩ := Failure.bind_eq_ok.1 h
  exact rootName?_addAll (rootName?_of_add_tag htag hfirst) h

/-- The root has the name of the first tag. -/
theorem name_of_ofReading {root : Element} (htag : event.tag? = some tag)
    (h : ofReading ⟨event :: events, failure?⟩ = .ok root) :
    root.name = String.ofList tag.localName := by
  obtain ⟨b, hb, h⟩ := Failure.bind_eq_ok.1 h
  have hname := rootName?_of_addAll htag hb
  cases failure? with
  | some f => cases h
  | none =>
    change b.finish = .ok root at h
    unfold finish at h
    split at h
    · cases h
    · rename_i hroot
      cases h
      rw [rootName?, hroot] at hname
      exact Option.some.inj hname
    · cases h

/-- A document with a tag does not lack a root. -/
theorem ofReading_ne_noRoot (htag : event.tag? = some tag) :
    ofReading ⟨event :: events, failure?⟩ ≠ .error .noRoot := by
  intro h
  rcases cases_of_ofReading_error h with ⟨b, e, -, h⟩ | ⟨f, -, h⟩ | ⟨b, hb, h⟩
  · rcases exists_of_add_error h with ⟨fault, h⟩ | ⟨fault, h⟩ | h | h <;> cases h
  · cases h
  · have hname := rootName?_of_addAll htag hb
    unfold finish at h
    split at h
    · cases h
    · cases h
    · rename_i hopened hroot
      rw [rootName?, hopened, hroot] at hname
      cases hname

/-- The fault of the reader is the only one of its kind. -/
theorem failure?_of_ofReading_unreadable {f : Failure}
    (h : ofReading ⟨events, failure?⟩ = .error (.unreadable f)) : failure? = some f := by
  rcases cases_of_ofReading_error h with ⟨b, e, -, h⟩ | ⟨f', hf, h⟩ | ⟨b, -, h⟩
  · rcases exists_of_add_error h with ⟨fault, h⟩ | ⟨fault, h⟩ | h | h <;> cases h
  · cases h
    exact hf
  · unfold finish at h
    split at h <;> cases h

end Element

end MapServices.Xml
