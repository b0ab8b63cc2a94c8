import Mathlib.Data.List.Induction
import MapServices.Proofs.Xml.Tree

/-!
# Documents with one balanced root

The tags of a document are those of one element. Its tree has the text and the elements that stand
directly between two tags, in order, and what stands outside of the root has no part in it.

* `Fills`, `Forms`, `IsDocument`: the events inside of an element, of an element with its tags, and
  of a document.
* `Leaves`: what the events so far leave of a tree under construction. `Leaves.add` is about one
  event, and `TreeBuilder.addAll_eq_ok_iff` about all.
* `Element.ofReading_eq_ok_iff`: the documents are just the rows of events that have a tree.
-/

namespace MapServices.Xml

/-! ### Events of documents -/

/-- The event neither starts an element nor ends one. -/
def Event.isContent : Event → Bool
  | start _ | empty _ | close _ => false
  | _ => true

/-- The event says nothing of an element in which it stands. -/
def Event.isAside : Event → Bool
  | comment | declaration _ | instruction | doctype => true
  | _ => false

/-- The element with a text and children in place of its own. -/
def Element.filled (e : Element) (text : List Char) (children : List Element) : Element :=
  { e with text := String.ofList text, children }

/-- The events stand inside of an element that has the text and the children from them. -/
inductive Fills : List Event → List Char → List Element → Prop where
  | nil : Fills [] [] []
  | text {events : List Event} {raw content text : List Char} {children : List Element}
    (hraw : unescape raw = .ok content) (hrest : Fills events text children) :
    Fills (.text raw :: events) (content ++ text) children
  | cdata {events : List Event} {text : List Char} {children : List Element}
    (content : List Char) (hrest : Fills events text children) :
    Fills (.cdata content :: events) (content ++ text) children
  | aside {events : List Event} {event : Event} {text : List Char} {children : List Element}
    (haside : event.isAside) (hrest : Fills events text children) :
    Fills (event :: events) text children
  | empty {events : List Event} {tag : Tag} {e : Element} {text : List Char}
    {children : List Element} (htag : Element.ofTag tag = .ok e)
    (hrest : Fills events text children) :
    Fills (.empty tag :: events) text (e :: children)
  | tags {inside events : List Event} {tag : Tag} {e : Element} {name innerText text : List Char}
    {innerChildren children : List Element} (htag : Element.ofTag tag = .ok e)
    (hinside : Fills inside innerText innerChildren) (hrest : Fills events text children) :
    Fills (.start tag :: (inside ++ .close name :: events)) text
      (e.filled innerText innerChildren :: children)

/-- The events are those of one element. -/
inductive Forms : List Event → Element → Prop where
  | empty {tag : Tag} {e : Element} (htag : Element.ofTag tag = .ok e) : Forms [.empty tag] e
  | tags {inside : List Event} {tag : Tag} {e : Element} {name text : List Char}
    {children : List Element} (htag : Element.ofTag tag = .ok e)
    (hinside : Fills inside text children) :
    Forms (.start tag :: (inside ++ [.close name])) (e.filled text children)

/-- The events are those of one element, with no other tags before it and after it. -/
def IsDocument (events : List Event) (root : Element) : Prop :=
  ∃ before inside after, events = before ++ inside ++ after ∧ (∀ x ∈ before, x.isContent) ∧
    Forms inside root ∧ ∀ x ∈ after, x.isContent

variable {before inside after events more : List Event} {event : Event} {tag : Tag}
  {e root : Element} {raw text : List Char} {children : List Element}

theorem Fills.append {text' : List Char} {children' : List Element}
    (h : Fills events text children) (hmore : Fills more text' children') :
    Fills (events ++ more) (text ++ text') (children ++ children') := by
  induction h with
  | nil => exact hmore
  | text hraw _ ih =>
    rw [List.append_assoc]
    exact .text hraw ih
  | cdata content _ ih =>
    rw [List.append_assoc]
    exact .cdata content ih
  | aside haside _ ih => exact .aside haside ih
  | empty htag _ ih => exact .empty htag ih
  | tags htag hinside _ _ ih =>
    rw [List.cons_append, List.append_assoc, List.cons_append]
    exact .tags htag hinside ih

theorem Forms.fills (h : Forms inside e) : Fills inside [] [e] := by
  cases h with
  | empty htag => exact .empty htag .nil
  | tags htag hinside => exact .tags htag hinside .nil

theorem IsDocument.append (h : IsDocument events root) (hmore : ∀ x ∈ more, x.isContent) :
    IsDocument (events ++ more) root := by
  obtain ⟨before, inside, after, rfl, hbefore, hforms, hafter⟩ := h
  refine ⟨before, inside, after ++ more, by simp only [List.append_assoc], hbefore, hforms, ?_⟩
  intro x hx
  exact (List.mem_append.1 hx).elim (hafter x) (hmore x)

/-! ### What becomes of them in a tree -/

/-- The element that a tag starts has nothing inside yet. -/
theorem Element.filled_of_ofTag (h : Element.ofTag tag = .ok e) : e.filled [] [] = e := by
  obtain ⟨attributes, -, h⟩ := Failure.bind_eq_ok.1 h
  split at h
  · cases h
  · cases h
    rfl

namespace TreeBuilder

variable {b b' : TreeBuilder}

/-- The tree under construction with more inside of the innermost open element. -/
def fill (b : TreeBuilder) (text : List Char) (children : List Element) : TreeBuilder :=
  match b.opened with
  | [] => b
  | top :: outer =>
    { b with
      opened := { top with
        text := top.text ++ String.ofList text
        children := top.children ++ children } :: outer }

theorem fill_nil (b : TreeBuilder) : b.fill [] [] = b := by
  obtain ⟨_ | ⟨top, outer⟩, root?⟩ := b
  · rfl
  · cases top
    simp [fill]

theorem fill_fill (b : TreeBuilder) (text text' : List Char) (children children' : List Element) :
    (b.fill text children).fill text' children' =
      b.fill (text ++ text') (children ++ children') := by
  obtain ⟨_ | ⟨top, outer⟩, root?⟩ := b
  · rfl
  · simp [fill, String.append_assoc]

theorem opened_fill (h : b.opened ≠ []) (text : List Char) (children : List Element) :
    (b.fill text children).opened ≠ [] := by
  obtain ⟨_ | ⟨top, outer⟩, root?⟩ := b
  · exact absurd rfl h
  · exact List.cons_ne_nil _ _

/-- All that is inside of an element comes from the events behind its tag. -/
theorem fill_start (b : TreeBuilder) (htag : Element.ofTag tag = .ok e) (text : List Char)
    (children : List Element) :
    fill { b with opened := e :: b.opened } text children =
      { b with opened := e.filled text children :: b.opened } := by
  rw [← Element.filled_of_ofTag htag]
  simp [fill, Element.filled]

/-! ### One event, and a row of them -/

theorem attach_of_opened (h : b.opened ≠ []) (e : Element) : b.attach e = .ok (b.fill [] [e]) := by
  obtain ⟨_ | ⟨top, outer⟩, root?⟩ := b
  · exact absurd rfl h
  · simp [attach, fill, Element.appendChild]

theorem addText_ok (b : TreeBuilder) (text : List Char) :
    b.addText (.ok text) = .ok (b.fill text []) := by
  obtain ⟨_ | ⟨top, outer⟩, root?⟩ := b
  · rfl
  · simp [addText, fill, Element.appendText]

theorem add_start (b : TreeBuilder) (htag : Element.ofTag tag = .ok e) :
    b.add (.start tag) = .ok { b with opened := e :: b.opened } := by
  rw [add, htag]
  rfl

theorem add_empty (b : TreeBuilder) (htag : Element.ofTag tag = .ok e) :
    b.add (.empty tag) = b.attach e := by
  rw [add, htag]
  rfl

theorem add_text (b : TreeBuilder) {content : List Char} (hraw : unescape raw = .ok content) :
    b.add (.text raw) = .ok (b.fill content []) := by
  rw [add, hraw, addText_ok]

theorem add_cdata (b : TreeBuilder) (content : List Char) :
    b.add (.cdata content) = .ok (b.fill content []) := b.addText_ok content

theorem add_close (b : TreeBuilder) (e : Element) (name : List Char) :
    add { b with opened := e :: b.opened } (.close name) = b.attach e := rfl

theorem add_aside (b : TreeBuilder) (h : event.isAside) : b.add event = .ok b := by
  cases event with
  | comment | declaration _ | instruction | doctype => rfl
  | start _ | empty _ | close _ | text _ | cdata _ => cases h

/-- Outside of every element, only tags count. -/
theorem add_content (hopened : b.opened = []) (h : event.isContent) : b.add event = .ok b := by
  cases event with
  | start _ | empty _ | close _ => cases h
  | text raw => rw [add, addText, hopened]
  | cdata content => rw [add, addText, hopened]
  | comment | declaration _ | instruction | doctype => rfl

theorem addAll_content (hopened : b.opened = []) (h : ∀ x ∈ events, x.isContent) :
    b.addAll events = .ok b := by
  induction events with
  | nil => rfl
  | cons event events ih =>
    obtain ⟨hevent, hevents⟩ := List.forall_mem_cons.1 h
    rw [addAll_cons_of_eq (add_content hopened hevent), ih hevents]

/-- Inside of an element, an event that is no tag adds to its text. -/
theorem exists_of_add_content (hopened : b.opened ≠ []) (hevent : event.isContent)
    (h : b.add event = .ok b') : ∃ text, Fills [event] text [] ∧ b' = b.fill text [] := by
  cases event with
  | start _ | empty _ | close _ => cases hevent
  | text raw =>
    rw [add] at h
    cases hraw : unescape raw with
    | ok content =>
      rw [hraw, addText_ok] at h
      cases h
      exact ⟨content, by simpa using Fills.text hraw .nil, rfl⟩
    | error fault =>
      rw [hraw, addText] at h
      split at h
      · contradiction
      · cases h
  | cdata content =>
    cases h.symm.trans (b.add_cdata content)
    exact ⟨content, by simpa using Fills.cdata content .nil, rfl⟩
  | comment | declaration _ | instruction | doctype =>
    cases h
    exact ⟨[], .aside rfl .nil, b.fill_nil.symm⟩

/-- Events that stand inside of an element are put into the innermost open one. -/
theorem addAll_fills (h : Fills events text children) (hopened : b.opened ≠ []) :
    b.addAll events = .ok (b.fill text children) := by
  induction h generalizing b with
  | nil => exact congrArg Except.ok b.fill_nil.symm
  | text hraw _ ih =>
    rw [addAll_cons_of_eq (b.add_text hraw), ih (opened_fill hopened _ _), fill_fill]
    rfl
  | cdata content _ ih =>
    rw [addAll_cons_of_eq (b.add_cdata content), ih (opened_fill hopened _ _), fill_fill]
    rfl
  | aside haside _ ih => rw [addAll_cons_of_eq (b.add_aside haside), ih hopened]
  | empty htag _ ih =>
    have hadd := (b.add_empty htag).trans (attach_of_opened hopened _)
    rw [addAll_cons_of_eq hadd, ih (opened_fill hopened _ _), fill_fill]
    rfl
  | tags htag _ _ ihinside ih =>
    rw [addAll_cons_of_eq (b.add_start htag),
      addAll_append_of_eq (ihinside (List.cons_ne_nil _ _)), b.fill_start htag,
      addAll_cons_of_eq ((b.add_close _ _).trans (attach_of_opened hopened _)),
      ih (opened_fill hopened _ _), fill_fill]
    rfl

/-- The events of an element attach it. -/
theorem addAll_forms (h : Forms inside e) (b : TreeBuilder) : b.addAll inside = b.attach e := by
  cases h with
  | empty htag => rw [addAll_singleton, b.add_empty htag]
  | tags htag hinside =>
    rw [addAll_cons_of_eq (b.add_start htag),
      addAll_append_of_eq (addAll_fills hinside (List.cons_ne_nil _ _)), b.fill_start htag,
      addAll_singleton, b.add_close]

theorem addAll_document (h : IsDocument events root) :
    addAll {} events = .ok { root? := some root } := by
  obtain ⟨before, inside, after, rfl, hbefore, hforms, hafter⟩ := h
  rw [List.append_assoc, addAll_append_of_eq (addAll_content rfl hbefore),
    addAll_append_of_eq (addAll_forms hforms {}), addAll_content rfl hafter]

end TreeBuilder

/-! ### What a row of events leaves -/

open TreeBuilder

variable {b b' : TreeBuilder}

/-- The tree under construction is what the events leave: no element, a document, or open elements
that hold what stands inside of them so far. -/
inductive Leaves : List Event → TreeBuilder → Prop where
  | outside {events : List Event} (hcontent : ∀ x ∈ events, x.isContent) : Leaves events {}
  | done {events : List Event} {root : Element} (hdoc : IsDocument events root) :
    Leaves events { root? := some root }
  | inside {before inside : List Event} {b : TreeBuilder} {tag : Tag} {e : Element}
    {text : List Char} {children : List Element} (hbefore : Leaves before b)
    (htag : Element.ofTag tag = .ok e) (hinside : Fills inside text children) :
    Leaves (before ++ .start tag :: inside)
      { b with opened := e.filled text children :: b.opened }

namespace Leaves

theorem addAll_eq (h : Leaves events b) : addAll {} events = .ok b := by
  induction h with
  | outside hcontent => exact addAll_content rfl hcontent
  | done hdoc => exact addAll_document hdoc
  | @inside before inside b tag e text children _ htag hinside ih =>
    rw [addAll_append_of_eq ih, addAll_cons_of_eq (b.add_start htag),
      addAll_fills hinside (List.cons_ne_nil _ _), b.fill_start htag]

theorem fill (h : Leaves events b) (hopened : b.opened ≠ []) (hmore : Fills more text children) :
    Leaves (events ++ more) (b.fill text children) := by
  cases h with
  | outside _ => exact absurd rfl hopened
  | done _ => exact absurd rfl hopened
  | @inside before inside b tag e text' children' hbefore htag hinside =>
    rw [List.append_assoc, ← b.fill_start htag, fill_fill, b.fill_start htag]
    exact .inside hbefore htag (hinside.append hmore)

/-- Outside of every element, an event that is no tag leaves the tree as it is. -/
theorem content (h : Leaves events b) (hopened : b.opened = []) (hevent : event.isContent) :
    Leaves (events ++ [event]) b := by
  have hmore : ∀ x ∈ [event], x.isContent := List.forall_mem_singleton.2 hevent
  cases h with
  | outside hcontent => exact .outside (List.forall_mem_append.2 ⟨hcontent, hmore⟩)
  | done hdoc => exact .done (hdoc.append hmore)
  | inside _ _ _ => cases hopened

theorem attach (h : Leaves events b) (hforms : Forms inside e) (hb : b.attach e = .ok b') :
    Leaves (events ++ inside) b' := by
  cases h with
  | outside hcontent =>
    cases hb
    exact .done ⟨events, inside, [], (List.append_nil _).symm, hcontent, hforms, by simp⟩
  | done _ => cases hb
  | inside hbefore htag hinside =>
    rw [attach_of_opened (List.cons_ne_nil _ _)] at hb
    cases hb
    exact (Leaves.inside hbefore htag hinside).fill (List.cons_ne_nil _ _) hforms.fills

/-- One more event leaves what the tree is with it. -/
theorem add (h : Leaves events b) (hb : b.add event = .ok b') : Leaves (events ++ [event]) b' := by
  cases event with
  | start tag =>
    obtain ⟨e, htag, hb⟩ := Failure.bind_eq_ok.1 hb
    cases hb
    have hleaves := h.inside htag .nil
    rwa [Element.filled_of_ofTag htag] at hleaves
  | empty tag =>
    obtain ⟨e, htag, hb⟩ := Failure.bind_eq_ok.1 hb
    exact h.attach (.empty htag) hb
  | close name =>
    cases h with
    | outside _ => cases hb
    | done _ => cases hb
    | @inside before inside b tag e text children hbefore htag hinside =>
      rw [b.add_close] at hb
      rw [List.append_assoc, List.cons_append]
      exact hbefore.attach (.tags htag hinside) hb
  | text _ | cdata _ | comment | declaration _ | instruction | doctype =>
    by_cases hopened : b.opened = []
    · cases (add_content hopened rfl).symm.trans hb
      exact h.content hopened rfl
    · obtain ⟨text, hfills, rfl⟩ := exists_of_add_content hopened rfl hb
      exact h.fill hopened hfills

end Leaves

theorem TreeBuilder.addAll_eq_ok_iff : addAll {} events = .ok b ↔ Leaves events b := by
  refine ⟨fun h => ?_, Leaves.addAll_eq⟩
  induction events using List.reverseRecOn generalizing b with
  | nil =>
    cases h
    exact .outside (List.forall_mem_nil _)
  | append_singleton events event ih =>
    obtain ⟨between, hbetween, h⟩ := exists_of_addAll_append h
    rw [addAll_singleton] at h
    exact (ih hbetween).add h

namespace Element

theorem ofReading_of_addAll (h : addAll {} events = .ok b) :
    ofReading ⟨events, none⟩ = b.finish := by
  rw [ofReading, h]
  rfl

/-- A row of events has a tree just if it is a document, and the tree is the one it spells. -/
theorem ofReading_eq_ok_iff : ofReading ⟨events, none⟩ = .ok root ↔ IsDocument events root := by
  constructor
  · intro h
    obtain ⟨b, hb, h⟩ := Failure.bind_eq_ok.1 h
    cases addAll_eq_ok_iff.1 hb with
    | outside _ => cases h
    | done hdoc =>
      cases h
      exact hdoc
    | inside _ _ _ => cases h
  · intro h
    rw [ofReading_of_addAll (addAll_document h)]
    rfl

end Element

end MapServices.Xml
