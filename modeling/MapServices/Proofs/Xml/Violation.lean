import Mathlib.Tactic.FinCases
import MapServices.Capabilities.Error
import MapServices.Proofs.Xml.Balance

/-!
# Rows of events that are no document

A row of events that is no document is refused for the first event that is out of place or, if all
are in place, for what is missing at the end.

* `IsComplete`, `IsOpen`: no element is open after the events, or one is.
* `Violation`: what is out of place, with the message for it.
* `Leaves.violation_of_add`, `Leaves.violation_of_finish`: one event, and the end.
* `Element.ofReading_accepts_balanced`: documents are accepted with their trees, and all other rows
  are refused for their first violation.
-/

namespace MapServices.Xml

open TreeBuilder

/-- The events have no tags, or are a document. -/
def IsComplete (events : List Event) : Prop :=
  (∀ x ∈ events, x.isContent) ∨ ∃ root, IsDocument events root

/-- The events end inside of an element. -/
inductive IsOpen : List Event → Prop where
  | outer {before inside : List Event} {tag : Tag} {e : Element} {text : List Char}
    {children : List Element} (hbefore : IsComplete before) (htag : Element.ofTag tag = .ok e)
    (hinside : Fills inside text children) : IsOpen (before ++ .start tag :: inside)
  | inner {before inside : List Event} {tag : Tag} {e : Element} {text : List Char}
    {children : List Element} (hbefore : IsOpen before) (htag : Element.ofTag tag = .ok e)
    (hinside : Fills inside text children) : IsOpen (before ++ .start tag :: inside)

/-- All tags have their elements, and all character data inside of elements can be read. -/
structure IsReadable (events : List Event) : Prop where
  tags : ∀ event ∈ events, ∀ tag, event.tag? = some tag → ∃ e, Element.ofTag tag = .ok e
  text : ∀ before raw after, events = before ++ .text raw :: after → IsOpen before →
    ∃ content, unescape raw = .ok content

/-- The first event that is out of place or, at the end, what is missing. The message is what the
caller gets. -/
inductive Violation : List Event → String → Prop where
  /-- An end tag where no element is open. -/
  | unbalanced {before : List Event} (name : List Char) (after : List Event)
    (hbefore : IsComplete before) :
    Violation (before ++ .close name :: after) "Malformed XML: unbalanced end tag"
  /-- The end of an element behind the root. -/
  | several {before inside : List Event} {first second : Element} (after : List Event)
    (hbefore : IsDocument before first) (hinside : Forms inside second) :
    Violation (before ++ inside ++ after) "Malformed XML: multiple root elements"
  /-- An element that does not end, be it the root, inside of it or behind it. -/
  | unclosed {events : List Event} (hopen : IsOpen events) :
    Violation events "Malformed XML: unexpected end of document"
  /-- No element at all. -/
  | missing {events : List Event} (hcontent : ∀ x ∈ events, x.isContent) :
    Violation events "Missing required element: root element"

variable {before inside after events more : List Event} {event : Event} {tag : Tag}
  {e : Element} {b : TreeBuilder} {error : TreeError}

/-- The message that the caller gets for a document without a tree. -/
def TreeError.report (error : TreeError) : String := (DocumentError.ofTreeError error).message

/-- Text that stands outside of every element need not be looked at. -/
theorem IsReadable.of_forall
    (htags : ∀ event ∈ events, ∀ tag, event.tag? = some tag → ∃ e, Element.ofTag tag = .ok e)
    (htext : ∀ raw, .text raw ∈ events → ∃ content, unescape raw = .ok content) :
    IsReadable events :=
  ⟨htags, fun _ raw _ hevents _ => htext raw (by simp [hevents])⟩

theorem IsReadable.of_append (h : IsReadable (events ++ more)) : IsReadable events :=
  ⟨fun event hevent => h.tags event (List.mem_append_left _ hevent),
    fun before raw after hevents => h.text before raw (after ++ more) (by simp [hevents])⟩

theorem IsComplete.leaves (h : IsComplete events) : ∃ b, Leaves events b ∧ b.opened = [] := by
  rcases h with hcontent | ⟨root, hdoc⟩
  · exact ⟨_, .outside hcontent, rfl⟩
  · exact ⟨_, .done hdoc, rfl⟩

theorem IsOpen.leaves (h : IsOpen events) : ∃ b, Leaves events b ∧ b.opened ≠ [] := by
  induction h with
  | outer hbefore htag hinside =>
    obtain ⟨b, hb, -⟩ := hbefore.leaves
    exact ⟨_, .inside hb htag hinside, List.cons_ne_nil _ _⟩
  | inner _ htag hinside ih =>
    obtain ⟨b, hb, -⟩ := ih
    exact ⟨_, .inside hb htag hinside, List.cons_ne_nil _ _⟩

namespace Leaves

theorem isComplete (h : Leaves events b) (hopened : b.opened = []) : IsComplete events := by
  cases h with
  | outside hcontent => exact .inl hcontent
  | done hdoc => exact .inr ⟨_, hdoc⟩
  | inside _ _ _ => cases hopened

theorem isOpen (h : Leaves events b) (hopened : b.opened ≠ []) : IsOpen events := by
  induction h with
  | outside _ => exact absurd rfl hopened
  | done _ => exact absurd rfl hopened
  | @inside before inside b tag e text children hbefore htag hinside ih =>
    by_cases houter : b.opened = []
    · exact .outer (hbefore.isComplete houter) htag hinside
    · exact .inner (ih houter) htag hinside

/-- An element can only be out of place behind the root. -/
theorem violation_of_attach (h : Leaves before b) (hforms : Forms inside e)
    (hb : b.attach e = .error error) (after : List Event) :
    Violation (before ++ inside ++ after) error.report := by
  cases h with
  | outside _ => cases hb
  | done hdoc =>
    cases hb
    exact .several after hdoc hforms
  | inside _ _ _ =>
    rw [attach_of_opened (List.cons_ne_nil _ _)] at hb
    cases hb

/-- The event at which the tree fails is the first violation. -/
theorem violation_of_add (h : Leaves before b)
    (hreadable : IsReadable (before ++ event :: after)) (hb : b.add event = .error error) :
    Violation (before ++ event :: after) error.report := by
  have hmem : event ∈ before ++ event :: after := by simp
  cases event with
  | start tag =>
    obtain ⟨e, htag⟩ := hreadable.tags _ hmem tag rfl
    rw [b.add_start htag] at hb
    cases hb
  | empty tag =>
    obtain ⟨e, htag⟩ := hreadable.tags _ hmem tag rfl
    rw [b.add_empty htag] at hb
    simpa using h.violation_of_attach (.empty htag) hb after
  | close name =>
    cases h with
    | outside hcontent =>
      cases hb
      exact .unbalanced name after (.inl hcontent)
    | done hdoc =>
      cases hb
      exact .unbalanced name after (.inr ⟨_, hdoc⟩)
    | @inside before inside b tag e text children hbefore htag hinside =>
      rw [b.add_close] at hb
      have hforms : Forms (.start tag :: (inside ++ [.close name])) (e.filled text children) :=
        .tags htag hinside
      simpa using hbefore.violation_of_attach hforms hb after
  | text raw =>
    by_cases hopened : b.opened = []
    · cases (add_content hopened rfl).symm.trans hb
    · obtain ⟨content, hraw⟩ := hreadable.text _ _ _ rfl (h.isOpen hopened)
      cases (b.add_text hraw).symm.trans hb
  | cdata content => cases (b.add_cdata content).symm.trans hb
  | comment | declaration _ | instruction | doctype => cases hb

/-- If all events are in place, the tree fails for what is missing at the end. -/
theorem violation_of_finish (h : Leaves events b) (hb : b.finish = .error error) :
    Violation events error.report := by
  cases h with
  | outside hcontent =>
    cases hb
    exact .missing hcontent
  | done _ => cases hb
  | inside hbefore htag hinside =>
    cases hb
    exact .unclosed ((hbefore.inside htag hinside).isOpen (List.cons_ne_nil _ _))

end Leaves

namespace TreeBuilder

theorem addAll_cons_of_error (h : b.add event = .error error) (events : List Event) :
    b.addAll (event :: events) = .error error := by
  rw [addAll, List.foldlM_cons, h]
  rfl

theorem addAll_append_of_error (h : b.addAll events = .error error) (more : List Event) :
    b.addAll (events ++ more) = .error error := by
  unfold addAll at h ⊢
  rw [List.foldlM_append, h]
  rfl

/-- A tree fails at the first event that does not fit into what the events before it left. -/
theorem exists_first_of_addAll_error (h : addAll {} events = .error error) :
    ∃ before event after b, events = before ++ event :: after ∧ Leaves before b ∧
      b.add event = .error error := by
  induction events using List.reverseRecOn with
  | nil => cases h
  | append_singleton events last ih =>
    cases hevents : addAll {} events with
    | error fault =>
      cases (addAll_append_of_error hevents [last]).symm.trans h
      obtain ⟨before, event, after, b, rfl, hb⟩ := ih hevents
      exact ⟨before, event, after ++ [last], b, by simp, hb⟩
    | ok b =>
      rw [addAll_append_of_eq hevents, addAll_singleton] at h
      exact ⟨events, last, [], b, rfl, addAll_eq_ok_iff.1 hevents, h⟩

end TreeBuilder

namespace Element

theorem ofReading_of_addAll_error (h : addAll {} events = .error error) :
    ofReading ⟨events, none⟩ = .error error := by
  rw [ofReading, h]
  rfl

theorem violation_of_ofReading (hreadable : IsReadable events)
    (h : ofReading ⟨events, none⟩ = .error error) : Violation events error.report := by
  rcases Failure.bind_eq_error.1 h with h | ⟨b, hb, h⟩
  · obtain ⟨before, event, after, b, rfl, hleaves, hadd⟩ := exists_first_of_addAll_error h
    exact hleaves.violation_of_add hreadable hadd
  · exact (addAll_eq_ok_iff.1 hb).violation_of_finish h

theorem ofReading_of_violation {message : String} (h : Violation events message) :
    ∃ error, ofReading ⟨events, none⟩ = .error error ∧ error.report = message := by
  cases h with
  | @unbalanced before name after hbefore =>
    obtain ⟨b, hb, hopened⟩ := hbefore.leaves
    have hadd : b.add (.close name) = .error .unbalancedEnd := by rw [TreeBuilder.add, hopened]
    refine ⟨.unbalancedEnd, ofReading_of_addAll_error ?_, rfl⟩
    rw [addAll_append_of_eq hb.addAll_eq, addAll_cons_of_error hadd]
  | @several before inside first second after hbefore hinside =>
    refine ⟨.severalRoots, ofReading_of_addAll_error (addAll_append_of_error ?_ after), rfl⟩
    rw [addAll_append_of_eq (addAll_document hbefore), addAll_forms hinside]
    rfl
  | unclosed hopen =>
    obtain ⟨b, hb, hopened⟩ := hopen.leaves
    refine ⟨.unclosedElement, (ofReading_of_addAll hb.addAll_eq).trans ?_, rfl⟩
    obtain ⟨top, outer, hopened⟩ := List.exists_cons_of_ne_nil hopened
    rw [finish, hopened]
  | missing hcontent => exact ⟨.noRoot, ofReading_of_addAll (addAll_content rfl hcontent), rfl⟩

/-- A row of events is accepted just if it is a document, and with the tree that it spells. All
others are refused, and the message is that of their first violation. -/
theorem ofReading_accepts_balanced (hreadable : IsReadable events) :
    (∀ root, ofReading ⟨events, none⟩ = .ok root ↔ IsDocument events root) ∧
      ∀ message, (∃ error, ofReading ⟨events, none⟩ = .error error ∧ error.report = message) ↔
        Violation events message := by
  refine ⟨fun root => ofReading_eq_ok_iff, fun message => ⟨?_, ofReading_of_violation⟩⟩
  rintro ⟨error, h, rfl⟩
  exact violation_of_ofReading hreadable h

/-- A root with a child between its pieces of text, and text outside of it. -/
def surroundedRoot : List Event :=
  [.doctype, .text "a".toList, .start ⟨"p:r".toList, " k='1'".toList⟩, .text "b &amp; ".toList,
    .empty ⟨"c".toList, []⟩, .comment, .cdata "<d>".toList, .close "p:r".toList, .cdata "e".toList]

/-- With another element that starts behind it, the root is no document any more. -/
theorem ofReading_surroundedRoot :
    IsReadable (surroundedRoot ++ [.start ⟨"s".toList, []⟩]) ∧ IsReadable surroundedRoot ∧
      IsDocument surroundedRoot
        { name := "r", attributes := [("k", "1")], text := "b & <d>",
          children := [{ name := "c" }] } ∧
      Violation (surroundedRoot ++ [.start ⟨"s".toList, []⟩])
        "Malformed XML: unexpected end of document" := by
  have hreadable : IsReadable (surroundedRoot ++ [.start ⟨"s".toList, []⟩]) := by
    refine .of_forall ?_ ?_
    · intro event hevent tag htag
      fin_cases hevent <;> cases htag <;> exact ⟨_, rfl⟩
    · intro raw hraw
      generalize htext : Event.text raw = event at hraw
      fin_cases hraw <;> cases htext <;> exact ⟨_, rfl⟩
  have hroot := hreadable.of_append
  exact ⟨hreadable, hroot, ((ofReading_accepts_balanced hroot).1 _).1 rfl,
    ((ofReading_accepts_balanced hreadable).2 _).1 ⟨_, rfl, rfl⟩⟩

end Element

end MapServices.Xml
