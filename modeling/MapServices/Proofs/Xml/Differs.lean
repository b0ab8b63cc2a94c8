import MapServices.Proofs.Failure
import MapServices.Xml.Element

/-!
# Trees that differ in one text

A text may differ while the tree is under construction: as long as the element is open, more text
and more elements are put into it, and both trees take the same. So what two builders have been
given differently stays the only difference between the trees that they finish.

* `DiffersAt.trimmed_eq_iff`: whether the trees are the same but for white space at the ends of
  texts is decided by the one text.
* `TreeBuilder.Replaces.addAll`, `TreeBuilder.Replaces.finish`: the difference stays as it is.
-/

namespace MapServices.Xml

variable {x y w z : List Char} {e e' : Element}

/-- The trees are the same but for one text, which is `x` in the first tree and `y` in the second.
-/
inductive DiffersAt (x y : List Char) : Element → Element → Prop where
  | here (name : String) (attributes : List (String × String)) (children : List Element) :
    DiffersAt x y ⟨name, attributes, String.ofList x, children⟩
      ⟨name, attributes, String.ofList y, children⟩
  | inside (name : String) (attributes : List (String × String)) (text : String)
    (before after : List Element) {e e' : Element} (h : DiffersAt x y e e') :
    DiffersAt x y ⟨name, attributes, text, before ++ e :: after⟩
      ⟨name, attributes, text, before ++ e' :: after⟩

theorem DiffersAt.eq (h : DiffersAt x x e e') : e = e' := by
  induction h with
  | here => rfl
  | inside _ _ _ _ _ _ ih => rw [ih]

/-- In a tree without inner elements only its own text can differ. -/
theorem DiffersAt.of_leaf {name : String} {attributes : List (String × String)}
    (h : DiffersAt x y ⟨name, attributes, String.ofList z, []⟩ e') :
    x = z ∧ e' = ⟨name, attributes, String.ofList y, []⟩ := by
  generalize hleaf : Element.mk name attributes (String.ofList z) [] = e at h
  cases h with
  | here =>
    simp only [Element.mk.injEq, String.ofList_inj] at hleaf
    obtain ⟨rfl, rfl, rfl, rfl⟩ := hleaf
    exact ⟨rfl, rfl⟩
  | inside => simp at hleaf

namespace Element

mutual

/-- The tree with white space cut off both ends of each text. -/
def trimmed : Element → Element
  | ⟨name, attributes, text, children⟩ =>
    ⟨name, attributes, Text.trimmed text, trimmedAll children⟩

/-- The trees with white space cut off both ends of each text. -/
def trimmedAll : List Element → List Element
  | [] => []
  | e :: es => trimmed e :: trimmedAll es

end

theorem trimmedAll_eq_map (es : List Element) : trimmedAll es = es.map trimmed := by
  induction es with
  | nil => rfl
  | cons e es ih => rw [trimmedAll, ih, List.map_cons]

end Element

theorem DiffersAt.trimmed_eq_iff (h : DiffersAt x y e e') :
    e.trimmed = e'.trimmed ↔ Text.trim x = Text.trim y := by
  induction h with
  | here => simp [Element.trimmed, Text.trimmed, String.ofList_inj]
  | inside _ _ _ _ _ _ ih =>
    rw [← ih]
    simp [Element.trimmed, Element.trimmedAll_eq_map]

/-- One text of the second tree has `z` in one place where that of the first tree has `w`. -/
def Replaces (w z : List Char) (e e' : Element) : Prop :=
  ∃ front back, DiffersAt (front ++ w ++ back) (front ++ z ++ back) e e'

namespace Replaces

/-- Text that is put behind goes behind both. -/
theorem appendText (h : Replaces w z e e') (text : List Char) :
    Replaces w z (e.appendText text) (e'.appendText text) := by
  obtain ⟨front, back, h⟩ := h
  cases h with
  | here name attributes children =>
    refine ⟨front, back ++ text, ?_⟩
    have hhere := DiffersAt.here (x := front ++ w ++ (back ++ text))
      (y := front ++ z ++ (back ++ text)) name attributes children
    simpa [Element.appendText, String.append_assoc] using hhere
  | inside name attributes own before after h =>
    exact ⟨front, back, .inside name attributes _ before after h⟩

theorem appendChild (h : Replaces w z e e') (child : Element) :
    Replaces w z (e.appendChild child) (e'.appendChild child) := by
  obtain ⟨front, back, h⟩ := h
  refine ⟨front, back, ?_⟩
  cases h with
  | here name attributes children => exact .here name attributes _
  | inside name attributes own before after h =>
    have hinside := DiffersAt.inside name attributes own before (after ++ [child]) h
    simpa [Element.appendChild] using hinside

theorem inside (h : Replaces w z e e') (parent : Element) :
    Replaces w z (parent.appendChild e) (parent.appendChild e') := by
  obtain ⟨front, back, h⟩ := h
  exact ⟨front, back, .inside _ _ _ _ [] h⟩

end Replaces

namespace TreeBuilder

variable {b b' c : TreeBuilder} {event : Event} {events : List Event}

/-- The builders are the same but for one element, in which `z` is in one place instead of `w`. -/
inductive Replaces (w z : List Char) : TreeBuilder → TreeBuilder → Prop where
  | opened {e e' : Element} (inner outer : List Element) (root? : Option Element)
    (h : Xml.Replaces w z e e') :
    Replaces w z ⟨inner ++ e :: outer, root?⟩ ⟨inner ++ e' :: outer, root?⟩
  | root {e e' : Element} (opened : List Element) (h : Xml.Replaces w z e e') :
    Replaces w z ⟨opened, some e⟩ ⟨opened, some e'⟩

namespace Replaces

/-- The element itself is put in place. -/
theorem of_attach (h : Xml.Replaces w z e e') (hb : b.attach e = .ok c) :
    ∃ c', b.attach e' = .ok c' ∧ Replaces w z c c' := by
  obtain ⟨opened, root?⟩ := b
  rcases opened with _ | ⟨parent, outer⟩
  · cases root? with
    | none =>
      cases hb
      exact ⟨_, rfl, .root [] h⟩
    | some root => cases hb
  · cases hb
    exact ⟨_, rfl, .opened [] outer root? (h.inside parent)⟩

theorem attach (h : Replaces w z b b') {child : Element} (hb : b.attach child = .ok c) :
    ∃ c', b'.attach child = .ok c' ∧ Replaces w z c c' := by
  cases h with
  | opened inner outer root? h =>
    cases inner with
    | nil =>
      cases hb
      exact ⟨_, rfl, .opened [] outer root? (h.appendChild child)⟩
    | cons top inner =>
      cases hb
      exact ⟨_, rfl, .opened (top.appendChild child :: inner) outer root? h⟩
  | root opened h =>
    cases opened with
    | nil => cases hb
    | cons top outer =>
      cases hb
      exact ⟨_, rfl, .root (top.appendChild child :: outer) h⟩

theorem push (h : Replaces w z b b') (top : Element) :
    Replaces w z { b with opened := top :: b.opened } { b' with opened := top :: b'.opened } := by
  cases h with
  | opened inner outer root? h => exact .opened (top :: inner) outer root? h
  | root opened h => exact .root (top :: opened) h

theorem addText (h : Replaces w z b b') (content : Except EntityError (List Char))
    (hb : b.addText content = .ok c) : ∃ c', b'.addText content = .ok c' ∧ Replaces w z c c' := by
  cases h with
  | opened inner outer root? h =>
    cases content with
    | error fault => cases inner <;> cases hb
    | ok text =>
      cases inner with
      | nil =>
        cases hb
        exact ⟨_, rfl, .opened [] outer root? (h.appendText text)⟩
      | cons top inner =>
        cases hb
        exact ⟨_, rfl, .opened (top.appendText text :: inner) outer root? h⟩
  | root opened h =>
    cases opened with
    | nil =>
      cases hb
      exact ⟨_, rfl, .root [] h⟩
    | cons top outer =>
      cases content with
      | error fault => cases hb
      | ok text =>
        cases hb
        exact ⟨_, rfl, .root (top.appendText text :: outer) h⟩

/-- Every event is taken by both builders in the same way. -/
theorem add (h : Replaces w z b b') (hb : b.add event = .ok c) :
    ∃ c', b'.add event = .ok c' ∧ Replaces w z c c' := by
  cases event with
  | start tag =>
    obtain ⟨top, htop, hb⟩ := Failure.bind_eq_ok.1 hb
    cases hb
    exact ⟨_, Failure.bind_eq_ok.2 ⟨top, htop, rfl⟩, h.push top⟩
  | empty tag =>
    obtain ⟨child, hchild, hb⟩ := Failure.bind_eq_ok.1 hb
    obtain ⟨c', hc, hreplaces⟩ := h.attach hb
    exact ⟨c', Failure.bind_eq_ok.2 ⟨child, hchild, hc⟩, hreplaces⟩
  | close name =>
    cases h with
    | opened inner outer root? h =>
      cases inner with
      | nil => exact of_attach (b := ⟨outer, root?⟩) h hb
      | cons top inner => exact attach (.opened inner outer root? h) hb
    | root opened h =>
      cases opened with
      | nil => cases hb
      | cons top outer => exact attach (.root outer h) hb
  | text raw => exact h.addText (unescape raw) hb
  | cdata content => exact h.addText (.ok content) hb
  | comment | declaration _ | instruction | doctype =>
    cases hb
    exact ⟨b', rfl, h⟩

theorem addAll (h : Replaces w z b b') (hb : b.addAll events = .ok c) :
    ∃ c', b'.addAll events = .ok c' ∧ Replaces w z c c' := by
  induction events generalizing b b' with
  | nil =>
    cases hb
    exact ⟨b', rfl, h⟩
  | cons event events ih =>
    rw [TreeBuilder.addAll, List.foldlM_cons] at hb
    obtain ⟨next, hnext, hb⟩ := Failure.bind_eq_ok.1 hb
    obtain ⟨next', hnext', h⟩ := h.add hnext
    obtain ⟨c', hc, hreplaces⟩ := ih h hb
    exact ⟨c', by rw [TreeBuilder.addAll, List.foldlM_cons, hnext']; exact hc, hreplaces⟩

theorem finish (h : Replaces w z b b') (hb : b.finish = .ok e) :
    ∃ e', b'.finish = .ok e' ∧ Xml.Replaces w z e e' := by
  cases h with
  | opened inner outer root? h => cases inner <;> cases hb
  | root opened h =>
    cases opened with
    | nil =>
      cases hb
      exact ⟨_, rfl, h⟩
    | cons top outer => cases hb

end Replaces

end TreeBuilder

end MapServices.Xml
