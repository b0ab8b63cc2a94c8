import Mathlib.Data.List.Basic
import MapServices.Capabilities.Error

/-!
# Trees with one element exchanged

Two trees may be the same but for one element somewhere inside. Whoever passes over elements of its
name reads the same in both.

* `Exchanged` says that one element stands in the place of another, and `Element.AgreesBut` that
  two elements differ in their children of certain names only.
* `Element.without` takes all elements of one name out of a tree, and the look-ups of other names do
  not notice: `Element.child?_without` and those that follow it.
* `Exchanged.without_eq`: what is around the exchanged elements is the same without the elements of
  their name.
-/

namespace MapServices.Xml

/-- The trees are the same but for one element, which is `x` in the first tree and `y` in the
second. -/
inductive Exchanged (x y : Element) : Element → Element → Prop where
  | here : Exchanged x y x y
  | inside (name : String) (attributes : List (String × String)) (text : String)
    (before after : List Element) {e e' : Element} (h : Exchanged x y e e') :
    Exchanged x y ⟨name, attributes, text, before ++ e :: after⟩
      ⟨name, attributes, text, before ++ e' :: after⟩

namespace Element

mutual

/-- Whether two trees are the same. -/
def decEq : (e e' : Element) → Decidable (e = e')
  | ⟨name, attributes, text, children⟩, ⟨name', attributes', text', children'⟩ =>
    match decEqAll children children' with
    | isTrue h =>
      decidable_of_iff (name = name' ∧ attributes = attributes' ∧ text = text') (by simp [h])
    | isFalse h => isFalse (by simp [h])

/-- Whether the trees of two lists are the same. -/
def decEqAll : (es es' : List Element) → Decidable (es = es')
  | [], [] => isTrue rfl
  | [], _ :: _ => isFalse nofun
  | _ :: _, [] => isFalse nofun
  | e :: es, e' :: es' =>
    match decEq e e', decEqAll es es' with
    | isTrue h, isTrue h' => isTrue (by rw [h, h'])
    | isFalse h, _ => isFalse (by simp [h])
    | _, isFalse h' => isFalse (by simp [h'])

end

instance : DecidableEq Element := decEq

variable {names : List String} {name removed : String} {e e' : Element}

/-- The elements are the same but for children with the given names. -/
structure AgreesBut (names : List String) (e e' : Element) : Prop where
  name : e'.name = e.name
  attributes : e'.attributes = e.attributes
  text : e'.text = e.text
  children : e'.children.filter (·.name ∉ names) = e.children.filter (·.name ∉ names)

namespace AgreesBut

theorem refl (names : List String) (e : Element) : AgreesBut names e e := ⟨rfl, rfl, rfl, rfl⟩

theorem symm (h : AgreesBut names e e') : AgreesBut names e' e :=
  ⟨h.name.symm, h.attributes.symm, h.text.symm, h.children.symm⟩

theorem childrenNamed (h : AgreesBut names e e') (hname : name ∉ names) :
    e'.childrenNamed name = e.childrenNamed name := by
  have hother : ∀ es : List Element, (es.filter (·.name ∉ names)).filter (·.name == name) =
      es.filter (·.name == name) := by
    intro es
    rw [List.filter_filter]
    refine List.filter_congr fun child _ => ?_
    by_cases hchild : child.name = name
    · simp [hchild, hname]
    · simp [hchild]
  rw [Element.childrenNamed, Element.childrenNamed, ← hother e.children, ← hother e'.children,
    h.children]

theorem child? (h : AgreesBut names e e') (hname : name ∉ names) :
    e'.child? name = e.child? name := by
  rw [Element.child?, Element.child?, ← List.head?_filter, ← List.head?_filter]
  exact congrArg List.head? (h.childrenNamed hname)

theorem childText? (h : AgreesBut names e e') (hname : name ∉ names) :
    e'.childText? name = e.childText? name := by
  rw [Element.childText?, Element.childText?, h.child? hname]

theorem childTexts (h : AgreesBut names e e') (hname : name ∉ names) :
    e'.childTexts name = e.childTexts name := by
  rw [Element.childTexts, Element.childTexts, h.childrenNamed hname]

theorem attribute? (h : AgreesBut names e e') (name : String) :
    e'.attribute? name = e.attribute? name := by
  rw [Element.attribute?, Element.attribute?, h.attributes]

end AgreesBut

/-! ## Taking elements out -/

mutual

/-- The tree without the elements of a name that are inside it. -/
def without (removed : String) : Element → Element
  | ⟨name, attributes, text, children⟩ => ⟨name, attributes, text, withoutAmong removed children⟩

/-- The trees of a list without the elements of a name. -/
def withoutAmong (removed : String) : List Element → List Element
  | [] => []
  | e :: es =>
    if e.name = removed then withoutAmong removed es
    else without removed e :: withoutAmong removed es

end

theorem withoutAmong_eq (removed : String) (es : List Element) :
    withoutAmong removed es = (es.filter (·.name ≠ removed)).map (without removed) := by
  induction es with
  | nil => rw [withoutAmong, List.filter_nil, List.map_nil]
  | cons e es ih =>
    rw [withoutAmong]
    split
    · rename_i hname
      rw [ih, List.filter_cons_of_neg (by simpa using hname)]
    · rename_i hname
      rw [ih, List.filter_cons_of_pos (by simpa using hname), List.map_cons]

theorem withoutAmong_singleton (removed : String) (e : Element) :
    withoutAmong removed [e] = if e.name = removed then [] else [e.without removed] := by
  rw [withoutAmong, withoutAmong]

theorem withoutAmong_append (removed : String) (es more : List Element) :
    withoutAmong removed (es ++ more) = withoutAmong removed es ++ withoutAmong removed more := by
  simp only [withoutAmong_eq, List.filter_append, List.map_append]

theorem children_without (removed : String) (e : Element) :
    (e.without removed).children =
      (e.children.filter (·.name ≠ removed)).map (without removed) := by
  cases e
  rw [without, withoutAmong_eq]

@[simp] theorem name_without (removed : String) (e : Element) :
    (e.without removed).name = e.name := by
  cases e
  rw [without]

@[simp] theorem content?_without (removed : String) (e : Element) :
    (e.without removed).content? = e.content? := by
  cases e
  rw [without]
  rfl

@[simp] theorem attribute?_without (removed : String) (e : Element) :
    (e.without removed).attribute? = e.attribute? := by
  cases e
  rw [without]
  rfl

/-! ### Look-ups of other names -/

theorem childrenNamed_without (h : name ≠ removed) (e : Element) :
    (e.without removed).childrenNamed name = (e.childrenNamed name).map (without removed) := by
  rw [childrenNamed, children_without, List.filter_map, List.filter_filter, childrenNamed]
  refine congrArg (List.map (without removed)) (List.filter_congr fun child _ => ?_)
  by_cases hchild : child.name = name
  · simp [hchild, h]
  · simp [hchild]

theorem child?_without (h : name ≠ removed) (e : Element) :
    (e.without removed).child? name = (e.child? name).map (without removed) := by
  rw [child?, child?, ← List.head?_filter, ← List.head?_filter, ← List.head?_map]
  exact congrArg List.head? (childrenNamed_without h e)

theorem childText?_without (h : name ≠ removed) (e : Element) :
    (e.without removed).childText? name = e.childText? name := by
  rw [childText?, childText?, child?_without h]
  cases e.child? name with
  | none => rfl
  | some child => rw [Option.map_some, Option.bind_some, Option.bind_some, content?_without]

theorem childTexts_without (h : name ≠ removed) (e : Element) :
    (e.without removed).childTexts name = e.childTexts name := by
  rw [childTexts, childTexts, childrenNamed_without h, List.filterMap_map]
  refine List.filterMap_congr fun child _ => ?_
  rw [Function.comp_apply, content?_without]

theorem path?_without {names : List String} (h : ∀ name ∈ names, name ≠ removed) (e : Element) :
    (e.without removed).path? names = (e.path? names).map (without removed) := by
  induction names generalizing e with
  | nil => rfl
  | cons name names ih =>
    obtain ⟨hname, hnames⟩ := List.forall_mem_cons.1 h
    simp only [path?, List.foldlM_cons, child?_without hname]
    cases e.child? name with
    | none => rfl
    | some child => exact ih hnames child

theorem requiredText_without (h : name ≠ removed) (e : Element) :
    (e.without removed).requiredText name = e.requiredText name := by
  rw [requiredText, requiredText, childText?_without h]

theorem requiredNumber_without (h : name ≠ removed) (e : Element) :
    (e.without removed).requiredNumber name = e.requiredNumber name := by
  rw [requiredNumber, requiredNumber, requiredText_without h]

theorem childNumber?_without (h : name ≠ removed) (e : Element) :
    (e.without removed).childNumber? name = e.childNumber? name := by
  rw [childNumber?, childNumber?, childText?_without h]

end Element

/-! ## Exchanged elements taken out -/

namespace Exchanged

open Element (without withoutAmong)

variable {x y e e' : Element}

theorem name_eq (hname : y.name = x.name) (h : Exchanged x y e e') : e'.name = e.name := by
  cases h with
  | here => exact hname
  | inside => rfl

/-- What is left of a tree depends on what is left of each element inside it. -/
theorem without_congr {removed : String} (h : withoutAmong removed [e'] = withoutAmong removed [e])
    (name : String) (attributes : List (String × String)) (text : String)
    (before after : List Element) :
    without removed ⟨name, attributes, text, before ++ e' :: after⟩ =
      without removed ⟨name, attributes, text, before ++ e :: after⟩ := by
  rw [without, without, List.append_cons, List.append_cons before e after]
  simp only [Element.withoutAmong_append, h]

theorem withoutAmong_eq (hname : y.name = x.name) (h : Exchanged x y e e') :
    withoutAmong x.name [e'] = withoutAmong x.name [e] := by
  induction h with
  | here =>
    rw [Element.withoutAmong_singleton, Element.withoutAmong_singleton, hname, if_pos rfl,
      if_pos rfl]
  | inside name attributes text before after _ ih =>
    rw [Element.withoutAmong_singleton, Element.withoutAmong_singleton, without_congr ih]

/-- Without the elements of their name, the trees around the exchanged elements are the same. -/
theorem without_eq (hname : y.name = x.name) (h : Exchanged x y e e') :
    (e = x ∧ e' = y) ∨ e'.without x.name = e.without x.name := by
  cases h with
  | here => exact .inl ⟨rfl, rfl⟩
  | inside name attributes text before after h =>
    exact .inr (without_congr (h.withoutAmong_eq hname) name attributes text before after)

/-- Of another name, the first child is the same in both, or the elements are exchanged inside
it. -/
theorem child?_cases (hname : y.name = x.name) (h : Exchanged x y e e')
    (he : e.name ≠ x.name) (name : String) :
    e'.child? name = e.child? name ∨
      ∃ c c', e.child? name = some c ∧ e'.child? name = some c' ∧ Exchanged x y c c' := by
  cases h with
  | here => exact absurd rfl he
  | @inside own attributes text before after c c' h =>
    simp only [Element.child?, List.find?_append, List.find?_cons, h.name_eq hname]
    cases before.find? (·.name == name) with
    | some child => exact .inl rfl
    | none =>
      cases c.name == name with
      | true => exact .inr ⟨c, c', rfl, rfl, h⟩
      | false => exact .inl rfl

end Exchanged

end MapServices.Xml
