import MapServices.Proofs.Capabilities.Inheritance
import MapServices.Proofs.Xml.Exchange

/-!
# The scales of a layer

An element of a chain may define one end of the range of scales, both ends or none. The two ends of
a layer are taken from one element, the deepest one that defines either. So an end is inherited as
if it stood alone just if that element defines it, or no element of the chain does: an end from
further out does not survive an element that defines the other end only.

* `ScaleEnd.defined?`: what an element defines for one end, in its newer or its older form.
* `ownScales_of_readable`: an element whose scales are all numbers gives what it defines.
* `eq_deepest?_iff`: when the scales of a chain give an end as if it stood alone.
* `layers_take_scales`: the scales of every layer of a document.
-/

namespace MapServices

open Xml (Element)

/-- One end of a range of scales. -/
inductive ScaleEnd where
  | least
  | greatest

namespace ScaleEnd

/-- The element that holds the end in newer documents. -/
def elementName : ScaleEnd → String
  | least => "MinScaleDenominator"
  | greatest => "MaxScaleDenominator"

/-- The attribute that holds the end in older documents. -/
def hintName : ScaleEnd → String
  | least => "min"
  | greatest => "max"

/-- The end of a range. -/
def ofRange : ScaleEnd → ScaleRange → Option Float
  | least => ScaleRange.least?
  | greatest => ScaleRange.greatest?

/-- The end of the scales at which a layer is visible. -/
def ofLayer : ScaleEnd → WmsLayer → Option Float
  | least => WmsLayer.minScale
  | greatest => WmsLayer.maxScale

theorem ofLayer_eq (side : ScaleEnd) (l : WmsLayer) :
    side.ofLayer l = l.scales.toOption.bind side.ofRange := by
  cases side <;> rfl

theorem forall_iff {p : ScaleEnd → Prop} : (∀ side, p side) ↔ p least ∧ p greatest := by
  constructor
  · exact fun h => ⟨h least, h greatest⟩
  · rintro ⟨hleast, hgreatest⟩ (_ | _)
    · exact hleast
    · exact hgreatest

instance {p : ScaleEnd → Prop} [DecidablePred p] : Decidable (∀ side, p side) :=
  decidable_of_iff _ forall_iff.symm

end ScaleEnd

namespace WmsLayer

/-! ## What an element defines -/

/-- The number that a text is, but for white space around it. -/
def number? (text : String) : Option Float := Decimal.readFloat? (Text.trim text.toList)

/-- Whether an element gives scale denominators, as newer documents do. -/
def givesDenominators (e : Element) : Bool :=
  (e.childText? ScaleEnd.least.elementName).isSome ||
    (e.childText? ScaleEnd.greatest.elementName).isSome

/-- What an element gives for one end in the form of older documents. -/
def hintText? (e : Element) (side : ScaleEnd) : Option String :=
  (e.child? "ScaleHint").bind (·.attribute? side.hintName)

/-- All scales that the element gives are numbers. -/
def ReadableScales (e : Element) : Prop :=
  ∀ side : ScaleEnd, (∀ text ∈ e.childText? side.elementName, (number? text).isSome) ∧
    ∀ text ∈ hintText? e side, (number? text).isSome

instance : DecidablePred ReadableScales := fun _ =>
  inferInstanceAs (Decidable (∀ _ : ScaleEnd, _ ∧ _))

end WmsLayer

/-- The scale denominator that an element defines for one end. The older form counts only if there
is nothing in the newer one. -/
def ScaleEnd.defined? (side : ScaleEnd) (e : Element) : Option Float :=
  if WmsLayer.givesDenominators e then (e.childText? side.elementName).bind WmsLayer.number?
  else ((WmsLayer.hintText? e side).bind WmsLayer.number?).map WmsLayer.denominatorOfDiagonal

namespace WmsLayer

/-- Both ends that an element defines. -/
def definedRange (e : Element) : ScaleRange where
  least? := ScaleEnd.least.defined? e
  greatest? := ScaleEnd.greatest.defined? e

/-- The deepest element of a chain that defines an end of the scales. -/
def definer? (chain : List Element) : Option Element :=
  chain.reverse.find? fun e => !(definedRange e).isEmpty

theorem mapM_readNumber {name : String} {text? : Option String}
    (h : ∀ text ∈ text?, (number? text).isSome) :
    text?.mapM (Element.readNumber name) = .ok (text?.bind number?) := by
  cases text? with
  | none => rfl
  | some text =>
    obtain ⟨x, hx⟩ := Option.isSome_iff_exists.1 (h text rfl)
    have hread : Element.readNumber name text = .ok x := by
      rw [number?] at hx
      rw [Element.readNumber, hx]
    rw [Option.bind_some, hx, Option.mapM_some, hread]
    rfl

theorem isSome_bind_number? {text? : Option String} (h : ∀ text ∈ text?, (number? text).isSome) :
    (text?.bind number?).isSome = text?.isSome := by
  cases text? with
  | none => rfl
  | some text => exact h text rfl

theorem hintBound?_of_readable {e hint : Element} (h : ReadableScales e)
    (hhint : e.child? "ScaleHint" = some hint) (side : ScaleEnd) :
    hintBound? hint side.hintName =
      .ok (((hintText? e side).bind number?).map denominatorOfDiagonal) := by
  have htext : hintText? e side = hint.attribute? side.hintName := by
    rw [hintText?, hhint, Option.bind_some]
  have hread : (hintText? e side).mapM (Element.readNumber "ScaleHint") = _ :=
    mapM_readNumber (h side).2
  rw [hintBound?, ← htext, hread]
  rfl

/-- An element whose scales are all numbers gives what it defines. -/
theorem ownScales_of_readable {e : Element} (h : ReadableScales e) :
    ownScales e = .ok (definedRange e) := by
  have hchild : ∀ side : ScaleEnd, e.childNumber? side.elementName =
      .ok ((e.childText? side.elementName).bind number?) := fun side => mapM_readNumber (h side).1
  have hgives : givesDenominators e =
      (((e.childText? ScaleEnd.least.elementName).bind number?).isSome ||
        ((e.childText? ScaleEnd.greatest.elementName).bind number?).isSome) := by
    rw [isSome_bind_number? (h _).1, isSome_bind_number? (h _).1, givesDenominators]
  refine Failure.bind_eq_ok.2 ⟨_, hchild .least, Failure.bind_eq_ok.2 ⟨_, hchild .greatest, ?_⟩⟩
  rw [← hgives]
  unfold definedRange ScaleEnd.defined?
  by_cases hnewer : givesDenominators e
  · simp only [hnewer, if_true]
    rfl
  · simp only [hnewer, Bool.false_eq_true, if_false]
    cases hhint : e.child? "ScaleHint" with
    | none =>
      have hnone : ∀ side, hintText? e side = none := by
        intro side
        rw [hintText?, hhint, Option.bind_none]
      simp only [hnone]
      rfl
    | some hint =>
      have hbound := hintBound?_of_readable h hhint
      exact Failure.bind_eq_ok.2 ⟨_, hbound .least, Failure.bind_eq_ok.2 ⟨_, hbound .greatest, rfl⟩⟩

theorem isEmpty_definedRange {e : Element} :
    (definedRange e).isEmpty ↔ ∀ side : ScaleEnd, side.defined? e = none := by
  rw [ScaleEnd.forall_iff, ScaleRange.isEmpty, Bool.and_eq_true, Option.isNone_iff_eq_none,
    Option.isNone_iff_eq_none]
  rfl

/-! ## The end of a chain -/

open LayerTree (atEnd atEnd_concat)

theorem definer?_concat (chain : List Element) (e : Element) :
    definer? (chain ++ [e]) = if (definedRange e).isEmpty then definer? chain else some e := by
  rw [definer?, List.reverse_append, List.reverse_singleton, List.singleton_append, List.find?_cons]
  cases (definedRange e).isEmpty <;> rfl

/-- The scales of a chain are those that one element of it defines. -/
theorem scales_of_readable {chain : List Element} (h : ∀ e ∈ chain, ReadableScales e) :
    (atEnd chain).scales = .ok ((definer? chain).elim {} definedRange) := by
  induction chain using List.reverseRecOn with
  | nil => rfl
  | append_singleton chain e ih =>
    have hinherit : (atEnd (chain ++ [e])).scales =
        inheritScales (ownScales e) (atEnd chain).scales := by
      rw [atEnd_concat]
      rfl
    rw [hinherit, ih fun e' he' => h e' (List.mem_append_left _ he'),
      ownScales_of_readable (h e (List.mem_append_right _ List.mem_cons_self)), definer?_concat]
    cases hempty : (definedRange e).isEmpty <;> simp [inheritScales, hempty]

theorem ofRange_definedRange (side : ScaleEnd) (e : Element) :
    side.ofRange (definedRange e) = side.defined? e := by
  cases side <;> rfl

theorem ofLayer_atEnd {chain : List Element} (h : ∀ e ∈ chain, ReadableScales e)
    (side : ScaleEnd) : side.ofLayer (atEnd chain) = (definer? chain).bind side.defined? := by
  rw [ScaleEnd.ofLayer_eq, scales_of_readable h]
  cases definer? chain with
  | none => cases side <;> rfl
  | some e => exact ofRange_definedRange side e

theorem deepest?_eq_none_iff {side : ScaleEnd} {chain : List Element} :
    deepest? side.defined? chain = none ↔ ∀ e ∈ chain, side.defined? e = none := by
  rw [deepest?, List.findSome?_eq_none_iff]
  simp only [List.mem_reverse]

/-- The element that settles the scales is the deepest one that defines an end, if it defines it. -/
theorem deepest?_of_definer? {side : ScaleEnd} {chain : List Element} {e : Element} {x : Float}
    (he : definer? chain = some e) (hx : side.defined? e = some x) :
    deepest? side.defined? chain = some x := by
  induction chain using List.reverseRecOn with
  | nil => cases he
  | append_singleton chain last ih =>
    rw [definer?_concat] at he
    rw [deepest?_concat]
    split at he
    · rename_i hempty
      rw [isEmpty_definedRange.1 hempty side, Option.none_or, ih he]
    · cases he
      rw [hx, Option.some_or]

/-- When the element that settles the scales gives an end as if the end stood alone. -/
theorem eq_deepest?_iff (side : ScaleEnd) (chain : List Element) :
    (definer? chain).bind side.defined? = deepest? side.defined? chain ↔
      (∃ e ∈ definer? chain, (side.defined? e).isSome) ∨ ∀ e ∈ chain, side.defined? e = none := by
  rw [← deepest?_eq_none_iff]
  cases hdefiner : (definer? chain).bind side.defined? with
  | none =>
    have hnot : ¬ ∃ e ∈ definer? chain, (side.defined? e).isSome := by
      rintro ⟨e, he, hsome⟩
      rw [Option.bind_eq_none_iff] at hdefiner
      rw [hdefiner e he] at hsome
      cases hsome
    rw [or_iff_right hnot, eq_comm]
  | some x =>
    obtain ⟨e, he, hx⟩ := Option.bind_eq_some_iff.1 hdefiner
    exact iff_of_true (deepest?_of_definer? he hx).symm (.inl ⟨e, he, by rw [hx]; rfl⟩)

/-- The layer at the end of a chain has both ends of its scales from the deepest element that
defines either, and so an end as the deepest element gives it that defines this end just if these
are the same element or no element defines the end. -/
structure TakesScales (chain : List Element) (l : WmsLayer) : Prop where
  ends : ∀ side : ScaleEnd, side.ofLayer l = (definer? chain).bind side.defined?
  alone_iff : ∀ side : ScaleEnd, side.ofLayer l = deepest? side.defined? chain ↔
    (∃ e ∈ definer? chain, (side.defined? e).isSome) ∨ ∀ e ∈ chain, side.defined? e = none

theorem takesScales_atEnd {chain : List Element} (h : ∀ e ∈ chain, ReadableScales e) :
    TakesScales chain (atEnd chain) where
  ends := ofLayer_atEnd h
  alone_iff side := by
    rw [ofLayer_atEnd h]
    exact eq_deepest?_iff side chain

end WmsLayer

/-! ## Documents -/

namespace WmsCapabilities

/-- Every layer of a document takes its scales from its chain of elements, if they can be read. -/
theorem layers_take_scales {xml : String} {c : WmsCapabilities} (h : read xml = .ok c) :
    ∃ root capability, Element.ofDocument xml = .ok root ∧
      root.child? "Capability" = some capability ∧
      (∀ chain, chain ∈ LayerTree.chains capability ↔ LayerTree.IsChain capability chain) ∧
      List.Forall₂
        (fun chain l => (∀ e ∈ chain, WmsLayer.ReadableScales e) → WmsLayer.TakesScales chain l)
        (LayerTree.chains capability) (c.subtrees.map LayerTree.layer) :=
  forall₂_layers h fun _ => WmsLayer.takesScales_atEnd

/-- A layer that defines the least scale only. -/
def innerElement : Element where
  name := "Layer"
  children := [{ name := "Name", text := "roads" },
    { name := "MinScaleDenominator", text := "2000" }]

/-- A layer with both ends of its scales, and the layer that defines the least scale in it. -/
def outerElement : Element where
  name := "Layer"
  children := [{ name := "MinScaleDenominator", text := "1000" },
    { name := "MaxScaleDenominator", text := "50000" }, innerElement]

def scaledDocument : String :=
  "<WMS_Capabilities><Capability><Layer><MinScaleDenominator>1000</MinScaleDenominator>" ++
    "<MaxScaleDenominator>50000</MaxScaleDenominator><Layer><Name>roads</Name>" ++
    "<MinScaleDenominator>2000</MinScaleDenominator></Layer></Layer></Capability>" ++
    "</WMS_Capabilities>"

/-- The inner layer has no greatest scale, although one is defined around it. -/
theorem layers_take_scales_roads :
    ∃ c l, read scaledDocument = .ok c ∧ l ∈ c.subtrees.map LayerTree.layer ∧
      (∀ e ∈ [outerElement, innerElement], WmsLayer.ReadableScales e) ∧
      WmsLayer.TakesScales [outerElement, innerElement] l ∧ l.maxScale = none ∧
      (deepest? ScaleEnd.greatest.defined? [outerElement, innerElement]).isSome := by
  have htree : Element.ofDocument scaledDocument = .ok {
      name := "WMS_Capabilities"
      children := [{ name := "Capability", children := [outerElement] }] } :=
    Failure.toOption_eq_some.1 (by decide +kernel)
  obtain ⟨c, hc⟩ : ∃ c, read scaledDocument = .ok c := by
    rw [read, htree]
    exact ⟨_, rfl⟩
  obtain ⟨root, capability, hroot, hcapability, -, hall⟩ := layers_take_scales hc
  cases htree.symm.trans hroot
  cases (show Element.child? _ "Capability" = some _ from rfl).symm.trans hcapability
  have hchains : LayerTree.chains { name := "Capability", children := [outerElement] } =
      [[outerElement], [outerElement, innerElement]] := by
    decide +kernel
  rw [hchains] at hall
  obtain ⟨_, _, -, hall, hlayers⟩ := List.forall₂_cons_left_iff.1 hall
  obtain ⟨l, _, hroads, -, rfl⟩ := List.forall₂_cons_left_iff.1 hall
  have hreadable : ∀ e ∈ [outerElement, innerElement], WmsLayer.ReadableScales e := by
    decide +kernel
  have htakes := hroads hreadable
  have hdefiner : (WmsLayer.definer? [outerElement, innerElement]).bind
      ScaleEnd.greatest.defined? = none := by
    decide +kernel
  refine ⟨c, l, hc, ?_, hreadable, htakes, (htakes.ends .greatest).trans hdefiner, ?_⟩
  · rw [hlayers]
    exact List.mem_cons_of_mem _ List.mem_cons_self
  · decide +kernel

end WmsCapabilities

end MapServices
