import MapServices.Capabilities.Patch
import MapServices.Proofs.Failure
import MapServices.Proofs.Xml.Exchange

/-!
# One layer element of a tile service

A document of a tile service is read as a whole: it can be read if each layer element and each tile
matrix set can. So a layer element whose box cannot be read makes the document useless for all of
its layers, but otherwise a box bears on its own layer only.

* `TileFrame` is a document with a gap for one layer element.
* `TileFrame.ofElement_fill_eq_ok_iff`: what is read when the gap is filled.
* `TileFrame.patch_eq_of_fill`: with another box that can be read, the other layers are given the
  same properties.
-/

namespace MapServices

open Xml (Element)

namespace WmtsLayer

variable {e x y : Element} {l l' : WmtsLayer}

/-- The element gives no box, or one that can be read. -/
def HasReadableBox (e : Element) : Prop := ∃ box, readBox? "" e = .ok box

/-- The identifier shows in the error of a box and nowhere else. -/
theorem readBox?_eq_ok_iff {identifier : String} {box : Option BoundingBox} :
    readBox? identifier e = .ok box ↔ readBox? "" e = .ok box := by
  unfold readBox?
  cases e.child? "WGS84BoundingBox" with
  | none => rfl
  | some box =>
    simp only [Failure.bind_eq_ok]
    refine exists_congr fun lower => and_congr_right fun _ => exists_congr fun upper =>
      and_congr_right fun _ => ?_
    cases BoundingBox.ofCorners lower upper with
    | error e => simp [Failure.mapError_error, Functor.map, Except.map]
    | ok box => rfl

/-- The layer that an element with the given identifier and box describes. -/
def described (identifier : String) (box : Option BoundingBox) (e : Element) : WmtsLayer where
  identifier := identifier
  box := box
  title := e.childText? "Title"
  styles := (e.childrenNamed "Style").map readStyle
  formats := e.childTexts "Format"
  infoFormats := e.childTexts "InfoFormat"
  links := (e.childrenNamed "TileMatrixSetLink").filterMap (·.childText? "TileMatrixSet")
  resourceUrls := (e.childrenNamed "ResourceURL").filterMap readResourceUrl?

/-- An element describes a layer if it has an identifier and its box can be read. -/
theorem ofElement_eq_ok_iff : ofElement e = .ok l ↔ ∃ identifier box,
    e.childText? "Identifier" = some identifier ∧ readBox? "" e = .ok box ∧
      l = described identifier box e := by
  unfold ofElement
  cases e.childText? "Identifier" with
  | none => simp
  | some identifier =>
    simp only [Failure.bind_eq_ok, readBox?_eq_ok_iff, Option.some.injEq]
    constructor
    · rintro ⟨box, hbox, h⟩
      cases h
      exact ⟨identifier, box, rfl, hbox, rfl⟩
    · rintro ⟨identifier', box, rfl, hbox, rfl⟩
      exact ⟨box, hbox, rfl⟩

theorem identifier_of_ofElement (h : ofElement e = .ok l) :
    e.childText? "Identifier" = some l.identifier := by
  obtain ⟨identifier, box, hidentifier, -, rfl⟩ := ofElement_eq_ok_iff.1 h
  exact hidentifier

theorem hasReadableBox_of_ofElement (h : ofElement e = .ok l) : HasReadableBox e := by
  obtain ⟨-, box, -, hbox, -⟩ := ofElement_eq_ok_iff.1 h
  exact ⟨box, hbox⟩

/-- The element with another box describes the same layer with another box. -/
theorem ofElement_of_agreesBut (hxy : x.AgreesBut ["WGS84BoundingBox"] y)
    (hy : HasReadableBox y) (h : ofElement x = .ok l) :
    ∃ box, ofElement y = .ok { l with box } := by
  have htitle : y.childText? "Title" = x.childText? "Title" := hxy.childText? (by decide)
  have hstyles : y.childrenNamed "Style" = x.childrenNamed "Style" :=
    hxy.childrenNamed (by decide)
  have hformats : y.childTexts "Format" = x.childTexts "Format" := hxy.childTexts (by decide)
  have hinfoFormats : y.childTexts "InfoFormat" = x.childTexts "InfoFormat" :=
    hxy.childTexts (by decide)
  have hlinks : y.childrenNamed "TileMatrixSetLink" = x.childrenNamed "TileMatrixSetLink" :=
    hxy.childrenNamed (by decide)
  have hurls : y.childrenNamed "ResourceURL" = x.childrenNamed "ResourceURL" :=
    hxy.childrenNamed (by decide)
  obtain ⟨identifier, -, hidentifier, -, rfl⟩ := ofElement_eq_ok_iff.1 h
  obtain ⟨box, hbox⟩ := hy
  refine ⟨box, ofElement_eq_ok_iff.2 ⟨identifier, box, ?_, hbox, ?_⟩⟩
  · rw [hxy.childText? (by decide), hidentifier]
  · simp only [described, htitle, hstyles, hformats, hinfoFormats, hlinks, hurls]

end WmtsLayer

namespace WmtsCapabilities

/-- Only the sets of a document decide what the links of a layer add. -/
theorem addLinks_withLayers (c : WmtsCapabilities) (layers : List WmtsLayer) (l : WmtsLayer)
    (capabilities : LayerCapabilities) (links : List String) :
    addLinks { c with layers } l capabilities links = addLinks c l capabilities links := by
  induction links generalizing capabilities with
  | nil => rfl
  | cons link links ih =>
    have hset : linkedSet { c with layers } l link = linkedSet c l link := rfl
    simp only [addLinks, hset, ih]

/-- Of the layers of a document, the one that is found decides the properties. -/
theorem patch_withLayers {c : WmtsCapabilities} {layers : List WmtsLayer} {l : Layer}
    (hfind : find? { c with layers } l.name = c.find? l.name) :
    patch { c with layers } l = c.patch l := by
  simp only [patch, hfind, addLinks_withLayers]
  rfl

end WmtsCapabilities

/-- A document of a tile service with a gap in the place of one layer element. -/
structure TileFrame where
  name : String := WmtsCapabilities.rootName
  attributes : List (String × String) := []
  text : String := ""
  /-- What stands before the contents. -/
  before : List Element := []
  after : List Element := []
  contentsAttributes : List (String × String) := []
  contentsText : String := ""
  /-- What stands in the contents before the layer element. -/
  front : List Element := []
  back : List Element := []
  /-- Only the first contents count. -/
  first : ∀ e ∈ before, e.name ≠ "Contents" := by simp

namespace TileFrame

variable {f : TileFrame} {e x y : Element} {c : WmtsCapabilities}

/-- The contents with an element in the gap. -/
def contents (f : TileFrame) (e : Element) : Element :=
  ⟨"Contents", f.contentsAttributes, f.contentsText, f.front ++ e :: f.back⟩

/-- The document with an element in the gap. -/
def fill (f : TileFrame) (e : Element) : Element :=
  ⟨f.name, f.attributes, f.text, f.before ++ f.contents e :: f.after⟩

/-! ### Reading the document -/

/-- The layer elements before the gap. -/
def layersBefore (f : TileFrame) : List Element := f.front.filter (·.name == "Layer")

/-- The layer elements after the gap. -/
def layersAfter (f : TileFrame) : List Element := f.back.filter (·.name == "Layer")

/-- The elements of tile matrix sets. -/
def sets (f : TileFrame) : List Element :=
  (f.front ++ f.back).filter (·.name == "TileMatrixSet")

theorem child?_fill (f : TileFrame) (e : Element) :
    (f.fill e).child? "Contents" = some (f.contents e) := by
  have hbefore : f.before.find? (·.name == "Contents") = none := by
    rw [List.find?_eq_none]
    simpa using f.first
  rw [Element.child?, fill, List.find?_append, hbefore]
  rfl

theorem childrenNamed_contents (f : TileFrame) (he : e.name = "Layer") :
    (f.contents e).childrenNamed "Layer" = f.layersBefore ++ e :: f.layersAfter ∧
      (f.contents e).childrenNamed "TileMatrixSet" = f.sets := by
  simp [Element.childrenNamed, contents, layersBefore, layersAfter, sets, he]

/-- The document can be read if each layer element and each tile matrix set can. -/
theorem ofElement_fill_eq_ok_iff (he : e.name = "Layer") :
    WmtsCapabilities.ofElement (f.fill e) = .ok c ↔
      f.name = WmtsCapabilities.rootName ∧ ∃ front l back sets,
        f.layersBefore.mapM WmtsLayer.ofElement = .ok front ∧ WmtsLayer.ofElement e = .ok l ∧
        f.layersAfter.mapM WmtsLayer.ofElement = .ok back ∧
        f.sets.mapM TileMatrixSet.ofElement = .ok sets ∧
        c = {
          version := f.attributes.lookup "version", layers := front ++ l :: back
          tileMatrixSets := sets } := by
  obtain ⟨hlayers, hsets⟩ := f.childrenNamed_contents he
  have hread : WmtsCapabilities.ofElement (f.fill e) =
      if f.name = WmtsCapabilities.rootName then do
        let layers ← (f.layersBefore ++ e :: f.layersAfter).mapM WmtsLayer.ofElement
        let tileMatrixSets ← f.sets.mapM TileMatrixSet.ofElement
        return { version := f.attributes.lookup "version", layers, tileMatrixSets }
      else .error (.unexpectedRoot WmtsCapabilities.rootName f.name) := by
    unfold WmtsCapabilities.ofElement
    simp only [child?_fill, hlayers, hsets]
    rfl
  rw [hread]
  by_cases hname : f.name = WmtsCapabilities.rootName
  · rw [if_pos hname]
    simp only [Failure.bind_eq_ok, Failure.mapM_append_cons_eq_ok]
    constructor
    · rintro ⟨layers, ⟨front, l, back, hfront, hl, hback, rfl⟩, sets, hsets, h⟩
      cases h
      exact ⟨hname, front, l, back, sets, hfront, hl, hback, hsets, rfl⟩
    · rintro ⟨-, front, l, back, sets, hfront, hl, hback, hsets, rfl⟩
      exact ⟨_, ⟨front, l, back, hfront, hl, hback, rfl⟩, sets, hsets, rfl⟩
  · rw [if_neg hname]
    simp [hname]

/-- An element whose box cannot be read makes the document useless. -/
theorem exists_error_of_fill (he : e.name = "Layer") (h : ¬ WmtsLayer.HasReadableBox e) :
    ∃ error, WmtsCapabilities.ofElement (f.fill e) = .error error := by
  cases hread : WmtsCapabilities.ofElement (f.fill e) with
  | error error => exact ⟨error, rfl⟩
  | ok c =>
    obtain ⟨-, -, l, -, -, -, hl, -⟩ := (ofElement_fill_eq_ok_iff he).1 hread
    exact absurd (WmtsLayer.hasReadableBox_of_ofElement hl) h

/-! ### The other layers -/

/-- The name is found in another layer element than the one in the gap, or not at all. -/
def FindsElsewhere (f : TileFrame) (e : Element) (name : String) : Prop :=
  (∃ other ∈ f.layersBefore, other.childText? "Identifier" = some name) ∨
    e.childText? "Identifier" ≠ some name

/-- If the document can be read, it also can with another box that can be read, and all layers that
are found elsewhere are given the same properties. -/
theorem patch_eq_of_fill (hx : x.name = "Layer") (hxy : x.AgreesBut ["WGS84BoundingBox"] y)
    (hy : WmtsLayer.HasReadableBox y) (hc : WmtsCapabilities.ofElement (f.fill x) = .ok c) :
    ∃ c', WmtsCapabilities.ofElement (f.fill y) = .ok c' ∧
      ∀ l : Layer, f.FindsElsewhere x l.name → c'.patch l = c.patch l := by
  obtain ⟨hname, front, l, back, sets, hfront, hl, hback, hsets, rfl⟩ :=
    (ofElement_fill_eq_ok_iff hx).1 hc
  obtain ⟨box, hl'⟩ := WmtsLayer.ofElement_of_agreesBut hxy hy hl
  refine ⟨_, (ofElement_fill_eq_ok_iff (hxy.name.trans hx)).2
    ⟨hname, front, { l with box }, back, sets, hfront, hl', hback, hsets, rfl⟩, ?_⟩
  intro layer helsewhere
  refine WmtsCapabilities.patch_withLayers (c := {
    version := f.attributes.lookup "version", layers := front ++ l :: back
    tileMatrixSets := sets }) ?_
  simp only [WmtsCapabilities.find?, List.find?_append, List.find?_cons]
  rcases helsewhere with ⟨other, hother, hidentifier⟩ | hidentifier
  · -- the name is found before the gap
    obtain ⟨found, hmem, hfound⟩ := Failure.exists_of_mapM_eq_ok hfront hother
    have hsome : (front.find? (·.identifier == layer.name)).isSome := by
      rw [WmtsLayer.identifier_of_ofElement hfound] at hidentifier
      exact List.find?_isSome.2 ⟨found, hmem, by simpa using hidentifier⟩
    obtain ⟨first, hfirst⟩ := Option.isSome_iff_exists.1 hsome
    rw [hfirst]
    rfl
  · have hother : (l.identifier == layer.name) = false := by
      rw [WmtsLayer.identifier_of_ofElement hl] at hidentifier
      simpa using hidentifier
    rw [hother]

end TileFrame

end MapServices
