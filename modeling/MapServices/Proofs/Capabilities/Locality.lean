import MapServices.Capabilities.Patch
import MapServices.Proofs.Capabilities.Chain
import MapServices.Proofs.Failure
import MapServices.Proofs.Xml.Exchange

/-!
# The values of one layer element

The scales and the box that one element of a map service gives, readable or not, are handed down to
the layers inside it, and nothing else in the document depends on them: neither whether it can be
read, nor any layer outside of the element, nor anything but scales and boxes inside it.

* `WmsLayer.ofElement_without`: what a layer element says itself does not depend on the layer
  elements inside it.
* `LayerTree.exchanged_ofElement`: a tree of elements with one layer element exchanged is read as a
  tree of layers with one subtree exchanged.
* `WmsCapabilities.values_stay_inside`: what two documents say that differ in the values of one
  layer element.
-/

namespace MapServices

open Xml (Element)

/-! ## One element -/

namespace WmsLayer

variable {parent parent' : WmsLayer} {e e' : Element}

/-- The names of the elements that give scales and boxes. -/
def valueNames : List String :=
  ["MinScaleDenominator", "MaxScaleDenominator", "ScaleHint", "EX_GeographicBoundingBox",
    "LatLonBoundingBox"]

/-- The layer as it is apart from its scales and its box. -/
def withoutValues (l : WmsLayer) : WmsLayer := { l with scales := .ok {}, box := .ok none }

/-- Scales and boxes bear on nothing else. -/
theorem withoutValues_ofElement (hparent : parent'.withoutValues = parent.withoutValues)
    (he : e.AgreesBut valueNames e') :
    (ofElement parent' e').withoutValues = (ofElement parent e).withoutValues := by
  have hqueryable : parent'.queryable = parent.queryable := (congrArg queryable hparent :)
  have hcrs : parent'.crs = parent.crs := (congrArg crs hparent :)
  have hstyles : parent'.styles = parent.styles := (congrArg styles hparent :)
  have hownCrs : ownCrs e' = ownCrs e := by
    rw [ownCrs, ownCrs, he.childTexts (by decide), he.childTexts (by decide)]
  have hownStyles : ownStyles e' = ownStyles e := by
    rw [ownStyles, ownStyles, he.childrenNamed (by decide)]
  have hownQueryable : ownQueryable? e' = ownQueryable? e := by
    rw [ownQueryable?, ownQueryable?, he.attribute?]
  have hname : e'.childText? "Name" = e.childText? "Name" := he.childText? (by decide)
  have htitle : e'.childText? "Title" = e.childText? "Title" := he.childText? (by decide)
  simp only [ofElement, withoutValues, hqueryable, hcrs, hstyles, hownCrs, hownStyles,
    hownQueryable, hname, htitle]

/-! ### Layer elements inside an element -/

theorem readStyle_without (e : Element) : readStyle (e.without "Layer") = readStyle e := by
  have hpath : (e.without "Layer").path? ["LegendURL", "OnlineResource"] =
      (e.path? ["LegendURL", "OnlineResource"]).map (Element.without "Layer") :=
    Element.path?_without (by decide) e
  rw [readStyle, readStyle, hpath, Element.childText?_without (by decide),
    Element.childText?_without (by decide)]
  cases e.path? ["LegendURL", "OnlineResource"] with
  | none => rfl
  | some url => simp only [Option.map_some, Option.bind_some, Element.attribute?_without]

theorem ownStyles_without (e : Element) : ownStyles (e.without "Layer") = ownStyles e := by
  rw [ownStyles, ownStyles, Element.childrenNamed_without (by decide), List.map_map]
  exact List.map_congr_left fun style _ => readStyle_without style

theorem ownCrs_without (e : Element) : ownCrs (e.without "Layer") = ownCrs e := by
  rw [ownCrs, ownCrs, Element.childTexts_without (by decide),
    Element.childTexts_without (by decide)]

theorem ownQueryable?_without (e : Element) :
    ownQueryable? (e.without "Layer") = ownQueryable? e := by
  rw [ownQueryable?, ownQueryable?, Element.attribute?_without]

theorem ownScales_without (e : Element) : ownScales (e.without "Layer") = ownScales e := by
  have hhint : ∀ (hint : Element) (name : String),
      hintBound? (hint.without "Layer") name = hintBound? hint name := by
    intro hint name
    rw [hintBound?, hintBound?, Element.attribute?_without]
  rw [ownScales, ownScales, Element.childNumber?_without (by decide),
    Element.childNumber?_without (by decide), Element.child?_without (by decide)]
  cases e.child? "ScaleHint" with
  | none => rfl
  | some hint => simp only [Option.map_some, hhint]

theorem ownBox_without (e : Element) : ownBox (e.without "Layer") = ownBox e := by
  have hnewer : ∀ box : Element, geographicBox (box.without "Layer") = geographicBox box := by
    intro box
    rw [geographicBox, geographicBox, Element.requiredNumber_without (by decide),
      Element.requiredNumber_without (by decide), Element.requiredNumber_without (by decide),
      Element.requiredNumber_without (by decide)]
  have holder : ∀ box : Element, latLonBox (box.without "Layer") = latLonBox box := by
    intro box
    simp only [latLonBox, latLonBox.coordinate, Element.attribute?_without]
  rw [ownBox, ownBox, Element.child?_without (by decide), Element.child?_without (by decide)]
  cases e.child? "EX_GeographicBoundingBox" with
  | some box => simp only [Option.map_some, hnewer]
  | none =>
    cases e.child? "LatLonBoundingBox" with
    | some box => simp only [Option.map_some, Option.map_none, holder]
    | none => rfl

/-- What an element says of its layer does not depend on the layer elements inside it. -/
theorem ofElement_without (parent : WmsLayer) (e : Element) :
    ofElement parent (e.without "Layer") = ofElement parent e := by
  have hname : (e.without "Layer").childText? "Name" = e.childText? "Name" :=
    Element.childText?_without (by decide) e
  have htitle : (e.without "Layer").childText? "Title" = e.childText? "Title" :=
    Element.childText?_without (by decide) e
  simp only [ofElement, hname, htitle, ownQueryable?_without, ownCrs_without, ownStyles_without,
    ownScales_without, ownBox_without]

theorem ofElement_congr (h : e'.without "Layer" = e.without "Layer") (parent : WmsLayer) :
    ofElement parent e' = ofElement parent e := by
  rw [← ofElement_without, h, ofElement_without]

end WmsLayer

/-! ## Trees of layers -/

namespace LayerTree

variable {t t' : LayerTree} {ts ts' : List LayerTree} {x y c c' : Element}
  {parent : WmsLayer}

theorem ofChildren_eq_map (parent : WmsLayer) (es : List Element) :
    ofChildren parent es = (es.filter (·.name == "Layer")).map (ofElement parent) := by
  induction es with
  | nil => rw [ofChildren, List.filter_nil, List.map_nil]
  | cons e es ih =>
    rw [ofChildren]
    split
    · rename_i hname
      rw [ih, List.filter_cons_of_pos (by simpa using hname), List.map_cons]
    · rename_i hname
      rw [ih, List.filter_cons_of_neg (by simpa using hname)]

theorem subtreesOf_append (ts more : List LayerTree) :
    subtreesOf (ts ++ more) = subtreesOf ts ++ subtreesOf more := by
  induction ts with
  | nil => rfl
  | cons t ts ih => rw [List.cons_append, subtreesOf, ih, subtreesOf, List.append_assoc]

/-- The layers of a list of trees, parents before children. -/
def layersOf (ts : List LayerTree) : List WmsLayer := (subtreesOf ts).map layer

theorem layersOf_append (ts more : List LayerTree) :
    layersOf (ts ++ more) = layersOf ts ++ layersOf more := by
  rw [layersOf, subtreesOf_append, List.map_append]
  rfl

theorem layersOf_cons (t : LayerTree) (ts : List LayerTree) :
    layersOf (t :: ts) = t.subtrees.map layer ++ layersOf ts := by
  rw [layersOf, subtreesOf, List.map_append]
  rfl

theorem subtrees_node (l : WmsLayer) (ts : List LayerTree) :
    (node l ts).subtrees.map layer = l :: layersOf ts := by
  rw [subtrees, List.map_cons]
  rfl

mutual

theorem find?_eq (name : String) (t : LayerTree) :
    t.find? name = (t.subtrees.map layer).find? (·.name = some name) := by
  match t with
  | node l ts =>
    rw [find?, subtrees_node, List.find?_cons, findIn?_eq name ts]
    by_cases hname : l.name = some name <;> simp [hname]

/-- Looking a name up goes through the layers in order. -/
theorem findIn?_eq (name : String) (ts : List LayerTree) :
    findIn? name ts = (layersOf ts).find? (·.name = some name) := by
  match ts with
  | [] => rfl
  | t :: ts => rw [findIn?, find?_eq name t, findIn?_eq name ts, layersOf_cons, List.find?_append]

end

/-! ### Trees without values -/

mutual

/-- The tree as it is apart from scales and boxes. -/
def outline : LayerTree → LayerTree
  | node l ts => node l.withoutValues (outlines ts)

/-- The trees as they are apart from scales and boxes. -/
def outlines : List LayerTree → List LayerTree
  | [] => []
  | t :: ts => outline t :: outlines ts

end

theorem outlines_append (ts more : List LayerTree) :
    outlines (ts ++ more) = outlines ts ++ outlines more := by
  induction ts with
  | nil => rfl
  | cons t ts ih => rw [List.cons_append, outlines, ih, outlines, List.cons_append]

mutual

theorem layers_outline (t : LayerTree) :
    t.outline.subtrees.map layer = (t.subtrees.map layer).map WmsLayer.withoutValues := by
  match t with
  | node l ts => rw [outline, subtrees_node, subtrees_node, List.map_cons, layersOf_outlines ts]

theorem layersOf_outlines (ts : List LayerTree) :
    layersOf (outlines ts) = (layersOf ts).map WmsLayer.withoutValues := by
  match ts with
  | [] => rfl
  | t :: ts =>
    rw [outlines, layersOf_cons, layersOf_cons, List.map_append, layers_outline t,
      layersOf_outlines ts]

end

theorem map_name_of_outline_eq (h : t'.outline = t.outline) :
    (t'.subtrees.map layer).map WmsLayer.name = (t.subtrees.map layer).map WmsLayer.name := by
  have hnames : ∀ u : LayerTree, (u.outline.subtrees.map layer).map WmsLayer.name =
      (u.subtrees.map layer).map WmsLayer.name := by
    intro u
    rw [layers_outline, List.map_map]
    rfl
  rw [← hnames t', h, hnames t]

mutual

/-- Inside a layer, its scales and its box bear on scales and boxes only. -/
theorem outline_ofElement {parent parent' : WmsLayer}
    (hparent : parent'.withoutValues = parent.withoutValues) (e : Element) :
    (ofElement parent' e).outline = (ofElement parent e).outline := by
  match e with
  | ⟨name, attributes, text, children⟩ =>
    have hlayer := WmsLayer.withoutValues_ofElement hparent
      (Element.AgreesBut.refl WmsLayer.valueNames ⟨name, attributes, text, children⟩)
    rw [ofElement_eq, ofElement_eq, outline, outline, hlayer, outlines_ofChildren hlayer children]

theorem outlines_ofChildren {parent parent' : WmsLayer}
    (hparent : parent'.withoutValues = parent.withoutValues) (es : List Element) :
    outlines (ofChildren parent' es) = outlines (ofChildren parent es) := by
  match es with
  | [] => rw [ofChildren, ofChildren]
  | e :: es =>
    rw [ofChildren, ofChildren]
    split
    · rw [outlines, outlines, outline_ofElement hparent e, outlines_ofChildren hparent es]
    · exact outlines_ofChildren hparent es

end

/-- The values of an element bear on scales and boxes only. -/
theorem outline_of_agreesBut (h : x.AgreesBut WmsLayer.valueNames y) (parent : WmsLayer) :
    (ofElement parent y).outline = (ofElement parent x).outline := by
  have hlayer : (WmsLayer.ofElement parent y).withoutValues =
      (WmsLayer.ofElement parent x).withoutValues := WmsLayer.withoutValues_ofElement rfl h
  have hlayers : y.childrenNamed "Layer" = x.childrenNamed "Layer" := h.childrenNamed (by decide)
  have hchildren := outlines_ofChildren hlayer x.children
  rw [ofElement_eq, ofElement_eq, outline, outline, hlayer, ← hchildren, ofChildren_eq_map,
    ofChildren_eq_map]
  rw [← Element.childrenNamed, ← Element.childrenNamed, hlayers]

/-! ### A subtree exchanged -/

/-- The lists of trees are the same but for one subtree, which is `t` in the first list and `t'` in
the second. -/
inductive Exchanged (t t' : LayerTree) : List LayerTree → List LayerTree → Prop where
  | here (before after : List LayerTree) :
    Exchanged t t' (before ++ t :: after) (before ++ t' :: after)
  | inside (l : WmsLayer) (before after : List LayerTree) {ts ts' : List LayerTree}
    (h : Exchanged t t' ts ts') :
    Exchanged t t' (before ++ node l ts :: after) (before ++ node l ts' :: after)

namespace Exchanged

theorem append (h : Exchanged t t' ts ts') (front back : List LayerTree) :
    Exchanged t t' (front ++ ts ++ back) (front ++ ts' ++ back) := by
  cases h with
  | here before after =>
    have hhere : Exchanged t t' _ _ := here (front ++ before) (after ++ back)
    simpa using hhere
  | inside l before after h =>
    have hinside := inside l (front ++ before) (after ++ back) h
    simpa using hinside

/-- The layers before and after the subtree are the same. -/
theorem exists_layersOf (h : Exchanged t t' ts ts') : ∃ before after,
    layersOf ts = before ++ t.subtrees.map layer ++ after ∧
      layersOf ts' = before ++ t'.subtrees.map layer ++ after := by
  induction h with
  | here before after =>
    refine ⟨layersOf before, layersOf after, ?_, ?_⟩ <;> simp [layersOf_append, layersOf_cons]
  | inside l before after h ih =>
    obtain ⟨before', after', hts, hts'⟩ := ih
    refine ⟨layersOf before ++ l :: before', after' ++ layersOf after, ?_, ?_⟩
    · simp [layersOf_append, layersOf_cons, subtrees_node, hts]
    · simp [layersOf_append, layersOf_cons, subtrees_node, hts']

theorem outlines_eq (h : Exchanged t t' ts ts') (ht : t'.outline = t.outline) :
    outlines ts' = outlines ts := by
  induction h with
  | here before after => simp only [outlines_append, outlines, ht]
  | inside l before after h ih => simp only [outlines_append, outlines, outline, ih]

end Exchanged

/-- The lists are the same, or the same but for what is read from `x` in the first list and from `y`
in the second. -/
def ExchangedElement (x y : Element) (ts ts' : List LayerTree) : Prop :=
  ts' = ts ∨ ∃ parent, Exchanged (ofElement parent x) (ofElement parent y) ts ts'

theorem exchanged_ofChildren (hname : c'.name = c.name)
    (h : ExchangedElement x y [ofElement parent c] [ofElement parent c'])
    (before after : List Element) :
    ExchangedElement x y (ofChildren parent (before ++ c :: after))
      (ofChildren parent (before ++ c' :: after)) := by
  by_cases hlayer : c.name = "Layer"
  · have hchildren : ∀ d : Element, d.name = "Layer" → ofChildren parent (before ++ d :: after) =
        ofChildren parent before ++ [ofElement parent d] ++ ofChildren parent after := by
      intro d hd
      simp [ofChildren_eq_map, hd]
    rw [hchildren c hlayer, hchildren c' (hname.trans hlayer)]
    rcases h with h | ⟨outer, h⟩
    · rw [h]
      exact .inl rfl
    · exact .inr ⟨outer, h.append _ _⟩
  · have hlayer' : ¬ c'.name = "Layer" := by rwa [hname]
    refine .inl ?_
    simp [ofChildren_eq_map, hlayer, hlayer']

/-- A tree of elements with one layer element exchanged gives a tree of layers with one subtree
exchanged. -/
theorem exchanged_ofElement (hx : x.name = "Layer") (hy : y.name = "Layer")
    (h : Xml.Exchanged x y c c') (parent : WmsLayer) :
    ExchangedElement x y [ofElement parent c] [ofElement parent c'] := by
  have hname := hy.trans hx.symm
  induction h generalizing parent with
  | here => exact .inr ⟨parent, .here [] []⟩
  | inside name attributes text before after h ih =>
    have hwithout := Xml.Exchanged.without_congr (h.withoutAmong_eq hname) name attributes text
      before after
    rw [hx] at hwithout
    rw [ofElement_eq, ofElement_eq, WmsLayer.ofElement_congr hwithout]
    rcases exchanged_ofChildren (h.name_eq hname) (ih _) before after with hsame | ⟨outer, hinner⟩
    · exact .inl (by rw [hsame])
    · exact .inr ⟨outer, .inside _ [] [] hinner⟩

theorem exchanged_children (hx : x.name = "Layer") (hy : y.name = "Layer")
    (h : Xml.Exchanged x y c c') (hc : c.name ≠ "Layer") (parent : WmsLayer) :
    ExchangedElement x y (ofChildren parent c.children) (ofChildren parent c'.children) := by
  cases h with
  | here => exact absurd hx hc
  | inside name attributes text before after h =>
    exact exchanged_ofChildren (h.name_eq (hy.trans hx.symm)) (exchanged_ofElement hx hy h parent)
      before after

end LayerTree

/-! ## Documents -/

namespace WmsCapabilities

variable {x y root root' : Element} {c c' : WmsCapabilities}

/-- What two documents say that differ in one layer element, `x` in the first document and `y` in
the second: they offer the same formats, and the layers outside of the element are the same. -/
structure DiffersInside (x y : Element) (c c' : WmsCapabilities) : Prop where
  version : c'.version = c.version
  formats : c'.formats = c.formats
  infoFormats : c'.infoFormats = c.infoFormats
  /-- The layers are nested alike, and they are the same apart from scales and boxes. -/
  outlines : LayerTree.outlines c'.layers = LayerTree.outlines c.layers
  /-- The layers are the same, or are those before the element, those inside it and those after
  it. A name that is not found inside the element gives each layer the same properties. -/
  layers : c' = c ∨ ∃ parent before after,
    LayerTree.layersOf c.layers =
      before ++ (LayerTree.ofElement parent x).subtrees.map LayerTree.layer ++ after ∧
    LayerTree.layersOf c'.layers =
      before ++ (LayerTree.ofElement parent y).subtrees.map LayerTree.layer ++ after ∧
    ∀ l : Layer, ((∃ m ∈ before, m.name = some l.name) ∨
      ∀ m ∈ (LayerTree.ofElement parent x).subtrees.map LayerTree.layer, m.name ≠ some l.name) →
        c'.patch l = c.patch l

theorem find?_eq (c : WmsCapabilities) (name : String) :
    c.find? name = (LayerTree.layersOf c.layers).find? (·.name = some name) :=
  LayerTree.findIn?_eq name c.layers

/-- A layer is given the properties of the layer that is found. -/
theorem patch_congr (hversion : c'.version = c.version) (hformats : c'.formats = c.formats)
    (hinfoFormats : c'.infoFormats = c.infoFormats) {l : Layer}
    (hfind : c'.find? l.name = c.find? l.name) : c'.patch l = c.patch l := by
  have hcapabilities : ∀ found, c'.layerCapabilities found = c.layerCapabilities found := by
    intro found
    simp only [layerCapabilities, hversion, hformats, hinfoFormats]
  simp only [patch, hfind, hcapabilities]

/-- Among layers of which a part is exchanged for layers with the same names, a name is found as
before unless it is found in that part first. -/
theorem find?_of_names_eq {before inside inside' after : List WmsLayer} {name : String}
    (hnames : inside'.map WmsLayer.name = inside.map WmsLayer.name)
    (h : (∃ m ∈ before, m.name = some name) ∨ ∀ m ∈ inside, m.name ≠ some name) :
    (before ++ inside' ++ after).find? (·.name = some name) =
      (before ++ inside ++ after).find? (·.name = some name) := by
  simp only [List.find?_append]
  rcases h with ⟨m, hm, hname⟩ | h
  · have hfound : (before.find? (·.name = some name)).isSome :=
      List.find?_isSome.2 ⟨m, hm, by simpa using hname⟩
    obtain ⟨found, hfound⟩ := Option.isSome_iff_exists.1 hfound
    rw [hfound]
    rfl
  · have habsent : ∀ layers : List WmsLayer, some name ∉ layers.map WmsLayer.name →
        layers.find? (·.name = some name) = none := by
      intro layers hlayers
      refine List.find?_eq_none.2 fun m hm hname => hlayers ?_
      exact List.mem_map.2 ⟨m, hm, by simpa using hname⟩
    have hinside : some name ∉ inside.map WmsLayer.name := by
      intro hmem
      obtain ⟨m, hm, hname⟩ := List.mem_map.1 hmem
      exact h m hm hname
    rw [habsent inside hinside, habsent inside' (by rwa [hnames])]

theorem differsInside_of_layers (hvalues : x.AgreesBut WmsLayer.valueNames y)
    (hversion : c'.version = c.version) (hformats : c'.formats = c.formats)
    (hinfoFormats : c'.infoFormats = c.infoFormats)
    (hlayers : LayerTree.ExchangedElement x y c.layers c'.layers) : DiffersInside x y c c' := by
  have houtline := LayerTree.outline_of_agreesBut hvalues
  rcases hlayers with hsame | ⟨parent, hlayers⟩
  · exact ⟨hversion, hformats, hinfoFormats, by rw [hsame], .inl (by cases c; cases c'; simp_all)⟩
  · obtain ⟨before, after, hc, hc'⟩ := hlayers.exists_layersOf
    refine ⟨hversion, hformats, hinfoFormats, hlayers.outlines_eq (houtline parent),
      .inr ⟨parent, before, after, hc, hc', fun l hl => ?_⟩⟩
    refine patch_congr hversion hformats hinfoFormats ?_
    rw [find?_eq, find?_eq, hc, hc']
    exact find?_of_names_eq (LayerTree.map_name_of_outline_eq (houtline parent)) hl

theorem offeredFormats_without {request : String} (h : request ≠ "Layer") (e : Element) :
    offeredFormats (e.without "Layer") request = offeredFormats e request := by
  have hpath : (e.without "Layer").path? ["Request", request] =
      (e.path? ["Request", request]).map (Element.without "Layer") :=
    Element.path?_without (by simp [h]) e
  rw [offeredFormats, offeredFormats, hpath]
  cases e.path? ["Request", request] with
  | none => rfl
  | some offer => exact Element.childTexts_without (by decide) offer

theorem offeredFormats_congr (h : y.without "Layer" = x.without "Layer") {request : String}
    (hrequest : request ≠ "Layer") : offeredFormats y request = offeredFormats x request := by
  rw [← offeredFormats_without hrequest, h, offeredFormats_without hrequest]

/-- Of two documents that differ in the values of one layer element, both can be read or neither,
and then they differ in the scales and boxes of the layers inside that element at most. -/
theorem differsInside_ofElement (hx : x.name = "Layer")
    (hvalues : x.AgreesBut WmsLayer.valueNames y) (h : Xml.Exchanged x y root root') :
    Failure.Agree (DiffersInside x y) (ofElement root) (ofElement root') := by
  have hname : y.name = x.name := hvalues.name
  unfold ofElement
  rw [h.name_eq hname]
  split
  case isFalse => exact .error _
  case isTrue hroot =>
    have hother : root.name ≠ x.name := by
      rw [hx]
      intro hlayer
      rw [hlayer] at hroot
      exact absurd hroot (by decide)
    have hwithout : ∀ {e e' : Element}, Xml.Exchanged x y e e' → e.name ≠ x.name →
        e'.without "Layer" = e.without "Layer" := by
      intro e e' h he
      rcases h.without_eq hname with ⟨rfl, -⟩ | h
      · exact absurd rfl he
      · rwa [hx] at h
    have hversion : root'.attribute? "version" = root.attribute? "version" := by
      rw [← Element.attribute?_without "Layer" root', hwithout h hother,
        Element.attribute?_without]
    rcases h.child?_cases hname hother "Capability" with hsame | ⟨c, c', hc, hc', hinner⟩
    · rw [hsame]
      cases root.child? "Capability" with
      | none => exact .error _
      | some capability =>
        exact .ok (differsInside_of_layers hvalues hversion rfl rfl (.inl rfl))
    · have hcapability : c.name = "Capability" := by simpa using List.find?_some hc
      have hinside : c.name ≠ "Layer" := by
        rw [hcapability]
        decide
      have hformats := hwithout hinner (by rwa [hx])
      rw [hc, hc']
      exact .ok (differsInside_of_layers hvalues hversion
        (offeredFormats_congr hformats (by decide)) (offeredFormats_congr hformats (by decide))
        (LayerTree.exchanged_children hx (hname.trans hx) hinner hinside {}))

/-- The values of a layer element do not decide whether a document can be read, and they bear on no
layer outside of the element. -/
theorem values_stay_inside (hx : x.name = "Layer") (hvalues : x.AgreesBut WmsLayer.valueNames y)
    (h : Xml.Exchanged x y root root') :
    Failure.Agree (DiffersInside x y) (ofElement root) (ofElement root') ∧
      ∀ {xml xml' : String}, Element.ofDocument xml = .ok root →
        Element.ofDocument xml' = .ok root' →
          Failure.Agree (DiffersInside x y) (read xml) (read xml') := by
  have hagree := differsInside_ofElement hx hvalues h
  refine ⟨hagree, fun hxml hxml' => ?_⟩
  rw [read, read, hxml, hxml']
  exact hagree

/-- A layer element with the given values, and a layer inside it. -/
def roadsElement (values : List Element) : Element where
  name := "Layer"
  children := { name := "Name", text := "roads" } ::
    (values ++ [{ name := "Layer", children := [{ name := "Name", text := "lanes" }] }])

/-- A document with that element inside a layer, beside another one. -/
def roadsRoot (values : List Element) : Element where
  name := "WMS_Capabilities"
  children := [{ name := "Capability", children := [{ name := "Layer", children := [
    roadsElement values,
    { name := "Layer", children := [{ name := "Name", text := "rails" }] }] }] }]

def unreadableHint : Element := { name := "ScaleHint", attributes := [("min", "low")] }

/-- A bound that cannot be read spoils its layer and the layer inside, and no other one. -/
theorem values_stay_inside_roads :
    Failure.Agree (DiffersInside (roadsElement []) (roadsElement [unreadableHint]))
        (ofElement (roadsRoot [])) (ofElement (roadsRoot [unreadableHint])) ∧
      (ofElement (roadsRoot [unreadableHint])).toOption.map (fun c =>
        (LayerTree.layersOf c.layers).map fun l => (l.name, l.check)) = some [
          (none, .ok ()),
          (some "roads", .error (.invalidNumber "ScaleHint" "low")),
          (some "lanes", .error (.invalidNumber "ScaleHint" "low")),
          (some "rails", .ok ())] := by
  have hvalues : (roadsElement []).AgreesBut WmsLayer.valueNames (roadsElement [unreadableHint]) :=
    ⟨rfl, rfl, rfl, by simp [roadsElement, unreadableHint, WmsLayer.valueNames]⟩
  have hexchanged : Xml.Exchanged (roadsElement []) (roadsElement [unreadableHint])
      (roadsRoot []) (roadsRoot [unreadableHint]) :=
    .inside _ _ _ [] [] (.inside _ _ _ [] [] (.inside _ _ _ [] _ .here))
  exact ⟨(values_stay_inside rfl hvalues hexchanged).1, by decide +kernel⟩

end WmsCapabilities

end MapServices
