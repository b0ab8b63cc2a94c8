import MapServices.Capabilities.Patch
import MapServices.Proofs.Capabilities.Inheritance

/-!
# The styles of a layer

A layer of a map service has the styles that are defined along its chain of elements. A definition
takes the place of all earlier ones of the same name, whether they stand in the same element or
further out. So it is enough to list the definitions once and to keep the last one of each name.

* `latest` keeps the last definition of each name, and `foldl_putStyle` says that putting styles one
  after the other comes to the same.
* `find?_latest`: the definition that is kept for a name is the last one in the list.
* `layers_override_styles`: every layer of a document, and every patch made from it, has the last
  definition of each name along the chain.
-/

namespace MapServices

open Xml (Element)

namespace WmsLayer

/-- The definitions of styles in the elements of a chain, the outermost element first. -/
def definedStyles (chain : List Element) : List Style :=
  chain.flatMap fun e => (e.childrenNamed "Style").map readStyle

/-- The definitions that are not followed by another one of the same name. -/
def latest : List Style → List Style
  | [] => []
  | style :: later =>
    if style.name ∈ later.map Style.name then latest later else style :: latest later

/-! ## The last definition of each name -/

theorem latest_concat (styles : List Style) (style : Style) :
    latest (styles ++ [style]) = putStyle (latest styles) style := by
  induction styles with
  | nil => rfl
  | cons first styles ih =>
    rw [List.cons_append, latest, latest, ih]
    have hnames : first.name ∈ (styles ++ [style]).map Style.name ↔
        first.name ∈ styles.map Style.name ∨ first.name = style.name := by
      simp only [List.map_append, List.mem_append, List.map_cons, List.map_nil, List.mem_singleton]
    by_cases hlater : first.name ∈ styles.map Style.name
    · rw [if_pos (hnames.2 (.inl hlater)), if_pos hlater]
    · rw [if_neg hlater]
      by_cases hsame : first.name = style.name
      · rw [if_pos (hnames.2 (.inr hsame)), putStyle, putStyle,
          List.filter_cons_of_neg (by simp [hsame])]
      · rw [if_neg (by rw [hnames]; exact not_or.2 ⟨hlater, hsame⟩), putStyle, putStyle,
          List.filter_cons_of_pos (by simp [hsame]), List.cons_append]

/-- To put styles one after the other is to keep the last one of each name. -/
theorem foldl_putStyle (styles more : List Style) :
    more.foldl putStyle (latest styles) = latest (styles ++ more) := by
  induction more generalizing styles with
  | nil => rw [List.foldl_nil, List.append_nil]
  | cons style more ih =>
    rw [List.foldl_cons, ← latest_concat, ih, List.append_assoc, List.singleton_append]

/-- No name gets lost, and none is added. -/
theorem mem_names_latest {styles : List Style} {name : String} :
    name ∈ (latest styles).map Style.name ↔ name ∈ styles.map Style.name := by
  induction styles with
  | nil => rfl
  | cons style later ih =>
    rw [latest, List.map_cons, List.mem_cons]
    split
    · rename_i hlater
      rw [ih]
      refine ⟨.inr, ?_⟩
      rintro (rfl | h)
      · exact hlater
      · exact h
    · rw [List.map_cons, List.mem_cons, ih]

theorem nodup_names_latest (styles : List Style) : ((latest styles).map Style.name).Nodup := by
  induction styles with
  | nil => exact List.nodup_nil
  | cons style later ih =>
    rw [latest]
    split
    · exact ih
    · rename_i hlater
      rw [List.map_cons, List.nodup_cons, mem_names_latest]
      exact ⟨hlater, ih⟩

theorem find?_latest (styles : List Style) (name : String) :
    (latest styles).find? (·.name == name) = styles.findRev? (·.name == name) := by
  rw [List.findRev?_eq_find?_reverse]
  induction styles with
  | nil => rfl
  | cons style later ih =>
    rw [List.reverse_cons, List.find?_append, ← ih, List.find?_singleton, latest]
    have hfound : ((latest later).find? (·.name == name)).isSome ↔ name ∈ later.map Style.name := by
      rw [List.find?_isSome, ← mem_names_latest, List.mem_map]
      simp only [beq_iff_eq]
    by_cases hname : style.name == name
    · rw [if_pos hname]
      rw [beq_iff_eq] at hname
      split
      · rename_i hlater
        obtain ⟨found, hsome⟩ := Option.isSome_iff_exists.1 (hfound.2 (hname ▸ hlater))
        rw [hsome, Option.some_or]
      · rename_i hlater
        have hnone := Option.not_isSome_iff_eq_none.1 (mt hfound.1 (hname ▸ hlater))
        rw [hnone, Option.none_or]
        exact List.find?_cons_of_pos (by rwa [beq_iff_eq])
    · rw [if_neg hname, Option.or_none]
      split
      · rfl
      · exact List.find?_cons_of_neg hname

/-! ## Chains -/

open LayerTree (atEnd atEnd_concat)

theorem styles_atEnd (chain : List Element) :
    (atEnd chain).styles = latest (definedStyles chain) := by
  induction chain using List.reverseRecOn with
  | nil => rfl
  | append_singleton chain e ih =>
    have hput : (atEnd (chain ++ [e])).styles =
        ((e.childrenNamed "Style").map readStyle).foldl putStyle (atEnd chain).styles := by
      rw [atEnd_concat]
      rfl
    rw [hput, ih, foldl_putStyle, definedStyles, definedStyles, List.flatMap_append,
      List.flatMap_singleton]

/-- The layer at the end of a chain has the last definition of each name along the chain, in the
order of these definitions, and so has the patch of a configured layer for which it is found. -/
structure OverridesStyles (c : WmsCapabilities) (chain : List Element) (l : WmsLayer) : Prop where
  styles : l.styles = latest (definedStyles chain)
  nodup : (l.styles.map Style.name).Nodup
  names : ∀ name, name ∈ l.styles.map Style.name ↔ name ∈ (definedStyles chain).map Style.name
  patch : ∀ layer, c.find? layer.name = some l → l.check = .ok () →
    ∃ patch, c.patch layer = .ok patch ∧ patch.layerId = layer.id ∧
      patch.capabilities.styles = l.styles ∧
      ∀ name, patch.capabilities.style? name =
        (definedStyles chain).findRev? (·.name == name)

theorem overridesStyles_atEnd (c : WmsCapabilities) (chain : List Element) :
    OverridesStyles c chain (atEnd chain) where
  styles := styles_atEnd chain
  nodup := by
    rw [styles_atEnd]
    exact nodup_names_latest _
  names name := by
    rw [styles_atEnd]
    exact mem_names_latest
  patch layer hfind hcheck := by
    refine ⟨⟨layer.id, c.layerCapabilities (atEnd chain)⟩, ?_, rfl, rfl, fun name => ?_⟩
    · rw [WmsCapabilities.patch, hfind]
      exact Failure.bind_eq_ok.2 ⟨(), hcheck, rfl⟩
    · rw [← find?_latest, ← styles_atEnd]
      rfl

end WmsLayer

/-! ## Documents -/

namespace WmsCapabilities

/-- Every layer of a document has the last definition of each name of a style along its chain of
elements. -/
theorem layers_override_styles {xml : String} {c : WmsCapabilities} (h : read xml = .ok c) :
    ∃ root capability, Element.ofDocument xml = .ok root ∧
      root.child? "Capability" = some capability ∧
      (∀ chain, chain ∈ LayerTree.chains capability ↔ LayerTree.IsChain capability chain) ∧
      List.Forall₂ (WmsLayer.OverridesStyles c) (LayerTree.chains capability)
        (c.subtrees.map LayerTree.layer) :=
  forall₂_layers h (WmsLayer.overridesStyles_atEnd c)

/-- A layer with a named style and one without a name, and in it a layer that defines the named one
anew. -/
def restyledDocument : String :=
  "<WMS_Capabilities><Capability><Layer><Style><Name>line</Name></Style><Style/><Layer><Style>" ++
    "<Name>line</Name><Title>new</Title></Style></Layer></Layer></Capability></WMS_Capabilities>"

/-- The inner layer keeps the style that it does not define, and has its own one behind it. -/
theorem layers_override_styles_anew :
    ∃ c capability, read restyledDocument = .ok c ∧
      c.subtrees.map (fun t => t.layer.styles.map fun style => (style.name, style.title)) =
        [[("line", none), ("", none)], [("", none), ("line", some "new")]] ∧
      (LayerTree.chains capability).length = 2 ∧
      List.Forall₂ (WmsLayer.OverridesStyles c) (LayerTree.chains capability)
        (c.subtrees.map LayerTree.layer) := by
  have hread : (read restyledDocument).toOption.map (fun c => c.subtrees.map fun t =>
      t.layer.styles.map fun style => (style.name, style.title)) =
        some [[("line", none), ("", none)], [("", none), ("line", some "new")]] := by
    decide +kernel
  obtain ⟨c, hc, hstyles⟩ := Option.map_eq_some_iff.1 hread
  have hc := Failure.toOption_eq_some.1 hc
  obtain ⟨root, capability, -, -, -, hall⟩ := layers_override_styles hc
  refine ⟨c, capability, hc, hstyles, ?_, hall⟩
  have hcount := congrArg List.length hstyles
  rw [List.length_map] at hcount
  rw [hall.length_eq, List.length_map, hcount]
  rfl

end WmsCapabilities

end MapServices
