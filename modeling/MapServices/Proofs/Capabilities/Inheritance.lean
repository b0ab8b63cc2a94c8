import MapServices.Proofs.Capabilities.Chain
import MapServices.Proofs.Failure
import MapServices.Proofs.Sorted.Set
import MapServices.Proofs.Text.Blank

/-!
# What a layer inherits

What a layer of a map service is known by can be read off its chain of elements without regard to
the layers around it. Reference systems are gathered along the chain; whether the layer can be
queried, its box and its scales are given by the deepest element that gives any, and that element
may also be one whose value cannot be read.

* `Inherits` states this for a chain and a layer.
* `layers_inherit`: every layer of a document inherits along its chain.
-/

namespace MapServices

open Xml (Element)

/-- What the deepest element of a chain gives, among those that give anything. -/
def deepest? {α : Type} (given? : Element → Option α) (chain : List Element) : Option α :=
  chain.reverse.findSome? given?

theorem deepest?_concat {α : Type} (given? : Element → Option α) (chain : List Element)
    (e : Element) :
    deepest? given? (chain ++ [e]) = (given? e).or (deepest? given? chain) := by
  rw [deepest?, List.reverse_append, List.reverse_singleton, List.singleton_append,
    List.findSome?_cons]
  cases given? e <;> rfl

namespace WmsLayer

/-- The reference systems that an element names in its children. -/
def NamesCrs (e : Element) (name : String) : Prop :=
  ∃ child ∈ e.children, (child.name = "CRS" ∨ child.name = "SRS") ∧
    name.toList ∈ Text.words child.text.toList

/-- The scales of an element that gives any, or why they cannot be read. -/
def givenScales? (e : Element) : Option (Except DocumentError ScaleRange) :=
  match ownScales e with
  | .ok range => if range.isEmpty then none else some (.ok range)
  | .error error => some (.error error)

/-- The box of an element that gives one, or why it cannot be read. -/
def givenBox? (e : Element) : Option (Except DocumentError BoundingBox) :=
  match ownBox e with
  | .ok none => none
  | .ok (some box) => some (.ok box)
  | .error error => some (.error error)

/-- The layer at the end of a chain has the name and title of the last element, and beyond that is
what the elements of the chain give. -/
structure Inherits (chain : List Element) (l : WmsLayer) : Prop where
  name : l.name = chain.getLast?.bind (·.childText? "Name")
  title : l.title = chain.getLast?.bind (·.childText? "Title")
  crs : ∀ name, name ∈ l.crs ↔ ∃ e ∈ chain, NamesCrs e name
  queryable : l.queryable = true ↔
    ∃ value ∈ deepest? (·.attribute? "queryable") chain,
      value = "1" ∨ Text.lower value.toList = "true".toList
  boundingBox : l.boundingBox =
    match deepest? givenBox? chain with
    | some (.ok box) => some box
    | _ => none
  check : l.check =
    match deepest? givenScales? chain, deepest? givenBox? chain with
    | some (.error error), _ => .error error
    | _, some (.error error) => .error error
    | _, _ => .ok ()

/-! ## One element -/

theorem mem_ownCrs {e : Element} {name : String} : name ∈ ownCrs e ↔ NamesCrs e name := by
  have htexts : ∀ tag, (∃ text ∈ e.childTexts tag, name.toList ∈ Text.words text.toList) ↔
      ∃ child ∈ e.children, child.name = tag ∧ name.toList ∈ Text.words child.text.toList := by
    intro tag
    constructor
    · rintro ⟨text, htext, hname⟩
      obtain ⟨child, hchild, hcontent⟩ := List.mem_filterMap.1 htext
      obtain ⟨hmem, htag⟩ := List.mem_filter.1 hchild
      refine ⟨child, hmem, by simpa using htag, ?_⟩
      rw [← Text.flatMap_words_nonBlank?, List.mem_flatMap]
      exact ⟨text, Option.mem_toList.2 hcontent, hname⟩
    · rintro ⟨child, hmem, htag, hname⟩
      rw [← Text.flatMap_words_nonBlank?, List.mem_flatMap] at hname
      obtain ⟨text, htext, hname⟩ := hname
      refine ⟨text, List.mem_filterMap.2 ⟨child, ?_, Option.mem_toList.1 htext⟩, hname⟩
      exact List.mem_filter.2 ⟨hmem, by simpa using htag⟩
  have hwords : ∀ text : String, name ∈ (Text.words text.toList).map String.ofList ↔
      name.toList ∈ Text.words text.toList := by
    intro text
    rw [List.mem_map]
    constructor
    · rintro ⟨word, hword, rfl⟩
      rwa [String.toList_ofList]
    · exact fun hword => ⟨_, hword, String.ofList_toList⟩
  simp only [ownCrs, List.mem_flatMap, List.mem_append, hwords, or_and_right, exists_or, htexts,
    NamesCrs, and_or_left]

theorem inheritScales_eq (e : Element) (inherited : Except DocumentError ScaleRange) :
    inheritScales (ownScales e) inherited = (givenScales? e).getD inherited := by
  unfold inheritScales givenScales?
  cases ownScales e with
  | error error => rfl
  | ok range => cases h : range.isEmpty <;> simp [h]

theorem inheritBox_eq (e : Element) (inherited : Except DocumentError (Option BoundingBox)) :
    inheritBox (ownBox e) inherited = ((givenBox? e).map (·.map some)).getD inherited := by
  unfold inheritBox givenBox?
  cases ownBox e with
  | error error => rfl
  | ok box => cases box <;> rfl

/-! ## The end of a chain -/

open LayerTree (atEnd atEnd_concat)

theorem mem_crs_atEnd {chain : List Element} {name : String} :
    name ∈ (atEnd chain).crs ↔ ∃ e ∈ chain, NamesCrs e name := by
  induction chain using List.reverseRecOn with
  | nil => exact iff_of_false NameSet.not_mem_empty (by simp)
  | append_singleton chain e ih =>
    have hput : name ∈ (atEnd (chain ++ [e])).crs ↔ name ∈ (atEnd chain).crs ∨ name ∈ ownCrs e := by
      rw [atEnd_concat]
      exact NameSet.mem_foldl_insert
    simp only [hput, ih, mem_ownCrs, List.mem_append, List.mem_singleton, or_and_right, exists_or,
      exists_eq_left]

theorem queryable_atEnd (chain : List Element) :
    (atEnd chain).queryable = (deepest? ownQueryable? chain).getD false := by
  induction chain using List.reverseRecOn with
  | nil => rfl
  | append_singleton chain e ih =>
    rw [atEnd_concat, deepest?_concat, Option.getD_or, ← ih]
    rfl

theorem scales_atEnd (chain : List Element) :
    (atEnd chain).scales = (deepest? givenScales? chain).getD (.ok {}) := by
  induction chain using List.reverseRecOn with
  | nil => rfl
  | append_singleton chain e ih =>
    rw [atEnd_concat, deepest?_concat, Option.getD_or, ← ih]
    exact inheritScales_eq e _

theorem box_atEnd (chain : List Element) :
    (atEnd chain).box = ((deepest? givenBox? chain).map (·.map some)).getD (.ok none) := by
  induction chain using List.reverseRecOn with
  | nil => rfl
  | append_singleton chain e ih =>
    rw [atEnd_concat, deepest?_concat, Option.map_or, Option.getD_or, ← ih]
    exact inheritBox_eq e _

theorem deepest?_ownQueryable? (chain : List Element) :
    deepest? ownQueryable? chain = (deepest? (·.attribute? "queryable") chain).map fun value =>
      value == "1" || Text.sameIgnoringCase value "true" := by
  induction chain using List.reverseRecOn with
  | nil => rfl
  | append_singleton chain e ih =>
    rw [deepest?_concat, deepest?_concat, Option.map_or, ih]
    rfl

theorem name_title_atEnd (chain : List Element) :
    (atEnd chain).name = chain.getLast?.bind (·.childText? "Name") ∧
      (atEnd chain).title = chain.getLast?.bind (·.childText? "Title") := by
  rcases List.eq_nil_or_concat' chain with rfl | ⟨outer, e, rfl⟩
  · exact ⟨rfl, rfl⟩
  · rw [atEnd_concat, List.getLast?_concat]
    exact ⟨rfl, rfl⟩

theorem inherits_atEnd (chain : List Element) : Inherits chain (atEnd chain) where
  name := (name_title_atEnd chain).1
  title := (name_title_atEnd chain).2
  crs _ := mem_crs_atEnd
  queryable := by
    rw [queryable_atEnd, deepest?_ownQueryable?]
    cases deepest? (·.attribute? "queryable") chain with
    | none => simp
    | some value =>
      have htrue : Text.lower "true".toList = "true".toList := by decide
      simp only [Option.map_some, Option.getD_some, Text.sameIgnoringCase, htrue, Option.mem_def,
        Option.some.injEq, exists_eq_left', Bool.or_eq_true, beq_iff_eq]
  boundingBox := by
    rw [boundingBox, box_atEnd]
    rcases deepest? givenBox? chain with _ | error | box <;> rfl
  check := by
    rw [check, scales_atEnd, box_atEnd]
    rcases deepest? givenScales? chain with _ | error | range <;>
      rcases deepest? givenBox? chain with _ | error | box <;> rfl

end WmsLayer

/-! ## Documents -/

namespace WmsCapabilities

theorem read_eq_ok {xml : String} {c : WmsCapabilities} (h : read xml = .ok c) :
    ∃ root capability, Element.ofDocument xml = .ok root ∧
      root.child? "Capability" = some capability ∧
      c.layers = LayerTree.ofChildren {} capability.children := by
  obtain ⟨root, hroot, h⟩ := Failure.bind_eq_ok.1 h
  unfold ofElement at h
  split at h
  · split at h
    · cases h
    · rename_i capability hcapability
      cases h
      exact ⟨root, capability, hroot, hcapability, rfl⟩
  · cases h

/-- The layers of a document are those at the ends of the chains inside its first `Capability`, so
what holds of the end of every chain holds of every layer. -/
theorem forall₂_layers {xml : String} {c : WmsCapabilities} {P : List Element → WmsLayer → Prop}
    (h : read xml = .ok c) (hP : ∀ chain, P chain (LayerTree.atEnd chain)) :
    ∃ root capability, Element.ofDocument xml = .ok root ∧
      root.child? "Capability" = some capability ∧
      (∀ chain, chain ∈ LayerTree.chains capability ↔ LayerTree.IsChain capability chain) ∧
      List.Forall₂ P (LayerTree.chains capability) (c.subtrees.map LayerTree.layer) := by
  obtain ⟨root, capability, hroot, hcapability, hlayers⟩ := read_eq_ok h
  refine ⟨root, capability, hroot, hcapability, fun _ => LayerTree.mem_chains_iff, ?_⟩
  have hends : c.subtrees.map LayerTree.layer =
      (LayerTree.chains capability).map LayerTree.atEnd := by
    rw [subtrees, hlayers]
    exact LayerTree.layers_ofChildren [] capability.children
  rw [hends, List.forall₂_map_right_iff, List.forall₂_same]
  exact fun chain _ => hP chain

/-- The layers of a document are those at the ends of the chains inside its first `Capability`, and
each inherits along its chain. -/
theorem layers_inherit {xml : String} {c : WmsCapabilities} (h : read xml = .ok c) :
    ∃ root capability, Element.ofDocument xml = .ok root ∧
      root.child? "Capability" = some capability ∧
      (∀ chain, chain ∈ LayerTree.chains capability ↔ LayerTree.IsChain capability chain) ∧
      List.Forall₂ WmsLayer.Inherits (LayerTree.chains capability)
        (c.subtrees.map LayerTree.layer) :=
  forall₂_layers h WmsLayer.inherits_atEnd

/-- A layer in a layer in a layer. The outermost one has a box that cannot be read, the one inside
it scales that cannot be read, and the innermost one says that it cannot be queried. -/
def nestedDocument : String :=
  "<WMS_Capabilities><Capability><Layer queryable='1'><CRS>A B</CRS><LatLonBoundingBox/>" ++
    "<Layer><ScaleHint min='low'/><Layer queryable='no'/></Layer></Layer></Capability>" ++
    "</WMS_Capabilities>"

/-- The innermost layer inherits the box and the scales that cannot be read. -/
theorem layers_inherit_nested :
    ∃ c capability, read nestedDocument = .ok c ∧
      c.subtrees.map (fun t => (t.layer.queryable, t.layer.crs.toList, t.layer.check)) = [
        (true, ["A", "B"], .error (.missingElement "LatLonBoundingBox")),
        (true, ["A", "B"], .error (.invalidNumber "ScaleHint" "low")),
        (false, ["A", "B"], .error (.invalidNumber "ScaleHint" "low"))] ∧
      (LayerTree.chains capability).length = 3 ∧
      List.Forall₂ WmsLayer.Inherits (LayerTree.chains capability)
        (c.subtrees.map LayerTree.layer) := by
  have hread : (read nestedDocument).toOption.map (fun c => c.subtrees.map fun t =>
      (t.layer.queryable, t.layer.crs.toList, t.layer.check)) = some [
        (true, ["A", "B"], .error (.missingElement "LatLonBoundingBox")),
        (true, ["A", "B"], .error (.invalidNumber "ScaleHint" "low")),
        (false, ["A", "B"], .error (.invalidNumber "ScaleHint" "low"))] := by
    decide +kernel
  obtain ⟨c, hc, hlayers⟩ := Option.map_eq_some_iff.1 hread
  have hc := Failure.toOption_eq_some.1 hc
  obtain ⟨root, capability, -, -, -, hall⟩ := layers_inherit hc
  refine ⟨c, capability, hc, hlayers, ?_, hall⟩
  have hcount := congrArg List.length hlayers
  rw [List.length_map] at hcount
  rw [hall.length_eq, List.length_map, hcount]
  rfl

end WmsCapabilities

end MapServices
