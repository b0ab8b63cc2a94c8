import MapServices.Proofs.Capabilities.Fault
import MapServices.Proofs.Capabilities.Inheritance
import MapServices.Proofs.Capabilities.Locality
import MapServices.Proofs.Lists

/-!
# Listing layers and looking them up

A document lists its layers by the places of their elements. The place of a layer is a row of
numbers: that of an element among the children of `Capability`, then that of an element among the
children of this one, and so on. Places are in alphabetical order when a layer comes before those
inside it, and these come before the next layer.

A name is looked up by another walk over the same tree, which stops at the first layer of the name.

* `LayerAt` says which layer stands at a place, and `IsListing` that trees are listed by their
  places.
* `isListing_ofChildren`: reading the elements of a document lists them so.
* `lookup_agrees_with_listing`: what is found under a name is the first layer in the list that has
  it, and a configured layer depends on no other one.
-/

namespace MapServices

open Xml (Element)

namespace LayerTree

/-! ## Places -/

/-- A place, and the layers that are entered one after the other on the way to it. The first number
counts the elements `es` from zero on, and each further number those inside the layer before. -/
inductive LayerAt : List Element → List Nat → List Element → Prop where
  | here {es : List Element} {i : Nat} {e : Element} (he : es[i]? = some e)
      (hname : e.name = "Layer") : LayerAt es [i] [e]
  | inside {es : List Element} {i : Nat} {e : Element} {place : List Nat} {chain : List Element}
      (he : es[i]? = some e) (hname : e.name = "Layer") (h : LayerAt e.children place chain) :
      LayerAt es (i :: place) (e :: chain)

/-- The tree is what the element at a place describes, inside the layers around it. -/
def DescribesAt (outer es : List Element) (place : List Nat) (t : LayerTree) : Prop :=
  ∃ chain e, LayerAt es place (chain ++ [e]) ∧ t = ofElement (atEnd (outer ++ chain)) e

/-- The trees are those of all layers among the children of an element and inside these, each once
and in the order of their places: a layer before those inside it, and these before the next one. -/
structure IsListing (e : Element) (places : List (List Nat)) (trees : List LayerTree) : Prop where
  ascending : places.Pairwise (· < ·)
  mem_iff : ∀ place, place ∈ places ↔ ∃ chain, LayerAt e.children place chain
  describes : List.Forall₂ (DescribesAt [] e.children) places trees

variable {e : Element} {es outer : List Element} {place : List Nat} {chain : List Element}
  {t : LayerTree}

/-- The place that the same element has behind one more element. -/
def further : List Nat → List Nat
  | [] => []
  | i :: place => (i + 1) :: place

mutual

/-- The places of the layers inside an element. -/
def placesInside : Element → List (List Nat)
  | ⟨_, _, _, children⟩ => placesAmong children

/-- The places of the layers among some elements and inside these. -/
def placesAmong : List Element → List (List Nat)
  | [] => []
  | e :: es =>
    if e.name = "Layer" then
      [0] :: ((placesInside e).map (0 :: ·) ++ (placesAmong es).map further)
    else (placesAmong es).map further

end

theorem placesInside_eq (e : Element) : placesInside e = placesAmong e.children := by
  cases e
  rw [placesInside]

/-! ### What stands at a place -/

theorem LayerAt.exists_cons (h : LayerAt es place chain) : ∃ i rest, place = i :: rest := by
  cases h with
  | here => exact ⟨_, _, rfl⟩
  | inside => exact ⟨_, _, rfl⟩

theorem LayerAt.further (h : LayerAt es place chain) : LayerAt (e :: es) (further place) chain := by
  cases h with
  | here he hname => exact .here (by simpa using he) hname
  | inside he hname h => exact .inside (by simpa using he) hname h

/-- A place among some elements is that of the first one, or inside it, or among the others. -/
theorem layerAt_cons_iff : LayerAt (e :: es) place chain ↔
    (e.name = "Layer" ∧ ((place = [0] ∧ chain = [e]) ∨ ∃ place' chain',
        LayerAt e.children place' chain' ∧ place = 0 :: place' ∧ chain = e :: chain')) ∨
      ∃ place', LayerAt es place' chain ∧ place = LayerTree.further place' := by
  constructor
  · intro h
    cases h with
    | @here _ i _ he hname =>
      cases i with
      | zero =>
        cases he
        exact .inl ⟨hname, .inl ⟨rfl, rfl⟩⟩
      | succ i => exact .inr ⟨[i], .here (by simpa using he) hname, rfl⟩
    | @inside _ i _ place chain he hname h =>
      cases i with
      | zero =>
        cases he
        exact .inl ⟨hname, .inr ⟨place, chain, h, rfl, rfl⟩⟩
      | succ i => exact .inr ⟨i :: place, .inside (by simpa using he) hname h, rfl⟩
  · rintro (⟨hname, ⟨rfl, rfl⟩ | ⟨place', chain', h, rfl, rfl⟩⟩ | ⟨place', h, rfl⟩)
    · exact .here rfl hname
    · exact .inside rfl hname h
    · exact h.further

mutual

theorem mem_placesInside (e : Element) (place : List Nat) :
    place ∈ placesInside e ↔ ∃ chain, LayerAt e.children place chain := by
  match e with
  | ⟨name, attributes, text, children⟩ =>
    rw [placesInside_eq]
    exact mem_placesAmong children place

/-- The listed places are those of all layers. -/
theorem mem_placesAmong (es : List Element) (place : List Nat) :
    place ∈ placesAmong es ↔ ∃ chain, LayerAt es place chain := by
  match es with
  | [] =>
    refine iff_of_false List.not_mem_nil ?_
    rintro ⟨chain, h⟩
    cases h <;> simp at *
  | e :: es =>
    have hinside := mem_placesInside e
    have hothers := mem_placesAmong es
    have hfurther : place ∈ (placesAmong es).map further ↔
        ∃ chain place', LayerAt es place' chain ∧ place = further place' := by
      rw [List.mem_map]
      constructor
      · rintro ⟨place', hplace', rfl⟩
        obtain ⟨chain, h⟩ := (hothers place').1 hplace'
        exact ⟨chain, place', h, rfl⟩
      · rintro ⟨chain, place', h, rfl⟩
        exact ⟨place', (hothers place').2 ⟨chain, h⟩, rfl⟩
    rw [placesAmong]
    simp only [layerAt_cons_iff, exists_or]
    split
    · rename_i hname
      rw [List.mem_cons, List.mem_append, hfurther, List.mem_map, ← or_assoc]
      refine or_congr_left ?_
      constructor
      · rintro (rfl | ⟨place', hplace', rfl⟩)
        · exact ⟨[e], hname, .inl ⟨rfl, rfl⟩⟩
        · obtain ⟨chain, h⟩ := (hinside place').1 hplace'
          exact ⟨e :: chain, hname, .inr ⟨place', chain, h, rfl, rfl⟩⟩
      · rintro ⟨chain, -, ⟨rfl, -⟩ | ⟨place', chain', h, rfl, -⟩⟩
        · exact .inl rfl
        · exact .inr ⟨place', (hinside place').2 ⟨chain', h⟩, rfl⟩
    · rename_i hname
      rw [hfurther]
      exact (or_iff_right fun ⟨_, hlayer, _⟩ => hname hlayer).symm

end

/-! ### The order of places -/

theorem further_lt {place place' : List Nat} (h : place < place') :
    further place < further place' := by
  cases h with
  | nil => exact .nil
  | rel h => exact .rel (Nat.succ_lt_succ h)
  | cons h => exact .cons h

/-- What stands among the other elements comes after the first element and what is inside it. -/
theorem zero_lt_further {place place' : List Nat} (h : place' ∈ placesAmong es) :
    0 :: place < further place' := by
  obtain ⟨chain, h⟩ := (mem_placesAmong es place').1 h
  obtain ⟨i, rest, rfl⟩ := h.exists_cons
  exact .rel (Nat.succ_pos i)

mutual

theorem ascending_placesInside (e : Element) : (placesInside e).Pairwise (· < ·) := by
  match e with
  | ⟨name, attributes, text, children⟩ =>
    rw [placesInside_eq]
    exact ascending_placesAmong children

theorem ascending_placesAmong (es : List Element) : (placesAmong es).Pairwise (· < ·) := by
  match es with
  | [] =>
    rw [placesAmong]
    exact .nil
  | e :: es =>
    have hinside : ((placesInside e).map (0 :: ·)).Pairwise (· < ·) :=
      List.pairwise_map.2 ((ascending_placesInside e).imp fun h => .cons h)
    have hothers : ((placesAmong es).map further).Pairwise (· < ·) :=
      List.pairwise_map.2 ((ascending_placesAmong es).imp further_lt)
    rw [placesAmong]
    split
    · rw [List.pairwise_cons, List.pairwise_append]
      refine ⟨fun place hplace => ?_, hinside, hothers, fun place hplace place' hplace' => ?_⟩
      · rcases List.mem_append.1 hplace with hplace | hplace
        · obtain ⟨place, hinside, rfl⟩ := List.mem_map.1 hplace
          obtain ⟨chain, h⟩ := (mem_placesInside e place).1 hinside
          obtain ⟨i, rest, rfl⟩ := h.exists_cons
          exact .cons .nil
        · obtain ⟨place, hother, rfl⟩ := List.mem_map.1 hplace
          exact zero_lt_further hother
      · obtain ⟨place, -, rfl⟩ := List.mem_map.1 hplace
        obtain ⟨place', h, rfl⟩ := List.mem_map.1 hplace'
        exact zero_lt_further h
    · exact hothers

end

/-! ### The listed trees -/

theorem DescribesAt.further (h : DescribesAt outer es place t) :
    DescribesAt outer (e :: es) (further place) t := by
  obtain ⟨chain, child, h, rfl⟩ := h
  exact ⟨chain, child, h.further, rfl⟩

theorem DescribesAt.inside (hname : e.name = "Layer")
    (h : DescribesAt (outer ++ [e]) e.children place t) :
    DescribesAt outer (e :: es) (0 :: place) t := by
  obtain ⟨chain, child, h, rfl⟩ := h
  refine ⟨e :: chain, child, .inside rfl hname h, ?_⟩
  rw [List.append_assoc, List.singleton_append]

mutual

theorem describes_inside (outer : List Element) (e : Element) :
    List.Forall₂ (DescribesAt (outer ++ [e]) e.children) (placesInside e)
      (subtreesOf (ofChildren (atEnd (outer ++ [e])) e.children)) := by
  match e with
  | ⟨name, attributes, text, children⟩ =>
    rw [placesInside_eq]
    exact describes_among (outer ++ [⟨name, attributes, text, children⟩]) children

theorem describes_among (outer es : List Element) :
    List.Forall₂ (DescribesAt outer es) (placesAmong es)
      (subtreesOf (ofChildren (atEnd outer) es)) := by
  match es with
  | [] =>
    rw [placesAmong, ofChildren, subtreesOf]
    exact .nil
  | e :: es =>
    have hothers : List.Forall₂ (DescribesAt outer (e :: es)) ((placesAmong es).map further)
        (subtreesOf (ofChildren (atEnd outer) es)) :=
      List.forall₂_map_left_iff.2 ((describes_among outer es).imp fun _ _ h => h.further)
    rw [placesAmong, ofChildren]
    split
    · rename_i hname
      have hinside : List.Forall₂ (DescribesAt outer (e :: es))
          ((placesInside e).map (0 :: ·))
          (subtreesOf (ofChildren (atEnd (outer ++ [e])) e.children)) :=
        List.forall₂_map_left_iff.2 ((describes_inside outer e).imp fun _ _ h => h.inside hname)
      have hself : DescribesAt outer (e :: es) [0] (ofElement (atEnd outer) e) :=
        ⟨[], e, .here rfl hname, by rw [List.append_nil]⟩
      have hsubtrees : (ofElement (atEnd outer) e).subtrees = ofElement (atEnd outer) e ::
          subtreesOf (ofChildren (atEnd (outer ++ [e])) e.children) := by
        rw [subtrees_eq, children_ofElement, atEnd_concat]
      rw [subtreesOf, hsubtrees]
      exact .cons hself (List.rel_append hinside hothers)
    · exact hothers

end

/-- Reading the children of an element lists the layers among them. -/
theorem isListing_ofChildren (e : Element) :
    IsListing e (placesAmong e.children) (subtreesOf (ofChildren {} e.children)) where
  ascending := ascending_placesAmong e.children
  mem_iff := mem_placesAmong e.children
  describes := describes_among [] e.children

/-- The first tree in a list whose outermost layer has the name. -/
def firstNamed? (name : String) (ts : List LayerTree) : Option LayerTree :=
  ts.find? (·.layer.name = some name)

theorem firstNamed?_eq_none_iff {name : String} {ts : List LayerTree} :
    firstNamed? name ts = none ↔ ∀ t ∈ ts, t.layer.name ≠ some name := by
  simp [firstNamed?, List.find?_eq_none]

end LayerTree

/-! ## Documents -/

namespace WmsLayer

open DocumentError (IsOfElement)
open Failure (OnlyFailsAs)

theorem exists_of_deepest? {α : Type} {given? : Element → Option α} {chain : List Element} {a : α}
    (h : deepest? given? chain = some a) : ∃ e ∈ chain, given? e = some a := by
  obtain ⟨e, he, ha⟩ := List.exists_of_findSome?_eq_some h
  exact ⟨e, List.mem_reverse.1 he, ha⟩

/-- What is wrong with a layer is wrong with an element of its chain. -/
theorem onlyFailsAs_check (chain : List Element) :
    OnlyFailsAs IsOfElement (LayerTree.atEnd chain).check := by
  have hscales : ∀ error, deepest? givenScales? chain = some (.error error) →
      IsOfElement error := by
    intro error h
    obtain ⟨e, -, hgiven⟩ := exists_of_deepest? h
    refine onlyFailsAs_ownScales e error ?_
    unfold givenScales? at hgiven
    split at hgiven
    · split at hgiven <;> cases hgiven
    · rename_i hown
      cases hgiven
      exact hown
  have hbox : ∀ error, deepest? givenBox? chain = some (.error error) → IsOfElement error := by
    intro error h
    obtain ⟨e, -, hgiven⟩ := exists_of_deepest? h
    refine onlyFailsAs_ownBox e error ?_
    unfold givenBox? at hgiven
    split at hgiven
    · cases hgiven
    · cases hgiven
    · rename_i hown
      cases hgiven
      exact hown
  intro error h
  rw [(inherits_atEnd chain).check] at h
  split at h
  · rename_i hgiven
    cases h
    exact hscales _ hgiven
  · rename_i hgiven _
    cases h
    exact hbox _ hgiven
  · cases h

end WmsLayer

namespace WmsCapabilities

open LayerTree (firstNamed? firstNamed?_eq_none_iff)

variable {c : WmsCapabilities}

theorem find?_eq_firstNamed? (c : WmsCapabilities) (name : String) :
    c.find? name = (firstNamed? name c.subtrees).map LayerTree.layer := by
  rw [find?_eq, LayerTree.layersOf, List.find?_map]
  rfl

/-- The tree that is listed first under a name says all that is found under it. -/
structure LooksUpFirst (c : WmsCapabilities) : Prop where
  find? : ∀ name, c.find? name = (firstNamed? name c.subtrees).map LayerTree.layer
  find?_eq_none_iff : ∀ name, c.find? name = none ↔ ∀ t ∈ c.subtrees, t.layer.name ≠ some name
  layerNotFound_iff : ∀ (layer : Layer) name, c.patch layer = .error (.layerNotFound name) ↔
    name = layer.name ∧ ∀ t ∈ c.subtrees, t.layer.name ≠ some layer.name
  /-- Whatever else another document lists, it says the same of a layer if it offers the same
  formats and its first layer of the name is the same. -/
  patch_eq : ∀ (layer : Layer) (c' : WmsCapabilities), c'.version = c.version →
    c'.formats = c.formats → c'.infoFormats = c.infoFormats →
    (firstNamed? layer.name c'.subtrees).map LayerTree.layer =
      (firstNamed? layer.name c.subtrees).map LayerTree.layer →
    c'.patch layer = c.patch layer

/-- The error of a layer that was found is another one. -/
theorem patch_ne_layerNotFound {layer : Layer} {found : WmsLayer}
    (hcheck : Failure.OnlyFailsAs DocumentError.IsOfElement found.check)
    (h : c.find? layer.name = some found) (name : String) :
    c.patch layer ≠ .error (.layerNotFound name) := by
  intro hpatch
  rw [patch, h] at hpatch
  rcases Failure.bind_eq_error.1 hpatch with hpatch | ⟨_, -, hpatch⟩
  · exact hcheck _ hpatch
  · cases hpatch

theorem looksUpFirst_of_check (hcheck : ∀ t ∈ c.subtrees,
    Failure.OnlyFailsAs DocumentError.IsOfElement t.layer.check) : LooksUpFirst c where
  find? := find?_eq_firstNamed? c
  find?_eq_none_iff name := by
    rw [find?_eq_firstNamed?, Option.map_eq_none_iff, firstNamed?_eq_none_iff]
  layerNotFound_iff layer name := by
    rw [← firstNamed?_eq_none_iff]
    have hfind := find?_eq_firstNamed? c layer.name
    cases hfirst : firstNamed? layer.name c.subtrees with
    | none =>
      rw [hfirst, Option.map_none] at hfind
      rw [patch, hfind]
      simp [eq_comm]
    | some t =>
      rw [hfirst, Option.map_some] at hfind
      refine iff_of_false (patch_ne_layerNotFound ?_ hfind name) fun h => ?_
      · exact hcheck t (List.mem_of_find?_eq_some hfirst)
      · cases h.2
  patch_eq layer c' hversion hformats hinfoFormats hfirst := by
    refine patch_congr hversion hformats hinfoFormats ?_
    rw [find?_eq_firstNamed?, find?_eq_firstNamed?, hfirst]

/-- A document lists each layer inside its first `Capability` once, in the order of the document,
and looks a name up in this list. -/
theorem lookup_agrees_with_listing {xml : String} (h : read xml = .ok c) :
    ∃ root capability places, Element.ofDocument xml = .ok root ∧
      root.child? "Capability" = some capability ∧
      LayerTree.IsListing capability places c.subtrees ∧ LooksUpFirst c := by
  obtain ⟨root, capability, hroot, hcapability, hlayers⟩ := read_eq_ok h
  have hlisting := LayerTree.isListing_ofChildren capability
  rw [← hlayers] at hlisting
  refine ⟨root, capability, _, hroot, hcapability, hlisting, looksUpFirst_of_check fun t ht => ?_⟩
  obtain ⟨_, _, _, _, _, hchecks⟩ := forall₂_layers
    (P := fun _ l => Failure.OnlyFailsAs DocumentError.IsOfElement l.check) h
    WmsLayer.onlyFailsAs_check
  obtain ⟨_, _, hcheck⟩ := Lists.exists_of_forall₂_of_mem hchecks (List.mem_map_of_mem ht)
  exact hcheck

/-- A layer without a name with two layers inside it, and behind it a layer with the name of the
first of them and a scale that cannot be read. -/
def repeatedDocument : String :=
  "<WMS_Capabilities><Capability><Layer><Layer><Name>roads</Name></Layer><Layer>" ++
    "<Name>rails</Name></Layer></Layer><Layer><Name>roads</Name><ScaleHint min='low'/></Layer>" ++
    "</Capability><Capability><Layer><Name>pipes</Name></Layer></Capability></WMS_Capabilities>"

/-- The first layer of the name is found, which can be read, and no layer of the second part. -/
theorem lookup_agrees_with_listing_repeated :
    ∃ c capability places, read repeatedDocument = .ok c ∧
      LayerTree.IsListing capability places c.subtrees ∧ LooksUpFirst c ∧
      c.subtrees.map (fun t => (t.layer.name, t.layer.check)) = [(none, .ok ()),
        (some "roads", .ok ()), (some "rails", .ok ()),
        (some "roads", .error (.invalidNumber "ScaleHint" "low"))] ∧
      (c.find? "roads").map WmsLayer.check = some (.ok ()) ∧
      ∀ layer : Layer, layer.name = "pipes" → c.patch layer = .error (.layerNotFound "pipes") := by
  have hread : (read repeatedDocument).toOption.map (fun c =>
      (c.subtrees.map fun t => (t.layer.name, t.layer.check),
        (c.find? "roads").map WmsLayer.check)) = some ([(none, .ok ()),
          (some "roads", .ok ()), (some "rails", .ok ()),
          (some "roads", .error (.invalidNumber "ScaleHint" "low"))], some (.ok ())) := by
    decide +kernel
  obtain ⟨c, hc, hlayers⟩ := Option.map_eq_some_iff.1 hread
  have hc := Failure.toOption_eq_some.1 hc
  obtain ⟨hlayers, hfound⟩ := Prod.mk.inj hlayers
  obtain ⟨-, capability, places, -, -, hlisting, hlookup⟩ := lookup_agrees_with_listing hc
  refine ⟨c, capability, places, hc, hlisting, hlookup, hlayers, hfound, fun layer hname => ?_⟩
  refine (hlookup.layerNotFound_iff layer "pipes").2 ⟨hname.symm, fun t ht hpipes => ?_⟩
  have hmem := List.mem_map_of_mem (f := fun t : LayerTree => (t.layer.name, t.layer.check)) ht
  rw [hlayers, hpipes, hname] at hmem
  simp at hmem

end WmsCapabilities

end MapServices
