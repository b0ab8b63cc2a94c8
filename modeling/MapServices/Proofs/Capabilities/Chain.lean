import Mathlib.Data.List.Forall2
import MapServices.Capabilities.Wms

/-!
# Chains of layer elements

A layer of a map service stands at the end of a chain: elements named `Layer`, each inside the one
before it, from an outermost layer down to the layer itself. Reading a document goes down all chains
at once and hands on what was found so far. Here the chains are listed beside it, and each layer
that is read turns out to depend on its own chain only.

* `IsChain` says which rows of elements are chains, and `mem_chains_iff` that `chains` lists them.
* `layers_ofChildren`: the layers of a document are those at the ends of its chains, in order.
-/

namespace MapServices

namespace LayerTree

open Xml (Element)

/-- The elements are layers, each directly inside the one before it, and the first one directly
inside `e`. -/
inductive IsChain : Element → List Element → Prop where
  /-- A layer directly inside `e`. -/
  | last {e child : Element} (hmem : child ∈ e.children) (hname : child.name = "Layer") :
      IsChain e [child]
  /-- A layer directly inside `e`, and a chain that goes on inside it. -/
  | cons {e child : Element} {rest : List Element} (hmem : child ∈ e.children)
      (hname : child.name = "Layer") (hrest : IsChain child rest) : IsChain e (child :: rest)

mutual

/-- The chains that start with a layer element and `outer` around it, a chain before those that go
on from it. -/
def chainsFrom (outer : List Element) : Element → List (List Element)
  | ⟨name, attributes, text, children⟩ =>
    let path := outer ++ [⟨name, attributes, text, children⟩]
    path :: chainsAmong path children

/-- The chains that start with the layers among some elements and `outer` around them. -/
def chainsAmong (outer : List Element) : List Element → List (List Element)
  | [] => []
  | e :: es =>
    if e.name = "Layer" then chainsFrom outer e ++ chainsAmong outer es else chainsAmong outer es

end

/-- All chains inside an element, in the order in which their last elements start. -/
def chains (e : Element) : List (List Element) := chainsAmong [] e.children

/-- The layer at the end of a chain: each element describes a layer inside the one before it. -/
def atEnd (chain : List Element) : WmsLayer := chain.foldl WmsLayer.ofElement {}

theorem atEnd_concat (chain : List Element) (e : Element) :
    atEnd (chain ++ [e]) = WmsLayer.ofElement (atEnd chain) e := List.foldl_concat ..

theorem chainsFrom_eq (outer : List Element) (e : Element) :
    chainsFrom outer e = (outer ++ [e]) :: chainsAmong (outer ++ [e]) e.children := by
  cases e
  rw [chainsFrom]

theorem ofElement_eq (parent : WmsLayer) (e : Element) :
    ofElement parent e =
      node (WmsLayer.ofElement parent e) (ofChildren (WmsLayer.ofElement parent e) e.children) := by
  cases e
  rw [ofElement]

theorem layer_ofElement (parent : WmsLayer) (e : Element) :
    (ofElement parent e).layer = WmsLayer.ofElement parent e := by
  rw [ofElement_eq, layer]

theorem children_ofElement (parent : WmsLayer) (e : Element) :
    (ofElement parent e).children = ofChildren (WmsLayer.ofElement parent e) e.children := by
  rw [ofElement_eq, children]

theorem subtrees_eq (t : LayerTree) : t.subtrees = t :: subtreesOf t.children := by
  cases t
  rw [subtrees, children]

/-! ### The listed chains -/

theorem isChain_iff {e : Element} {chain : List Element} :
    IsChain e chain ↔ ∃ child ∈ e.children, child.name = "Layer" ∧
      (chain = [child] ∨ ∃ rest, IsChain child rest ∧ chain = child :: rest) := by
  constructor
  · intro h
    cases h with
    | last hmem hname => exact ⟨_, hmem, hname, .inl rfl⟩
    | cons hmem hname hrest => exact ⟨_, hmem, hname, .inr ⟨_, hrest, rfl⟩⟩
  · rintro ⟨child, hmem, hname, rfl | ⟨rest, hrest, rfl⟩⟩
    · exact .last hmem hname
    · exact .cons hmem hname hrest

mutual

theorem mem_chainsFrom (outer : List Element) (e : Element) (path : List Element) :
    path ∈ chainsFrom outer e ↔
      ∃ chain, (chain = [e] ∨ ∃ rest, IsChain e rest ∧ chain = e :: rest) ∧
        path = outer ++ chain := by
  match e with
  | ⟨name, attributes, text, children⟩ =>
    have hinside := mem_chainsAmong (outer ++ [⟨name, attributes, text, children⟩]) children path
    rw [chainsFrom_eq, List.mem_cons, hinside]
    constructor
    · rintro (rfl | ⟨child, hmem, hname, chain, hchain, rfl⟩)
      · exact ⟨_, .inl rfl, rfl⟩
      · refine ⟨_, .inr ⟨chain, isChain_iff.2 ⟨child, hmem, hname, hchain⟩, rfl⟩, ?_⟩
        rw [List.append_assoc, List.singleton_append]
    · rintro ⟨_, rfl | ⟨rest, hrest, rfl⟩, rfl⟩
      · exact .inl rfl
      · obtain ⟨child, hmem, hname, hchain⟩ := isChain_iff.1 hrest
        refine .inr ⟨child, hmem, hname, rest, hchain, ?_⟩
        rw [List.append_assoc, List.singleton_append]

theorem mem_chainsAmong (outer : List Element) (es : List Element) (path : List Element) :
    path ∈ chainsAmong outer es ↔
      ∃ child ∈ es, child.name = "Layer" ∧
        ∃ chain, (chain = [child] ∨ ∃ rest, IsChain child rest ∧ chain = child :: rest) ∧
          path = outer ++ chain := by
  match es with
  | [] => simp [chainsAmong]
  | e :: es =>
    have hrest := mem_chainsAmong outer es path
    rw [chainsAmong]
    split
    · rename_i hname
      rw [List.mem_append, mem_chainsFrom outer e path, hrest]
      simp only [List.exists_mem_cons_iff, hname, true_and]
    · rename_i hname
      rw [hrest]
      simp only [List.exists_mem_cons_iff, hname, false_and, false_or]

end

/-- The listed chains are all chains. -/
theorem mem_chains_iff {e : Element} {chain : List Element} :
    chain ∈ chains e ↔ IsChain e chain := by
  rw [chains, mem_chainsAmong, isChain_iff]
  simp only [List.nil_append]
  constructor
  · rintro ⟨child, hmem, hname, _, hchain, rfl⟩
    exact ⟨child, hmem, hname, hchain⟩
  · rintro ⟨child, hmem, hname, hchain⟩
    exact ⟨child, hmem, hname, _, hchain, rfl⟩

/-! ### Layers and chains -/

mutual

theorem layers_ofElement (outer : List Element) (e : Element) :
    (ofElement (atEnd outer) e).subtrees.map layer = (chainsFrom outer e).map atEnd := by
  match e with
  | ⟨name, attributes, text, children⟩ =>
    have hinside := layers_ofChildren (outer ++ [⟨name, attributes, text, children⟩]) children
    rw [subtrees_eq, children_ofElement, chainsFrom_eq, List.map_cons, List.map_cons,
      layer_ofElement, ← atEnd_concat]
    exact congrArg (atEnd (outer ++ [⟨name, attributes, text, children⟩]) :: ·) hinside

/-- The layers of a document are those at the ends of its chains, in order. -/
theorem layers_ofChildren (outer : List Element) (es : List Element) :
    (subtreesOf (ofChildren (atEnd outer) es)).map layer = (chainsAmong outer es).map atEnd := by
  match es with
  | [] => rw [ofChildren, chainsAmong, subtreesOf, List.map_nil, List.map_nil]
  | e :: es =>
    have hrest := layers_ofChildren outer es
    rw [ofChildren, chainsAmong]
    split
    · rw [subtreesOf, List.map_append, List.map_append, layers_ofElement outer e, hrest]
    · exact hrest

end

end LayerTree

end MapServices
