import MapServices.Proofs.Capabilities.TileReading
import MapServices.Proofs.Decimal.Order
import MapServices.Proofs.Sorted.Set

/-!
# The tile matrix sets that a layer links

A layer is given the reference systems of the sets that it links and the scales of their matrices.

* `IsOver` says what the properties of a layer are when the sets are known: for each reference
  system the first set, and the least and the greatest of all scale denominators.
* `repeatNotices` are the notices for sets whose reference system an earlier one has.
* `WmtsCapabilities.isOver_addSet` is the step that one link makes,
  `WmtsCapabilities.addLinks_of_mapM` the run over all of them.
* `WmtsCapabilities.patch_follows_links`: a layer is not found, or has a link that leads nowhere, or
  is given the properties of its sets. Its scales do not depend on the order of links and matrices.
-/

namespace MapServices

open Decimal (ExtremeOf IsExtreme SameNumber direction_up direction_down)

/-! ## Scales -/

theorem isExtreme_lesser (x y : Float) : IsExtreme (· ≤ ·) [x, y] (lesser x y) :=
  IsExtreme.pick direction_up x y

theorem isExtreme_greater (x y : Float) : IsExtreme (· ≥ ·) [x, y] (greater x y) :=
  IsExtreme.pick direction_down x y

/-- The two ends of a range are the extremes of the list, if it is not empty. -/
structure Spans (l : List Float) (low? high? : Option Float) : Prop where
  low : ExtremeOf (· ≤ ·) l low?
  high : ExtremeOf (· ≥ ·) l high?

namespace Spans

variable {l l' : List Float} {low? high? : Option Float} {low high : Float}

theorem nil : Spans [] none none := ⟨rfl, rfl⟩

theorem append (h : Spans l low? high?) (h' : Spans l' (some low) (some high)) :
    Spans (l ++ l') (some ((low?.map (lesser · low)).getD low))
      (some ((high?.map (greater · high)).getD high)) :=
  ⟨h.low.append direction_up isExtreme_lesser h'.low,
    h.high.append direction_down isExtreme_greater h'.high⟩

theorem le (h : Spans l (some low) (some high)) : low ≤ high ∨ ∀ x ∈ l, x.isNaN :=
  (h.high.before low h.low.mem).symm.imp_right (h.low.isNaN_iff direction_up).1

end Spans

namespace TileMatrixSet

variable {s : TileMatrixSet}

/-- The one spelling of the reference system. -/
def crs (s : TileMatrixSet) : String := Crs.normalize s.supportedCrs

/-- The scale denominators of the matrices. -/
def denominators (s : TileMatrixSet) : List Float := s.matrices.map (·.scaleDenominator)

theorem spans_scaleRange? (s : TileMatrixSet) :
    Spans s.denominators (s.scaleRange?.map Prod.fst) (s.scaleRange?.map Prod.snd) := by
  unfold denominators scaleRange?
  -- from the end, as the range is folded from the left
  induction s.matrices using List.reverseRecOn with
  | nil => exact .nil
  | append_singleton matrices m ih =>
    have hlast : Spans [m.scaleDenominator] (some m.scaleDenominator) (some m.scaleDenominator) :=
      ⟨.singleton direction_up _, .singleton direction_down _⟩
    rw [List.foldl_concat, List.map_append, List.map_singleton]
    have h := ih.append hlast
    revert h
    cases matrices.foldl
      (fun range? m => some (widen range? m.scaleDenominator m.scaleDenominator)) none <;> exact id

end TileMatrixSet

/-! ## Notices -/

/-- The notice for a set that comes after others, if one of them has the same reference system. The
first such set is kept. -/
def repeatNotice? (layer : String) (before : List TileMatrixSet) (s : TileMatrixSet) :
    Option Notice :=
  (before.find? (·.crs == s.crs)).map fun kept =>
    .severalSets layer s.crs kept.identifier s.identifier

/-- The notices for the sets of a list, each of which comes after those before it. -/
def repeatNotices (layer : String) (sets : List TileMatrixSet) : List Notice :=
  sets.zipIdx.filterMap fun (s, i) => repeatNotice? layer (sets.take i) s

section

variable {layer : String} {sets : List TileMatrixSet} {s : TileMatrixSet}

theorem repeatNotices_concat : repeatNotices layer (sets ++ [s]) =
    repeatNotices layer sets ++ (repeatNotice? layer sets s).toList := by
  unfold repeatNotices
  rw [List.zipIdx_append, List.filterMap_append]
  congr 1
  · refine List.filterMap_congr fun ⟨t, i⟩ ht => ?_
    have hi : i < sets.length := by simpa using (List.mem_zipIdx ht).2.1
    have htake : (sets ++ [s]).take i = sets.take i := List.take_append_of_le_length hi.le
    simp only [htake]
  · cases h : repeatNotice? layer sets s <;> simp [h]

theorem isSome_repeatNotice? (layer : String) (sets : List TileMatrixSet) (s : TileMatrixSet) :
    (repeatNotice? layer sets s).isSome ↔ s.crs ∈ sets.map TileMatrixSet.crs := by
  rw [repeatNotice?, Option.isSome_map, List.find?_isSome, List.mem_map]
  simp only [beq_iff_eq]

/-- There is a notice for each set but the first of its reference system. -/
theorem length_repeatNotices (layer : String) (sets : List TileMatrixSet) :
    (repeatNotices layer sets).length + (sets.map TileMatrixSet.crs).eraseDups.length =
      sets.length := by
  -- from the end: what is said of a set depends on those before it
  induction sets using List.reverseRecOn with
  | nil => rfl
  | append_singleton sets s ih =>
    have hsome := isSome_repeatNotice? layer sets s
    rw [repeatNotices_concat, List.map_append, List.map_singleton, Lists.eraseDups_concat]
    split
    · rename_i hmem
      obtain ⟨notice, hnotice⟩ := Option.isSome_iff_exists.1 (hsome.2 hmem)
      simp only [hnotice, Option.toList_some, List.length_append, List.length_singleton]
      omega
    · rename_i hmem
      have hnone := Option.not_isSome_iff_eq_none.1 (mt hsome.1 hmem)
      simp only [hnone, Option.toList_none, List.append_nil, List.length_append,
        List.length_singleton]
      omega

end

/-! ## Properties -/

namespace WmtsCapabilities

variable {c : WmtsCapabilities} {l : WmtsLayer} {own capabilities : LayerCapabilities}
  {sets : List TileMatrixSet} {s : TileMatrixSet}

/-- The scale denominators of the matrices of several sets. -/
def denominators (sets : List TileMatrixSet) : List Float := sets.flatMap TileMatrixSet.denominators

theorem spans_addScales
    (h : Spans (denominators sets) capabilities.minScale capabilities.maxScale) :
    Spans (denominators (sets ++ [s])) (addScales capabilities s).minScale
      (addScales capabilities s).maxScale := by
  have hset := s.spans_scaleRange?
  have hsets : denominators (sets ++ [s]) = denominators sets ++ s.denominators := by
    simp [denominators]
  rw [hsets]
  unfold addScales
  cases hrange : s.scaleRange? with
  | none =>
    rw [hrange] at hset
    rw [show s.denominators = [] from hset.low, List.append_nil]
    exact h
  | some range =>
    rw [hrange] at hset
    exact h.append hset

/-- The properties of a layer that is available in the sets and has the properties `own` besides. -/
structure IsOver (own : LayerCapabilities) (sets : List TileMatrixSet) (c : LayerCapabilities) :
    Prop where
  crs : ∀ x, x ∈ c.crs ↔ ∃ s ∈ sets, s.crs = x
  tileMatrixSets : ∀ x, c.tileMatrixSets.get? x = (sets.find? (·.crs == x)).map (·.identifier)
  scales : Spans (denominators sets) c.minScale c.maxScale
  rest : c = { own with
    crs := c.crs
    tileMatrixSets := c.tileMatrixSets
    minScale := c.minScale
    maxScale := c.maxScale }

namespace IsOver

theorem keys (h : IsOver own sets capabilities) :
    capabilities.tileMatrixSets.keys = capabilities.crs.toList := by
  refine NameSet.keys_eq_toList fun x => ?_
  rw [h.crs, h.tileMatrixSets]
  simp

/-- A layer has as many reference systems as its sets have different ones. -/
theorem length_crs (h : IsOver own sets capabilities) :
    capabilities.crs.toList.length = (sets.map TileMatrixSet.crs).eraseDups.length := by
  have hperm : capabilities.crs.toList.Perm (sets.map TileMatrixSet.crs).eraseDups := by
    refine (List.perm_ext_iff_of_nodup (NameSet.nodup_toList _) (Lists.nodup_eraseDups _)).2 ?_
    intro x
    rw [NameSet.mem_toList, h.crs, List.mem_eraseDups, List.mem_map]
  exact hperm.length_eq

theorem ofOwn (c : WmtsCapabilities) (l : WmtsLayer) :
    IsOver (c.ownCapabilities l) [] (c.ownCapabilities l) where
  crs x := by
    show x ∈ (∅ : NameSet) ↔ _
    simp [NameSet.not_mem_empty]
  tileMatrixSets x := rfl
  scales := .nil
  rest := rfl

end IsOver

theorem addScales_eq (c : LayerCapabilities) (s : TileMatrixSet) : addScales c s =
    { c with minScale := (addScales c s).minScale, maxScale := (addScales c s).maxScale } := by
  unfold addScales
  split <;> rfl

/-- A layer that is available in one more set, when its table of sets is right already. -/
theorem IsOver.addScales {table : SortedMap String String} (h : IsOver own sets capabilities)
    (htable : ∀ x, table.get? x = ((sets ++ [s]).find? (·.crs == x)).map (·.identifier)) :
    IsOver own (sets ++ [s]) (addScales
      { capabilities with crs := capabilities.crs.insert s.crs, tileMatrixSets := table } s) where
  crs x := by
    rw [addScales_eq]
    show x ∈ capabilities.crs.insert s.crs ↔ _
    rw [NameSet.mem_insert, h.crs]
    simp [or_comm, eq_comm]
  tileMatrixSets x := by
    rw [addScales_eq]
    exact htable x
  scales := spans_addScales h.scales
  rest := by
    rw [addScales_eq, h.rest]

theorem addSet_of_some {kept : String} (h : capabilities.tileMatrixSets.get? s.crs = some kept) :
    addSet l capabilities s =
      (addScales { capabilities with crs := capabilities.crs.insert s.crs } s,
        [.severalSets l.identifier s.crs kept s.identifier]) := by
  have hcrs : capabilities.tileMatrixSets.get? (Crs.normalize s.supportedCrs) = some kept := h
  simp only [addSet, hcrs]
  rfl

theorem addSet_of_none (h : capabilities.tileMatrixSets.get? s.crs = none) :
    addSet l capabilities s =
      (addScales { capabilities with
        crs := capabilities.crs.insert s.crs
        tileMatrixSets := capabilities.tileMatrixSets.insert s.crs s.identifier } s, []) := by
  have hcrs : capabilities.tileMatrixSets.get? (Crs.normalize s.supportedCrs) = none := h
  simp only [addSet, hcrs]
  rfl

/-- One more link: its set is used, or there is a notice that an earlier one is kept. -/
theorem isOver_addSet (h : IsOver own sets capabilities) :
    IsOver own (sets ++ [s]) (addSet l capabilities s).1 ∧
      (addSet l capabilities s).2 = (repeatNotice? l.identifier sets s).toList := by
  have hfind : ∀ x, ((sets ++ [s]).find? (·.crs == x)).map (·.identifier) =
      (capabilities.tileMatrixSets.get? x).or (if s.crs = x then some s.identifier else none) := by
    intro x
    rw [h.tileMatrixSets, List.find?_append, Option.map_or]
    by_cases hx : s.crs = x <;> simp [hx]
  -- `addSet` looks into the table, the notice is about the sets before
  have hfirst := h.tileMatrixSets s.crs
  cases hget : capabilities.tileMatrixSets.get? s.crs with
  | some kept =>
    rw [addSet_of_some hget]
    constructor
    · refine h.addScales fun x => ?_
      rw [hfind]
      by_cases hx : s.crs = x
      · rw [← hx, hget]
        rfl
      · rw [if_neg hx, Option.or_none]
    · obtain ⟨t, ht, rfl⟩ := Option.map_eq_some_iff.1 (hfirst.symm.trans hget)
      rw [repeatNotice?, ht]
      rfl
  | none =>
    rw [addSet_of_none hget]
    constructor
    · refine h.addScales fun x => ?_
      rw [hfind, SortedMap.get?_insert]
      by_cases hx : s.crs = x
      · rw [if_pos hx, if_pos hx.symm, ← hx, hget]
        rfl
      · rw [if_neg hx, if_neg (Ne.symm hx), Option.or_none]
    · have hnone := Option.map_eq_none_iff.1 (hfirst.symm.trans hget)
      rw [repeatNotice?, hnone]
      rfl

/-! ## Links -/

/-- The first of the links that names no set. -/
def firstDangling? (c : WmtsCapabilities) (links : List String) : Option String :=
  links.find? fun link => (c.tileMatrixSet? link).isNone

/-- A run over links that all name sets adds these sets, one after another. -/
theorem addLinks_of_mapM {links : List String} {more : List TileMatrixSet}
    (h : IsOver own sets capabilities) (hlinks : links.mapM c.tileMatrixSet? = some more) :
    ∃ result notices, addLinks c l capabilities links = (.ok result, notices) ∧
      IsOver own (sets ++ more) result ∧
      repeatNotices l.identifier (sets ++ more) = repeatNotices l.identifier sets ++ notices := by
  have hall := Lists.mapM_eq_some_iff.1 hlinks
  clear hlinks
  -- `sets` are those of the links gone through, and `capabilities` what they gave
  induction hall generalizing sets capabilities with
  | nil => exact ⟨capabilities, [], rfl, by rwa [List.append_nil], by simp⟩
  | @cons link s links more hlink _ ih =>
    obtain ⟨hstep, hnotice⟩ := isOver_addSet (l := l) (s := s) h
    obtain ⟨result, notices, hrun, hover, hnotices⟩ := ih hstep
    have hset : c.linkedSet l link = .ok s := by rw [linkedSet, hlink]
    rw [List.append_assoc, List.singleton_append] at hover hnotices
    refine ⟨result, (addSet l capabilities s).2 ++ notices, ?_, hover, ?_⟩
    · simp only [addLinks, hset, hrun]
    · rw [hnotices, repeatNotices_concat, hnotice, List.append_assoc]

/-- A run over links ends at the first one that names no set. -/
theorem addLinks_of_firstDangling? {links : List String} {link : String}
    (h : c.firstDangling? links = some link) :
    (addLinks c l capabilities links).1 = .error (.unknownSet l.identifier link) := by
  induction links generalizing capabilities with
  | nil => cases h
  | cons next links ih =>
    unfold firstDangling? at h
    rw [List.find?_cons] at h
    unfold addLinks linkedSet
    cases hset : c.tileMatrixSet? next with
    | none =>
      rw [hset] at h
      cases h
      rfl
    | some s =>
      rw [hset] at h
      exact ih h

theorem firstDangling?_eq_none_iff {links : List String} :
    c.firstDangling? links = none ↔ ∀ link ∈ links, ∃ s, c.tileMatrixSet? link = some s := by
  simp [firstDangling?, Option.ne_none_iff_exists']

/-- Both are visible over the same scales, or over all. -/
structure SameScales (a b : LayerCapabilities) : Prop where
  low : Option.Rel SameNumber a.minScale b.minScale
  high : Option.Rel SameNumber a.maxScale b.maxScale

/-- The links are the same in another order, and so are the matrices of the sets that they name. -/
structure Reordered (c : WmtsCapabilities) (links : List String) (c' : WmtsCapabilities)
    (links' : List String) : Prop where
  order : links.Perm links'
  matrices : ∀ link ∈ links, ∀ s, c.tileMatrixSet? link = some s →
    ∃ s', c'.tileMatrixSet? link = some s' ∧ s.matrices.Perm s'.matrices

theorem mem_denominators {links : List String} (h : links.mapM c.tileMatrixSet? = some sets)
    {x : Float} : x ∈ denominators sets ↔
      ∃ link ∈ links, ∃ s, c.tileMatrixSet? link = some s ∧ x ∈ s.denominators := by
  rw [denominators, List.mem_flatMap]
  constructor
  · rintro ⟨s, hs, hx⟩
    obtain ⟨link, hlink, hset⟩ := Lists.exists_of_mapM h hs
    exact ⟨link, hlink, s, hset, hx⟩
  · rintro ⟨link, hlink, s, hset, hx⟩
    obtain ⟨s', hs', hset'⟩ :=
      Lists.exists_of_forall₂_of_mem (Lists.mapM_eq_some_iff.1 h).flip hlink
    cases hset.symm.trans hset'
    exact ⟨s, hs', hx⟩

theorem Reordered.exists_sets {links links' : List String} {c' : WmtsCapabilities}
    (h : Reordered c links c' links') (hsets : links.mapM c.tileMatrixSet? = some sets) :
    ∃ sets', links'.mapM c'.tileMatrixSet? = some sets' ∧
      ∀ x, x ∈ denominators sets ↔ x ∈ denominators sets' := by
  -- each link of the other layer names a set with the matrices that it has here
  have hback : ∀ link ∈ links', ∃ s s', c.tileMatrixSet? link = some s ∧
      c'.tileMatrixSet? link = some s' ∧ s.denominators.Perm s'.denominators := by
    intro link hlink
    have hmem := h.order.mem_iff.2 hlink
    obtain ⟨s, -, hs⟩ := Lists.exists_of_forall₂_of_mem (Lists.mapM_eq_some_iff.1 hsets).flip hmem
    obtain ⟨s', hs', hmatrices⟩ := h.matrices link hmem s hs
    exact ⟨s, s', hs, hs', hmatrices.map _⟩
  obtain ⟨sets', hsets'⟩ := Lists.exists_mapM fun link hlink =>
    let ⟨_, s', _, hs', _⟩ := hback link hlink
    ⟨s', hs'⟩
  refine ⟨sets', hsets', fun x => ?_⟩
  rw [mem_denominators hsets, mem_denominators hsets']
  constructor
  · rintro ⟨link, hlink, s, hs, hx⟩
    have hlink' := h.order.mem_iff.1 hlink
    obtain ⟨t, s', ht, hs', hperm⟩ := hback link hlink'
    cases hs.symm.trans ht
    exact ⟨link, hlink', s', hs', hperm.mem_iff.1 hx⟩
  · rintro ⟨link, hlink', s', hs', hx⟩
    obtain ⟨s, t, hs, ht, hperm⟩ := hback link hlink'
    cases hs'.symm.trans ht
    exact ⟨link, h.order.mem_iff.2 hlink', s, hs, hperm.mem_iff.2 hx⟩

/-- Each set of a document that was read has a matrix, so each link gives scales. -/
theorem denominators_eq_nil_iff {xml : String} {links : List String} (hc : read xml = .ok c)
    (h : links.mapM c.tileMatrixSet? = some sets) : denominators sets = [] ↔ links = [] := by
  have hall := Lists.mapM_eq_some_iff.1 h
  cases hall with
  | nil => simp [denominators]
  | @cons link s links sets hset _ =>
    have hne := matrices_ne_nil_of_read hc s (List.mem_of_find?_eq_some hset)
    simp [denominators, TileMatrixSet.denominators, hne]

theorem patch_of_find? {layer : Layer} (h : c.find? layer.name = some l) :
    c.patch layer = ((addLinks c l (c.ownCapabilities l) l.links).1.map fun capabilities =>
      { layerId := layer.id, capabilities }, (addLinks c l (c.ownCapabilities l) l.links).2) := by
  rw [patch, h]

theorem patch_of_mapM {layer : Layer} (h : c.find? layer.name = some l)
    (hsets : l.links.mapM c.tileMatrixSet? = some sets) :
    ∃ capabilities, IsOver (c.ownCapabilities l) sets capabilities ∧
      c.patch layer = (.ok { layerId := layer.id, capabilities },
        repeatNotices l.identifier sets) := by
  obtain ⟨result, notices, hrun, hover, hnotices⟩ :=
    addLinks_of_mapM (l := l) (IsOver.ofOwn c l) hsets
  have hall : repeatNotices l.identifier sets = notices := hnotices
  refine ⟨result, hover, ?_⟩
  rw [patch_of_find? h, hrun, hall]
  rfl

theorem patch_eq_error_iff {layer : Layer} (h : c.find? layer.name = some l) {e : DocumentError} :
    (c.patch layer).1 = .error e ↔
      ∃ link, c.firstDangling? l.links = some link ∧ e = .unknownSet l.identifier link := by
  cases hlink : c.firstDangling? l.links with
  | none =>
    obtain ⟨sets, hsets⟩ := Lists.exists_mapM (firstDangling?_eq_none_iff.1 hlink)
    obtain ⟨capabilities, -, hpatch⟩ := patch_of_mapM h hsets
    simp [hpatch]
  | some link =>
    have hrun : (addLinks c l (c.ownCapabilities l) l.links).1 = _ :=
      addLinks_of_firstDangling? hlink
    rw [patch_of_find? h, hrun]
    simp [Except.map, eq_comm]

theorem layerNotFound_iff {layer : Layer} :
    (c.patch layer).1 = .error (.layerNotFound layer.name) ↔
      ∀ l ∈ c.layers, l.identifier ≠ layer.name := by
  have hfind : c.find? layer.name = none ↔ ∀ l ∈ c.layers, l.identifier ≠ layer.name := by
    simp [find?]
  rw [← hfind]
  cases h : c.find? layer.name with
  | none => simp [patch, h]
  | some l => simp [patch_eq_error_iff h]

/-- What comes of the links of a layer. A layer that is not in the document is not found. For the
first layer of the name, the first link that names no set is the error, if there is one. Otherwise
the layer is given the properties of its sets, with a notice for each link beyond the first for its
reference system. There are scales if there are links, in order unless no scale is a number, and
they are the same numbers wherever the same links and matrices stand in another order. -/
theorem patch_follows_links {xml : String} (hc : read xml = .ok c) (layer : Layer) :
    ((c.patch layer).1 = .error (.layerNotFound layer.name) ↔
      ∀ l ∈ c.layers, l.identifier ≠ layer.name) ∧
    ∀ l, c.find? layer.name = some l →
      (∀ e, (c.patch layer).1 = .error e ↔
        ∃ link, c.firstDangling? l.links = some link ∧ e = .unknownSet l.identifier link) ∧
      (c.firstDangling? l.links = none → ∃ sets capabilities,
        l.links.mapM c.tileMatrixSet? = some sets ∧
        c.patch layer =
          (.ok { layerId := layer.id, capabilities }, repeatNotices l.identifier sets) ∧
        IsOver (c.ownCapabilities l) sets capabilities ∧
        capabilities.tileMatrixSets.keys = capabilities.crs.toList ∧
        (repeatNotices l.identifier sets).length + capabilities.crs.toList.length =
          l.links.length ∧
        (capabilities.minScale = none ↔ l.links = []) ∧
        (capabilities.maxScale = none ↔ l.links = []) ∧
        (∀ low ∈ capabilities.minScale, ∀ high ∈ capabilities.maxScale,
          low ≤ high ∨ ∀ x ∈ denominators sets, x.isNaN) ∧
        ∀ c' layer' l', find? c' layer'.name = some l' → Reordered c l.links c' l'.links →
          ∃ p, (c'.patch layer').1 = .ok p ∧ SameScales capabilities p.capabilities) := by
  refine ⟨layerNotFound_iff, fun l hl => ⟨fun e => patch_eq_error_iff hl, fun hlinks => ?_⟩⟩
  obtain ⟨sets, hsets⟩ := Lists.exists_mapM (firstDangling?_eq_none_iff.1 hlinks)
  obtain ⟨capabilities, hover, hpatch⟩ := patch_of_mapM hl hsets
  have hscales := hover.scales
  refine ⟨sets, capabilities, hsets, hpatch, hover, hover.keys, ?_, ?_, ?_, ?_, ?_⟩
  · rw [hover.length_crs, length_repeatNotices, (Lists.mapM_eq_some_iff.1 hsets).length_eq]
  · rw [hscales.low.eq_none_iff, denominators_eq_nil_iff hc hsets]
  · rw [hscales.high.eq_none_iff, denominators_eq_nil_iff hc hsets]
  · intro low hlow high hhigh
    rw [Option.mem_def.1 hlow, Option.mem_def.1 hhigh] at hscales
    exact hscales.le
  · intro c' layer' l' hl' hreordered
    obtain ⟨sets', hsets', hmem⟩ := hreordered.exists_sets hsets
    obtain ⟨capabilities', hover', hpatch'⟩ := patch_of_mapM hl' hsets'
    refine ⟨_, congrArg Prod.fst hpatch', ?_, ?_⟩
    · exact hscales.low.rel_sameNumber direction_up hover'.scales.low hmem
    · exact hscales.high.rel_sameNumber direction_down hover'.scales.high hmem

/-- A tile matrix of the given scale, in pieces. -/
def matrixText (scale : String) : List String :=
  ["<TileMatrix><TopLeftCorner>0 0</TopLeftCorner><Identifier>0", "</Identifier><ScaleDenominator>",
    scale, "</ScaleDenominator><TileWidth>1</TileWidth><TileHeight>1",
    "</TileHeight><MatrixWidth>1</MatrixWidth><MatrixHeight>1", "</MatrixHeight></TileMatrix>"]

/-- A layer links one set twice, and between that another one for the same reference system. -/
def linkedDocument : String :=
  String.join (["<Capabilities><Contents><Layer><Identifier>a</Identifier>"] ++
    ["s", "t", "s"].flatMap (fun link =>
      ["<TileMatrixSetLink><TileMatrixSet>", link, "</TileMatrixSet></TileMatrixSetLink>"]) ++
    ["</Layer><TileMatrixSet><Identifier>s</Identifier><SupportedCRS>EPSG:3067</SupportedCRS>"] ++
    matrixText "NaN" ++
    ["</TileMatrixSet><TileMatrixSet><Identifier>t</Identifier>",
      "<SupportedCRS>urn:ogc:def:crs:EPSG::3067</SupportedCRS>"] ++
    matrixText "500" ++ ["</TileMatrixSet></Contents></Capabilities>"])

/-- The layer as it is configured. -/
def linkedLayer : Layer := { id := 1, name := "a", url := "", serviceType := .wmts }

/-- The set that is linked first is kept, and both other links are reported. With its links reversed
the layer has the same scales. -/
theorem patch_follows_links_twice :
    ∃ c l sets capabilities, read linkedDocument = .ok c ∧ c.find? linkedLayer.name = some l ∧
      l.links = ["s", "t", "s"] ∧ c.firstDangling? l.links = none ∧
      c.patch linkedLayer = (.ok { layerId := 1, capabilities },
        [.severalSets "a" "EPSG:3067" "s" "t", .severalSets "a" "EPSG:3067" "s" "s"]) ∧
      IsOver (c.ownCapabilities l) sets capabilities ∧ capabilities.crs.toList.length = 1 ∧
      capabilities.minScale ≠ none ∧
      ∃ p,
        (patch { c with layers := [{ l with links := l.links.reverse }] } linkedLayer).1 = .ok p ∧
        SameScales capabilities p.capabilities := by
  have hread : (read linkedDocument).toOption.map (fun c =>
      ((c.find? linkedLayer.name).map fun l => (l.identifier, l.links, c.firstDangling? l.links),
        (c.patch linkedLayer).2)) =
      some (some ("a", ["s", "t", "s"], none),
        [.severalSets "a" "EPSG:3067" "s" "t", .severalSets "a" "EPSG:3067" "s" "s"]) := by
    rw [read, linkedDocument, Xml.Element.ofDocument_join]
    decide +kernel
  obtain ⟨c, hc, hread⟩ := Option.map_eq_some_iff.1 hread
  have hc := Failure.toOption_eq_some.1 hc
  obtain ⟨hfound, hnotices⟩ := Prod.mk.inj hread
  obtain ⟨l, hl, hlinks⟩ := Option.map_eq_some_iff.1 hfound
  simp only [Prod.mk.injEq] at hlinks
  obtain ⟨hidentifier, hlinks, hdangling⟩ := hlinks
  obtain ⟨-, hall⟩ := patch_follows_links hc linkedLayer
  obtain ⟨sets, capabilities, -, hpatch, hover, -, hcount, hmin, -, -, hreordered⟩ :=
    (hall l hl).2 hdangling
  have hrepeat : repeatNotices l.identifier sets = _ :=
    (congrArg Prod.snd hpatch).symm.trans hnotices
  rw [hrepeat] at hpatch hcount
  rw [hlinks] at hcount hmin
  refine ⟨c, l, sets, capabilities, hc, hl, hlinks, hdangling, hpatch, hover, ?_, ?_, ?_⟩
  · simp only [List.length_cons, List.length_nil] at hcount
    omega
  · simp [hmin]
  · refine hreordered _ linkedLayer { l with links := l.links.reverse } ?_ ⟨?_, ?_⟩
    · have hname : l.identifier == linkedLayer.name := by rw [hidentifier]; rfl
      simp [find?, hname]
    · exact l.links.reverse_perm.symm
    · exact fun link _ s hs => ⟨s, hs, .refl _⟩

end WmtsCapabilities

end MapServices
