import MapServices.Proofs.Capabilities.TileFrame
import MapServices.Proofs.Capabilities.Value

/-!
# What the document of a tile service must hold

A document is read in one go, layers first, and the first thing that is wrong with it is reported.
Here the faults of a document are listed, one place after another and without stopping at the first,
and the reader is compared with that list. A layer or a set without an identifier counts as one.

* `faults` lists what is wrong with an element; the reader of the element reports the first of them.
* `IsLayer`, `IsTileMatrix`, `IsTileMatrixSet` and `IsTileDocument` say what an element must hold.
  It does if and only if it has no faults.
* `Describes` says which value an element stands for.
* `WmtsCapabilities.read_reports_first_fault`: a document is read if and only if it holds all that
  it must, as what it describes, and otherwise its first fault is the error.
-/

namespace MapServices

open Failure (Reports required required_eq_nil_iff)
open Xml (Element)

/-! ## Layers -/

namespace WmtsLayer

variable {e : Element} {l : WmtsLayer}

/-- The element gives both corners of a box. -/
def IsBox (e : Element) (box : BoundingBox) : Prop :=
  e.HasCorner "LowerCorner" box.minX box.minY ∧ e.HasCorner "UpperCorner" box.maxX box.maxY

/-- The element has an identifier, and if it has a box then one of two readable corners. -/
structure IsLayer (e : Element) : Prop where
  identifier : e.HasText "Identifier"
  box : ∀ box, e.child? "WGS84BoundingBox" = some box →
    (∃ x y, box.HasCorner "LowerCorner" x y) ∧ ∃ x y, box.HasCorner "UpperCorner" x y

/-- The layer that the element stands for. -/
structure Describes (e : Element) (l : WmtsLayer) : Prop where
  identifier : e.childText? "Identifier" = some l.identifier
  box : Option.Rel IsBox (e.child? "WGS84BoundingBox") l.box
  rest : l = described l.identifier l.box e

theorem readBox?_eq_ok_iff_rel {box : Option BoundingBox} :
    readBox? "" e = .ok box ↔ Option.Rel IsBox (e.child? "WGS84BoundingBox") box := by
  unfold readBox?
  cases e.child? "WGS84BoundingBox" with
  | none =>
    constructor
    · rintro ⟨⟩
      exact .none
    · rintro ⟨⟩
      rfl
  | some child =>
    simp only [Failure.bind_eq_ok, Element.requiredText_eq_ok_iff, Failure.map_eq_ok,
      Failure.mapError_eq_ok, BoundingBox.ofCorners_eq_ok_iff]
    constructor
    · rintro ⟨lower, hlower, upper, hupper, b, ⟨hl, hu⟩, rfl⟩
      exact .some ⟨⟨lower, hlower, hl⟩, upper, hupper, hu⟩
    · rintro ⟨⟨⟨lower, hlower, hl⟩, upper, hupper, hu⟩⟩
      exact ⟨lower, hlower, upper, hupper, _, ⟨hl, hu⟩, rfl⟩

theorem ofElement_eq_ok_iff_describes : ofElement e = .ok l ↔ Describes e l := by
  rw [ofElement_eq_ok_iff]
  constructor
  · rintro ⟨identifier, box, hidentifier, hbox, rfl⟩
    exact ⟨hidentifier, readBox?_eq_ok_iff_rel.1 hbox, rfl⟩
  · rintro ⟨hidentifier, hbox, hrest⟩
    exact ⟨_, _, hidentifier, readBox?_eq_ok_iff_rel.2 hbox, hrest⟩

/-! ### Faults -/

/-- The faults of a box: corners that are missing, then corners that cannot be read. -/
def boxFaults (identifier : String) (e : Element) : List DocumentError :=
  (["LowerCorner", "UpperCorner"].flatMap fun name => e.textFaults name fun _ => []) ++
    (["LowerCorner", "UpperCorner"].flatMap fun name =>
      (e.childText? name).toList.flatMap BoundingBox.cornerFaults).map (.unreadableBox identifier)

/-- The faults of a layer. Without an identifier there is no name to report others of. -/
def faults (e : Element) : List DocumentError :=
  required (e.childText? "Identifier") (.missingElement "Layer/Identifier") fun identifier =>
    (e.child? "WGS84BoundingBox").toList.flatMap (boxFaults identifier)

theorem reports_readBox? (identifier : String) (e : Element) :
    Reports ((e.child? "WGS84BoundingBox").toList.flatMap (boxFaults identifier))
      (readBox? identifier e) := by
  unfold readBox?
  cases e.child? "WGS84BoundingBox" with
  | none => exact .ok none
  | some box =>
    simp only [Option.toList_some, List.flatMap_cons, List.flatMap_nil, List.append_nil, boxFaults,
      List.append_assoc]
    refine Element.reports_requiredText.bind fun lower hlower =>
      Element.reports_requiredText.bind fun upper hupper => ?_
    rw [Element.requiredText_eq_ok_iff.1 hlower, Element.requiredText_eq_ok_iff.1 hupper]
    simp only [Option.toList_some, List.flatMap_cons, List.flatMap_nil, List.append_nil]
    exact ((BoundingBox.reports_ofCorners lower upper).mapError _).map some

theorem reports_ofElement (e : Element) : Reports (faults e) (ofElement e) := by
  unfold faults ofElement
  cases e.childText? "Identifier" with
  | none => exact .error _ _
  | some identifier =>
    have h := (reports_readBox? identifier e).map (described identifier · e)
    exact h

theorem boxFaults_eq_nil_iff {identifier : String} : boxFaults identifier e = [] ↔
    (∃ x y, e.HasCorner "LowerCorner" x y) ∧ ∃ x y, e.HasCorner "UpperCorner" x y := by
  have hcorner : ∀ name, ((e.textFaults name fun _ => []) = [] ∧
      (e.childText? name).toList.flatMap BoundingBox.cornerFaults = []) ↔
        ∃ x y, e.HasCorner name x y := by
    intro name
    rw [Element.textFaults_eq_nil_iff]
    unfold Element.HasCorner
    cases e.childText? name <;> simp [BoundingBox.cornerFaults_eq_nil_iff]
  simp only [boxFaults, List.append_eq_nil_iff, List.map_eq_nil_iff, List.flatMap_cons,
    List.flatMap_nil, List.append_nil, ← hcorner]
  tauto

theorem faults_eq_nil_iff : faults e = [] ↔ IsLayer e := by
  rw [faults, required_eq_nil_iff]
  constructor
  · rintro ⟨identifier, hidentifier, hbox⟩
    refine ⟨⟨identifier, hidentifier⟩, fun box h => ?_⟩
    rw [h] at hbox
    exact boxFaults_eq_nil_iff.1 (by simpa using hbox)
  · rintro ⟨⟨identifier, hidentifier⟩, hbox⟩
    refine ⟨identifier, hidentifier, List.flatMap_eq_nil_iff.2 fun box h => ?_⟩
    exact boxFaults_eq_nil_iff.2 (hbox box (Option.mem_toList.1 h))

end WmtsLayer

/-! ## Tile matrices -/

namespace TileMatrix

variable {e : Element} {m : TileMatrix}

/-- The names of the children that hold the sizes, in the order in which they are read. -/
def sizeNames : List String := ["TileWidth", "TileHeight", "MatrixWidth", "MatrixHeight"]

/-- The element gives the corner of the first tile, a name, a scale and four sizes. -/
structure IsTileMatrix (e : Element) : Prop where
  topLeft : ∃ point, e.StartsWith "TopLeftCorner" point
  identifier : e.HasText "Identifier"
  scaleDenominator : ∃ x, e.HasNumber "ScaleDenominator" x
  sizes : ∀ name ∈ sizeNames, ∃ n, e.HasCount name n

/-- The matrix that the element stands for. -/
structure Describes (e : Element) (m : TileMatrix) : Prop where
  topLeft : e.StartsWith "TopLeftCorner" m.topLeft
  identifier : e.childText? "Identifier" = some m.identifier
  scaleDenominator : e.HasNumber "ScaleDenominator" m.scaleDenominator
  tileWidth : e.HasCount "TileWidth" m.tileWidth
  tileHeight : e.HasCount "TileHeight" m.tileHeight
  matrixWidth : e.HasCount "MatrixWidth" m.matrixWidth
  matrixHeight : e.HasCount "MatrixHeight" m.matrixHeight

def topLeftFaults (e : Element) : List DocumentError :=
  e.textFaults "TopLeftCorner" fun corner =>
    match Text.words corner.toList with
    | u :: v :: _ => [u, v].flatMap fun part =>
        required (Decimal.readFloat? part) (.invalidNumber "TopLeftCorner" (String.ofList part))
          fun _ => []
    | _ => [.invalidNumber "TopLeftCorner" corner]

/-- The faults of a matrix, in the order in which its parts are read. -/
def faults (e : Element) : List DocumentError :=
  topLeftFaults e ++ (e.textFaults "Identifier" fun _ => []) ++
    e.numberFaults "ScaleDenominator" ++ sizeNames.flatMap e.countFaults

theorem readCount_eq_ok_iff {name : String} {n : Nat} :
    readCount e name = .ok n ↔ e.HasCount name n := by
  unfold readCount Element.HasCount
  simp only [Failure.bind_eq_ok, Element.requiredText_eq_ok_iff]
  refine exists_congr fun text => and_congr_right fun _ => ?_
  rw [← Decimal.readNatBelow?_eq_some_iff]
  cases Decimal.readNatBelow? 0x100000000 text.toList with
  | none => simp
  | some n' => simp [pure, Except.pure]

theorem reports_readCount (e : Element) (name : String) :
    Reports (e.countFaults name) (readCount e name) := by
  refine Element.reports_requiredText_bind fun value _ => ?_
  cases Decimal.readNatBelow? 0x100000000 value.toList with
  | none => exact .error _ _
  | some n => exact .ok n

theorem trim_part {text : String} {u v : List Char} {more : List (List Char)}
    (h : Text.words text.toList = u :: v :: more) :
    Text.trim (String.ofList u).toList = (String.ofList u).toList ∧
      Text.trim (String.ofList v).toList = (String.ofList v).toList := by
  rw [String.toList_ofList, String.toList_ofList]
  exact ⟨Text.trim_of_mem_words (h ▸ List.mem_cons_self),
    Text.trim_of_mem_words (h ▸ List.mem_cons_of_mem _ List.mem_cons_self)⟩

theorem reports_readTopLeft (e : Element) : Reports (topLeftFaults e) (readTopLeft e) := by
  refine Element.reports_requiredText_bind fun corner _ => ?_
  rcases hwords : Text.words corner.toList with _ | ⟨u, _ | ⟨v, more⟩⟩
  · exact .error _ _
  · exact .error _ _
  · -- a number is trimmed before it is read, which changes no part of a corner
    obtain ⟨hu, hv⟩ := trim_part hwords
    have hx := Element.reports_readNumber hu "TopLeftCorner"
    have hy := Element.reports_readNumber hv "TopLeftCorner"
    rw [String.toList_ofList] at hx hy
    exact hx.bind fun x _ => hy.bind fun y _ => .ok (x, y)

theorem readTopLeft_eq_ok_iff {point : Float × Float} :
    readTopLeft e = .ok point ↔ e.StartsWith "TopLeftCorner" point := by
  simp only [readTopLeft, Failure.bind_eq_ok, Element.requiredText_eq_ok_iff, Element.StartsWith,
    exists_and_left]
  refine exists_congr fun text => and_congr_right fun _ => ?_
  split
  · rename_i u v more huv
    obtain ⟨hu, hv⟩ := trim_part huv
    simp only [Failure.bind_eq_ok, Element.readNumber_eq_ok_iff hu, Element.readNumber_eq_ok_iff hv,
      String.toList_ofList]
    constructor
    · rintro ⟨x, hx, y, hy, h⟩
      cases h
      exact ⟨u, v, more, huv, hx, hy⟩
    · rintro ⟨u', v', more', h, hx, hy⟩
      cases huv.symm.trans h
      exact ⟨_, hx, _, hy, rfl⟩
  · rename_i hform
    constructor
    · nofun
    · rintro ⟨u, v, more, huv, -⟩
      exact absurd huv (hform u v more)

theorem topLeftFaults_eq_nil_iff :
    topLeftFaults e = [] ↔ ∃ point, e.StartsWith "TopLeftCorner" point := by
  rw [← (reports_readTopLeft e).exists_ok_iff]
  exact exists_congr fun _ => readTopLeft_eq_ok_iff

theorem reports_ofElement (e : Element) : Reports (faults e) (ofElement e) := by
  unfold faults
  simp only [List.append_assoc]
  refine (reports_readTopLeft e).bind fun _ _ => Element.reports_requiredText.bind fun _ _ =>
    Element.reports_requiredNumber.bind fun _ _ => ?_
  exact (reports_readCount e _).bind fun _ _ => (reports_readCount e _).bind fun _ _ =>
    (reports_readCount e _).bind fun _ _ => (reports_readCount e _).bind fun _ _ => .ok _

theorem faults_eq_nil_iff : faults e = [] ↔ IsTileMatrix e := by
  simp only [faults, List.append_eq_nil_iff, List.flatMap_eq_nil_iff, topLeftFaults_eq_nil_iff,
    Element.textFaults_eq_nil_iff, Element.numberFaults_eq_nil_iff, Element.countFaults_eq_nil_iff,
    and_true]
  constructor
  · rintro ⟨⟨⟨htopLeft, hidentifier⟩, hscale⟩, hsizes⟩
    exact ⟨htopLeft, hidentifier, hscale, hsizes⟩
  · rintro ⟨htopLeft, hidentifier, hscale, hsizes⟩
    exact ⟨⟨⟨htopLeft, hidentifier⟩, hscale⟩, hsizes⟩

theorem ofElement_eq_ok_iff_describes : ofElement e = .ok m ↔ Describes e m := by
  simp only [ofElement, Failure.bind_eq_ok, readTopLeft_eq_ok_iff, Element.requiredText_eq_ok_iff,
    Element.requiredNumber_eq_ok_iff, readCount_eq_ok_iff]
  constructor
  · rintro ⟨topLeft, htopLeft, identifier, hidentifier, scale, hscale, tileWidth, htileWidth,
      tileHeight, htileHeight, matrixWidth, hmatrixWidth, matrixHeight, hmatrixHeight, h⟩
    cases h
    exact ⟨htopLeft, hidentifier, hscale, htileWidth, htileHeight, hmatrixWidth, hmatrixHeight⟩
  · intro h
    exact ⟨_, h.topLeft, _, h.identifier, _, h.scaleDenominator, _, h.tileWidth, _, h.tileHeight, _,
      h.matrixWidth, _, h.matrixHeight, rfl⟩

end TileMatrix

/-! ## Tile matrix sets -/

namespace TileMatrixSet

variable {e : Element} {s : TileMatrixSet}

/-- The element has an identifier and a reference system, and at least one matrix. -/
structure IsTileMatrixSet (e : Element) : Prop where
  identifier : e.HasText "Identifier"
  supportedCrs : e.HasText "SupportedCRS"
  matrices : ∀ m ∈ e.childrenNamed "TileMatrix", TileMatrix.IsTileMatrix m
  nonempty : e.childrenNamed "TileMatrix" ≠ []

/-- The set that the element stands for. -/
structure Describes (e : Element) (s : TileMatrixSet) : Prop where
  identifier : e.childText? "Identifier" = some s.identifier
  supportedCrs : e.childText? "SupportedCRS" = some s.supportedCrs
  matrices : List.Forall₂ TileMatrix.Describes (e.childrenNamed "TileMatrix") s.matrices
  nonempty : s.matrices ≠ []

/-- The faults of a set. Without an identifier there is no name to report others of. -/
def faults (e : Element) : List DocumentError :=
  required (e.childText? "Identifier") (.missingElement "TileMatrixSet/Identifier")
    fun identifier =>
      (required (e.childText? "SupportedCRS") (.setWithoutCrs identifier) fun _ => []) ++
        (e.childrenNamed "TileMatrix").flatMap TileMatrix.faults ++
          required (e.child? "TileMatrix") (.setWithoutMatrices identifier) fun _ => []

theorem reports_ofElement (e : Element) : Reports (faults e) (ofElement e) := by
  unfold faults ofElement
  cases e.childText? "Identifier" with
  | none => exact .error _ _
  | some identifier =>
    cases e.childText? "SupportedCRS" with
    | none => exact .error _ _
    | some supportedCrs =>
      refine (Reports.mapM TileMatrix.reports_ofElement _).bind fun matrices hmatrices => ?_
      -- there are as many matrices as elements, so the one list is empty if the other is
      have hlength := (Failure.mapM_eq_ok_iff.1 hmatrices).length_eq
      cases hchild : e.child? "TileMatrix" with
      | none =>
        rw [Element.child?_eq_none_iff.1 hchild, List.length_nil] at hlength
        rw [List.eq_nil_of_length_eq_zero hlength.symm]
        exact .error _ _
      | some child =>
        have hne : matrices ≠ [] := by
          rintro rfl
          rw [Element.child?_eq_none_iff.2 (List.eq_nil_of_length_eq_zero hlength)] at hchild
          cases hchild
        rw [if_neg (by simpa using hne)]
        exact .ok _

theorem faults_eq_nil_iff : faults e = [] ↔ IsTileMatrixSet e := by
  have hchild : (∃ child, e.child? "TileMatrix" = some child) ↔
      e.childrenNamed "TileMatrix" ≠ [] := by
    rw [← Option.isSome_iff_exists, Option.isSome_iff_ne_none, ne_eq, Element.child?_eq_none_iff]
  simp only [faults, required_eq_nil_iff, List.append_eq_nil_iff, List.flatMap_eq_nil_iff,
    TileMatrix.faults_eq_nil_iff, and_true, hchild]
  constructor
  · rintro ⟨identifier, hidentifier, ⟨hcrs, hmatrices⟩, hne⟩
    exact ⟨⟨identifier, hidentifier⟩, hcrs, hmatrices, hne⟩
  · rintro ⟨⟨identifier, hidentifier⟩, hcrs, hmatrices, hne⟩
    exact ⟨identifier, hidentifier, ⟨hcrs, hmatrices⟩, hne⟩

theorem ofElement_eq_ok_iff_describes : ofElement e = .ok s ↔ Describes e s := by
  have hmatrices : ∀ matrices,
      (e.childrenNamed "TileMatrix").mapM TileMatrix.ofElement = .ok matrices ↔
        List.Forall₂ TileMatrix.Describes (e.childrenNamed "TileMatrix") matrices := by
    intro matrices
    simp only [Failure.mapM_eq_ok_iff, TileMatrix.ofElement_eq_ok_iff_describes]
  unfold ofElement
  constructor
  · intro h
    split at h
    · cases h
    rename_i identifier hidentifier
    split at h
    · cases h
    rename_i supportedCrs hcrs
    obtain ⟨matrices, hread, h⟩ := Failure.bind_eq_ok.1 h
    split at h
    · cases h
    rename_i hne
    cases h
    exact ⟨hidentifier, hcrs, (hmatrices matrices).1 hread, by simpa using hne⟩
  · rintro ⟨hidentifier, hcrs, hread, hne⟩
    rw [hidentifier, hcrs]
    refine Failure.bind_eq_ok.2 ⟨s.matrices, (hmatrices s.matrices).2 hread, ?_⟩
    rw [if_neg (by simpa using hne)]
    rfl

/-- Each matrix has a scale, so a set with a matrix has a range of scales. -/
theorem isSome_scaleRange? (h : s.matrices ≠ []) : s.scaleRange?.isSome := by
  obtain ⟨matrices, m, hm⟩ := List.eq_nil_or_concat _ |>.resolve_left h
  rw [scaleRange?, hm, List.concat_eq_append, List.foldl_concat]
  rfl

end TileMatrixSet

/-! ## Documents -/

namespace WmtsCapabilities

variable {root : Element} {c : WmtsCapabilities}

/-- The element is the root of a document that can be read. Only its first contents count. -/
structure IsTileDocument (root : Element) : Prop where
  name : root.name = "Capabilities"
  contents : ∃ contents, root.child? "Contents" = some contents ∧
    (∀ e ∈ contents.childrenNamed "Layer", WmtsLayer.IsLayer e) ∧
    ∀ e ∈ contents.childrenNamed "TileMatrixSet", TileMatrixSet.IsTileMatrixSet e

/-- What the document says. -/
structure Describes (root : Element) (c : WmtsCapabilities) : Prop where
  name : root.name = "Capabilities"
  version : c.version = root.attribute? "version"
  contents : ∃ contents, root.child? "Contents" = some contents ∧
    List.Forall₂ WmtsLayer.Describes (contents.childrenNamed "Layer") c.layers ∧
    List.Forall₂ TileMatrixSet.Describes (contents.childrenNamed "TileMatrixSet") c.tileMatrixSets

/-- The faults of a document: those of all layers, then those of all sets. -/
def faults (root : Element) : List DocumentError :=
  if root.name = "Capabilities" then
    required (root.child? "Contents") (.missingElement "Contents") fun contents =>
      (contents.childrenNamed "Layer").flatMap WmtsLayer.faults ++
        (contents.childrenNamed "TileMatrixSet").flatMap TileMatrixSet.faults
  else [.unexpectedRoot "Capabilities" root.name]

theorem reports_ofElement (root : Element) : Reports (faults root) (ofElement root) := by
  unfold faults ofElement
  by_cases hname : root.name = "Capabilities"
  · have hroot : root.name = rootName := hname
    rw [if_pos hname, if_pos hroot]
    cases root.child? "Contents" with
    | none => exact .error _ _
    | some contents =>
      refine (Reports.mapM WmtsLayer.reports_ofElement _).bind fun layers _ => ?_
      exact (Reports.mapM TileMatrixSet.reports_ofElement _).map fun tileMatrixSets =>
        WmtsCapabilities.mk (root.attribute? "version") layers tileMatrixSets
  · have hroot : ¬ root.name = rootName := hname
    rw [if_neg hname, if_neg hroot]
    exact .error _ _

theorem faults_eq_nil_iff : faults root = [] ↔ IsTileDocument root := by
  unfold faults
  split
  · rename_i hname
    simp only [required_eq_nil_iff, List.append_eq_nil_iff, List.flatMap_eq_nil_iff,
      WmtsLayer.faults_eq_nil_iff, TileMatrixSet.faults_eq_nil_iff]
    exact ⟨fun h => ⟨hname, h⟩, fun h => h.contents⟩
  · rename_i hname
    exact ⟨nofun, fun h => absurd h.name hname⟩

theorem ofElement_eq_ok_iff_describes : ofElement root = .ok c ↔ Describes root c := by
  unfold ofElement
  constructor
  · intro h
    split at h
    · rename_i hname
      split at h
      · cases h
      rename_i contents hcontents
      simp only [Failure.bind_eq_ok, Failure.mapM_eq_ok_iff,
        WmtsLayer.ofElement_eq_ok_iff_describes,
        TileMatrixSet.ofElement_eq_ok_iff_describes] at h
      obtain ⟨layers, hlayers, sets, hsets, h⟩ := h
      cases h
      exact ⟨hname, rfl, contents, hcontents, hlayers, hsets⟩
    · cases h
  · rintro ⟨hname, hversion, contents, hcontents, hlayers, hsets⟩
    have hroot : root.name = rootName := hname
    rw [if_pos hroot, hcontents]
    simp only [Failure.bind_eq_ok, Failure.mapM_eq_ok_iff, WmtsLayer.ofElement_eq_ok_iff_describes,
      TileMatrixSet.ofElement_eq_ok_iff_describes]
    exact ⟨c.layers, hlayers, c.tileMatrixSets, hsets, by rw [← hversion]; rfl⟩

theorem read_of_ofDocument {xml : String} (h : Element.ofDocument xml = .ok root) :
    read xml = ofElement root := by
  rw [read, h]
  rfl

theorem matrices_ne_nil_of_read {xml : String} (h : read xml = .ok c) :
    ∀ s ∈ c.tileMatrixSets, s.matrices ≠ [] := by
  obtain ⟨root, -, hroot⟩ := Failure.bind_eq_ok.1 h
  obtain ⟨-, -, contents, -, -, hsets⟩ := ofElement_eq_ok_iff_describes.1 hroot
  intro s hs
  obtain ⟨e, -, he⟩ := Lists.exists_of_forall₂_of_mem hsets hs
  exact he.nonempty

/-- A document that has a tree is read, as what it describes, if and only if it holds all that it
must, and otherwise the error is its first fault: layers come before sets, and the parts of a matrix
in the order of `TileMatrix.faults`. Each set that was read has a range of scales. -/
theorem read_reports_first_fault {xml : String} {root : Element}
    (h : Element.ofDocument xml = .ok root) :
    ((∃ c, read xml = .ok c) ↔ IsTileDocument root) ∧
      (∀ c, read xml = .ok c ↔ Describes root c) ∧
      (∀ c, read xml = .ok c → ∀ s ∈ c.tileMatrixSets, s.scaleRange?.isSome) ∧
      ∀ e, read xml = .error e ↔ (faults root).head? = some e := by
  refine ⟨?_, ?_, ?_, ?_⟩
  · rw [read_of_ofDocument h, (reports_ofElement root).exists_ok_iff, faults_eq_nil_iff]
  · intro c
    rw [read_of_ofDocument h, ofElement_eq_ok_iff_describes]
  · intro c hc s hs
    exact TileMatrixSet.isSome_scaleRange? (matrices_ne_nil_of_read hc s hs)
  · intro e
    rw [read_of_ofDocument h, (reports_ofElement root).eq_error_iff]

/-- A set stands before a layer, and there are faults in both. -/
def faultyDocument : String :=
  String.join [
    "<Capabilities><Contents><TileMatrixSet><Identifier>s</Identifier>",
    "<SupportedCRS>c</SupportedCRS><TileMatrix><TileHeight>+64</TileHeight>",
    "<MatrixWidth>4294967296</MatrixWidth><ScaleDenominator>large",
    "</ScaleDenominator></TileMatrix></TileMatrixSet><Layer>",
    "<Identifier>a</Identifier><WGS84BoundingBox><LowerCorner>1",
    "</LowerCorner></WGS84BoundingBox></Layer></Contents></Capabilities>"]

/-- What is wrong with the document: the layer comes first, and in it the corner that is missing. -/
def faultsInOrder : List DocumentError :=
  [.missingElement "UpperCorner", .unreadableBox "a" (.cornerFormat "1"),
    .missingElement "TopLeftCorner", .missingElement "Identifier",
    .invalidNumber "ScaleDenominator" "large", .missingElement "TileWidth",
    .invalidNumber "MatrixWidth" "4294967296", .missingElement "MatrixHeight"]

/-- Of all the faults of the document the first one of the layer is reported. -/
theorem read_reports_first_fault_layer :
    ∃ root, Element.ofDocument faultyDocument = .ok root ∧ faults root = faultsInOrder ∧
      ¬ IsTileDocument root ∧ read faultyDocument = .error (.missingElement "UpperCorner") := by
  have hfaults : (Element.ofDocument faultyDocument).toOption.map faults = some faultsInOrder := by
    rw [faultyDocument, Element.ofDocument_join]
    decide +kernel
  obtain ⟨root, hroot, hfaults⟩ := Option.map_eq_some_iff.1 hfaults
  have hroot := Failure.toOption_eq_some.1 hroot
  obtain ⟨haccept, -, -, hreport⟩ := read_reports_first_fault hroot
  have herror := (hreport (.missingElement "UpperCorner")).2 (by rw [hfaults]; rfl)
  refine ⟨root, hroot, hfaults, fun hdocument => ?_, herror⟩
  obtain ⟨c, hc⟩ := haccept.2 hdocument
  cases hc.symm.trans herror

end WmtsCapabilities

end MapServices
