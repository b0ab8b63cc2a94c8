import MapServices.Capabilities.Basic
import MapServices.Proofs.Failure

/-!
# Faults of capabilities documents

Once a document has a tree whose root is of the right kind, its reading can only fail at an element
inside the root: one that must be there and is not, or one that holds something unreadable.

* `DocumentError.IsOfElement` says which errors are of that sort.
* `ServiceCapabilities.FailsAt` says where, and `FailsAt.isOfElement` that this is of that sort.
* `ServiceCapabilities.cases_of_read_error`: a document has no tree, has another root, or fails
  there.
-/

namespace MapServices

open Failure (OnlyFailsAs)
open Xml (Element)

namespace DocumentError

/-- The error is that of an element inside the root: it is missing, or what it holds cannot be
read. -/
def IsOfElement : DocumentError → Prop
  | .missingElement name => name ≠ "root element"
  | .invalidNumber .. | .unreadableBox .. | .setWithoutCrs .. | .setWithoutMatrices .. => True
  | .malformed .. | .unexpectedRoot .. | .unknownSet .. | .layerNotFound .. => False

instance (error : DocumentError) : Decidable error.IsOfElement := by
  cases error <;> unfold IsOfElement <;> infer_instance

end DocumentError

/-! ## Parts of documents -/

open DocumentError (IsOfElement)

namespace Xml.Element

variable {e : Element} {name value : String}

theorem onlyFailsAs_readNumber : OnlyFailsAs IsOfElement (readNumber name value) := by
  unfold readNumber
  split
  · exact .ok _
  · exact .error trivial

theorem onlyFailsAs_requiredText (h : name ≠ "root element") :
    OnlyFailsAs IsOfElement (e.requiredText name) := by
  unfold requiredText
  split
  · exact .ok _
  · exact .error h

theorem onlyFailsAs_requiredNumber (h : name ≠ "root element") :
    OnlyFailsAs IsOfElement (e.requiredNumber name) :=
  (onlyFailsAs_requiredText h).bind fun _ => onlyFailsAs_readNumber

theorem onlyFailsAs_childNumber? : OnlyFailsAs IsOfElement (e.childNumber? name) := by
  unfold childNumber?
  cases e.childText? name with
  | none => exact .ok _
  | some text => exact onlyFailsAs_readNumber.map some

end Xml.Element

open Xml.Element

namespace WmsLayer

theorem onlyFailsAs_hintBound? (hint : Element) (name : String) :
    OnlyFailsAs IsOfElement (hintBound? hint name) := by
  unfold hintBound?
  cases hint.attribute? name with
  | none => exact .ok _
  | some value => exact (onlyFailsAs_readNumber.map some).bind fun _ => .ok _

theorem onlyFailsAs_ownScales (e : Element) : OnlyFailsAs IsOfElement (ownScales e) := by
  refine onlyFailsAs_childNumber?.bind fun least? =>
    onlyFailsAs_childNumber?.bind fun greatest? => ?_
  split
  · exact .ok _
  · split
    · exact .ok _
    · exact (onlyFailsAs_hintBound? _ _).bind fun _ =>
        (onlyFailsAs_hintBound? _ _).bind fun _ => .ok _

theorem onlyFailsAs_geographicBox (e : Element) : OnlyFailsAs IsOfElement (geographicBox e) :=
  (onlyFailsAs_requiredNumber (by decide)).bind fun _ =>
  (onlyFailsAs_requiredNumber (by decide)).bind fun _ =>
  (onlyFailsAs_requiredNumber (by decide)).bind fun _ =>
  (onlyFailsAs_requiredNumber (by decide)).bind fun _ => .ok _

theorem onlyFailsAs_latLonBox (e : Element) : OnlyFailsAs IsOfElement (latLonBox e) := by
  have hcoordinate : ∀ name, OnlyFailsAs IsOfElement (latLonBox.coordinate e name) := by
    intro name
    unfold latLonBox.coordinate
    split
    · exact onlyFailsAs_readNumber
    · exact .error (by decide)
  exact (hcoordinate _).bind fun _ => (hcoordinate _).bind fun _ => (hcoordinate _).bind fun _ =>
    (hcoordinate _).bind fun _ => .ok _

theorem onlyFailsAs_ownBox (e : Element) : OnlyFailsAs IsOfElement (ownBox e) := by
  unfold ownBox
  split
  · exact (onlyFailsAs_geographicBox _).map some
  · exact (onlyFailsAs_latLonBox _).map some
  · exact .ok _

end WmsLayer

namespace WmtsLayer

theorem onlyFailsAs_readBox? (identifier : String) (e : Element) :
    OnlyFailsAs IsOfElement (readBox? identifier e) := by
  unfold readBox?
  split
  · exact .ok _
  · refine (onlyFailsAs_requiredText (by decide)).bind fun lower =>
      (onlyFailsAs_requiredText (by decide)).bind fun upper => .map _ ?_
    intro error h
    obtain ⟨fault, -, rfl⟩ := Failure.mapError_eq_error.1 h
    trivial

theorem onlyFailsAs_ofElement (e : Element) : OnlyFailsAs IsOfElement (ofElement e) := by
  unfold ofElement
  split
  · exact .error (by decide)
  · exact (onlyFailsAs_readBox? _ e).bind fun _ => .ok _

end WmtsLayer

namespace TileMatrix

theorem onlyFailsAs_readCount (e : Element) {name : String} (h : name ≠ "root element") :
    OnlyFailsAs IsOfElement (readCount e name) := by
  refine (onlyFailsAs_requiredText h).bind fun value => ?_
  split
  · exact .ok _
  · exact .error trivial

theorem onlyFailsAs_readTopLeft (e : Element) : OnlyFailsAs IsOfElement (readTopLeft e) := by
  refine (onlyFailsAs_requiredText (by decide)).bind fun corner => ?_
  split
  · exact onlyFailsAs_readNumber.bind fun _ => onlyFailsAs_readNumber.bind fun _ => .ok _
  · exact .error trivial

theorem onlyFailsAs_ofElement (e : Element) : OnlyFailsAs IsOfElement (ofElement e) :=
  (onlyFailsAs_readTopLeft e).bind fun _ =>
  (onlyFailsAs_requiredText (by decide)).bind fun _ =>
  (onlyFailsAs_requiredNumber (by decide)).bind fun _ =>
  (onlyFailsAs_readCount e (by decide)).bind fun _ =>
  (onlyFailsAs_readCount e (by decide)).bind fun _ =>
  (onlyFailsAs_readCount e (by decide)).bind fun _ =>
  (onlyFailsAs_readCount e (by decide)).bind fun _ => .ok _

end TileMatrix

theorem TileMatrixSet.onlyFailsAs_ofElement (e : Element) :
    OnlyFailsAs IsOfElement (ofElement e) := by
  unfold ofElement
  split
  · exact .error (by decide)
  · split
    · exact .error trivial
    · refine (OnlyFailsAs.mapM TileMatrix.onlyFailsAs_ofElement _).bind fun matrices => ?_
      split
      · exact .error trivial
      · exact .ok _

/-! ## Whole documents -/

namespace ServiceCapabilities

/-- Where the reading of a tree with the right root fails: at the element that holds everything, or
at a layer or a tile matrix set in it. -/
def FailsAt (root : Element) (error : DocumentError) : ServiceType → Prop
  | .wms => root.child? "Capability" = none ∧ error = .missingElement "Capability"
  | .wmts =>
    (root.child? "Contents" = none ∧ error = .missingElement "Contents") ∨
      ∃ contents, root.child? "Contents" = some contents ∧
        ((∃ e ∈ contents.childrenNamed "Layer", WmtsLayer.ofElement e = .error error) ∨
          ∃ e ∈ contents.childrenNamed "TileMatrixSet", TileMatrixSet.ofElement e = .error error)
  | .wfs => False

theorem FailsAt.isOfElement {root : Element} {error : DocumentError} {serviceType : ServiceType}
    (h : FailsAt root error serviceType) : error.IsOfElement := by
  cases serviceType with
  | wms =>
    obtain ⟨-, rfl⟩ := h
    decide
  | wmts =>
    rcases h with ⟨-, rfl⟩ | ⟨contents, -, ⟨e, -, h⟩ | ⟨e, -, h⟩⟩
    · decide
    · exact WmtsLayer.onlyFailsAs_ofElement e error h
    · exact TileMatrixSet.onlyFailsAs_ofElement e error h
  | wfs => cases h

/-- The names of the root elements that the reader of a service takes. -/
def rootNames : ServiceType → List String
  | .wms => WmsCapabilities.rootNames
  | .wmts => [WmtsCapabilities.rootName]
  | .wfs => []

theorem wms_ofElement_eq_error {root : Element} {error : DocumentError}
    (h : WmsCapabilities.ofElement root = .error error)
    (hname : root.name ∈ WmsCapabilities.rootNames) : FailsAt root error .wms := by
  rw [WmsCapabilities.ofElement, if_pos hname] at h
  split at h
  · rename_i hmissing
    cases h
    exact ⟨hmissing, rfl⟩
  · cases h

theorem wmts_ofElement_eq_error {root : Element} {error : DocumentError}
    (h : WmtsCapabilities.ofElement root = .error error)
    (hname : root.name = WmtsCapabilities.rootName) : FailsAt root error .wmts := by
  rw [WmtsCapabilities.ofElement, if_pos hname] at h
  split at h
  · rename_i hmissing
    cases h
    exact .inl ⟨hmissing, rfl⟩
  · rename_i contents hcontents
    refine .inr ⟨contents, hcontents, ?_⟩
    rcases Failure.bind_eq_error.1 h with h | ⟨layers, -, h⟩
    · exact .inl (Failure.exists_of_mapM_eq_error h)
    rcases Failure.bind_eq_error.1 h with h | ⟨sets, -, h⟩
    · exact .inr (Failure.exists_of_mapM_eq_error h)
    · cases h

/-- A document fails to be read because it has no tree, because its root is of another kind, or at
an element inside. -/
theorem cases_of_read_error {serviceType : ServiceType} {xml : String} {error : DocumentError}
    (h : read serviceType xml = .error error) :
    (∃ fault, Element.ofString xml = .error fault ∧ error = .ofTreeError fault) ∨
      ∃ root, Element.ofString xml = .ok root ∧
        (root.name ∈ rootNames serviceType → FailsAt root error serviceType) := by
  have htree : ∀ {α : Type} {f : Element → Except DocumentError α},
      (Element.ofDocument xml >>= f) = .error error →
      (∃ fault, Element.ofString xml = .error fault ∧ error = .ofTreeError fault) ∨
        ∃ root, Element.ofString xml = .ok root ∧ f root = .error error := by
    intro α f h
    rcases Failure.bind_eq_error.1 h with h | ⟨root, hroot, h⟩
    · exact .inl (Failure.mapError_eq_error.1 h)
    · exact .inr ⟨root, Failure.mapError_eq_ok.1 hroot, h⟩
  cases serviceType with
  | wms =>
    refine (htree (Failure.map_eq_error.1 h)).imp_right ?_
    rintro ⟨root, hroot, h⟩
    exact ⟨root, hroot, wms_ofElement_eq_error h⟩
  | wmts =>
    refine (htree (Failure.map_eq_error.1 h)).imp_right ?_
    rintro ⟨root, hroot, h⟩
    exact ⟨root, hroot, fun hname => wmts_ofElement_eq_error h (List.mem_singleton.1 hname)⟩
  | wfs => cases h

end ServiceCapabilities

end MapServices
