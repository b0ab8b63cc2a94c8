import MapServices.Proofs.Capabilities.Fault
import MapServices.Proofs.Response.Check
import MapServices.Proofs.Xml.Tree

/-!
# The root of an accepted document

The check of an answer and the reader of its document look at the same root element: the one whose
tag comes first. The check stops at that tag, and the reader goes on, so it may still find that the
document is not well formed, or that something is missing inside the root.

* `accepted_root`: how reading an accepted document can fail.
-/

namespace MapServices.Response

open Xml (Element Event Reader Reading Tag)

variable {serviceType : ServiceType} {version : Option String} {root : Root}

theorem firstTag?_eq (events : List Event) : firstTag? events = events.findSome? Event.tag? := rfl

theorem name_ofTag {tag : Tag} (h : Root.ofTag tag = .ok root) :
    root.name = String.ofList tag.localName := by
  unfold Root.ofTag at h
  split at h <;> cases h
  rfl

/-- A root that belongs to a map or tile service has a name that the reader of the service takes. -/
theorem name_mem_rootNames (h : accepts serviceType version root) (hne : serviceType ≠ .wfs) :
    root.name ∈ ServiceCapabilities.rootNames serviceType := by
  obtain ⟨expected, hexpected, hmet⟩ := List.any_eq_true.1 h
  have hname : root.name = expected.name := by
    unfold ExpectedRoot.isMetBy at hmet
    rw [Bool.and_eq_true, beq_iff_eq] at hmet
    exact hmet.1
  have hall : ∀ e ∈ expectedRoots serviceType version,
      e.name ∈ ServiceCapabilities.rootNames serviceType := by
    unfold expectedRoots
    split
    · decide
    · decide
    · decide
    · exact absurd rfl hne
    · decide
  rw [hname]
  exact hall expected hexpected

/-- A document whose check found a root has a tag that comes first. -/
theorem exists_atRoot_of_checkRoot {data : List Char}
    (h : checkRoot serviceType version data = .ok ()) :
    ∃ start event tag inside, (Reader.ofChars data).AtRoot start event tag inside ∧
      ∃ root, Root.ofTag tag = .ok root ∧ accepts serviceType version root := by
  obtain ⟨root, hroot, haccepts⟩ := checkRoot_eq_ok_iff.1 h
  obtain ⟨tag, htag, hroot⟩ := ofChars_eq_ok_iff.1 hroot
  rw [firstTag?_eq] at htag
  have hopened : (Reader.ofChars data).opened = [] := by
    cases data <;> rfl
  obtain ⟨start, event, inside, hstart⟩ := Reader.exists_atRoot hopened htag
  exact ⟨start, event, tag, inside, hstart, root, hroot, haccepts⟩

/-- An accepted document has a root that belongs to what was asked for. If it cannot be read, then
because it is not well formed from the start tag of the root on, or because of an element inside the
root. -/
theorem accepted_root {r : Response} {indexes : Encoding.Indexes} {body : CheckedBody}
    (h : (r.check serviceType version indexes).1 = .ok body) :
    ∃ start event tag inside,
      (Reader.ofChars body.data.toList).AtRoot start event tag inside ∧
      (∃ root, Root.ofTag tag = .ok root ∧ accepts serviceType version root) ∧
      ∀ error, ServiceCapabilities.read serviceType body.data = .error error →
        error ≠ .missingElement "root element" ∧
        (∀ expected actual, error ≠ .unexpectedRoot expected actual) ∧
        ((∃ fault, error = .malformed fault ∧ Element.ofReading start.readAll = .error fault ∧
            ∀ f, fault = .unreadable f → inside.offset ≤ f.position) ∨
          ∃ root, Element.ofString body.data = .ok root ∧
            root.name = String.ofList tag.localName ∧
            ServiceCapabilities.FailsAt root error serviceType) := by
  obtain ⟨-, e, -, hroot, rfl⟩ := check_eq_ok_iff.1 h
  generalize stripDeclaration (e.decode indexes r.body).text = data at hroot ⊢
  obtain ⟨start, event, tag, inside, hstart, hbelongs⟩ := exists_atRoot_of_checkRoot hroot
  have htree : Element.ofString (String.ofList data) =
      Element.ofReading ⟨event :: inside.readAll.events, inside.readAll.failure?⟩ := by
    rw [Element.ofString, String.toList_ofList, Element.ofChars_of_atRoot hstart]
  refine ⟨start, event, tag, inside, ?_, hbelongs, fun error herror => ?_⟩
  · rwa [String.toList_ofList]
  rcases ServiceCapabilities.cases_of_read_error herror with
    ⟨fault, hfault, rfl⟩ | ⟨root, htreeOk, hfails⟩
  · -- no tree: the reader went wrong after the first tag
    rw [htree] at hfault
    have hmalformed : DocumentError.ofTreeError fault = .malformed fault := by
      cases fault with
      | noRoot => exact absurd hfault (Element.ofReading_ne_noRoot hstart.tag)
      | _ => rfl
    rw [hmalformed]
    refine ⟨nofun, nofun, .inl ⟨fault, rfl, ?_, ?_⟩⟩
    · rw [hstart.readAll_eq, hfault]
    · rintro f rfl
      exact Reader.offset_le_of_readAll (Element.failure?_of_ofReading_unreadable hfault)
  · -- a tree: its root was checked, and what is wrong stands inside
    have hname : root.name = String.ofList tag.localName := by
      rw [htree] at htreeOk
      exact Element.name_of_ofReading hstart.tag htreeOk
    have hne : serviceType ≠ .wfs := by
      rintro rfl
      cases herror
    obtain ⟨checked, hchecked, haccepts⟩ := hbelongs
    have hat := hfails (by
      rw [hname, ← name_ofTag hchecked]
      exact name_mem_rootNames haccepts hne)
    have hinside := hat.isOfElement
    refine ⟨?_, ?_, .inr ⟨root, htreeOk, hname, hat⟩⟩
    · rintro rfl
      exact hinside rfl
    · rintro expected actual rfl
      exact hinside

/-- A map service without layers, whose root ends with its start tag. -/
def emptyDocument : String :=
  "a &b; c<!-- <d> --><w:WMS_Capabilities xmlns:w='http://www.opengis.net/wms'/>"

/-- An answer with that document. -/
def emptyAnswer : Response where
  status := 200
  contentType := some "text/xml"
  body := Utf8.encode ("<?xml version='1.0'?>" ++ emptyDocument).toList

/-- What stands before the root does no harm, and the root is found to be empty. -/
theorem accepted_root_empty :
    (emptyAnswer.check .wms none).1 = .ok ⟨"UTF-8", emptyDocument⟩ ∧
      ServiceCapabilities.read .wms emptyDocument = .error (.missingElement "Capability") ∧
      ∃ start event tag inside root,
        (Reader.ofChars emptyDocument.toList).AtRoot start event tag inside ∧
        Element.ofString emptyDocument = .ok root ∧ root.name = String.ofList tag.localName ∧
        root.child? "Capability" = none := by
  have hcheck : (emptyAnswer.check .wms none).1 = .ok ⟨"UTF-8", emptyDocument⟩ :=
    Failure.toOption_eq_some.1 (by decide +kernel)
  have hread : ServiceCapabilities.read .wms emptyDocument =
      .error (.missingElement "Capability") := Failure.error?_eq_some.1 (by decide +kernel)
  obtain ⟨start, event, tag, inside, hstart, -, hfails⟩ := accepted_root hcheck
  obtain ⟨-, -, ⟨fault, h, -⟩ | ⟨root, hroot, hname, hmissing, -⟩⟩ := hfails _ hread
  · cases h
  · exact ⟨hcheck, hread, start, event, tag, inside, root, hstart, hroot, hname, hmissing⟩

end MapServices.Response
