import MapServices.Document
import MapServices.Proofs.Text.Blank

/-!
# Keys that stay as they are

* `CapabilitiesDocument.key_ofKey`: a document is saved under the key for which it was made, if the
  endpoint of the key is in its one spelling.
-/

namespace MapServices

theorem normalizeVersion_normalizeVersion (version : Option String) :
    normalizeVersion (normalizeVersion version) = normalizeVersion version := by
  cases version with
  | none => rfl
  | some v =>
    simp only [normalizeVersion, Option.bind_some]
    cases h : Text.nonBlank? v with
    | none => rfl
    | some v' => rw [Option.bind_some, Text.nonBlank?_of_nonBlank? h]

/-- The endpoint of the key is in its one spelling. -/
def ServiceKey.IsStable (k : ServiceKey) : Prop := Endpoint.simplify k.url = k.url

/-- The parts of a key make the key again just if its endpoint is in its one spelling. -/
theorem ServiceKey.ofParts_eq_iff {k : ServiceKey}
    (hversion : normalizeVersion k.version = k.version) :
    ofParts k.url k.serviceType k.version = k ↔ k.IsStable := by
  obtain ⟨url, serviceType, version⟩ := k
  have hversion' : normalizeVersion version = version := hversion
  rw [ofParts, hversion', IsStable, ServiceKey.mk.injEq]
  exact and_iff_left ⟨rfl, rfl⟩

theorem CapabilitiesDocument.key_ofKey_iff {k : ServiceKey}
    (hversion : normalizeVersion k.version = k.version) (data : String) (now : Instant) :
    (CapabilitiesDocument.ofKey k data now).key = k ↔ k.IsStable := by
  rw [← ServiceKey.ofParts_eq_iff hversion, key, ofKey, hversion]

theorem CapabilitiesDocument.key_ofKey {k : ServiceKey} (hurl : k.IsStable)
    (hversion : normalizeVersion k.version = k.version) (data : String) (now : Instant) :
    (CapabilitiesDocument.ofKey k data now).key = k :=
  (key_ofKey_iff hversion data now).2 hurl

theorem ServiceKey.normalizeVersion_ofParts (url : String) (t : ServiceType)
    (version : Option String) :
    normalizeVersion (ServiceKey.ofParts url t version).version =
      (ServiceKey.ofParts url t version).version := by
  unfold ServiceKey.ofParts
  rw [normalizeVersion_normalizeVersion]

end MapServices
