import MapServices.Database.Layers
import MapServices.Proofs.Failure
import MapServices.Proofs.Layer.Json
import MapServices.Proofs.Refresh.Outcome

/-!
# Derived properties in the table of layers

A row keeps derived properties as text. Writing them as text and reading the text loses nothing of
the stored data, but the stored data may have lost a scale already, and reading them may change one.

* `LayerRow.reloaded_write`: the text of a row that was written is read as what was written.
* `LayerRow.stored_patch_iff`: when the properties that a document gives a layer are found again.
-/

namespace MapServices

namespace LayerRow

/-- The row as the database gives it back, when the stored data have been a text meanwhile. -/
def reloaded (r : LayerRow) : LayerRow :=
  { r with capabilities := r.capabilities.bind fun stored => Json.parse? stored.print }

theorem reloaded_write (r : LayerRow) (l : Layer) : (r.write l).reloaded = r.write l := by
  simp [reloaded, write, Json.parse?_print l.capabilities.isWritten_toJson]

/-- What is read from a row that was written: all properties as they were but the scales, or none
if a scale cannot be read. -/
theorem readCapabilities_write (r : LayerRow) (l : Layer) (id : Int) :
    (r.write l).readCapabilities id =
      match Json.reread l.capabilities.minScale, Json.reread l.capabilities.maxScale with
      | some minScale, some maxScale => ({ l.capabilities with minScale, maxScale }, [])
      | _, _ => ({}, [.unreadableCapabilities id]) := by
  simp only [readCapabilities, write, LayerCapabilities.ofJson?_toJson]
  cases Json.reread l.capabilities.minScale with
  | none => rfl
  | some minScale =>
    cases Json.reread l.capabilities.maxScale with
    | none => rfl
    | some maxScale => rfl

theorem readCapabilities_write_eq_iff (r : LayerRow) (l : Layer) (id : Int) :
    ((r.write l).readCapabilities id).1 = l.capabilities ↔ l.capabilities.KeepsScales := by
  rw [← LayerCapabilities.ofJson?_toJson_eq_some_iff]
  simp only [readCapabilities, write]
  cases hread : LayerCapabilities.ofJson? l.capabilities.toJson with
  | some c => simp
  | none =>
    -- properties without scales are always read
    simp only [reduceCtorEq, iff_false]
    intro hempty
    rw [← hempty] at hread
    cases hread

/-- The properties that a document gives a layer are found in its row again just if both scales are
stored and read as they are; all other properties are found again in any case, unless a scale cannot
be read. A scale that is not finite is not found again. -/
theorem stored_patch_iff {serviceType : ServiceType} {xml : String} {l : Layer}
    {patch : LayerPatch}
    (hpatch : ((ServiceCapabilities.read serviceType xml).bind fun c => (c.patch? l).1) =
      .ok (some patch)) (row : LayerRow) (now : Instant) :
    ∃ updated, l.withPatch patch now = .ok updated ∧
      (((row.write updated).reloaded.readCapabilities l.id).1 = patch.capabilities ↔
        patch.capabilities.KeepsScales) ∧
      ((row.write updated).reloaded.readCapabilities l.id =
        match Json.reread patch.capabilities.minScale, Json.reread patch.capabilities.maxScale with
        | some minScale, some maxScale => ({ patch.capabilities with minScale, maxScale }, [])
        | _, _ => ({}, [.unreadableCapabilities l.id])) ∧
      (patch.capabilities.KeepsScales →
        ∀ x, x ∈ patch.capabilities.minScale ∨ x ∈ patch.capabilities.maxScale → x.isFinite) := by
  obtain ⟨c, -, hc⟩ := Failure.bind_eq_ok.1 hpatch
  have hid : patch.layerId = l.id := ServiceCapabilities.layerId_of_patch? hc
  refine ⟨_, if_pos hid, ?_, ?_, ?_⟩
  · rw [reloaded_write]
    exact readCapabilities_write_eq_iff row _ l.id
  · rw [reloaded_write]
    exact readCapabilities_write row _ l.id
  · intro hkeeps x hx
    by_contra hfinite
    have hlost := Json.not_keeps_of_not_isFinite (Bool.eq_false_iff.2 hfinite)
    rcases hx with hx | hx
    · exact hlost (hkeeps.minScale x hx)
    · exact hlost (hkeeps.maxScale x hx)

/-- A document in which a layer is visible from some scale on without an end. -/
def hintedDocument : String :=
  "<WMS_Capabilities><Capability><Layer><Name>roads</Name><ScaleHint min='6' max='inf'/></Layer>" ++
    "</Capability></WMS_Capabilities>"

def hintedLayer : Layer := { id := 1, name := "roads", url := "maps", serviceType := .wms }

def hintedRow : LayerRow := { layerType := "wmslayer", name := "roads", url := "maps" }

/-- One bound is found changed in its last digit, and the other one is not found at all. -/
theorem stored_patch_iff_hinted :
    ∃ patch updated,
      ((ServiceCapabilities.read .wms hintedDocument).bind fun c => (c.patch? hintedLayer).1) =
        .ok (some patch) ∧
      hintedLayer.withPatch patch ⟨0, 0⟩ = .ok updated ∧
      patch.capabilities.minScale = some 15152.288168283161 ∧
      patch.capabilities.maxScale = some Decimal.infinity ∧
      (hintedRow.write updated).reloaded.readCapabilities 1 =
        ({ patch.capabilities with minScale := some 15152.28816828316, maxScale := none }, []) ∧
      ((hintedRow.write updated).reloaded.readCapabilities 1).1 ≠ patch.capabilities := by
  have hscales : ((((ServiceCapabilities.read .wms hintedDocument).bind fun c =>
      (c.patch? hintedLayer).1).toOption.join).map fun patch =>
        (patch.capabilities.minScale, patch.capabilities.maxScale)) =
      some (some 15152.288168283161, some Decimal.infinity) := by decide +kernel
  obtain ⟨patch, hpatch, hscales⟩ := Option.map_eq_some_iff.1 hscales
  have hmin : patch.capabilities.minScale = some 15152.288168283161 := congrArg Prod.fst hscales
  have hmax : patch.capabilities.maxScale = some Decimal.infinity := congrArg Prod.snd hscales
  have hread : ((ServiceCapabilities.read .wms hintedDocument).bind fun c =>
      (c.patch? hintedLayer).1) = .ok (some patch) := by
    generalize (ServiceCapabilities.read .wms hintedDocument).bind
      (fun c => (c.patch? hintedLayer).1) = result at hpatch
    rcases result with e | _ | found <;> cases hpatch
    rfl
  obtain ⟨updated, hupdated, hiff, hstored, hfinite⟩ := stored_patch_iff hread hintedRow ⟨0, 0⟩
  have hmin' : Json.reread (some 15152.288168283161) = some (some 15152.28816828316) := by
    decide +kernel
  have hmax' : Json.reread (some Decimal.infinity) = some none := by decide +kernel
  rw [hmin, hmax, hmin', hmax'] at hstored
  refine ⟨patch, updated, hread, hupdated, hmin, hmax, hstored, fun hsame => ?_⟩
  have hinfinite : Decimal.infinity.isFinite := hfinite (hiff.1 hsame) _ (.inr hmax)
  exact absurd hinfinite (by decide +kernel)

end LayerRow

end MapServices
