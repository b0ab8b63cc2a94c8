import MapServices.Proofs.Capabilities.TileFrame
import MapServices.Proofs.Refresh.Single

/-!
# Boxes in the document of a group of tile layers

A refresh reads the document of a group before it turns to the layers of the group. If the box of
one layer element cannot be read, then no layer of the group is updated, whichever element describes
it. But as long as a box can be read, what it says makes no difference to the layers that are found
elsewhere.

* `RefreshJob.skipped_run`: a refresh is skipped just if another one is under way.
* `RefreshJob.get?_run_of_fill`: what becomes of a layer when the box of one element is replaced.
-/

namespace MapServices

open Xml (Element)

namespace RefreshJob

variable {job job' : RefreshJob} {layers : List Layer} {l : Layer} {root : Element}

/-! ## Skipped refreshes -/

theorem skipped_updateLayers (c : ServiceCapabilities) (readAt : Instant) (layers : List Layer)
    (s : RefreshSummary) (w : World) :
    (updateLayers c readAt layers s w).1.skipped = s.skipped := by
  induction layers generalizing s w with
  | nil => rfl
  | cons l rest ih =>
    rw [updateLayers, ih, updateLayer]
    split <;> rfl

theorem skipped_refreshGroup (job : RefreshJob) (g : LayerGroup) (s : RefreshSummary) (w : World) :
    (job.refreshGroup g s w).1.skipped = s.skipped := by
  rw [refreshGroup, afterRequest]
  rcases (w.send g.request).receive job.source g.request with ⟨e | fetched, w⟩
  · rfl
  · rw [afterAnswer, afterDocument]
    split
    · rfl
    · exact skipped_updateLayers ..

theorem skipped_refreshGroups (job : RefreshJob) (groups : List LayerGroup) (s : RefreshSummary)
    (w : World) : (job.refreshGroups groups s w).1.skipped = s.skipped := by
  induction groups generalizing s w with
  | nil => rfl
  | cons g rest ih => rw [refreshGroups, ih, skipped_refreshGroup]

/-- A refresh is skipped just if another one is under way. -/
theorem skipped_run (job : RefreshJob) (w : World) : (job.run w).1.skipped = w.refreshing := by
  unfold run
  cases w.refreshing with
  | true => rfl
  | false =>
    simp only [Bool.false_eq_true, if_false, afterStart]
    split
    · rfl
    · exact skipped_refreshGroups ..

/-! ## The document of a group -/

/-- The document that is fetched for the group of a layer has the given tree. -/
def Serves (job : RefreshJob) (layers : List Layer) (l : Layer) (root : Element) : Prop :=
  ∃ fetched, (job.source (requestFor layers (.ofLayer l))).result = .ok fetched ∧
    Element.ofDocument fetched.data = .ok root

/-- A tile layer is settled by what is read in the tree of the document of its group. -/
theorem Serves.documentFor (h : job.Serves layers l root) (htype : l.serviceType = .wmts) :
    job.documentFor layers (.ofLayer l) =
      (ServiceCapabilities.tiles <$> WmtsCapabilities.ofElement root).mapError
        DocumentError.toServiceError := by
  obtain ⟨fetched, hfetched, htree⟩ := h
  have hkey : (ServiceKey.ofLayer l).serviceType = .wmts := htype
  have hread : WmtsCapabilities.read fetched.data = WmtsCapabilities.ofElement root := by
    rw [WmtsCapabilities.read, htree]
    rfl
  rw [RefreshJob.documentFor, hfetched]
  simp only [hkey, ServiceCapabilities.read, hread]

/-- A layer whose document cannot be read is left alone. -/
theorem Serves.refreshedLayer_of_error (h : job.Serves layers l root)
    (htype : l.serviceType = .wmts) {e : DocumentError}
    (hroot : WmtsCapabilities.ofElement root = .error e) (failing : List Int) (now : Instant) :
    job.refreshedLayer layers failing now l = l := by
  rw [refreshedLayer, h.documentFor htype, hroot, htype]
  rfl

theorem Serves.refreshedLayer_of_ok (h : job.Serves layers l root) (htype : l.serviceType = .wmts)
    {c : WmtsCapabilities} (hroot : WmtsCapabilities.ofElement root = .ok c) (failing : List Int)
    (now : Instant) : job.refreshedLayer layers failing now l =
      (ServiceCapabilities.tiles c).refreshedLayer failing now l := by
  rw [refreshedLayer, h.documentFor htype, hroot, htype]
  rfl

/-- Two documents that give a layer the same properties make the same of it. -/
theorem refreshedLayer_tiles_congr {c c' : WmtsCapabilities} (h : c'.patch l = c.patch l)
    (failing : List Int) (now : Instant) :
    (ServiceCapabilities.tiles c').refreshedLayer failing now l =
      (ServiceCapabilities.tiles c).refreshedLayer failing now l := by
  simp only [ServiceCapabilities.refreshedLayer, ServiceCapabilities.derived?,
    ServiceCapabilities.patch?, h]

variable {w : World} {f : TileFrame} {x y : Element}

/-- Let the box of one layer element be replaced in the document of a group of tile layers. If the
new box cannot be read, the group is without a document and each layer of it stays as it was. If
both boxes can be read, or none of them, then a layer that is found elsewhere is settled as before.
-/
theorem get?_run_of_fill (hfree : w.refreshing = false) (hload : w.layers.all = .ok layers)
    (hl : l ∈ layers) (htype : l.serviceType = .wmts) (hx : x.name = "Layer")
    (hxy : x.AgreesBut ["WGS84BoundingBox"] y) (hserves : job.Serves layers l (f.fill x))
    (hserves' : job'.Serves layers l (f.fill y)) :
    (¬ WmtsLayer.HasReadableBox y →
      (job'.documentFor layers (.ofLayer l)).isOk = false ∧
        (job'.run w).2.layers.get? l.id = some l) ∧
    ((WmtsLayer.HasReadableBox x ↔ WmtsLayer.HasReadableBox y) → f.FindsElsewhere x l.name →
      (job'.run w).2.layers.get? l.id = (job.run w).2.layers.get? l.id) := by
  have hy : y.name = "Layer" := hxy.name.trans hx
  have hgroup : l.serviceType.refreshesInGroups := by rw [htype]; rfl
  have hrun : ∀ job : RefreshJob, (job.run w).1.skipped = false := fun job =>
    (skipped_run job w).trans hfree
  rw [get?_run job (hrun job) hload hl hgroup, get?_run job' (hrun job') hload hl hgroup]
  refine ⟨fun hunreadable => ?_, fun hsame helsewhere => ?_⟩
  · obtain ⟨e, he⟩ := TileFrame.exists_error_of_fill (f := f) hy hunreadable
    rw [hserves'.refreshedLayer_of_error htype he, hserves'.documentFor htype, he]
    exact ⟨rfl, rfl⟩
  · refine congrArg some ?_
    by_cases hreadable : WmtsLayer.HasReadableBox y
    · cases hread : WmtsCapabilities.ofElement (f.fill x) with
      | ok c =>
        obtain ⟨c', hread', hpatch⟩ := TileFrame.patch_eq_of_fill hx hxy hreadable hread
        rw [hserves.refreshedLayer_of_ok htype hread, hserves'.refreshedLayer_of_ok htype hread',
          refreshedLayer_tiles_congr (hpatch l helsewhere)]
      | error e =>
        -- what is wrong with the document is not the box
        cases hread' : WmtsCapabilities.ofElement (f.fill y) with
        | ok c' =>
          obtain ⟨c, hc, -⟩ :=
            TileFrame.patch_eq_of_fill hy hxy.symm (hsame.2 hreadable) hread'
          cases hread.symm.trans hc
        | error e' =>
          rw [hserves.refreshedLayer_of_error htype hread,
            hserves'.refreshedLayer_of_error htype hread']
    · obtain ⟨e, he⟩ := TileFrame.exists_error_of_fill (f := f) hy hreadable
      obtain ⟨e', he'⟩ := TileFrame.exists_error_of_fill (f := f) hx (mt hsame.1 hreadable)
      rw [hserves.refreshedLayer_of_error htype he', hserves'.refreshedLayer_of_error htype he]

def roadTiles : Layer := { id := 1, name := "a", url := "tiles", serviceType := .wmts }

def railTiles : Layer := { id := 2, name := "b", url := "tiles", serviceType := .wmts }

def tileWorld : World := { layers := LayerStore.ofList [roadTiles, railTiles], now := ⟨60, 0⟩ }

/-- A document in which the box of the first layer has the given content. -/
def tileDocument (content : String) : String :=
  "<Capabilities><Contents><Layer><Identifier>a</Identifier><WGS84BoundingBox>" ++ content ++
    "</WGS84BoundingBox></Layer><Layer><Identifier>b</Identifier></Layer></Contents></Capabilities>"

def tileJob (content : String) : RefreshJob where
  source request := {
    result := .ok { url := request.address, encoding := "UTF-8", data := tileDocument content } }

def corners : String := "<LowerCorner>2 6</LowerCorner><UpperCorner>3 7</UpperCorner>"

/-- The document without the first layer. -/
def tileFrame : TileFrame where
  back := [{ name := "Layer", children := [{ name := "Identifier", text := "b" }] }]

/-- The first layer with a box of the given content. -/
def boxedElement (content : List Element) : Element where
  name := "Layer"
  children := [{ name := "Identifier", text := "a" },
    { name := "WGS84BoundingBox", children := content }]

/-- The second layer is updated while the box of the first one can be read, and not otherwise. -/
theorem get?_run_of_fill_tiles :
    (((tileJob corners).run tileWorld).2.layers.get? 2).map Layer.lastUpdated =
        some (some ⟨60, 0⟩) ∧
      ((tileJob "").documentFor [roadTiles, railTiles] (.ofLayer railTiles)).isOk = false ∧
      ((tileJob "").run tileWorld).2.layers.get? 2 = some railTiles := by
  let sound := boxedElement
    [{ name := "LowerCorner", text := "2 6" }, { name := "UpperCorner", text := "3 7" }]
  let spoiled := boxedElement []
  have htree : Element.ofDocument (tileDocument corners) = .ok (tileFrame.fill sound) := by
    decide +kernel
  have htree' : Element.ofDocument (tileDocument "") = .ok (tileFrame.fill spoiled) := by
    decide +kernel
  have hload : tileWorld.layers.all = .ok [roadTiles, railTiles] := rfl
  have hlisted : railTiles ∈ [roadTiles, railTiles] := .tail _ (.head _)
  have hserves : (tileJob corners).Serves [roadTiles, railTiles] railTiles (tileFrame.fill sound) :=
    ⟨_, rfl, htree⟩
  have hserves' : (tileJob "").Serves [roadTiles, railTiles] railTiles (tileFrame.fill spoiled) :=
    ⟨_, rfl, htree'⟩
  have hagrees : sound.AgreesBut ["WGS84BoundingBox"] spoiled := ⟨rfl, rfl, rfl, rfl⟩
  have hunreadable : ¬ WmtsLayer.HasReadableBox spoiled := by
    rintro ⟨box, hbox⟩
    cases hbox
  obtain ⟨hspoiled, -⟩ := get?_run_of_fill rfl hload hlisted rfl rfl hagrees hserves hserves'
  refine ⟨?_, hspoiled hunreadable⟩
  have hupdated : (WmtsCapabilities.ofElement (tileFrame.fill sound)).toOption.map (fun c =>
      ((ServiceCapabilities.tiles c).refreshedLayer [] ⟨60, 0⟩ railTiles).lastUpdated) =
        some (some ⟨60, 0⟩) := by
    decide +kernel
  obtain ⟨c, hc, hupdated⟩ := Option.map_eq_some_iff.1 hupdated
  have hrun : ((tileJob corners).run tileWorld).1.skipped = false := by
    rw [skipped_run]
    rfl
  have hget := get?_run (tileJob corners) hrun hload hlisted rfl
  have hid : railTiles.id = 2 := rfl
  have hfailing : tileWorld.layers.failing = [] := rfl
  have hnow : tileWorld.now = ⟨60, 0⟩ := rfl
  rw [hserves.refreshedLayer_of_ok rfl (Failure.toOption_eq_some.1 hc), hid, hfailing, hnow] at hget
  rw [hget, Option.map_some, hupdated]

end RefreshJob

end MapServices
