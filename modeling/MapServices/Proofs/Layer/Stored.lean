import MapServices.BoundingBox
import MapServices.Document
import MapServices.Proofs.Instant.Text
import MapServices.Proofs.Layer.Json

/-!
# Stored values

Everything that is kept in stored data is read back from its text: layers with all they hold,
capabilities documents, their keys, boxes, credentials and types of services. Strings and tables may
hold anything. What must be asked for is that a number of an integer type fits 64 bits, that a time
is one of universal time, and that a double is finite and read from the digits it is written with.

* `Json.Storable`: such doubles.
* `Layer.survives`, `CapabilitiesDocument.survives`: the two records that hold all others.
* `Json.parse?_print_stored`: all stored values together.
-/

namespace MapServices

namespace Json

theorem survives_ofInstant {t : Instant} (h : t.IsUtc) : Survives ofInstant toInstant? t where
  isWritten := .text _
  read_write := by
    rw [toInstant?, ofInstant, RoundTrips.string.read_write, Option.bind_some,
      Instant.read?_print h]

/-- The number is one of 64 bits with a sign. -/
def Fits64 (n : Int) : Prop := -0x8000000000000000 ≤ n ∧ n < 0x8000000000000000

theorem survives_ofInt {n : Int} (h : Fits64 n) : Survives ofInt toInt? n where
  isWritten := isWritten_ofInt n
  read_write := integer?_toString h.1 h.2

/-- A finite double is printed with digits that read back to it. -/
def PrintsExactly (x : Float) : Prop := x.isFinite → Keeps x

instance (x : Float) : Decidable (PrintsExactly x) := inferInstanceAs (Decidable (_ → _))

/-- Doubles that are finite, and printed with digits that read back to them. -/
structure Storable (floats : List Float) : Prop where
  isFinite : ∀ x ∈ floats, x.isFinite
  printsExactly : ∀ x ∈ floats, PrintsExactly x

theorem Storable.keeps {floats : List Float} (h : Storable floats) {x : Float} (hx : x ∈ floats) :
    Keeps x :=
  h.printsExactly x hx (h.isFinite x hx)

theorem Storable.survives {floats : List Float} (h : Storable floats) {x : Float}
    (hx : x ∈ floats) : Survives ofFloat toFloat? x where
  isWritten := isWritten_ofFloat x
  read_write := h.keeps hx

end Json

theorem ServiceType.roundTrips : Json.RoundTrips toJson ofJson? where
  isWritten t := .text t.label
  read_write t := by cases t <;> rfl

theorem Credentials.roundTrips : Json.RoundTrips toJson ofJson? where
  isWritten c := by
    refine Json.isWritten_record ?_
    simp only [List.forall_mem_cons]
    exact ⟨.text _, .text _, nofun⟩
  read_write c := by
    have hslots : c.toJson.slots? ["username", "password"] =
        some [.given (.ofString c.username), .given (.ofString c.password)] :=
      Json.slots?_record (by simp)
    simp [ofJson?, hslots, Json.Slot.required, Json.RoundTrips.string.read_write]

theorem ServiceKey.roundTrips : Json.RoundTrips toJson ofJson? where
  isWritten k := by
    refine Json.isWritten_record ?_
    simp only [List.forall_mem_cons]
    exact ⟨.text _, ServiceType.roundTrips.isWritten _, Json.roundTrips_optionalText.isWritten _,
      nofun⟩
  read_write k := by
    have hslots : k.toJson.slots? ["url", "service_type", "version"] =
        some [.given (.ofString k.url), .given k.serviceType.toJson,
          .given (.ofOption .ofString k.version)] := Json.slots?_record (by simp)
    simp [ofJson?, hslots, Json.Slot.required, Json.Slot.optional,
      ServiceType.roundTrips.read_write, Json.roundTrips_optionalText.read_write,
      Json.RoundTrips.string.read_write]

/-- The numbers of a box. -/
def BoundingBox.floats (b : BoundingBox) : List Float := [b.minX, b.minY, b.maxX, b.maxY]

theorem BoundingBox.survives {b : BoundingBox} (h : Json.Storable b.floats) :
    Json.Survives toJson ofJson? b where
  isWritten := by
    refine Json.isWritten_record ?_
    simp only [List.forall_mem_cons]
    exact ⟨Json.isWritten_ofFloat _, Json.isWritten_ofFloat _, Json.isWritten_ofFloat _,
      Json.isWritten_ofFloat _, nofun⟩
  read_write := by
    have hslots : b.toJson.slots? ["min_x", "min_y", "max_x", "max_y"] =
        some [.given (.ofFloat b.minX), .given (.ofFloat b.minY), .given (.ofFloat b.maxX),
          .given (.ofFloat b.maxY)] := Json.slots?_record (by simp)
    have hminX := (h.survives (x := b.minX) (by simp [floats])).read_write
    have hminY := (h.survives (x := b.minY) (by simp [floats])).read_write
    have hmaxX := (h.survives (x := b.maxX) (by simp [floats])).read_write
    have hmaxY := (h.survives (x := b.maxY) (by simp [floats])).read_write
    simp [ofJson?, hslots, Json.Slot.required, hminX, hminY, hmaxX, hmaxY]

/-- The scales among the derived properties. -/
def LayerCapabilities.floats (c : LayerCapabilities) : List Float :=
  c.minScale.toList ++ c.maxScale.toList

theorem LayerCapabilities.survives {c : LayerCapabilities} (h : Json.Storable c.floats) :
    Json.Survives toJson ofJson? c where
  isWritten := c.isWritten_toJson
  read_write := ofJson?_toJson_eq_some_iff.2 {
    minScale := fun x hx => h.keeps (List.mem_append_left _ (by simpa using hx))
    maxScale := fun x hx => h.keeps (List.mem_append_right _ (by simpa using hx)) }

/-- The times of a document are times of universal time, and its number fits 64 bits. -/
structure CapabilitiesDocument.IsStorable (d : CapabilitiesDocument) : Prop where
  id : ∀ n ∈ d.id, Json.Fits64 n
  createdAt : d.createdAt.IsUtc
  updatedAt : d.updatedAt.IsUtc

theorem CapabilitiesDocument.survives {d : CapabilitiesDocument} (h : d.IsStorable) :
    Json.Survives toJson ofJson? d := by
  have hid := Json.Survives.option (fun n hn => Json.survives_ofInt (h.id n hn)) rfl
  have hcreated := Json.survives_ofInstant h.createdAt
  have hupdated := Json.survives_ofInstant h.updatedAt
  constructor
  · refine Json.isWritten_record ?_
    simp only [List.forall_mem_cons]
    exact ⟨hid.isWritten, .text _, ServiceType.roundTrips.isWritten _,
      Json.roundTrips_optionalText.isWritten _, .text _, hcreated.isWritten, hupdated.isWritten,
      nofun⟩
  · have hslots : d.toJson.slots?
        ["id", "url", "service_type", "version", "data", "created_at", "updated_at"] = some [
          .given (.ofOption .ofInt d.id), .given (.ofString d.url), .given d.serviceType.toJson,
          .given (.ofOption .ofString d.version), .given (.ofString d.data),
          .given (.ofInstant d.createdAt), .given (.ofInstant d.updatedAt)] :=
      Json.slots?_record (by simp)
    simp [ofJson?, hslots, Json.Slot.required, Json.Slot.optional, hid.read_write,
      hcreated.read_write, hupdated.read_write, ServiceType.roundTrips.read_write,
      Json.roundTrips_optionalText.read_write, Json.RoundTrips.string.read_write]

/-- The scales of a layer are storable doubles, its time is one of universal time, and its number
fits 64 bits. -/
structure Layer.IsStorable (l : Layer) : Prop where
  id : Json.Fits64 l.id
  floats : Json.Storable l.capabilities.floats
  lastUpdated : ∀ t ∈ l.lastUpdated, t.IsUtc

theorem Layer.survives {l : Layer} (h : l.IsStorable) : Json.Survives toJson ofJson? l := by
  have hid := Json.survives_ofInt h.id
  have hcredentials := Credentials.roundTrips.option rfl
  have hcapabilities := LayerCapabilities.survives h.floats
  have hupdated := Json.Survives.option (fun t ht => Json.survives_ofInstant (h.lastUpdated t ht))
    rfl
  constructor
  · refine Json.isWritten_record ?_
    simp only [List.forall_mem_cons]
    exact ⟨hid.isWritten, .text _, .text _, ServiceType.roundTrips.isWritten _,
      Json.roundTrips_optionalText.isWritten _, hcredentials.isWritten _, hcapabilities.isWritten,
      hupdated.isWritten, nofun⟩
  · have hslots : l.toJson.slots? ["id", "name", "url", "service_type", "version", "credentials",
        "capabilities", "capabilities_last_updated"] = some [
          .given (.ofInt l.id), .given (.ofString l.name), .given (.ofString l.url),
          .given l.serviceType.toJson, .given (.ofOption .ofString l.version),
          .given (.ofOption Credentials.toJson l.credentials), .given l.capabilities.toJson,
          .given (.ofOption .ofInstant l.lastUpdated)] := Json.slots?_record (by simp)
    simp [ofJson?, hslots, Json.Slot.required, Json.Slot.optional, Json.Slot.orDefault,
      hid.read_write, hcredentials.read_write, hcapabilities.read_write, hupdated.read_write,
      ServiceType.roundTrips.read_write, Json.roundTrips_optionalText.read_write,
      Json.RoundTrips.string.read_write]

/-! ## All stored values -/

namespace Json

/-- Each kind of stored value is read back from its text as it was. Values with numbers are, if
their numbers are among those that the text keeps. -/
theorem parse?_print_stored :
    (∀ t : ServiceType, (parse? t.toJson.print).bind ServiceType.ofJson? = some t) ∧
    (∀ c : Credentials, (parse? c.toJson.print).bind Credentials.ofJson? = some c) ∧
    (∀ k : ServiceKey, (parse? k.toJson.print).bind ServiceKey.ofJson? = some k) ∧
    (∀ b : BoundingBox, Storable b.floats →
      (parse? b.toJson.print).bind BoundingBox.ofJson? = some b) ∧
    (∀ c : LayerCapabilities, Storable c.floats →
      (parse? c.toJson.print).bind LayerCapabilities.ofJson? = some c) ∧
    (∀ d : CapabilitiesDocument, d.IsStorable →
      (parse? d.toJson.print).bind CapabilitiesDocument.ofJson? = some d) ∧
    ∀ l : Layer, l.IsStorable → (parse? l.toJson.print).bind Layer.ofJson? = some l := by
  refine ⟨fun t => ?serviceType, fun c => ?credentials, fun k => ?key, fun b hb => ?box,
    fun c hc => ?capabilities, fun d hd => ?document, fun l hl => ?layer⟩
  case serviceType => exact (ServiceType.roundTrips.survives t).parse
  case credentials => exact (Credentials.roundTrips.survives c).parse
  case key => exact (ServiceKey.roundTrips.survives k).parse
  case box => exact (BoundingBox.survives hb).parse
  case capabilities => exact (LayerCapabilities.survives hc).parse
  case document => exact (CapabilitiesDocument.survives hd).parse
  case layer => exact (Layer.survives hl).parse

/-- A layer with quotes, control characters and letters beyond ASCII in its strings. -/
def quotedLayer : Layer where
  id := -7
  name := "a \"b\" \\ c\n\x01 ä €"
  url := "https://maps.example.com/wms?a=b"
  serviceType := .wms
  credentials := some ⟨"käyttäjä", ""⟩
  capabilities := {
    styles := [{ name := "default", title := some "\t" }]
    maxScale := some 559082264.0287178
    crs := NameSet.ofList ["EPSG:4326", "EPSG:3067"]
    geometry := some "" }
  lastUpdated := some ⟨1709164799, 120000000⟩

/-- A document with a leap second before the start of 1970. -/
def leapDocument : CapabilitiesDocument :=
  .ofKey ⟨"https://maps.example.com/wfs", .wfs, none⟩ "<a>\r\n\x22</a>" ⟨-1, 1999999999⟩

/-- A box with negative and whole numbers. -/
def northernBox : BoundingBox := ⟨-19.08, 59.45, 31.5, 70⟩

/-- The layer, the document and the box are read back as they were. -/
theorem parse?_print_stored_quoted :
    (parse? northernBox.toJson.print).bind BoundingBox.ofJson? = some northernBox ∧
      (parse? quotedLayer.capabilities.toJson.print).bind LayerCapabilities.ofJson? =
        some quotedLayer.capabilities ∧
      (parse? leapDocument.toJson.print).bind CapabilitiesDocument.ofJson? = some leapDocument ∧
      (parse? quotedLayer.toJson.print).bind Layer.ofJson? = some quotedLayer := by
  have hbox : Storable northernBox.floats := ⟨by decide +kernel, by decide +kernel⟩
  have hscales : Storable quotedLayer.capabilities.floats :=
    ⟨by decide +kernel, by decide +kernel⟩
  have htime : leapDocument.createdAt.IsUtc := ⟨by decide, .inr (by decide)⟩
  have hdocument : leapDocument.IsStorable := ⟨nofun, htime, htime⟩
  have hupdated : ∀ t ∈ quotedLayer.lastUpdated, t.IsUtc := by
    rintro t ⟨⟩
    exact ⟨by decide, .inl (by decide)⟩
  have hlayer : quotedLayer.IsStorable := ⟨⟨by decide, by decide⟩, hscales, hupdated⟩
  obtain ⟨-, -, -, hboxes, hcapabilities, hdocuments, hlayers⟩ := parse?_print_stored
  exact ⟨hboxes _ hbox, hcapabilities _ hscales, hdocuments _ hdocument, hlayers _ hlayer⟩

end Json

end MapServices
