import MapServices.Database.Documents
import MapServices.Proofs.Store.Holdings
import Mathlib.Data.Fintype.EquivFin

/-!
# The table of documents as a store of documents

A row is found by the texts of its columns, not by a key that is made from it. The texts of two keys
differ, since a version that is asked for is never the empty text, which stands for no version. So a
row belongs to one key, and what is read from it is the document that was saved under that key.

* `DocumentTable.rowOf?_put`: a row that is saved is found under its key, and no other row changes.
* `DocumentTable.answers_like_store`: the table and the store in memory answer alike.
-/

namespace MapServices

/-! ## Columns and keys -/

theorem ServiceType.layerType_injective {t t' : ServiceType} (h : t.layerType = t'.layerType) :
    t = t' := by
  cases t <;> cases t' <;> first | rfl | simp [layerType] at h

theorem ServiceType.ofName_layerType (t : ServiceType) : ofName t.layerType = .ok t := by
  cases t <;> decide

theorem ServiceKey.IsNormal.version_ne {k : ServiceKey} (h : k.IsNormal) : k.version ≠ some "" := by
  intro hversion
  have hempty := h.version
  rw [hversion] at hempty
  exact absurd hempty (by decide)

theorem DocumentTable.versionColumn_injective {v v' : Option String} (hv : v ≠ some "")
    (hv' : v' ≠ some "") (h : versionColumn v = versionColumn v') : v = v' := by
  cases v <;> cases v' <;> simp_all [versionColumn]

namespace DocumentRow

theorem isFor_iff {layerType url version : String} {r : DocumentRow} :
    r.isFor layerType url version ↔
      r.layerType = layerType ∧ r.url = url ∧ r.version = version := by
  simp [isFor, and_assoc]

/-- Whether the columns of the row are those of the key. -/
def isOf (k : ServiceKey) (r : DocumentRow) : Bool :=
  r.isFor k.serviceType.layerType k.url (DocumentTable.versionColumn k.version)

/-- What the row holds if its columns are those of the key. -/
def documentOf (k : ServiceKey) (r : DocumentRow) : CapabilitiesDocument where
  id := some r.id
  url := k.url
  serviceType := k.serviceType
  version := k.version
  data := r.data
  createdAt := r.created
  updatedAt := r.updated

/-- The columns tell keys apart. -/
theorem isOf_iff_eq {k k' : ServiceKey} (hk : k.IsNormal) (hk' : k'.IsNormal) {r : DocumentRow}
    (h : r.isOf k) : r.isOf k' ↔ k' = k := by
  obtain ⟨htype, hurl, hversion⟩ := isFor_iff.1 h
  constructor
  · intro h'
    obtain ⟨htype', hurl', hversion'⟩ := isFor_iff.1 h'
    have hversions := DocumentTable.versionColumn_injective hk'.version_ne hk.version_ne
      (hversion'.symm.trans hversion)
    have htypes := ServiceType.layerType_injective (htype'.symm.trans htype)
    cases k; cases k'
    rw [ServiceKey.mk.injEq]
    exact ⟨hurl'.symm.trans hurl, htypes, hversions⟩
  · rintro rfl
    exact h

/-- Reading a row undoes the writing of its columns. -/
theorem toDocument_of_isOf {k : ServiceKey} (hk : k.IsNormal) {r : DocumentRow} (h : r.isOf k) :
    r.toDocument = .ok (r.documentOf k) := by
  obtain ⟨htype, hurl, hversion⟩ := isFor_iff.1 h
  simp only [toDocument, documentOf, htype, hurl, hversion, ServiceType.ofName_layerType]
  cases hv : k.version with
  | none => rfl
  | some v =>
    have hv' : v ≠ "" := by
      rintro rfl
      exact hk.version_ne hv
    simp [DocumentTable.versionColumn, hv']

end DocumentRow

namespace DocumentTable

open DocumentRow

variable {t t' : DocumentTable} {k k' : ServiceKey} {data : String} {now : Instant}

/-! ## Rows and keys -/

/-- The row of a key. -/
def rowOf? (t : DocumentTable) (k : ServiceKey) : Option DocumentRow := t.rows.find? (isOf k)

theorem isOf_of_rowOf? {r : DocumentRow} (h : t.rowOf? k = some r) : r.isOf k :=
  List.find?_some h

theorem rowFor_ofKey (hk : k.IsNormal) (t : DocumentTable) :
    t.rowFor (.ofKey k data now) =
      match t.rowOf? k with
      | some old => { old with data, updated := now }
      | none => {
          data
          id := t.lastId + 1
          layerType := k.serviceType.layerType
          url := k.url
          version := versionColumn k.version
          created := now
          updated := now } := by
  rw [rowFor, CapabilitiesDocument.version_ofKey_of_isNormal hk]
  rfl

theorem put_ofKey (hk : k.IsNormal) (t : DocumentTable) :
    t.put (.ofKey k data now) =
      let row := t.rowFor (.ofKey k data now)
      if (t.rowOf? k).isSome then { t with rows := t.rows.map fun r => if r.isOf k then row else r }
      else { t with rows := t.rows ++ [row], lastId := t.lastId + 1 } := by
  rw [put, CapabilitiesDocument.version_ofKey_of_isNormal hk]
  rfl

theorem isOf_rowFor (hk : k.IsNormal) (t : DocumentTable) :
    (t.rowFor (.ofKey k data now)).isOf k := by
  rw [rowFor_ofKey hk]
  cases h : t.rowOf? k with
  | some old =>
    have hold : old.isOf k := isOf_of_rowOf? h
    exact hold
  | none => exact isFor_iff.2 ⟨rfl, rfl, rfl⟩

theorem rowOf?_put (hk : k.IsNormal) (hk' : k'.IsNormal) (t : DocumentTable) :
    (t.put (.ofKey k data now)).rowOf? k' =
      if k' = k then some (t.rowFor (.ofKey k data now)) else t.rowOf? k' := by
  have hrow : (t.rowFor (.ofKey k data now)).isOf k' ↔ k' = k :=
    isOf_iff_eq hk hk' (isOf_rowFor hk t)
  rw [put_ofKey hk]
  generalize t.rowFor (.ofKey k data now) = row at hrow
  cases h : t.rowOf? k with
  | some old =>
    -- a row that is replaced has the columns of the key before and after
    have hcolumns : (isOf k' ∘ fun r => if r.isOf k then row else r) = isOf k' := by
      funext r
      by_cases hr : r.isOf k
      · have hiff := hrow.trans (isOf_iff_eq hk hk' hr).symm
        simpa [hr] using Bool.eq_iff_iff.2 hiff
      · simp [hr]
    simp only [rowOf?, Option.isSome_some, if_true, List.find?_map, hcolumns]
    by_cases hkey : k' = k
    · have hfound : t.rows.find? (isOf k') = some old := hkey ▸ h
      rw [hfound, if_pos hkey, Option.map_some, if_pos (isOf_of_rowOf? h)]
    · rw [if_neg hkey]
      cases h' : t.rows.find? (isOf k') with
      | none => rfl
      | some r =>
        have hr : ¬ r.isOf k := fun hr => hkey ((isOf_iff_eq hk hk' hr).1 (isOf_of_rowOf? h'))
        rw [Option.map_some, if_neg hr]
  | none =>
    simp only [rowOf?, Option.isSome_none, Bool.false_eq_true, if_false, List.find?_append]
    by_cases hkey : k' = k
    · have hnone : t.rows.find? (isOf k') = none := hkey ▸ h
      rw [hnone, if_pos hkey, Option.none_or, List.find?_singleton, if_pos (hrow.2 hkey)]
    · have hother : ¬ row.isOf k' := fun hr => hkey (hrow.1 hr)
      rw [if_neg hkey, List.find?_singleton, if_neg hother, Option.or_none]

/-! ## What is found in the table -/

/-- The documents that are found under the keys. -/
def holdings (t : DocumentTable) : Holdings := fun k => (t.rowOf? k).map (documentOf k)

theorem find_eq (hk : k.IsNormal) (t : DocumentTable) : t.find k = .ok (t.holdings k) := by
  show (t.rowOf? k).mapM toDocument = _
  unfold holdings
  cases h : t.rowOf? k with
  | none => rfl
  | some r => simp [toDocument_of_isOf hk (isOf_of_rowOf? h), Functor.map, Except.map]

theorem save_eq (hk : k.IsNormal) (t : DocumentTable) :
    t.save (.ofKey k data now) =
      (.ok ((t.rowFor (.ofKey k data now)).documentOf k), t.put (.ofKey k data now)) := by
  rw [save, toDocument_of_isOf hk (isOf_rowFor hk t)]

/-- The next number is not the number of a row. -/
def NextIsFresh (t : DocumentTable) : Prop := ∀ r ∈ t.rows, r.id ≠ t.lastId + 1

theorem stored_rowFor (hk : k.IsNormal) (ht : t.NextIsFresh) :
    t.holdings.Stored k (.ofKey k data now) ((t.rowFor (.ofKey k data now)).documentOf k) := by
  have hversion := CapabilitiesDocument.version_ofKey_of_isNormal hk data now
  rw [rowFor_ofKey hk]
  cases h : t.rowOf? k with
  | some old =>
    have hold : t.holdings k = some (old.documentOf k) := congrArg (Option.map (documentOf k)) h
    have hstored := Holdings.Stored.again (d := CapabilitiesDocument.ofKey k data now) hold
    rw [hversion] at hstored
    exact hstored
  | none =>
    have hnone : t.holdings k = none := congrArg (Option.map (documentOf k)) h
    have hstored := Holdings.Stored.new (d := CapabilitiesDocument.ofKey k data now)
      (n := t.lastId + 1) hnone (by
        intro k' d' hk' hd' hid
        obtain ⟨r, hr, rfl⟩ := Option.map_eq_some_iff.1 hd'
        exact ht r (List.mem_of_find?_eq_some hr) (Option.some.inj hid))
    rw [hversion] at hstored
    exact hstored

/-! ## Calls of the table -/

def answer (t : DocumentTable) : DocumentCall → DocumentAnswer × DocumentTable
  | .find k => (t.find k, t)
  | .save k data now =>
    let (result, t) := t.save (.ofKey k data now)
    (result.map some, t)

/-- The answers that calls may get one after the other. The database may leave out numbers, so that
before each call the count stands at any number after which a free one comes. -/
inductive Answers : DocumentTable → List DocumentCall → List DocumentAnswer → Prop where
  | nil (t : DocumentTable) : Answers t [] []
  | cons {t : DocumentTable} {c : DocumentCall} {calls : List DocumentCall}
      {answers : List DocumentAnswer} (lastId : Int)
      (hfresh : NextIsFresh { t with lastId })
      (hrest : Answers (answer { t with lastId } c).2 calls answers) :
      Answers t (c :: calls) ((answer { t with lastId } c).1 :: answers)

theorem exists_fresh (t : DocumentTable) : ∃ lastId, NextIsFresh { t with lastId } := by
  obtain ⟨n, hn⟩ := Infinite.exists_notMem_finset (t.rows.map DocumentRow.id).toFinset
  refine ⟨n - 1, fun r hr hid => hn ?_⟩
  have hid : r.id = n := hid.trans (Int.sub_add_cancel n 1)
  rw [List.mem_toFinset, ← hid]
  exact List.mem_map_of_mem hr

theorem exists_answers (t : DocumentTable) (calls : List DocumentCall) :
    ∃ answers, Answers t calls answers := by
  induction calls generalizing t with
  | nil => exact ⟨[], .nil t⟩
  | cons c calls ih =>
    obtain ⟨lastId, hfresh⟩ := t.exists_fresh
    obtain ⟨answers, hrest⟩ := ih (answer { t with lastId } c).2
    exact ⟨_, .cons lastId hfresh hrest⟩

theorem step_answer (ht : t.NextIsFresh) {c : DocumentCall} (hc : c.key.IsNormal) :
    ∃ a, (t.answer c).1 = .ok a ∧ Holdings.Step t.holdings c a (t.answer c).2.holdings := by
  cases c with
  | find k => exact ⟨t.holdings k, find_eq hc t, .find k⟩
  | save k data now =>
    have hk : k.IsNormal := hc
    simp only [answer, save_eq hk]
    refine ⟨_, rfl, .save (stored_rowFor hk ht) fun k' hk' => ?_⟩
    simp only [holdings, rowOf?_put hk hk']
    split
    · rename_i hkey
      rw [hkey, Option.map_some]
    · rfl

theorem Answers.run {calls : List DocumentCall} {answers : List DocumentAnswer}
    (h : Answers t calls answers) (hcalls : ∀ c ∈ calls, c.key.IsNormal) :
    ∃ found f', answers = found.map Except.ok ∧ Holdings.Run t.holdings calls found f' := by
  induction h with
  | nil t => exact ⟨[], _, rfl, .nil _⟩
  | @cons t c calls answers lastId hfresh hrest ih =>
    obtain ⟨a, ha, hstep⟩ := step_answer hfresh (hcalls c List.mem_cons_self)
    obtain ⟨found, f', hfound, hrun⟩ := ih fun c' hc' => hcalls c' (List.mem_cons_of_mem _ hc')
    exact ⟨a :: found, f', by rw [ha, hfound]; rfl, .cons hstep hrun⟩

end DocumentTable

/-! ## The table and the store in memory -/

theorem getElem?_map_ok {ε α : Type} {xs : List α} {i : Nat} {x : α} :
    (xs.map (Except.ok (ε := ε)))[i]? = some (.ok x) ↔ xs[i]? = some x := by
  simp

/-- The same document, up to its number, or both times none. -/
def DocumentAnswer.Alike (a b : DocumentAnswer) : Prop :=
  ∃ d e : Option CapabilitiesDocument, a = .ok d ∧ b = .ok e ∧
    d.map CapabilitiesDocument.unnumbered = e.map CapabilitiesDocument.unnumbered

/-- Two lists of answers to the same calls are alike, and in either list documents have one number
just if they belong to one key. -/
structure SameAnswers (calls : List DocumentCall) (as bs : List DocumentAnswer) : Prop where
  alike : List.Forall₂ DocumentAnswer.Alike as bs
  numbers : ∀ {i j : Nat} {c c' : DocumentCall} {d d' e e' : CapabilitiesDocument},
    calls[i]? = some c → calls[j]? = some c' →
    as[i]? = some (.ok (some d)) → as[j]? = some (.ok (some d')) →
    bs[i]? = some (.ok (some e)) → bs[j]? = some (.ok (some e')) →
      (d.id = d'.id ↔ c.key = c'.key) ∧ (e.id = e'.id ↔ c.key = c'.key)

namespace DocumentTable

/-- To calls with keys of stable endpoints an empty table gives the answers of an empty store in
memory, however the database numbers its rows. -/
theorem answers_like_store {calls : List DocumentCall}
    (hkeys : ∀ c ∈ calls, ∃ url t version, c.key = .ofParts url t version)
    (hstable : ∀ c ∈ calls, c.key.IsStable) :
    (∃ answers, Answers {} calls answers) ∧
      ∀ answers, Answers {} calls answers →
        SameAnswers calls (DocumentStore.answerAll {} calls) answers := by
  refine ⟨exists_answers {} calls, fun answers h => ?_⟩
  have hnormal : ∀ c ∈ calls, c.key.IsNormal := by
    intro c hc
    obtain ⟨url, t, version, hkey⟩ := hkeys c hc
    have hc' := hstable c hc
    rw [hkey] at hc' ⊢
    exact ServiceKey.isNormal_ofParts hc'
  obtain ⟨found, f, hfound, hrun⟩ := DocumentStore.isInOrder_empty.run hnormal
  obtain ⟨found', f', hfound', hrun'⟩ := h.run hnormal
  have hempty : Holdings.Numbered (DocumentStore.find? {}) := .of_empty fun _ => rfl
  have hempty' : Holdings.Numbered (holdings {}) := .of_empty fun _ => rfl
  rw [hfound, hfound']
  constructor
  · have halike := hrun.alike hrun' hnormal fun _ _ => rfl
    rw [List.forall₂_map_left_iff, List.forall₂_map_right_iff]
    exact halike.imp fun a b hab => ⟨a, b, rfl, rfl, hab⟩
  · intro i j c c' d d' e e' hc hc' hd hd' he he'
    rw [getElem?_map_ok] at hd hd' he he'
    exact ⟨hrun.id_eq_iff hnormal hempty hc hc' hd hd',
      hrun'.id_eq_iff hnormal hempty' hc hc' he he'⟩

/-- Two documents of one endpoint, of which one is saved a second time. -/
def gapCalls : List DocumentCall := [
  .save (.ofParts "maps?" .wms (some " ")) "<a/>" ⟨1, 0⟩,
  .save (.ofParts "maps" .wms (some "1.3.0")) "<b/>" ⟨2, 0⟩,
  .save (.ofParts " maps" .wms none) "<c/>" ⟨3, 0⟩,
  .find (.ofParts "maps" .wms none)]

/-- The answers of a database that leaves out the numbers 2 to 6. -/
def gapAnswers : List DocumentAnswer :=
  let row : CapabilitiesDocument := {
    id := some 1, url := "maps", serviceType := .wms, version := none, data := "<a/>"
    createdAt := ⟨1, 0⟩, updatedAt := ⟨1, 0⟩ }
  let replaced := { row with data := "<c/>", updatedAt := ⟨3, 0⟩ }
  [.ok (some row),
    .ok (some { row with
      id := some 7, version := some "1.3.0", data := "<b/>", createdAt := ⟨2, 0⟩
      updatedAt := ⟨2, 0⟩ }),
    .ok (some replaced), .ok (some replaced)]

theorem answers_gapCalls : Answers {} gapCalls gapAnswers := by
  have hfresh : ∀ t : DocumentTable, (∀ r ∈ t.rows, r.id ≠ t.lastId + 1) → t.NextIsFresh :=
    fun _ h => h
  refine .cons 0 ?_ (.cons 6 ?_ (.cons 7 ?_ (.cons 7 ?_ (.nil _))))
  all_goals
    apply hfresh
    decide +kernel

/-- The store and the database give the same answers, but number the second document differently. -/
theorem answers_like_store_gap :
    (∀ c ∈ gapCalls, ∃ url t version, c.key = .ofParts url t version) ∧
      (∀ c ∈ gapCalls, c.key.IsStable) ∧
      SameAnswers gapCalls (DocumentStore.answerAll {} gapCalls) gapAnswers := by
  have hkeys : ∀ c ∈ gapCalls, ∃ url t version, c.key = .ofParts url t version := by
    simp only [gapCalls, List.forall_mem_cons]
    exact ⟨⟨_, _, _, rfl⟩, ⟨_, _, _, rfl⟩, ⟨_, _, _, rfl⟩, ⟨_, _, _, rfl⟩, nofun⟩
  have hstable : ∀ c ∈ gapCalls, c.key.IsStable := by
    show ∀ c ∈ gapCalls, Endpoint.simplify c.key.url = c.key.url
    decide +kernel
  exact ⟨hkeys, hstable, (answers_like_store hkeys hstable).2 gapAnswers answers_gapCalls⟩

end DocumentTable

end MapServices
