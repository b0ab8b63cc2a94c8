import MapServices.Json.Decode
import MapServices.Proofs.Json.Text
import MapServices.Proofs.Lists
import MapServices.Proofs.Sorted.Map

/-!
# Values of other types and their text

A value survives being stored if it is read back from its form in JSON, and the form from its text.
`Survives` says so of one value, `RoundTrips` of all values of a type, and what is known of lists,
options and records is put together from what is known of their parts.

* `Survives.parse`: a value is read back from the text of its form.
* `slots?_record`: the fields of a written record are found in their places.
-/

namespace MapServices

theorem NameSet.ofList_toList (s : NameSet) : ofList s.toList = s := by
  have hfold : ∀ (l : List (String × Unit)) (m : SortedMap String Unit),
      (l.map Prod.fst).foldl insert ⟨m⟩ = ⟨l.foldl (fun m e => m.insert e.1 e.2) m⟩ := by
    intro l
    induction l with
    | nil => intro m; rfl
    | cons e l ih => intro m; exact ih (m.insert e.1 e.2)
  exact (hfold s.members.entries ∅).trans (congrArg NameSet.mk s.members.ofList_entries)

namespace Json

variable {α : Type} {write : α → Json} {read : Json → Option α}

/-- The value has a form from which it is read back, and which is read back from its text. -/
structure Survives (write : α → Json) (read : Json → Option α) (x : α) : Prop where
  isWritten : (write x).IsWritten
  read_write : read (write x) = some x

/-- Each value has a form from which it is read back, and which is read back from its text. -/
structure RoundTrips (write : α → Json) (read : Json → Option α) : Prop where
  isWritten : ∀ x, (write x).IsWritten
  read_write : ∀ x, read (write x) = some x

theorem toOption?_of_ne {j : Json} (h : j ≠ .null) : toOption? read j = (read j).map some := by
  cases j <;> first | rfl | exact absurd rfl h

theorem Survives.parse {x : α} (h : Survives write read x) :
    (parse? (write x).print).bind read = some x := by
  rw [parse?_print h.isWritten, Option.bind_some, h.read_write]

/-- Nothing is written as `null`, which may not be the form of a value then. -/
theorem Survives.option {x? : Option α} (h : ∀ x ∈ x?, Survives write read x)
    (hnull : read .null = none) : Survives (ofOption write) (toOption? read) x? := by
  cases x? with
  | none => exact ⟨.null, rfl⟩
  | some x =>
    obtain ⟨hwritten, hread⟩ := h x rfl
    refine ⟨hwritten, ?_⟩
    have hne : write x ≠ .null := by
      intro hwrite
      rw [hwrite, hnull] at hread
      cases hread
    rw [ofOption, toOption?_of_ne hne, hread, Option.map_some]

namespace RoundTrips

theorem survives (h : RoundTrips write read) (x : α) : Survives write read x :=
  ⟨h.isWritten x, h.read_write x⟩

theorem string : RoundTrips ofString toText? :=
  ⟨fun s => .text s, fun _ => rfl⟩

theorem bool : RoundTrips Json.bool toBool? :=
  ⟨fun b => .bool b, fun _ => rfl⟩

theorem option (h : RoundTrips write read) (hnull : read .null = none) :
    RoundTrips (ofOption write) (toOption? read) where
  isWritten _ := (Survives.option (fun x _ => h.survives x) hnull).isWritten
  read_write _ := (Survives.option (fun x _ => h.survives x) hnull).read_write

theorem list (h : RoundTrips write read) :
    RoundTrips (fun l => .array (l.map write)) (toList? read) where
  isWritten l := .array (List.forall_mem_map.2 fun x _ => h.isWritten x)
  read_write l := by
    have hall : l.mapM (read ∘ write) = some (l.map id) :=
      Lists.mapM_eq_some_map fun x _ => h.read_write x
    rw [toList?, List.mapM_map, hall, List.map_id]

theorem nameSet : RoundTrips (fun s : NameSet => ofStrings s.toList) toNameSet? where
  isWritten s := string.list.isWritten s.toList
  read_write s := by
    have hlist := string.list.read_write s.toList
    rw [toNameSet?, ofStrings, hlist, Option.map_some, NameSet.ofList_toList]

end RoundTrips

/-! ## Records -/

variable {fields : List (String × Json)}

theorem isWritten_record (h : ∀ f ∈ fields, f.2.IsWritten) : (record fields).IsWritten :=
  .object (List.forall_mem_map.2 fun _ _ => rfl) (List.forall_mem_map.2 h)

theorem filter_name (hnodup : (fields.map Prod.fst).Nodup) {f : String × Json} (hf : f ∈ fields) :
    (fields.map fun f => (some f.1, f.2)).filter (·.1 == some f.1) = [(some f.1, f.2)] := by
  induction fields with
  | nil => cases hf
  | cons g fields ih =>
    obtain ⟨hg, hnodup⟩ := List.nodup_cons.1 hnodup
    rcases List.mem_cons.1 hf with rfl | hf
    · -- no other field has the name
      have hothers : (fields.map fun f => (some f.1, f.2)).filter (·.1 == some f.1) = [] := by
        rw [List.filter_eq_nil_iff, List.forall_mem_map]
        intro g hg' hname
        have hname : g.1 = f.1 := by simpa using hname
        exact hg (hname ▸ List.mem_map_of_mem hg')
      rw [List.map_cons, List.filter_cons_of_pos (by simp), hothers]
    · have hne : g.1 ≠ f.1 := fun hname => hg (hname ▸ List.mem_map_of_mem hf)
      rw [List.map_cons, List.filter_cons_of_neg (by simpa using hne), ih hnodup hf]

theorem fieldSlot?_record (hnodup : (fields.map Prod.fst).Nodup) {f : String × Json}
    (hf : f ∈ fields) :
    fieldSlot? (fields.map fun f => (some f.1, f.2)) f.1 = some (.given f.2) := by
  rw [fieldSlot?, filter_name hnodup hf]

theorem slots?_record (hnodup : (fields.map Prod.fst).Nodup) :
    slots? (fields.map Prod.fst) (record fields) = some (fields.map fun f => .given f.2) := by
  have hall : (fields.map fun f => (some f.1, f.2)).all (·.1.isSome) = true := by simp
  rw [record, slots?, if_pos hall, List.mapM_map]
  exact Lists.mapM_eq_some_map fun f hf => fieldSlot?_record hnodup hf

end Json

end MapServices
