import MapServices.Proofs.Lists
import MapServices.Proofs.Url.Percent
import MapServices.Url.Parser

/-!
# Written paths

* `readSegments_intercalate`: written segments are read as they are.
* `isSegment_of_mem_readSegments`: the segments that are read are written.
* `fileSegments_spec`: the segments of a file's path are left as they are.
-/

namespace MapServices.Url

/-- A segment that is read as it is written. -/
structure IsSegment (special : Bool) (segment : List Char) : Prop where
  kept : ∀ c ∈ segment, isPathEncoded c = false
  inside : ∀ c ∈ segment, c ≠ '/' ∧ (special = true → c ≠ '\\')
  singleDot : isSingleDot segment = false
  doubleDot : isDoubleDot segment = false

/-- The empty segment is read as it is written. -/
theorem IsSegment.nil (special : Bool) : IsSegment special [] where
  kept := by simp
  inside := by simp
  singleDot := by decide
  doubleDot := by decide

/-! ### Dot segments -/

theorem mem_of_mem_parent {done : List (List Char)} {segment : List Char}
    (h : segment ∈ parent done) : segment ∈ done := by
  cases done with
  | nil => exact h
  | cons last rest =>
    rw [parent] at h
    split at h
    · exact h
    · exact List.mem_cons_of_mem _ h

/-- Resolving dot segments adds none but empty segments. -/
theorem forall_mem_resolveDots {p : List Char → Prop} {pieces done : List (List Char)} (hnil : p [])
    (hdone : ∀ segment ∈ done, p segment)
    (hpieces : ∀ piece ∈ pieces, isSingleDot piece = false → isDoubleDot piece = false → p piece) :
    ∀ segment ∈ resolveDots done pieces, p segment := by
  induction pieces generalizing done with
  | nil =>
    intro segment h
    rw [resolveDots] at h
    exact hdone segment (List.mem_reverse.1 h)
  | cons piece pieces ih =>
    have hrest : ∀ other ∈ pieces, isSingleDot other = false → isDoubleDot other = false →
        p other := fun other hother => hpieces other (List.mem_cons_of_mem _ hother)
    have hend : ∀ {done' : List (List Char)}, (∀ segment ∈ done', p segment) →
        ∀ segment ∈ (if pieces.isEmpty then [[]] else []) ++ done', p segment := by
      intro done' hdone' segment hmem
      rcases List.mem_append.1 hmem with hmem | hmem
      · split at hmem
        · rwa [List.mem_singleton.1 hmem]
        · cases hmem
      · exact hdone' segment hmem
    rw [resolveDots]
    split
    · exact ih (hend fun segment hmem => hdone segment (mem_of_mem_parent hmem)) hrest
    · rename_i hdouble
      split
      · exact ih (hend hdone) hrest
      · rename_i hsingle
        refine ih (fun segment hmem => ?_) hrest
        rcases List.mem_cons.1 hmem with rfl | hmem
        · exact hpieces segment List.mem_cons_self (by simpa using hsingle) (by simpa using hdouble)
        · exact hdone segment hmem

/-- A path has a segment: a dot segment at its end leaves an empty one. -/
theorem resolveDots_ne_nil {pieces : List (List Char)} (h : pieces ≠ []) (done : List (List Char)) :
    resolveDots done pieces ≠ [] := by
  induction pieces generalizing done with
  | nil => exact absurd rfl h
  | cons piece pieces ih =>
    cases pieces with
    | nil =>
      rw [resolveDots]
      split
      · simp [resolveDots]
      · split
        · simp [resolveDots]
        · simp [resolveDots]
    | cons next pieces =>
      have hlater := ih (List.cons_ne_nil next pieces)
      rw [resolveDots]
      split
      · exact hlater _
      · split
        · exact hlater _
        · exact hlater _

theorem resolveDots_eq_append {pieces : List (List Char)} (done : List (List Char))
    (h : ∀ piece ∈ pieces, isSingleDot piece = false ∧ isDoubleDot piece = false) :
    resolveDots done pieces = done.reverse ++ pieces := by
  induction pieces generalizing done with
  | nil => simp [resolveDots]
  | cons piece pieces ih =>
    obtain ⟨hsingle, hdouble⟩ := h piece List.mem_cons_self
    rw [resolveDots, if_neg (by simp [hdouble]), if_neg (by simp [hsingle]),
      ih _ fun other hother => h other (List.mem_cons_of_mem _ hother), List.reverse_cons,
      List.append_assoc, List.singleton_append]

/-! ### Segments -/

theorem splitPath_intercalate {special : Bool} {segments : List (List Char)} (hne : segments ≠ [])
    (h : ∀ segment ∈ segments, IsSegment special segment) :
    splitPath special (['/'].intercalate segments) = segments := by
  apply Lists.splitOnP_intercalate (by simp) hne
  intro segment hsegment c hc
  obtain ⟨hslash, hbackslash⟩ := (h segment hsegment).inside c hc
  cases special with
  | false => simp [hslash]
  | true => simp [hslash, hbackslash rfl]

theorem readSegments_intercalate {special : Bool} {segments : List (List Char)}
    (hne : segments ≠ []) (h : ∀ segment ∈ segments, IsSegment special segment) :
    readSegments special (['/'].intercalate segments) = segments := by
  have hencode : segments.map (percentEncode isPathEncoded) = segments := by
    refine (List.map_congr_left fun segment hsegment => ?_).trans (List.map_id segments)
    exact percentEncode_eq_self (h segment hsegment).kept
  rw [readSegments, splitPath_intercalate hne h, hencode, resolveDots_eq_append]
  · rfl
  · exact fun segment hsegment => ⟨(h segment hsegment).singleDot, (h segment hsegment).doubleDot⟩

theorem readSegments_ne_nil (special : Bool) (s : List Char) : readSegments special s ≠ [] := by
  refine resolveDots_ne_nil (fun hnil => ?_) []
  exact List.splitOnP_ne_nil _ s (List.map_eq_nil_iff.1 hnil)

theorem isSegment_of_mem_readSegments {special : Bool} {s : List Char} :
    ∀ segment ∈ readSegments special s, IsSegment special segment := by
  apply forall_mem_resolveDots (IsSegment.nil special) (by simp)
  intro segment hmem hsingle hdouble
  obtain ⟨piece, hpiece, rfl⟩ := List.mem_map.1 hmem
  refine ⟨not_encoded_of_mem sparesDigits_path, fun c hc => ?_, hsingle, hdouble⟩
  have hdigits : ∀ n ∈ List.range 16, upperHexDigit n ≠ '/' ∧ upperHexDigit n ≠ '\\' := by decide
  rcases mem_percentEncode hc with ⟨hmem, -⟩ | rfl | ⟨n, hn, rfl⟩
  · have hsplit := (Lists.mem_of_mem_splitOnP hpiece c hmem).2
    rw [Bool.or_eq_false_iff, decide_eq_false_iff_not, Bool.and_eq_false_iff] at hsplit
    refine ⟨hsplit.1, ?_⟩
    rintro rfl
    simpa using hsplit.2
  · exact ⟨by decide, fun _ => by decide⟩
  · obtain ⟨hslash, hbackslash⟩ := hdigits n (List.mem_range.2 hn)
    exact ⟨hslash, fun _ => hbackslash⟩

/-! ### Files -/

theorem map_normalizeDrive {segments : List (List Char)} (h : ∀ s ∈ segments, isDrive s = false) :
    segments.map normalizeDrive = segments := by
  refine (List.map_congr_left fun segment hsegment => ?_).trans (List.map_id segments)
  rw [normalizeDrive, if_neg (by simp [h segment hsegment])]
  rfl

theorem fileSegments_cons {segment : List Char} {rest : List (List Char)} (hne : segment ≠ [])
    (h : ∀ s ∈ segment :: rest, isDrive s = false) :
    fileSegments (segment :: rest) = segment :: rest := by
  have hdrop : (segment :: rest).dropWhile List.isEmpty = segment :: rest :=
    List.dropWhile_cons_of_neg (by simpa using hne)
  rw [fileSegments, hdrop]
  exact map_normalizeDrive h

/-- Without drives, the segments of a file's path are a last part of those that are given. -/
theorem fileSegments_cases {segments : List (List Char)} (h : ∀ s ∈ segments, isDrive s = false) :
    fileSegments segments = [[]] ∨ ∃ segment rest, segment ≠ [] ∧ segment :: rest <:+ segments ∧
      fileSegments segments = segment :: rest := by
  have hsuffix := List.dropWhile_suffix List.isEmpty (l := segments)
  unfold fileSegments
  split
  · exact Or.inl rfl
  · rename_i hne
    obtain ⟨segment, rest, hdrop⟩ := List.exists_cons_of_ne_nil hne
    have hhead := List.head?_dropWhile_not List.isEmpty segments
    rw [hdrop, List.head?_cons] at hhead
    rw [hdrop] at hsuffix
    refine Or.inr ⟨segment, rest, by simpa using hhead, hsuffix, ?_⟩
    rw [hdrop]
    exact map_normalizeDrive fun s hs => h s (hsuffix.subset hs)

/-- The path of a file without drives. -/
theorem fileSegments_spec {segments : List (List Char)} (h : ∀ s ∈ segments, isDrive s = false) :
    fileSegments segments ≠ [] ∧ (∀ s ∈ fileSegments segments, s = [] ∨ s ∈ segments) ∧
      fileSegments (fileSegments segments) = fileSegments segments := by
  rcases fileSegments_cases h with heq | ⟨segment, rest, hne, hsuffix, heq⟩
  · rw [heq]
    exact ⟨by simp, by simp, rfl⟩
  · rw [heq]
    have hmem : ∀ s ∈ segment :: rest, s ∈ segments := fun s hs => hsuffix.subset hs
    refine ⟨List.cons_ne_nil _ _, fun s hs => Or.inr (hmem s hs), ?_⟩
    exact fileSegments_cons hne fun s hs => h s (hmem s hs)

end MapServices.Url
