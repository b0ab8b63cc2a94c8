import MapServices.Proofs.Url.Authority
import MapServices.Proofs.Url.Path

/-!
# The place that an address names

* `IsPlaced`: the host, the port and the path of an address are read as they are written.
* `readHierarchy_print` and `readFile_print`: what they are read as.
* `isPlaced_of_readHierarchy` and `isPlaced_of_readFile`: what is read is placed.
-/

namespace MapServices.Url

/-- The address names a place whose host, port and segments are read as they are written. -/
structure IsPlaced (u : Url) (special : Bool) (host : Host) (parts : List (List Char)) : Prop where
  host_eq : u.host? = some host
  path_eq : u.path = .segments parts
  written : host.IsWritten special
  port : ∀ port, u.port? = some port → IsPort u.scheme port
  segments : ∀ segment ∈ parts, IsSegment special segment
  rooted : special = true → parts ≠ []

/-- What more is true of the place of a file. -/
structure IsFilePlace (u : Url) (host : Host) (parts : List (List Char)) : Prop where
  port : u.port? = none
  named : host ≠ .name "localhost".toList
  drives : ∀ segment ∈ parts, isDrive segment = false
  settled : fileSegments parts = parts

/-- The addresses agree in what names their place. -/
structure SamePlace (u u' : Url) : Prop where
  scheme : u.scheme = u'.scheme
  host : u.host? = u'.host?
  port : u.port? = u'.port?
  path : u.path = u'.path

section

variable {u u' : Url} {special : Bool} {host : Host} {parts : List (List Char)}

theorem IsPlaced.congr (h : IsPlaced u special host parts) (hsame : SamePlace u u') :
    IsPlaced u' special host parts := by
  obtain ⟨hscheme, hhost, hport, hpath⟩ := hsame
  refine ⟨hhost ▸ h.host_eq, hpath ▸ h.path_eq, h.written, ?_, h.segments, h.rooted⟩
  rw [← hscheme, ← hport]
  exact h.port

theorem IsFilePlace.congr (h : IsFilePlace u host parts) (hsame : SamePlace u u') :
    IsFilePlace u' host parts :=
  ⟨hsame.port ▸ h.port, h.named, h.drives, h.settled⟩

end

theorem Path.print_segments {parts : List (List Char)} (hne : parts ≠ []) :
    (Path.segments parts).print = '/' :: ['/'].intercalate parts := by
  induction parts with
  | nil => exact absurd rfl hne
  | cons part parts ih =>
    cases parts with
    | nil => simp [Path.print]
    | cons next parts =>
      have hrest := ih (List.cons_ne_nil _ _)
      rw [Path.print] at hrest ⊢
      rw [List.flatMap_cons, hrest, List.intercalate_cons_cons]
      simp

/-! ### Hierarchies -/

theorem endsAuthority_of_isHostChar {c : Char} (h : IsHostChar c) (special : Bool) :
    (!endsAuthority special c) = true := by
  simp [endsAuthority, h.slash, h.question, h.hash, h.backslash]

theorem readHierarchy_print {u : Url} {special : Bool} {host : Host} {parts : List (List Char)}
    (h : IsPlaced u special host parts) (more : Bool) :
    readHierarchy u.scheme special (u.printHost host ++ (Path.segments parts).print) more =
      .ok { scheme := u.scheme, host? := some host, port? := u.port?,
            path := .segments parts } := by
  have hall : ∀ c ∈ u.printHost host, (!endsAuthority special c) = true := fun c hc =>
    endsAuthority_of_isHostChar (isHostChar_of_mem_printHost h.written c hc) special
  rw [readHierarchy, Failure.bind_eq_ok]
  by_cases hparts : parts = []
  · have hspecial : special = false := by
      by_contra hspecial
      exact h.rooted (by simpa using hspecial) hparts
    have hprint : (Path.segments parts).print = [] := by rw [hparts]; rfl
    rw [hprint, List.append_nil, List.takeWhile_eq_self_iff.2 hall,
      List.dropWhile_eq_nil_iff.2 hall]
    refine ⟨_, Authority.ofText_printHost h.written h.port _, ?_⟩
    simp [hspecial, hparts]
    rfl
  · have hslash : (!endsAuthority special '/') = false := by simp [endsAuthority]
    rw [Path.print_segments hparts, List.takeWhile_append_of_pos hall,
      List.dropWhile_append_of_pos hall, List.takeWhile_cons_of_neg (by simp [hslash]),
      List.dropWhile_cons_of_neg (by simp [hslash]), List.append_nil]
    refine ⟨_, Authority.ofText_printHost h.written h.port _, ?_⟩
    simp only [readSegments_intercalate hparts h.segments]
    rfl

theorem isPlaced_of_readHierarchy {scheme s : List Char} {special more : Bool} {u : Url}
    (h : readHierarchy scheme special s more = .ok u) (hhost : u.hasHost) :
    u.scheme = scheme ∧ ∃ host parts, IsPlaced u special host parts := by
  rw [readHierarchy, Failure.bind_eq_ok] at h
  obtain ⟨⟨a, left⟩, hread, h⟩ := h
  obtain ⟨hwritten, hport⟩ := Authority.ofText_spec hread
  cases h
  have hnamed : a.host ≠ .name [] := by simpa [hasHost] using hhost
  refine ⟨rfl, a.host, _, rfl, rfl, hwritten hnamed, hport, ?_, ?_⟩
  · intro segment hsegment
    split at hsegment
    · split at hsegment
      · rw [List.mem_singleton.1 hsegment]
        exact IsSegment.nil special
      · cases hsegment
    · exact isSegment_of_mem_readSegments segment hsegment
    · exact isSegment_of_mem_readSegments segment hsegment
  · intro hspecial
    split
    · simp [hspecial]
    · exact readSegments_ne_nil special _
    · exact readSegments_ne_nil special _

/-! ### Files -/

/-- A host is not taken for a drive. -/
theorem Host.IsWritten.isDrive_print {host : Host} {special : Bool} (h : host.IsWritten special) :
    isDrive host.print = false := by
  by_contra hdrive
  rw [Bool.not_eq_false] at hdrive
  unfold isDrive at hdrive
  split at hdrive
  · rename_i letter mark hprint
    rw [Bool.and_eq_true, Bool.or_eq_true, decide_eq_true_eq, decide_eq_true_eq] at hdrive
    obtain ⟨halpha, rfl | rfl⟩ := hdrive
    · -- before a port, the letter would be the host
      have hcolon := h.colon []
      have hletter : letter ≠ ':' := by
        rintro rfl
        exact absurd halpha (by decide)
      have hbracket : letter ≠ '[' := by
        rintro rfl
        exact absurd halpha (by decide)
      rw [hprint] at hcolon
      simp [splitPort, hletter, hbracket] at hcolon
    · have hbar : IsHostChar '|' := h.chars '|' (hprint ▸ by simp)
      exact hbar.bar rfl
  · cases hdrive

theorem readFile_print {u : Url} {host : Host} {parts : List (List Char)}
    (h : IsPlaced u true host parts) (hfile : IsFilePlace u host parts) :
    readFile u.scheme ('/' :: '/' :: (u.printHost host ++ (Path.segments parts).print)) =
      .ok { scheme := u.scheme, host? := some host, path := .segments parts } := by
  have hparts := h.rooted rfl
  have hprint : u.printHost host = host.print := by
    rw [printHost, hfile.port, List.append_nil]
  have hall : ∀ c ∈ host.print, (!(decide (c = '/') || decide (c = '\\'))) = true := by
    intro c hc
    have hchar := h.written.chars c hc
    simp [hchar.slash, hchar.backslash]
  have hdrives : parts.any isDrive = false :=
    List.any_eq_false.2 fun segment hsegment => by simp [hfile.drives segment hsegment]
  have hempty : host.print.isEmpty = false := by
    simpa using h.written.ne_nil
  rw [hprint, Path.print_segments hparts, readFile]
  simp only [decide_true, Bool.true_or, Bool.and_self, if_true,
    List.takeWhile_append_of_pos hall, List.dropWhile_append_of_pos hall, Bool.not_true,
    List.takeWhile_cons_of_neg, List.dropWhile_cons_of_neg, Bool.false_eq_true, not_false_eq_true,
    List.append_nil, h.written.isDrive_print, hempty, if_false, List.drop_one, List.tail_cons,
    readSegments_intercalate hparts h.segments, hdrives, h.written.read]
  rw [Failure.bind_eq_ok]
  refine ⟨host, rfl, ?_⟩
  simp only [hfile.named, hfile.settled]
  rfl

/-- An address without a place has no host. -/
theorem not_hasHost_of_unplaced {scheme : List Char} {parts : List (List Char)} {u : Url}
    (h : (pure { scheme, host? := some (.name []), path := .segments parts } :
      Except ReadError Url) = .ok u) : ¬ u.hasHost := by
  cases h
  simp [hasHost]

theorem isPlaced_of_readFile {scheme s : List Char} {u : Url} (h : readFile scheme s = .ok u)
    (hhost : u.hasHost) : u.scheme = scheme ∧
      ∃ host parts, IsPlaced u true host parts ∧ IsFilePlace u host parts := by
  simp only [readFile] at h
  split at h
  · rename_i a b rest
    split at h
    · split at h
      · exact absurd hhost (not_hasHost_of_unplaced h)
      · split at h
        · exact absurd hhost (not_hasHost_of_unplaced h)
        · rw [Failure.bind_eq_ok] at h
          obtain ⟨host, hread, h⟩ := h
          split at h
          · exact absurd hhost (not_hasHost_of_unplaced h)
          · rename_i hplace
            rw [Bool.or_eq_true, decide_eq_true_eq, not_or, Bool.not_eq_true,
              List.any_eq_false] at hplace
            obtain ⟨hnamed, hdrives⟩ := hplace
            cases h
            have hwritten := Host.isWritten_of_ofText hread (by simpa [hasHost] using hhost)
            have hdrives' : ∀ segment ∈ readSegments true _, isDrive segment = false :=
              fun segment hsegment => by simpa using hdrives segment hsegment
            obtain ⟨hne, hmem, hsettled⟩ := fileSegments_spec hdrives'
            refine ⟨rfl, host, _, ⟨rfl, rfl, hwritten, by simp, ?_, fun _ => hne⟩,
              rfl, hnamed, ?_, hsettled⟩
            · intro segment hsegment
              rcases hmem segment hsegment with rfl | hread
              · exact IsSegment.nil true
              · exact isSegment_of_mem_readSegments segment hread
            · intro segment hsegment
              rcases hmem segment hsegment with rfl | hread
              · rfl
              · exact hdrives' segment hread
    · split at h
      · exact absurd hhost (not_hasHost_of_unplaced h)
      · exact absurd hhost (not_hasHost_of_unplaced h)
  · exact absurd hhost (not_hasHost_of_unplaced h)
  · exact absurd hhost (not_hasHost_of_unplaced h)

end MapServices.Url
