import MapServices.Proofs.Url.Place
import MapServices.Proofs.Url.Split

/-!
# Written addresses

* `IsWritten`: the addresses of hosts, without users and fragments, in their written form.
* `readChars_print`: a written address is read from its written form.
* `isWritten_of_readChars`: an address of a host that has been read is written, but for its user and
  its fragment.
-/

namespace MapServices.Url

/-- The address names a host, has neither user nor fragment, and is read as it is written. -/
structure IsWritten (u : Url) : Prop where
  scheme : IsScheme u.scheme
  place : ∃ host parts, IsPlaced u (SchemeType.ofScheme u.scheme).isSpecial host parts ∧
    (SchemeType.ofScheme u.scheme = .file → IsFilePlace u host parts)
  username : u.username = []
  password : u.password = []
  query : ∀ query, u.query? = some query →
    ∀ c ∈ query, isQueryEncoded (SchemeType.ofScheme u.scheme).isSpecial c = false
  fragment : u.fragment? = none

/-! ### Characters -/

/-- The place and the path of an address, with the slashes before them. -/
def printPlace (u : Url) (host : Host) (parts : List (List Char)) : List Char :=
  '/' :: '/' :: (u.printHost host ++ (Path.segments parts).print)

theorem isVisible_of_mem_printPlace {u : Url} {special : Bool} {host : Host}
    {parts : List (List Char)} (h : IsPlaced u special host parts) :
    ∀ c ∈ printPlace u host parts, IsVisible c ∧ c ≠ '?' ∧ c ≠ '#' := by
  have hslash : IsVisible '/' ∧ '/' ≠ '?' ∧ '/' ≠ '#' := by decide
  intro c hc
  rcases List.mem_cons.1 hc with rfl | hc
  · exact hslash
  · rcases List.mem_cons.1 hc with rfl | hc
    · exact hslash
    · rcases List.mem_append.1 hc with hc | hc
      · have hchar := isHostChar_of_mem_printHost h.written c hc
        exact ⟨hchar.visible, hchar.question, hchar.hash⟩
      · obtain ⟨segment, hsegment, hc⟩ := List.mem_flatMap.1 hc
        rcases List.mem_cons.1 hc with rfl | hc
        · exact hslash
        · exact isVisible_of_path ((h.segments segment hsegment).kept c hc)

theorem isVisible_of_isSchemeChar {c : Char} (h : isSchemeChar c) : IsVisible c := by
  have hascii : c.toNat < 128 := by
    simp only [isSchemeChar, Bool.or_eq_true, decide_eq_true_eq] at h
    rcases h with ((h | rfl) | rfl) | rfl
    · exact Text.toNat_lt_of_isAlphanum h
    · decide
    · decide
    · decide
  exact Text.forall_ascii (p := fun c => isSchemeChar c → IsVisible c) (by decide +kernel) hascii h

theorem print_eq {u : Url} {host : Host} {parts : List (List Char)} (h : IsWritten u)
    (hhost : u.host? = some host) (hpath : u.path = .segments parts) :
    u.print = u.scheme ++ ':' :: (printPlace u host parts ++ queryText u.query?) := by
  simp only [print, printAuthority, printUser, h.username, h.password, h.fragment, hhost, hpath,
    printPlace]
  cases u.query? with
  | none => simp [queryText]
  | some query => simp [queryText]

theorem isVisible_of_mem_print {u : Url} (h : IsWritten u) : ∀ c ∈ u.print, IsVisible c := by
  obtain ⟨host, parts, hplaced, -⟩ := h.place
  intro c hc
  rw [print_eq h hplaced.host_eq hplaced.path_eq] at hc
  rcases List.mem_append.1 hc with hc | hc
  · exact isVisible_of_isSchemeChar (h.scheme.chars c hc).1
  · rcases List.mem_cons.1 hc with rfl | hc
    · decide
    · rcases List.mem_append.1 hc with hc | hc
      · exact (isVisible_of_mem_printPlace hplaced c hc).1
      · unfold queryText at hc
        split at hc
        · rename_i query hquery
          rcases List.mem_cons.1 hc with rfl | hc
          · decide
          · exact (isVisible_of_query (h.query query hquery c hc)).1
        · cases hc

/-! ### Reading what is written -/

theorem dropWhile_printPlace {u : Url} {special : Bool} {host : Host} {parts : List (List Char)}
    (h : IsPlaced u special host parts) :
    ((printPlace u host parts).dropWhile fun c => c = '/' || c = '\\') =
      u.printHost host ++ (Path.segments parts).print := by
  obtain ⟨c, tail, hhost⟩ := List.exists_cons_of_ne_nil h.written.ne_nil
  have hchar := h.written.chars c (hhost ▸ List.mem_cons_self)
  rw [printPlace, printHost, hhost]
  simp [hchar.slash, hchar.backslash]

theorem readPlace_print {u : Url} {host : Host} {parts : List (List Char)}
    (h : IsPlaced u (SchemeType.ofScheme u.scheme).isSpecial host parts)
    (hfile : SchemeType.ofScheme u.scheme = .file → IsFilePlace u host parts) (more : Bool) :
    readPlace u.scheme (printPlace u host parts) more =
      .ok { scheme := u.scheme, host? := some host, port? := u.port?,
            path := .segments parts } := by
  unfold readPlace
  split
  · rename_i htype
    rw [htype] at h
    rw [(hfile htype).port]
    exact readFile_print h (hfile htype)
  · rename_i htype
    rw [htype] at h
    rw [dropWhile_printPlace h]
    exact readHierarchy_print h more
  · rename_i htype
    rw [htype] at h
    exact readHierarchy_print h more

theorem readChars_print {u : Url} (h : IsWritten u) : readChars u.print = .ok u := by
  obtain ⟨host, parts, hplaced, hfile⟩ := h.place
  have hprint := print_eq h hplaced.host_eq hplaced.path_eq
  have hclean : clean u.print = u.print :=
    clean_eq_self fun c hc => (isVisible_of_mem_print h c hc).1
  have hhash : ∀ query, u.query? = some query → '#' ∉ query := fun query hquery hmem =>
    (isVisible_of_query (h.query query hquery '#' hmem)).2 rfl
  have htail := splitTail_append (fun c hc => (isVisible_of_mem_printPlace hplaced c hc).2) hhash
  have hquery : u.query?.map (percentEncode
      (isQueryEncoded (SchemeType.ofScheme u.scheme).isSpecial)) = u.query? := by
    cases hquery : u.query? with
    | none => rfl
    | some query => exact congrArg some (percentEncode_eq_self (h.query query hquery))
  have hplace := readPlace_print hplaced hfile (u.query?.isSome || false)
  rw [readChars, hclean, hprint, splitScheme?_append h.scheme]
  simp only [htail, hquery]
  rw [Failure.bind_eq_ok]
  refine ⟨_, hplace, ?_⟩
  obtain ⟨scheme, username, password, host?, port?, path, query?, fragment?⟩ := u
  obtain ⟨hhost, hpath, -⟩ := hplaced
  obtain ⟨-, -, husername, hpassword, -, hfragment⟩ := h
  cases hhost
  cases hpath
  cases husername
  cases hpassword
  cases hfragment
  rfl

/-! ### Writing what is read -/

theorem isPlaced_of_readPlace {scheme s : List Char} {more : Bool} {u : Url}
    (h : readPlace scheme s more = .ok u) (hhost : u.hasHost) :
    u.scheme = scheme ∧ ∃ host parts,
      IsPlaced u (SchemeType.ofScheme scheme).isSpecial host parts ∧
        (SchemeType.ofScheme scheme = .file → IsFilePlace u host parts) := by
  unfold readPlace at h
  split at h
  · rename_i htype
    rw [htype]
    obtain ⟨hscheme, host, parts, hplaced, hfile⟩ := isPlaced_of_readFile h hhost
    exact ⟨hscheme, host, parts, hplaced, fun _ => hfile⟩
  · rename_i htype
    rw [htype]
    obtain ⟨hscheme, host, parts, hplaced⟩ := isPlaced_of_readHierarchy h hhost
    exact ⟨hscheme, host, parts, hplaced, nofun⟩
  · rename_i htype
    rw [htype]
    unfold readOther at h
    split at h
    · obtain ⟨hscheme, host, parts, hplaced⟩ := isPlaced_of_readHierarchy h hhost
      exact ⟨hscheme, host, parts, hplaced, nofun⟩
    · cases h
      cases hhost
    · cases h
      cases hhost

theorem isWritten_of_readChars {s : List Char} {u : Url} (h : readChars s = .ok u)
    (hhost : u.hasHost) :
    IsWritten { u with username := [], password := [], fragment? := none } := by
  unfold readChars at h
  split at h
  · cases h
  · rename_i scheme rest hsplit
    simp only at h
    rw [Failure.bind_eq_ok] at h
    obtain ⟨u', hread, h⟩ := h
    cases h
    obtain ⟨hscheme, host, parts, hplaced, hfile⟩ := isPlaced_of_readPlace hread hhost
    subst hscheme
    have hsame : SamePlace u' { u' with
        username := []
        password := []
        query? := (splitTail rest).2.1.map
          (percentEncode (isQueryEncoded (SchemeType.ofScheme u'.scheme).isSpecial))
        fragment? := none } := ⟨rfl, rfl, rfl, rfl⟩
    refine ⟨isScheme_of_splitScheme? hsplit, ⟨host, parts, hplaced.congr hsame,
      fun htype => (hfile htype).congr hsame⟩, rfl, rfl, ?_, rfl⟩
    intro query hquery
    obtain ⟨text, -, rfl⟩ := Option.map_eq_some_iff.1 hquery
    exact not_encoded_of_mem (sparesDigits_query _)

/-- Another query in its written form may stand in the place of the query. -/
theorem IsWritten.replaceQuery {u : Url} (h : IsWritten u) {query? : Option (List Char)}
    (hquery : ∀ query, query? = some query →
      ∀ c ∈ query, isQueryEncoded (SchemeType.ofScheme u.scheme).isSpecial c = false) :
    IsWritten { u with query? := query? } := by
  obtain ⟨host, parts, hplaced, hfile⟩ := h.place
  have hsame : SamePlace u { u with query? := query? } := ⟨rfl, rfl, rfl, rfl⟩
  exact ⟨h.scheme, ⟨host, parts, hplaced.congr hsame, fun htype => (hfile htype).congr hsame⟩,
    h.username, h.password, hquery, h.fragment⟩

end MapServices.Url
