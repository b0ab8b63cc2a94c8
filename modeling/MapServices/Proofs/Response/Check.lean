import MapServices.Proofs.Failure
import MapServices.Response.Basic

/-!
# Accepted answers

* `check_eq_ok_iff`: an answer is accepted if it passes each of its checks, and which text it has
  then.
* `checkRoot_eq_ok_iff`: the first tag of an accepted document is that of a root that belongs to
  what was asked for.
-/

namespace MapServices.Response

variable {r : Response} {serviceType : ServiceType} {version : Option String} {data : List Char}
  {indexes : Encoding.Indexes} {body : CheckedBody}

theorem ofChars_eq_ok_iff {root : Root} : Root.ofChars data = .ok root ↔
    ∃ tag ∈ firstTag? (Xml.Reading.ofChars data).events, Root.ofTag tag = .ok root := by
  simp only [Root.ofChars, Option.mem_def]
  cases firstTag? (Xml.Reading.ofChars data).events with
  | some tag => simp
  | none => cases (Xml.Reading.ofChars data).failure? <;> simp

theorem checkRoot_eq_ok_iff : checkRoot serviceType version data = .ok () ↔
    ∃ root, Root.ofChars data = .ok root ∧ accepts serviceType version root := by
  unfold checkRoot
  cases Root.ofChars data with
  | error e => simp
  | ok root => by_cases h : accepts serviceType version root <;> simp [h]

theorem checkText_eq_ok_iff {name : String} {text : List Char} :
    checkText serviceType version name text = .ok body ↔
      checkRoot serviceType version (stripDeclaration text) = .ok () ∧
        body = ⟨name, String.ofList (stripDeclaration text)⟩ := by
  rw [checkText, Failure.bind_eq_ok]
  constructor
  · rintro ⟨_, hroot, h⟩
    cases h
    exact ⟨hroot, rfl⟩
  · rintro ⟨hroot, rfl⟩
    exact ⟨(), hroot, rfl⟩

/-- An answer is accepted if its head, its encoding and the root of its document are. -/
theorem check_eq_ok_iff : (r.check serviceType version indexes).1 = .ok body ↔
    r.checkHead = .ok () ∧ ∃ e, r.encoding = .ok e ∧
      checkRoot serviceType version (stripDeclaration (e.decode indexes r.body).text) = .ok () ∧
      body = ⟨e.name, String.ofList (stripDeclaration (e.decode indexes r.body).text)⟩ := by
  have hfirst : ∀ {e : Encoding}, (do r.checkHead; r.encoding) = .ok e ↔
      r.checkHead = .ok () ∧ r.encoding = .ok e := by
    intro e
    rw [Failure.bind_eq_ok]
    exact ⟨fun ⟨_, hhead, h⟩ => ⟨hhead, h⟩, fun ⟨hhead, h⟩ => ⟨(), hhead, h⟩⟩
  unfold check
  split
  · rename_i hfault
    constructor
    · intro h
      cases h
    · rintro ⟨hhead, e, hencoding, -⟩
      rw [hfirst.2 ⟨hhead, hencoding⟩] at hfault
      cases hfault
  · rename_i e he
    obtain ⟨hhead, hencoding⟩ := hfirst.1 he
    rw [checkText_eq_ok_iff]
    constructor
    · exact fun h => ⟨hhead, e, hencoding, h⟩
    · rintro ⟨-, e', hencoding', h⟩
      rw [hencoding] at hencoding'
      cases hencoding'
      exact h

end MapServices.Response
