import Mathlib.Data.List.Forall2
import Mathlib.Data.List.Induction

/-!
# Lists of results, and lists of parts

* `mapM_eq_some_iff`: a list of results is one result for each element.
* `append_cons_inj`: where a list is split at the first occurrence of an element.
* `mem_of_mem_splitOnP`: the parts of a list hold elements of the list and no separator.
* `splitOnP_intercalate`: parts that are put together are split again.
* `eraseDups_concat`, `nodup_eraseDups`: the elements of a list, each where it occurs first.
-/

namespace MapServices.Lists

variable {α β : Type} {f : α → Option β} {l : List α} {l' : List β}

theorem mapM_eq_some_iff :
    l.mapM f = some l' ↔ List.Forall₂ (fun a b => f a = some b) l l' := by
  induction l generalizing l' with
  | nil =>
    rw [List.mapM_nil, List.forall₂_nil_left_iff]
    constructor
    · rintro ⟨⟩
      rfl
    · rintro rfl
      rfl
  | cons a l ih =>
    rw [List.mapM_cons, List.forall₂_cons_left_iff]
    constructor
    · intro h
      obtain ⟨b, hb, h⟩ := Option.bind_eq_some_iff.1 h
      obtain ⟨bs, hbs, h⟩ := Option.bind_eq_some_iff.1 h
      cases h
      exact ⟨b, bs, hb, ih.1 hbs, rfl⟩
    · rintro ⟨b, bs, hb, hbs, rfl⟩
      rw [hb, ih.2 hbs]
      rfl

theorem mapM_eq_some_map {g : α → β} (h : ∀ a ∈ l, f a = some (g a)) :
    l.mapM f = some (l.map g) := by
  rw [mapM_eq_some_iff, List.forall₂_map_right_iff, List.forall₂_same]
  exact h

theorem exists_of_forall₂_of_mem {R : α → β → Prop} {b : β} (h : List.Forall₂ R l l')
    (hb : b ∈ l') : ∃ a ∈ l, R a b := by
  induction h with
  | nil => cases hb
  | cons hab _ ih =>
    rcases List.mem_cons.1 hb with rfl | hb
    · exact ⟨_, List.mem_cons_self, hab⟩
    · obtain ⟨a, ha, hab⟩ := ih hb
      exact ⟨a, List.mem_cons_of_mem _ ha, hab⟩

/-- Each result is that of an element. -/
theorem exists_of_mapM {b : β} (h : l.mapM f = some l') (hb : b ∈ l') : ∃ a ∈ l, f a = some b := by
  have hall := mapM_eq_some_iff.1 h
  exact exists_of_forall₂_of_mem (R := fun a b => f a = some b) hall hb

theorem exists_mapM (h : ∀ a ∈ l, ∃ b, f a = some b) : ∃ l', l.mapM f = some l' := by
  induction l with
  | nil => exact ⟨[], rfl⟩
  | cons a l ih =>
    obtain ⟨b, hb⟩ := h a List.mem_cons_self
    obtain ⟨bs, hbs⟩ := ih fun a' ha' => h a' (List.mem_cons_of_mem _ ha')
    exact ⟨b :: bs, by rw [List.mapM_cons, hb, hbs]; rfl⟩

/-! ### Parts -/

/-- The first occurrence of an element splits a list in one way only. -/
theorem append_cons_inj {a : α} {s s' t t' : List α} (hs : a ∉ s) (hs' : a ∉ s')
    (h : s ++ a :: t = s' ++ a :: t') : s = s' ∧ t = t' := by
  induction s generalizing s' with
  | nil =>
    cases s' with
    | nil => exact ⟨rfl, (List.cons.inj h).2⟩
    | cons b s' => exact absurd ((List.cons.inj h).1 ▸ List.mem_cons_self) hs'
  | cons b s ih =>
    cases s' with
    | nil => exact absurd ((List.cons.inj h).1 ▸ List.mem_cons_self) hs
    | cons b' s' =>
      obtain ⟨rfl, htail⟩ := List.cons.inj h
      obtain ⟨rfl, rfl⟩ := ih (fun hmem => hs (List.mem_cons_of_mem _ hmem))
        (fun hmem => hs' (List.mem_cons_of_mem _ hmem)) htail
      exact ⟨rfl, rfl⟩

theorem mem_intercalate {sep a : α} {parts : List (List α)} (h : a ∈ [sep].intercalate parts) :
    a = sep ∨ ∃ part ∈ parts, a ∈ part := by
  induction parts with
  | nil => cases h
  | cons part parts ih =>
    cases parts with
    | nil =>
      rw [List.intercalate_singleton] at h
      exact Or.inr ⟨part, List.mem_cons_self, h⟩
    | cons next parts =>
      rw [List.intercalate_cons_cons, List.append_assoc, List.mem_append, List.mem_append,
        List.mem_singleton] at h
      rcases h with h | h | h
      · exact Or.inr ⟨part, List.mem_cons_self, h⟩
      · exact Or.inl h
      · rcases ih h with h | ⟨other, hother, h⟩
        · exact Or.inl h
        · exact Or.inr ⟨other, List.mem_cons_of_mem _ hother, h⟩

theorem mem_of_mem_splitOnP {p : α → Bool} {l part : List α} (h : part ∈ l.splitOnP p) :
    ∀ a ∈ part, a ∈ l ∧ p a = false := by
  induction l generalizing part with
  | nil =>
    rw [List.splitOnP_nil, List.mem_singleton] at h
    rw [h]
    exact fun a ha => absurd ha (List.not_mem_nil)
  | cons b l ih =>
    rw [List.splitOnP_cons_eq_if_modifyHead] at h
    have hrest : part ∈ l.splitOnP p → ∀ a ∈ part, a ∈ b :: l ∧ p a = false := by
      intro hpart a ha
      obtain ⟨hmem, hp⟩ := ih hpart a ha
      exact ⟨List.mem_cons_of_mem _ hmem, hp⟩
    split at h
    · rcases List.mem_cons.1 h with rfl | h
      · exact fun a ha => absurd ha (List.not_mem_nil)
      · exact hrest h
    · rename_i hb
      cases hparts : l.splitOnP p with
      | nil => exact absurd hparts (List.splitOnP_ne_nil p l)
      | cons first parts =>
        rw [hparts, List.modifyHead_cons] at h
        rcases List.mem_cons.1 h with rfl | h
        · intro a ha
          rcases List.mem_cons.1 ha with rfl | ha
          · exact ⟨List.mem_cons_self, by simpa using hb⟩
          · obtain ⟨hmem, hp⟩ := ih (hparts ▸ List.mem_cons_self) a ha
            exact ⟨List.mem_cons_of_mem _ hmem, hp⟩
        · exact hrest (hparts ▸ List.mem_cons_of_mem _ h)

theorem splitOnP_intercalate {p : α → Bool} {sep : α} (hsep : p sep) {parts : List (List α)}
    (hne : parts ≠ []) (h : ∀ part ∈ parts, ∀ a ∈ part, p a = false) :
    ([sep].intercalate parts).splitOnP p = parts := by
  induction parts with
  | nil => exact absurd rfl hne
  | cons part parts ih =>
    have hpart := h part List.mem_cons_self
    cases parts with
    | nil =>
      rw [List.intercalate_singleton]
      exact List.splitOnP_eq_singleton hpart
    | cons next parts =>
      rw [List.intercalate_cons_cons, List.append_assoc, List.singleton_append,
        List.splitOnP_append_cons_of_forall_mem hpart sep hsep,
        ih (List.cons_ne_nil _ _) fun other hother => h other (List.mem_cons_of_mem _ hother)]

theorem mem_of_mem_splitOn [BEq α] [LawfulBEq α] {sep : α} {l part : List α}
    (h : part ∈ l.splitOn sep) : ∀ a ∈ part, a ∈ l ∧ a ≠ sep := by
  rw [List.splitOn_eq_splitOnP] at h
  intro a ha
  obtain ⟨hmem, hne⟩ := mem_of_mem_splitOnP h a ha
  exact ⟨hmem, beq_eq_false_iff_ne.1 hne⟩

/-- A part of a list that was put together from parts stands in it. -/
theorem isInfix_intercalate {sep : α} {part : List α} {parts : List (List α)} (h : part ∈ parts) :
    part <:+: [sep].intercalate parts := by
  induction parts with
  | nil => cases h
  | cons first parts ih =>
    cases parts with
    | nil =>
      simp [List.mem_singleton.1 h]
    | cons next parts =>
      rw [List.intercalate_cons_cons, List.append_assoc]
      rcases List.mem_cons.1 h with rfl | h
      · exact (List.prefix_append _ _).isInfix
      · exact (ih h).trans ((List.suffix_append _ _).trans (List.suffix_append _ _)).isInfix

theorem isInfix_of_mem_splitOn [BEq α] [LawfulBEq α] {sep : α} {l part : List α}
    (h : part ∈ l.splitOn sep) : part <:+: l := by
  have hwhole : [sep].intercalate (l.splitOn sep) = l := List.intercalate_splitOn sep
  exact hwhole ▸ isInfix_intercalate h

/-- A cut of a list with a last element is at that element or inside the rest. -/
theorem concat_eq_append_cons {front before after : List α} {a i : α}
    (h : front ++ [a] = before ++ i :: after) :
    before = front ∧ i = a ∨ ∃ after', front = before ++ i :: after' := by
  rcases List.eq_nil_or_concat after with rfl | ⟨after', j, rfl⟩
  · obtain ⟨rfl, hi⟩ := List.append_inj' h rfl
    exact Or.inl ⟨rfl, (List.singleton_inj.1 hi).symm⟩
  · rw [List.concat_eq_append, ← List.cons_append, ← List.append_assoc] at h
    exact Or.inr ⟨after', (List.append_inj' h rfl).1⟩

/-! ### First occurrences -/

theorem eraseDups_concat [BEq α] [LawfulBEq α] (l : List α) (a : α) :
    (l ++ [a]).eraseDups = if a ∈ l then l.eraseDups else l.eraseDups ++ [a] := by
  rw [List.eraseDups_append]
  split <;> simp [List.removeAll, List.eraseDups_cons, *]

theorem nodup_eraseDups [BEq α] [LawfulBEq α] (l : List α) : l.eraseDups.Nodup := by
  induction l using List.reverseRecOn with
  | nil => exact List.nodup_nil
  | append_singleton l a ih =>
    rw [eraseDups_concat]
    split
    · exact ih
    · rename_i ha
      refine List.nodup_append.2 ⟨ih, List.pairwise_singleton _ a, ?_⟩
      rintro b hb _ hc rfl
      exact ha (List.mem_singleton.1 hc ▸ List.mem_eraseDups.1 hb)

end MapServices.Lists
