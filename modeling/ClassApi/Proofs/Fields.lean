import ClassApi.Fields
import Mathlib.Data.List.Induction
import Mathlib.Data.List.Nodup

/-!
# Laws of ordered fields

What a lookup finds after a write. The laws hold for every association list, repeated names
included, because a lookup and a write stop at the same member. Only writing entries as they stand
needs names that do not repeat.
-/

namespace ClassApi.Fields

variable {α : Type}

@[simp] theorem get?_insert_self (fields : Fields α) (name : String) (value : α) :
    get? (insert fields name value) name = some value := by
  induction fields with
  | nil => simp [insert, get?]
  | cons entry rest ih =>
    obtain ⟨key, old⟩ := entry
    by_cases hk : key = name
    · simp [insert, get?, hk]
    · simp only [insert, if_neg hk, get?]
      exact ih

theorem get?_insert_of_ne (fields : Fields α) {name other : String} (value : α) (h : other ≠ name) :
    get? (insert fields name value) other = get? fields other := by
  induction fields with
  | nil => simp [insert, get?, Ne.symm h]
  | cons entry rest ih =>
    obtain ⟨key, old⟩ := entry
    by_cases hk : key = name
    · have hko : key ≠ other := fun e => h (e.symm.trans hk)
      simp only [insert, if_pos hk, get?, if_neg hko]
    · simp only [insert, if_neg hk, get?]
      rw [ih]

/-- A write changes what is found under its own name and nothing else. -/
theorem get?_insert (fields : Fields α) (name other : String) (value : α) :
    get? (insert fields name value) other =
      if other = name then some value else get? fields other := by
  by_cases h : other = name
  · rw [if_pos h, h]
    exact get?_insert_self fields name value
  · rw [if_neg h]
    exact get?_insert_of_ne fields value h

theorem mem_of_get? {fields : Fields α} {name : String} {value : α}
    (h : get? fields name = some value) : (name, value) ∈ fields := by
  induction fields with
  | nil => cases h
  | cons entry rest ih =>
    obtain ⟨key, old⟩ := entry
    by_cases hk : key = name
    · rw [get?, if_pos hk] at h
      cases h
      rw [hk]
      exact List.mem_cons_self
    · rw [get?, if_neg hk] at h
      exact List.mem_cons_of_mem _ (ih h)

theorem ne_of_notMem {fields : Fields α} {name : String} (h : name ∉ names fields)
    {entry : String × α} (hm : entry ∈ fields) : entry.1 ≠ name := by
  rintro rfl
  exact h (List.mem_map_of_mem hm)

theorem notMem_names_of_nodup {front rest : Fields α} {name : String} {value : α}
    (h : (names (front ++ (name, value) :: rest)).Nodup) : name ∉ names front := by
  rw [names, List.map_append] at h
  exact fun hmem => (List.nodup_append.mp h).2.2 name hmem name List.mem_cons_self rfl

/-- When names do not repeat, every member is found under its name. -/
theorem get?_eq_some_iff {fields : Fields α} (h : (names fields).Nodup) {name : String}
    {value : α} : get? fields name = some value ↔ (name, value) ∈ fields := by
  refine ⟨mem_of_get?, fun hm => ?_⟩
  induction fields with
  | nil => exact absurd hm List.not_mem_nil
  | cons entry rest ih =>
    obtain ⟨key, old⟩ := entry
    obtain ⟨hkey, hrest⟩ := List.nodup_cons.mp h
    rcases List.mem_cons.mp hm with he | hm
    · cases he
      rw [get?, if_pos rfl]
    · rw [get?, if_neg (Ne.symm (ne_of_notMem hkey hm))]
      exact ih hrest hm

theorem get?_eq_none {fields : Fields α} {name : String} (h : name ∉ names fields) :
    get? fields name = none := by
  cases hg : get? fields name with
  | none => rfl
  | some value => exact absurd (List.mem_map_of_mem (mem_of_get? hg)) h

theorem exists_get?_of_mem_names {fields : Fields α} {name : String} (h : name ∈ names fields) :
    ∃ value, get? fields name = some value := by
  induction fields with
  | nil => exact absurd h List.not_mem_nil
  | cons entry rest ih =>
    obtain ⟨key, value⟩ := entry
    by_cases hk : key = name
    · exact ⟨value, by rw [get?, if_pos hk]⟩
    · rw [get?, if_neg hk]
      exact ih ((List.mem_cons.mp h).resolve_left (Ne.symm hk))

theorem exists_get?_iff {fields : Fields α} {name : String} :
    (∃ value, get? fields name = some value) ↔ name ∈ names fields :=
  ⟨fun ⟨_, h⟩ => List.mem_map_of_mem (mem_of_get? h), exists_get?_of_mem_names⟩

/-- When names do not repeat, it does not matter in which order the members stand. -/
theorem get?_perm {fields others : Fields α} (h : fields.Perm others)
    (hnodup : (names fields).Nodup) (name : String) : get? fields name = get? others name := by
  have hnodup' : (names others).Nodup := (h.map Prod.fst).nodup_iff.mp hnodup
  refine Option.ext fun value => ?_
  rw [get?_eq_some_iff hnodup, get?_eq_some_iff hnodup', h.mem_iff]

theorem contains_eq_true_iff {fields : Fields α} {name : String} :
    contains fields name = true ↔ name ∈ names fields := by
  rw [contains, Option.isSome_iff_exists, exists_get?_iff]

/-- Writing to a name that is present changes no name. -/
theorem names_insert_of_mem {fields : Fields α} {name : String} (value : α)
    (h : name ∈ names fields) : names (insert fields name value) = names fields := by
  induction fields with
  | nil => exact absurd h List.not_mem_nil
  | cons entry rest ih =>
    obtain ⟨key, old⟩ := entry
    by_cases hk : key = name
    · rw [insert, if_pos hk]
      rfl
    · have hrest : name ∈ names rest := (List.mem_cons.mp h).resolve_left (Ne.symm hk)
      rw [insert, if_neg hk, names, List.map_cons, ← names, ih hrest]
      rfl

/-- Every member after a write is the one that was written or was there before. -/
theorem mem_insert {fields : Fields α} {name : String} {value : α} {entry : String × α}
    (h : entry ∈ insert fields name value) : entry = (name, value) ∨ entry ∈ fields := by
  induction fields with
  | nil => exact Or.inl (List.mem_singleton.mp h)
  | cons head rest ih =>
    obtain ⟨key, old⟩ := head
    by_cases hk : key = name
    · rw [insert, if_pos hk, hk] at h
      rcases List.mem_cons.mp h with he | hm
      · exact Or.inl he
      · exact Or.inr (List.mem_cons_of_mem _ hm)
    · rw [insert, if_neg hk] at h
      rcases List.mem_cons.mp h with he | hm
      · exact Or.inr (he ▸ List.mem_cons_self)
      · exact (ih hm).imp_right (List.mem_cons_of_mem _)

/-- When names do not repeat, a write takes the place of the member of its name. -/
theorem mem_insert_iff {fields : Fields α} (h : (names fields).Nodup) {name : String} {value : α}
    {entry : String × α} :
    entry ∈ insert fields name value ↔ entry = (name, value) ∨
      (entry ∈ fields ∧ entry.1 ≠ name) := by
  induction fields with
  | nil => simp [insert]
  | cons head rest ih =>
    obtain ⟨key, old⟩ := head
    obtain ⟨hkey, hrest⟩ := List.nodup_cons.mp h
    by_cases hk : key = name
    · have hother : ∀ e ∈ rest, e.1 ≠ name := fun e he => ne_of_notMem (hk ▸ hkey) he
      rw [insert, if_pos hk, hk, List.mem_cons, List.mem_cons]
      constructor
      · rintro (he | hm)
        · exact Or.inl he
        · exact Or.inr ⟨Or.inr hm, hother entry hm⟩
      · rintro (he | ⟨rfl | hm, hn⟩)
        · exact Or.inl he
        · exact absurd rfl hn
        · exact Or.inr hm
    · rw [insert, if_neg hk, List.mem_cons, List.mem_cons, ih hrest]
      constructor
      · rintro (rfl | he | ⟨hm, hn⟩)
        · exact Or.inr ⟨Or.inl rfl, hk⟩
        · exact Or.inl he
        · exact Or.inr ⟨Or.inr hm, hn⟩
      · rintro (he | ⟨rfl | hm, hn⟩)
        · exact Or.inr (Or.inl he)
        · exact Or.inl rfl
        · exact Or.inr (Or.inr ⟨hm, hn⟩)

theorem get?_remove_of_ne (fields : Fields α) {name other : String} (h : other ≠ name) :
    get? (remove fields name) other = get? fields other := by
  induction fields with
  | nil => rfl
  | cons entry rest ih =>
    obtain ⟨key, old⟩ := entry
    by_cases hk : key = name
    · have hko : key ≠ other := fun e => h (e.symm.trans hk)
      rw [remove, if_pos hk, get?, if_neg hko]
    · rw [remove, if_neg hk, get?, get?, ih]

/-- When names do not repeat, only the member of the name is dropped. -/
theorem mem_remove_iff {fields : Fields α} (h : (names fields).Nodup) {name : String}
    {entry : String × α} :
    entry ∈ remove fields name ↔ entry ∈ fields ∧ entry.1 ≠ name := by
  induction fields with
  | nil => simp [remove]
  | cons head rest ih =>
    obtain ⟨key, old⟩ := head
    obtain ⟨hkey, hrest⟩ := List.nodup_cons.mp h
    by_cases hk : key = name
    · have hother : ∀ e ∈ rest, e.1 ≠ name := fun e he => ne_of_notMem (hk ▸ hkey) he
      rw [remove, if_pos hk, List.mem_cons]
      constructor
      · exact fun hm => ⟨Or.inr hm, hother entry hm⟩
      · rintro ⟨rfl | hm, hn⟩
        · exact absurd hk hn
        · exact hm
    · rw [remove, if_neg hk, List.mem_cons, List.mem_cons, ih hrest]
      constructor
      · rintro (rfl | ⟨hm, hn⟩)
        · exact ⟨Or.inl rfl, hk⟩
        · exact ⟨Or.inr hm, hn⟩
      · rintro ⟨rfl | hm, hn⟩
        · exact Or.inl rfl
        · exact Or.inr ⟨hm, hn⟩

theorem get?_remove_self {fields : Fields α} (h : (names fields).Nodup) (name : String) :
    get? (remove fields name) name = none := by
  refine get?_eq_none fun hmem => ?_
  obtain ⟨entry, hentry, rfl⟩ := List.mem_map.mp hmem
  exact ((mem_remove_iff h).mp hentry).2 rfl

theorem sublist_remove (fields : Fields α) (name : String) :
    (remove fields name).Sublist fields := by
  induction fields with
  | nil => exact List.Sublist.slnil
  | cons entry rest ih =>
    obtain ⟨key, old⟩ := entry
    by_cases hk : key = name
    · rw [remove, if_pos hk]
      exact List.sublist_cons_self _ rest
    · rw [remove, if_neg hk]
      exact ih.cons_cons _

theorem nodup_remove {fields : Fields α} (h : (names fields).Nodup) (name : String) :
    (names (remove fields name)).Nodup :=
  ((sublist_remove fields name).map Prod.fst).nodup h

theorem mem_names_insert {fields : Fields α} {name other : String} {value : α} :
    other ∈ names (insert fields name value) ↔ other = name ∨ other ∈ names fields := by
  induction fields with
  | nil => simp [insert, names]
  | cons entry rest ih =>
    obtain ⟨key, old⟩ := entry
    by_cases hk : key = name
    · simp only [insert, if_pos hk, names, List.map_cons, List.mem_cons]
      rw [hk]
      tauto
    · simp only [insert, if_neg hk, names, List.map_cons, List.mem_cons] at ih ⊢
      rw [ih]
      tauto

/-- Writing keeps names from repeating. -/
theorem nodup_insert {fields : Fields α} (h : (names fields).Nodup) (name : String) (value : α) :
    (names (insert fields name value)).Nodup := by
  induction fields with
  | nil => exact List.nodup_singleton name
  | cons entry rest ih =>
    obtain ⟨key, old⟩ := entry
    obtain ⟨hkey, hrest⟩ := List.nodup_cons.mp h
    by_cases hk : key = name
    · rw [insert, if_pos hk]
      exact h
    · rw [insert, if_neg hk]
      refine List.nodup_cons.mpr ⟨fun hmem => ?_, ih hrest⟩
      rcases mem_names_insert.mp hmem with he | hm
      · exact hk he
      · exact hkey hm

/-- A write to a name that is not present appends. -/
theorem insert_eq_append {fields : Fields α} {name : String} (value : α) (h : name ∉ names fields) :
    insert fields name value = fields ++ [(name, value)] := by
  induction fields with
  | nil => rfl
  | cons entry rest ih =>
    obtain ⟨key, old⟩ := entry
    have hne : key ≠ name := fun e => h (e ▸ List.mem_cons_self)
    have hrest : name ∉ names rest := fun hm => h (List.mem_cons_of_mem _ hm)
    rw [insert, if_neg hne, ih hrest]
    rfl

/-- Entries whose names do not repeat are written as they stand. -/
theorem ofEntries_of_nodup {entries : List (String × α)} (h : (entries.map Prod.fst).Nodup) :
    ofEntries entries = entries := by
  induction entries using List.reverseRecOn with
  | nil => rfl
  | append_singleton front last ih =>
    rw [List.map_append, List.map_singleton] at h
    obtain ⟨hfront, -, hdisj⟩ := List.nodup_append.mp h
    have hlast : last.1 ∉ names front := fun hm => hdisj _ hm _ (List.mem_singleton_self _) rfl
    unfold ofEntries at ih ⊢
    rw [List.foldl_append, ih hfront]
    exact insert_eq_append last.2 hlast

/-- Entries that come from members whose names do not repeat, each renamed in a way that keeps names
apart, are written as they stand. -/
theorem ofEntries_filterMap {β : Type} {fields : Fields β} (h : (names fields).Nodup)
    {rename : String → String} (hrename : Function.Injective rename)
    {f : String × β → Option (String × α)}
    (hf : ∀ member entry, f member = some entry → entry.1 = rename member.1) :
    ofEntries (fields.filterMap f) = fields.filterMap f ∧ (names (fields.filterMap f)).Nodup := by
  have hsub : ((fields.filterMap f).map Prod.fst).Sublist ((names fields).map rename) := by
    clear h
    induction fields with
    | nil => exact List.Sublist.slnil
    | cons member rest ih =>
      rw [names, List.map_cons, List.map_cons]
      cases hm : f member with
      | none =>
        rw [List.filterMap_cons_none hm]
        exact ih.cons _
      | some entry =>
        rw [List.filterMap_cons_some hm, List.map_cons, hf member entry hm]
        exact ih.cons_cons _
  have hnodup := hsub.nodup (h.map hrename)
  exact ⟨ofEntries_of_nodup hnodup, hnodup⟩

theorem nodup_ofEntries (entries : List (String × α)) : (names (ofEntries entries)).Nodup := by
  induction entries using List.reverseRecOn with
  | nil => exact List.nodup_nil
  | append_singleton front last ih =>
    unfold ofEntries at ih ⊢
    rw [List.foldl_append]
    exact nodup_insert ih last.1 last.2

theorem mem_of_mem_ofEntries {entries : List (String × α)} {entry : String × α}
    (h : entry ∈ ofEntries entries) : entry ∈ entries := by
  induction entries using List.reverseRecOn with
  | nil => cases h
  | append_singleton front last ih =>
    unfold ofEntries at ih h
    rw [List.foldl_append] at h
    rcases mem_insert h with he | hm
    · exact List.mem_append_right front (List.mem_singleton.mpr he)
    · exact List.mem_append_left [last] (ih hm)

end ClassApi.Fields
