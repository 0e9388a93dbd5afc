import ClassApi.Proofs.Fields
import Mathlib.Data.List.Pairwise

/-!
# Entries that are added and merged

Two ways to bring entries into ordered fields. Entries that are added only where their name is
missing give way to what stands there: what is found under a name is the first entry of that name.
Entries that are all written give way to those behind them: what is found is the last one. No entry
is discarded when each has a name that is new when its turn comes.
-/

namespace ClassApi

/-- What the members of a list without repetition bring together does not repeat when it does not
for any of them, and for no two of them. -/
theorem nodup_flatMap_iff {α β : Type} {xs : List α} {f : α → List β} (h : xs.Nodup) :
    (xs.flatMap f).Nodup ↔ (∀ x ∈ xs, (f x).Nodup) ∧ ∀ x ∈ xs, ∀ y ∈ xs, x ≠ y →
      (f x).Disjoint (f y) := by
  have hsymm : Std.Symm (Function.onFun List.Disjoint f) := ⟨fun _ _ => List.disjoint_symm⟩
  rw [List.nodup_flatMap]
  exact and_congr_right fun _ =>
    ⟨fun hpairwise _ hx _ hy hne => hpairwise.forall hx hy hne, h.pairwise_of_forall_ne⟩

namespace Fields

variable {α : Type}

theorem get?_append (fields others : Fields α) (name : String) :
    get? (fields ++ others) name = (get? fields name).or (get? others name) := by
  induction fields with
  | nil => rfl
  | cons entry rest ih =>
    obtain ⟨key, value⟩ := entry
    by_cases hk : key = name
    · rw [List.cons_append, get?, get?, if_pos hk, if_pos hk, Option.some_or]
    · rw [List.cons_append, get?, get?, if_neg hk, if_neg hk, ih]

theorem names_cons (entry : String × α) (rest : Fields α) :
    names (entry :: rest) = entry.1 :: names rest := rfl

theorem names_append (fields others : Fields α) :
    names (fields ++ others) = names fields ++ names others :=
  List.map_append

theorem names_reverse (fields : Fields α) : names fields.reverse = (names fields).reverse :=
  List.map_reverse

/-! ## Adding what is missing -/

theorem addMissing_cons (fields : Fields α) (entry : String × α) (rest : List (String × α)) :
    addMissing fields (entry :: rest) =
      addMissing (if contains fields entry.1 then fields else insert fields entry.1 entry.2) rest :=
  rfl

/-- The first entry of a name is the one that is found. -/
theorem get?_addMissing (fields : Fields α) (entries : List (String × α)) (name : String) :
    get? (addMissing fields entries) name = get? (fields ++ entries) name := by
  induction entries generalizing fields with
  | nil => rw [List.append_nil, addMissing, List.foldl_nil]
  | cons entry rest ih =>
    obtain ⟨key, value⟩ := entry
    rw [addMissing_cons, ih, get?_append, get?_append, get?]
    by_cases hmem : key ∈ names fields
    · -- the entry is discarded, and what stands under its name is found before it
      rw [if_pos (contains_eq_true_iff.mpr hmem)]
      by_cases hk : key = name
      · obtain ⟨old, hold⟩ := exists_get?_of_mem_names (hk ▸ hmem)
        rw [hold, Option.some_or, Option.some_or]
      · rw [if_neg hk]
    · rw [if_neg fun hc => hmem (contains_eq_true_iff.mp hc), insert_eq_append value hmem,
        ← get?_append, List.append_assoc, List.singleton_append, get?_append, get?]

theorem mem_names_addMissing {fields : Fields α} {entries : List (String × α)} {name : String} :
    name ∈ names (addMissing fields entries) ↔ name ∈ names (fields ++ entries) := by
  rw [← exists_get?_iff, ← exists_get?_iff, get?_addMissing]

theorem nodup_addMissing {fields : Fields α} (h : (names fields).Nodup)
    (entries : List (String × α)) : (names (addMissing fields entries)).Nodup := by
  induction entries generalizing fields with
  | nil => exact h
  | cons entry rest ih =>
    rw [addMissing_cons]
    by_cases hc : contains fields entry.1 = true
    · rw [if_pos hc]
      exact ih h
    · rw [if_neg hc]
      exact ih (nodup_insert h _ _)

/-- Nothing is found but what was there and what was added. -/
theorem mem_of_mem_addMissing {fields : Fields α} {entries : List (String × α)} {entry : String × α}
    (h : entry ∈ addMissing fields entries) : entry ∈ fields ∨ entry ∈ entries := by
  induction entries generalizing fields with
  | nil => exact Or.inl h
  | cons next rest ih =>
    rw [addMissing_cons] at h
    rcases ih h with hold | hrest
    · split at hold
      · exact Or.inl hold
      · rcases mem_insert hold with rfl | hold
        · exact Or.inr List.mem_cons_self
        · exact Or.inl hold
    · exact Or.inr (List.mem_cons_of_mem _ hrest)

/-- Whether every entry has a name that is new when its turn comes. -/
def AllNew (fields : Fields α) : List (String × α) → Prop
  | [] => True
  | (name, value) :: rest => name ∉ names fields ∧ AllNew (addMissing fields [(name, value)]) rest

/-- All entries are new when their names differ from one another and from those there are. -/
theorem allNew_iff {fields : Fields α} {entries : List (String × α)} :
    AllNew fields entries ↔ (names entries).Nodup ∧ (names fields).Disjoint (names entries) := by
  induction entries generalizing fields with
  | nil => exact ⟨fun _ => ⟨List.nodup_nil, List.disjoint_nil_right _⟩, fun _ => trivial⟩
  | cons entry rest ih =>
    obtain ⟨name, value⟩ := entry
    have hadded : ∀ other, other ∈ names (addMissing fields [(name, value)]) ↔
        other ∈ names fields ∨ other = name := by
      intro other
      rw [mem_names_addMissing, names_append, List.mem_append]
      exact or_congr_right List.mem_singleton
    rw [AllNew, ih, names_cons, List.nodup_cons, List.disjoint_cons_right]
    constructor
    · rintro ⟨hnew, hnodup, hdisjoint⟩
      refine ⟨⟨fun hmem => ?_, hnodup⟩, hnew, fun other hother hmem => ?_⟩
      · exact hdisjoint ((hadded name).mpr (Or.inr rfl)) hmem
      · exact hdisjoint ((hadded other).mpr (Or.inl hother)) hmem
    · rintro ⟨⟨hhead, hnodup⟩, hnew, hdisjoint⟩
      refine ⟨hnew, hnodup, fun other hother hmem => ?_⟩
      rcases (hadded other).mp hother with hold | rfl
      · exact hdisjoint hold hmem
      · exact hhead hmem

/-- An entry that was new when it was added is found under its name, whatever is added behind. -/
theorem get?_addMissing_of_allNew {fields : Fields α} {entries : List (String × α)}
    (h : AllNew fields entries) (rest : List (String × α)) {entry : String × α}
    (hmem : entry ∈ entries) :
    get? (addMissing fields (entries ++ rest)) entry.1 = some entry.2 := by
  obtain ⟨hnodup, hdisjoint⟩ := allNew_iff.mp h
  have hnone : get? fields entry.1 = none :=
    get?_eq_none fun hold => hdisjoint hold (List.mem_map_of_mem hmem)
  rw [get?_addMissing, get?_append, get?_append, hnone, (get?_eq_some_iff hnodup).mpr hmem,
    Option.none_or, Option.some_or]

/-! ## Writing all -/

/-- The last entry of a name is the one that is found. -/
theorem get?_ofEntries (entries : List (String × α)) (name : String) :
    get? (ofEntries entries) name = get? entries.reverse name := by
  induction entries using List.reverseRecOn with
  | nil => rfl
  | append_singleton front last ih =>
    have hlast : ofEntries (front ++ [last]) = insert (ofEntries front) last.1 last.2 := by
      unfold ofEntries
      rw [List.foldl_append]
      rfl
    rw [hlast, get?_insert, List.reverse_append, List.reverse_singleton,
      List.singleton_append, get?, ih]
    by_cases hk : last.1 = name
    · rw [if_pos hk, if_pos hk.symm]
    · rw [if_neg hk, if_neg (Ne.symm hk)]

/-- Of different entries, those in front are all found when their names differ from one another and
from those behind. -/
theorem get?_ofEntries_front_iff {front rest : List (String × α)} (h : (front ++ rest).Nodup) :
    (∀ entry ∈ front, get? (ofEntries (front ++ rest)) entry.1 = some entry.2) ↔
      (names front).Nodup ∧ (names front).Disjoint (names rest) := by
  obtain ⟨hfront, -, hdisjoint⟩ := List.nodup_append'.mp h
  have hreverse (name : String) :
      get? (ofEntries (front ++ rest)) name =
          (get? rest.reverse name).or (get? front.reverse name) := by
    rw [get?_ofEntries, List.reverse_append, get?_append]
  constructor
  · intro hfound
    refine ⟨hfront.map_on fun entry hentry other hother he => ?_, fun name hname hrest => ?_⟩
    · have hvalue := hfound entry hentry
      rw [he, hfound other hother] at hvalue
      exact Prod.ext he (Option.some.inj hvalue).symm
    · obtain ⟨entry, hentry, rfl⟩ := List.mem_map.mp hname
      have hnames : entry.1 ∈ names rest.reverse := names_reverse rest ▸ List.mem_reverse.mpr hrest
      obtain ⟨value, hvalue⟩ := exists_get?_of_mem_names hnames
      have hlast := hfound entry hentry
      rw [hreverse, hvalue, Option.some_or] at hlast
      have hmem : (entry.1, value) ∈ rest := List.mem_reverse.mp (mem_of_get? hvalue)
      rw [Option.some.inj hlast] at hmem
      exact hdisjoint hentry hmem
  · rintro ⟨hnodup, hapart⟩ entry hentry
    have hnone : get? rest.reverse entry.1 = none := by
      refine get?_eq_none fun hmem => hapart (List.mem_map_of_mem hentry) ?_
      exact List.mem_reverse.mp (names_reverse rest ▸ hmem)
    have hnames : (names front.reverse).Nodup := names_reverse front ▸ List.nodup_reverse.mpr hnodup
    rw [hreverse, hnone, Option.none_or, get?_eq_some_iff hnames]
    exact List.mem_reverse.mpr hentry

/-! ## Names that repeat -/

theorem firstRepeated_go_eq_none_iff {names seen : List String} :
    firstRepeated.go seen names = none ↔ names.Nodup ∧ seen.Disjoint names := by
  induction names generalizing seen with
  | nil => exact ⟨fun _ => ⟨List.nodup_nil, List.disjoint_nil_right _⟩, fun _ => rfl⟩
  | cons name rest ih =>
    rw [firstRepeated.go, List.nodup_cons, List.disjoint_cons_right]
    by_cases hseen : name ∈ seen
    · rw [if_pos (List.contains_iff_mem.mpr hseen)]
      exact ⟨(nomatch ·), fun h => absurd hseen h.2.1⟩
    · rw [if_neg fun hc => hseen (List.contains_iff_mem.mp hc), ih, List.disjoint_cons_left]
      tauto

/-- No name is found to repeat when all are different. -/
theorem firstRepeated_eq_none_iff {names : List String} :
    firstRepeated names = none ↔ names.Nodup := by
  rw [firstRepeated, firstRepeated_go_eq_none_iff]
  exact and_iff_left (List.disjoint_nil_left names)

end Fields

end ClassApi
