import ClassApi.Document.Sort
import Mathlib.Data.List.Induction
import Mathlib.Data.List.Perm.Basic

/-!
# Stable sorting

Sorting documents rearranges them, and documents among which the keys see no difference keep their
order. Both hold for every comparison. Whether what comes first is never greater depends on the
comparison: on values that cannot be compared it need not be transitive, so this is said of
documents that the keys compare consistently.
-/

namespace ClassApi.Sorting

/-- Whether keys compare some documents consistently. -/
structure Consistent (keys : Document) (docs : List Document) : Prop where
  /-- Comparing the other way round gives the opposite. -/
  swap : ∀ a ∈ docs, ∀ b ∈ docs, compareBy b a keys = (compareBy a b keys).swap
  /-- What is not greater than something not greater is not greater. -/
  trans : ∀ a ∈ docs, ∀ b ∈ docs, ∀ c ∈ docs,
    compareBy a b keys ≠ .gt → compareBy b c keys ≠ .gt → compareBy a c keys ≠ .gt

/-- Whether a list holds some documents as they are when sorted stably by keys. -/
structure StablySorted (keys : Document) (docs sorted : List Document) : Prop where
  /-- The documents are the same. -/
  perm : sorted.Perm docs
  /-- Documents among which the keys see no difference keep their order. -/
  stable : ∀ p : Document →
    Bool, (∀ a ∈ docs, ∀ b ∈ docs, p a = true → p b = true → compareBy a b keys = .eq) →
    sorted.filter p = docs.filter p
  /-- No document is greater than one behind it. -/
  ordered : Consistent keys docs → sorted.Pairwise fun a b => compareBy a b keys ≠ .gt

theorem Consistent.of_subset {keys : Document} {docs fewer : List Document}
    (h : Consistent keys docs) (hsub : ∀ doc ∈ fewer, doc ∈ docs) : Consistent keys fewer where
  swap a ha b hb := h.swap a (hsub a ha) b (hsub b hb)
  trans a ha b hb c hc := h.trans a (hsub a ha) b (hsub b hb) c (hsub c hc)

variable {keys doc : Document} {docs : List Document}

theorem perm_insertBack : (insertBack keys doc docs).Perm (doc :: docs) := by
  induction docs with
  | nil => exact List.Perm.refl _
  | cons greatest rest ih =>
    by_cases hlt : compareBy doc greatest keys = .lt
    · rw [insertBack, if_pos hlt]
      exact (ih.cons greatest).trans (List.Perm.swap doc greatest rest)
    · rw [insertBack, if_neg hlt]

/-- A document is inserted before all those that it equals. -/
theorem filter_insertBack_of_pos {p : Document → Bool} (hp : p doc = true)
    (heq : ∀ other ∈ docs, p other = true → compareBy doc other keys = .eq) :
    (insertBack keys doc docs).filter p = doc :: docs.filter p := by
  induction docs with
  | nil => exact List.filter_cons_of_pos hp
  | cons greatest rest ih =>
    by_cases hlt : compareBy doc greatest keys = .lt
    · have hnot : ¬ p greatest = true := by
        intro hg
        rw [heq greatest List.mem_cons_self hg] at hlt
        cases hlt
      rw [insertBack, if_pos hlt, List.filter_cons_of_neg hnot, List.filter_cons_of_neg hnot]
      exact ih fun other ho => heq other (List.mem_cons_of_mem _ ho)
    · rw [insertBack, if_neg hlt, List.filter_cons_of_pos hp]

theorem filter_insertBack_of_neg {p : Document → Bool} (hp : ¬ p doc = true) :
    (insertBack keys doc docs).filter p = docs.filter p := by
  induction docs with
  | nil => exact List.filter_cons_of_neg hp
  | cons greatest rest ih =>
    by_cases hlt : compareBy doc greatest keys = .lt
    · rw [insertBack, if_pos hlt, List.filter_cons, List.filter_cons, ih]
    · rw [insertBack, if_neg hlt, List.filter_cons_of_neg hp]

/-- Inserting keeps documents in order, from the greatest down. -/
theorem pairwise_insertBack (hc : Consistent keys (doc :: docs))
    (h : docs.Pairwise fun a b => compareBy b a keys ≠ .gt) :
    (insertBack keys doc docs).Pairwise fun a b => compareBy b a keys ≠ .gt := by
  induction docs with
  | nil => exact List.pairwise_singleton _ _
  | cons greatest rest ih =>
    obtain ⟨hgreatest, hrest⟩ := List.pairwise_cons.mp h
    have hdoc : doc ∈ doc :: greatest :: rest := List.mem_cons_self
    have hg : greatest ∈ doc :: greatest :: rest := List.mem_cons_of_mem _ List.mem_cons_self
    by_cases hlt : compareBy doc greatest keys = .lt
    · rw [insertBack, if_pos hlt]
      have hfewer : Consistent keys (doc :: rest) := by
        refine hc.of_subset fun d hd => ?_
        rcases List.mem_cons.mp hd with rfl | hm
        · exact hdoc
        · exact List.mem_cons_of_mem _ (List.mem_cons_of_mem _ hm)
      refine List.pairwise_cons.mpr ⟨fun other ho => ?_, ih hfewer hrest⟩
      rcases List.mem_cons.mp (perm_insertBack.mem_iff.mp ho) with rfl | hm
      · rw [hlt]
        decide
      · exact hgreatest other hm
    · rw [insertBack, if_neg hlt]
      have hle : compareBy greatest doc keys ≠ .gt := by
        intro hgt
        rw [hc.swap greatest hg doc hdoc, hgt] at hlt
        exact hlt rfl
      refine List.pairwise_cons.mpr ⟨fun other ho => ?_, h⟩
      rcases List.mem_cons.mp ho with rfl | hm
      · exact hle
      · have hother : other ∈ doc :: greatest :: rest := List.mem_cons_of_mem _ ho
        exact hc.trans other hother greatest hg doc hdoc (hgreatest other hm) hle

/-- The last document is inserted into the others as they are when sorted. -/
theorem reverse_sort_append (keys doc : Document) (docs : List Document) :
    (sort keys (docs ++ [doc])).reverse = insertBack keys doc (sort keys docs).reverse := by
  rw [sort, sort, List.foldl_append, List.reverse_reverse, List.reverse_reverse]
  rfl

theorem perm_reverse_sort (keys : Document) (docs : List Document) :
    (sort keys docs).reverse.Perm docs := by
  induction docs using List.reverseRecOn with
  | nil => exact List.Perm.refl _
  | append_singleton front last ih =>
    rw [reverse_sort_append]
    exact (perm_insertBack.trans (ih.cons last)).trans (List.perm_append_singleton last front).symm

theorem perm_sort (keys : Document) (docs : List Document) : (sort keys docs).Perm docs :=
  (List.reverse_perm _).symm.trans (perm_reverse_sort keys docs)

theorem filter_reverse_sort {p : Document → Bool}
    (h : ∀ a ∈ docs, ∀ b ∈ docs, p a = true → p b = true → compareBy a b keys = .eq) :
    (sort keys docs).reverse.filter p = (docs.filter p).reverse := by
  induction docs using List.reverseRecOn with
  | nil => rfl
  | append_singleton front last ih =>
    have hfront : ∀ d ∈ front, d ∈ front ++ [last] := fun d hd => List.mem_append_left _ hd
    have hlast : last ∈ front ++ [last] := List.mem_append_right _ (List.mem_singleton_self last)
    have hsorted := ih fun a ha b hb => h a (hfront a ha) b (hfront b hb)
    rw [reverse_sort_append, List.filter_append, List.reverse_append]
    by_cases hp : p last = true
    · rw [filter_insertBack_of_pos hp, hsorted, List.filter_cons_of_pos hp]
      · rfl
      · intro other ho hother
        exact h last hlast other (hfront other ((perm_reverse_sort keys front).mem_iff.mp ho)) hp
          hother
    · rw [filter_insertBack_of_neg hp, hsorted, List.filter_cons_of_neg hp]
      rfl

theorem pairwise_reverse_sort (h : Consistent keys docs) :
    (sort keys docs).reverse.Pairwise fun a b => compareBy b a keys ≠ .gt := by
  induction docs using List.reverseRecOn with
  | nil => exact List.Pairwise.nil
  | append_singleton front last ih =>
    rw [reverse_sort_append]
    refine pairwise_insertBack (h.of_subset fun d hd => ?_) (ih (h.of_subset fun d hd =>
      List.mem_append_left _ hd))
    rcases List.mem_cons.mp hd with rfl | hm
    · exact List.mem_append_right _ (List.mem_singleton_self d)
    · exact List.mem_append_left _ ((perm_reverse_sort keys front).mem_iff.mp hm)

/-- Documents are sorted stably. -/
theorem stablySorted_sort (keys : Document) (docs : List Document) :
    StablySorted keys docs (sort keys docs) where
  perm := perm_sort keys docs
  stable p hp := by
    have h := filter_reverse_sort hp
    rw [List.filter_reverse] at h
    exact List.reverse_inj.mp h
  ordered hc := List.pairwise_reverse.mp (pairwise_reverse_sort hc)

end ClassApi.Sorting
