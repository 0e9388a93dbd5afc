import ClassApi.Proofs.SortOrder
import ClassApi.Proofs.Sorting

/-!
# Sorting by several keys

Documents whose values under the keys can be compared are compared consistently, so they are sorted
by the first key that tells them apart, and those that no key tells apart keep their order. A stably
sorted list is the only one of its kind, and sorting by a key what is stably sorted by the keys
behind it is stably sorted by all of them. So documents can as well be sorted by one key after the
other, from the last one to the first.
-/

namespace ClassApi

namespace Sorting

/-! ## One key -/

/-- The order of two documents under one key. -/
def compareKey (key : String × Value) (a b : Document) : Ordering :=
  let order := Value.orderOptional (Path.lookup a key.1) (Path.lookup b key.1)
  if isDescending key.2 then order.swap else order

theorem compareBy_cons (a b : Document) (key : String × Value) (rest : Document) :
    compareBy a b (key :: rest) = (compareKey key a b).then (compareBy a b rest) := rfl

theorem compareBy_singleton (a b : Document) (key : String × Value) :
    compareBy a b [key] = compareKey key a b :=
  Ordering.then_eq

theorem compareKey_eq_iff {key : String × Value} {a b : Document} :
    compareKey key a b = .eq ↔
      Value.orderOptional (Path.lookup a key.1) (Path.lookup b key.1) = .eq := by
  rw [compareKey]
  split
  · exact Ordering.swap_eq_eq
  · exact Iff.rfl

theorem compareKey_swap (key : String × Value) (a b : Document) :
    compareKey key b a = (compareKey key a b).swap := by
  rw [compareKey, compareKey, Value.orderOptional_swap (Path.lookup a key.1)]
  split <;> rfl

/-- Whether the keys find values in some documents that can all be compared. -/
def Comparable (keys : Document) (docs : List Document) : Prop :=
  ∀ key ∈ keys, ∀ doc ∈ docs, Value.comparableOptional (Path.lookup doc key.1) = true

/-- Whether no key tells two documents apart. -/
def agree (keys a b : Document) : Bool :=
  keys.all fun key => Value.orderOptional (Path.lookup a key.1) (Path.lookup b key.1) == .eq

instance (keys : Document) (docs : List Document) : Decidable (Comparable keys docs) :=
  inferInstanceAs (Decidable (∀ key ∈ keys, ∀ doc ∈ docs,
    Value.comparableOptional (Path.lookup doc key.1) = true))

variable {keys : Document} {docs : List Document} {a b c : Document}

theorem closes_compareKey {key : String × Value}
    (ha : Value.comparableOptional (Path.lookup a key.1) = true)
    (hb : Value.comparableOptional (Path.lookup b key.1) = true)
    (hc : Value.comparableOptional (Path.lookup c key.1) = true) :
    Closes (compareKey key a b) (compareKey key b c) (compareKey key c a) := by
  have hcloses := Value.closes_orderOptional ha hb hc
  simp only [compareKey]
  split
  · exact hcloses.swap
  · exact hcloses

/-! ## All keys -/

theorem compareBy_swap (keys a b : Document) : compareBy b a keys = (compareBy a b keys).swap := by
  induction keys with
  | nil => rfl
  | cons key rest ih => rw [compareBy_cons, compareBy_cons, Ordering.swap_then, ih, compareKey_swap]

theorem closes_compareBy (h : Comparable keys docs) (ha : a ∈ docs) (hb : b ∈ docs)
    (hc : c ∈ docs) : Closes (compareBy a b keys) (compareBy b c keys) (compareBy c a keys) := by
  induction keys with
  | nil => exact Closes.eq
  | cons key rest ih =>
    have hkey := h key List.mem_cons_self
    rw [compareBy_cons, compareBy_cons, compareBy_cons]
    exact (closes_compareKey (hkey a ha) (hkey b hb) (hkey c hc)).breakTies fun _ _ _ =>
      ih fun other ho => h other (List.mem_cons_of_mem _ ho)

/-- Documents are compared consistently where the keys find values that can be compared. -/
theorem Comparable.consistent (h : Comparable keys docs) : Consistent keys docs where
  swap a _ b _ := compareBy_swap keys a b
  trans a ha b hb c hc hab hbc := by
    intro hgt
    have hlt : compareBy c a keys = .lt := by
      rw [compareBy_swap, hgt]
      rfl
    exact (closes_compareBy h ha hb hc).not_lt hab hbc hlt

theorem compareBy_eq_iff : compareBy a b keys = .eq ↔ agree keys a b = true := by
  induction keys with
  | nil => exact iff_of_true rfl rfl
  | cons key rest ih =>
    rw [compareBy_cons, Ordering.then_eq_eq, compareKey_eq_iff, ih, agree, agree, List.all_cons,
      Bool.and_eq_true, beq_iff_eq]

/-- The first key that tells two documents apart orders them. -/
theorem compareBy_append_cons {front rest : Document} {key : String × Value}
    (hfront : ∀ earlier ∈ front,
      Value.orderOptional (Path.lookup a earlier.1) (Path.lookup b earlier.1) = .eq)
    (hkey : Value.orderOptional (Path.lookup a key.1) (Path.lookup b key.1) ≠ .eq) :
    compareBy a b (front ++ key :: rest) = compareKey key a b := by
  induction front with
  | nil =>
    rw [List.nil_append, compareBy_cons]
    cases hcompare : compareKey key a b with
    | eq => exact absurd (compareKey_eq_iff.mp hcompare) hkey
    | _ => rfl
  | cons earlier front ih =>
    rw [List.cons_append, compareBy_cons, compareKey_eq_iff.mpr (hfront earlier List.mem_cons_self),
      Ordering.eq_then]
    exact ih fun other ho => hfront other (List.mem_cons_of_mem _ ho)

theorem Consistent.eq_of_eq (h : Consistent keys docs) (ha : a ∈ docs) (hb : b ∈ docs)
    (hc : c ∈ docs) (hab : compareBy a b keys = .eq) (hac : compareBy a c keys = .eq) :
    compareBy b c keys = .eq := by
  have hba : compareBy b a keys = .eq := by
    rw [h.swap a ha b hb, hab]
    rfl
  have hca : compareBy c a keys = .eq := by
    rw [h.swap a ha c hc, hac]
    rfl
  have hne : ∀ {o : Ordering}, o = .eq → o ≠ .gt := by
    rintro o rfl
    decide
  have hbc : compareBy b c keys ≠ .gt := h.trans b hb a ha c hc (hne hba) (hne hac)
  have hcb : compareBy c b keys ≠ .gt := h.trans c hc a ha b hb (hne hca) (hne hab)
  exact eq_of_ne_gt hbc (h.swap b hb c hc ▸ hcb)

theorem Consistent.compareBy_self (h : Consistent keys docs) (ha : a ∈ docs) :
    compareBy a a keys = .eq :=
  eq_of_eq_swap (h.swap a ha a ha)

/-! ## Stably sorted lists -/

/-- Two lists in order are equal when those that no key tells apart are in the same order in
both. -/
theorem eq_of_pairwise {sorted sorted' : List Document} (hc : Consistent keys sorted)
    (hperm : sorted.Perm sorted') (h : sorted.Pairwise fun a b => compareBy a b keys ≠ .gt)
    (h' : sorted'.Pairwise fun a b => compareBy a b keys ≠ .gt)
    (hfilter : ∀ doc ∈ sorted, sorted.filter (compareBy doc · keys == .eq) =
      sorted'.filter (compareBy doc · keys == .eq)) : sorted = sorted' := by
  induction sorted generalizing sorted' with
  | nil => exact hperm.nil_eq
  | cons x xs ih =>
    cases sorted' with
    | nil => exact absurd hperm.symm.nil_eq nofun
    | cons y ys =>
      have hx : x ∈ x :: xs := List.mem_cons_self
      have hy : y ∈ x :: xs := hperm.mem_iff.mpr List.mem_cons_self
      obtain ⟨hless, hrest⟩ := List.pairwise_cons.mp h
      obtain ⟨hless', hrest'⟩ := List.pairwise_cons.mp h'
      have hself := hc.compareBy_self hx
      -- the first documents are not greater than one another
      have hequal : compareBy x y keys = .eq := by
        rcases List.mem_cons.mp hy with rfl | hmem
        · exact hself
        · rcases List.mem_cons.mp (hperm.mem_iff.mp hx) with rfl | hmem'
          · exact hself
          · exact eq_of_ne_gt (hless y hmem) (hc.swap x hx y hy ▸ hless' x hmem')
      have hfirst := hfilter x hx
      rw [List.filter_cons_of_pos (by rw [hself]; rfl),
        List.filter_cons_of_pos (by rw [hequal]; rfl)] at hfirst
      -- so both are the first of the documents that equal them, in the same order in both lists
      obtain rfl : x = y := (List.cons.inj hfirst).1
      have htail : xs = ys := by
        refine ih (hc.of_subset fun d hd => List.mem_cons_of_mem _ hd) ((List.perm_cons x).mp hperm)
          hrest hrest' ?_
        intro doc hdoc
        have hall := hfilter doc (List.mem_cons_of_mem _ hdoc)
        rw [List.filter_cons, List.filter_cons] at hall
        split at hall
        · exact (List.cons.inj hall).2
        · exact hall
      rw [htail]

/-- There is one stably sorted list. -/
theorem StablySorted.unique {sorted sorted' : List Document} (h : StablySorted keys docs sorted)
    (h' : StablySorted keys docs sorted') (hc : Consistent keys docs) : sorted = sorted' := by
  have hsub : ∀ doc ∈ sorted, doc ∈ docs := fun doc hdoc => h.perm.mem_iff.mp hdoc
  refine eq_of_pairwise (hc.of_subset hsub) (h.perm.trans h'.perm.symm) (h.ordered hc)
    (h'.ordered hc) ?_
  intro doc hdoc
  have hequal : ∀ a ∈ docs, ∀ b ∈ docs, (compareBy doc a keys == .eq) = true →
      (compareBy doc b keys == .eq) = true →
      compareBy a b keys = .eq := by
    intro a ha b hb hda hdb
    exact hc.eq_of_eq (hsub doc hdoc) ha hb (beq_iff_eq.mp hda) (beq_iff_eq.mp hdb)
  rw [h.stable _ hequal, h'.stable _ hequal]

/-- A list in order under a key is in order under more keys when those that the key does not tell
apart are. -/
theorem pairwise_cons_of_filter {key : String × Value} {rest : Document} {sorted : List Document}
    (hc : Consistent [key] sorted) (h : sorted.Pairwise fun a b => compareBy a b [key] ≠ .gt)
    (hfilter : ∀ doc ∈ sorted,
      (sorted.filter (compareBy doc · [key] == .eq)).Pairwise fun a b => compareBy a b rest ≠ .gt) :
    sorted.Pairwise fun a b => compareBy a b (key :: rest) ≠ .gt := by
  induction sorted with
  | nil => exact List.Pairwise.nil
  | cons x xs ih =>
    obtain ⟨hless, hrest⟩ := List.pairwise_cons.mp h
    refine List.pairwise_cons.mpr ⟨fun y hy => ?_,
      ih (hc.of_subset fun d hd => List.mem_cons_of_mem _ hd) hrest ?_⟩
    · have hself := hc.compareBy_self (a := x) List.mem_cons_self
      have hfirst := hfilter x List.mem_cons_self
      rw [List.filter_cons_of_pos (by rw [hself]; rfl), List.pairwise_cons] at hfirst
      have hxy := hless y hy
      rw [compareBy_cons, ← compareBy_singleton]
      cases hcompare : compareBy x y [key] with
      | lt => nofun
      | gt => exact absurd hcompare hxy
      | eq => exact hfirst.1 y (List.mem_filter.mpr ⟨hy, beq_iff_eq.mpr hcompare⟩)
    · intro doc hdoc
      exact (hfilter doc (List.mem_cons_of_mem _ hdoc)).sublist
        ((List.sublist_cons_self x xs).filter _)

/-- Sorting stably by a key what is stably sorted by other keys sorts it stably by all of them. -/
theorem StablySorted.cons {key : String × Value} {rest : Document} {middle sorted : List Document}
    (h : StablySorted rest docs middle) (hkey : StablySorted [key] middle sorted)
    (hc : Consistent rest docs) (hckey : Consistent [key] docs) :
    StablySorted (key :: rest) docs sorted := by
  have hmiddle : ∀ doc ∈ middle, doc ∈ docs := fun doc hdoc => h.perm.mem_iff.mp hdoc
  have hsorted : ∀ doc ∈ sorted, doc ∈ middle := fun doc hdoc => hkey.perm.mem_iff.mp hdoc
  refine ⟨hkey.perm.trans h.perm, fun p hp => ?_, fun _ => ?_⟩
  · have hboth : ∀ a ∈ docs, ∀ b ∈ docs, p a = true → p b = true →
        compareBy a b [key] = .eq ∧ compareBy a b rest = .eq := by
      intro a ha b hb hpa hpb
      have hequal := hp a ha b hb hpa hpb
      rwa [compareBy_cons, Ordering.then_eq_eq, ← compareBy_singleton] at hequal
    rw [hkey.stable p fun a ha b hb hpa hpb => (hboth a (hmiddle a ha) b (hmiddle b hb) hpa hpb).1]
    exact h.stable p fun a ha b hb hpa hpb => (hboth a ha b hb hpa hpb).2
  · have hcmiddle : Consistent [key] middle := hckey.of_subset hmiddle
    refine pairwise_cons_of_filter (hcmiddle.of_subset hsorted) (hkey.ordered hcmiddle)
      fun doc hdoc => ?_
    rw [hkey.stable _ fun a ha b hb hda hdb =>
      hcmiddle.eq_of_eq (hsorted doc hdoc) ha hb (beq_iff_eq.mp hda) (beq_iff_eq.mp hdb)]
    exact (h.ordered hc).filter _

/-- Sorting by one key after the other, from the last to the first, sorts by all of them. -/
theorem stablySorted_foldr (h : Comparable keys docs) :
    StablySorted keys docs (keys.foldr (fun key docs => sort [key] docs) docs) := by
  induction keys with
  | nil => exact ⟨List.Perm.refl _, fun _ _ => rfl, fun _ =>
    List.pairwise_of_forall fun _ _ => nofun⟩
  | cons key rest ih =>
    have hrest : Comparable rest docs := fun other ho => h other (List.mem_cons_of_mem _ ho)
    have hkey : Comparable [key] docs := by
      intro other ho
      rw [List.mem_singleton.mp ho]
      exact h key List.mem_cons_self
    exact (ih hrest).cons (stablySorted_sort [key] _) hrest.consistent hkey.consistent

/-- Documents whose values under the keys can be compared are sorted by the first key that tells
them apart, backwards where its direction is descending, and those that no key tells apart keep
their order. A missing value is before all others except for `null` and what is undefined, which
equal it. Sorting by one key after the other, from the last to the first, does the same. -/
theorem sort_by_first_difference (h : Comparable keys docs) :
    (sort keys docs).Perm docs ∧
    ((sort keys docs).Pairwise fun a b => ∀ front key rest, keys = front ++ key :: rest →
      (∀ earlier ∈ front,
        Value.orderOptional (Path.lookup a earlier.1) (Path.lookup b earlier.1) = .eq) →
      Value.orderOptional (Path.lookup a key.1) (Path.lookup b key.1) ≠ .eq →
      Value.orderOptional (Path.lookup a key.1) (Path.lookup b key.1) =
        if isDescending key.2 then .gt else .lt) ∧
    (∀ doc ∈ docs, (sort keys docs).filter (agree keys doc) = docs.filter (agree keys doc)) ∧
    (∀ v : Value, Value.orderOptional none (some v) =
      if v matches .null | .undefined then .eq else .lt) ∧
    sort keys docs = keys.foldr (fun key docs => sort [key] docs) docs := by
  have hc := h.consistent
  have hsorted := stablySorted_sort keys docs
  refine ⟨hsorted.perm, (hsorted.ordered hc).imp ?_, fun doc hdoc => ?_, fun v => ?_, ?_⟩
  · rintro a b hle front key rest rfl hfront hkey
    rw [compareBy_append_cons hfront hkey, compareKey] at hle
    cases horder : Value.orderOptional (Path.lookup a key.1) (Path.lookup b key.1) with
    | eq => exact absurd horder hkey
    | lt =>
      rw [horder] at hle
      split
      · next hdescending => exact absurd (by rw [if_pos hdescending]; rfl) hle
      · rfl
    | gt =>
      rw [horder] at hle
      split
      · rfl
      · next hascending => exact absurd (if_neg hascending) hle
  · refine hsorted.stable _ fun a ha b hb hda hdb => ?_
    exact hc.eq_of_eq hdoc ha hb (compareBy_eq_iff.mpr hda) (compareBy_eq_iff.mpr hdb)
  · cases v <;> rfl
  · exact hsorted.unique (stablySorted_foldr h) hc

/-- Documents are sorted by a number from the greatest down, and by a text where the numbers are
equal. -/
theorem sort_by_first_difference_two :
    Comparable [("n", .int32 (-1)), ("s", .int32 1)]
      [[("n", .int32 1), ("s", .string "b")], [("n", .double 2.5)],
        [("n", .int64 1), ("s", .string "a")]] ∧
    sort [("n", .int32 (-1)), ("s", .int32 1)]
        [[("n", .int32 1), ("s", .string "b")], [("n", .double 2.5)],
          [("n", .int64 1), ("s", .string "a")]] =
      sort [("n", .int32 (-1))] (sort [("s", .int32 1)]
        [[("n", .int32 1), ("s", .string "b")], [("n", .double 2.5)],
          [("n", .int64 1), ("s", .string "a")]]) := by
  have h : Comparable [("n", .int32 (-1)), ("s", .int32 1)]
      [[("n", .int32 1), ("s", .string "b")], [("n", .double 2.5)],
          [("n", .int64 1), ("s", .string "a")]] := by
    decide +kernel
  exact ⟨h, (sort_by_first_difference h).2.2.2.2⟩

/-- A document without a value stays behind one with the value `null`, which is not sorted before
it. -/
theorem exists_missing_behind_null :
    Comparable [("v", .int32 1)] [[("v", .null)], []] ∧ isDescending (.int32 1) = false ∧
    Path.lookup [("v", .null)] "v" = some .null ∧ Path.lookup [] "v" = none ∧
    sort [("v", .int32 1)] [[("v", .null)], []] = [[("v", .null)], []] ∧
    ¬ (sort [("v", .int32 1)] [[("v", .null)], []]).Pairwise fun a b =>
      Path.lookup b "v" = none → Path.lookup a "v" = none := by
  have hsort : sort [("v", .int32 1)] [[("v", .null)], []] = [[("v", .null)], []] := by rfl
  refine ⟨by decide +kernel, by decide +kernel, rfl, rfl, hsort, ?_⟩
  rw [hsort, List.pairwise_pair]
  exact fun h => absurd (h rfl) nofun

end Sorting

end ClassApi
