import ClassApi.Proofs.PageSums

/-!
# Flags of a page

Clients are told whether there is more on either side of a page. What is more behind a page is an
item of the list that lies behind the page and before the second cursor; what is more ahead of it is
an item before the page and behind the first cursor. The bounds of a page are limited to the list,
but the flags compare them with the offsets of the cursors as these are given. So a flag that is up
is wrong when it is only up because a cursor stands outside the list.
-/

namespace ClassApi

open Offset

namespace PageArgs

theorem zero_le_start (args : PageArgs) : 0 ≤ args.sums.start := by
  simp only [sums]
  omega

theorem lowest_sums (args : PageArgs) : args.sums.lowest = args.afterOffset + 1 := by
  rw [sums]
  split
  · rfl
  · rename_i hnone
    rw [afterOffset, Option.not_isSome_iff_eq_none.mp hnone]
    rfl

theorem highest_eq (args : PageArgs) (length : Int) :
    (if args.before.isSome then args.beforeOffset length else length) =
      args.beforeOffset length := by
  split
  · rfl
  · rename_i hnone
    rw [beforeOffset, Option.not_isSome_iff_eq_none.mp hnone]
    rfl

end PageArgs

namespace PageBounds

/-- Whether an item of a list lies behind a page and before the second cursor. A page without items
lies where its bounds meet. -/
def MoreBehind (b : PageBounds) (args : PageArgs) (length : Nat) : Prop :=
  ∃ i : Nat, i < length ∧ b.high length ≤ i ∧ (i : Int) < args.beforeOffset length

/-- Whether an item of a list lies before a page and behind the first cursor. -/
def MoreAhead (b : PageBounds) (args : PageArgs) (length : Nat) : Prop :=
  ∃ i : Nat, i < length ∧ i < b.low length ∧ args.afterOffset < i

instance (b : PageBounds) (args : PageArgs) (length : Nat) : Decidable (b.MoreBehind args length) :=
  decidable_of_iff (∃ i, ∃ _ : i < length, b.high length ≤ i ∧ (i : Int) < args.beforeOffset length)
    (exists_congr fun _ => exists_prop)

instance (b : PageBounds) (args : PageArgs) (length : Nat) : Decidable (b.MoreAhead args length) :=
  decidable_of_iff (∃ i, ∃ _ : i < length, i < b.low length ∧ args.afterOffset < i)
    (exists_congr fun _ => exists_prop)

/-- Where a page ends: where its cursors end it, or earlier by a count from the front. -/
def countedStop (args : PageArgs) (length : Int) : Int :=
  args.first.elim (min (args.beforeOffset length) length) fun n =>
    min (min (args.beforeOffset length) length) (args.sums.start + n)

/-- The bounds of a page as integers without bounds: a count from the back may begin it later than
its cursors do. -/
def counted (args : PageArgs) (length : Int) : PageBounds where
  start := args.last.elim args.sums.start fun n => max args.sums.start (countedStop args length - n)
  stop := countedStop args length

section Counted

variable {args : PageArgs} {length : Nat}

theorem takeFirst_ofCursors (hlength : (length : Int) ≤ greatest)
    (hfirst : ∀ n, args.first = some n → 0 ≤ n) :
    (ofCursors args.sums.start args length).takeFirst args.first =
      .ok ⟨args.sums.start, countedStop args length⟩ := by
  have hlimit : min (args.beforeOffset length) (length : Int) ≤ greatest :=
    Int.le_trans (Int.min_le_right _ _) hlength
  have hstart : 0 ≤ args.sums.start := args.zero_le_start
  rw [countedStop]
  cases hn : args.first with
  | none => rfl
  | some n =>
    have hn := hfirst n hn
    have hleast : least ≤ args.sums.start + n := by
      simp only [least]
      omega
    rw [takeFirst, if_neg (by omega), ofCursors, Option.elim_some, min_saturate hlimit hleast]

theorem countedStop_le (args : PageArgs) (length : Int) :
    countedStop args length ≤ min (args.beforeOffset length) length := by
  rw [countedStop]
  cases args.first with
  | none => exact Int.le_refl _
  | some n => exact Int.min_le_left _ _

/-- Counts never lead out of 64 bits, so the bounds of a page are those of integers without
bounds. -/
theorem select_eq_counted (hlength : (length : Int) ≤ greatest)
    (hfirst : ∀ n, args.first = some n → 0 ≤ n) (hlast : ∀ n, args.last = some n → 0 ≤ n) :
    select args.sums.start args length = .ok (counted args length) := by
  have hstart : 0 ≤ args.sums.start := args.zero_le_start
  have hstop : countedStop args length ≤ length :=
    Int.le_trans (countedStop_le args length) (Int.min_le_right _ _)
  rw [select, takeFirst_ofCursors hlength hfirst, counted]
  show takeLast ⟨args.sums.start, countedStop args length⟩ args.last = _
  cases hn : args.last with
  | none => rfl
  | some n =>
    have hn := hlast n hn
    have hleast : least ≤ args.sums.start := by
      simp only [least]
      omega
    have hgreatest : countedStop args length - n ≤ greatest := by omega
    rw [takeLast, if_neg (by omega), Option.elim_some, max_saturate hleast hgreatest]

/-- Counted from the front, a page ends before the second cursor when there is more behind it or the
cursor stands behind the list. -/
theorem stop_lt_iff (hfirst : ∀ n, args.first = some n → 0 ≤ n)
    (hlast : ∀ n, args.last = some n → 0 ≤ n) (hcount : args.first.isSome = true) :
    (counted args length).stop < args.beforeOffset length ↔
      (counted args length).MoreBehind args length ∨ (length : Int) < args.beforeOffset length := by
  obtain ⟨n, hn⟩ := Option.isSome_iff_exists.mp hcount
  have hstop :
      countedStop args length =
          min (min (args.beforeOffset length) length) (args.sums.start + n) := by
    rw [countedStop, hn, Option.elim_some]
  have hn := hfirst n hn
  have hstart : 0 ≤ args.sums.start := args.zero_le_start
  simp only [MoreBehind, high, low]
  constructor
  · intro hlt
    by_cases hout : (length : Int) < args.beforeOffset length
    · exact Or.inr hout
    · -- the count is what ends the page, so the item at its end is within the list
      have hend : (counted args length).stop = args.sums.start + n := by
        simp only [counted] at hlt ⊢
        omega
      have hbegin : (counted args length).start ≤ (counted args length).stop := by
        rw [hend]
        simp only [counted]
        cases hm : args.last with
        | none =>
          rw [Option.elim_none]
          omega
        | some m =>
          have hm := hlast m hm
          rw [Option.elim_some]
          omega
      exact Or.inl ⟨(counted args length).stop.toNat, by omega, by omega, by omega⟩
  · rintro (⟨i, hi, hhigh, hbefore⟩ | hout)
    · omega
    · simp only [counted]
      omega

/-- Counted from the back, a page begins behind the first cursor and the item next to it when there
is more ahead of it or the cursor stands before the list. -/
theorem lt_start_iff (hlast : ∀ n, args.last = some n → 0 ≤ n) (hcount : args.last.isSome = true) :
    args.afterOffset + 1 < (counted args length).start ↔
      (counted args length).MoreAhead args length ∨ args.afterOffset < -1 := by
  obtain ⟨n, hn⟩ := Option.isSome_iff_exists.mp hcount
  have hbegin :
      (counted args length).start = max args.sums.start (countedStop args length - n) := by
    rw [counted, hn, Option.elim_some]
  have hn := hlast n hn
  have hstart : args.sums.start = max args.afterOffset (-1) + 1 := rfl
  have hstop := countedStop_le args length
  simp only [MoreAhead, low]
  constructor
  · intro hlt
    by_cases hout : args.afterOffset < -1
    · exact Or.inr hout
    · exact Or.inl ⟨(args.afterOffset + 1).toNat, by omega, by omega, by omega⟩
  · rintro (⟨i, hi, hlow, hafter⟩ | hout)
    · omega
    · omega

end Counted

end PageBounds

/-- Where a page lies, and what its flags say: each one is up when its count is given and there is
more on its side, or the cursor on that side stands outside the list. -/
theorem exists_page_flags {α : Type} (items : List α) (args : PageArgs)
    (hlength : (items.length : Int) ≤ greatest) (hfirst : ∀ n, args.first = some n → 0 ≤ n)
    (hlast : ∀ n, args.last = some n → 0 ≤ n) (hafter : args.afterOffset < greatest) :
    ∃ b page, PageBounds.select args.sums.start args items.length = .ok b ∧
      paginate items args = .ok page ∧ page.edges = edgesFrom (b.low items.length)
        ((items.drop (b.low items.length)).take (b.high items.length - b.low items.length)) ∧
      (page.pageInfo.hasNextPage = true ↔ args.first.isSome = true ∧
        (b.MoreBehind args items.length ∨ (items.length : Int) < args.beforeOffset items.length)) ∧
      (page.pageInfo.hasPreviousPage = true ↔ args.last.isSome = true ∧
        (b.MoreAhead args items.length ∨ args.afterOffset < -1)) := by
  have hfit := (PageSums.fit_sums_iff args).mpr (Int.ne_of_lt hafter)
  have hb := PageBounds.select_eq_counted hlength hfirst hlast
  refine ⟨_, _, hb, by rw [paginate_of_fit hfit, paginateWith, hb]; rfl, rfl, ?_, ?_⟩
  · simp only [Bool.and_eq_true, decide_eq_true_eq, PageArgs.highest_eq]
    exact and_congr_right fun hcount => PageBounds.stop_lt_iff hfirst hlast hcount
  · simp only [Bool.and_eq_true, decide_eq_true_eq, PageArgs.lowest_sums, gt_iff_lt]
    exact and_congr_right fun hcount => PageBounds.lt_start_iff hlast hcount

/-- A flag that is also up for another reason is right unless there is that reason alone. -/
theorem flag_right_iff {count more outside : Prop} :
    (count ∧ (more ∨ outside) ↔ count ∧ more) ↔ (count → outside → more) := by
  constructor
  · intro h hcount houtside
    exact (h.mp ⟨hcount, Or.inr houtside⟩).2
  · intro h
    exact and_congr_right fun hcount => ⟨fun hup => hup.elim id (h hcount), Or.inl⟩

/-- The flag of a next page is right unless, with a count from the front and a second cursor behind
the list, the page reaches the end of the list. The flag of a previous page is right unless, with a
count from the back and a first cursor before the list, the page begins with the list. -/
theorem page_flags_right_iff {α : Type} (items : List α) (args : PageArgs)
    (hlength : (items.length : Int) ≤ greatest) (hfirst : ∀ n, args.first = some n → 0 ≤ n)
    (hlast : ∀ n, args.last = some n → 0 ≤ n) (hafter : args.afterOffset < greatest) :
    ∃ b page, PageBounds.select args.sums.start args items.length = .ok b ∧
      paginate items args = .ok page ∧ page.edges = edgesFrom (b.low items.length)
        ((items.drop (b.low items.length)).take (b.high items.length - b.low items.length)) ∧
      ((page.pageInfo.hasNextPage = true ↔ args.first.isSome = true ∧
        b.MoreBehind args items.length) ↔
          (args.first.isSome = true → (items.length : Int) < args.beforeOffset items.length →
          b.MoreBehind args items.length)) ∧
      ((page.pageInfo.hasPreviousPage = true ↔
        args.last.isSome = true ∧ b.MoreAhead args items.length) ↔
          (args.last.isSome = true → args.afterOffset < -1 → b.MoreAhead args items.length)) := by
  obtain ⟨b, page, hb, hpage, hedges, hnext, hprevious⟩ :=
    exists_page_flags items args hlength hfirst hlast hafter
  refine ⟨b, page, hb, hpage, hedges, ?_, ?_⟩
  · rw [hnext]
    exact flag_right_iff
  · rw [hprevious]
    exact flag_right_iff

namespace Sample

/-- Two items from the front, of which one is taken from the back, between the ends of a list. -/
def oneOfTwo : PageArgs :=
  ⟨some 2, some (Cursor.ofOffset 0), some 1, some (Cursor.ofOffset 4)⟩

/-- As many items as the list has, before a cursor behind it. -/
def beforeNowhere : PageArgs :=
  ⟨some 3, none, none, some (Cursor.ofOffset 10)⟩

/-- As many items as the list has, behind the cursor of the offset `-5`. -/
def afterNowhere : PageArgs :=
  ⟨none, some "YXJyYXljb25uZWN0aW9uOi01", some 3, none⟩

end Sample

/-- A page in the middle of five items, with more on both sides. -/
theorem page_flags_right_iff_middle :
    ∃ b page, PageBounds.select Sample.oneOfTwo.sums.start Sample.oneOfTwo 5 = .ok b ∧
      paginate [10, 20, 30, 40, 50] Sample.oneOfTwo = .ok page ∧ page.edges.map Edge.node = [30] ∧
      page.pageInfo.hasNextPage = true ∧ b.MoreBehind Sample.oneOfTwo 5 ∧
      page.pageInfo.hasPreviousPage = true ∧ b.MoreAhead Sample.oneOfTwo 5 := by
  obtain ⟨b, page, hb, hpage, hedges, hnext, hprevious⟩ :=
    page_flags_right_iff [10, 20, 30, 40, 50] Sample.oneOfTwo
    (by decide) (by decide) (by decide) (by decide +kernel)
  have hbounds : PageBounds.select Sample.oneOfTwo.sums.start Sample.oneOfTwo 5 = .ok ⟨2, 3⟩ := by
    decide +kernel
  obtain rfl : b = ⟨2, 3⟩ := Except.ok.inj (hb.symm.trans hbounds)
  have hbehind : PageBounds.MoreBehind ⟨2, 3⟩ Sample.oneOfTwo 5 := by decide +kernel
  have hahead : PageBounds.MoreAhead ⟨2, 3⟩ Sample.oneOfTwo 5 := by decide +kernel
  refine ⟨⟨2, 3⟩, page, hb, hpage, ?_, ?_, hbehind, ?_, hahead⟩
  · rw [hedges]
    rfl
  · exact (hnext.mpr fun _ _ => hbehind).mpr ⟨rfl, hbehind⟩
  · exact (hprevious.mpr fun _ _ => hahead).mpr ⟨rfl, hahead⟩

/-- A page that holds the whole list has nothing on either side, but with a cursor outside the list
its flags are up. -/
theorem exists_flag_wrong :
    ((paginate [10, 20, 30] Sample.beforeNowhere).toOption.map fun page =>
      (page.edges.map Edge.node, page.pageInfo.hasNextPage)) = some ([10, 20, 30], true) ∧
    PageBounds.select Sample.beforeNowhere.sums.start Sample.beforeNowhere 3 = .ok ⟨0, 3⟩ ∧
    ¬ PageBounds.MoreBehind ⟨0, 3⟩ Sample.beforeNowhere 3 ∧
    ((paginate [10, 20, 30] Sample.afterNowhere).toOption.map fun page =>
      (page.edges.map Edge.node, page.pageInfo.hasPreviousPage)) = some ([10, 20, 30], true) ∧
    PageBounds.select Sample.afterNowhere.sums.start Sample.afterNowhere 3 = .ok ⟨0, 3⟩ ∧
    ¬ PageBounds.MoreAhead ⟨0, 3⟩ Sample.afterNowhere 3 := by
  refine ⟨by decide +kernel, by decide +kernel, by decide +kernel, by decide +kernel, by
    decide +kernel, by decide +kernel⟩

end ClassApi
