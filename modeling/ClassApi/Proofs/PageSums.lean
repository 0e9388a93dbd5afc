import ClassApi.Paging
import ClassApi.Proofs.Cursor
import ClassApi.Proofs.Results

/-!
# Sums of offsets

A page is cut with integers of 64 bits. Counts are added and taken away within the bounds of these,
so that neither leaves them. The plain sums are those of the cursor before the page and one, and
they have room unless the cursor stands for the greatest offset. When they have room the page is the
one that integers without bounds give; otherwise there is none, though the page behind the last
offset of all would be empty.
-/

namespace ClassApi

namespace Offset

/-- Whether an integer is an offset. -/
def Fits (n : Int) : Prop :=
  least ≤ n ∧ n ≤ greatest

instance (n : Int) : Decidable (Fits n) :=
  inferInstanceAs (Decidable (least ≤ n ∧ n ≤ greatest))

theorem add_of_fits {m n : Int} (h : Fits (m + n)) : add m n = .ok (m + n) :=
  if_pos h

theorem add_of_not_fits {m n : Int} (h : ¬ Fits (m + n)) : add m n = .error .offsetOverflow :=
  if_neg h

theorem fits_saturate (n : Int) : Fits (saturate n) := by
  simp only [Fits, saturate, least, greatest]
  omega

/-- A bound from above that is an offset hides whether a sum was too great. -/
theorem min_saturate {bound n : Int} (hbound : bound ≤ greatest) (hn : least ≤ n) :
    min bound (saturate n) = min bound n := by
  simp only [saturate]
  omega

/-- A bound from below that is an offset hides whether a difference was too small. -/
theorem max_saturate {bound n : Int} (hbound : least ≤ bound) (hn : n ≤ greatest) :
    max bound (saturate n) = max bound n := by
  simp only [saturate]
  omega

theorem fits_min {m n : Int} (hm : Fits m) (hn : Fits n) : Fits (min m n) := by
  simp only [Fits] at *
  omega

theorem fits_max {m n : Int} (hm : Fits m) (hn : Fits n) : Fits (max m n) := by
  simp only [Fits] at *
  omega

end Offset

open Offset

namespace Cursor

theorem readInt_bounds {low high n : Int} {text : List Char} (h : readInt low high text = some n) :
    low ≤ n ∧ n ≤ high := by
  have hread : ∀ value? : Option Int,
      (value?.bind fun value => if low ≤ value ∧ value ≤ high then some value else none) = some n →
          low ≤ n ∧ n ≤ high := by
    intro value? hvalue
    obtain ⟨value, -, hvalue⟩ := Option.bind_eq_some_iff.mp hvalue
    split at hvalue
    · rename_i hrange
      cases hvalue
      exact hrange
    · cases hvalue
  unfold readInt at h
  split at h
  · exact hread _ h
  · exact hread _ h
  · exact hread _ h

/-- A cursor stands for an offset. -/
theorem fits_of_offset? {cursor : String} {n : Int} (h : offset? cursor = some n) : Fits n := by
  obtain ⟨decoded, -, h⟩ := Option.bind_eq_some_iff.mp h
  obtain ⟨digits, -, h⟩ := Option.bind_eq_some_iff.mp h
  exact readInt_bounds h

end Cursor

namespace PageArgs

variable {args : PageArgs}

theorem fits_offsetOr (cursor : Option String) {default : Int} (h : Fits default) :
    Fits (offsetOr cursor default) := by
  rw [offsetOr]
  cases ho : cursor.bind Cursor.offset? with
  | none => exact h
  | some n =>
    obtain ⟨text, -, hn⟩ := Option.bind_eq_some_iff.mp ho
    exact Cursor.fits_of_offset? hn

theorem fits_afterOffset (args : PageArgs) : Fits args.afterOffset :=
  fits_offsetOr args.after ⟨by decide, by decide⟩

theorem fits_beforeOffset (args : PageArgs) {length : Int} (h : Fits length) :
    Fits (args.beforeOffset length) :=
  fits_offsetOr args.before h

end PageArgs

namespace PageSums

/-- Whether there is room for the plain sums. -/
structure Fit (sums : PageSums) : Prop where
  /-- There is room for the place where the page begins. -/
  start : Fits sums.start
  /-- There is room for the offset behind the cursor. -/
  lowest : Fits sums.lowest

/-- The plain sums have room unless the page is behind the greatest offset. -/
theorem fit_sums_iff (args : PageArgs) : args.sums.Fit ↔ args.afterOffset ≠ greatest := by
  obtain ⟨hleast, hgreatest⟩ := args.fits_afterOffset
  have hlowest : args.sums.lowest = args.afterOffset + 1 ∨ args.sums.lowest = 0 := by
    rw [PageArgs.sums]
    split
    · exact Or.inl rfl
    · exact Or.inr rfl
  constructor
  · rintro ⟨⟨-, hstart⟩, -⟩ heq
    simp only [PageArgs.sums, heq, greatest] at hstart
    omega
  · intro hne
    refine ⟨?_, ?_⟩
    · simp only [Fits, PageArgs.sums]
      simp only [least, greatest] at *
      omega
    · simp only [Fits]
      simp only [least, greatest] at *
      omega

theorem checkedSums_of_fit {args : PageArgs} (h : args.sums.Fit) :
    args.checkedSums = .ok args.sums := by
  have hstart : add (max args.afterOffset (-1)) 1 = .ok args.sums.start := add_of_fits h.start
  have hlowest : (if args.after.isSome then add args.afterOffset 1 else .ok 0) =
      .ok args.sums.lowest := by
    have hfits := h.lowest
    rw [PageArgs.sums] at hfits ⊢
    split
    · rename_i hafter
      rw [if_pos hafter] at hfits
      exact add_of_fits hfits
    · rfl
  rw [PageArgs.checkedSums, hstart, hlowest]
  rfl

/-- Without room for the sums the first one fails already. -/
theorem checkedSums_of_not_fit {args : PageArgs} (h : ¬ args.sums.Fit) :
    args.checkedSums = .error .offsetOverflow := by
  have hgreatest : args.afterOffset = greatest := by
    by_contra hne
    exact h ((fit_sums_iff args).mpr hne)
  have hstart : ¬ Fits (max args.afterOffset (-1) + 1) := by
    rw [hgreatest]
    decide
  rw [PageArgs.checkedSums, add_of_not_fits hstart]
  rfl

end PageSums

namespace PageBounds

variable {start length : Int} {args : PageArgs} {b b' : PageBounds}

theorem fits_takeFirst {n? : Option Int} (hstart : Fits b.start) (hstop : Fits b.stop)
    (h : b.takeFirst n? = .ok b') : Fits b'.start ∧ Fits b'.stop := by
  cases n? with
  | none =>
    cases h
    exact ⟨hstart, hstop⟩
  | some n =>
    rw [takeFirst] at h
    split at h
    · cases h
    · cases h
      exact ⟨hstart, fits_min hstop (fits_saturate _)⟩

theorem fits_takeLast {n? : Option Int} (hstart : Fits b.start) (hstop : Fits b.stop)
    (h : b.takeLast n? = .ok b') : Fits b'.start ∧ Fits b'.stop := by
  cases n? with
  | none =>
    cases h
    exact ⟨hstart, hstop⟩
  | some n =>
    rw [takeLast] at h
    split at h
    · cases h
    · cases h
      exact ⟨fits_max hstart (fits_saturate _), hstop⟩

/-- The bounds of a page are offsets when the place where it begins is one. -/
theorem fits_select (hlength : Fits length) (hstart : Fits start)
    (h : select start args length = .ok b) : Fits b.start ∧ Fits b.stop := by
  obtain ⟨limited, hlimited, h⟩ := bind_eq_ok h
  have hstop : Fits (ofCursors start args length).stop :=
    fits_min (args.fits_beforeOffset hlength) hlength
  obtain ⟨hfirst, hfirst'⟩ := fits_takeFirst hstart hstop hlimited
  exact fits_takeLast hfirst hfirst' h

/-- Limited to a list, the bounds of a page are those of a part of it. -/
theorem low_le_high (b : PageBounds) (length : Nat) :
    b.low length ≤ b.high length ∧ b.high length ≤ length := by
  simp only [low, high]
  omega

end PageBounds

variable {α : Type}

/-- When there is room for the plain sums, a page is what it is for integers without bounds. -/
theorem paginate_of_fit {args : PageArgs} (h : args.sums.Fit) (items : List α) :
    paginate items args = paginateWith args.sums items args := by
  rw [paginate, PageSums.checkedSums_of_fit h]
  rfl

/-- The plain sums have room for every cursor but one of the greatest offset; behind that one no
page is cut. When they have room a page is what it is for integers without bounds: counts never lead
out of the bounds, and what is cut out is a part of the list. -/
theorem page_sums_fit_iff (items : List α) (args : PageArgs)
    (hlength : (items.length : Int) ≤ greatest) :
    (args.sums.Fit ↔ args.afterOffset ≠ greatest) ∧
    (¬ args.sums.Fit → paginate items args = .error .offsetOverflow) ∧
    (args.sums.Fit → paginate items args = paginateWith args.sums items args ∧
      ∀ b, PageBounds.select args.sums.start args items.length = .ok b →
        (Fits b.start ∧ Fits b.stop) ∧ b.low items.length ≤ b.high items.length ∧
          b.high items.length ≤ items.length) := by
  have hleast : least ≤ 0 := by decide
  have hfits : Fits (items.length : Int) := ⟨Int.le_trans hleast (Int.natCast_nonneg _), hlength⟩
  refine ⟨PageSums.fit_sums_iff args, fun hfit => ?_, fun hfit =>
    ⟨paginate_of_fit hfit items, fun b hb => ?_⟩⟩
  · rw [paginate, PageSums.checkedSums_of_not_fit hfit]
    rfl
  · exact ⟨PageBounds.fits_select hfits hfit.start hb, b.low_le_high items.length⟩

namespace Sample

/-- The cursor of the greatest offset. -/
def lastCursor : String := "YXJyYXljb25uZWN0aW9uOjkyMjMzNzIwMzY4NTQ3NzU4MDc="

end Sample

/-- Behind the first of three items, with a count that leads far beyond the list. -/
theorem page_sums_fit_iff_second :
    (([10, 20, 30] : List Nat).length : Int) ≤ greatest ∧
    paginate [10, 20, 30] ⟨some greatest, some (Cursor.ofOffset 0), none, none⟩ =
      paginateWith ⟨1, 1⟩ [10, 20, 30] ⟨some greatest, some (Cursor.ofOffset 0), none, none⟩ := by
  have hlength : (([10, 20, 30] : List Nat).length : Int) ≤ greatest := by decide
  obtain ⟨hfit, -, hsame⟩ :=
    page_sums_fit_iff [10, 20, 30] ⟨some greatest, some (Cursor.ofOffset 0), none, none⟩ hlength
  have hsums : PageArgs.sums ⟨some greatest, some (Cursor.ofOffset 0), none, none⟩ = ⟨1, 1⟩ := by
    decide +kernel
  rw [hsums] at hsame hfit
  exact ⟨hlength, (hsame (hfit.mpr (by decide +kernel))).1⟩

/-- There is no room for the offset behind the greatest one. So there is no page behind the greatest
offset, where integers without bounds give an empty one. -/
theorem exists_sum_without_room :
    Cursor.offset? Sample.lastCursor = some greatest ∧
    ¬ Fits (PageArgs.sums ⟨none, some Sample.lastCursor, none, none⟩).start ∧
    paginate [10, 20, 30] ⟨none, some Sample.lastCursor, none, none⟩ = .error .offsetOverflow ∧
    (paginateWith (PageArgs.sums ⟨none, some Sample.lastCursor, none, none⟩) [10, 20, 30]
      ⟨none, some Sample.lastCursor, none, none⟩).toOption.map
        (fun page => page.edges.map Edge.node) = some [] := by
  have hoffset : Cursor.offset? Sample.lastCursor = some greatest := by decide
  have hstart : (PageArgs.sums ⟨none, some Sample.lastCursor, none, none⟩).start =
      9223372036854775808 := by decide
  exact ⟨hoffset, by rw [hstart]; decide, rfl, by decide⟩

end ClassApi
