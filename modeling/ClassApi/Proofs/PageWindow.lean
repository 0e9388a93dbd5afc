import ClassApi.Proofs.Listing
import ClassApi.Proofs.PageSums
import Mathlib.Data.List.DropRight

/-!
# The window of a page

What a page holds can be said with lists alone: keep the items whose offsets lie between those of
the two cursors, then so many of them from the front, then so many of what is left from the back.
Pages are cut by two bounds instead. Each step of the window keeps a segment of the list, so the
window is a segment as well, and its ends are the bounds of the page.
-/

namespace ClassApi

variable {α β : Type}

/-! ## Segments of a list -/

/-- The items of a list from one place up to another. -/
def segment (items : List β) (start stop : Nat) : List β :=
  (items.take stop).drop start

section Segment

variable (items : List β) (start stop n : Nat)

theorem take_segment :
    (segment items start stop).take n = segment items start (min stop (start + n)) := by
  rw [segment, segment, List.take_drop, List.take_take, Nat.min_comm]

theorem rtake_segment (h : stop ≤ items.length) :
    (segment items start stop).rtake n = segment items (max start (stop - n)) stop := by
  have hlength : (segment items start stop).length = stop - start := by
    rw [segment, List.length_drop, List.length_take_of_le h]
  have hstart : start + (stop - start - n) = max start (stop - n) ∨ stop ≤ start := by omega
  rw [List.rtake, hlength, segment, segment, List.drop_drop]
  rcases hstart with hstart | hempty
  · rw [hstart]
  · have hlong : (items.take stop).length ≤ start := by
      rw [List.length_take_of_le h]
      exact hempty
    rw [List.drop_of_length_le (hlong.trans (Nat.le_add_right _ _)),
      List.drop_of_length_le (hlong.trans (Nat.le_max_left _ _))]

/-- Bounds may be limited to the list, and the second one to the first. -/
theorem segment_limited : segment items (min start items.length)
    (max (min stop items.length) (min start items.length)) = segment items start stop := by
  by_cases h : start < min stop items.length
  · have hlow : min start items.length = start := by omega
    have hhigh : max (min stop items.length) start = min stop items.length := by omega
    rw [hlow, hhigh, segment, segment, ← List.take_eq_take_min]
  · have hleft : (items.take (max (min stop items.length) (min start items.length))).length ≤
        min start items.length := by
      rw [List.length_take]
      omega
    have hright : (items.take stop).length ≤ start := by
      rw [List.length_take]
      omega
    rw [segment, segment, List.drop_of_length_le hleft, List.drop_of_length_le hright]

/-- The numbered items with numbers in a range are a segment. -/
theorem filter_zipIdx (items : List α) (first low high : Nat) :
    (items.zipIdx first).filter (fun item => decide (low ≤ item.2) && decide (item.2 < high)) =
      segment (items.zipIdx first) (low - first) (high - first) := by
  induction items generalizing first with
  | nil => simp [segment]
  | cons item rest ih =>
    rw [List.zipIdx_cons, List.filter_cons, ih]
    by_cases hhigh : first < high
    · obtain ⟨n, hn⟩ : ∃ n, high - first = n + 1 := ⟨high - first - 1, by omega⟩
      have hn' : high - (first + 1) = n := by omega
      by_cases hlow : low ≤ first
      · have hzero : low - first = 0 := by omega
        have hzero' : low - (first + 1) = 0 := by omega
        simp [segment, hlow, hhigh, hn, hn', hzero, hzero']
      · obtain ⟨m, hm⟩ : ∃ m, low - first = m + 1 := ⟨low - first - 1, by omega⟩
        have hm' : low - (first + 1) = m := by omega
        simp [segment, hlow, hn, hn', hm, hm']
    · have hzero : high - first = 0 := by omega
      have hzero' : high - (first + 1) = 0 := by omega
      simp [segment, hhigh, hzero, hzero']

end Segment

/-! ## Edges of a segment -/

/-- An item with its offset as an edge. -/
def Edge.ofNumbered (item : α × Nat) : Edge α :=
  ⟨Cursor.ofOffset item.2, item.1⟩

theorem edgesFrom_eq_map (offset : Nat) (items : List α) :
    edgesFrom offset items = (items.zipIdx offset).map Edge.ofNumbered := by
  induction items generalizing offset with
  | nil => rfl
  | cons node rest ih =>
    rw [edgesFrom, ih, List.zipIdx_cons, List.map_cons]
    rfl

theorem drop_edgesFrom (offset n : Nat) (items : List α) :
    edgesFrom (offset + n) (items.drop n) = (edgesFrom offset items).drop n := by
  induction items generalizing offset n with
  | nil =>
    rw [List.drop_nil]
    exact (List.drop_nil).symm
  | cons node rest ih =>
    cases n with
    | zero => rfl
    | succ n =>
      rw [List.drop_succ_cons, edgesFrom, List.drop_succ_cons, ← ih, Nat.add_right_comm,
        Nat.add_assoc]

theorem take_edgesFrom (offset n : Nat) (items : List α) :
    edgesFrom offset (items.take n) = (edgesFrom offset items).take n := by
  induction items generalizing offset n with
  | nil =>
    rw [List.take_nil]
    exact (List.take_nil).symm
  | cons node rest ih =>
    cases n with
    | zero => rfl
    | succ n => rw [List.take_succ_cons, edgesFrom, edgesFrom, List.take_succ_cons, ih]

/-- The edges of a segment of a list are the segment of its edges. -/
theorem edgesFrom_segment (items : List α) (start stop : Nat) :
    edgesFrom start ((items.drop start).take (stop - start)) =
      (segment items.zipIdx start stop).map Edge.ofNumbered := by
  have hdrop := drop_edgesFrom 0 start (items.take stop)
  rw [Nat.zero_add, take_edgesFrom] at hdrop
  rw [← List.drop_take, hdrop, edgesFrom_eq_map, segment, List.map_drop, List.map_take]

/-! ## The window -/

/-- The first so many items, if there is a count. -/
def keepFirst : Option Int → List β → List β
  | none, items => items
  | some n, items => items.take n.toNat

/-- The last so many items, if there is a count. -/
def keepLast : Option Int → List β → List β
  | none, items => items
  | some n, items => items.rtake n.toNat

namespace PageArgs

/-- Whether an offset lies between those of the cursors of a page. -/
def between (args : PageArgs) (length : Nat) (offset : Nat) : Bool :=
  decide (args.afterOffset < offset) && decide ((offset : Int) < args.beforeOffset length)

/-- What a page holds, each item with its offset in the list. -/
def window (args : PageArgs) (items : List α) : List (α × Nat) :=
  keepLast args.last (keepFirst args.first (items.zipIdx.filter fun item =>
    args.between items.length item.2))

variable {args : PageArgs} {items : List α}

theorem getElem?_of_mem_window {item : α × Nat} (h : item ∈ args.window items) :
    items[item.2]? = some item.1 := by
  have hfirst : ∀ (n? : Option Int) (kept : List (α × Nat)), keepFirst n? kept ⊆ kept := by
    intro n? kept
    cases n? with
    | none => exact List.Subset.refl _
    | some n => exact List.take_subset _ _
  have hlast : ∀ (n? : Option Int) (kept : List (α × Nat)), keepLast n? kept ⊆ kept := by
    intro n? kept
    cases n? with
    | none => exact List.Subset.refl _
    | some n => exact List.drop_subset _ _
  exact List.mem_zipIdx_iff_getElem?.mp (List.mem_of_mem_filter (hfirst _ _ (hlast _ _ h)))

/-- The items between the cursors are those from the place behind the first up to the second. -/
theorem filter_between (args : PageArgs) (items : List α) :
    (items.zipIdx.filter fun item => args.between items.length item.2) =
      segment items.zipIdx args.sums.start.toNat
        (min (args.beforeOffset items.length) items.length).toNat := by
  have hrange : ∀ item ∈ items.zipIdx, args.between items.length item.2 =
      (decide (args.sums.start.toNat ≤ item.2) &&
        decide (item.2 < (min (args.beforeOffset items.length) items.length).toNat)) := by
    intro item hitem
    have hlength : item.2 < items.length :=
      (List.getElem?_eq_some_iff.mp (List.mem_zipIdx_iff_getElem?.mp hitem)).1
    have hstart : args.sums.start = max args.afterOffset (-1) + 1 := rfl
    rw [between, Bool.eq_iff_iff, Bool.and_eq_true, Bool.and_eq_true]
    simp only [decide_eq_true_iff, hstart]
    omega
  rw [List.filter_congr hrange, filter_zipIdx]
  rfl

end PageArgs

namespace PageBounds

variable {length : Nat} {args : PageArgs} {b : PageBounds}

/-- What the bounds of a page leave of the numbered items. -/
def cut (b : PageBounds) (items : List α) : List (α × Nat) :=
  segment items.zipIdx b.start.toNat b.stop.toNat

theorem exists_takeFirst {n? : Option Int} (hn : ∀ n, n? = some n → 0 ≤ n) (hstart : 0 ≤ b.start)
    (hstop : b.stop ≤ Offset.greatest) (items : List α) :
    ∃ b', b.takeFirst n? = .ok b' ∧ b'.start = b.start ∧ b'.stop ≤ b.stop ∧
      b'.cut items = keepFirst n? (b.cut items) := by
  cases n? with
  | none => exact ⟨b, rfl, rfl, Int.le_refl _, rfl⟩
  | some n =>
    have hn := hn n rfl
    have hleast : Offset.least ≤ b.start + n := by
      simp only [Offset.least]
      omega
    refine ⟨{ b with stop := min b.stop (b.start + n) }, ?_, rfl, Int.min_le_left _ _, ?_⟩
    · rw [takeFirst, if_neg (by omega), Offset.min_saturate hstop hleast]
    · have hnat :
          (min b.stop (b.start + n)).toNat = min b.stop.toNat (b.start.toNat + n.toNat) := by omega
      rw [cut, cut, keepFirst, take_segment, hnat]

theorem exists_takeLast {n? : Option Int} (hn : ∀ n, n? = some n → 0 ≤ n) (hstart : 0 ≤ b.start)
    {items : List α} (hstop : b.stop ≤ items.length)
    (hlength : (items.length : Int) ≤ Offset.greatest) :
    ∃ b', b.takeLast n? = .ok b' ∧ b'.cut items = keepLast n? (b.cut items) := by
  cases n? with
  | none => exact ⟨b, rfl, rfl⟩
  | some n =>
    have hn := hn n rfl
    have hleast : Offset.least ≤ b.start := by
      simp only [Offset.least]
      omega
    have hgreatest : b.stop - n ≤ Offset.greatest := by omega
    refine ⟨{ b with start := max b.start (b.stop - n) }, ?_, ?_⟩
    · rw [takeLast, if_neg (by omega), Offset.max_saturate hleast hgreatest]
    · have hnat :
          (max b.start (b.stop - n)).toNat = max b.start.toNat (b.stop.toNat - n.toNat) := by omega
      have hwithin : b.stop.toNat ≤ items.zipIdx.length := by
        rw [List.length_zipIdx]
        omega
      rw [cut, cut, keepLast, rtake_segment _ _ _ _ hwithin, hnat]

/-- The bounds of a page leave its window. -/
theorem exists_select (args : PageArgs) (items : List α)
    (hlength : (items.length : Int) ≤ Offset.greatest) (hfirst : ∀ n, args.first = some n → 0 ≤ n)
    (hlast : ∀ n, args.last = some n → 0 ≤ n) :
    ∃ b, select args.sums.start args items.length = .ok b ∧ b.cut items = args.window items := by
  have hstart : 0 ≤ args.sums.start := by
    simp only [PageArgs.sums]
    omega
  have hstop : (ofCursors args.sums.start args items.length).stop ≤ items.length :=
    Int.min_le_right _ _
  obtain ⟨limited, hlimited, hsame, hless, hcut⟩ :=
    exists_takeFirst (b := ofCursors args.sums.start args items.length) hfirst hstart
      (hstop.trans hlength) items
  obtain ⟨b, hb, hcut'⟩ := exists_takeLast hlast (hsame.symm ▸ hstart) (hless.trans hstop) hlength
  refine ⟨b, ?_, ?_⟩
  · rw [select, hlimited]
    exact hb
  · rw [hcut', hcut, PageArgs.window, PageArgs.filter_between]
    rfl

end PageBounds

/-- A page holds its window. The cursor of each item is read as the offset of the item in the list,
the cursors that are told of the page are those of its first and its last item, and so is the length
of the whole list. -/
theorem page_eq_window (items : List α) (args : PageArgs)
    (hlength : (items.length : Int) ≤ Offset.greatest) (hfirst : ∀ n, args.first = some n → 0 ≤ n)
    (hlast : ∀ n, args.last = some n → 0 ≤ n) (hafter : args.afterOffset < Offset.greatest) :
    ∃ page, paginate items args = .ok page ∧
      page.edges.map Edge.node = (args.window items).map Prod.fst ∧
      page.edges.map (fun edge => Cursor.offset? edge.cursor) =
        (args.window items).map (fun item => some (item.2 : Int)) ∧
      (∀ edge ∈ page.edges, ∃ i : Nat, Cursor.offset? edge.cursor = some
        (i : Int) ∧ items[i]? = some edge.node) ∧
      page.pageInfo.startCursor = page.edges.head?.map Edge.cursor ∧
      page.pageInfo.endCursor = page.edges.getLast?.map Edge.cursor ∧
      page.totalCount = items.length := by
  have hfit := (PageSums.fit_sums_iff args).mpr (Int.ne_of_lt hafter)
  obtain ⟨b, hb, hcut⟩ := PageBounds.exists_select args items hlength hfirst hlast
  have hedges : edgesFrom (b.low items.length) ((items.drop (b.low items.length)).take
      (b.high items.length - b.low items.length)) = (args.window items).map Edge.ofNumbered := by
    have hlimited := segment_limited items.zipIdx b.start.toNat b.stop.toNat
    rw [List.length_zipIdx] at hlimited
    rw [edgesFrom_segment, PageBounds.high, PageBounds.low, hlimited, ← hcut]
    rfl
  have hread : ∀ item ∈ args.window items, Cursor.offset? (Edge.ofNumbered item).cursor =
      some (item.2 : Int) := by
    intro item hitem
    have hitem := (List.getElem?_eq_some_iff.mp (PageArgs.getElem?_of_mem_window hitem)).1
    refine Cursor.offset?_ofOffset ?_
    simp only [Offset.greatest] at hlength
    omega
  refine ⟨_, by rw [paginate_of_fit hfit, paginateWith, hb]; rfl, ?_, ?_, ?_, rfl, rfl, rfl⟩
  · rw [hedges, List.map_map]
    rfl
  · rw [hedges, List.map_map]
    exact List.map_congr_left hread
  · intro edge hedge
    rw [hedges] at hedge
    obtain ⟨item, hitem, rfl⟩ := List.mem_map.mp hedge
    exact ⟨item.2, hread item hitem, PageArgs.getElem?_of_mem_window hitem⟩

namespace Sample

/-- The last two of the first three items between the ends of a list. -/
def betweenEnds : PageArgs :=
  ⟨some 3, some (Cursor.ofOffset 0), some 2, some (Cursor.ofOffset 5)⟩

end Sample

theorem page_eq_window_between_ends :
    ∃ page, paginate [10, 20, 30, 40, 50, 60] Sample.betweenEnds = .ok page ∧
      page.edges.map Edge.node = [30, 40] ∧
      page.edges.map (fun edge => Cursor.offset? edge.cursor) = [some 2, some 3] ∧
      page.totalCount = 6 := by
  obtain ⟨page, hpage, hnodes, hcursors, -, -, -, hcount⟩ :=
    page_eq_window [10, 20, 30, 40, 50, 60] Sample.betweenEnds
    (by decide) (by decide) (by decide) (by decide +kernel)
  have hwindow : Sample.betweenEnds.window [10, 20, 30, 40, 50, 60] = [(30, 2), (40, 3)] := by
    decide +kernel
  rw [hwindow] at hnodes hcursors
  exact ⟨page, hpage, hnodes, hcursors, hcount⟩

end ClassApi
