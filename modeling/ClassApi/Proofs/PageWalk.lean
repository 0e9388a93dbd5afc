import ClassApi.Paging
import ClassApi.Proofs.Listing
import ClassApi.Proofs.PageSums

/-!
# Walking through the pages of a list

A client that wants the whole list asks for one page after another. Going forward it asks for so
many items behind the last one it has, as long as there is a next page; going backward it asks for
so many before the first one it has, as long as there is a previous page. What carries the induction
is the place the walk has come to: the cursor in hand stands for the end of what was shown, and the
next page begins there. So the walk ends, and its pages put together are the list.
-/

namespace ClassApi

variable {α : Type}

/-- The items of a page. -/
def Connection.nodes (page : Connection α) : List α :=
  page.edges.map Edge.node

namespace PageArgs

/-- Asks for so many items from the front, behind a cursor if there is one. -/
def forward (count : Int) (cursor : Option String) : PageArgs where
  first := some count
  after := cursor
  last := none
  before := none

/-- Asks for so many items from the back, before a cursor if there is one. -/
def backward (count : Int) (cursor : Option String) : PageArgs where
  first := none
  after := none
  last := some count
  before := cursor

theorem offsetOr_ofOffset {n : Nat} (h : (n : Int) ≤ 9223372036854775807) (default : Int) :
    offsetOr (some (Cursor.ofOffset n)) default = n := by
  rw [offsetOr, Option.bind_some, Cursor.offset?_ofOffset h, Option.getD_some]

end PageArgs

/-- The pages that a client is given in turn: a page is asked for with the cursor that the page
before it tells, and the walk ends with a page that tells of no more. -/
inductive PageWalk (ask : Option String → Except ResolveError (Connection α))
    (more : PageInfo → Bool) (next : PageInfo → Option String) :
    Option String → List (Connection α) → Prop where
  /-- The page is the last one. -/
  | done {cursor : Option String} {page : Connection α} (asked : ask cursor = .ok page)
      (last : more page.pageInfo = false) : PageWalk ask more next cursor [page]
  /-- There are more pages. -/
  | step {cursor : Option String} {page : Connection α} {pages : List (Connection α)}
      (asked : ask cursor = .ok page) (follows : more page.pageInfo = true)
      (rest : PageWalk ask more next (next page.pageInfo) pages) :
      PageWalk ask more next cursor (page :: pages)

namespace PageWalk

/-- A walk forward through a list, so many items at a time. -/
def Forward (items : List α) (count : Int) : Option String → List (Connection α) → Prop :=
  PageWalk (fun cursor => paginate items (.forward count cursor)) PageInfo.hasNextPage
    PageInfo.endCursor

/-- A walk backward through a list, so many items at a time. -/
def Backward (items : List α) (count : Int) : Option String → List (Connection α) → Prop :=
  PageWalk (fun cursor => paginate items (.backward count cursor)) PageInfo.hasPreviousPage
    PageInfo.startCursor

/-- A walk from a cursor is determined. -/
theorem unique {ask : Option String → Except ResolveError (Connection α)} {more : PageInfo → Bool}
    {next : PageInfo → Option String} {cursor : Option String} {pages others : List (Connection α)}
    (h : PageWalk ask more next cursor pages) (h' : PageWalk ask more next cursor others) :
    others = pages := by
  induction h generalizing others with
  | done asked last =>
    cases h' with
    | done asked' last' =>
      cases asked.symm.trans asked'
      rfl
    | step asked' follows' rest' =>
      cases asked.symm.trans asked'
      rw [last] at follows'
      cases follows'
  | step asked follows rest ih =>
    cases h' with
    | done asked' last' =>
      cases asked.symm.trans asked'
      rw [follows] at last'
      cases last'
    | step asked' follows' rest' =>
      cases asked.symm.trans asked'
      rw [ih rest']

end PageWalk

/-! ## Pages with cursors -/

theorem edgesFrom_append (offset : Nat) (front back : List α) :
    edgesFrom offset (front ++ back) = edgesFrom offset front ++
      edgesFrom (offset + front.length) back := by
  induction front generalizing offset with
  | nil => rfl
  | cons node rest ih =>
    rw [List.cons_append, edgesFrom, ih, edgesFrom, List.cons_append, List.length_cons,
      Nat.add_assoc, Nat.add_comm 1]

theorem map_cursor_edgesFrom (offset : Nat) (items : List α) :
    (edgesFrom offset items).map Edge.cursor =
      (List.range' offset items.length).map Cursor.ofOffset := by
  induction items generalizing offset with
  | nil => rfl
  | cons node rest ih => rw [edgesFrom, List.map_cons, ih, List.length_cons, List.range'_succ,
    List.map_cons]

/-- The first cursor of a page is that of its offset. -/
theorem head?_edgesFrom {offset : Nat} {items : List α} (h : items ≠ []) :
    (edgesFrom offset items).head?.map Edge.cursor = some (Cursor.ofOffset offset) := by
  cases items with
  | nil => exact absurd rfl h
  | cons node rest => rfl

/-- The last cursor of a page is that of the offset before the one behind it. -/
theorem getLast?_edgesFrom {offset : Nat} {items : List α} (h : items ≠ []) :
    (edgesFrom offset items).getLast?.map Edge.cursor =
      some (Cursor.ofOffset (offset + items.length - 1)) := by
  have hlength : items.length ≠ 0 := fun hzero => h (List.eq_nil_of_length_eq_zero hzero)
  rw [← List.getLast?_map, map_cursor_edgesFrom, List.getLast?_map, List.getLast?_range',
    if_neg hlength]
  rfl

namespace PageBounds

/-- The bounds of a page behind a place. -/
theorem select_forward {length place : Nat} {cursor : Option String} (count : Nat)
    (hlength : (length : Int) < 9223372036854775807)
    (hcursor : PageArgs.offsetOr cursor (-1) = (place : Int) - 1) :
    select (PageArgs.forward count cursor).sums.start (.forward count cursor) length =
      .ok ⟨place, min (length : Int) (place + count)⟩ := by
  have hstart : (PageArgs.forward count cursor).sums.start = (place : Int) := by
    show max (PageArgs.offsetOr cursor (-1)) (-1) + 1 = (place : Int)
    omega
  have hstop : min (length : Int) length = length := min_self _
  have hcursors : ofCursors place (.forward count cursor) length = ⟨place, length⟩ := by
    show PageBounds.mk place (min (length : Int) length) = _
    rw [hstop]
  have hfirst : takeFirst ⟨place, length⟩ (some (count : Int)) =
      .ok ⟨place, min (length : Int) (place + count)⟩ := by
    have hcount : min (length : Int) (Offset.saturate (place + count)) =
        min (length : Int) (place + count) := by
      refine Offset.min_saturate ?_ ?_
      · simp only [Offset.greatest]
        omega
      · simp only [Offset.least]
        omega
    rw [takeFirst, if_neg (by omega)]
    simp only [hcount]
  rw [hstart, select, hcursors]
  show (takeFirst ⟨place, length⟩ (some (count : Int)) >>= fun b => b.takeLast none) = _
  rw [hfirst]
  rfl

/-- The bounds of a page before a place. -/
theorem select_backward {length place : Nat} {cursor : Option String} (count : Nat)
    (hlength : (length : Int) < 9223372036854775807) (hplace : place ≤ length)
    (hcursor : PageArgs.offsetOr cursor length = (place : Int)) :
    select (PageArgs.backward count cursor).sums.start (.backward count cursor) length =
      .ok ⟨max 0 ((place : Int) - count), place⟩ := by
  have hstart : (PageArgs.backward count cursor).sums.start = 0 := rfl
  have hstop : min (place : Int) length = place := by omega
  have hcursors : ofCursors 0 (.backward count cursor) length = ⟨0, place⟩ := by
    show PageBounds.mk 0 (min (PageArgs.offsetOr cursor length) (length : Int)) = _
    rw [hcursor, hstop]
  have hlast :
      takeLast ⟨0, place⟩ (some (count : Int)) = .ok ⟨max 0 ((place : Int) - count), place⟩ := by
    have hcount : max (0 : Int) (Offset.saturate (place - count)) =
        max (0 : Int) (place - count) := by
      refine Offset.max_saturate (by decide) ?_
      simp only [Offset.greatest]
      omega
    rw [takeLast, if_neg (by omega)]
    simp only [hcount]
  rw [hstart, select, hcursors]
  exact hlast

end PageBounds

/-- Asking forward from a place in the list gives the items from there on, so many at most. -/
theorem paginate_forward {items : List α} (count : Nat)
    (hlength : (items.length : Int) < 9223372036854775807) {place : Nat} {cursor : Option String}
    (hplace : place ≤ items.length) (hcursor : PageArgs.offsetOr cursor (-1) = (place : Int) - 1) :
    ∃ page, paginate items (.forward count cursor) = .ok page ∧
      page.edges = edgesFrom place ((items.drop place).take count) ∧
      page.pageInfo.endCursor = page.edges.getLast?.map Edge.cursor ∧
      page.pageInfo.hasNextPage = decide (place + count < items.length) := by
  have hfit : (PageArgs.forward count cursor).sums.Fit := by
    refine (PageSums.fit_sums_iff _).mpr (Int.ne_of_lt ?_)
    show PageArgs.offsetOr cursor (-1) < Offset.greatest
    rw [hcursor, Offset.greatest]
    omega
  have hselect :
      PageBounds.select (PageArgs.forward count cursor).sums.start (.forward count cursor)
          items.length =
        .ok ⟨place, min (items.length : Int) (place + count)⟩ :=
    PageBounds.select_forward count hlength hcursor
  have hlow : PageBounds.low ⟨place, min (items.length : Int) (place + count)⟩ items.length =
      place := by
    simp only [PageBounds.low]
    omega
  have htake : (items.drop place).take
      (PageBounds.high ⟨place, min (items.length : Int) (place + count)⟩ items.length - place) =
        (items.drop place).take count := by
    have hhigh :
        PageBounds.high ⟨place, min (items.length : Int) (place + count)⟩ items.length - place =
        min count (items.drop place).length := by
      simp only [PageBounds.high, hlow, List.length_drop]
      omega
    rw [hhigh, ← List.take_eq_take_min]
  refine ⟨_, by rw [paginate_of_fit hfit, paginateWith, hselect]; rfl, ?_, rfl, ?_⟩
  · simp only [hlow, htake]
  · have hnext : (min (items.length : Int) (place + count) < items.length) ↔
        place + count < items.length := by omega
    exact decide_eq_decide.mpr hnext

/-- Asking backward from a place in the list gives the items before it, so many at most. -/
theorem paginate_backward {items : List α} (count : Nat)
    (hlength : (items.length : Int) < 9223372036854775807) {place : Nat} {cursor : Option String}
    (hplace : place ≤ items.length)
    (hcursor : PageArgs.offsetOr cursor items.length = (place : Int)) :
    ∃ page, paginate items (.backward count cursor) = .ok page ∧
      page.edges = edgesFrom (place - count) ((items.take place).drop (place - count)) ∧
      page.pageInfo.startCursor = page.edges.head?.map Edge.cursor ∧
      page.pageInfo.hasPreviousPage = decide (count < place) := by
  have hzero : Offset.Fits 0 := by decide
  have hfit : (PageArgs.backward count cursor).sums.Fit := ⟨hzero, hzero⟩
  have hselect :
      PageBounds.select (PageArgs.backward count cursor).sums.start (.backward count cursor)
      items.length = .ok ⟨max 0 ((place : Int) - count), place⟩ :=
    PageBounds.select_backward count hlength hplace hcursor
  have hlow : PageBounds.low ⟨max 0 ((place : Int) - count), place⟩ items.length =
      place - count := by
    simp only [PageBounds.low]
    omega
  have hhigh : PageBounds.high ⟨max 0 ((place : Int) - count), place⟩ items.length = place := by
    simp only [PageBounds.high, hlow]
    omega
  refine ⟨_, by rw [paginate_of_fit hfit, paginateWith, hselect]; rfl, ?_, rfl, ?_⟩
  · simp only [hlow, hhigh, List.drop_take]
  · have hprevious : (0 < max 0 ((place : Int) - count)) ↔ count < place := by omega
    exact decide_eq_decide.mpr hprevious

/-! ## Walks -/

namespace PageWalk

variable {items : List α} {count : Nat}

/-- A walk forward from a place in the list shows the items from there on. -/
theorem forward_from (hcount : 1 ≤ count) (hlength : (items.length : Int) < 9223372036854775807)
    {place : Nat} {cursor : Option String} (hplace : place ≤ items.length)
    (hcursor : PageArgs.offsetOr cursor (-1) = (place : Int) - 1) :
    ∃ pages, Forward items count cursor pages ∧
      pages.flatMap Connection.edges = edgesFrom place (items.drop place) := by
  obtain ⟨page, hpage, hedges, hend, hnext⟩ := paginate_forward count hlength hplace hcursor
  by_cases hmore : place + count < items.length
  · -- the next page begins behind the last item of this one
    have hrest : (items.drop place).drop count = items.drop (place + count) := List.drop_drop
    have hshown : ((items.drop place).take count).length = count := by
      rw [List.length_take, List.length_drop]
      omega
    have hnil : (items.drop place).take count ≠ [] := List.ne_nil_of_length_pos (by omega)
    have hcursor' : PageArgs.offsetOr page.pageInfo.endCursor (-1) =
        ((place + count : Nat) : Int) - 1 := by
      rw [hend, hedges, getLast?_edgesFrom hnil, hshown, PageArgs.offsetOr_ofOffset (by omega)]
      omega
    obtain ⟨pages, hwalk, hpages⟩ := forward_from hcount hlength (Nat.le_of_lt hmore) hcursor'
    refine ⟨page :: pages, .step hpage (hnext.trans (decide_eq_true hmore)) hwalk, ?_⟩
    rw [List.flatMap_cons, hedges, hpages, ← hrest]
    have hsplit :=
      edgesFrom_append place ((items.drop place).take count) ((items.drop place).drop count)
    rw [hshown, List.take_append_drop] at hsplit
    exact hsplit.symm
  · refine ⟨[page], .done hpage (hnext.trans (decide_eq_false hmore)), ?_⟩
    have hall : (items.drop place).take count = items.drop place := by
      refine List.take_of_length_le ?_
      rw [List.length_drop]
      omega
    rw [List.flatMap_singleton, hedges, hall]
termination_by items.length - place

/-- A walk backward from a place in the list shows the items before it. -/
theorem backward_from (hcount : 1 ≤ count) (hlength : (items.length : Int) < 9223372036854775807)
    {place : Nat} {cursor : Option String} (hplace : place ≤ items.length)
    (hcursor : PageArgs.offsetOr cursor items.length = (place : Int)) :
    ∃ pages, Backward items count cursor pages ∧
      pages.reverse.flatMap Connection.edges = edgesFrom 0 (items.take place) := by
  obtain ⟨page, hpage, hedges, hstart, hprevious⟩ := paginate_backward count hlength hplace hcursor
  have hlen : (items.take place).length = place := List.length_take_of_le hplace
  by_cases hmore : count < place
  · -- the page before ends where this one begins
    have hnil : (items.take place).drop (place - count) ≠ [] := by
      refine List.ne_nil_of_length_pos ?_
      rw [List.length_drop]
      omega
    have hcursor' : PageArgs.offsetOr page.pageInfo.startCursor items.length =
        ((place - count : Nat) : Int) := by
      rw [hstart, hedges, head?_edgesFrom hnil, PageArgs.offsetOr_ofOffset (by omega)]
    have hplace' : place - count ≤ items.length := by omega
    obtain ⟨pages, hwalk, hpages⟩ := backward_from hcount hlength hplace' hcursor'
    refine ⟨page :: pages, .step hpage (hprevious.trans (decide_eq_true hmore)) hwalk, ?_⟩
    have hfront : (items.take place).take (place - count) = items.take (place - count) := by
      rw [List.take_take, Nat.min_eq_left (Nat.sub_le place count)]
    have hsplit :=
      edgesFrom_append 0 ((items.take place).take (place - count))
        ((items.take place).drop (place - count))
    rw [List.take_append_drop, hfront, List.length_take_of_le (by omega), Nat.zero_add] at hsplit
    rw [List.reverse_cons, List.flatMap_append, List.flatMap_singleton, hpages, hedges, ← hsplit]
  · refine ⟨[page], .done hpage (hprevious.trans (decide_eq_false hmore)), ?_⟩
    have hzero : place - count = 0 := by omega
    rw [List.reverse_singleton, List.flatMap_singleton, hedges, hzero, List.drop_zero]
termination_by place

/-- The items on the pages are those at the edges. -/
theorem flatMap_nodes {pages : List (Connection α)} {offset : Nat}
    (h : pages.flatMap Connection.edges = edgesFrom offset items) :
    pages.flatMap Connection.nodes = items := by
  have hmap : pages.flatMap Connection.nodes = (pages.flatMap Connection.edges).map Edge.node :=
    List.map_flatMap.symm
  rw [hmap, h, map_node_edgesFrom]

/-- A walk through a list from the front ends, and so does one from the back, whatever number of
items a page has. The pages of the one, in order, and those of the other, each put before the ones
there were, are the list: every item is shown once, in its place and under the cursor of its
place. -/
theorem walk_shows_all (items : List α) {count : Int} (hcount : 1 ≤ count)
    (hlength : (items.length : Int) < 9223372036854775807) :
    ((∃ pages, Forward items count none pages) ∧ ∀ pages, Forward items count none pages →
      pages.flatMap Connection.nodes = items ∧ pages.flatMap Connection.edges = edgesFrom 0 items) ∧
    ((∃ pages, Backward items count none pages) ∧ ∀ pages, Backward items count none pages →
      pages.reverse.flatMap Connection.nodes = items ∧
      pages.reverse.flatMap Connection.edges = edgesFrom 0 items) := by
  obtain ⟨n, rfl⟩ := Int.eq_ofNat_of_zero_le (show 0 ≤ count by omega)
  have hn : 1 ≤ n := by omega
  have hstart : PageArgs.offsetOr none (-1) = ((0 : Nat) : Int) - 1 := rfl
  have hend : PageArgs.offsetOr none items.length = (items.length : Int) := rfl
  obtain ⟨pages, hforward, hedges⟩ := forward_from hn hlength (Nat.zero_le _) hstart
  obtain ⟨pages', hbackward, hedges'⟩ := backward_from hn hlength (Nat.le_refl _) hend
  rw [List.drop_zero] at hedges
  rw [List.take_length] at hedges'
  refine ⟨⟨⟨pages, hforward⟩, fun others hothers => ?_⟩,
    ⟨⟨pages', hbackward⟩, fun others hothers => ?_⟩⟩
  · obtain rfl := hforward.unique hothers
    exact ⟨flatMap_nodes hedges, hedges⟩
  · obtain rfl := hbackward.unique hothers
    exact ⟨flatMap_nodes hedges', hedges'⟩

/-- Three items, two to a page: forward, the last page has one item, and backward so has the
first. -/
theorem walk_shows_all_three :
    ((1 : Int) ≤ 2 ∧ (([10, 20, 30] : List Nat).length : Int) < 9223372036854775807) ∧
    (∃ pages, Forward [10, 20, 30] 2 none pages ∧ pages.map Connection.nodes = [[10, 20], [30]] ∧
      pages.flatMap Connection.nodes = [10, 20, 30]) ∧
    ∃ pages, Backward [10, 20, 30] 2 none pages ∧ pages.map Connection.nodes = [[20, 30], [10]] ∧
      pages.reverse.flatMap Connection.nodes = [10, 20, 30] := by
  have hcount : (1 : Int) ≤ 2 := by decide
  have hlength : (([10, 20, 30] : List Nat).length : Int) < 9223372036854775807 := by decide
  obtain ⟨⟨-, hforward⟩, -, hbackward⟩ := walk_shows_all [10, 20, 30] hcount hlength
  -- the pages of the two walks, in the order in which they are asked for
  let page (start stop : Nat) (previous next : Bool) (nodes : List Nat) : Connection Nat :=
    ⟨edgesFrom start nodes, ⟨some (Cursor.ofOffset start), some (Cursor.ofOffset stop),
      previous, next⟩, 3⟩
  have hfirst :
      Forward [10, 20, 30] 2 none [page 0 1 false true [10, 20], page 2 2 false false [30]] :=
    .step (by decide +kernel) rfl (.done (by decide +kernel) rfl)
  have hlast :
      Backward [10, 20, 30] 2 none [page 1 2 true false [20, 30], page 0 0 false false [10]] :=
    .step (by decide +kernel) rfl (.done (by decide +kernel) rfl)
  exact ⟨⟨hcount, hlength⟩, ⟨_, hfirst, rfl, (hforward _ hfirst).1⟩,
    ⟨_, hlast, rfl, (hbackward _ hlast).1⟩⟩

end PageWalk

end ClassApi
