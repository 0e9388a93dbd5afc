import ClassApi.Proofs.PathWrites

/-!
# What a projection keeps of a document

A projection copies what the document has at each path that is included, one path after the other,
into a document that is empty at first. Paths may lead through the place of one another, and then
one copy writes where another one has written. That does no harm, because what has been copied is a
part of the document at every time: a copy above or below a path puts there what the document has
there, so a path that was copied stays as it is. It follows that every path that is included leads
to what it leads to in the document, in whatever order the paths are named, and since a projection
asks for nothing else, a second one changes nothing.
-/

namespace ClassApi

namespace Value

/-- Whether a value may stand where a document has a `whole`: it is that value, or both are
documents. -/
inductive Outlines : Value → Value → Prop where
  /-- A value stands for itself. -/
  | refl (value : Value) : Outlines value value
  /-- A document stands for one that may have more members. -/
  | document (members others : Document) : Outlines (.document members) (.document others)

end Value

namespace Projection

open ClassApi.Path

/-! ## Paths that are included -/

/-- Whether a projection includes a path: the id unless the projection says otherwise, and every
other path that it names with a value that counts as true. -/
def Includes (projection : Document) (path : String) : Prop :=
  (path = "_id" ∧ keepsId projection = true) ∨
    (path ≠ "_id" ∧ ∃ value, (path, value) ∈ projection ∧ value.truthy = true)

/-- The paths that a projection includes, in the order in which they are copied: the id comes
first. -/
def included (projection : Document) : List String :=
  (if keepsId projection then ["_id"] else []) ++
    (projection.filter fun part => part.1 != "_id" && part.2.truthy).map Prod.fst

theorem mem_included_iff {projection : Document} {path : String} :
    path ∈ included projection ↔ Includes projection path := by
  rw [included, Includes, List.mem_append]
  refine or_congr ?_ ⟨fun h => ?_, fun ⟨hpath, value, hmem, htruthy⟩ => ?_⟩
  · by_cases hid : keepsId projection = true
    · rw [if_pos hid, List.mem_singleton]
      exact (and_iff_left hid).symm
    · rw [if_neg hid]
      exact ⟨(nomatch ·), fun h => absurd h.2 hid⟩
  · obtain ⟨part, hpart, rfl⟩ := List.mem_map.mp h
    obtain ⟨hmem, hkept⟩ := List.mem_filter.mp hpart
    obtain ⟨hpath, htruthy⟩ := Bool.and_eq_true_iff.mp hkept
    exact ⟨bne_iff_ne.mp hpath, part.2, hmem, htruthy⟩
  · refine List.mem_map.mpr ⟨(path, value), List.mem_filter.mpr ⟨hmem, ?_⟩, rfl⟩
    exact Bool.and_eq_true_iff.mpr ⟨bne_iff_ne.mpr hpath, htruthy⟩

/-- Copies what a document has at a path, if it has anything there. -/
def copyAt (doc projected : Document) (path : String) : Document :=
  match lookup doc path with
  | some value => Path.set projected path value
  | none => projected

section Copy

variable {doc projected : Document} {path other : String} {value : Value}

theorem copyAt_of_found (projected : Document) (h : lookup doc path = some value) :
    copyAt doc projected path = Path.set projected path value := by
  rw [copyAt, h]

theorem copyAt_of_missing (projected : Document) (h : lookup doc path = none) :
    copyAt doc projected path = projected := by
  rw [copyAt, h]

theorem copy_eq (doc projected : Document) (path : String) (value : Value) :
    copy doc projected path value =
      if (path != "_id" && value.truthy) = true then copyAt doc projected path
      else projected := by
  by_cases hpath : path = "_id"
  · rw [copy, if_pos (by simp [hpath]), if_neg (by simp [hpath])]
  cases htruthy : value.truthy with
  | false => rw [copy, if_pos (by simp [htruthy]), if_neg (by simp)]
  | true =>
    rw [copy, if_neg (by simp [hpath, htruthy]), if_pos (by simp [hpath])]
    cases hfound : lookup doc path with
    | none => exact (copyAt_of_missing projected hfound).symm
    | some found => exact (copyAt_of_found projected hfound).symm

/-- The id that a projection begins with is copied like any other path. -/
theorem copyAt_id (doc : Document) :
    copyAt doc [] "_id" =
      match Fields.get? doc "_id" with
      | some id => [("_id", id)]
      | none => [] := by
  have hplain : IsPlain "_id" := by decide
  have hlookup : lookup doc "_id" = Fields.get? doc "_id" := by
    rw [lookup, segments_plain hplain]
    rfl
  cases hid : Fields.get? doc "_id" with
  | none => exact copyAt_of_missing [] (hlookup.trans hid)
  | some id =>
    rw [copyAt_of_found [] (hlookup.trans hid), set_plain [] id hplain]
    rfl

/-- A projection copies what it includes, one path after the other. -/
theorem apply_eq_foldl (projection doc : Document) :
    apply projection doc = (included projection).foldl (copyAt doc) [] := by
  have hstart : (if keepsId projection then ["_id"] else []).foldl (copyAt doc) [] =
      if keepsId projection then
        match Fields.get? doc "_id" with
        | some id => [("_id", id)]
        | none => []
      else [] := by
    by_cases hid : keepsId projection = true
    · rw [if_pos hid, if_pos hid, List.foldl_cons, List.foldl_nil, copyAt_id]
    · rw [if_neg hid, if_neg hid, List.foldl_nil]
  rw [included, List.foldl_append, hstart, List.foldl_map, List.foldl_filter]
  exact List.foldl_ext _ _ _ fun projected part _ => copy_eq doc projected part.1 part.2

/-! ## One path -/

/-- Whether everything that is found in a document is found in a `whole`, or a part of it when it is
a document. -/
def PartOf (part whole : Document) : Prop :=
  ∀ path value, lookup part path = some value →
    ∃ other, lookup whole path = some other ∧ value.Outlines other

/-- A copy brings what the document has at a path and below it. -/
theorem lookup_copyAt_below (projected : Document) (h : lookup doc path = some value)
    (hbelow : segments path <+: segments other) :
    lookup (copyAt doc projected path) other = lookup doc other := by
  obtain ⟨below, hbelow⟩ := hbelow
  have hne := segments_ne_nil path
  calc lookup (copyAt doc projected path) other
      = lookupSegments (setSegments projected value (segments path)) (segments path ++ below) := by
        rw [copyAt_of_found projected h, hbelow]
        rfl
    _ = within value below := lookupSegments_setSegments_append projected value hne below
    _ = (lookup doc path).bind (within · below) := by rw [h, Option.bind_some]
    _ = lookupSegments doc (segments path ++ below) := (lookupSegments_append doc hne below).symm
    _ = lookup doc other := by rw [hbelow, lookup]

theorem lookup_copyAt_of_apart (doc projected : Document) (h : Apart path other) :
    lookup (copyAt doc projected path) other = lookup projected other := by
  cases hfound : lookup doc path with
  | none => rw [copyAt_of_missing projected hfound]
  | some value => rw [copyAt_of_found projected hfound, h.lookup_set]

/-- A path that leads to what it leads to in the document goes on doing so. -/
theorem lookup_copyAt_of_copied (path : String) (h : lookup projected other = lookup doc other) :
    lookup (copyAt doc projected path) other = lookup doc other := by
  cases hfound : lookup doc path with
  | none => rw [copyAt_of_missing projected hfound, h]
  | some value =>
    rcases prefix_or_behind_or_fork (segments path) (segments other) with
      hbelow | ⟨below, -, hbehind⟩ | hfork
    · exact lookup_copyAt_below projected hfound hbelow
    · -- what is at the other path was copied with all below it, so the copy writes what is there
      have hne := segments_ne_nil other
      have hthere : lookupSegments projected (segments path) = some value := by
        calc lookupSegments projected (segments path)
            = (lookup projected other).bind (within · below) := by
              rw [hbehind, lookupSegments_append projected hne, lookup]
          _ = (lookup doc other).bind (within · below) := by rw [h]
          _ = lookup doc path := by rw [lookup, lookup, hbehind, lookupSegments_append doc hne]
          _ = some value := hfound
      rw [copyAt_of_found projected hfound, Path.set, setSegments_of_lookupSegments hthere, h]
    · rw [lookup_copyAt_of_apart doc projected (fork_iff.mp hfork), h]

/-- A copy into a part of the document gives a part of it. -/
theorem partOf_copyAt (h : PartOf projected doc) (path : String) :
    PartOf (copyAt doc projected path) doc := by
  intro other found hother
  cases hvalue : lookup doc path with
  | none =>
    rw [copyAt_of_missing projected hvalue] at hother
    exact h other found hother
  | some value =>
    rcases prefix_or_behind_or_fork (segments path) (segments other) with
      hbelow | ⟨below, hnil, hbehind⟩ | hfork
    · rw [lookup_copyAt_below projected hvalue hbelow] at hother
      exact ⟨found, hother, .refl found⟩
    · -- the copy and the document both have something behind the other path
      have hne := segments_ne_nil other
      have hcopy : lookup (copyAt doc projected path) path = some value :=
        (lookup_copyAt_below projected hvalue List.prefix_rfl).trans hvalue
      rw [lookup, hbehind] at hcopy hvalue
      obtain ⟨members, hmembers⟩ := exists_document_of_append hne hnil hcopy
      obtain ⟨others, hothers⟩ := exists_document_of_append hne hnil hvalue
      obtain rfl : found = .document members := Option.some.inj (hother.symm.trans hmembers)
      exact ⟨.document others, hothers, .document members others⟩
    · rw [lookup_copyAt_of_apart doc projected (fork_iff.mp hfork)] at hother
      exact h other found hother

/-- Copying a path into a part of the document makes it lead to what it leads to in the document. -/
theorem lookup_copyAt_self (h : PartOf projected doc) (path : String) :
    lookup (copyAt doc projected path) path = lookup doc path := by
  cases hfound : lookup doc path with
  | some value => rw [lookup_copyAt_below projected hfound List.prefix_rfl, hfound]
  | none =>
    rw [copyAt_of_missing projected hfound, Option.eq_none_iff_forall_ne_some]
    intro value hvalue
    obtain ⟨whole, hwhole, -⟩ := h path value hvalue
    rw [hfound] at hwhole
    cases hwhole

end Copy

/-! ## All paths -/

/-- What is true once some paths of a document have been copied. -/
structure Copied (doc : Document) (paths : List String) (projected : Document) : Prop where
  /-- Nothing is there that the document does not have. -/
  partOf : PartOf projected doc
  /-- The paths that were copied lead to what they lead to in the document. -/
  found : ∀ path ∈ paths, lookup projected path = lookup doc path
  /-- A path apart from all of them leads to nothing. -/
  absent : ∀ path, (∀ copied ∈ paths, Apart copied path) → lookup projected path = none

section Run

variable {doc projected : Document} {paths : List String}

theorem lookup_nil (path : String) : lookup [] path = none := by
  rw [lookup]
  cases hsegments : segments path with
  | nil => rfl
  | cons name rest => exact lookupSegments_cons [] name rest

theorem copied_nil (doc : Document) : Copied doc [] [] where
  partOf path _ h := nomatch (lookup_nil path).symm.trans h
  found _ h := absurd h List.not_mem_nil
  absent path _ := lookup_nil path

theorem Copied.snoc (h : Copied doc paths projected) (path : String) :
    Copied doc (paths ++ [path]) (copyAt doc projected path) where
  partOf := partOf_copyAt h.partOf path
  found other hother := by
    rcases List.mem_append.mp hother with hbefore | hlast
    · exact lookup_copyAt_of_copied path (h.found other hbefore)
    · rw [List.mem_singleton.mp hlast]
      exact lookup_copyAt_self h.partOf path
  absent other hother := by
    rw [lookup_copyAt_of_apart doc projected
      (hother path (List.mem_append_right _ List.mem_cons_self))]
    exact h.absent other fun copied hcopied => hother copied (List.mem_append_left _ hcopied)

theorem Copied.foldl (h : Copied doc paths projected) (more : List String) :
    Copied doc (paths ++ more) (more.foldl (copyAt doc) projected) := by
  -- the path that is copied next joins those that are copied, so both they and the copy are
  -- generalised
  induction more generalizing paths projected with
  | nil => rwa [List.append_nil]
  | cons path rest ih =>
    rw [List.foldl_cons, List.append_cons]
    exact ih (h.snoc path)

theorem copied_apply (projection doc : Document) :
    Copied doc (included projection) (apply projection doc) := by
  rw [apply_eq_foldl]
  exact (copied_nil doc).foldl (included projection)

/-- A projection depends on what the paths that it includes lead to, and on nothing else. -/
theorem apply_congr {projection other : Document}
    (h : ∀ path, Includes projection path → lookup doc path = lookup other path) :
    apply projection doc = apply projection other := by
  rw [apply_eq_foldl, apply_eq_foldl]
  refine List.foldl_ext _ _ _ fun projected path hpath => ?_
  rw [copyAt, copyAt, h path (mem_included_iff.mp hpath)]

end Run

/-- What a projection makes of a document. -/
structure IsProjection (projection doc projected : Document) : Prop where
  /-- Nothing is there that the document does not have. -/
  sound : PartOf projected doc
  /-- Every path that is included leads to what it leads to in the document. -/
  complete : ∀ path, Includes projection path → lookup projected path = lookup doc path
  /-- A path leads to nothing when it is neither behind an included path nor in front of one. -/
  absent : ∀ path, (∀ other, Includes projection other → Apart other path) →
    lookup projected path = none
  /-- A second projection changes nothing. -/
  idempotent : apply projection projected = projected

/-- A projection is sound, complete and idempotent, whichever paths it includes and in whatever
order it names them. -/
theorem isProjection_apply (projection doc : Document) :
    IsProjection projection doc (apply projection doc) := by
  have hcopied := copied_apply projection doc
  have hcomplete : ∀ path, Includes projection path →
      lookup (apply projection doc) path = lookup doc path :=
    fun path hpath => hcopied.found path (mem_included_iff.mpr hpath)
  exact {
    sound := hcopied.partOf
    complete := hcomplete
    absent := fun path hpath => hcopied.absent path fun other hother =>
      hpath other (mem_included_iff.mp hother)
    idempotent := apply_congr hcomplete }

/-- The whole data are copied over the age that was copied before, and the members stand as they do
in the document. -/
example :
    apply [("data.age", .bool true), ("data", .bool true), ("kind", .bool false)]
        [("_id", .int32 7), ("kind", .null),
          ("data", .document [("name", .string "a"), ("age", .int32 30)])] =
      [("_id", .int32 7), ("data", .document [("name", .string "a"), ("age", .int32 30)])] := by
  cbv

end Projection

end ClassApi
