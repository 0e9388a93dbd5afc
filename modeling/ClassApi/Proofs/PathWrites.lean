import ClassApi.Proofs.Merging

/-!
# Writes at dotted paths

Looking up a path and writing at it obey the laws of a lens. What is written is found again, writing
what is found changes nothing, a second write takes the place of the first, and a write is not seen
along a path that forks off from its own: one that shares some segments with it and then goes on
with a different one. So two writes at paths that fork can be made in either order, and the
documents they give differ in the order of their members only. The laws are shown segment by
segment: a write changes the member its path begins with, and a look-up goes on below that member.
-/

namespace ClassApi

/-! ## Documents up to order -/

namespace Value

mutual

/-- Whether two values are the same up to the order of the members of documents. -/
inductive Reordered : Value → Value → Prop where
  /-- A value is the same as itself. -/
  | refl (value : Value) : Reordered value value
  /-- Documents are the same when their members are. -/
  | document {members others : Document} (h : MembersReordered members others) :
      Reordered (.document members) (.document others)

/-- Whether two documents have the same members up to their order, and up to the order of the
members of their values. -/
inductive MembersReordered : Document → Document → Prop where
  /-- A document without members is the same as itself. -/
  | nil : MembersReordered [] []
  /-- Two members of one name stand in the same place. -/
  | cons (name : String) {value other : Value} {members others : Document}
      (h : Reordered value other) (hrest : MembersReordered members others) :
      MembersReordered ((name, value) :: members) ((name, other) :: others)
  /-- Two members next to each other change places. -/
  | swap (first second : String × Value) (members : Document) :
      MembersReordered (first :: second :: members) (second :: first :: members)
  /-- Members are put in another order step by step. -/
  | trans {first second third : Document} (h : MembersReordered first second)
      (h' : MembersReordered second third) :
      MembersReordered first third

end

theorem MembersReordered.refl (members : Document) : MembersReordered members members := by
  induction members with
  | nil => exact .nil
  | cons member rest ih => exact .cons member.1 (.refl member.2) ih

theorem MembersReordered.of_perm {members others : Document} (h : members.Perm others) :
    MembersReordered members others := by
  induction h with
  | nil => exact .nil
  | cons member _ ih => exact .cons member.1 (.refl member.2) ih
  | swap first second members => exact .swap second first members
  | trans _ _ ih ih' => exact ih.trans ih'

theorem MembersReordered.insert (doc : Document) (name : String) {value other : Value}
    (h : Reordered value other) :
    MembersReordered (Fields.insert doc name value) (Fields.insert doc name other) := by
  induction doc with
  | nil => exact .cons name h .nil
  | cons member rest ih =>
    obtain ⟨key, old⟩ := member
    by_cases hk : key = name
    · rw [Fields.insert, if_pos hk, Fields.insert, if_pos hk]
      exact .cons key h (.refl rest)
    · rw [Fields.insert, if_neg hk, Fields.insert, if_neg hk]
      exact .cons key (.refl old) ih

end Value

namespace Fields

variable {α : Type}

theorem insert_insert_self (fields : Fields α) (name : String) (value new : α) :
    insert (insert fields name value) name new = insert fields name new := by
  induction fields with
  | nil => simp [insert]
  | cons entry rest ih =>
    obtain ⟨key, old⟩ := entry
    by_cases hk : key = name
    · simp only [insert, if_pos hk]
    · simp only [insert, if_neg hk, ih]

/-- Writing what is found under a name changes nothing. -/
theorem insert_of_get? {fields : Fields α} {name : String} {value : α}
    (h : get? fields name = some value) : insert fields name value = fields := by
  induction fields with
  | nil => cases h
  | cons entry rest ih =>
    obtain ⟨key, old⟩ := entry
    by_cases hk : key = name
    · rw [get?, if_pos hk] at h
      rw [insert, if_pos hk, Option.some.inj h]
    · rw [get?, if_neg hk] at h
      rw [insert, if_neg hk, ih h]

/-- Two writes to different names give the same members in either order. -/
theorem insert_insert_perm (fields : Fields α) {name other : String} (value new : α)
    (hne : name ≠ other) :
    (insert (insert fields name value) other new).Perm
      (insert (insert fields other new) name value) := by
  by_cases hmem : name ∈ names fields
  · rw [insert_comm_of_mem value new hmem hne]
  by_cases hmem' : other ∈ names fields
  · rw [insert_comm_of_mem new value hmem' hne.symm]
  -- both names are new, and what is written stands behind the other members
  have hnew : ∀ {key next : String} (written : α), next ≠ key → next ∉ names fields →
      next ∉ names (fields ++ [(key, written)]) := by
    intro key next written hnext hfields hnames
    rw [names, List.map_append] at hnames
    rcases List.mem_append.mp hnames with hold | hlast
    · exact hfields hold
    · exact hnext (List.mem_singleton.mp hlast)
  rw [insert_eq_append value hmem, insert_eq_append new (hnew value hne.symm hmem'),
    insert_eq_append new hmem', insert_eq_append value (hnew new hne hmem), List.append_assoc,
    List.append_assoc]
  exact List.perm_append_comm.append_left fields

end Fields

namespace Path

/-! ## One segment at a time -/

/-- The value at some segments below a value. -/
def within (value : Value) : List String → Option Value
  | [] => some value
  | name :: rest =>
    match value with
    | .document members => lookupSegments members (name :: rest)
    | _ => none

/-- What a write at some segments below a document puts in its place. -/
def placed (members : Document) (value : Value) : List String → Value
  | [] => value
  | name :: rest => .document (setSegments members value (name :: rest))

section Segments

variable {doc : Document} {name : String}

/-- A look-up goes on below the member its path begins with. -/
theorem lookupSegments_cons (doc : Document) (name : String) (path : List String) :
    lookupSegments doc (name :: path) = (Fields.get? doc name).bind (within · path) := by
  cases path with
  | nil =>
    rw [lookupSegments]
    cases Fields.get? doc name with
    | none => rfl
    | some value => rfl
  | cons next rest =>
    rw [lookupSegments]
    · cases Fields.get? doc name with
      | none => rfl
      | some value =>
        cases value with
        | document members => rfl
        | _ => rfl
    · exact List.cons_ne_nil next rest

theorem setSegments_cons (doc : Document) (value : Value) (name : String) (path : List String) :
    setSegments doc value (name :: path) =
      Fields.insert doc name (placed (inner doc name) value path) := by
  cases path with
  | nil => rfl
  | cons next rest =>
    rw [setSegments]
    · rfl
    · exact List.cons_ne_nil next rest

theorem inner_insert_self (doc members : Document) (name : String) :
    inner (Fields.insert doc name (.document members)) name = members :=
  inner_of_get? (Fields.get?_insert_self doc name _)

theorem inner_insert_of_ne (doc : Document) {name other : String} (value : Value)
    (h : other ≠ name) : inner (Fields.insert doc name value) other = inner doc other := by
  rw [inner, Fields.get?_insert_of_ne doc value h, inner]

/-- Behind the first of several segments, a look-up is one in the document at the member. -/
theorem lookupSegments_below (doc : Document) (name : String) {path : List String} (h : path ≠ []) :
    lookupSegments doc (name :: path) = lookupSegments (inner doc name) path := by
  cases path with
  | nil => exact absurd rfl h
  | cons next rest =>
    rw [lookupSegments_cons, inner]
    cases Fields.get? doc name with
    | none => exact (lookupSegments_cons [] next rest).symm
    | some value =>
      cases value with
      | document members => rfl
      | _ => exact (lookupSegments_cons [] next rest).symm

theorem setSegments_below (doc : Document) (value : Value) (name : String) {path : List String}
    (h : path ≠ []) :
    setSegments doc value (name :: path) =
      Fields.insert doc name (.document (setSegments (inner doc name) value path)) := by
  cases path with
  | nil => exact absurd rfl h
  | cons next rest => rw [setSegments_cons, placed]

/-- A look-up behind some segments is one below what is found at them. -/
theorem within_append (value : Value) (path below : List String) :
    within value (path ++ below) = (within value path).bind (within · below) := by
  induction path generalizing value with
  | nil => rfl
  | cons name rest ih =>
    cases value with
    | document members =>
      show lookupSegments members (name :: (rest ++ below)) =
        (lookupSegments members (name :: rest)).bind (within · below)
      rw [lookupSegments_cons, lookupSegments_cons, Option.bind_assoc]
      exact congrArg _ (funext ih)
    | _ => rfl

theorem lookupSegments_append (doc : Document) {path : List String} (h : path ≠ [])
    (below : List String) :
    lookupSegments doc (path ++ below) = (lookupSegments doc path).bind (within · below) := by
  cases path with
  | nil => exact absurd rfl h
  | cons name rest => exact within_append (.document doc) (name :: rest) below

/-- Only documents have something below them. -/
theorem exists_document_of_within {value found : Value} {below : List String} (hbelow : below ≠ [])
    (h : within value below = some found) : ∃ members, value = .document members := by
  cases below with
  | nil => exact absurd rfl hbelow
  | cons name rest =>
    cases value with
    | document members => exact ⟨members, rfl⟩
    | _ => cases h

theorem exists_document_of_append {value : Value} {path below : List String} (hpath : path ≠ [])
    (hbelow : below ≠ []) (h : lookupSegments doc (path ++ below) = some value) :
    ∃ members, lookupSegments doc path = some (.document members) := by
  rw [lookupSegments_append doc hpath] at h
  obtain ⟨member, hmember, hwithin⟩ := Option.bind_eq_some_iff.mp h
  obtain ⟨members, rfl⟩ := exists_document_of_within hbelow hwithin
  exact ⟨members, hmember⟩

/-- What is written is found again, and below it what it holds. -/
theorem lookupSegments_setSegments_append (doc : Document) (value : Value) {path : List String}
    (h : path ≠ []) (below : List String) :
    lookupSegments (setSegments doc value path) (path ++ below) = within value below := by
  induction path generalizing doc with
  | nil => exact absurd rfl h
  | cons name rest ih =>
    rw [setSegments_cons, List.cons_append, lookupSegments_cons, Fields.get?_insert_self,
      Option.bind_some]
    cases rest with
    | nil => rfl
    | cons next rest => exact ih (inner doc name) (List.cons_ne_nil next rest)

/-- Writing what is found at some segments changes nothing. -/
theorem setSegments_of_lookupSegments {value : Value} {path : List String}
    (h : lookupSegments doc path = some value) : setSegments doc value path = doc := by
  induction path generalizing doc with
  | nil => rfl
  | cons name rest ih =>
    cases rest with
    | nil => exact Fields.insert_of_get? h
    | cons next rest =>
      have hne := List.cons_ne_nil next rest
      rw [lookupSegments_cons] at h
      obtain ⟨member, hmember, hwithin⟩ := Option.bind_eq_some_iff.mp h
      obtain ⟨members, rfl⟩ := exists_document_of_within hne hwithin
      rw [setSegments_below doc value name hne, inner_of_get? hmember, ih hwithin,
        Fields.insert_of_get? hmember]

theorem setSegments_setSegments_self (doc : Document) (value new : Value) (path : List String) :
    setSegments (setSegments doc value path) new path = setSegments doc new path := by
  induction path generalizing doc with
  | nil => rfl
  | cons name rest ih =>
    cases rest with
    | nil => exact Fields.insert_insert_self doc name value new
    | cons next rest =>
      have hne := List.cons_ne_nil next rest
      rw [setSegments_below doc value name hne, setSegments_below _ new name hne,
        inner_insert_self, ih, Fields.insert_insert_self, setSegments_below doc new name hne]

end Segments

/-! ## Paths that fork -/

/-- Whether two lists of segments go on differently behind some that they share. -/
inductive Fork : List String → List String → Prop where
  /-- The first segments differ. -/
  | head {name other : String} (h : name ≠ other) (path others : List String) :
      Fork (name :: path) (other :: others)
  /-- The first segment is shared. -/
  | tail (name : String) {path others : List String} (h : Fork path others) :
      Fork (name :: path) (name :: others)

/-- Segments fork unless some lead through the place of the others. -/
theorem fork_iff {path others : List String} :
    Fork path others ↔ ¬ path <+: others ∧ ¬ others <+: path := by
  constructor
  · intro h
    induction h with
    | head h => exact ⟨fun hp => h (List.cons_prefix_cons.mp hp).1, fun hp =>
      h (List.cons_prefix_cons.mp hp).1.symm⟩
    | tail name _ ih =>
      exact ⟨fun hp => ih.1 (List.cons_prefix_cons.mp hp).2, fun hp =>
        ih.2 (List.cons_prefix_cons.mp hp).2⟩
  · rintro ⟨hpath, hothers⟩
    induction path generalizing others with
    | nil => exact absurd List.nil_prefix hpath
    | cons name path ih =>
      cases others with
      | nil => exact absurd List.nil_prefix hothers
      | cons other others =>
        by_cases hname : name = other
        · subst hname
          refine .tail name (ih (fun hp => hpath ?_) fun hp => hothers ?_)
          · exact List.cons_prefix_cons.mpr ⟨rfl, hp⟩
          · exact List.cons_prefix_cons.mpr ⟨rfl, hp⟩
        · exact .head hname path others

/-- Of two lists of segments one is the beginning of the other, or they fork. -/
theorem prefix_or_behind_or_fork (path others : List String) :
    path <+: others ∨ (∃ below, below ≠ [] ∧ path = others ++ below) ∨ Fork path others := by
  by_cases hpath : path <+: others
  · exact Or.inl hpath
  by_cases hothers : others <+: path
  · obtain ⟨below, rfl⟩ := hothers
    refine Or.inr (Or.inl ⟨below, fun hnil => hpath ⟨[], ?_⟩, rfl⟩)
    rw [hnil, List.append_nil, List.append_nil]
  · exact Or.inr (Or.inr (fork_iff.mpr ⟨hpath, hothers⟩))

section Fork

variable {path others : List String}

theorem Fork.symm (h : Fork path others) : Fork others path := by
  induction h with
  | head h path others => exact .head h.symm others path
  | tail name _ ih => exact .tail name ih

theorem Fork.ne_nil (h : Fork path others) : path ≠ [] := by
  cases h with
  | head => exact List.cons_ne_nil _ _
  | tail => exact List.cons_ne_nil _ _

theorem Fork.lookupSegments_setSegments (h : Fork path others) (doc : Document) (value : Value) :
    lookupSegments (setSegments doc value path) others = lookupSegments doc others := by
  induction h generalizing doc with
  | head h => rw [setSegments_cons, lookupSegments_cons, lookupSegments_cons,
    Fields.get?_insert_of_ne doc _ h.symm]
  | tail name h ih =>
    rw [setSegments_below doc value name h.ne_nil, lookupSegments_below _ name h.symm.ne_nil,
      lookupSegments_below doc name h.symm.ne_nil, inner_insert_self, ih]

/-- Whether two documents have the same members up to order, and look alike at all segments. -/
structure LooksAlike (first second : Document) : Prop where
  /-- The members are the same up to order. -/
  members : Value.MembersReordered first second
  /-- What is found at segments is the same up to order. -/
  found :
    ∀ path, Option.Rel Value.Reordered (lookupSegments first path) (lookupSegments second path)

theorem rel_refl (found : Option Value) : Option.Rel Value.Reordered found found := by
  cases found with
  | none => exact .none
  | some value => exact .some (.refl value)

/-- Writes to different members give documents that look alike in either order. -/
theorem looksAlike_insert_insert (doc : Document) {name other : String} (value new : Value)
    (h : name ≠ other) :
    LooksAlike (Fields.insert (Fields.insert doc name value) other new)
      (Fields.insert (Fields.insert doc other new) name value) where
  members := .of_perm (Fields.insert_insert_perm doc value new h)
  found path := by
    cases path with
    | nil => exact .none
    | cons key rest =>
      have hget : Fields.get? (Fields.insert (Fields.insert doc name value) other new) key =
          Fields.get? (Fields.insert (Fields.insert doc other new) name value) key := by
        rw [Fields.get?_insert, Fields.get?_insert, Fields.get?_insert, Fields.get?_insert]
        by_cases hkey : key = other
        · rw [if_pos hkey, if_neg fun he => h (he.symm.trans hkey), if_pos hkey]
        · rw [if_neg hkey, if_neg hkey]
      rw [lookupSegments_cons, lookupSegments_cons, hget]
      exact rel_refl _

theorem LooksAlike.insert (doc : Document) (name : String) {first second : Document}
    (h : LooksAlike first second) :
    LooksAlike (Fields.insert doc name (.document first))
      (Fields.insert doc name (.document second)) where
  members := .insert doc name (.document h.members)
  found path := by
    cases path with
    | nil => exact .none
    | cons key rest =>
      rw [lookupSegments_cons, lookupSegments_cons, Fields.get?_insert, Fields.get?_insert]
      by_cases hkey : key = name
      · rw [if_pos hkey, if_pos hkey, Option.bind_some, Option.bind_some]
        cases rest with
        | nil => exact .some (.document h.members)
        | cons next rest => exact h.found (next :: rest)
      · rw [if_neg hkey, if_neg hkey]
        exact rel_refl _

/-- Two writes at segments that fork give documents that look alike in either order. -/
theorem Fork.looksAlike (h : Fork path others) (doc : Document) (value new : Value) :
    LooksAlike (setSegments (setSegments doc value path) new others)
      (setSegments (setSegments doc new others) value path) := by
  induction h generalizing doc with
  | head h path others =>
    rw [setSegments_cons, setSegments_cons, setSegments_cons, setSegments_cons,
      inner_insert_of_ne doc _ h.symm, inner_insert_of_ne doc _ h]
    exact looksAlike_insert_insert doc _ _ h
  | tail name h ih =>
    -- both writes go to the document at the shared segment
    rw [setSegments_below doc value name h.ne_nil, setSegments_below _ new name h.symm.ne_nil,
      inner_insert_self, Fields.insert_insert_self, setSegments_below doc new name h.symm.ne_nil,
      setSegments_below _ value name h.ne_nil,
      inner_insert_self, Fields.insert_insert_self]
    exact (ih (inner doc name)).insert doc name

end Fork

/-! ## The laws -/

/-- Whether neither of two paths leads through the place of the other: the segments of neither are
the first ones of the other's. -/
def Apart (path other : String) : Prop :=
  ¬ segments path <+: segments other ∧ ¬ segments other <+: segments path

instance (path other : String) : Decidable (Apart path other) :=
  inferInstanceAs (Decidable (_ ∧ _))

theorem Apart.lookup_set {path other : String} (h : Apart path other) (doc : Document)
    (value : Value) : lookup (set doc path value) other = lookup doc other :=
  (fork_iff.mpr h).lookupSegments_setSegments doc value

/-- Writes at paths that are apart from another one are not seen along that one. -/
theorem lookup_setAll_of_apart (doc : Document) {fields : Document} {path : String}
    (h : ∀ written ∈ Fields.names fields, Apart written path) :
    lookup (Update.setAll doc fields) path = lookup doc path := by
  induction fields generalizing doc with
  | nil => rfl
  | cons field rest ih =>
    obtain ⟨hfield, hrest⟩ := List.forall_mem_cons.mp h
    rw [Update.setAll_cons, ih _ hrest, Apart.lookup_set hfield]

/-- The laws of looking up and writing at two paths of a document. -/
structure LensLaws (doc : Document) (path other : String) (value new : Value) : Prop where
  /-- What is written is found. -/
  lookup_set : lookup (set doc path value) path = some value
  /-- A write is not seen along a path apart from its own. -/
  lookup_set_apart : Apart path other → lookup (set doc path value) other = lookup doc other
  /-- Of two writes at one path the last one stays. -/
  set_set : set (set doc path value) path new = set doc path new
  /-- Writes at paths that are apart can be made in either order: every look-up finds the same up to
  the order of the members of documents. -/
  set_comm : Apart path other → ∀ place,
    Option.Rel Value.Reordered (lookup (set (set doc path value) other new) place)
      (lookup (set (set doc other new) path value) place)
  /-- An update that sets fields of the data succeeds and is not seen along a path apart from those
  of the fields. -/
  setData :
    ∀ fields, (Update.apply doc [("$set", .document (Update.below "data" fields))]).2 = none ∧
    ∀ place, (∀ field ∈ Fields.names fields, Apart ("data." ++ field) place) →
      lookup (Update.apply doc [("$set", .document (Update.below "data" fields))]).1 place =
        lookup doc place

theorem lens_laws (doc : Document) (path other : String) (value new : Value) :
    LensLaws doc path other value new where
  lookup_set := by
    have happend := lookupSegments_setSegments_append doc value (segments_ne_nil path) []
    rwa [List.append_nil] at happend
  lookup_set_apart h := h.lookup_set doc value
  set_set := setSegments_setSegments_self doc value new (segments path)
  set_comm h place := ((fork_iff.mpr h).looksAlike doc value new).found (segments place)
  setData fields := by
    refine ⟨rfl, fun place h => lookup_setAll_of_apart doc fun written hwritten => ?_⟩
    obtain ⟨entry, hentry, rfl⟩ := List.mem_map.mp hwritten
    obtain ⟨field, hfield, rfl⟩ := List.mem_map.mp hentry
    exact h field.1 (List.mem_map_of_mem hfield)

namespace Sample

/-- A record whose profile is a text. -/
def record : Document :=
  [("data", .document [("profile", .string "none"), ("age", .int32 1)])]

end Sample

/-- A text that stands in the way gives place to a document; fields of it can be written in either
order. -/
theorem lens_laws_profile :
    Apart "data.profile.city" "data.profile.street" ∧ ¬ Apart "data.profile" "data.profile.street" ∧
      LensLaws Sample.record "data.profile.city" "data.profile.street" (.string "Paris") .null :=
  ⟨by decide +kernel, by decide +kernel, lens_laws _ _ _ _ _⟩

end Path

end ClassApi
