import ClassApi.Proofs.Path
import Mathlib.Data.List.Perm.Basic

/-!
# Writing members in either order

A write to a name that is present changes a value in place; a write to a new name appends. So an
update at plain names falls apart into one that only changes values and a list that is appended.
Changes of different members can be made in either order, and what two updates append stands in one
order or the other. That is all in which the results differ.
-/

namespace ClassApi

/-! ## Single writes -/

namespace Fields

variable {α : Type}

/-- A write to a name that is present does not reach what stands behind. -/
theorem insert_append_of_mem {fields : Fields α} {name : String} (value : α)
    (h : name ∈ names fields) (tail : Fields α) :
    insert (fields ++ tail) name value = insert fields name value ++ tail := by
  induction fields with
  | nil => exact absurd h List.not_mem_nil
  | cons entry rest ih =>
    obtain ⟨key, old⟩ := entry
    by_cases hk : key = name
    · rw [List.cons_append, insert, if_pos hk, insert, if_pos hk, List.cons_append]
    · have hrest : name ∈ names rest := (List.mem_cons.mp h).resolve_left (Ne.symm hk)
      rw [List.cons_append, insert, if_neg hk, insert, if_neg hk, List.cons_append, ih hrest]

/-- Two writes to different names can be made in either order when one of the names is present. -/
theorem insert_comm_of_mem {fields : Fields α} {name other : String} (value new : α)
    (h : name ∈ names fields) (hne : name ≠ other) :
    insert (insert fields name value) other new = insert (insert fields other new) name value := by
  induction fields with
  | nil => exact absurd h List.not_mem_nil
  | cons entry rest ih =>
    obtain ⟨key, old⟩ := entry
    by_cases hk : key = name
    · have ho : key ≠ other := fun he => hne (hk.symm.trans he)
      rw [insert, if_pos hk, insert, if_neg ho, insert, if_neg ho, insert, if_pos hk]
    · have hrest : name ∈ names rest := (List.mem_cons.mp h).resolve_left (Ne.symm hk)
      by_cases ho : key = other
      · rw [insert, if_neg hk, insert, if_pos ho, insert, if_pos ho, insert, if_neg hk]
      · rw [insert, if_neg hk, insert, if_neg ho, insert, if_neg ho, insert, if_neg hk, ih hrest]

/-- The names after a write depend on the names before. -/
theorem names_insert_congr {fields others : Fields α} (h : names fields = names others)
    (name : String) (value new : α) :
    names (insert fields name value) = names (insert others name new) := by
  by_cases hmem : name ∈ names fields
  · rw [names_insert_of_mem value hmem, names_insert_of_mem new (h ▸ hmem), h]
  · have happend : ∀ (fields : Fields α) (value : α), name ∉ names fields →
        names (insert fields name value) = names fields ++ [name] := by
      intro fields value hnew
      rw [insert_eq_append value hnew, names, List.map_append]
      rfl
    rw [happend fields value hmem, happend others new (h ▸ hmem), h]

end Fields

/-! ## Updates at plain names -/

namespace Update

open ClassApi.Path

variable {doc fields others : Document}

/-- Whether the names of an update are segments of paths, and none stands there twice. -/
structure Plain (fields : Document) : Prop where
  /-- The names are segments. -/
  isPlain : ∀ name ∈ Fields.names fields, IsPlain name
  /-- No name repeats. -/
  nodup : (Fields.names fields).Nodup

theorem Plain.tail {field : String × Value} (h : Plain (field :: fields)) : Plain fields :=
  ⟨fun name hname => h.isPlain name (List.mem_cons_of_mem _ hname), (List.nodup_cons.mp h.nodup).2⟩

theorem Plain.setAll_cons (doc : Document) {name : String} {value : Value}
    (h : Plain ((name, value) :: fields)) :
    setAll doc ((name, value) :: fields) = setAll (Fields.insert doc name value) fields := by
  rw [Update.setAll_cons, set_plain doc value (h.isPlain name List.mem_cons_self)]

theorem Plain.mem_setAll (h : Plain fields) {member : String × Value}
    (hmember : member ∈ setAll doc fields) : member ∈ fields ∨ member ∈ doc := by
  induction fields generalizing doc with
  | nil => exact Or.inr hmember
  | cons field rest ih =>
    rw [h.setAll_cons] at hmember
    rcases ih h.tail hmember with hrest | hinsert
    · exact Or.inl (List.mem_cons_of_mem _ hrest)
    · rcases Fields.mem_insert hinsert with rfl | hdoc
      · exact Or.inl List.mem_cons_self
      · exact Or.inr hdoc

theorem mem_names_setAll_of_mem (h : Plain fields) {name : String}
    (hname : name ∈ Fields.names doc) : name ∈ Fields.names (setAll doc fields) := by
  induction fields generalizing doc with
  | nil => exact hname
  | cons field rest ih =>
    rw [h.setAll_cons]
    exact ih h.tail (Fields.mem_names_insert.mpr (Or.inr hname))

/-- Changing members in place does not reach what stands behind. -/
theorem setAll_append_of_mem (h : Plain fields)
    (hmem : ∀ name ∈ Fields.names fields, name ∈ Fields.names doc) (tail : Document) :
    setAll (doc ++ tail) fields = setAll doc fields ++ tail := by
  induction fields generalizing doc with
  | nil => rfl
  | cons field rest ih =>
    obtain ⟨name, value⟩ := field
    rw [h.setAll_cons, h.setAll_cons,
      Fields.insert_append_of_mem value (hmem name List.mem_cons_self)]
    exact ih h.tail fun other hother =>
      Fields.mem_names_insert.mpr (Or.inr (hmem other (List.mem_cons_of_mem _ hother)))

/-- A write can be moved before an update that changes other members in place. -/
theorem insert_setAll (h : Plain fields)
    (hmem : ∀ name ∈ Fields.names fields, name ∈ Fields.names doc) {name : String} (value : Value)
    (hname : name ∉ Fields.names fields) :
    Fields.insert (setAll doc fields) name value =
      setAll (Fields.insert doc name value) fields := by
  induction fields generalizing doc with
  | nil => rfl
  | cons field rest ih =>
    obtain ⟨key, new⟩ := field
    have hkey : key ≠ name := fun he => hname (he ▸ List.mem_cons_self)
    have hrest : ∀ other ∈ Fields.names rest, other ∈ Fields.names (Fields.insert doc key new) := by
      intro other hother
      exact Fields.mem_names_insert.mpr (Or.inr (hmem other (List.mem_cons_of_mem _ hother)))
    rw [h.setAll_cons, h.setAll_cons, ih h.tail hrest fun hm => hname (List.mem_cons_of_mem _ hm),
      Fields.insert_comm_of_mem new value (hmem key List.mem_cons_self) hkey]

/-- Two updates that change different members in place can be made in either order. -/
theorem setAll_comm (h : Plain fields) (h' : Plain others)
    (hmem : ∀ name ∈ Fields.names fields, name ∈ Fields.names doc)
    (hdisjoint : ∀ name ∈ Fields.names fields, name ∉ Fields.names others) :
    setAll (setAll doc fields) others = setAll (setAll doc others) fields := by
  induction others generalizing doc with
  | nil => rfl
  | cons other rest ih =>
    obtain ⟨name, value⟩ := other
    have hname : name ∉ Fields.names fields := fun hm => hdisjoint name hm List.mem_cons_self
    rw [h'.setAll_cons, h'.setAll_cons, insert_setAll h hmem value hname]
    refine ih h'.tail (fun key hkey => Fields.mem_names_insert.mpr (Or.inr (hmem key hkey))) ?_
    exact fun key hkey hm => hdisjoint key hkey (List.mem_cons_of_mem _ hm)

/-- The part of an update that is about members of a document. -/
def present (doc fields : Document) : Document :=
  fields.filter fun field => field.1 ∈ Fields.names doc

/-- The part of an update that is about new members. -/
def absent (doc fields : Document) : Document :=
  fields.filter fun field => field.1 ∉ Fields.names doc

theorem Plain.present (h : Plain fields) (doc : Document) : Plain (present doc fields) := by
  have hsublist : (Fields.names (Update.present doc fields)).Sublist (Fields.names fields) :=
    List.filter_sublist.map Prod.fst
  exact ⟨fun name hname => h.isPlain name (hsublist.subset hname), h.nodup.sublist hsublist⟩

theorem mem_names_of_present {name : String} (h : name ∈ Fields.names (present doc fields)) :
    name ∈ Fields.names fields ∧ name ∈ Fields.names doc := by
  obtain ⟨field, hfield, rfl⟩ := List.mem_map.mp h
  obtain ⟨hmem, hname⟩ := List.mem_filter.mp hfield
  exact ⟨List.mem_map_of_mem hmem, of_decide_eq_true hname⟩

/-- What is present and what is absent depends on which of the names of the update the document
has. -/
theorem present_congr {doc' : Document}
    (h : ∀ name ∈ Fields.names fields, name ∈ Fields.names doc' ↔ name ∈ Fields.names doc) :
    present doc' fields = present doc fields ∧ absent doc' fields = absent doc fields := by
  have hsame : ∀ field ∈ fields, field.1 ∈ Fields.names doc' ↔ field.1 ∈ Fields.names doc :=
    fun field hfield => h field.1 (List.mem_map_of_mem hfield)
  exact ⟨List.filter_congr fun field hfield => decide_eq_decide.mpr (hsame field hfield),
    List.filter_congr fun field hfield => decide_eq_decide.mpr (not_congr (hsame field hfield))⟩

/-- An update changes the members that are present and appends the others. -/
theorem setAll_eq_append (h : Plain fields) :
    setAll doc fields = setAll doc (present doc fields) ++ absent doc fields := by
  induction fields generalizing doc with
  | nil => exact (List.append_nil _).symm
  | cons field rest ih =>
    obtain ⟨name, value⟩ := field
    have hname : name ∉ Fields.names rest := (List.nodup_cons.mp h.nodup).1
    rw [h.setAll_cons, ih h.tail]
    by_cases hmem : name ∈ Fields.names doc
    · have hpresent : present doc ((name, value) :: rest) = (name, value) :: present doc rest :=
        List.filter_cons_of_pos (decide_eq_true hmem)
      have habsent : absent doc ((name, value) :: rest) = absent doc rest :=
        List.filter_cons_of_neg (by simpa using hmem)
      have hsame : ∀ other ∈ Fields.names rest,
          other ∈ Fields.names (Fields.insert doc name value) ↔ other ∈ Fields.names doc :=
        fun other _ => by rw [Fields.names_insert_of_mem value hmem]
      obtain ⟨hp, ha⟩ := present_congr hsame
      have hplain : Plain ((name, value) :: present doc rest) := hpresent ▸ h.present doc
      rw [hp, ha, hpresent, habsent, hplain.setAll_cons]
    · have hpresent : present doc ((name, value) :: rest) = present doc rest :=
        List.filter_cons_of_neg (by simpa using hmem)
      have habsent : absent doc ((name, value) :: rest) = (name, value) :: absent doc rest :=
        List.filter_cons_of_pos (by simpa using hmem)
      have hsame : ∀ other ∈ Fields.names rest,
          other ∈ Fields.names (Fields.insert doc name value) ↔ other ∈ Fields.names doc := by
        intro other hother
        rw [Fields.mem_names_insert]
        exact or_iff_right fun he => hname (he ▸ hother)
      obtain ⟨hp, ha⟩ := present_congr hsame
      rw [hp, ha, hpresent, habsent, Fields.insert_eq_append value hmem,
        setAll_append_of_mem (h.tail.present doc)
          fun other hother => (mem_names_of_present hother).2, List.append_assoc]
      rfl

/-- Two updates of different members, one after the other: members that are present change, and
those that are new are appended in the order of the updates. -/
theorem setAll_setAll (h : Plain fields) (h' : Plain others)
    (hdisjoint : ∀ name ∈ Fields.names fields, name ∉ Fields.names others) :
    setAll (setAll doc fields) others =
      setAll (setAll doc (present doc fields)) (present doc others) ++
        (absent doc fields ++ absent doc others) := by
  have hsame : ∀ name ∈ Fields.names others,
      name ∈ Fields.names (setAll doc fields) ↔ name ∈ Fields.names doc := fun name hname =>
    ⟨fun hm => (mem_names_setAll h.isPlain hm).resolve_left fun hm => hdisjoint name hm hname,
      mem_names_setAll_of_mem h⟩
  obtain ⟨hpresent, habsent⟩ := present_congr hsame
  have hmem : ∀ name ∈ Fields.names (present doc others), name ∈
      Fields.names (setAll doc (present doc fields)) :=
    fun name hname => mem_names_setAll_of_mem (h.present doc) (mem_names_of_present hname).2
  rw [setAll_eq_append h', hpresent, habsent, setAll_eq_append h,
    setAll_append_of_mem (h'.present doc) hmem, List.append_assoc]

/-- Two updates of different members give the same members in either order. -/
theorem setAll_perm (h : Plain fields) (h' : Plain others)
    (hdisjoint : ∀ name ∈ Fields.names fields, name ∉ Fields.names others) :
    (setAll (setAll doc fields) others).Perm (setAll (setAll doc others) fields) := by
  have hdisjoint' : ∀ name ∈ Fields.names others, name ∉ Fields.names fields :=
    fun name hname hm => hdisjoint name hm hname
  have hcomm : setAll (setAll doc (present doc fields)) (present doc others) =
      setAll (setAll doc (present doc others)) (present doc fields) := by
    refine setAll_comm (h.present doc) (h'.present doc)
      (fun name hname => (mem_names_of_present hname).2) ?_
    exact fun name hname hm =>
      hdisjoint name (mem_names_of_present hname).1 (mem_names_of_present hm).1
  rw [setAll_setAll h h' hdisjoint, setAll_setAll h' h hdisjoint', hcomm]
  exact List.perm_append_comm.append_left _

/-- An update below a member makes a document of it, if it writes anything. -/
theorem get?_setAll_below_of_ne_nil {head : String} (doc : Document) (h : IsPlain head)
    (hne : fields ≠ []) :
    Fields.get? (setAll doc (below head fields)) head =
      some (.document (setAll (inner doc head) fields)) := by
  cases fields with
  | nil => exact absurd rfl hne
  | cons field rest =>
    obtain ⟨path, value⟩ := field
    have hset := get?_set_below doc path value h
    have hinner := inner_of_get? hset
    show Fields.get? (setAll (set doc (head ++ "." ++ path) value) (below head rest)) head = _
    rw [get?_setAll_below rest h (by rw [hset, hinner]), hinner]
    rfl

end Update

end ClassApi
