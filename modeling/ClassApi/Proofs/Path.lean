import ClassApi.Document.Update
import ClassApi.Proofs.Fields

/-!
# Laws of dotted paths

A name without a dot is a path of one segment, and a path with a first segment without a dot
descends into the member of that name. So a write below `data` leaves every other member of a record
alone, and what it does to the data is the same write, one level down.
-/

namespace ClassApi.Path

/-- Whether a name is one segment of a path. -/
def IsPlain (name : String) : Prop :=
  '.' ∉ name.toList

instance (name : String) : Decidable (IsPlain name) :=
  inferInstanceAs (Decidable ('.' ∉ name.toList))

theorem splitDots_plain (current : List Char) {cs : List Char} (h : '.' ∉ cs) :
    splitDots current cs = [String.ofList (current.reverse ++ cs)] := by
  induction cs generalizing current with
  | nil => rw [splitDots, List.append_nil]
  | cons c rest ih =>
    obtain ⟨hc, hrest⟩ := List.ne_and_not_mem_of_not_mem_cons h
    rw [splitDots, if_neg (Ne.symm hc), ih _ hrest, List.reverse_cons, List.append_assoc]
    rfl

theorem splitDots_append (current : List Char) {cs : List Char} (rest : List Char) (h : '.' ∉ cs) :
    splitDots current (cs ++ '.' :: rest) = String.ofList (current.reverse ++ cs) ::
      splitDots [] rest := by
  induction cs generalizing current with
  | nil => rw [List.nil_append, splitDots, if_pos rfl, List.append_nil]
  | cons c cs ih =>
    obtain ⟨hc, hcs⟩ := List.ne_and_not_mem_of_not_mem_cons h
    rw [List.cons_append, splitDots, if_neg (Ne.symm hc), ih _ hcs, List.reverse_cons,
      List.append_assoc]
    rfl

theorem segments_plain {name : String} (h : IsPlain name) : segments name = [name] := by
  rw [segments, splitDots_plain [] h, List.reverse_nil, List.nil_append, String.ofList_toList]

/-- The first segment of a path below a member is the name of the member. -/
theorem segments_below {head : String} (path : String) (h : IsPlain head) :
    segments (head ++ "." ++ path) = head :: segments path := by
  have hchars : (head ++ "." ++ path).toList = head.toList ++ '.' :: path.toList := by
    simp
  rw [segments, hchars, splitDots_append [] _ h, List.reverse_nil, List.nil_append,
    String.ofList_toList]
  rfl

theorem segments_data (path : String) : segments ("data." ++ path) = "data" :: segments path := by
  have hdot : "data." ++ path = "data" ++ "." ++ path := rfl
  rw [hdot]
  exact segments_below path (by decide)

/-- Different names have different paths below the data. -/
theorem data_injective : Function.Injective ("data." ++ ·) := by
  intro a b hab
  have hlist := congrArg String.toList hab
  exact String.toList_inj.mp (by simpa using hlist)

theorem segments_ne_nil (path : String) : segments path ≠ [] := by
  suffices h : ∀ current cs, splitDots current cs ≠ [] from h [] path.toList
  intro current cs
  induction cs generalizing current with
  | nil => exact List.cons_ne_nil _ _
  | cons c rest ih =>
    rw [splitDots]
    by_cases hc : c = '.'
    · rw [if_pos hc]
      exact List.cons_ne_nil _ _
    · rw [if_neg hc]
      exact ih _

theorem set_plain (doc : Document) {name : String} (value : Value) (h : IsPlain name) :
    set doc name value = Fields.insert doc name value := by
  rw [set, segments_plain h]
  rfl

/-- A write touches no member but the one its path begins with. -/
theorem get?_set_of_ne (doc : Document) {path name : String} (value : Value)
    (h : (segments path).head? ≠ some name) :
    Fields.get? (set doc path value) name = Fields.get? doc name := by
  rw [set]
  cases hs : segments path with
  | nil => exact absurd hs (segments_ne_nil path)
  | cons head rest =>
    rw [hs] at h
    have hne : name ≠ head := fun e => h (e ▸ rfl)
    cases rest with
    | nil => exact Fields.get?_insert_of_ne doc value hne
    | cons next rest => exact Fields.get?_insert_of_ne doc _ hne

/-- A write below a member that is present adds no member. -/
theorem names_set {doc : Document} {path name : String} (value : Value)
    (hhead : (segments path).head? = some name) (hname : name ∈ Fields.names doc) :
    Fields.names (set doc path value) = Fields.names doc := by
  rw [set]
  cases hs : segments path with
  | nil => exact absurd hs (segments_ne_nil path)
  | cons head rest =>
    rw [hs] at hhead
    obtain rfl : head = name := Option.some.inj hhead
    cases rest with
    | nil => exact Fields.names_insert_of_mem value hname
    | cons next rest => exact Fields.names_insert_of_mem _ hname

/-- The document at a member; it is empty when there is none. -/
def inner (doc : Document) (head : String) : Document :=
  match Fields.get? doc head with
  | some (.document members) => members
  | _ => []

theorem inner_of_get? {doc members : Document} {head : String}
    (h : Fields.get? doc head = some (.document members)) : inner doc head = members := by
  rw [inner, h]

/-- A write below a member is that write to the document at the member. -/
theorem get?_set_below (doc : Document) {head : String} (path : String) (value : Value)
    (h : IsPlain head) :
    Fields.get? (set doc (head ++ "." ++ path) value) head =
      some (.document (set (inner doc head) path value)) := by
  rw [set, segments_below path h, set]
  cases hs : segments path with
  | nil => exact absurd hs (segments_ne_nil path)
  | cons next rest =>
    rw [setSegments, Fields.get?_insert_self]
    · rfl
    · exact List.cons_ne_nil next rest

end ClassApi.Path

namespace ClassApi.Update

open ClassApi.Path

theorem setAll_cons (doc : Document) (path : String) (value : Value) (rest : Document) :
    setAll doc ((path, value) :: rest) = setAll (set doc path value) rest := rfl

theorem setAll_append (doc first second : Document) :
    setAll doc (first ++ second) = setAll (setAll doc first) second := by
  exact List.foldl_append

/-- An update touches no member but those its paths begin with. -/
theorem get?_setAll_of_ne (doc : Document) {fields : Document} {name : String}
    (h : ∀ path ∈ Fields.names fields, (segments path).head? ≠ some name) :
    Fields.get? (setAll doc fields) name = Fields.get? doc name := by
  induction fields generalizing doc with
  | nil => rfl
  | cons field rest ih =>
    obtain ⟨path, value⟩ := field
    rw [setAll_cons, ih _ fun p hp => h p (List.mem_cons_of_mem _ hp)]
    exact get?_set_of_ne doc value (h path List.mem_cons_self)

/-- Paths below a member. -/
def below (head : String) (fields : Document) : Document :=
  fields.map fun field => (head ++ "." ++ field.1, field.2)

/-- An update below a member is that update of the document at the member. -/
theorem inner_setAll_below (doc : Document) {head : String} (fields : Document) (h : IsPlain head) :
    inner (setAll doc (below head fields)) head = setAll (inner doc head) fields := by
  induction fields generalizing doc with
  | nil => rfl
  | cons field rest ih =>
    obtain ⟨path, value⟩ := field
    have hset : inner (set doc (head ++ "." ++ path) value) head =
        set (inner doc head) path value :=
      inner_of_get? (get?_set_below doc path value h)
    show inner (setAll (set doc (head ++ "." ++ path) value) (below head rest)) head = _
    rw [ih, hset]
    rfl

/-- A member that is a document stays one when it is updated below. -/
theorem get?_setAll_below {doc : Document} {head : String} (fields : Document) (h : IsPlain head)
    (hd : Fields.get? doc head = some (.document (inner doc head))) :
    Fields.get? (setAll doc (below head fields)) head =
      some (.document (setAll (inner doc head) fields)) := by
  induction fields generalizing doc with
  | nil => exact hd
  | cons field rest ih =>
    obtain ⟨path, value⟩ := field
    have hset := get?_set_below doc path value h
    have hinner := inner_of_get? hset
    show Fields.get? (setAll (set doc (head ++ "." ++ path) value) (below head rest)) head = _
    rw [ih (by rw [hset, hinner]), hinner]
    rfl

/-- What is found after an update at plain names: the value that was written, else the one that was
there. -/
theorem get?_setAll_plain (doc : Document) {fields : Document}
    (hp : ∀ path ∈ Fields.names fields, IsPlain path) (hn : (Fields.names fields).Nodup)
    (name : String) :
    Fields.get? (setAll doc fields) name = (Fields.get? fields name).or (Fields.get? doc name) := by
  induction fields generalizing doc with
  | nil => rfl
  | cons field rest ih =>
    obtain ⟨path, value⟩ := field
    obtain ⟨hpath, hrest⟩ := List.nodup_cons.mp hn
    rw [setAll_cons, ih _ (fun p hm => hp p (List.mem_cons_of_mem _ hm)) hrest,
      set_plain doc value (hp path List.mem_cons_self), Fields.get?_insert]
    by_cases he : name = path
    · rw [if_pos he, he, Fields.get?_eq_none hpath, Fields.get?, if_pos rfl]
      rfl
    · rw [if_neg he, Fields.get?, if_neg (Ne.symm he)]

theorem names_setAll {doc fields : Document}
    (h : ∀ path ∈ Fields.names fields,
      ∃ name ∈ Fields.names doc, (segments path).head? = some name) :
    Fields.names (setAll doc fields) = Fields.names doc := by
  induction fields generalizing doc with
  | nil => rfl
  | cons field rest ih =>
    obtain ⟨path, value⟩ := field
    obtain ⟨name, hname, hhead⟩ := h path List.mem_cons_self
    have hset := names_set value hhead hname
    rw [setAll_cons, ih, hset]
    intro other hother
    rw [hset]
    exact h other (List.mem_cons_of_mem _ hother)

/-- Writes below a member that is present add no member. -/
theorem names_setAll_below {doc : Document} {head : String} (fields : Document) (h : IsPlain head)
    (hhead : head ∈ Fields.names doc) :
    Fields.names (setAll doc (below head fields)) = Fields.names doc := by
  refine names_setAll fun path hpath => ⟨head, hhead, ?_⟩
  obtain ⟨entry, hentry, rfl⟩ := List.mem_map.mp hpath
  obtain ⟨field, -, rfl⟩ := List.mem_map.mp hentry
  rw [segments_below field.1 h]
  rfl

/-- Writes to plain names add no names but these. -/
theorem mem_names_setAll {doc fields : Document} (hp : ∀ path ∈ Fields.names fields, IsPlain path)
    {name : String} (h : name ∈ Fields.names (setAll doc fields)) :
    name ∈ Fields.names fields ∨ name ∈ Fields.names doc := by
  induction fields generalizing doc with
  | nil => exact Or.inr h
  | cons field rest ih =>
    obtain ⟨path, value⟩ := field
    rw [setAll_cons, set_plain doc value (hp path List.mem_cons_self)] at h
    rcases ih (fun other hother => hp other (List.mem_cons_of_mem _ hother)) h with hrest | hinsert
    · exact Or.inl (List.mem_cons_of_mem _ hrest)
    · rcases Fields.mem_names_insert.mp hinsert with rfl | hdoc
      · exact Or.inl List.mem_cons_self
      · exact Or.inr hdoc

end ClassApi.Update
