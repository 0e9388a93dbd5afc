import ClassApi.Proofs.Fields
import ClassApi.Store.Record

/-!
# Reading a value once more

A record is read by reading its data once more as extended JSON. A nested document that has a member
with the name of a mark is then taken for the value that the mark stands for, or refused; a document
never comes of it. All other values come back as they are, as long as they are in the form that
stored values have. So a value survives being read exactly when no document in it carries a mark.
The induction is the recursion of the reader: over values, items and members.
-/

namespace ClassApi

namespace Value

mutual

/-- Whether a value is in the form stored values have: no document in it repeats a name, and options
are sorted. -/
def Canonical : Value → Prop
  | .array items => CanonicalItems items
  | .document members => (Fields.names members).Nodup ∧ CanonicalMembers members
  | .codeWithScope _ scope => (Fields.names scope).Nodup ∧ CanonicalMembers scope
  | .regex _ options => Extended.sortOptions options = options
  | _ => True

/-- Whether all list items are in the form stored values have. -/
def CanonicalItems : List Value → Prop
  | [] => True
  | item :: rest => Canonical item ∧ CanonicalItems rest

/-- Whether the values of all members are in the form stored values have. -/
def CanonicalMembers : List (String × Value) → Prop
  | [] => True
  | (_, value) :: rest => Canonical value ∧ CanonicalMembers rest

end

/-- The member names that are taken for marks when a record is read. -/
def markNames : List String :=
  ["$oid", "$symbol", "$regularExpression", "$numberInt", "$numberLong", "$numberDouble",
    "$numberDecimal", "$numberDecimalBytes", "$binary", "$code", "$scope", "$timestamp", "$date",
    "$minKey", "$maxKey", "$dbPointer", "$undefined", "$__private__bson_RawDocument",
    "$__private__bson_RawArray"]

mutual

/-- Whether some document in a value, the value itself included, carries a mark. -/
def carriesMark : Value → Bool
  | .array items => itemCarriesMark items
  | .document members => memberCarriesMark members
  | .codeWithScope _ scope => memberCarriesMark scope
  | _ => false

/-- Whether some list item carries a mark. -/
def itemCarriesMark : List Value → Bool
  | [] => false
  | item :: rest => carriesMark item || itemCarriesMark rest

/-- Whether some member is a mark or carries one in its value. -/
def memberCarriesMark : List (String × Value) → Bool
  | [] => false
  | (name, value) :: rest => markNames.contains name || carriesMark value || memberCarriesMark rest

end

/-- Whether a value has no parts and no options. -/
def IsSimple : Value → Prop
  | .regex _ _ => False
  | .codeWithScope _ _ => False
  | .array _ => False
  | .document _ => False
  | _ => True

theorem IsSimple.canonical {v : Value} (h : v.IsSimple) : v.Canonical := by
  cases v with
  | regex pattern options => exact h.elim
  | codeWithScope text scope => exact h.elim
  | array items => exact h.elim
  | document members => exact h.elim
  | _ => trivial

theorem memberCarriesMark_iff {members : List (String × Value)} :
    memberCarriesMark members = true ↔
      (∃ name ∈ Fields.names members, name ∈ markNames) ∨
      ∃ member ∈ members, member.2.carriesMark = true := by
  induction members with
  | nil => simp [memberCarriesMark, Fields.names]
  | cons member rest ih =>
    obtain ⟨name, value⟩ := member
    rw [memberCarriesMark, Bool.or_eq_true, Bool.or_eq_true, ih, List.contains_iff_mem]
    simp only [Fields.names, List.map_cons, List.mem_cons, exists_eq_or_imp]
    exact or_or_or_comm

end Value

/-! ## Marks -/

namespace Extended

theorem isSimple_binary {json : Json} {v : Value} (h : binary? json = some v) : v.IsSimple := by
  rw [binary?] at h
  split at h
  · obtain ⟨bytes, -, h⟩ := Option.bind_eq_some_iff.mp h
    obtain ⟨kind, -, h⟩ := Option.bind_eq_some_iff.mp h
    split at h
    · cases h
      trivial
    · cases h
  · cases h

theorem isSimple_pointer {json : Json} {v : Value} (h : pointer? json = some v) : v.IsSimple := by
  rw [pointer?] at h
  split at h
  · split at h
    · obtain ⟨id, -, rfl⟩ := Option.map_eq_some_iff.mp h
      trivial
    · cases h
  · cases h

theorem isSimple_uuid {text : String} {v : Value} (h : uuid? text = some v) : v.IsSimple := by
  obtain ⟨digits, -, h⟩ := Option.bind_eq_some_iff.mp h
  obtain ⟨bytes, -, h⟩ := Option.bind_eq_some_iff.mp h
  split at h
  · cases h
    trivial
  · cases h

/-- A mark stands for a value without parts, a regular expression with sorted options, or program
text with the scope that was read. -/
theorem marked_cases {mark : Mark} {members : Fields Json} {scope : Option (Option Document)}
    {v : Value} (h : marked mark members scope = some v) :
    v.IsSimple ∨ (∃ pattern options, v = .regex pattern (sortOptions options)) ∨
      ∃ text inner, v = .codeWithScope text inner ∧ scope = some (some inner) := by
  rw [marked.eq_def] at h
  split at h
  · obtain ⟨id, -, rfl⟩ := Option.map_eq_some_iff.mp h
    exact Or.inl trivial
  · cases h
    exact Or.inl trivial
  · split at h
    · cases h
      exact Or.inr (Or.inl ⟨_, _, rfl⟩)
    · cases h
  · obtain ⟨n, -, rfl⟩ := Option.map_eq_some_iff.mp h
    exact Or.inl trivial
  · obtain ⟨n, -, rfl⟩ := Option.map_eq_some_iff.mp h
    exact Or.inl trivial
  · obtain ⟨x, -, rfl⟩ := Option.map_eq_some_iff.mp h
    exact Or.inl trivial
  · obtain ⟨d, -, rfl⟩ := Option.map_eq_some_iff.mp h
    exact Or.inl trivial
  · exact Or.inl (isSimple_binary h)
  · exact Or.inl (isSimple_uuid h)
  · split at h
    · split at h
      · cases h
        exact Or.inl trivial
      · cases h
    · split at h
      · cases h
        exact Or.inr (Or.inr ⟨_, _, rfl, rfl⟩)
      · cases h
    · cases h
  · split at h
    · obtain ⟨seconds, -, h⟩ := Option.bind_eq_some_iff.mp h
      obtain ⟨counter, -, h⟩ := Option.bind_eq_some_iff.mp h
      cases h
      exact Or.inl trivial
    · cases h
  · obtain ⟨time, -, rfl⟩ := Option.map_eq_some_iff.mp h
    exact Or.inl trivial
  · cases h
    exact Or.inl trivial
  · cases h
    exact Or.inl trivial
  · exact Or.inl (isSimple_pointer h)
  · cases h
    exact Or.inl trivial
  · cases h

/-- No mark stands for a document. -/
theorem marked_ne_document (mark : Mark) (payload : Fields Json) (scope : Option (Option Document))
    (members : Document) : marked mark payload scope ≠ some (.document members) := by
  intro h
  rcases marked_cases h with hsimple | ⟨pattern, options, he⟩ | ⟨text, inner, he, -⟩
  · exact hsimple
  · cases he
  · cases he

end Extended

namespace StoredRecord

open Value

theorem extended_ne_document (mark : Extended.Mark) (payload : Value) (members : Document) :
    extended mark payload ≠ some (.document members) := by
  intro h
  rw [extended.eq_def] at h
  split at h
  · obtain ⟨id, -, h⟩ := Option.map_eq_some_iff.mp h
    cases h
  · cases h
  · cases h
  · cases h
  · exact Extended.marked_ne_document _ _ _ _ h
  · exact Extended.marked_ne_document _ _ _ _ h

theorem marked_ne_document (mark : Mark) (payload : Value) (members : Document) :
    marked mark payload ≠ some (.document members) := by
  intro h
  cases mark with
  | extended mark => exact extended_ne_document mark payload members h
  | decimalBytes =>
    obtain ⟨d, -, h⟩ := Option.map_eq_some_iff.mp h
    cases h
  | encoded => cases h

theorem mem_markNames {name : String} :
    name ∈ markNames ↔ name = "$code" ∨ name = "$scope" ∨ ∃ mark, markOf name = some mark := by
  constructor
  · intro h
    have hall : ∀ name ∈ markNames, name = "$code" ∨ name = "$scope" ∨
        (markOf name).isSome = true := by decide
    exact (hall name h).imp_right (Or.imp_right Option.isSome_iff_exists.mp)
  · rintro (rfl | rfl | ⟨mark, hmark⟩)
    · decide
    · decide
    · rw [markOf.eq_def] at hmark
      split at hmark
      · cases hmark
      · cases hmark
      · decide
      · decide
      · decide
      · rename_i hcode huuid _ _ _
        obtain ⟨found, hfound, -⟩ := Option.map_eq_some_iff.mp hmark
        have hname : found.name = name := by simpa using List.find?_some hfound
        subst hname
        cases found with
        | code => exact absurd rfl hcode
        | uuid => exact absurd rfl huuid
        | _ => decide

/-- Nothing that begins with a mark is read as a document. -/
theorem rereadMembers_mark {name : String} (h : name ∈ markNames) (done : Document) (value : Value)
    (rest : List (String × Value)) (result : Document) :
    rereadMembers done ((name, value) :: rest) ≠ some (.document result) := by
  intro hread
  rw [rereadMembers.eq_def] at hread
  simp only at hread
  by_cases hcode : name = "$code"
  · rw [if_pos hcode] at hread
    split at hread
    · obtain ⟨text, -, he⟩ := Option.map_eq_some_iff.mp hread
      cases he
    · split at hread
      · split at hread
        · cases hread
        · cases hread
      · cases hread
  · rw [if_neg hcode] at hread
    by_cases hscope : name = "$scope"
    · rw [if_pos hscope] at hread
      split at hread
      · split at hread
        · split at hread
          · cases hread
          · cases hread
        · cases hread
      · cases hread
    · rw [if_neg hscope] at hread
      obtain ⟨mark, hmark⟩ := ((mem_markNames.mp h).resolve_left hcode).resolve_left hscope
      rw [hmark] at hread
      exact marked_ne_document mark value result hread

/-- A member that is no mark is read and written. -/
theorem rereadMembers_plain {name : String} (h : name ∉ markNames) (done : Document) (value : Value)
    (rest : List (String × Value)) :
    rereadMembers done ((name, value) :: rest) =
      (reread value).bind fun value => rereadMembers (Fields.insert done name value) rest := by
  rw [mem_markNames, not_or, not_or, not_exists] at h
  obtain ⟨hcode, hscope, hmark⟩ := h
  have hnone : markOf name = none := Option.eq_none_iff_forall_ne_some.mpr hmark
  rw [rereadMembers.eq_def]
  simp only [if_neg hcode, if_neg hscope, hnone]
  cases reread value with
  | none => rfl
  | some value => rfl

/-! ## Surviving -/

/-- The members that were read already stay in front, when no name repeats. -/
theorem append_of_rereadMembers {done members result : Document}
    (hn : (Fields.names (done ++ members)).Nodup)
    (h : rereadMembers done members = some (.document result)) : done <+: result := by
  induction members generalizing done with
  | nil =>
    rw [rereadMembers] at h
    cases h
    exact List.prefix_refl _
  | cons member rest ih =>
    obtain ⟨name, value⟩ := member
    by_cases hmark : name ∈ markNames
    · exact absurd h (rereadMembers_mark hmark done value rest result)
    · rw [rereadMembers_plain hmark] at h
      obtain ⟨value', -, h⟩ := Option.bind_eq_some_iff.mp h
      have hnames : Fields.names (done ++ (name, value) :: rest) =
          Fields.names (done ++ (name, value') :: rest) := by
        simp [Fields.names]
      have hnew := Fields.notMem_names_of_nodup hn
      rw [Fields.insert_eq_append value' hnew] at h
      have hrest : (Fields.names ((done ++ [(name, value')]) ++ rest)).Nodup := by
        rw [List.append_assoc]
        exact hnames ▸ hn
      exact (List.prefix_append done [(name, value')]).trans (ih hrest h)

mutual

/-- A value survives being read once more exactly when no document in it carries a mark. -/
theorem reread_eq_self_iff : ∀ v : Value, v.Canonical → (reread v = some v ↔ v.carriesMark = false)
  | .array items, h => by
    rw [reread, Option.map_eq_some_iff, carriesMark, ← rereadItems_eq_self_iff items h]
    simp
  | .document members, h => by
    have hnames : (Fields.names ([] ++ members)).Nodup := h.1
    rw [reread, carriesMark]
    exact rereadMembers_eq_self_iff members [] hnames h.2
  | .codeWithScope text scope, h => by
    have hnames : (Fields.names ([] ++ scope)).Nodup := h.1
    have hscope := rereadMembers_eq_self_iff scope [] hnames h.2
    rw [List.nil_append] at hscope
    rw [reread, carriesMark, ← hscope]
    cases rereadMembers [] scope with
    | none => simp
    | some v => cases v <;> simp
  | .regex pattern options, h => by
    have hsorted : Extended.sortOptions options = options := h
    rw [reread, hsorted]
    simp [carriesMark]
  | .null, _ | .undefined, _ | .bool _, _ | .int32 _, _ | .int64 _, _ | .double _,
    _ | .decimal128 _, _ | .string _, _
  | .objectId _, _ | .date _, _ | .dbPointer _ _, _ | .binary _ _, _ | .symbol _, _ | .code _,
    _ | .logTime _ _, _
  | .minKey, _ | .maxKey, _ => by
    simp [reread, carriesMark]

theorem rereadItems_eq_self_iff : ∀ items : List Value, CanonicalItems items →
    (rereadItems items = some items ↔ itemCarriesMark items = false)
  | [], _ => by simp [rereadItems, itemCarriesMark]
  | item :: rest, h => by
    have hitem := reread_eq_self_iff item h.1
    have hrest := rereadItems_eq_self_iff rest h.2
    rw [rereadItems, itemCarriesMark, Bool.or_eq_false_iff, ← hitem, ← hrest]
    cases reread item with
    | none => simp
    | some value =>
      cases rereadItems rest with
      | none => simp
      | some values => simp

theorem rereadMembers_eq_self_iff :
    ∀ (members done : Document), (Fields.names (done ++ members)).Nodup → CanonicalMembers members →
    (rereadMembers done members = some (.document (done ++ members)) ↔
      memberCarriesMark members = false)
  | [], done, _, _ => by simp [rereadMembers, memberCarriesMark]
  | (name, value) :: rest, done, hn, h => by
    by_cases hmark : name ∈ markNames
    · refine iff_of_false (rereadMembers_mark hmark done value rest _) ?_
      rw [memberCarriesMark, List.contains_iff_mem.mpr hmark]
      simp
    · have hvalue := reread_eq_self_iff value h.1
      have hnew := Fields.notMem_names_of_nodup hn
      have hrest := rereadMembers_eq_self_iff rest (done ++ [(name, value)])
        (by rw [List.append_assoc]; exact hn) h.2
      have hsplit : done ++ (name, value) :: rest = done ++ [(name, value)] ++ rest := by
        rw [List.append_assoc]; rfl
      have hcontains : markNames.contains name = false := by simpa using hmark
      rw [rereadMembers_plain hmark, memberCarriesMark, hcontains, Bool.false_or,
        Bool.or_eq_false_iff, ← hvalue, ← hrest]
      constructor
      · -- What was read for the first member stays in front, so it has to be the value itself.
        intro hread
        obtain ⟨value', hvalue', hread⟩ := Option.bind_eq_some_iff.mp hread
        rw [Fields.insert_eq_append value' hnew] at hread
        have hnames : (Fields.names (done ++ [(name, value')] ++ rest)).Nodup := by
          rw [hsplit] at hn
          simpa [Fields.names] using hn
        have hfront : [(name, value')] <+: (name, value) :: rest :=
          (List.prefix_append_right_inj done).mp (append_of_rereadMembers hnames hread)
        obtain rfl : value' = value := (Prod.mk.inj (List.cons_prefix_cons.mp hfront).1).2
        rw [hsplit] at hread
        exact ⟨hvalue', hread⟩
      · rintro ⟨hsame, hread⟩
        rw [hsame, Option.bind_some, Fields.insert_eq_append value hnew, hsplit]
        exact hread

end

end StoredRecord

end ClassApi
