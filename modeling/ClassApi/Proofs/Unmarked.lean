import ClassApi.Proofs.Canonical

/-!
# Values without marks

The names that mark extended kinds begin with a dollar sign. A value without such names, and a JSON
text without them, is stored as values and documents none of which carries a mark. These can be read
once more, whatever else they hold. Data can be read as a whole exactly when each of its members
can, so writing such values into data that can be read leaves data that can be read.
-/

namespace ClassApi

/-! ## Values that clients give -/

/-- Whether a name begins with a dollar sign. -/
def BeginsWithDollar (name : String) : Prop :=
  name.toList.head? = some '$'

instance (name : String) : Decidable (BeginsWithDollar name) :=
  inferInstanceAs (Decidable (name.toList.head? = some '$'))

namespace Datum

mutual

/-- Whether no object in a value has a name that begins with a dollar sign. -/
def Unmarked : Datum → Prop
  | .list items => UnmarkedItems items
  | .object members => UnmarkedMembers members
  | _ => True

/-- Whether no object in list items has a name that begins with a dollar sign. -/
def UnmarkedItems : List Datum → Prop
  | [] => True
  | item :: rest => Unmarked item ∧ UnmarkedItems rest

/-- Whether no name of a member and no object in its value has a name that begins with a dollar
sign. -/
def UnmarkedMembers : List (String × Datum) → Prop
  | [] => True
  | (name, value) :: rest => ¬ BeginsWithDollar name ∧ Unmarked value ∧ UnmarkedMembers rest

end

theorem unmarkedItems_iff {items : List Datum} :
    UnmarkedItems items ↔ ∀ item ∈ items, item.Unmarked := by
  induction items with
  | nil => simp [UnmarkedItems]
  | cons item rest ih => rw [UnmarkedItems, ih, List.forall_mem_cons]

end Datum

namespace Json

mutual

/-- Whether no object in a JSON value has a name that begins with a dollar sign. -/
def Unmarked : Json → Prop
  | .array items => UnmarkedItems items
  | .object members => UnmarkedMembers members
  | _ => True

/-- Whether no object in list items has a name that begins with a dollar sign. -/
def UnmarkedItems : List Json → Prop
  | [] => True
  | item :: rest => Unmarked item ∧ UnmarkedItems rest

/-- Whether no name of a member and no object in its value has a name that begins with a dollar
sign. -/
def UnmarkedMembers : List (String × Json) → Prop
  | [] => True
  | (name, value) :: rest => ¬ BeginsWithDollar name ∧ Unmarked value ∧ UnmarkedMembers rest

end

theorem notMem_of_unmarkedMembers {members : List (String × Json)} (h : UnmarkedMembers members)
    {name : String} (hname : BeginsWithDollar name) : name ∉ Fields.names members := by
  induction members with
  | nil => exact List.not_mem_nil
  | cons member rest ih =>
    obtain ⟨key, value⟩ := member
    obtain ⟨hkey, -, hrest⟩ := h
    intro hmem
    rcases List.mem_cons.mp hmem with rfl | hmem
    · exact hkey hname
    · exact ih hrest hmem

end Json

/-- Whether no object in what a text says, when it is read as JSON, has a name that begins with a
dollar sign. -/
def UnmarkedText (raw : String) : Prop :=
  ∀ json, Json.read raw = some json → json.Unmarked

/-- Whether a value for a field is without names that begin with a dollar sign, texts in fields of
any shape included. -/
def ClassField.Unmarked (f : ClassField) (value : Datum) : Prop :=
  value.Unmarked ∧
  match f.kind, value with
  | .scalar .mixed, .string raw => UnmarkedText raw
  | .list .mixed, .list items => ∀ raw, .string raw ∈ items → UnmarkedText raw
  | _, _ => True

/-! ## What is stored for them -/

theorem notMem_markNames {name : String} (h : ¬ BeginsWithDollar name) :
    name ∉ Value.markNames := by
  have hall : ∀ name ∈ Value.markNames, BeginsWithDollar name := by decide
  exact fun hmem => h (hall name hmem)

namespace Value

theorem carriesMark_array {items : List Value} :
    (Value.array items).carriesMark = false ↔ ∀ item ∈ items, item.carriesMark = false := by
  rw [carriesMark]
  induction items with
  | nil => simp [itemCarriesMark]
  | cons item rest ih => rw [itemCarriesMark, Bool.or_eq_false_iff, ih, List.forall_mem_cons]

theorem memberCarriesMark_cons {name : String} {value : Value} {rest : List (String × Value)}
    (hname : ¬ BeginsWithDollar name) (hvalue : value.carriesMark = false)
    (hrest : memberCarriesMark rest = false) :
    memberCarriesMark ((name, value) :: rest) = false := by
  have hcontains : markNames.contains name = false := by simpa using notMem_markNames hname
  rw [memberCarriesMark, hcontains, hvalue, hrest]
  rfl

end Value

namespace Datum

open Value

mutual

/-- A value without such names is stored as one without marks. -/
theorem carriesMark_toStored : ∀ value : Datum, value.Unmarked → value.toStored.carriesMark = false
  | .list items, h => carriesMark_toStoredItems items h
  | .object members, h => carriesMark_toStoredMembers members h
  | .number n, _ => by
    rw [toStored]
    split
    · rfl
    · rfl
  | .null, _ | .string _, _ | .bool _, _ | .binary _, _ | .enum _, _ => rfl

theorem carriesMark_toStoredItems : ∀ items : List Datum, UnmarkedItems items →
    itemCarriesMark (toStoredItems items) = false
  | [], _ => rfl
  | item :: rest, h => by
    rw [toStoredItems, itemCarriesMark, carriesMark_toStored item h.1,
      carriesMark_toStoredItems rest h.2]
    rfl

theorem carriesMark_toStoredMembers : ∀ members : List (String × Datum), UnmarkedMembers members →
    memberCarriesMark (toStoredMembers members) = false
  | [], _ => rfl
  | (_, value) :: rest, h =>
    memberCarriesMark_cons h.1 (carriesMark_toStored value h.2.1)
      (carriesMark_toStoredMembers rest h.2.2)

end

end Datum

namespace Extended

open Value

theorem find?_eq_none {members : List (String × Json)} (h : Json.UnmarkedMembers members) :
    Mark.find? members = none := by
  have hall : ∀ mark : Mark, BeginsWithDollar mark.name := by
    intro mark
    cases mark <;> decide
  rw [Mark.find?, List.find?_eq_none]
  intro mark _ hcontains
  exact Json.notMem_of_unmarkedMembers h (hall mark) (Fields.contains_eq_true_iff.mp hcontains)

mutual

/-- JSON without such names stands for a value without marks. -/
theorem carriesMark_ofJson :
    ∀ (json : Json) {v : Value}, json.Unmarked → ofJson json = some v → v.carriesMark = false
  | .null, v, _, h | .bool _, v, _, h | .string _, v, _, h => by
    rw [ofJson] at h
    cases h
    rfl
  | .number n, v, _, h => by
    rw [ofJson] at h
    cases h
    cases n with
    | real x => rfl
    | integer n =>
      rw [ofNumeral]
      split
      · rfl
      · split
        · rfl
        · rfl
  | .array items, v, hu, h => by
    rw [ofJson] at h
    obtain ⟨values, hvalues, rfl⟩ := Option.map_eq_some_iff.mp h
    exact carriesMark_ofItems items hu hvalues
  | .object members, v, hu, h => by
    rw [ofJson, find?_eq_none hu] at h
    obtain ⟨values, hvalues, rfl⟩ := Option.map_eq_some_iff.mp h
    exact carriesMark_ofMembers members hu hvalues

theorem carriesMark_ofItems :
    ∀ (items : List Json) {values : List Value}, Json.UnmarkedItems items →
    ofItems items = some values → itemCarriesMark values = false
  | [], values, _, h => by
    cases h
    rfl
  | item :: rest, values, hu, h => by
    rw [ofItems] at h
    obtain ⟨value, hvalue, h⟩ := Option.bind_eq_some_iff.mp h
    obtain ⟨others, hothers, h⟩ := Option.bind_eq_some_iff.mp h
    cases h
    rw [itemCarriesMark, carriesMark_ofJson item hu.1 hvalue, carriesMark_ofItems rest hu.2 hothers]
    rfl

theorem carriesMark_ofMembers : ∀ (members : List (String × Json)) {values : List (String × Value)},
    Json.UnmarkedMembers members → ofMembers members = some values →
    memberCarriesMark values = false
  | [], values, _, h => by
    cases h
    rfl
  | (name, json) :: rest, values, hu, h => by
    rw [ofMembers] at h
    obtain ⟨value, hvalue, h⟩ := Option.bind_eq_some_iff.mp h
    obtain ⟨others, hothers, h⟩ := Option.bind_eq_some_iff.mp h
    cases h
    exact memberCarriesMark_cons hu.1 (carriesMark_ofJson json hu.2.1 hvalue)
      (carriesMark_ofMembers rest hu.2.2 hothers)

end

end Extended

namespace Datum

theorem carriesMark_toStoredMixed {value : Datum} (h : value.Unmarked)
    (htext : ∀ raw, value = .string raw → UnmarkedText raw) :
    value.toStoredMixed.carriesMark = false := by
  cases value with
  | string raw =>
    rw [toStoredMixed]
    split
    · cases hread : (Json.read raw).bind Extended.ofJson with
      | none => rfl
      | some v =>
        obtain ⟨json, hjson, hv⟩ := Option.bind_eq_some_iff.mp hread
        exact Extended.carriesMark_ofJson json (htext raw rfl json hjson) hv
    · rfl
  | _ => exact carriesMark_toStored _ h

end Datum

namespace Mutation

open Value

theorem carriesMark_resolveReference {s : Store} {target : String} {value : Datum} {v : Value}
    (h : resolveReference s target value = .ok v) : v.carriesMark = false := by
  rw [resolveReference.eq_def] at h
  split at h
  · cases h
    rfl
  · obtain ⟨id, -, rfl⟩ := map_eq_ok h
    rfl
  · cases h

theorem carriesMark_resolveReferences {s : Store} {target : String} {values : List Datum}
    {vs : List Value} (h : resolveReferences s target values = .ok vs) :
    (Value.array vs).carriesMark = false := by
  rw [carriesMark]
  induction values generalizing vs with
  | nil =>
    cases h
    rfl
  | cons value rest ih =>
    obtain ⟨resolved, hresolved, h⟩ := bind_eq_ok h
    obtain ⟨others, hothers, h⟩ := bind_eq_ok h
    cases h
    rw [itemCarriesMark, carriesMark_resolveReference hresolved, ih hothers]
    rfl

/-- What is stored for such input to a field carries no mark. -/
theorem carriesMark_resolveValue {s : Store} {f : ClassField} {value : Datum} {v : Value}
    (hu : f.Unmarked value) (h : resolveValue s f value = .ok v) : v.carriesMark = false := by
  obtain ⟨hvalue, htexts⟩ := hu
  rw [resolveValue.eq_def] at h
  split at h
  · exact carriesMark_resolveReference h
  · obtain ⟨vs, hvs, rfl⟩ := map_eq_ok h
    exact carriesMark_resolveReferences hvs
  · obtain ⟨vs, hvs, rfl⟩ := map_eq_ok h
    exact carriesMark_resolveReferences hvs
  · rename_i hkind
    cases h
    refine Datum.carriesMark_toStoredMixed hvalue fun raw he => ?_
    rw [hkind, he] at htexts
    exact htexts
  · rename_i items hkind
    cases h
    rw [hkind] at htexts
    refine carriesMark_array.mpr fun item hitem => ?_
    obtain ⟨given, hgiven, rfl⟩ := List.mem_map.mp hitem
    refine Datum.carriesMark_toStoredMixed (Datum.unmarkedItems_iff.mp hvalue given hgiven) ?_
    rintro raw rfl
    exact htexts raw hgiven
  · cases h
    exact Datum.carriesMark_toStored _ hvalue

end Mutation

/-! ## Reading once more -/

namespace StoredRecord

open Value

mutual

/-- A value without marks can be read once more. -/
theorem exists_reread : ∀ v : Value, v.carriesMark = false → ∃ value, reread v = some value
  | .array items, h => by
    obtain ⟨values, hvalues⟩ := exists_rereadItems items h
    exact ⟨.array values, by rw [reread, hvalues]; rfl⟩
  | .document members, h => by
    obtain ⟨result, hresult⟩ := exists_rereadMembers members [] h
    exact ⟨.document result, by rw [reread, hresult]⟩
  | .codeWithScope text scope, h => by
    obtain ⟨result, hresult⟩ := exists_rereadMembers scope [] h
    exact ⟨.codeWithScope text result, by rw [reread, hresult]⟩
  | .regex pattern options, _ => ⟨.regex pattern (Extended.sortOptions options), by rw [reread]⟩
  | .null, _ | .undefined, _ | .bool _, _ | .int32 _, _ | .int64 _, _ | .double _,
    _ | .decimal128 _, _ | .string _, _
  | .objectId _, _ | .date _, _ | .dbPointer _ _, _ | .binary _ _, _ | .symbol _, _ | .code _,
    _ | .logTime _ _, _
  | .minKey, _ | .maxKey, _ => by
    simp [reread]

theorem exists_rereadItems : ∀ items : List Value, itemCarriesMark items = false →
    ∃ values, rereadItems items = some values
  | [], _ => ⟨[], by rw [rereadItems]⟩
  | item :: rest, h => by
    rw [itemCarriesMark, Bool.or_eq_false_iff] at h
    obtain ⟨value, hvalue⟩ := exists_reread item h.1
    obtain ⟨values, hvalues⟩ := exists_rereadItems rest h.2
    exact ⟨value :: values, by rw [rereadItems, hvalue, hvalues]; rfl⟩

theorem exists_rereadMembers : ∀ (members done : Document), memberCarriesMark members = false →
    ∃ result, rereadMembers done members = some (.document result)
  | [], done, _ => ⟨done, by rw [rereadMembers]⟩
  | (name, value) :: rest, done, h => by
    rw [memberCarriesMark, Bool.or_eq_false_iff, Bool.or_eq_false_iff] at h
    obtain ⟨⟨hname, hvalue⟩, hrest⟩ := h
    have hmark : name ∉ markNames := by simpa using hname
    obtain ⟨value', hvalue'⟩ := exists_reread value hvalue
    obtain ⟨result, hresult⟩ := exists_rereadMembers rest (Fields.insert done name value') hrest
    exact ⟨result, by rw [rereadMembers_plain hmark, hvalue', Option.bind_some, hresult]⟩

end

/-- Whether every member of some data can be read once more and is no mark. -/
def Readable (data : Document) : Prop :=
  ∀ member ∈ data, member.1 ∉ markNames ∧ ∃ value, reread member.2 = some value

/-- Data is read as a document exactly when each of its members can be read. -/
theorem exists_rereadMembers_iff {data done : Document} :
    (∃ result, rereadMembers done data = some (.document result)) ↔ Readable data := by
  induction data generalizing done with
  | nil => exact ⟨fun _ member hmember => absurd hmember List.not_mem_nil, fun _ =>
    ⟨done, by rw [rereadMembers]⟩⟩
  | cons member rest ih =>
    obtain ⟨name, value⟩ := member
    rw [Readable, List.forall_mem_cons, ← Readable]
    by_cases hmark : name ∈ markNames
    · exact ⟨fun ⟨result, h⟩ => absurd h (rereadMembers_mark hmark done value rest result), fun h =>
        absurd hmark h.1.1⟩
    · rw [rereadMembers_plain hmark]
      cases hvalue : reread value with
      | none =>
        constructor
        · rintro ⟨_, h⟩
          cases h
        · rintro ⟨⟨-, _, h⟩, -⟩
          cases h
      | some value' =>
        rw [Option.bind_some, ih]
        exact ⟨fun h => ⟨⟨hmark, value', rfl⟩, h⟩, fun h => h.2⟩

end StoredRecord

end ClassApi
