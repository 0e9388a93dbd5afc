import ClassApi.Proofs.Registration

/-!
# Which declared fields are registered

A class object is read in one of two forms. With a member `fields` or `options` it keeps its fields
apart, and nothing else in it counts; without one, all its members are fields. What is read is
registered in either form, so a field is lost exactly when a class object declares it beside a
member for fields or options and not among the fields there as well.
-/

namespace ClassApi

namespace ClassDefinition

/-- Whether a class object keeps its fields apart from its options. -/
def IsStructured (members : Fields Json) : Prop :=
  "fields" ∈ Fields.names members ∨ "options" ∈ Fields.names members

/-- The keys of a class object, those of the structured form aside. -/
def otherKeys (members : Fields Json) : List String :=
  (Fields.names members).filter fun key => key ≠ "fields" ∧ key ≠ "options"

/-- The keys of the member for fields, when it is an object. -/
def fieldKeys (members : Fields Json) : List String :=
  match Fields.get? members "fields" with
  | some (.object fields) => Fields.names fields
  | _ => []

/-- The keys under which a class object declares fields, in either form. -/
def declaredKeys (members : Fields Json) : List String :=
  otherKeys members ++ fieldKeys members

/-- Whether a class object that keeps its fields apart declares no others beside them. -/
def OneForm (members : Fields Json) : Prop :=
  IsStructured members →
  ∀ key ∈ otherKeys members, ∃ field ∈ fieldKeys members, Naming.camelCase field =
    Naming.camelCase key

instance (members : Fields Json) : Decidable (IsStructured members) :=
  inferInstanceAs (Decidable (_ ∨ _))

instance (members : Fields Json) : Decidable (OneForm members) :=
  inferInstanceAs (Decidable (_ → _))

theorem isStructured_iff {members : Fields Json} :
    (Fields.contains members "fields" || Fields.contains members "options") = true ↔
      IsStructured members := by
  rw [Bool.or_eq_true, Fields.contains_eq_true_iff, Fields.contains_eq_true_iff, IsStructured]

/-- A class object that is not structured has no member that belongs to the structured form. -/
theorem otherKeys_of_not_isStructured {members : Fields Json} (h : ¬ IsStructured members) :
    otherKeys members = Fields.names members := by
  obtain ⟨hfields, hoptions⟩ := not_or.mp h
  refine List.filter_eq_self.mpr fun key hkey => decide_eq_true ⟨?_, ?_⟩
  · rintro rfl
    exact hfields hkey
  · rintro rfl
    exact hoptions hkey

theorem fieldKeys_of_not_isStructured {members : Fields Json} (h : ¬ IsStructured members) :
    fieldKeys members = [] := by
  rw [fieldKeys, Fields.get?_eq_none (not_or.mp h).1]

/-- The declarations that are read have the names of the members. -/
theorem names_readFields {className : String} {members : Fields Json} {specs : Fields FieldSpec}
    (h : readFields className members = .ok specs) : Fields.names specs = Fields.names members := by
  induction members generalizing specs with
  | nil =>
    cases h
    rfl
  | cons member rest ih =>
    obtain ⟨field, json⟩ := member
    rw [readFields] at h
    cases hspec : FieldSpec.ofJson json with
    | none =>
      rw [hspec] at h
      cases h
    | some spec =>
      rw [hspec] at h
      obtain ⟨others, hothers, rfl⟩ := map_eq_ok h
      rw [Fields.names, List.map_cons, ← Fields.names, ih hothers]
      rfl

/-- The member for fields of a structured class object, where it may be missing or `null`. -/
theorem names_fieldMembers {name : String} {members fields : Fields Json}
    (h : fieldMembers name members = .ok fields) : Fields.names fields = fieldKeys members := by
  rw [fieldMembers] at h
  rw [fieldKeys]
  cases hget : Fields.get? members "fields" with
  | none =>
    rw [hget] at h
    cases h
    rfl
  | some json =>
    rw [hget] at h
    cases json with
    | null =>
      cases h
      rfl
    | object members =>
      cases h
      rfl
    | _ => cases h

/-- What is read of a class object: its members for fields when it is structured, and all its
members when it is not. -/
theorem of_ofJson {name : String} {json : Json} {d : ClassDefinition}
    (h : ofJson name json = .ok d) :
    ∃ members, json = .object members ∧ d.name = name ∧
      (IsStructured members → Fields.names d.fields = fieldKeys members) ∧
      (¬ IsStructured members → Fields.names d.fields = Fields.names members) := by
  cases json with
  | object members =>
    refine ⟨members, rfl, ?_⟩
    rw [ofJson] at h
    by_cases hform : IsStructured members
    · rw [if_pos (isStructured_iff.mpr hform)] at h
      obtain ⟨fields, hfields, h⟩ := bind_eq_ok h
      obtain ⟨specs, hspecs, h⟩ := bind_eq_ok h
      cases h
      exact ⟨rfl, fun _ => (names_readFields hspecs).trans (names_fieldMembers hfields), fun hnot =>
        absurd hform hnot⟩
    · rw [if_neg fun hc => hform (isStructured_iff.mp hc)] at h
      obtain ⟨specs, hspecs, h⟩ := bind_eq_ok h
      cases h
      exact ⟨rfl, fun hform' => absurd hform' hform, fun _ => names_readFields hspecs⟩
  | _ => cases h

theorem readAll_eq_mapM (classes : Fields Json) :
    readAll classes = classes.mapM fun entry => ofJson entry.1 entry.2 := by
  induction classes with
  | nil => rfl
  | cons entry rest ih =>
    rw [List.mapM_cons, ← ih]
    rfl

end ClassDefinition

namespace ClassInfo

/-- Whether a class has a field for every one of some keys. -/
def HasFields (c : ClassInfo) (keys : List String) : Prop :=
  ∀ key ∈ keys, ∃ f ∈ c.fields, f.name = Naming.camelCase key

theorem Declared.map_name {d : ClassDefinition} {c : ClassInfo} (h : Declared d c) :
    c.fields.map ClassField.name = (Fields.names d.fields).map Naming.camelCase := by
  rw [Fields.names, List.map_map, ← List.forall₂_eq_eq_eq, List.forall₂_map_left_iff,
    List.forall₂_map_right_iff]
  exact (h.fields.imp fun _ _ hf => hf.name).flip

theorem Declared.hasFields_iff {d : ClassDefinition} {c : ClassInfo} (h : Declared d c)
    {keys : List String} :
    c.HasFields keys ↔ ∀ key ∈ keys, ∃ field ∈ Fields.names d.fields, Naming.camelCase field =
      Naming.camelCase key := by
  simp only [HasFields, ← List.mem_map, h.map_name]

end ClassInfo

namespace Registry

open ClassDefinition

/-- Every declared class is registered under its name. -/
theorem exists_class_of_mem {classes : Fields Json} {r : Registry}
    (h : Registry.ofJson (.object classes) = .ok r) {entry : String × Json}
    (hmem : entry ∈ classes) :
    ∃ d c, ClassDefinition.ofJson entry.1 entry.2 = .ok d ∧
      r.get? (Naming.upperFirst d.name) = some c ∧ ClassInfo.Declared d c := by
  obtain ⟨definitions, hread, hr⟩ := ofJson_eq_ok h
  rw [listOfJson, readAll_eq_mapM, mapM_eq_ok_iff] at hread
  obtain ⟨d, hd, hjson⟩ := exists_of_forall₂ hread.flip hmem
  obtain ⟨c, hc, hdeclared⟩ := exists_of_forall₂ (declared_classes hr).flip hd
  have hdeclared : ClassInfo.Declared d c := hdeclared
  exact ⟨d, c, hjson, (get?_eq_some_iff hr).mpr ⟨hc, congrArg lowerText hdeclared.name⟩, hdeclared⟩

/-- A registered class has a field for every key under which its object declares one, exactly when
the object declares nothing beside the fields that it keeps apart. -/
theorem hasFields_declaredKeys_iff {classes : Fields Json} {r : Registry}
    (h : Registry.ofJson (.object classes) = .ok r) {name : String} {json : Json}
    (hmem : (name, json) ∈ classes) :
    ∃ members c, json = .object members ∧ r.get? (Naming.upperFirst name) = some c ∧
      c.name = Naming.upperFirst name ∧ (c.HasFields (declaredKeys members) ↔ OneForm members) := by
  obtain ⟨d, c, hjson, hget, hdeclared⟩ := exists_class_of_mem h hmem
  obtain ⟨members, rfl, rfl, hstructured, hbare⟩ := of_ofJson hjson
  refine ⟨members, c, rfl, hget, hdeclared.name, ?_⟩
  rw [hdeclared.hasFields_iff, OneForm, declaredKeys]
  by_cases hform : IsStructured members
  · rw [hstructured hform]
    constructor
    · exact fun hfields _ key hkey => hfields key (List.mem_append_left _ hkey)
    · intro hone key hkey
      rcases List.mem_append.mp hkey with hother | hfield
      · exact hone hform key hother
      · exact ⟨key, hfield, rfl⟩
  · rw [hbare hform, otherKeys_of_not_isStructured hform, fieldKeys_of_not_isStructured hform,
      List.append_nil]
    exact ⟨fun _ hform' => absurd hform' hform, fun _ key hkey => ⟨key, hkey, rfl⟩⟩

end Registry

namespace Sample

/-- A class object that keeps its fields apart. -/
def apart : Fields Json :=
  [("fields", .object [("first_name", .string "string"), ("age", .string "int")]),
    ("options", .object [("plural", .string "people")])]

/-- A class object all of whose members are meant as fields. -/
def withOptionsField : Fields Json :=
  [("name", .string "string"), ("options", .string "string")]

end Sample

namespace Registry

/-- Fields that are kept apart from options are registered. -/
theorem hasFields_declaredKeys_iff_apart :
    ∃ r, Registry.ofJson (.object [("user", .object Sample.apart)]) = .ok r ∧
      ("user", .object Sample.apart) ∈ [("user", Json.object Sample.apart)] ∧
      ∃ c, r.get? (Naming.upperFirst "user") = some c ∧ c.HasFields ["first_name", "age"] := by
  have haccepted : Registry.ofJson (.object [("user", .object Sample.apart)]) =
      .ok ⟨[⟨"User", some "people",
        [⟨"firstName", .scalar .string, false, none⟩, ⟨"age", .scalar .int, false, none⟩]⟩]⟩ :=
    eq_ok_of_classes (by decide +kernel)
  obtain ⟨members, c, hmembers, hget, -, hiff⟩ :=
    hasFields_declaredKeys_iff haccepted List.mem_cons_self
  cases hmembers
  exact ⟨_, haccepted, List.mem_cons_self, c, hget, hiff.mpr (by decide +kernel)⟩

/-- A class with a field called `options` is accepted, and none of its fields is registered. -/
theorem exists_declared_lost :
    ∃ c, Registry.ofJson (.object [("user", .object Sample.withOptionsField)]) = .ok ⟨[c]⟩ ∧
      c.name = "User" ∧ ¬ c.HasFields (ClassDefinition.declaredKeys Sample.withOptionsField) := by
  refine ⟨⟨"User", none, []⟩, eq_ok_of_classes (by decide +kernel), rfl, fun h => ?_⟩
  obtain ⟨f, hf, -⟩ := h "name" (by decide +kernel)
  exact List.not_mem_nil hf

end Registry

end ClassApi
