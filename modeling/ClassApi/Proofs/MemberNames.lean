import ClassApi.Proofs.Entries
import ClassApi.Proofs.NameShapes
import ClassApi.Proofs.Registration
import ClassApi.Schema.Assembly

/-!
# Members of one name

The types of a class have members for the declared fields beside members of the system, whose names
no field may have. What is left to collide are two fields whose names agree in camel case, and in
the results of mutations the list of the class, whose name comes from the plural. The types can be
built exactly when neither happens.
-/

namespace ClassApi

/-! ## Which types can be built -/

/-- Types can be built when none of them names a member twice. -/
theorem Schema.checkMembers_eq_ok_iff {types : List (String × TypeDefinition)} :
    checkMembers types = .ok () ↔ ∀ entry ∈ types, entry.2.memberNames.Nodup := by
  induction types with
  | nil => exact ⟨fun _ entry hentry => absurd hentry List.not_mem_nil, fun _ => rfl⟩
  | cons entry rest ih =>
    obtain ⟨name, type⟩ := entry
    rw [checkMembers, List.forall_mem_cons, ← Fields.firstRepeated_eq_none_iff]
    cases hrepeated : Fields.firstRepeated type.memberNames with
    | none => exact ih.trans (and_iff_right rfl).symm
    | some member => exact ⟨(nomatch ·), fun h => nomatch h.1⟩

/-- A type that names a member twice is the one reason why types cannot be built. -/
theorem Schema.checkMembers_eq_error {types : List (String × TypeDefinition)} {e : SchemaError}
    (h : checkMembers types = .error e) :
    ∃ typeName member, e = .duplicateMember typeName member := by
  induction types with
  | nil => cases h
  | cons entry rest ih =>
    obtain ⟨name, type⟩ := entry
    rw [checkMembers] at h
    cases hrepeated : Fields.firstRepeated type.memberNames with
    | none =>
      rw [hrepeated] at h
      exact ih h
    | some member =>
      rw [hrepeated] at h
      cases h
      exact ⟨name, member, rfl⟩

theorem Schema.checkNames_eq_error {types : List (String × TypeDefinition)} {e : SchemaError}
    (h : checkNames types = .error e) : ∃ typeName, e = .alreadyExists typeName := by
  induction types with
  | nil => cases h
  | cons entry rest ih =>
    rw [checkNames] at h
    split at h
    · cases h
      exact ⟨entry.1, rfl⟩
    · exact ih h

/-- References are refused for a name that some type refers to and that no type has. -/
theorem Schema.checkReferences_eq_error {schema : Schema} {types : List (String × TypeDefinition)}
    {e : SchemaError} (h : checkReferences schema types = .error e) :
    ∃ name, e = .notFound name ∧ (schema.type? name).isNone ∧
      ∃ entry ∈ types, name ∈ entry.2.references := by
  induction types with
  | nil => cases h
  | cons entry rest ih =>
    rw [checkReferences] at h
    split at h
    · rename_i name hunknown
      cases h
      have hnone : (schema.type? name).isNone = true :=
        List.find?_some (p := fun name => (schema.type? name).isNone) hunknown
      exact ⟨name, rfl, hnone, entry, List.mem_cons_self, List.mem_of_find?_eq_some hunknown⟩
    · obtain ⟨name, he, hnone, other, hother, hmem⟩ := ih h
      exact ⟨name, he, hnone, other, List.mem_cons_of_mem _ hother, hmem⟩

theorem Schema.checkObjects_eq_error {types : List (String × TypeDefinition)} {e : SchemaError}
    (h : checkObjects types = .error e) : ∃ typeName, e = .noFields typeName := by
  fun_induction checkObjects types with
  | case1 => cases h
  | case2 typeName =>
    cases h
    exact ⟨typeName, rfl⟩
  | case3 _ _ _ _ ih => exact ih h
  | case4 _ _ _ ih => exact ih h

/-- Domains are refused for a member that is named twice exactly when one of their types names
it. -/
theorem Schema.assemble_duplicate_iff {domains : List Domain} :
    (∃ typeName member, assemble domains = .error (.duplicateMember typeName member)) ↔
      ¬ ∀ entry ∈ domains.flatMap Domain.types, entry.2.memberNames.Nodup := by
  rw [← checkMembers_eq_ok_iff]
  cases hcheck : checkMembers (domains.flatMap Domain.types) with
  | error e =>
    obtain ⟨typeName, member, rfl⟩ := checkMembers_eq_error hcheck
    refine iff_of_true ⟨typeName, member, ?_⟩ (nomatch ·)
    rw [assemble, hcheck]
    rfl
  | ok free =>
    refine iff_of_false ?_ fun h => h rfl
    rintro ⟨typeName, member, h⟩
    rw [assemble, hcheck] at h
    rcases bind_eq_error h with h | ⟨-, -, h⟩
    · cases h
    rcases bind_eq_error h with h | ⟨-, -, h⟩
    · obtain ⟨_, he⟩ := checkNames_eq_error h
      cases he
    rcases bind_eq_error h with h | ⟨-, -, h⟩
    · obtain ⟨_, he, -⟩ := checkReferences_eq_error h
      cases he
    rcases bind_eq_error h with h | ⟨-, -, h⟩
    · obtain ⟨_, he⟩ := checkObjects_eq_error h
      cases he
    · cases h

namespace ClassInfo

/-- Whether a class gives no type two members of one name. -/
structure MembersApart (c : ClassInfo) : Prop where
  /-- The names of the fields differ. -/
  fields : (c.fields.map ClassField.name).Nodup
  /-- The list is not named as the mark of the client. -/
  mark : c.listQueryName ≠ Mutation.clientMutationIdName
  /-- The list is not named as the main field of the result of a mutation. -/
  payload : ∀ kind : MutationKind, c.listQueryName ≠ kind.payloadFieldName c.name

/-- The names of members that types have besides the declared fields. -/
def systemNames : List String :=
  Mutation.clientMutationIdName :: systemFields.map FieldDefinition.name

/-- Whether no field has the name of a member of the system. -/
def FieldsFree (c : ClassInfo) : Prop :=
  (c.fields.map ClassField.name).Disjoint systemNames

/-! ## The types of one class -/

section Class

variable {c : ClassInfo}

theorem memberNames_objectType (c : ClassInfo) :
    c.objectType.memberNames = c.fields.map ClassField.name ++
      systemFields.map FieldDefinition.name := by
  rw [objectType, TypeDefinition.memberNames, List.map_append, List.map_map]
  rfl

theorem map_name_inputMembers (c : ClassInfo) (mode : FieldMode) :
    (c.inputMembers mode).map InputMember.name = c.fields.map ClassField.name := by
  rw [inputMembers, List.map_map]
  rfl

theorem nodup_objectType_iff (hfree : c.FieldsFree) :
    c.objectType.memberNames.Nodup ↔ (c.fields.map ClassField.name).Nodup := by
  rw [memberNames_objectType, List.nodup_append']
  exact and_iff_left ⟨by decide, List.disjoint_of_disjoint_cons_right hfree⟩

/-- The declared fields as clients give them, with members of the system behind. -/
theorem nodup_members (hfree : c.FieldsFree) (hfields : (c.fields.map ClassField.name).Nodup)
    (mode : FieldMode) {members : List InputMember} (hnodup : (members.map InputMember.name).Nodup)
    (hsystem : members.map InputMember.name ⊆ systemNames) :
    ((c.inputMembers mode ++ members).map InputMember.name).Nodup := by
  rw [List.map_append, map_name_inputMembers, List.nodup_append']
  exact ⟨hfields, hnodup, List.disjoint_of_subset_right hsystem hfree⟩

theorem nodup_singleField (hfree : c.FieldsFree) (hfields : (c.fields.map ClassField.name).Nodup) :
    (c.singleField.arguments.map InputMember.name).Nodup := by
  have hmembers :
      ((c.inputMembers .input ++ [idArgument (.named "ID")]).map InputMember.name).Nodup :=
    nodup_members hfree hfields .input (by decide) (by decide)
  exact ((List.perm_append_singleton _ _).map _).nodup_iff.mp hmembers

theorem nodup_mutationInput (hfree : c.FieldsFree) (hfields : (c.fields.map ClassField.name).Nodup)
    (kind : MutationKind) : (c.mutationInput kind).memberNames.Nodup := by
  rw [mutationInput, TypeDefinition.memberNames]
  cases kind with
  | create => exact nodup_members hfree hfields .input (by decide) (by decide)
  | update =>
    rw [mutationMembers, List.append_assoc]
    exact nodup_members hfree hfields .input (by decide) (by decide)
  | replace =>
    rw [mutationMembers, List.append_assoc]
    exact nodup_members hfree hfields .strictInput (by decide) (by decide)
  | remove => exact (by decide : ["id", "clientMutationId"].Nodup)
  | recover => exact (by decide : ["id", "clientMutationId"].Nodup)

theorem nodup_fieldFilterInput (f : ClassField) : (fieldFilterInput f).memberNames.Nodup := by
  rw [fieldFilterInput, TypeDefinition.memberNames, List.map_map]
  have hid :
      (InputMember.name ∘
        fun operator => InputMember.plain operator (f.scalar.filterType operator)) = id := rfl
  rw [hid, List.map_id]
  cases f.scalar <;> decide

/-- The members of the filter of a class are some of the fields. -/
theorem sublist_filterInput (c : ClassInfo) :
    c.filterInput.memberNames.Sublist (c.fields.map ClassField.name) := by
  have hnames : c.filterInput.memberNames = c.filters.map fun filter => filter.1.name := by
    rw [filterInput, TypeDefinition.memberNames, List.map_map]
    rfl
  have hfilters : (c.filters.map Prod.fst).Sublist c.filterableFields := by
    rw [filters]
    induction c.filterableFields with
    | nil => exact List.Sublist.slnil
    | cons f rest ih =>
      cases hname : c.fieldFilterTypeName f with
      | none =>
        rw [List.filterMap_cons_none (by rw [hname]; rfl)]
        exact ih.cons f
      | some name =>
        rw [List.filterMap_cons_some (by rw [hname]; rfl), List.map_cons]
        exact ih.cons_cons f
  rw [hnames, ← Function.comp_def, ← List.map_map]
  exact (hfilters.trans List.filter_sublist).map ClassField.name

theorem payloadFieldName_ne_mark (kind : MutationKind) (className : String) :
    kind.payloadFieldName className ≠ Mutation.clientMutationIdName := by
  cases kind with
  | remove =>
    rw [MutationKind.payloadFieldName, String.append_assoc]
    exact Naming.append_ne_of_not_prefix (by decide)
  | _ => exact Naming.append_ne_of_not_prefix (by decide)

theorem nodup_mutationPayload_iff {kind : MutationKind} :
    (c.mutationPayload kind).memberNames.Nodup ↔
      c.listQueryName ≠ Mutation.clientMutationIdName ∧
      c.listQueryName ≠ kind.payloadFieldName c.name := by
  have hnames : (c.mutationPayload kind).memberNames =
      [Mutation.clientMutationIdName, kind.payloadFieldName c.name, c.listQueryName] := by
    cases kind <;> rfl
  have hmark := payloadFieldName_ne_mark kind c.name
  simp only [hnames, List.nodup_cons, List.mem_cons, List.not_mem_nil, or_false, not_or,
    not_false_eq_true, List.nodup_nil, and_true]
  exact ⟨fun h => ⟨Ne.symm h.1.2, Ne.symm h.2⟩, fun h =>
    ⟨⟨Ne.symm hmark, Ne.symm h.1⟩, Ne.symm h.2⟩⟩

/-- What holds for each kind of type that a class gives rise to holds for all its types. -/
theorem forall_types {P : TypeDefinition → Prop} (object : P c.objectType)
    (connection : P (connectionType c.name)) (edge : P (edgeType c.name))
    (fieldFilter : ∀ f, P (fieldFilterInput f)) (filter : P c.filterInput) (order : P c.orderEnum)
    (input : ∀ kind, P (c.mutationInput kind)) (payload : ∀ kind, P (c.mutationPayload kind)) :
    ∀ entry ∈ c.types, P entry.2 := by
  intro entry hentry
  simp only [types, connectionTypes, filterInputs, mutationTypes, List.mem_append, List.mem_flatMap,
    List.mem_cons, List.not_mem_nil, or_false] at hentry
  rcases hentry with (((rfl | rfl | rfl) | hfilter) | rfl) | ⟨kind, -, rfl | rfl⟩
  · exact object
  · exact connection
  · exact edge
  · split at hfilter
    · exact absurd hfilter List.not_mem_nil
    · rcases List.mem_append.mp hfilter with hmem | hmem
      · obtain ⟨filtered, -, rfl⟩ := List.mem_map.mp hmem
        exact fieldFilter filtered.1
      · exact List.mem_singleton.mp hmem ▸ filter
  · exact order
  · exact input kind
  · exact payload kind

/-- No type of a class names a member twice exactly when the names of the fields differ and the list
has a name of its own. -/
theorem nodup_types_iff (hfree : c.FieldsFree) :
    (∀ entry ∈ c.types, entry.2.memberNames.Nodup) ↔ c.MembersApart := by
  constructor
  · intro htypes
    have hobject : (c.name, c.objectType) ∈ c.types := by
      simp only [types, List.append_assoc]
      exact List.mem_append_left _ List.mem_cons_self
    have hpayload (kind : MutationKind) :
        (kind.payloadTypeName c.name, c.mutationPayload kind) ∈ c.types := by
      refine List.mem_append_right _ (List.mem_flatMap.mpr ⟨kind, ?_,
        List.mem_cons_of_mem _ List.mem_cons_self⟩)
      cases kind <;> decide
    exact ⟨(nodup_objectType_iff hfree).mp (htypes _ hobject),
      (nodup_mutationPayload_iff.mp (htypes _ (hpayload .create))).1, fun kind =>
        (nodup_mutationPayload_iff.mp (htypes _ (hpayload kind))).2⟩
  · rintro ⟨hfields, hmark, hpayload⟩
    refine forall_types (P := fun type => type.memberNames.Nodup)
      ?object ?connection ?edge nodup_fieldFilterInput ?filter ?order ?input ?payload
    case object => exact (nodup_objectType_iff hfree).mpr hfields
    case connection => exact (by decide : ["pageInfo", "edges", "totalCount"].Nodup)
    case edge => exact (by decide : ["node", "cursor"].Nodup)
    case filter => exact (sublist_filterInput c).nodup hfields
    case order => exact List.nodup_nil
    case input => exact nodup_mutationInput hfree hfields
    case payload => exact fun kind => nodup_mutationPayload_iff.mpr ⟨hmark, hpayload kind⟩

end Class

end ClassInfo

namespace Registry

/-! ## The types of a registry -/

section Accepted

variable {definitions : List ClassDefinition} {r : Registry} {c : ClassInfo}

/-- The names of the members of the system are reserved, or they have a character that no name in
camel case has. -/
theorem fieldsFree (h : ofDefinitions definitions = .ok r) (hc : c ∈ r.classes) : c.FieldsFree := by
  intro name hname hsystem
  obtain ⟨f, hf, rfl⟩ := List.mem_map.mp hname
  obtain ⟨rawName, hraw⟩ := exists_camelCase h hc hf
  have halphanum : Naming.AllAlphanum f.name.toList := hraw ▸ Naming.camelCase_alphanum rawName
  have hcases : ∀ name ∈ ClassInfo.systemNames, name ∈ reservedFields ∨ '_' ∈ name.toList := by
    decide
  rcases hcases _ hsystem with hreserved | hunderscore
  · exact notReserved_name h hc hf hreserved
  · exact absurd (halphanum '_' hunderscore) (by decide)

end Accepted

/-- In the types of accepted classes, and among the arguments of their queries, names of members
differ exactly when every class has different names for its fields and a name of its own for its
list. A project is refused for a member that is named twice exactly when this fails. -/
theorem nodup_memberNames_iff {json : Json} {r : Registry} (h : Registry.ofJson json = .ok r)
    (version : Int) :
    (((∀ entry ∈ (Domain.classes r version).types, entry.2.memberNames.Nodup) ∧
        ∀ c ∈ r.classes, (c.singleField.arguments.map InputMember.name).Nodup) ↔
          ∀ c ∈ r.classes, c.MembersApart) ∧
    ((∃ typeName member, Schema.assemble [.classes r version, .files, .project] =
        .error (.duplicateMember typeName member)) ↔ ¬ ∀ c ∈ r.classes, c.MembersApart) := by
  obtain ⟨definitions, -, hr⟩ := ofJson_eq_ok h
  have htypes : (∀ entry ∈ (Domain.classes r version).types, entry.2.memberNames.Nodup) ↔
      ∀ c ∈ r.classes, c.MembersApart := by
    rw [Domain.classes, List.forall_mem_flatMap]
    exact forall₂_congr fun c hc => ClassInfo.nodup_types_iff (fieldsFree hr hc)
  refine ⟨?_, ?_⟩
  · rw [htypes]
    exact and_iff_left_of_imp fun hapart c hc =>
      ClassInfo.nodup_singleField (fieldsFree hr hc) (hapart c hc).fields
  · have hfixed :
        ∀ entry ∈ Domain.files.types ++ Domain.project.types, entry.2.memberNames.Nodup := by
      decide +kernel
    rw [Schema.assemble_duplicate_iff, ← htypes]
    refine not_congr ⟨fun hall entry hentry => hall entry ?_, fun hclasses entry hentry => ?_⟩
    · exact List.mem_append_left _ hentry
    · simp only [List.flatMap_cons, List.flatMap_nil, List.append_nil] at hentry
      rcases List.mem_append.mp hentry with hmem | hmem
      · exact hclasses entry hmem
      · exact hfixed entry hmem

end Registry

namespace Sample

/-- Definitions of users with two fields. -/
def userJson (first second : String) : Json :=
  .object [("user", .object [(first, .string "string"), (second, .string "string")])]

/-- The class of users with two fields. -/
def userWith (first second : String) : ClassInfo :=
  ⟨"User", none, [⟨first, .scalar .string, false, none⟩, ⟨second, .scalar .string, false, none⟩]⟩

end Sample

namespace Registry

/-- Users with a first and a last name. -/
theorem nodup_memberNames_iff_names :
    Registry.ofJson (Sample.userJson "first_name" "last_name") =
      .ok ⟨[Sample.userWith "firstName" "lastName"]⟩ ∧
    (∀ entry ∈ (Domain.classes ⟨[Sample.userWith "firstName" "lastName"]⟩ 1).types,
      entry.2.memberNames.Nodup) ∧
    ∀ typeName member, Schema.assemble
      [.classes ⟨[Sample.userWith "firstName" "lastName"]⟩ 1, .files, .project] ≠
        .error (.duplicateMember typeName member) := by
  have haccepted : Registry.ofJson (Sample.userJson "first_name" "last_name") =
      .ok ⟨[Sample.userWith "firstName" "lastName"]⟩ := eq_ok_of_classes (by decide +kernel)
  have hapart : ∀ c ∈ [Sample.userWith "firstName" "lastName"], c.MembersApart := by
    intro c hc
    rw [List.mem_singleton.mp hc]
    exact ⟨by decide, by decide +kernel, fun kind => by cases kind <;> decide +kernel⟩
  obtain ⟨hnodup, hrefused⟩ := nodup_memberNames_iff haccepted 1
  refine ⟨haccepted, (hnodup.mpr hapart).1, fun typeName member h => ?_⟩
  exact hrefused.mp ⟨typeName, member, h⟩ hapart

/-- Two fields whose names agree in camel case are accepted, and then the type of users has two
members of one name. -/
theorem exists_member_twice :
    Registry.ofJson (Sample.userJson "first_name" "firstName") =
      .ok ⟨[Sample.userWith "firstName" "firstName"]⟩ ∧
    ¬ (Sample.userWith "firstName" "firstName").objectType.memberNames.Nodup ∧
    Schema.assemble [.classes ⟨[Sample.userWith "firstName" "firstName"]⟩ 1, .files, .project] =
      .error (.duplicateMember "User" "firstName") := by
  have hcheck :
      Schema.checkMembers
          (([.classes ⟨[Sample.userWith "firstName" "firstName"]⟩ 1, .files, .project] :
            List Domain).flatMap Domain.types) =
        .error (.duplicateMember "User" "firstName") := by
    decide +kernel
  refine ⟨eq_ok_of_classes (by decide +kernel), by decide, ?_⟩
  rw [Schema.assemble, hcheck]
  rfl

end Registry

end ClassApi
