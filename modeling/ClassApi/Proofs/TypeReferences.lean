import ClassApi.Proofs.MemberNames
import ClassApi.Proofs.TypeNames

/-!
# References between types

Fields, arguments and members of inputs refer to types by name, and the types are registered
elsewhere: those of the classes with the classes, whatever order these are declared in, those of
files with the files. A filter is referred to only when its class has one, and then it is
registered. So every reference leads to a type, also when classes refer to one another in circles,
and no project is refused for a type that is unknown.
-/

namespace ClassApi

/-- The names of the types that a field refers to: that of its values, then those of its
arguments. -/
def FieldDefinition.references (f : FieldDefinition) : List String :=
  f.type.baseName :: f.arguments.map fun a => a.type.baseName

/-- The names of the types that a domain refers to, in its types and in its root fields. -/
def Domain.references (d : Domain) : List String :=
  d.types.flatMap (fun entry => entry.2.references) ++
    (d.queries ++ d.mutations).flatMap FieldDefinition.references

theorem TypeDefinition.mem_references_object {type : ObjectType} {name : String} :
    name ∈ (object type).references ↔ (∃ f ∈ type.fields, name ∈ f.references) ∨
      name ∈ type.interfaces := by
  simp only [references, FieldDefinition.references, List.mem_append, List.mem_map,
    List.mem_flatMap, List.mem_cons]
  refine or_congr_left ⟨?_, ?_⟩
  · rintro (⟨f, hf, rfl⟩ | ⟨f, hf, ha⟩)
    · exact ⟨f, hf, Or.inl rfl⟩
    · exact ⟨f, hf, Or.inr ha⟩
  · rintro ⟨f, hf, rfl | ha⟩
    · exact Or.inl ⟨f, hf, rfl⟩
    · exact Or.inr ⟨f, hf, ha⟩

namespace Schema

/-! ## Schemas without unknown types -/

/-- Whether a name is that of a built-in scalar or of a type that is registered when domains are put
together. -/
def Knows (domains : List Domain) (name : String) : Prop :=
  name ∈ builtinScalars ∨ name ∈ Fields.names (collectTypes domains)

/-- Whether domains, with the types that every schema has, refer to known types only. -/
structure Closed (domains : List Domain) : Prop where
  /-- The types that every schema has do. -/
  base : ∀ entry ∈ baseTypes, ∀ name ∈ entry.2.references, Knows domains name
  /-- The domains do. -/
  domain : ∀ domain ∈ domains, ∀ name ∈ domain.references, Knows domains name

section Assembly

variable {domains : List Domain} {name : String}

theorem mem_collectTypes {entry : String × TypeDefinition} (h : entry ∈ collectTypes domains) :
    entry ∈ baseTypes ∨ ∃ domain ∈ domains, entry ∈ domain.types :=
  (Fields.mem_of_mem_addMissing h).imp_right List.mem_flatMap.mp

theorem mem_mergeRoot {fields : List FieldDefinition} {f : FieldDefinition}
    (h : f ∈ mergeRoot fields) : f ∈ fields := by
  obtain ⟨entry, hentry, rfl⟩ := List.mem_map.mp h
  obtain ⟨f, hf, rfl⟩ := List.mem_map.mp (Fields.mem_of_mem_ofEntries hentry)
  exact hf

theorem references_roots {entry : String × TypeDefinition} (h : entry ∈ roots domains)
    (hname : name ∈ entry.2.references) : ∃ domain ∈ domains, name ∈ domain.references := by
  have hroot : ∀ fields : List FieldDefinition, name ∈ (rootType fields).references →
      ∃ f ∈ fields, name ∈ f.references := by
    intro fields hmem
    rcases TypeDefinition.mem_references_object.mp hmem with ⟨f, hf, hmem⟩ | hmem
    · exact ⟨f, mem_mergeRoot hf, hmem⟩
    · exact absurd hmem List.not_mem_nil
  have hdomain : ∀ domain ∈ domains, ∀ f ∈ domain.queries ++ domain.mutations, name ∈ f.references →
      ∃ domain ∈ domains, name ∈ domain.references := fun domain hd f hf hmem =>
    ⟨domain, hd, List.mem_append_right _ (List.mem_flatMap.mpr ⟨f, hf, hmem⟩)⟩
  rcases List.mem_cons.mp h with rfl | h
  · obtain ⟨f, hf, hmem⟩ := hroot _ hname
    obtain ⟨domain, hd, hquery⟩ := List.mem_flatMap.mp hf
    exact hdomain domain hd f (List.mem_append_left _ hquery) hmem
  · split at h
    · exact absurd h List.not_mem_nil
    · rw [List.mem_singleton.mp h] at hname
      obtain ⟨f, hf, hmem⟩ := hroot _ hname
      obtain ⟨domain, hd, hmutation⟩ := List.mem_flatMap.mp hf
      exact hdomain domain hd f (List.mem_append_right _ hmutation) hmem

theorem names_subset_ofEntries (front : List (String × TypeDefinition))
    (types : Fields TypeDefinition) :
    Fields.names types ⊆ Fields.names (Fields.ofEntries (front ++ sortByName types)) := by
  intro name hname
  have hsorted : name ∈ Fields.names (sortByName types) :=
    ((List.mergeSort_perm types _).map Prod.fst).mem_iff.mpr hname
  rw [← Fields.exists_get?_iff, Fields.get?_ofEntries, Fields.exists_get?_iff, Fields.names_reverse,
    List.mem_reverse, Fields.names_append]
  exact List.mem_append_right _ hsorted

/-- Domains that refer to known types only are not refused for a type that is unknown. -/
theorem Closed.assemble_ne_notFound (h : Closed domains) (name : String) :
    assemble domains ≠ .error (.notFound name) := by
  intro hassemble
  rcases bind_eq_error hassemble with herror | ⟨-, -, hassemble⟩
  · obtain ⟨_, _, he⟩ := checkMembers_eq_error herror
    cases he
  rcases bind_eq_error hassemble with herror | ⟨-, -, hassemble⟩
  · obtain ⟨_, he⟩ := checkNames_eq_error herror
    cases he
  rcases bind_eq_error hassemble with herror | ⟨-, -, hassemble⟩
  · obtain ⟨unknown, -, hnone, entry, hentry, hmem⟩ := checkReferences_eq_error herror
    have hknown : Knows domains unknown := by
      rcases List.mem_append.mp (Fields.mem_of_mem_ofEntries hentry) with hroot | hsorted
      · obtain ⟨domain, hd, hreference⟩ := references_roots hroot hmem
        exact h.domain domain hd unknown hreference
      · rcases mem_collectTypes (List.mem_mergeSort.mp hsorted) with hbase | ⟨domain, hd, htype⟩
        · exact h.base entry hbase unknown hmem
        · exact h.domain domain hd unknown
            (List.mem_append_left _ (List.mem_flatMap.mpr ⟨entry, htype, hmem⟩))
    -- what is known is found
    rw [type?] at hnone
    split at hnone
    · cases hnone
    · rename_i hscalar
      have hregistered := hknown.resolve_left (mt List.contains_iff_mem.mpr hscalar)
      obtain ⟨type, htype⟩ :=
        Fields.exists_get?_of_mem_names (names_subset_ofEntries (roots domains) _ hregistered)
      rw [htype] at hnone
      cases hnone
  rcases bind_eq_error hassemble with herror | ⟨-, -, hassemble⟩
  · obtain ⟨_, he⟩ := checkObjects_eq_error herror
    cases he
  · cases hassemble

end Assembly

end Schema

namespace Registry

/-- The parts that the schema of a project is put together from. -/
def domains (r : Registry) (version : Int) : List Domain :=
  [.classes r version, .files, .project]

/-- Whether a name is that of a built-in scalar or of a type that is registered for the project. -/
def Knows (r : Registry) (version : Int) (name : String) : Prop :=
  Schema.Knows (r.domains version) name

/-! ## Types that are known -/

/-- The names of types that are there without the classes. -/
def fixedTypeNames : List String :=
  Schema.builtinScalars ++ (Fields.names Schema.baseTypes ++ (Fields.names Domain.files.types ++
    Fields.names Domain.project.types))

section Known

variable {r : Registry} {version : Int} {name : String}

theorem knows_of_fixed (h : name ∈ fixedTypeNames) : r.Knows version name := by
  rw [Knows, Schema.Knows, mem_names_collectTypes]
  rcases List.mem_append.mp h with hscalar | h
  · exact Or.inl hscalar
  rcases List.mem_append.mp h with hbase | h
  · exact Or.inr (Or.inl hbase)
  rcases List.mem_append.mp h with hfiles | hproject
  · exact Or.inr (Or.inr ⟨.files, List.mem_cons_of_mem _ List.mem_cons_self, hfiles⟩)
  · exact Or.inr (Or.inr ⟨.project,
      List.mem_cons_of_mem _ (List.mem_cons_of_mem _ List.mem_cons_self), hproject⟩)

theorem knows_of_class {c : ClassInfo} (hc : c ∈ r.classes) (h : name ∈ Fields.names c.types) :
    r.Knows version name := by
  rw [Knows, Schema.Knows, mem_names_collectTypes]
  refine Or.inr (Or.inr ⟨.classes r version, List.mem_cons_self, ?_⟩)
  rw [Fields.names, Domain.classes, List.map_flatMap, List.mem_flatMap]
  exact ⟨c, hc, h⟩

theorem knows_of_objectNames {c : ClassInfo} (hc : c ∈ r.classes) (h : name ∈ c.objectNames) :
    r.Knows version name :=
  knows_of_class hc (c.names_types ▸ List.mem_append_left _ h)

theorem knows_of_inputNames {c : ClassInfo} (hc : c ∈ r.classes) (h : name ∈ c.inputNames) :
    r.Knows version name :=
  knows_of_class hc (c.names_types ▸ List.mem_append_right _ h)

theorem knows_typeName (kind : ScalarKind) : r.Knows version kind.typeName :=
  knows_of_fixed (by cases kind <;> decide)

theorem knows_target {target : String} (h : target = fileClass ∨ ∃ c ∈ r.classes, c.name = target) :
    r.Knows version target ∧ r.Knows version (connectionTypeName target) := by
  rcases h with rfl | ⟨c, hc, rfl⟩
  · exact ⟨knows_of_fixed (by decide), knows_of_fixed (by decide)⟩
  · exact ⟨knows_of_objectNames hc List.mem_cons_self,
      knows_of_objectNames hc (List.mem_cons_of_mem _ List.mem_cons_self)⟩

end Known

/-! ## What a class refers to -/

section Class

variable {r : Registry} {version : Int} {c : ClassInfo}

/-- Whether a field with its arguments refers to known types only. -/
def FieldKnown (r : Registry) (version : Int) (f : FieldDefinition) : Prop :=
  ∀ name ∈ f.references, r.Knows version name

/-- Whether members refer to known types only. -/
def MembersKnown (r : Registry) (version : Int) (members : List InputMember) : Prop :=
  ∀ m ∈ members, r.Knows version m.type.baseName

theorem fieldKnown_iff {f : FieldDefinition} :
    r.FieldKnown version f ↔ r.Knows version f.type.baseName ∧
      r.MembersKnown version f.arguments := by
  rw [FieldKnown, FieldDefinition.references, List.forall_mem_cons, List.forall_mem_map,
    MembersKnown]

theorem FieldKnown.of_fixed {f : FieldDefinition} (h : f.references ⊆ fixedTypeNames) :
    r.FieldKnown version f :=
  fun _ hname => knows_of_fixed (h hname)

theorem MembersKnown.of_fixed {members : List InputMember}
    (h : members.map (fun m => m.type.baseName) ⊆ fixedTypeNames) :
    r.MembersKnown version members :=
  fun _ hm => knows_of_fixed (h (List.mem_map_of_mem hm))

theorem MembersKnown.append {front back : List InputMember} (hfront : r.MembersKnown version front)
    (hback : r.MembersKnown version back) : r.MembersKnown version (front ++ back) :=
  List.forall_mem_append.mpr ⟨hfront, hback⟩

/-- What clients give for a declared field is a scalar or an id. -/
theorem knows_inputType (f : ClassField) (mode : FieldMode) (h : mode ≠ .detail) :
    r.Knows version (f.typeRef mode).baseName := by
  have hinput : r.Knows version f.inputType.baseName := by
    rw [ClassField.inputType]
    split
    · exact knows_typeName _
    · exact knows_typeName _
    · exact knows_of_fixed (by decide)
    · exact knows_of_fixed (by decide)
  cases mode with
  | detail => exact absurd rfl h
  | input => exact hinput
  | strictInput =>
    rw [ClassField.typeRef]
    split <;> exact hinput

theorem membersKnown_inputMembers (c : ClassInfo) (mode : FieldMode) (h : mode ≠ .detail) :
    r.MembersKnown version (c.inputMembers mode) :=
  List.forall_mem_map.mpr fun f _ => knows_inputType f mode h

theorem membersKnown_pageArguments : r.MembersKnown version pageArguments :=
  MembersKnown.of_fixed (by decide)

/-- A declared field of an object has a scalar type, or that of the class it points at. -/
theorem fieldKnown_definition {f : ClassField}
    (h : ∀ target, f.target? = some target →
      target = fileClass ∨ ∃ other ∈ r.classes, other.name = target) :
    r.FieldKnown version f.definition := by
  rw [fieldKnown_iff]
  have harguments : r.MembersKnown version f.arguments := by
    rw [ClassField.arguments]
    split
    · exact membersKnown_pageArguments
    · exact MembersKnown.of_fixed (List.nil_subset _)
  refine ⟨?_, harguments⟩
  rw [ClassField.target?] at h
  show r.Knows version f.detailType.baseName
  rw [ClassField.detailType]
  split
  · exact knows_typeName _
  · exact knows_typeName _
  · rename_i target hkind
    rw [hkind] at h
    exact (knows_target (h target rfl)).1
  · rename_i target hkind
    rw [hkind] at h
    exact (knows_target (h target rfl)).2

/-- Lists take filters only when the class has some, and then their types are registered. -/
theorem mem_filterNames {name : String}
    (h : name ∈ c.filters.map Prod.snd ∨ (c.filters ≠ [] ∧ name = c.filterTypeName)) :
    name ∈ c.inputNames := by
  refine List.mem_append_left _ ?_
  have hne : c.filters ≠ [] := by
    rcases h with hmem | ⟨hne, -⟩
    · rintro hnil
      rw [hnil] at hmem
      exact List.not_mem_nil hmem
    · exact hne
  rw [c.filterNames_eq, if_neg (mt List.isEmpty_iff.mp hne), List.mem_append, List.mem_singleton]
  exact h.imp_right And.right

theorem membersKnown_listArguments (hc : c ∈ r.classes) :
    r.MembersKnown version c.listArguments := by
  refine MembersKnown.append (fun m hm => ?_) (fun m hm => ?_)
  · split at hm
    · exact absurd hm List.not_mem_nil
    · rename_i hne
      rw [List.mem_singleton.mp hm]
      exact knows_of_inputNames hc (mem_filterNames (Or.inr ⟨mt List.isEmpty_iff.mpr hne, rfl⟩))
  · rw [List.mem_singleton.mp hm]
    exact knows_of_inputNames hc (List.mem_append_right _ List.mem_cons_self)

theorem fieldKnown_listField (hc : c ∈ r.classes) : r.FieldKnown version c.listField :=
  fieldKnown_iff.mpr ⟨knows_of_objectNames hc (List.mem_cons_of_mem _ List.mem_cons_self),
    membersKnown_pageArguments.append (membersKnown_listArguments hc)⟩

theorem fieldKnown_queryFields (hc : c ∈ r.classes) :
    ∀ f ∈ c.queryFields, r.FieldKnown version f := by
  simp only [ClassInfo.queryFields, List.forall_mem_cons]
  refine ⟨fieldKnown_listField hc, ?_, FieldKnown.of_fixed ?_, fun _ h => absurd h List.not_mem_nil⟩
  · refine fieldKnown_iff.mpr ⟨knows_of_objectNames hc List.mem_cons_self,
      List.forall_mem_cons.mpr ⟨?_, ?_⟩⟩
    · exact knows_of_fixed (by decide)
    · exact membersKnown_inputMembers c .input (by decide)
  · exact (by decide : ["MixedType", "ID"] ⊆ fixedTypeNames)

theorem mem_mutationNames (c : ClassInfo) (kind : MutationKind) :
    kind.inputTypeName c.name ∈ c.inputNames ∧ kind.payloadTypeName c.name ∈ c.inputNames := by
  have hnames : ∀ name ∈ [kind.inputTypeName c.name, kind.payloadTypeName c.name],
      name ∈ c.inputNames := fun name hname =>
    List.mem_append_right _ (List.mem_cons_of_mem _ (List.mem_flatMap.mpr ⟨kind,
      kind.mem_all, hname⟩))
  exact ⟨hnames _ List.mem_cons_self, hnames _ (List.mem_cons_of_mem _ List.mem_cons_self)⟩

theorem fieldKnown_mutationFields (hc : c ∈ r.classes) :
    ∀ f ∈ c.mutationFields version, r.FieldKnown version f := by
  refine List.forall_mem_map.mpr fun kind _ =>
    fieldKnown_iff.mpr ⟨?_, List.forall_mem_singleton.mpr ?_⟩
  · exact knows_of_inputNames hc (mem_mutationNames c kind).2
  · exact knows_of_inputNames hc (mem_mutationNames c kind).1

theorem membersKnown_mutationMembers (c : ClassInfo) (kind : MutationKind) :
    r.MembersKnown version (c.mutationMembers kind) := by
  have hid : ["ID"] ⊆ fixedTypeNames := by decide
  cases kind with
  | create => exact membersKnown_inputMembers c .input (by decide)
  | update =>
    exact (membersKnown_inputMembers c .input (by decide)).append (MembersKnown.of_fixed hid)
  | replace =>
    exact (membersKnown_inputMembers c .strictInput (by decide)).append (MembersKnown.of_fixed hid)
  | remove => exact MembersKnown.of_fixed hid
  | recover => exact MembersKnown.of_fixed hid

/-- Objects refer to known types when their fields do and they have no other interface than that of
everything with an id. -/
theorem knows_object {type : ObjectType} (hfields : ∀ f ∈ type.fields, r.FieldKnown version f)
    (hinterfaces : type.interfaces ⊆ [nodeInterface]) :
    ∀ name ∈ (TypeDefinition.object type).references, r.Knows version name := by
  intro name hname
  rcases TypeDefinition.mem_references_object.mp hname with ⟨f, hf, hmem⟩ | hmem
  · exact hfields f hf name hmem
  · rw [List.mem_singleton.mp (hinterfaces hmem)]
    exact knows_of_fixed (by decide)

theorem knows_input {members : List InputMember} (h : r.MembersKnown version members) :
    ∀ name ∈ (TypeDefinition.input members).references, r.Knows version name :=
  List.forall_mem_map.mpr h

/-- Every type of a class refers to known types, provided that its relations point at files or
classes. -/
theorem knows_types (hc : c ∈ r.classes)
    (htargets : ∀ f ∈ c.fields, ∀ target, f.target? = some target →
      target = fileClass ∨ ∃ other ∈ r.classes, other.name = target) :
    ∀ entry ∈ c.types, ∀ name ∈ entry.2.references, r.Knows version name := by
  refine ClassInfo.forall_types (P := fun type => ∀ name ∈ type.references, r.Knows version name)
    ?object ?connection ?edge ?fieldFilter ?filter ?order ?input ?payload
  case object =>
    refine knows_object (fun f hf => ?_) (List.Subset.refl _)
    rcases List.mem_append.mp hf with hdeclared | hsystem
    · obtain ⟨declared, hd, rfl⟩ := List.mem_map.mp hdeclared
      exact fieldKnown_definition (htargets declared hd)
    · exact FieldKnown.of_fixed
        ((by decide : ∀ f ∈ systemFields, f.references ⊆ fixedTypeNames) f hsystem)
  case connection =>
    have hedge : r.Knows version (edgeTypeName c.name) :=
      knows_of_objectNames hc (List.mem_cons_of_mem _ (List.mem_cons_of_mem _ List.mem_cons_self))
    refine knows_object (List.forall_mem_cons.mpr ⟨FieldKnown.of_fixed (by decide),
      List.forall_mem_cons.mpr ⟨?_, ?_⟩⟩)
      (List.nil_subset _)
    · exact fieldKnown_iff.mpr ⟨hedge, MembersKnown.of_fixed (List.nil_subset _)⟩
    · exact List.forall_mem_singleton.mpr (FieldKnown.of_fixed (by decide))
  case edge =>
    refine knows_object (List.forall_mem_cons.mpr ⟨?_,
      List.forall_mem_singleton.mpr (FieldKnown.of_fixed (by decide))⟩)
      (List.nil_subset _)
    exact fieldKnown_iff.mpr ⟨knows_of_objectNames hc List.mem_cons_self,
      MembersKnown.of_fixed (List.nil_subset _)⟩
  case fieldFilter =>
    intro f
    refine knows_input (List.forall_mem_map.mpr fun operator _ => knows_of_fixed ?_)
    have hkinds : ∀ operator, (f.scalar.filterType operator).baseName ∈
        ["String", "Boolean", "Int", "Float", "MixedType", "ObjectIDType"] := by
      intro operator
      simp only [ScalarKind.filterType]
      split_ifs <;> cases f.scalar <;> decide
    exact (by decide : ["String", "Boolean", "Int", "Float", "MixedType",
      "ObjectIDType"] ⊆ fixedTypeNames) (hkinds operator)
  case filter =>
    refine knows_input (List.forall_mem_map.mpr fun filter hfilter => ?_)
    exact knows_of_inputNames hc (mem_filterNames (Or.inl (List.mem_map_of_mem hfilter)))
  case order => exact fun name hname => absurd hname List.not_mem_nil
  case input =>
    exact fun kind =>
      knows_input ((membersKnown_mutationMembers c kind).append (MembersKnown.of_fixed (by decide)))
  case payload =>
    intro kind
    have hrecord : r.FieldKnown version (c.payloadField kind) := by
      have hclass : r.Knows version c.name := knows_of_objectNames hc List.mem_cons_self
      have hstring : r.Knows version "String" := knows_of_fixed (by decide)
      have hnone : r.MembersKnown version [] := MembersKnown.of_fixed (List.nil_subset _)
      cases kind with
      | remove => exact fieldKnown_iff.mpr ⟨hstring, hnone⟩
      | _ => exact fieldKnown_iff.mpr ⟨hclass, hnone⟩
    exact knows_object (List.forall_mem_cons.mpr ⟨FieldKnown.of_fixed (by decide),
      List.forall_mem_cons.mpr ⟨hrecord, List.forall_mem_singleton.mpr (fieldKnown_listField hc)⟩⟩)
        (List.nil_subset _)

end Class

/-! ## What a project refers to -/

section Accepted

variable {definitions : List ClassDefinition} {r : Registry}

theorem closed_ofDefinitions (h : ofDefinitions definitions = .ok r) (version : Int) :
    Schema.Closed (r.domains version) := by
  have htargets := (declared_ofDefinitions h).targets
  refine ⟨?_, ?_⟩
  · intro entry hentry name hname
    have hfixed : ∀ entry ∈ Schema.baseTypes, entry.2.references ⊆ fixedTypeNames := by decide
    exact knows_of_fixed (hfixed entry hentry hname)
  · refine List.forall_mem_cons.mpr ⟨?classes,
      List.forall_mem_cons.mpr ⟨?files, List.forall_mem_singleton.mpr ?project⟩⟩
    case files => exact fun name hname =>
      knows_of_fixed ((by decide : Domain.files.references ⊆ fixedTypeNames) hname)
    case project => exact fun name hname =>
      knows_of_fixed ((by decide : Domain.project.references ⊆ fixedTypeNames) hname)
    case classes =>
      refine List.forall_mem_append.mpr ⟨?_, ?_⟩
      · simp only [Domain.classes, List.forall_mem_flatMap]
        exact fun c hc => knows_types hc fun f hf target htarget =>
          (htargets c hc f hf target htarget).2
      · refine List.forall_mem_flatMap.mpr
          (List.forall_mem_append.mpr ⟨List.forall_mem_append.mpr ⟨?_, ?_⟩, ?_⟩)
        · exact List.forall_mem_flatMap.mpr fun c hc => fieldKnown_queryFields hc
        · exact List.forall_mem_singleton.mpr
            (FieldKnown.of_fixed (by decide : [nodeInterface, "ID"] ⊆ fixedTypeNames))
        · exact List.forall_mem_flatMap.mpr fun c hc => fieldKnown_mutationFields hc

end Accepted

/-- Whatever classes a project defines, every type that the classes, the files and the project refer
to is a built-in scalar or registered, and the schema is never refused for a type that is
unknown. -/
theorem references_known {json : Json} {r : Registry} (h : Registry.ofJson json = .ok r)
    (version : Int) :
    Schema.Closed (r.domains version) ∧
    ∀ name, Schema.assemble (r.domains version) ≠ .error (.notFound name) := by
  obtain ⟨definitions, -, hr⟩ := ofJson_eq_ok h
  have hclosed := closed_ofDefinitions hr version
  exact ⟨hclosed, hclosed.assemble_ne_notFound⟩

end Registry

namespace Sample

/-- The declaration of a field that points at a class. -/
def relationTo (className : String) : Json :=
  .object [("type", .string "relation"), ("ref", .string className)]

/-- Definitions of painters and paintings, which refer to one another and to files. -/
def galleryJson : Json :=
  .object [
    ("painter", .object [("teacher", relationTo "painter"),
      ("paintings", .array [relationTo "painting"])]),
    ("painting", .object [("title", .string "string"), ("image", relationTo "file"),
      ("painter", relationTo "painter")])]

/-- The classes of painters and paintings. -/
def gallery : Registry :=
  ⟨[⟨"Painter", none, [⟨"teacher", .relation "Painter", false, none⟩,
    ⟨"paintings", .relationList "Painting", false, none⟩]⟩,
    ⟨"Painting", none, [⟨"title", .scalar .string, false, none⟩,
      ⟨"image", .relation "File", false, none⟩,
      ⟨"painter", .relation "Painter", false, none⟩]⟩]⟩

end Sample

namespace Registry

/-- Painters and paintings: the filter of painters, the filter of their teachers and the connection
of their paintings are referred to and registered, and no schema is refused for want of them. -/
theorem references_known_gallery :
    Registry.ofJson Sample.galleryJson = .ok Sample.gallery ∧
    ∀ name ∈ ["filterPaintersWith", "filterPaintersWithTeacherObjectID", "PaintingConnection"],
      name ∈ (Domain.classes Sample.gallery 1).references ∧ Sample.gallery.Knows 1 name ∧
      Schema.assemble (Sample.gallery.domains 1) ≠ .error (.notFound name) := by
  have haccepted : Registry.ofJson Sample.galleryJson = .ok Sample.gallery :=
    eq_ok_of_classes (by decide +kernel)
  obtain ⟨hclosed, hassemble⟩ := references_known haccepted 1
  have hmem :
      ∀ name ∈ ["filterPaintersWith", "filterPaintersWithTeacherObjectID", "PaintingConnection"],
      name ∈ (Domain.classes Sample.gallery 1).references := by decide +kernel
  refine ⟨haccepted, fun name hname => ?_⟩
  exact ⟨hmem name hname, hclosed.domain _ List.mem_cons_self _ (hmem name hname), hassemble name⟩

end Registry

end ClassApi
