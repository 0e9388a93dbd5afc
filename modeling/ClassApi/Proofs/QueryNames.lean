import ClassApi.Proofs.Compilation
import ClassApi.Proofs.MemberNames
import ClassApi.Proofs.TypeNames

/-!
# Queries of one name

Three queries of every class and one for anything with a global id are written into one root, where
the last query of a name is kept. The names come from those of the classes and from their plurals,
so queries of a class can be named as those of another one, as the raw query of a class, or as a
query that is there without the classes. No query is lost exactly when neither happens, and no class
is named as the root itself.
-/

namespace ClassApi

/-! ## The root of queries -/

namespace Schema

/-- What is found among merged fields is what is left of a name when all are written. -/
theorem find?_mergeRoot (fields : List FieldDefinition) (name : String) :
    (mergeRoot fields).find? (fun f => f.name = name) =
      Fields.get? (Fields.ofEntries (fields.map fun f => (f.name, f))) name := by
  have hkeys : ∀ entry ∈ Fields.ofEntries (fields.map fun f => (f.name, f)),
      entry.1 = entry.2.name := by
    intro entry hentry
    obtain ⟨f, -, rfl⟩ := List.mem_map.mp (Fields.mem_of_mem_ofEntries hentry)
    rfl
  rw [mergeRoot]
  generalize Fields.ofEntries (fields.map fun f => (f.name, f)) = entries at hkeys
  induction entries with
  | nil => rfl
  | cons entry rest ih =>
    obtain ⟨key, f⟩ := entry
    obtain ⟨hkey, hrest⟩ := List.forall_mem_cons.mp hkeys
    obtain rfl : key = f.name := hkey
    rw [List.map_cons, List.find?_cons, Fields.get?, ih hrest]
    by_cases hname : f.name = name
    · rw [if_pos hname, decide_eq_true hname]
    · rw [if_neg hname, decide_eq_false hname]

/-- Of different fields, those in front are all found in the root when their names differ from one
another and from those behind. -/
theorem find?_mergeRoot_front_iff {front rest : List FieldDefinition} (h : (front ++ rest).Nodup) :
    (∀ f ∈ front, (mergeRoot (front ++ rest)).find? (fun g => g.name = f.name) = some f) ↔
      (front.map FieldDefinition.name).Nodup ∧
        (front.map FieldDefinition.name).Disjoint (rest.map FieldDefinition.name) := by
  have hentries : (front.map (fun f => (f.name, f)) ++ rest.map fun f => (f.name, f)).Nodup := by
    rw [← List.map_append]
    exact h.map fun _ _ he => congrArg Prod.snd he
  have hfront := Fields.get?_ofEntries_front_iff hentries
  simp only [List.forall_mem_map, Fields.names, List.map_map, ← List.map_append,
    ← find?_mergeRoot] at hfront
  exact hfront

theorem nodup_names_collectTypes (domains : List Domain) :
    (Fields.names (collectTypes domains)).Nodup :=
  Fields.nodup_addMissing (by decide) _

/-- A type of the domains takes the place of the root of queries. -/
theorem type?_queryRoot {domains : List Domain} {schema : Schema}
    (h : assemble domains = .ok schema) :
    schema.type? queryRoot = (Fields.get? (collectTypes domains) queryRoot).or
      (some (rootType (domains.flatMap Domain.queries))) := by
  have htypes :
      schema.types = Fields.ofEntries (roots domains ++ sortByName (collectTypes domains)) := by
    obtain ⟨-, -, h⟩ := bind_eq_ok h
    obtain ⟨-, -, h⟩ := bind_eq_ok h
    obtain ⟨-, -, h⟩ := bind_eq_ok h
    obtain ⟨-, -, h⟩ := bind_eq_ok h
    cases h
    rfl
  have hperm : (sortByName (collectTypes domains)).reverse.Perm (collectTypes domains) :=
    (List.reverse_perm _).trans (List.mergeSort_perm _ _)
  have hnodup := (hperm.map Prod.fst).nodup_iff.mpr (nodup_names_collectTypes domains)
  have hroot : Fields.get? (roots domains).reverse queryRoot =
      some (rootType (domains.flatMap Domain.queries)) := by
    rw [roots]
    split <;> rfl
  rw [type?, if_neg (by decide), htypes, Fields.get?_ofEntries, List.reverse_append,
    Fields.get?_append, hroot, Fields.get?_perm hperm hnodup]

end Schema

/-! ## The queries of a class -/

namespace ClassInfo

/-- The names of the queries: the list, the single object, and its stored data. -/
def queryNames (c : ClassInfo) : List String :=
  c.queryFields.map FieldDefinition.name

/-- Whether a class leaves the names of the queries of another one free. -/
structure QueriesApart (c other : ClassInfo) : Prop where
  /-- The single objects are asked for by different names. -/
  single : c.singleQueryName ≠ other.singleQueryName
  /-- So are the lists. -/
  list : c.listQueryName ≠ other.listQueryName
  /-- The list is not named as the single object of the other class. -/
  listSingle : c.listQueryName ≠ other.singleQueryName
  /-- Nor is it named as the stored data. -/
  listRaw : c.listQueryName ≠ other.singleQueryName ++ "Raw"
  /-- The single object is not named as the stored data of the other class. -/
  singleRaw : c.singleQueryName ≠ other.singleQueryName ++ "Raw"

/-- Whether a class asks neither for a list nor for a single object by some name. -/
def LeavesFree (c : ClassInfo) (name : String) : Prop :=
  c.listQueryName ≠ name ∧ c.singleQueryName ≠ name

section Names

variable {c other : ClassInfo}

theorem queryNames_eq (c : ClassInfo) :
    c.queryNames = [c.listQueryName, c.singleQueryName, c.singleQueryName ++ "Raw"] := rfl

theorem notMem_queryNames_iff {name : String} (h : ¬ "Raw".toList <:+ name.toList) :
    name ∉ c.queryNames ↔ c.LeavesFree name := by
  have hraw : name ≠ c.singleQueryName ++ "Raw" := Ne.symm (Naming.append_ne_of_not_suffix h)
  simp only [queryNames_eq, List.mem_cons, List.not_mem_nil, or_false, not_or]
  exact ⟨fun hne => ⟨Ne.symm hne.1, Ne.symm hne.2.1⟩, fun hne =>
    ⟨Ne.symm hne.1, Ne.symm hne.2, hraw⟩⟩

/-- Queries are named by letters and digits. -/
theorem allAlphanum_of_mem_queryNames {name : String} (h : name ∈ c.queryNames) :
    Naming.AllAlphanum name.toList := by
  simp only [queryNames_eq, List.mem_cons, List.not_mem_nil, or_false] at h
  rcases h with rfl | rfl | rfl
  · exact Naming.camelCase_alphanum _
  · exact Naming.camelCase_alphanum _
  · rw [String.toList_append]
    intro d hd
    rcases List.mem_append.mp hd with hd | hd
    · exact Naming.camelCase_alphanum _ d hd
    · exact List.all_eq_true.mp (by decide : "Raw".toList.all Char.isAlphanum = true) d hd

/-- The queries of one class differ when the list is not named as the stored data, since the list of
an accepted class is not named as the single object. -/
theorem nodup_queryNames_iff (h : c.singleQueryName ≠ c.listQueryName) :
    c.queryNames.Nodup ↔ c.listQueryName ≠ c.singleQueryName ++ "Raw" := by
  have hraw : c.singleQueryName ≠ c.singleQueryName ++ "Raw" := Naming.ne_append_self (by decide)
  simp [queryNames_eq, hraw, Ne.symm h]

/-- The queries of two classes differ when each leaves the names of the other free. -/
theorem disjoint_queryNames_iff :
    c.queryNames.Disjoint other.queryNames ↔ c.QueriesApart other ∧ other.QueriesApart c := by
  simp only [queryNames_eq, List.disjoint_iff_ne, List.forall_mem_cons, List.not_mem_nil,
    IsEmpty.forall_iff, implies_true, and_true, ne_eq, String.append_left_inj]
  constructor
  · rintro ⟨⟨hlist, hlistSingle, hlistRaw⟩, ⟨hsingleList, hsingle, hsingleRaw⟩, hrawList,
      hrawSingle, -⟩
    exact ⟨⟨hsingle, hlist, hlistSingle, hlistRaw, hsingleRaw⟩,
      ⟨Ne.symm hsingle, Ne.symm hlist, Ne.symm hsingleList, Ne.symm hrawList, Ne.symm hrawSingle⟩⟩
  · rintro ⟨h, h'⟩
    exact ⟨⟨h.list, h.listSingle, h.listRaw⟩, ⟨Ne.symm h'.listSingle, h.single, h.singleRaw⟩,
      Ne.symm h'.listRaw, Ne.symm h'.singleRaw, h.single⟩

end Names

end ClassInfo

/-! ## Types that are named as the root -/

/-- Where the values of the fields of an object type come from. -/
def TypeDefinition.resolvers : TypeDefinition → List Resolver
  | object type => type.fields.map FieldDefinition.resolver
  | _ => []

/-- No type of a class answers the query for anything with a global id. -/
theorem ClassInfo.node_notMem_resolvers (c : ClassInfo) (registry : Registry) :
    ∀ entry ∈ c.types, Resolver.node registry ∉ entry.2.resolvers := by
  refine forall_types (P := fun type => Resolver.node registry ∉ type.resolvers)
    ?object ?connection ?edge ?fieldFilter ?filter ?order ?input ?payload
  case object =>
    intro hmem
    rw [objectType, TypeDefinition.resolvers, List.map_append, List.mem_append,
      List.map_map] at hmem
    rcases hmem with hfield | hsystem
    · obtain ⟨f, -, hresolver⟩ := List.mem_map.mp hfield
      simp only [Function.comp_apply, ClassField.definition, ClassField.resolver] at hresolver
      split at hresolver <;> cases hresolver
    · simp [systemFields, FieldDefinition.plain] at hsystem
  case connection => simp [connectionType, TypeDefinition.resolvers, FieldDefinition.plain]
  case edge => simp [edgeType, TypeDefinition.resolvers, FieldDefinition.plain]
  case fieldFilter => exact fun f => List.not_mem_nil
  case filter => exact List.not_mem_nil
  case order => exact List.not_mem_nil
  case input => exact fun kind => List.not_mem_nil
  case payload =>
    intro kind
    cases kind <;> simp [mutationPayload, payloadField, listField, TypeDefinition.resolvers,
      FieldDefinition.plain]

namespace Registry

/-- No type of a project answers that query, so a type that takes the place of the root lacks it. -/
theorem node_notMem_resolvers {r : Registry} {version : Int} {name : String} {type : TypeDefinition}
    (h : Fields.get? (Schema.collectTypes [.classes r version, .files, .project]) name = some type)
    (registry : Registry) : Resolver.node registry ∉ type.resolvers := by
  have hfixed : ∀ entry ∈ Schema.baseTypes ++ (Domain.files.types ++ Domain.project.types),
      Resolver.node registry ∉ entry.2.resolvers := by
    simp [Schema.baseTypes, Schema.pageInfo, Domain.files, Domain.fileType, connectionTypes,
      connectionType, edgeType, Domain.project, Domain.projectType, Domain.projectClassesType,
      TypeDefinition.resolvers, FieldDefinition.plain]
  rw [collectTypes_eq, Fields.get?_addMissing] at h
  rcases List.mem_append.mp (Fields.mem_of_get? h) with hbase | hmem
  · exact hfixed _ (List.mem_append_left _ hbase)
  rcases List.mem_append.mp hmem with hclass | hothers
  · obtain ⟨c, -, hentry⟩ := List.mem_flatMap.mp hclass
    exact c.node_notMem_resolvers registry _ hentry
  · exact hfixed _ (List.mem_append_right _ hothers)

/-! ## The queries of a registry -/

/-- Whether the names of the classes and their plurals keep all queries of the classes apart. -/
structure QueriesApart (r : Registry) : Prop where
  /-- Classes leave the names of one another free. -/
  classes : ∀ c ∈ r.classes, ∀ other ∈ r.classes, c ≠ other → c.QueriesApart other
  /-- No list is named as the stored data of the same class. -/
  raw : ∀ c ∈ r.classes, c.listQueryName ≠ c.singleQueryName ++ "Raw"
  /-- No query is named as the one for anything with a global id. -/
  node : ∀ c ∈ r.classes, c.LeavesFree "node"

/-- The queries of all parts of a project, in the order in which they are merged. -/
def allQueries (r : Registry) (version : Int) : List FieldDefinition :=
  ([.classes r version, .files, .project] : List Domain).flatMap Domain.queries

theorem allQueries_eq (r : Registry) (version : Int) :
    r.allQueries version = (Domain.classes r version).queries ++
      (Domain.files.queries ++ Domain.project.queries) := by
  rw [allQueries, List.flatMap_cons, List.flatMap_cons, List.flatMap_singleton]

theorem map_name_queries (r : Registry) (version : Int) :
    (Domain.classes r version).queries.map FieldDefinition.name =
      r.classes.flatMap ClassInfo.queryNames ++ ["node"] := by
  rw [Domain.classes, List.map_append, List.map_flatMap]
  rfl

/-- No query of the classes has a name that they all leave free. -/
theorem notMem_queryNames_iff {r : Registry} {name : String} (h : ¬ "Raw".toList <:+ name.toList) :
    name ∉ r.classes.flatMap ClassInfo.queryNames ↔ ∀ c ∈ r.classes, c.LeavesFree name := by
  rw [List.mem_flatMap, not_exists]
  simp only [not_and]
  exact forall₂_congr fun c _ => ClassInfo.notMem_queryNames_iff h

section Accepted

variable {definitions : List ClassDefinition} {r : Registry} {c : ClassInfo}

theorem singleQueryName_ne (h : ofDefinitions definitions = .ok r) (hc : c ∈ r.classes) :
    c.singleQueryName ≠ c.listQueryName := by
  obtain ⟨d, -, hclass⟩ := exists_of_forall₂ (ofDefinitions_eq_ok_iff.mp h).2 hc
  exact (resolveClass_eq_ok_iff.mp hclass).2

/-- Queries differ in where their values come from, whatever they are named. -/
theorem nodup_allQueries (h : ofDefinitions definitions = .ok r) (version : Int) :
    (r.allQueries version).Nodup := by
  have hresolvers : (r.allQueries version).map FieldDefinition.resolver =
      r.classes.flatMap (fun c => [.page c, .single c, .raw c]) ++ [.node r, .file, .project] := by
    rw [allQueries_eq, Domain.classes, List.map_append, List.map_append, List.map_flatMap,
      List.append_assoc]
    rfl
  refine List.Nodup.of_map FieldDefinition.resolver ?_
  rw [hresolvers, List.nodup_append', nodup_flatMap_iff (nodup_classes h)]
  refine ⟨⟨fun c _ => by simp, fun c _ other _ hne => ?_⟩, by simp, ?_⟩
  · simpa [List.disjoint_cons_left, eq_comm] using hne
  · intro resolver hclass hothers
    obtain ⟨c, -, hmem⟩ := List.mem_flatMap.mp hclass
    simp only [List.mem_cons, List.not_mem_nil, or_false] at hmem hothers
    rcases hmem with rfl | rfl | rfl <;> simp at hothers

theorem nodup_names_queries_iff (h : ofDefinitions definitions = .ok r) (version : Int) :
    ((Domain.classes r version).queries.map FieldDefinition.name).Nodup ↔ r.QueriesApart := by
  have hown : (∀ c ∈ r.classes, c.queryNames.Nodup) ↔
      ∀ c ∈ r.classes, c.listQueryName ≠ c.singleQueryName ++ "Raw" :=
    forall₂_congr fun c hc => ClassInfo.nodup_queryNames_iff (singleQueryName_ne h hc)
  rw [map_name_queries, List.nodup_append', nodup_flatMap_iff (nodup_classes h), hown,
    List.disjoint_singleton, notMem_queryNames_iff (by decide)]
  constructor
  · rintro ⟨⟨hraw, hclasses⟩, -, hfree⟩
    exact ⟨fun c hc other hother hne => (ClassInfo.disjoint_queryNames_iff.mp
      (hclasses c hc other hother hne)).1, hraw, hfree⟩
  · rintro ⟨hclasses, hraw, hfree⟩
    refine ⟨⟨hraw, fun c hc other hother hne => ?_⟩, List.nodup_singleton _, hfree⟩
    exact ClassInfo.disjoint_queryNames_iff.mpr ⟨hclasses c hc other hother hne,
      hclasses other hother c hc (Ne.symm hne)⟩

/-- Of the queries that come behind those of the classes, the one for the project has a character
that no other one has. -/
theorem disjoint_names_queries_iff (r : Registry) (version : Int) :
    ((Domain.classes r version).queries.map FieldDefinition.name).Disjoint
        ((Domain.files.queries ++ Domain.project.queries).map FieldDefinition.name) ↔
      ∀ c ∈ r.classes, c.LeavesFree "file" := by
  have hothers : (Domain.files.queries ++ Domain.project.queries).map FieldDefinition.name =
      ["file", "_project"] := rfl
  have hproject : "_project" ∉ r.classes.flatMap ClassInfo.queryNames := by
    intro hmem
    obtain ⟨c, -, hname⟩ := List.mem_flatMap.mp hmem
    exact absurd (ClassInfo.allAlphanum_of_mem_queryNames hname '_' (by decide)) (by decide)
  rw [hothers, map_name_queries, List.disjoint_append_left, List.disjoint_cons_right,
    List.disjoint_singleton, notMem_queryNames_iff (by decide)]
  exact ⟨fun h => h.1.1, fun h => ⟨⟨h, hproject⟩, List.singleton_disjoint.mpr (by decide)⟩⟩

/-- The queries of the classes are all found among the merged ones when they are kept apart from one
another and from the query for files, which comes behind them. -/
theorem find?_mergeRoot_iff (h : ofDefinitions definitions = .ok r) (version : Int) :
    (∀ f ∈ (Domain.classes r version).queries,
        (Schema.mergeRoot (r.allQueries version)).find? (fun g => g.name = f.name) = some f) ↔
      r.QueriesApart ∧ ∀ c ∈ r.classes, c.LeavesFree "file" := by
  have hnodup := nodup_allQueries h version
  rw [allQueries_eq] at hnodup ⊢
  rw [Schema.find?_mergeRoot_front_iff hnodup, nodup_names_queries_iff h,
    disjoint_names_queries_iff]

/-- What can have the name of the root is a class. -/
theorem queryRoot_mem_iff (r : Registry) (version : Int) :
    Schema.queryRoot ∈ Fields.names (Schema.collectTypes [.classes r version, .files, .project]) ↔
      ∃ c ∈ r.classes, Schema.queryRoot = c.name := by
  have hfixed : Schema.queryRoot ∉ Fields.names Schema.baseTypes ∧
      Schema.queryRoot ∉ Fields.names Domain.files.types ∧
      Schema.queryRoot ∉ Fields.names Domain.project.types := by decide
  have hcapital : Naming.IsCapitalised Schema.queryRoot := Naming.isCapitalised_of_all (by decide)
  have hclasses : Schema.queryRoot ∈ Fields.names (Domain.classes r version).types ↔
      ∃ c ∈ r.classes, Schema.queryRoot = c.name :=
    mem_names_classes_iff hcapital (by decide) (by decide)
  rw [mem_names_collectTypes, ← hclasses]
  simp only [List.mem_cons, List.not_mem_nil, or_false, exists_eq_or_imp, exists_eq_left, hfixed.1,
    hfixed.2.1, hfixed.2.2, false_or, or_false]

end Accepted

/-- The queries of accepted classes have different names exactly when the names of the classes and
their plurals keep them apart. None of them is lost in the root exactly when, moreover, none is
named as the query for files. In a schema that is put together they are found exactly when, besides,
no class is named as the root. -/
theorem queriesKept_iff {json : Json} {r : Registry} (h : Registry.ofJson json = .ok r)
    (version : Int) :
    (((Domain.classes r version).queries.map FieldDefinition.name).Nodup ↔ r.QueriesApart) ∧
    ((∀ f ∈ (Domain.classes r version).queries,
        (Schema.mergeRoot (r.allQueries version)).find? (fun g => g.name = f.name) = some f) ↔
      r.QueriesApart ∧ ∀ c ∈ r.classes, c.LeavesFree "file") ∧
    ∀ schema, Schema.assemble [.classes r version, .files, .project] = .ok schema →
      ((∀ f ∈ (Domain.classes r version).queries,
          (schema.object? Schema.queryRoot).bind (fun type => type.field? f.name) = some f) ↔
        (r.QueriesApart ∧ ∀ c ∈ r.classes, c.LeavesFree "file") ∧
        ∀ c ∈ r.classes, c.name ≠ Schema.queryRoot) := by
  obtain ⟨definitions, -, hr⟩ := ofJson_eq_ok h
  refine ⟨nodup_names_queries_iff hr version, find?_mergeRoot_iff hr version,
    fun schema hschema => ?_⟩
  have htype := Schema.type?_queryRoot hschema
  by_cases hnamed : ∃ c ∈ r.classes, Schema.queryRoot = c.name
  · -- the type of a class takes the place of the root, and lacks the query for anything with an id
    obtain ⟨type, hget⟩ :=
      Fields.exists_get?_of_mem_names ((queryRoot_mem_iff r version).mpr hnamed)
    rw [hget, Option.some_or] at htype
    refine iff_of_false (fun hfound => ?_) fun hfree => ?_
    · have hnode :=
        hfound (Domain.nodeField r) (List.mem_append_right _ (List.mem_singleton_self _))
      obtain ⟨object, hobject, hfield⟩ := Option.bind_eq_some_iff.mp hnode
      rw [Schema.object?, htype] at hobject
      cases type with
      | object members =>
        cases hobject
        exact node_notMem_resolvers hget r (List.mem_map_of_mem (List.mem_of_find?_eq_some hfield))
      | _ => cases hobject
    · obtain ⟨c, hc, hname⟩ := hnamed
      exact hfree.2 c hc hname.symm
  · have hfree : ∀ c ∈ r.classes, c.name ≠ Schema.queryRoot :=
      fun c hc he => hnamed ⟨c, hc, he.symm⟩
    have hroot : schema.object? Schema.queryRoot =
        some { description := none, fields := Schema.mergeRoot (r.allQueries version),
               interfaces := [] } := by
      rw [Schema.object?, htype,
        Fields.get?_eq_none fun hmem => hnamed ((queryRoot_mem_iff r version).mp hmem)]
      rfl
    rw [hroot, ← find?_mergeRoot_iff hr version, and_iff_left hfree]
    rfl

/-- The queries of posts and pages are found in their schema. -/
theorem queriesKept_iff_posts :
    Registry.ofJson (Sample.titledJson [("post", "posts"), ("page", "pages")]) =
      .ok Sample.postsAndPages ∧
    ((Domain.classes Sample.postsAndPages 1).queries.map FieldDefinition.name).Nodup ∧
    ∃ schema, Schema.assemble [.classes Sample.postsAndPages 1, .files, .project] = .ok schema ∧
      ∀ f ∈ (Domain.classes Sample.postsAndPages 1).queries,
        (schema.object? Schema.queryRoot).bind (fun type => type.field? f.name) = some f := by
  have haccepted : Registry.ofJson (Sample.titledJson [("post", "posts"), ("page", "pages")]) =
      .ok Sample.postsAndPages := eq_ok_of_classes (by decide +kernel)
  have hassembled :
      (Schema.assemble [.classes Sample.postsAndPages 1, .files, .project]).toOption.isSome =
          true := by
    unfold Schema.assemble
    simp only [Schema.sortByName_eq_insertionSort]
    decide +kernel
  obtain ⟨hnames, -, hfound⟩ := queriesKept_iff haccepted 1
  have hnodup : ((Domain.classes Sample.postsAndPages 1).queries.map FieldDefinition.name).Nodup :=
    by decide +kernel
  have hfile : ∀ c ∈ Sample.postsAndPages.classes, c.listQueryName ≠ "file" ∧
      c.singleQueryName ≠ "file" := by
    decide +kernel
  have hroot : ∀ c ∈ Sample.postsAndPages.classes, c.name ≠ Schema.queryRoot := by decide
  refine ⟨haccepted, hnodup, ?_⟩
  cases hschema : Schema.assemble [.classes Sample.postsAndPages 1, .files, .project] with
  | error e =>
    rw [hschema] at hassembled
    cases hassembled
  | ok schema => exact ⟨schema, rfl, (hfound schema hschema).mpr ⟨⟨hnames.mp hnodup, hfile⟩, hroot⟩⟩

end Registry

namespace Sample

/-- Definitions of classes with a name, under their default plurals. -/
def namedJson (classes : List String) : Json :=
  .object (classes.map fun name => (name, .object [("name", .string "string")]))

/-- A class with a name. -/
def named (name : String) : ClassInfo :=
  ⟨name, none, [⟨"name", .scalar .string, false, none⟩]⟩

end Sample

namespace Registry

/-- The list of the one class and the single object of the other are asked for by the same name, and
the list is lost. -/
theorem exists_query_lost :
    Registry.ofJson (Sample.namedJson ["user", "users"]) =
      .ok ⟨[Sample.named "User", Sample.named "Users"]⟩ ∧
    ¬ ((Domain.classes ⟨[Sample.named "User", Sample.named "Users"]⟩ 1).queries.map
      FieldDefinition.name).Nodup ∧
    ((Schema.mergeRoot (allQueries ⟨[Sample.named "User", Sample.named "Users"]⟩ 1)).find?
        fun f => f.name = (Sample.named "User").listField.name).map FieldDefinition.type =
          some (.named "Users") ∧
    (Sample.named "User").listField.type = .named "UserConnection" :=
  ⟨eq_ok_of_classes (by decide +kernel), by decide +kernel, by decide +kernel, rfl⟩

end Registry

end ClassApi
