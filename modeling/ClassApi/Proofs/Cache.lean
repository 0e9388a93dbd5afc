import ClassApi.Proofs.Compilation
import ClassApi.Proofs.Fields

/-!
# The cache of schemas

A kept schema is used as long as the hash of the project stays the same. The hash covers the
definitions, so a kept schema is what compiling would give now provided that the version is the same
as well: the version is part of the schema, as what is stamped on records, but no part of the hash.
So a service with a cache answers as one without a cache does if no project gets another version
while its definitions stay.
-/

namespace ClassApi

/-- A request of a project. -/
structure Served where
  /-- The project. -/
  project : Project
  /-- The request. -/
  request : Request

/-- Whether projects are told apart by hashes of their definitions. -/
structure HashDefinitions (history : List Served) : Prop where
  /-- No project brings a hash of its own. -/
  hashless : ∀ served ∈ history, served.project.hash = none
  /-- Different definitions have different hashes. -/
  distinct : ∀ a ∈ history, ∀ b ∈ history,
    Sha256.ofText a.project.definitions.compact = Sha256.ofText b.project.definitions.compact →
    a.project.definitions = b.project.definitions

/-- Among such projects, those with the same hash are those with the same definitions. -/
theorem HashDefinitions.schemaHash_eq_iff {history : List Served} (h : HashDefinitions history)
    {a b : Served} (ha : a ∈ history) (hb : b ∈ history) :
    a.project.schemaHash = b.project.schemaHash ↔
      a.project.definitions = b.project.definitions := by
  rw [Project.schemaHash, Project.schemaHash, h.hashless a ha, h.hashless b hb]
  exact ⟨h.distinct a ha b hb, fun hsame => by rw [hsame]⟩

/-- Whether no project gets another version while its definitions stay. -/
def KeepVersions (history : List Served) : Prop :=
  ∀ a ∈ history, ∀ b ∈ history, a.project.id = b.project.id →
    a.project.definitions = b.project.definitions →
    a.project.version = b.project.version

namespace SchemaCache

theorem current?_eq_some {cache : SchemaCache} {tenant hash : String} {build : Build} :
    cache.current? tenant hash = some build ↔
      cache.get? tenant = some build ∧ build.compiled.hash = hash := by
  rw [current?]
  cases cache.get? tenant with
  | none => simp
  | some kept =>
    show (if kept.compiled.hash = hash then some kept else none) = some build ↔ _
    rw [Option.ite_none_right_eq_some]
    constructor
    · rintro ⟨hhash, h⟩
      cases h
      exact ⟨rfl, hhash⟩
    · rintro ⟨h, hhash⟩
      cases h
      exact ⟨hhash, rfl⟩

section GetOrBuild

variable {cache : SchemaCache} {tenant hash : String}
  {compile : Unit → Except ApiError CompiledSchema}

theorem getOrBuild_of_current {build : Build} (h : cache.current? tenant hash = some build)
    (compile : Unit → Except ApiError CompiledSchema) :
    cache.getOrBuild tenant hash compile = (.ok build, cache) := by
  rw [getOrBuild, h]

theorem getOrBuild_of_error (h : cache.current? tenant hash = none) {e : ApiError}
    (he : compile () = .error e) : cache.getOrBuild tenant hash compile = (.error e, cache) := by
  rw [getOrBuild, h]
  simp only [buildOnce, he]

/-- What is compiled for a hash and has it is kept, as no schema has the hash when it is
published. -/
theorem getOrBuild_of_ok (h : cache.current? tenant hash = none) {compiled : CompiledSchema}
    (hcompiled : compile () = .ok compiled) (hhash : compiled.hash = hash) :
    cache.getOrBuild tenant hash compile = (.ok ⟨cache.builds + 1, compiled⟩,
      ⟨Fields.insert cache.slots tenant ⟨cache.builds + 1, compiled⟩, cache.builds + 1⟩) := by
  have hagain : current? ⟨cache.slots, cache.builds + 1⟩ tenant compiled.hash = none := by
    rw [hhash]
    exact h
  rw [getOrBuild, h]
  simp only [buildOnce, hcompiled, publish, hagain]

end GetOrBuild

/-- Whether every schema that is kept for a project was compiled from one of some with its id. -/
def From (cache : SchemaCache) (history : List Served) : Prop :=
  ∀ tenant build, cache.get? tenant = some build →
    ∃ served ∈ history, served.project.id = tenant ∧
      CompiledSchema.ofProject served.project = .ok build.compiled

theorem from_empty (history : List Served) : empty.From history :=
  fun _ _ h => by cases h

theorem From.insert {cache : SchemaCache} {history : List Served} (h : cache.From history)
    {served : Served} (hserved : served ∈ history) {build : Build}
    (hbuild : CompiledSchema.ofProject served.project = .ok build.compiled) (builds : Nat) :
    From ⟨Fields.insert cache.slots served.project.id build, builds⟩ history := by
  intro tenant kept hkept
  rw [get?, Fields.get?_insert] at hkept
  split at hkept
  · rename_i htenant
    cases hkept
    exact ⟨served, hserved, htenant.symm, hbuild⟩
  · exact h tenant kept hkept

end SchemaCache

namespace Service

variable {service : Service} {project : Project}

/-- A schema that is kept is used when it has the hash of the project. -/
theorem schemaFor_of_current (hcaching : service.caching = true) {build : Build}
    (h : service.cache.current? project.id project.schemaHash = some build) :
    service.schemaFor project = (.ok build, service) := by
  rw [schemaFor, if_pos hcaching, SchemaCache.getOrBuild_of_current h]

/-- A schema that is not kept is compiled and kept. -/
theorem schemaFor_of_missing (hcaching : service.caching = true)
    (h : service.cache.current? project.id project.schemaHash = none) {compiled : CompiledSchema}
    (hcompiled : CompiledSchema.ofProject project = .ok compiled) :
    service.schemaFor project = (.ok ⟨service.cache.builds + 1, compiled⟩,
      { service with
        cache :=
          ⟨Fields.insert service.cache.slots project.id ⟨service.cache.builds + 1, compiled⟩,
            service.cache.builds + 1⟩ }) := by
  have hhash := CompiledSchema.hash_of_ofProject hcompiled
  rw [schemaFor, if_pos hcaching, SchemaCache.getOrBuild_of_ok h hcompiled hhash]

/-- A schema that cannot be compiled is not kept. -/
theorem schemaFor_of_error (hcaching : service.caching = true)
    (h : service.cache.current? project.id project.schemaHash = none) {e : ApiError}
    (he : CompiledSchema.ofProject project = .error e) :
    service.schemaFor project = (.error e, service) := by
  rw [schemaFor, if_pos hcaching, SchemaCache.getOrBuild_of_error h he]

/-- The schema that a request is executed against. -/
def schemaOf (service : Service) (project : Project) : Except ApiError Schema :=
  (service.schemaFor project).1.map fun build => build.compiled.schema

theorem schemaOf_uncached (h : service.caching = false) (project : Project) :
    service.schemaOf project = (CompiledSchema.ofProject project).map CompiledSchema.schema := by
  rw [schemaOf, schemaFor, if_neg (by rw [h]; exact Bool.false_ne_true), SchemaCache.buildOnce]
  cases CompiledSchema.ofProject project with
  | error e => rfl
  | ok compiled => rfl

/-- The answer to a request is that of its schema. -/
theorem answer_execute (service : Service) (project : Project) (s : Store) (request : Request) :
    (service.execute project s request).1 =
      (service.schemaOf project).map fun schema => (request.execute schema project s).1 := by
  rw [execute_eq, schemaOf]
  cases (service.schemaFor project).1 with
  | error e => rfl
  | ok build => rfl

/-- The store after a request is the one that its schema leaves. -/
theorem store_execute (service : Service) (project : Project) (s : Store) (request : Request) :
    (service.execute project s request).2.2 =
      match service.schemaOf project with
      | .error _ => s
      | .ok schema => (request.execute schema project s).2 := by
  rw [execute_eq, schemaOf]
  cases (service.schemaFor project).1 with
  | error e => rfl
  | ok build => rfl

theorem service_execute (service : Service) (project : Project) (s : Store) (request : Request) :
    (service.execute project s request).2.1 = (service.schemaFor project).2 := by
  rw [execute_eq]
  cases (service.schemaFor project).1 with
  | error e => rfl
  | ok build => rfl

/-- With a cache of schemas of earlier projects, the schema of a project is what one of these
compiles to, one with its id and its definitions, whatever its version; and what is kept afterwards
are such schemas as well. -/
theorem schemaOf_of_from {history : List Served} (hhash : HashDefinitions history)
    (hcaching : service.caching = true) (hfrom : service.cache.From history) {served : Served}
    (hserved : served ∈ history) :
    (∃ earlier ∈ history, earlier.project.id = served.project.id ∧
      earlier.project.definitions = served.project.definitions ∧
      service.schemaOf served.project =
        (CompiledSchema.ofProject earlier.project).map CompiledSchema.schema) ∧
    (service.schemaFor served.project).2.caching = true ∧
    (service.schemaFor served.project).2.cache.From history := by
  cases hcurrent : service.cache.current? served.project.id served.project.schemaHash with
  | some build =>
    obtain ⟨hget, hbuild⟩ := SchemaCache.current?_eq_some.mp hcurrent
    obtain ⟨earlier, hearlier, hid, hcompiled⟩ := hfrom _ _ hget
    have hsame : earlier.project.schemaHash = served.project.schemaHash :=
      (CompiledSchema.hash_of_ofProject hcompiled).symm.trans hbuild
    have hdefinitions := (hhash.schemaHash_eq_iff hearlier hserved).mp hsame
    rw [schemaOf, schemaFor_of_current hcaching hcurrent]
    exact ⟨⟨earlier, hearlier, hid, hdefinitions, by rw [hcompiled]; rfl⟩, hcaching, hfrom⟩
  | none =>
    cases hcompiled : CompiledSchema.ofProject served.project with
    | error e =>
      rw [schemaOf, schemaFor_of_error hcaching hcurrent hcompiled]
      exact ⟨⟨served, hserved, rfl, rfl, by rw [hcompiled]; rfl⟩, hcaching, hfrom⟩
    | ok compiled =>
      rw [schemaOf, schemaFor_of_missing hcaching hcurrent hcompiled]
      exact ⟨⟨served, hserved, rfl, rfl, by rw [hcompiled]; rfl⟩, hcaching,
        hfrom.insert hserved hcompiled _⟩

/-- If versions are kept as well, the schema of a project is what it compiles to itself. -/
theorem schemaOf_cached {history : List Served} (hhash : HashDefinitions history)
    (hversions : KeepVersions history) (hcaching : service.caching = true)
    (hfrom : service.cache.From history) {served : Served} (hserved : served ∈ history) :
    service.schemaOf served.project =
      (CompiledSchema.ofProject served.project).map CompiledSchema.schema := by
  obtain ⟨⟨earlier, hearlier, hid, hdefinitions, hschema⟩, -⟩ :=
    schemaOf_of_from hhash hcaching hfrom hserved
  have hversion := hversions _ hearlier _ hserved hid hdefinitions
  have hsame := (hhash.schemaHash_eq_iff hearlier hserved).mpr hdefinitions
  rw [hschema, CompiledSchema.ofProject_congr hdefinitions hversion hsame]

/-- The answers to requests one after another, and the store they leave. -/
def serve (service : Service) (s : Store) : List Served → List (Except ApiError Response) × Store
  | [] => ([], s)
  | served :: rest =>
    let (result, service, s) := service.execute served.project s served.request
    let (results, s) := service.serve s rest
    (result :: results, s)

theorem serve_cons (service : Service) (s : Store) (served : Served) (rest : List Served) :
    service.serve s (served :: rest) =
      let executed := service.execute served.project s served.request
      (executed.1 :: (executed.2.1.serve executed.2.2 rest).1,
        (executed.2.1.serve executed.2.2 rest).2) := rfl

/-- With a cache of schemas of earlier projects, requests are answered as they are without a
cache. -/
theorem serve_cached {history : List Served} (hhash : HashDefinitions history)
    (hversions : KeepVersions history) {requests : List Served}
    (hrequests : ∀ served ∈ requests, served ∈ history) {cached uncached : Service}
    (hcaching : cached.caching = true) (hfrom : cached.cache.From history)
    (hnone : uncached.caching = false) (s : Store) :
    cached.serve s requests = uncached.serve s requests := by
  induction requests generalizing cached uncached s with
  | nil => rfl
  | cons served rest ih =>
    have hserved := hrequests served List.mem_cons_self
    obtain ⟨-, hcaching', hfrom'⟩ := schemaOf_of_from hhash hcaching hfrom hserved
    have hsame : cached.schemaOf served.project = uncached.schemaOf served.project :=
      (schemaOf_cached hhash hversions hcaching hfrom hserved).trans
        (schemaOf_uncached hnone served.project).symm
    have hnone' : (uncached.schemaFor served.project).2.caching = false := by
      rw [schemaFor, if_neg (by rw [hnone]; exact Bool.false_ne_true)]
      exact hnone
    have hrest :=
      ih (fun later hm => hrequests later (List.mem_cons_of_mem _ hm)) hcaching' hfrom' hnone'
      (cached.execute served.project s served.request).2.2
    rw [serve_cons, serve_cons]
    simp only [service_execute]
    rw [hrest, answer_execute, store_execute, answer_execute, store_execute, hsame]

/-- The cache cannot be noticed if hashes tell definitions apart and versions are kept. -/
theorem serve_eq_serve_uncached {history : List Served} (hhash : HashDefinitions history)
    (hversions : KeepVersions history) (s : Store) :
    (start true).serve s history = (start false).serve s history :=
  serve_cached hhash hversions (fun _ h => h) rfl (SchemaCache.from_empty history) rfl s

end Service

namespace Sample

/-- Asks for a user of a version of the project. -/
def served (version : Int) : Served :=
  ⟨project version, creation true⟩

/-- The versions of the users. -/
def versions (s : Store) : List (Option Int) :=
  (s.documents "User").map fun doc => StoredRecord.readVersion (Fields.get? doc "_classVersion")

theorem hashDefinitions_served (numbers : List Int) : HashDefinitions (numbers.map served) where
  hashless _ hm := by
    obtain ⟨version, -, rfl⟩ := List.mem_map.mp hm
    rfl
  distinct _ ha _ hb _ := by
    obtain ⟨version, -, rfl⟩ := List.mem_map.mp ha
    obtain ⟨version', -, rfl⟩ := List.mem_map.mp hb
    rfl

/-- The store after a user is asked for by one schema and then by another. -/
def afterBoth (first second : Schema) : Store :=
  ((creation true).execute second (project 2) ((creation true).execute first (project 1) empty).2).2

theorem versions_afterBoth :
    ((CompiledSchema.ofProject (project 1)).toOption.any fun first =>
      (CompiledSchema.ofProject (project 2)).toOption.any fun second =>
        versions (afterBoth first.schema first.schema) = [some 1, some 1]
          && versions (afterBoth first.schema second.schema) = [some 1, some 2]) = true := by
  unfold CompiledSchema.ofProject CompiledSchema.assemble Schema.assemble
  simp only [Schema.sortByName_eq_insertionSort]
  decide +kernel

theorem exists_compiled :
    ∃ first second, CompiledSchema.ofProject (project 1) = .ok first ∧
      CompiledSchema.ofProject (project 2) = .ok second ∧
      versions (afterBoth first.schema first.schema) = [some 1, some 1] ∧
      versions (afterBoth first.schema second.schema) = [some 1, some 2] := by
  have h := versions_afterBoth
  cases hfirst : CompiledSchema.ofProject (project 1) with
  | error e =>
    rw [hfirst] at h
    cases h
  | ok first =>
    cases hsecond : CompiledSchema.ofProject (project 2) with
    | error e =>
      rw [hfirst, hsecond] at h
      cases h
    | ok second =>
      rw [hfirst, hsecond] at h
      obtain ⟨hcached, huncached⟩ := Bool.and_eq_true_iff.mp h
      exact ⟨first, second, rfl, rfl, of_decide_eq_true hcached, of_decide_eq_true huncached⟩

end Sample

namespace Service

/-- Two users are asked for, of the same version. -/
theorem serve_eq_serve_uncached_twice :
    (HashDefinitions (([1, 1] : List Int).map Sample.served) ∧
      KeepVersions (([1, 1] : List Int).map Sample.served)) ∧
    (start true).serve Sample.empty (([1, 1] : List Int).map Sample.served) =
      (start false).serve Sample.empty (([1, 1] : List Int).map Sample.served) := by
  have hhash := Sample.hashDefinitions_served [1, 1]
  have hversions : KeepVersions (([1, 1] : List Int).map Sample.served) := by
    have hone : ∀ served ∈ ([1, 1] : List Int).map Sample.served, served = Sample.served 1 := by
      simp
    intro a ha b hb _ _
    rw [hone a ha, hone b hb]
  exact ⟨⟨hhash, hversions⟩, serve_eq_serve_uncached hhash hversions Sample.empty⟩

theorem store_serve_pair (service : Service) (s : Store) (a b : Served) :
    (service.serve s [a, b]).2 =
      ((service.execute a.project s a.request).2.1.execute b.project
        (service.execute a.project s a.request).2.2 b.request).2.2 := rfl

/-- A project gets another version, its definitions stay: records are still stamped with the earlier
version. -/
theorem exists_stale_version :
    HashDefinitions (([1, 2] : List Int).map Sample.served) ∧
    Sample.versions ((start true).serve Sample.empty (([1, 2] : List Int).map Sample.served)).2 =
      [some 1, some 1] ∧
    Sample.versions ((start false).serve Sample.empty (([1, 2] : List Int).map Sample.served)).2 =
      [some 1, some 2] := by
  obtain ⟨first, second, hfirst, hsecond, hcached, huncached⟩ := Sample.exists_compiled
  refine ⟨Sample.hashDefinitions_served _, ?_, ?_⟩
  · have hmissing :
        (start true).cache.current? (Sample.project 1).id (Sample.project 1).schemaHash =
          none := rfl
    have hbuilt := schemaFor_of_missing rfl hmissing hfirst
    have hsame : (Sample.project 1).schemaHash = (Sample.project 2).schemaHash := rfl
    have hkept : ((start true).schemaFor (Sample.project 1)).2.cache.current? (Sample.project 2).id
        (Sample.project 2).schemaHash = some ⟨1, first⟩ := by
      rw [hbuilt]
      exact SchemaCache.current?_eq_some.mpr
        ⟨Fields.get?_insert_self _ _ _, (CompiledSchema.hash_of_ofProject hfirst).trans hsame⟩
    have hfirstSchema : (start true).schemaOf (Sample.served 1).project = .ok first.schema := by
      rw [schemaOf, Sample.served, hbuilt]
      rfl
    have hsecondSchema :
        ((start true).schemaFor (Sample.served 1).project).2.schemaOf (Sample.served 2).project =
        .ok first.schema := by
      rw [schemaOf, Sample.served, Sample.served, schemaFor_of_current (by rw [hbuilt]; rfl) hkept]
      rfl
    rw [List.map_cons, List.map_singleton, store_serve_pair, store_execute, store_execute,
      service_execute]
    simp only [hfirstSchema, hsecondSchema]
    exact hcached
  · rw [List.map_cons, List.map_singleton, store_serve_pair, store_execute, store_execute,
      service_execute]
    have hfirstSchema : (start false).schemaOf (Sample.served 1).project = .ok first.schema := by
      rw [schemaOf_uncached rfl, Sample.served, hfirst]
      rfl
    have hsecondSchema :
        ((start false).schemaFor (Sample.served 1).project).2.schemaOf (Sample.served 2).project =
        .ok second.schema := by
      rw [schemaOf_uncached rfl, Sample.served, hsecond]
      rfl
    simp only [hfirstSchema, hsecondSchema]
    exact huncached

end Service

end ClassApi
