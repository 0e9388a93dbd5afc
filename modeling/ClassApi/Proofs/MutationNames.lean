import ClassApi.Proofs.QueryNames
import Mathlib.Data.List.Perm.Basic

/-!
# Mutations of one name

Every class has five mutations, and each of them has a type for its input and one for its result.
The names are put together around the name of the class, so none is lost: the verb in front tells
the kind, what is left tells the class, and the ending tells the two types of a mutation apart.
Unlike queries, mutations do not depend on plurals, and no other part of a project has any.
-/

namespace ClassApi

/-! ## The mutations of a class -/

/-- Whether a field performs a mutation of a class when mutations are allowed. -/
def FieldDefinition.Performs (f : FieldDefinition) (kind : MutationKind) (c : ClassInfo)
    (version : Int) : Prop :=
  ∀ (context : RequestContext) s source args, context.allowMutation = true →
    f.resolver.run context s source args =
      ((Mutation.run kind s c version (inputOf args)).1.map
        fun payload => some (.object (.payload payload)),
        (Mutation.run kind s c version (inputOf args)).2)

namespace ClassInfo

theorem performs_mutationField (c : ClassInfo) (version : Int) (kind : MutationKind) :
    (c.mutationField version kind).Performs kind c version := by
  intro context s source args hallow
  simp only [mutationField, Resolver.run, hallow]

/-- The names of the types that belong to no mutation: the object type, the list types, the filters,
and the order. -/
def otherNames (c : ClassInfo) : List String :=
  c.objectNames ++ c.filterNames ++ [c.orderTypeName]

theorem otherNames_append (c : ClassInfo) :
    c.otherNames ++ c.mutationNames = Fields.names c.types := by
  rw [names_types, otherNames, inputNames, List.append_assoc, List.append_assoc,
    List.singleton_append]

theorem disjoint_otherNames {other : ClassInfo} (h : Naming.IsCapitalised other.name)
    (c : ClassInfo) : c.mutationNames.Disjoint other.otherNames := by
  intro name hname hother
  rcases List.mem_append.mp hother with hmem | horder
  · rcases List.mem_append.mp hmem with hobject | hfilter
    · exact disjoint_objectNames h c hobject
        (List.mem_append_right _ (List.mem_cons_of_mem _ hname))
    · exact disjoint_filterNames other c hfilter (List.mem_cons_of_mem _ hname)
  · obtain rfl := List.mem_singleton.mp horder
    exact orderTypeName_notMem other c hname

end ClassInfo

/-! ## The mutations of a registry -/

namespace Schema

variable {fields : List FieldDefinition}

/-- Nothing is lost when fields with different names are merged. -/
theorem mergeRoot_of_nodup (h : (fields.map FieldDefinition.name).Nodup) :
    mergeRoot fields = fields := by
  have hnames : ((fields.map fun f => (f.name, f)).map Prod.fst).Nodup := by
    rwa [List.map_map]
  rw [mergeRoot, Fields.ofEntries_of_nodup hnames, List.map_map]
  exact List.map_id fields

theorem find?_mergeRoot_of_nodup (h : (fields.map FieldDefinition.name).Nodup) :
    ∀ f ∈ fields, (mergeRoot fields).find? (fun g => g.name = f.name) = some f := by
  have hfields : (fields ++ []).Nodup := by
    rw [List.append_nil]
    exact h.of_map
  have hfound := (find?_mergeRoot_front_iff hfields).mpr ⟨h, List.disjoint_nil_right _⟩
  rwa [List.append_nil] at hfound

end Schema

namespace Registry

/-- The mutations of all parts of a project, in the order in which they are merged. -/
def allMutations (r : Registry) (version : Int) : List FieldDefinition :=
  ([.classes r version, .files, .project] : List Domain).flatMap Domain.mutations

theorem allMutations_eq (r : Registry) (version : Int) :
    r.allMutations version = (Domain.classes r version).mutations := by
  rw [allMutations, List.flatMap_cons]
  exact List.append_nil _

theorem map_name_mutations (r : Registry) (version : Int) :
    (Domain.classes r version).mutations.map FieldDefinition.name =
      r.classes.flatMap fun c => MutationKind.all.map fun kind => kind.fieldName c.name := by
  rw [Domain.classes, List.map_flatMap]
  rfl

/-- The names of the types of the mutations. -/
def mutationTypeNames (r : Registry) : List String :=
  Fields.names (r.classes.flatMap ClassInfo.mutationTypes)

theorem mutationTypeNames_eq (r : Registry) :
    r.mutationTypeNames = r.classes.flatMap ClassInfo.mutationNames := by
  rw [mutationTypeNames, Fields.names, List.map_flatMap]
  exact List.flatMap_congr fun c _ => c.names_mutationTypes

/-- The names of all other types of the classes. -/
def otherTypeNames (r : Registry) : List String :=
  r.classes.flatMap ClassInfo.otherNames

theorem perm_typeNames (r : Registry) (version : Int) :
    (r.otherTypeNames ++ r.mutationTypeNames).Perm
      (Fields.names (Domain.classes r version).types) := by
  have hnames : Fields.names (Domain.classes r version).types =
      r.classes.flatMap fun c => c.otherNames ++ c.mutationNames := by
    rw [Fields.names, Domain.classes, List.map_flatMap]
    exact List.flatMap_congr fun c _ => c.otherNames_append.symm
  rw [hnames, mutationTypeNames_eq]
  exact List.flatMap_append_perm _ _ _

theorem length_mutations (r : Registry) (version : Int) :
    (Domain.classes r version).mutations.length = 5 * r.classes.length := by
  simp [Domain.classes, ClassInfo.mutationFields, MutationKind.all, List.length_flatMap,
    Nat.mul_comm]

theorem length_mutationTypeNames (r : Registry) :
    r.mutationTypeNames.length = 10 * r.classes.length := by
  rw [mutationTypeNames_eq]
  simp [ClassInfo.mutationNames, MutationKind.all, List.length_flatMap, Nat.mul_comm]

section Accepted

variable {definitions : List ClassDefinition} {r : Registry}

theorem nodup_names_mutations (h : ofDefinitions definitions = .ok r) (version : Int) :
    ((Domain.classes r version).mutations.map FieldDefinition.name).Nodup := by
  rw [map_name_mutations, nodup_flatMap_iff (nodup_classes h)]
  constructor
  · intro c _
    exact List.Nodup.map (fun kind other he => (MutationKind.fieldName_inj.mp he).1) (by decide)
  · intro c hc other hother hne name hname hname'
    obtain ⟨kind, -, rfl⟩ := List.mem_map.mp hname
    obtain ⟨kind', -, he⟩ := List.mem_map.mp hname'
    exact name_ne_name h hc hother hne (MutationKind.fieldName_inj.mp he).2.symm

theorem nodup_mutationTypeNames (h : ofDefinitions definitions = .ok r) :
    r.mutationTypeNames.Nodup := by
  rw [mutationTypeNames_eq, nodup_flatMap_iff (nodup_classes h)]
  constructor
  · intro c _
    exact c.nodup_mutationNames
  · intro c hc other hother hne
    exact ClassInfo.disjoint_mutationNames (name_ne_name h hc hother hne)

theorem disjoint_mutationTypeNames (h : ofDefinitions definitions = .ok r) :
    r.mutationTypeNames.Disjoint r.otherTypeNames := by
  rw [mutationTypeNames_eq]
  intro name hname hother
  obtain ⟨c, -, hname⟩ := List.mem_flatMap.mp hname
  obtain ⟨other, hmem, hother⟩ := List.mem_flatMap.mp hother
  exact ClassInfo.disjoint_otherNames (isCapitalised_name h hmem) c hname hother

end Accepted

/-- The mutations of accepted classes have different names. So have the types of their inputs and
results, and no other type of the classes is named as one of them. So nothing is lost when the
mutations of a project are merged, and the one that is found by a kind and a class performs that
kind of mutation on that class. -/
theorem mutationsKept {json : Json} {r : Registry} (h : Registry.ofJson json = .ok r)
    (version : Int) :
    (((Domain.classes r version).mutations.map FieldDefinition.name =
        r.classes.flatMap fun c => MutationKind.all.map fun kind => kind.fieldName c.name) ∧
      ((Domain.classes r version).mutations.map FieldDefinition.name).Nodup ∧
      (Domain.classes r version).mutations.length = 5 * r.classes.length) ∧
    (r.mutationTypeNames.Nodup ∧ r.mutationTypeNames.length = 10 * r.classes.length ∧
      (r.otherTypeNames ++ r.mutationTypeNames).Perm
        (Fields.names (Domain.classes r version).types) ∧
      r.mutationTypeNames.Disjoint r.otherTypeNames) ∧
    Schema.mergeRoot (r.allMutations version) = (Domain.classes r version).mutations ∧
    ∀ c ∈ r.classes, ∀ kind, ∃ f,
      (Schema.mergeRoot (r.allMutations version)).find? (fun g => g.name = kind.fieldName c.name) =
        some f ∧ f.Performs kind c version := by
  obtain ⟨definitions, -, hr⟩ := ofJson_eq_ok h
  have hnodup := nodup_names_mutations hr version
  rw [allMutations_eq]
  refine ⟨⟨map_name_mutations r version, hnodup, length_mutations r version⟩,
    ⟨nodup_mutationTypeNames hr, length_mutationTypeNames r, perm_typeNames r version,
      disjoint_mutationTypeNames hr⟩,
    Schema.mergeRoot_of_nodup hnodup, fun c hc kind => ?_⟩
  have hmem : c.mutationField version kind ∈ (Domain.classes r version).mutations :=
    List.mem_flatMap.mpr ⟨c, hc, List.mem_map_of_mem kind.mem_all⟩
  exact ⟨_, Schema.find?_mergeRoot_of_nodup hnodup _ hmem, c.performs_mutationField version kind⟩

end Registry

namespace Sample

/-- A class, and one that is named as the inputs of its mutations. -/
def usersAndInputs : Registry :=
  ⟨[titled "User" "users", titled "UserInput" "inputs"]⟩

end Sample

namespace Registry

/-- The type of the input for a new user is named as a mutation of the other class, which is found
under that name. -/
theorem mutationsKept_users :
    Registry.ofJson (Sample.titledJson [("user", "users"), ("userInput", "inputs")]) =
      .ok Sample.usersAndInputs ∧
    "createUserInput" ∈ Sample.usersAndInputs.mutationTypeNames ∧
    Sample.usersAndInputs.mutationTypeNames.Nodup ∧
    Sample.usersAndInputs.mutationTypeNames.Disjoint Sample.usersAndInputs.otherTypeNames ∧
    (Schema.mergeRoot (Sample.usersAndInputs.allMutations 1)).length = 10 ∧
    ∃ f, (Schema.mergeRoot (Sample.usersAndInputs.allMutations 1)).find? (fun g => g.name =
      "createUserInput") = some f ∧ f.Performs .create (Sample.titled "UserInput" "inputs") 1 := by
  have haccepted :
      Registry.ofJson (Sample.titledJson [("user", "users"), ("userInput", "inputs")]) =
      .ok Sample.usersAndInputs := eq_ok_of_classes (by decide +kernel)
  obtain ⟨⟨-, -, hlength⟩, ⟨hnodup, -, -, hdisjoint⟩, hmerged, hfound⟩ := mutationsKept haccepted 1
  have hinput : Sample.titled "UserInput" "inputs" ∈ Sample.usersAndInputs.classes :=
    List.mem_cons_of_mem _ (List.mem_singleton_self _)
  exact ⟨haccepted, by decide, hnodup, hdisjoint, by
    rw [hmerged, hlength]; rfl, hfound _ hinput .create⟩

end Registry

end ClassApi
