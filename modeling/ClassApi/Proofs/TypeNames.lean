import ClassApi.Proofs.Entries
import ClassApi.Proofs.NameShapes
import ClassApi.Proofs.Registration
import ClassApi.Schema.Assembly

/-!
# Types of one name

All types of a schema share one set of names, and the first type of a name is kept. The names that a
class gives rise to are put together around its name and its plural. What stands in front of them
and behind them tells the patterns apart, the object type aside, so names can collide in few ways
only: a class is named as the list type of another one or as a type that every schema has, two
plurals agree, or filters of fields are put together to the same name.
-/

namespace ClassApi

namespace Naming

/-- Whether a name begins with one of some characters. -/
def BeginsIn (chars : List Char) (name : String) : Prop :=
  ∃ c ∈ chars, initial name = some c

theorem BeginsIn.append {chars : List Char} {start : String} (h : BeginsIn chars start)
    (rest : String) : BeginsIn chars (start ++ rest) := by
  obtain ⟨c, hc, hinitial⟩ := h
  exact ⟨c, hc, by rw [initial_append, hinitial, Option.some_or]⟩

theorem BeginsIn.mono {chars others : List Char} {name : String} (h : BeginsIn chars name)
    (hsub : chars ⊆ others) : BeginsIn others name := by
  obtain ⟨c, hc, hinitial⟩ := h
  exact ⟨c, hsub hc, hinitial⟩

/-- Names that begin with different characters differ. -/
theorem disjoint_of_beginsIn {names others : List String} {a b : List Char}
    (hnames : ∀ name ∈ names, BeginsIn a name) (hothers : ∀ name ∈ others, BeginsIn b name)
    (h : ∀ c ∈ a, c ∉ b) : names.Disjoint others := by
  intro name hname hother
  obtain ⟨c, hc, hinitial⟩ := hnames name hname
  obtain ⟨d, hd, hinitial'⟩ := hothers name hother
  obtain rfl : c = d := Option.some.inj (hinitial.symm.trans hinitial')
  exact h c hc hd

theorem disjoint_of_isCapitalised {names others : List String} {chars : List Char}
    (hnames : ∀ name ∈ names, IsCapitalised name) (hothers : ∀ name ∈ others, BeginsIn chars name)
    (h : chars.all Char.isLower = true) : names.Disjoint others := by
  intro name hname hother
  obtain ⟨c, hc, hinitial⟩ := hothers name hother
  exact (hnames name hname).ne hinitial (List.all_eq_true.mp h c hc) rfl

end Naming

/-! ## Mutations -/

namespace MutationKind

theorem mem_all (kind : MutationKind) : kind ∈ all := by
  cases kind <;> decide

theorem take_verb (kind : MutationKind) (rest : String) :
    (kind.verb ++ rest).toList.take 3 = kind.verb.toList.take 3 := by
  rw [String.toList_append, List.take_append_of_le_length]
  cases kind <;> decide

/-- The name of a mutation tells its kind and its class: no two verbs begin with the same three
letters. -/
theorem fieldName_inj {kind other : MutationKind} {className otherName : String} :
    kind.fieldName className = other.fieldName otherName ↔
      kind = other ∧ className = otherName := by
  refine ⟨fun h => ?_, fun h => by rw [h.1, h.2]⟩
  have htake : kind.verb.toList.take 3 = other.verb.toList.take 3 := by
    rw [← take_verb kind className, ← take_verb other otherName, ← fieldName, h, fieldName]
  have hkind : kind = other := by
    revert htake
    cases kind <;> cases other <;> decide
  subst hkind
  exact ⟨rfl, (String.append_right_inj _).mp h⟩

theorem inputTypeName_inj {kind other : MutationKind} {className otherName : String} :
    kind.inputTypeName className = other.inputTypeName otherName ↔
      kind = other ∧ className = otherName := by
  rw [inputTypeName, inputTypeName, String.append_left_inj, fieldName_inj]

theorem payloadTypeName_inj {kind other : MutationKind} {className otherName : String} :
    kind.payloadTypeName className = other.payloadTypeName otherName ↔
      kind = other ∧ className = otherName := by
  rw [payloadTypeName, payloadTypeName, String.append_left_inj, fieldName_inj]

theorem inputTypeName_ne_payloadTypeName (kind other : MutationKind)
    (className otherName : String) :
    kind.inputTypeName className ≠ other.payloadTypeName otherName :=
  Naming.append_ne_append (c := 't') (d := 'd') (by decide) (by decide) (by decide)

end MutationKind

/-! ## Filters -/

theorem ScalarKind.final_filterEnding {kind : ScalarKind} {ending : String}
    (h : kind.filterEnding = some ending) : ∃ c, Naming.final ending = some c ∧ c ≠ 'h' := by
  cases kind <;> cases h <;> exact ⟨_, rfl, by decide⟩

/-- The endings of filter types have different last characters. -/
theorem ScalarKind.filterEnding_inj {kind other : ScalarKind} {ending otherEnding : String}
    (h : kind.filterEnding = some ending) (hother : other.filterEnding = some otherEnding)
    (hfinal : Naming.final ending = Naming.final otherEnding) : ending = otherEnding := by
  revert hfinal
  cases kind <;> cases h <;> cases other <;> cases hother <;> decide

namespace ClassInfo

/-- A field with a filter, and how the name of its filter type is put together. -/
theorem of_mem_filters {c : ClassInfo} {filter : ClassField × String} (h : filter ∈ c.filters) :
    filter.1 ∈ c.fields ∧ ∃ ending, filter.1.scalar.filterEnding = some ending ∧
      filter.2 = c.filterTypeName ++ Naming.upperFirst filter.1.name ++ ending := by
  obtain ⟨f, hf, hname⟩ := List.mem_filterMap.mp h
  obtain ⟨name, htype, rfl⟩ := Option.map_eq_some_iff.mp hname
  obtain ⟨ending, hending, rfl⟩ := Option.map_eq_some_iff.mp htype
  exact ⟨List.mem_of_mem_filter hf, ending, hending, rfl⟩

/-- The fields with filters, each by its name and the ending of its filter type. -/
def filterKeys (c : ClassInfo) : List (String × Option String) :=
  c.filters.map fun filter => (filter.1.name, filter.1.scalar.filterEnding)

/-- Filter types of one class have one name when their fields do and they have one ending. -/
theorem nodup_filters_iff {c : ClassInfo}
    (hnames : ∀ f ∈ c.fields, ∃ rawName, f.name = Naming.camelCase rawName) :
    (c.filters.map Prod.snd).Nodup ↔ c.filterKeys.Nodup := by
  rw [filterKeys, List.Nodup, List.Nodup, List.pairwise_map, List.pairwise_map]
  refine List.Pairwise.iff_of_mem fun {filter other} hfilter hother => not_congr ?_
  obtain ⟨hfield, ending, hending, hname⟩ := of_mem_filters hfilter
  obtain ⟨hotherField, otherEnding, hotherEnding, hotherName⟩ := of_mem_filters hother
  obtain ⟨rawName, hraw⟩ := hnames _ hfield
  obtain ⟨otherRaw, hotherRaw⟩ := hnames _ hotherField
  rw [hname, hotherName, hending, hotherEnding, Prod.mk.injEq, Option.some.injEq]
  refine ⟨fun h => ?_, fun h => by rw [h.1, h.2]⟩
  have hfinal := congrArg Naming.final h
  obtain ⟨last, hlast, -⟩ := ScalarKind.final_filterEnding hending
  obtain ⟨otherLast, hotherLast, -⟩ := ScalarKind.final_filterEnding hotherEnding
  rw [Naming.final_append, Naming.final_append _ otherEnding, hlast, hotherLast, Option.some_or,
    Option.some_or] at hfinal
  obtain rfl := ScalarKind.filterEnding_inj hending hotherEnding (by rw [hlast, hotherLast, hfinal])
  rw [String.append_left_inj, String.append_right_inj, hraw, hotherRaw,
    Naming.upperFirst_camelCase_inj] at h
  exact ⟨by rw [hraw, hotherRaw, h], rfl⟩

/-! ## The names of the types of a class -/

/-- The names of the object type and of the list types. -/
def objectNames (c : ClassInfo) : List String :=
  [c.name, connectionTypeName c.name, edgeTypeName c.name]

/-- The names of the filter types. -/
def filterNames (c : ClassInfo) : List String :=
  Fields.names c.filterInputs

/-- The names of the types of the mutations. -/
def mutationNames (c : ClassInfo) : List String :=
  MutationKind.all.flatMap fun kind => [kind.inputTypeName c.name, kind.payloadTypeName c.name]

/-- The names of types that begin with small letters. -/
def inputNames (c : ClassInfo) : List String :=
  c.filterNames ++ c.orderTypeName :: c.mutationNames

theorem names_mutationTypes (c : ClassInfo) : Fields.names c.mutationTypes = c.mutationNames := by
  rw [Fields.names, mutationTypes, List.map_flatMap]
  rfl

theorem names_types (c : ClassInfo) : Fields.names c.types = c.objectNames ++ c.inputNames := by
  simp only [types, Fields.names_append, names_mutationTypes, List.append_assoc]
  rfl

theorem filterNames_eq (c : ClassInfo) :
    c.filterNames = if c.filters.isEmpty then [] else c.filters.map Prod.snd ++
      [c.filterTypeName] := by
  rw [filterNames, filterInputs]
  split
  · rfl
  · rw [Fields.names, List.map_append, List.map_map]
    rfl

theorem beginsIn_filterNames (c : ClassInfo) :
    ∀ name ∈ c.filterNames, Naming.BeginsIn ['f'] name := by
  have hroot : Naming.BeginsIn ['f'] c.filterTypeName := by
    rw [filterTypeName, String.append_assoc]
    exact Naming.BeginsIn.append ⟨'f', by decide, by decide⟩ _
  intro name hname
  rw [filterNames_eq] at hname
  split at hname
  · exact absurd hname List.not_mem_nil
  · rcases List.mem_append.mp hname with hmem | hmem
    · obtain ⟨filter, hfilter, rfl⟩ := List.mem_map.mp hmem
      obtain ⟨-, ending, -, heq⟩ := of_mem_filters hfilter
      rw [heq, String.append_assoc]
      exact hroot.append _
    · exact List.mem_singleton.mp hmem ▸ hroot

theorem beginsIn_orderTypeName (c : ClassInfo) : Naming.BeginsIn ['o'] c.orderTypeName := by
  rw [orderTypeName, String.append_assoc]
  exact Naming.BeginsIn.append ⟨'o', by decide, by decide⟩ _

theorem beginsIn_mutationNames (c : ClassInfo) :
    ∀ name ∈ c.mutationNames, Naming.BeginsIn ['c', 'u', 'r'] name := by
  intro name hname
  obtain ⟨kind, -, hmem⟩ := List.mem_flatMap.mp hname
  have hverb : Naming.BeginsIn ['c', 'u', 'r'] kind.verb := by
    cases kind
    · exact ⟨'c', by decide, by decide⟩
    · exact ⟨'u', by decide, by decide⟩
    · exact ⟨'r', by decide, by decide⟩
    · exact ⟨'r', by decide, by decide⟩
    · exact ⟨'r', by decide, by decide⟩
  rcases List.mem_cons.mp hmem with rfl | hmem
  · exact (hverb.append _).append _
  · rw [List.mem_singleton.mp hmem]
    exact (hverb.append _).append _

theorem beginsIn_inputNames (c : ClassInfo) :
    ∀ name ∈ c.inputNames, Naming.BeginsIn ['f', 'o', 'c', 'u', 'r'] name := by
  intro name hname
  rcases List.mem_append.mp hname with hfilter | hmem
  · exact (beginsIn_filterNames c name hfilter).mono (by decide)
  · rcases List.mem_cons.mp hmem with rfl | hmutation
    · exact (beginsIn_orderTypeName c).mono (by decide)
    · exact (beginsIn_mutationNames c name hmutation).mono (by decide)

theorem isCapitalised_objectNames {c : ClassInfo} (h : Naming.IsCapitalised c.name) :
    ∀ name ∈ c.objectNames, Naming.IsCapitalised name := by
  have hconnection : Naming.IsCapitalised "Connection" := Naming.isCapitalised_of_all (by decide)
  have hedge : Naming.IsCapitalised "Edge" := Naming.isCapitalised_of_all (by decide)
  intro name hname
  rcases List.mem_cons.mp hname with rfl | hmem
  · exact h
  rcases List.mem_cons.mp hmem with rfl | hmem
  · exact h.append hconnection
  · rw [List.mem_singleton.mp hmem]
    exact h.append hedge

/-- Names of object types and list types are none of inputs. -/
theorem disjoint_objectNames {c : ClassInfo} (h : Naming.IsCapitalised c.name) (other : ClassInfo) :
    c.objectNames.Disjoint other.inputNames :=
  Naming.disjoint_of_isCapitalised (isCapitalised_objectNames h) (beginsIn_inputNames other)
    (by decide)

theorem disjoint_filterNames (c other : ClassInfo) :
    c.filterNames.Disjoint (other.orderTypeName :: other.mutationNames) := by
  refine Naming.disjoint_of_beginsIn (b := ['o', 'c', 'u', 'r'])
    (beginsIn_filterNames c) ?_ (by simp)
  intro name hname
  rcases List.mem_cons.mp hname with rfl | hmem
  · exact (beginsIn_orderTypeName other).mono (by decide)
  · exact (beginsIn_mutationNames other name hmem).mono (by decide)

theorem orderTypeName_notMem (c other : ClassInfo) : c.orderTypeName ∉ other.mutationNames := by
  intro hmem
  have horder : ∀ name ∈ [c.orderTypeName], Naming.BeginsIn ['o'] name := by
    simpa using beginsIn_orderTypeName c
  have hdisjoint := Naming.disjoint_of_beginsIn horder (beginsIn_mutationNames other) (by simp)
  exact hdisjoint List.mem_cons_self hmem

/-! ## Names of one class and of two -/

theorem filterTypeName_notMem (c other : ClassInfo) :
    c.filterTypeName ∉ other.filters.map Prod.snd := by
  intro hmem
  obtain ⟨filter, hfilter, he⟩ := List.mem_map.mp hmem
  obtain ⟨-, ending, hending, hname⟩ := of_mem_filters hfilter
  obtain ⟨last, hlast, hne⟩ := ScalarKind.final_filterEnding hending
  rw [hname, filterTypeName] at he
  exact Naming.append_ne_append (d := 'h') hlast (by decide) hne he

theorem connectionTypeName_ne_edgeTypeName (name other : String) :
    connectionTypeName name ≠ edgeTypeName other :=
  Naming.append_ne_append (c := 'n') (d := 'e') (by decide) (by decide) (by decide)

theorem nodup_objectNames (c : ClassInfo) : c.objectNames.Nodup := by
  have hconnection : c.name ≠ connectionTypeName c.name := Naming.ne_append_self (by decide)
  have hedge : c.name ≠ edgeTypeName c.name := Naming.ne_append_self (by decide)
  have hlists := connectionTypeName_ne_edgeTypeName c.name c.name
  simp [objectNames, hconnection, hedge, hlists]

theorem nodup_mutationNames (c : ClassInfo) : c.mutationNames.Nodup := by
  refine (nodup_flatMap_iff (by decide)).mpr ⟨fun kind _ => ?_,
    fun kind _ other _ hne name hname hother => ?_⟩
  · simpa using MutationKind.inputTypeName_ne_payloadTypeName kind kind c.name c.name
  · simp only [List.mem_cons, List.not_mem_nil, or_false] at hname hother
    rcases hname with rfl | rfl <;> rcases hother with he | he
    · exact hne (MutationKind.inputTypeName_inj.mp he).1
    · exact MutationKind.inputTypeName_ne_payloadTypeName _ _ _ _ he
    · exact MutationKind.inputTypeName_ne_payloadTypeName _ _ _ _ he.symm
    · exact hne (MutationKind.payloadTypeName_inj.mp he).1

/-- Types of mutations of classes with different names have different names. -/
theorem disjoint_mutationNames {c other : ClassInfo} (h : c.name ≠ other.name) :
    c.mutationNames.Disjoint other.mutationNames := by
  intro name hname hother
  obtain ⟨kind, -, hname⟩ := List.mem_flatMap.mp hname
  obtain ⟨kind', -, hother⟩ := List.mem_flatMap.mp hother
  simp only [List.mem_cons, List.not_mem_nil, or_false] at hname hother
  rcases hname with rfl | rfl <;> rcases hother with he | he
  · exact h (MutationKind.inputTypeName_inj.mp he).2
  · exact MutationKind.inputTypeName_ne_payloadTypeName _ _ _ _ he
  · exact MutationKind.inputTypeName_ne_payloadTypeName _ _ _ _ he.symm
  · exact h (MutationKind.payloadTypeName_inj.mp he).2

/-- The types of one class have different names when the filters of its fields do. -/
theorem nodup_types_names_iff {c : ClassInfo} (h : Naming.IsCapitalised c.name)
    (hnames : ∀ f ∈ c.fields, ∃ rawName, f.name = Naming.camelCase rawName) :
    (Fields.names c.types).Nodup ↔ c.filterKeys.Nodup := by
  have hfilters : c.filterNames.Nodup ↔ c.filterKeys.Nodup := by
    rw [← nodup_filters_iff hnames, filterNames_eq]
    split
    · rename_i hempty
      rw [List.isEmpty_iff.mp hempty]
      exact iff_of_true List.nodup_nil List.nodup_nil
    · rw [List.nodup_append']
      exact and_iff_left ⟨List.nodup_singleton _,
        List.disjoint_singleton.mpr (filterTypeName_notMem c c)⟩
  rw [names_types, List.nodup_append', inputNames, List.nodup_append', List.nodup_cons, hfilters]
  constructor
  · exact fun h => h.2.1.1
  · exact fun hkeys =>
      ⟨nodup_objectNames c, ⟨hkeys, ⟨orderTypeName_notMem c c, nodup_mutationNames c⟩,
        disjoint_filterNames c c⟩, disjoint_objectNames h c⟩

/-- Whether a class leaves the names of the types of another one free. -/
structure TypesApart (c other : ClassInfo) : Prop where
  /-- The plurals differ. -/
  plural : c.pluralTypeName ≠ other.pluralTypeName
  /-- The class is not named as the type of pages of the other one. -/
  connection : c.name ≠ connectionTypeName other.name
  /-- The class is not named as the type of the items of such pages. -/
  edge : c.name ≠ edgeTypeName other.name
  /-- The filters of the fields have different names. -/
  filters : (c.filters.map Prod.snd).Disjoint (other.filters.map Prod.snd)

theorem disjoint_objectNames_iff {c other : ClassInfo} (h : c.name ≠ other.name) :
    c.objectNames.Disjoint other.objectNames ↔
      (c.name ≠ connectionTypeName other.name ∧ c.name ≠ edgeTypeName other.name) ∧
      other.name ≠ connectionTypeName c.name ∧ other.name ≠ edgeTypeName c.name := by
  have hlists := connectionTypeName_ne_edgeTypeName c.name other.name
  have hlists' := connectionTypeName_ne_edgeTypeName other.name c.name
  have hconnections : connectionTypeName c.name ≠ connectionTypeName other.name :=
    fun he => h ((String.append_left_inj _).mp he)
  have hedges : edgeTypeName c.name ≠ edgeTypeName other.name :=
    fun he => h ((String.append_left_inj _).mp he)
  simp only [objectNames, List.disjoint_cons_left, List.disjoint_cons_right, List.disjoint_nil_left,
    List.mem_cons, List.not_mem_nil, or_false, not_or]
  tauto

theorem orderTypeName_inj {c other : ClassInfo} :
    c.orderTypeName = other.orderTypeName ↔ c.pluralTypeName = other.pluralTypeName := by
  rw [orderTypeName, orderTypeName, String.append_left_inj, String.append_right_inj]

theorem filterTypeName_inj {c other : ClassInfo} :
    c.filterTypeName = other.filterTypeName ↔ c.pluralTypeName = other.pluralTypeName := by
  rw [filterTypeName, filterTypeName, String.append_left_inj, String.append_right_inj]

/-- Filter types of two classes with different plurals have one name only when filters of fields
do. -/
theorem disjoint_filterNames_iff {c other : ClassInfo}
    (h : c.pluralTypeName ≠ other.pluralTypeName) :
    c.filterNames.Disjoint other.filterNames ↔
      (c.filters.map Prod.snd).Disjoint (other.filters.map Prod.snd) := by
  have hroots : c.filterTypeName ≠ other.filterTypeName := fun he => h (filterTypeName_inj.mp he)
  have hroot := filterTypeName_notMem c other
  have hroot' := filterTypeName_notMem other c
  rw [filterNames_eq, filterNames_eq]
  split
  · rename_i hempty
    rw [List.isEmpty_iff.mp hempty]
    exact iff_of_true (List.disjoint_nil_left _) (List.disjoint_nil_left _)
  · split
    · rename_i hempty
      rw [List.isEmpty_iff.mp hempty]
      exact iff_of_true (List.disjoint_nil_right _) (List.disjoint_nil_right _)
    · rw [List.disjoint_append_left, List.disjoint_append_right, List.disjoint_append_right]
      refine ⟨fun h => h.1.1, fun hfilters => ⟨⟨hfilters, ?_⟩, ?_, ?_⟩⟩
      · exact List.disjoint_singleton.mpr hroot'
      · exact List.singleton_disjoint.mpr hroot
      · exact List.singleton_disjoint.mpr fun hmem => hroots (List.mem_singleton.mp hmem)

/-- The sort enumerations tell the plurals of two classes apart. -/
theorem disjoint_orderTypeName_iff {c other : ClassInfo} (h : c.name ≠ other.name) :
    (c.orderTypeName :: c.mutationNames).Disjoint (other.orderTypeName :: other.mutationNames) ↔
      c.pluralTypeName ≠ other.pluralTypeName := by
  rw [List.disjoint_cons_left, List.disjoint_cons_right, List.mem_cons, orderTypeName_inj, not_or]
  exact ⟨fun h => h.1.1, fun hplural =>
    ⟨⟨hplural, orderTypeName_notMem c other⟩, orderTypeName_notMem other c,
      disjoint_mutationNames h⟩⟩

theorem disjoint_inputNames_iff {c other : ClassInfo} (h : c.name ≠ other.name) :
    c.inputNames.Disjoint other.inputNames ↔
      c.pluralTypeName ≠ other.pluralTypeName ∧
      (c.filters.map Prod.snd).Disjoint (other.filters.map Prod.snd) := by
  rw [inputNames, inputNames, List.disjoint_append_left, List.disjoint_append_right,
    List.disjoint_append_right, disjoint_orderTypeName_iff h]
  constructor
  · rintro ⟨⟨hfilters, -⟩, -, hplural⟩
    exact ⟨hplural, (disjoint_filterNames_iff hplural).mp hfilters⟩
  · rintro ⟨hplural, hfilters⟩
    exact ⟨⟨(disjoint_filterNames_iff hplural).mpr hfilters, disjoint_filterNames c other⟩,
      List.disjoint_symm (disjoint_filterNames other c), hplural⟩

/-- The types of two classes have different names when each class leaves those of the other free. -/
theorem disjoint_types_names_iff {c other : ClassInfo} (h : Naming.IsCapitalised c.name)
    (hother : Naming.IsCapitalised other.name) (hne : c.name ≠ other.name) :
    (Fields.names c.types).Disjoint (Fields.names other.types) ↔
      c.TypesApart other ∧ other.TypesApart c := by
  rw [names_types, names_types, List.disjoint_append_left, List.disjoint_append_right,
    List.disjoint_append_right, disjoint_objectNames_iff hne, disjoint_inputNames_iff hne]
  constructor
  · rintro ⟨⟨⟨⟨hconnection, hedge⟩, hconnection', hedge'⟩, -⟩, -, hplural, hfilters⟩
    exact ⟨⟨hplural, hconnection, hedge, hfilters⟩,
      ⟨hplural.symm, hconnection', hedge', List.disjoint_symm hfilters⟩⟩
  · rintro ⟨⟨hplural, hconnection, hedge, hfilters⟩, ⟨-, hconnection', hedge', -⟩⟩
    exact ⟨⟨⟨⟨hconnection, hedge⟩, hconnection', hedge'⟩, disjoint_objectNames h other⟩,
      List.disjoint_symm (disjoint_objectNames hother c), hplural, hfilters⟩

/-- Of the names of the types of a class, only that of the class itself can be a capitalised one
that is named as no list type. -/
theorem mem_types_names_iff {c : ClassInfo} {name : String} (hname : Naming.IsCapitalised name)
    (hconnection : ¬ "Connection".toList <:+ name.toList)
    (hedge : ¬ "Edge".toList <:+ name.toList) : name ∈ Fields.names c.types ↔ name = c.name := by
  rw [names_types, List.mem_append, objectNames]
  constructor
  · rintro (hobject | hinput)
    · simp only [List.mem_cons, List.not_mem_nil, or_false] at hobject
      rcases hobject with he | he | he
      · exact he
      · exact absurd he.symm (Naming.append_ne_of_not_suffix hconnection)
      · exact absurd he.symm (Naming.append_ne_of_not_suffix hedge)
    · obtain ⟨first, hfirst, hinitial⟩ := beginsIn_inputNames c name hinput
      have hlower : ['f', 'o', 'c', 'u', 'r'].all Char.isLower = true := by decide
      exact absurd rfl (hname.ne hinitial (List.all_eq_true.mp hlower first hfirst))
  · rintro rfl
    exact Or.inl List.mem_cons_self

end ClassInfo

/-! ## The types of a registry -/

namespace Registry

/-- Whether no type of the classes is discarded, nor one of those that describe files and the
project. Domains are merged in the order of a project: the classes first, then the files, and the
project last. -/
structure TypesRegistered (r : Registry) (version : Int) : Prop where
  /-- The types of the classes have names that are new when their turn comes. -/
  classes : Fields.AllNew Schema.baseTypes (Domain.classes r version).types
  /-- The name of the type of files is still free then. -/
  file : fileClass ∉ Fields.names (Schema.collectTypes [.classes r version])
  /-- So is that of the type of projects. -/
  project : Domain.projectTypeName ∉ Fields.names (Schema.collectTypes [.classes r version, .files])
  /-- So is that of the type of their classes. -/
  projectClasses : Domain.projectClassesTypeName ∉ Fields.names
    (Fields.addMissing (Schema.collectTypes [.classes r version, .files]) [(Domain.projectTypeName,
      Domain.projectType)])

/-- The names of types, that of files aside, that no class may have. -/
def takenNames : List String :=
  ["ObjectIDType", "MixedType", "PageInfo", "Node", "Project", "ProjectClasses"]

/-- Whether the names of the classes, of their plurals and of their fields keep all types apart. -/
structure TypesApart (r : Registry) : Prop where
  /-- Classes leave the names of one another free. -/
  classes : ∀ c ∈ r.classes, ∀ other ∈ r.classes, c ≠ other → c.TypesApart other
  /-- No class has two filters of one kind for fields of one name. -/
  filters : ∀ c ∈ r.classes, c.filterKeys.Nodup
  /-- No class is named as a type that is there without it. -/
  free : ∀ c ∈ r.classes, c.name ∉ takenNames

section Accepted

variable {definitions : List ClassDefinition} {r : Registry} {c : ClassInfo}

theorem nodup_classes (h : ofDefinitions definitions = .ok r) : r.classes.Nodup := by
  have hkeys : (r.classes.map fun c => lowerText c.name).Nodup := by
    rw [map_key_classes h]
    exact (ofDefinitions_eq_ok_iff.mp h).1.distinct
  exact hkeys.of_map

theorem name_ne_name (h : ofDefinitions definitions = .ok r) (hc : c ∈ r.classes)
    {other : ClassInfo} (hother : other ∈ r.classes) (hne : c ≠ other) : c.name ≠ other.name :=
  fun he => hne (eq_of_lowerText_name h hc hother (congrArg lowerText he))

theorem isCapitalised_name (h : ofDefinitions definitions = .ok r) (hc : c ∈ r.classes) :
    Naming.IsCapitalised c.name := by
  obtain ⟨d, -, hname, -⟩ := exists_definition h hc
  exact hname ▸ Naming.isCapitalised_upperFirst d.name

/-- A capitalised name that is none of a list type is taken by the classes when a class has it. -/
theorem mem_names_classes_iff {version : Int} {name : String} (hname : Naming.IsCapitalised name)
    (hconnection : ¬ "Connection".toList <:+ name.toList)
    (hedge : ¬ "Edge".toList <:+ name.toList) :
    name ∈ Fields.names (Domain.classes r version).types ↔ ∃ c ∈ r.classes, name = c.name := by
  rw [Fields.names, Domain.classes, List.map_flatMap, List.mem_flatMap]
  exact exists_congr fun c => and_congr_right fun _ =>
    ClassInfo.mem_types_names_iff hname hconnection hedge

/-- The names of the types of the classes differ when the classes keep them apart. -/
theorem nodup_names_classes_iff (h : ofDefinitions definitions = .ok r) (version : Int) :
    (Fields.names (Domain.classes r version).types).Nodup ↔
      (∀ c ∈ r.classes, ∀ other ∈ r.classes, c ≠ other → c.TypesApart other) ∧
      ∀ c ∈ r.classes, c.filterKeys.Nodup := by
  have hcapital := fun c hc => isCapitalised_name h (c := c) hc
  rw [Fields.names, Domain.classes, List.map_flatMap, nodup_flatMap_iff (nodup_classes h), and_comm]
  refine and_congr ?_ (forall₂_congr fun c hc =>
    ClassInfo.nodup_types_names_iff (hcapital c hc) fun f hf => exists_camelCase h hc hf)
  constructor
  · intro hdisjoint c hc other hother hne
    exact ((ClassInfo.disjoint_types_names_iff (hcapital c hc) (hcapital other hother)
      (name_ne_name h hc hother hne)).mp (hdisjoint c hc other hother hne)).1
  · intro hapart c hc other hother hne
    exact (ClassInfo.disjoint_types_names_iff (hcapital c hc) (hcapital other hother)
      (name_ne_name h hc hother hne)).mpr ⟨hapart c hc other hother hne,
        hapart other hother c hc (Ne.symm hne)⟩

end Accepted

/-- Names of types that are there without the classes. -/
theorem fixed_names : ∀ name ∈ fileClass :: takenNames, Naming.IsCapitalised name ∧
    ¬ "Connection".toList <:+ name.toList ∧ ¬ "Edge".toList <:+ name.toList := by
  have hcapital : ∀ name ∈ fileClass :: takenNames,
      (Naming.initial name).all (fun c => !c.isLower) = true := by decide
  have hlists : ∀ name ∈ fileClass :: takenNames,
      ¬ "Connection".toList <:+ name.toList ∧ ¬ "Edge".toList <:+ name.toList := by decide
  exact fun name hname => ⟨Naming.isCapitalised_of_all (hcapital name hname), hlists name hname⟩

theorem mem_names_classes_fixed {r : Registry} {version : Int} {name : String}
    (hname : name ∈ fileClass :: takenNames) :
    name ∈ Fields.names (Domain.classes r version).types ↔ ∃ c ∈ r.classes, name = c.name := by
  obtain ⟨hcapital, hconnection, hedge⟩ := fixed_names name hname
  exact mem_names_classes_iff hcapital hconnection hedge

/-- The names of the types that every schema has and of those of the project are free exactly when
no class has one. -/
theorem taken_notMem_iff {r : Registry} {version : Int} :
    (∀ name ∈ takenNames, name ∉ Fields.names (Domain.classes r version).types) ↔
      ∀ c ∈ r.classes, c.name ∉ takenNames := by
  constructor
  · intro hfree c hc htaken
    exact hfree c.name htaken
      ((mem_names_classes_fixed (List.mem_cons_of_mem _ htaken)).mpr ⟨c, hc, rfl⟩)
  · intro hfree name htaken hmem
    obtain ⟨c, hc, rfl⟩ := (mem_names_classes_fixed (List.mem_cons_of_mem _ htaken)).mp hmem
    exact hfree c hc htaken

theorem mem_names_collectTypes {domains : List Domain} {name : String} :
    name ∈ Fields.names (Schema.collectTypes domains) ↔
      name ∈ Fields.names Schema.baseTypes ∨ ∃ domain ∈ domains, name ∈
        Fields.names domain.types := by
  rw [Schema.collectTypes, Fields.mem_names_addMissing, Fields.names_append, List.mem_append]
  refine or_congr_right ?_
  rw [Fields.names, List.map_flatMap, List.mem_flatMap]
  rfl

/-- What can be in the way of a type is the name of one of the classes, as the other types have
different names. -/
theorem typesRegistered_iff_names {r : Registry} {version : Int} :
    r.TypesRegistered version ↔ (Fields.names (Domain.classes r version).types).Nodup ∧
      fileClass ∉ Fields.names (Domain.classes r version).types ∧
      ∀ name ∈ takenNames, name ∉ Fields.names (Domain.classes r version).types := by
  have hfixed : fileClass ∉ Fields.names Schema.baseTypes ∧
      Domain.projectTypeName ∉ Fields.names Schema.baseTypes ++ Fields.names Domain.files.types ∧
      Domain.projectClassesTypeName ∉ Domain.projectTypeName :: Fields.names Schema.baseTypes ++
        Fields.names Domain.files.types := by decide
  have htaken : takenNames =
      Fields.names Schema.baseTypes ++ [Domain.projectTypeName, Domain.projectClassesTypeName] :=
    rfl
  simp only [List.cons_append, List.mem_cons, List.mem_append, not_or] at hfixed
  obtain ⟨hfile, ⟨hprojectBase, hprojectFiles⟩, hne, hclassesBase, hclassesFiles⟩ := hfixed
  rw [htaken]
  constructor
  · rintro ⟨hnew, hfree, hproject, hprojectClasses⟩
    obtain ⟨hnodup, hdisjoint⟩ := Fields.allNew_iff.mp hnew
    rw [Fields.mem_names_addMissing, Fields.names_append, List.mem_append,
      not_or] at hprojectClasses
    refine ⟨hnodup,
      fun hmem => hfree (mem_names_collectTypes.mpr (Or.inr ⟨_, List.mem_cons_self, hmem⟩)), ?_⟩
    intro name hname hmem
    have hcollected : name ∈ Fields.names (Schema.collectTypes [.classes r version, .files]) :=
      mem_names_collectTypes.mpr (Or.inr ⟨_, List.mem_cons_self, hmem⟩)
    rcases List.mem_append.mp hname with hbase | hproj
    · exact hdisjoint hbase hmem
    · rcases List.mem_cons.mp hproj with rfl | hproj
      · exact hproject hcollected
      · exact hprojectClasses.1 (List.mem_singleton.mp hproj ▸ hcollected)
  · rintro ⟨hnodup, hfree, htaken⟩
    have hproject := htaken Domain.projectTypeName (List.mem_append_right _ (by decide))
    have hprojectClasses :=
      htaken Domain.projectClassesTypeName (List.mem_append_right _ (by decide))
    refine ⟨Fields.allNew_iff.mpr ⟨hnodup,
      fun name hbase => htaken name (List.mem_append_left _ hbase)⟩, ?_, ?_, ?_⟩
    · simp only [mem_names_collectTypes, List.mem_singleton, exists_eq_left, not_or]
      exact ⟨hfile, hfree⟩
    · simp only [mem_names_collectTypes, List.mem_cons, List.not_mem_nil, or_false,
        exists_eq_or_imp, exists_eq_left, not_or]
      exact ⟨hprojectBase, hproject, hprojectFiles⟩
    · simp only [Fields.mem_names_addMissing, Fields.names_append, mem_names_collectTypes,
        List.mem_append, List.mem_cons, List.not_mem_nil, or_false, exists_eq_or_imp,
        exists_eq_left, not_or]
      exact ⟨⟨hclassesBase, hprojectClasses, hclassesFiles⟩, by simpa [Fields.names] using hne⟩

theorem collectTypes_eq (r : Registry) (version : Int) :
    Schema.collectTypes [.classes r version, .files, .project] = Fields.addMissing Schema.baseTypes
      ((Domain.classes r version).types ++ (Domain.files.types ++ Domain.project.types)) := by
  rw [Schema.collectTypes, List.flatMap_cons, List.flatMap_cons, List.flatMap_singleton]

/-- Types of files and the project are found when no class has their names. -/
theorem get?_collectTypes_fixed {r : Registry} {version : Int} (h : r.TypesRegistered version)
    {entry : String × TypeDefinition}
    (hentry : entry ∈ [(fileClass, Domain.fileType), (Domain.projectTypeName, Domain.projectType),
      (Domain.projectClassesTypeName, Domain.projectClassesType)]) :
    Fields.get? (Schema.collectTypes [.classes r version, .files, .project]) entry.1 =
      some entry.2 := by
  obtain ⟨-, hfile, htaken⟩ := typesRegistered_iff_names.mp h
  simp only [List.mem_cons, List.not_mem_nil, or_false] at hentry
  have hnames : entry.1 ∈ fileClass :: takenNames := by
    rcases hentry with rfl | rfl | rfl <;> decide
  have hfree : entry.1 ∉ Fields.names (Domain.classes r version).types := by
    rcases List.mem_cons.mp hnames with he | hmem
    · exact he ▸ hfile
    · exact htaken _ hmem
  rw [collectTypes_eq, Fields.get?_addMissing, Fields.get?_append, Fields.get?_append,
    Fields.get?_eq_none hfree, Option.none_or]
  rcases hentry with rfl | rfl | rfl <;> rfl

/-- Every type of the classes goes under a name that is new, and those of the files and the project
are free when their turn comes, exactly when the names of the classes, plurals and fields keep all
types apart. Then the type that is found under each of these names is the one that is meant. -/
theorem typesRegistered_iff {json : Json} {r : Registry} (h : Registry.ofJson json = .ok r)
    (version : Int) :
    (r.TypesRegistered version ↔ r.TypesApart) ∧
    (r.TypesApart → ∀ entry ∈ (Domain.classes r version).types ++ [(fileClass, Domain.fileType),
        (Domain.projectTypeName, Domain.projectType),
        (Domain.projectClassesTypeName, Domain.projectClassesType)],
      Fields.get? (Schema.collectTypes [.classes r version, .files, .project]) entry.1 =
        some entry.2) := by
  obtain ⟨definitions, -, hr⟩ := ofJson_eq_ok h
  have hregistered : r.TypesRegistered version ↔ r.TypesApart := by
    rw [typesRegistered_iff_names, nodup_names_classes_iff hr, taken_notMem_iff]
    constructor
    · rintro ⟨⟨hclasses, hfilters⟩, -, hfree⟩
      exact ⟨hclasses, hfilters, hfree⟩
    · rintro ⟨hclasses, hfilters, hfree⟩
      refine ⟨⟨hclasses, hfilters⟩, fun hmem => ?_, hfree⟩
      obtain ⟨c, hc, hname⟩ := (mem_names_classes_fixed List.mem_cons_self).mp hmem
      exact name_ne_fileClass hr hc hname.symm
  refine ⟨hregistered, fun hapart entry hentry => ?_⟩
  have hall := hregistered.mpr hapart
  rcases List.mem_append.mp hentry with hclass | hfixed
  · rw [collectTypes_eq]
    exact Fields.get?_addMissing_of_allNew hall.classes _ hclass
  · exact get?_collectTypes_fixed hall hfixed

end Registry

namespace Sample

/-- Definitions of classes with a text, by their names and plurals. -/
def titledJson (names : List (String × String)) : Json :=
  .object (names.map fun (name, plural) =>
    (name, .object [("fields", .object [("title", .string "string")]),
      ("options", .object [("plural", .string plural)])]))

/-- A class with a text. -/
def titled (name plural : String) : ClassInfo :=
  ⟨name, some plural, [⟨"title", .scalar .string, false, none⟩]⟩

/-- The classes of posts and of pages. -/
def postsAndPages : Registry :=
  ⟨[titled "Post" "posts", titled "Page" "pages"]⟩

end Sample

namespace Registry

/-- The types of posts and pages are registered, and found beside those of files and the project. -/
theorem typesRegistered_iff_posts :
    Registry.ofJson (Sample.titledJson [("post", "posts"), ("page", "pages")]) =
      .ok Sample.postsAndPages ∧
    Sample.postsAndPages.TypesApart ∧ Sample.postsAndPages.TypesRegistered 1 ∧
    Fields.get? (Schema.collectTypes [.classes Sample.postsAndPages 1, .files, .project]) "Post" =
      some (Sample.titled "Post" "posts").objectType := by
  have haccepted : Registry.ofJson (Sample.titledJson [("post", "posts"), ("page", "pages")]) =
      .ok Sample.postsAndPages := eq_ok_of_classes (by decide +kernel)
  have hfilters : ∀ name ∈ (Sample.titled "Post" "posts").filters.map Prod.snd,
      name ∉ (Sample.titled "Page" "pages").filters.map Prod.snd := by decide +kernel
  have hpost : (Sample.titled "Post" "posts").TypesApart (Sample.titled "Page" "pages") :=
    ⟨by decide +kernel, by decide, by decide, hfilters⟩
  have hpage : (Sample.titled "Page" "pages").TypesApart (Sample.titled "Post" "posts") :=
    ⟨by decide +kernel, by decide, by decide, List.disjoint_symm hfilters⟩
  have hapart : Sample.postsAndPages.TypesApart := by
    refine ⟨fun c hc other hother hne => ?_, by decide +kernel, by decide⟩
    simp only [Sample.postsAndPages, List.mem_cons, List.not_mem_nil, or_false] at hc hother
    rcases hc with rfl | rfl <;> rcases hother with rfl | rfl
    · exact absurd rfl hne
    · exact hpost
    · exact hpage
    · exact absurd rfl hne
  obtain ⟨hregistered, hfound⟩ := typesRegistered_iff haccepted 1
  exact ⟨haccepted, hapart, hregistered.mpr hapart,
    hfound hapart ("Post", (Sample.titled "Post" "posts").objectType) List.mem_cons_self⟩

/-- A class that is named as the type that describes a page is accepted, and the type that is found
under its name is not its own. -/
theorem exists_type_discarded :
    Registry.ofJson (Sample.titledJson [("pageInfo", "infos")]) =
      .ok ⟨[Sample.titled "PageInfo" "infos"]⟩ ∧
    ¬ (⟨[Sample.titled "PageInfo" "infos"]⟩ : Registry).TypesRegistered 1 ∧
    Fields.get?
        (Schema.collectTypes [.classes ⟨[Sample.titled "PageInfo" "infos"]⟩ 1, .files, .project])
        "PageInfo" =
      some Schema.pageInfo ∧
    Schema.pageInfo.memberNames ≠ (Sample.titled "PageInfo" "infos").objectType.memberNames := by
  refine ⟨eq_ok_of_classes (by decide +kernel), fun h => ?_, ?_, by decide⟩
  · exact h.classes.1 (by decide)
  · rw [Schema.collectTypes, Fields.get?_addMissing, Fields.get?_append]
    rfl

end Registry

end ClassApi
