import ClassApi.Language.Reader
import ClassApi.Proofs.DeclaredFields
import ClassApi.Proofs.MemberNames
import ClassApi.Proofs.TypeNames
import ClassApi.Proofs.WordCuts

/-!
# The grammar of names

A request can only name what is spelled as a name of the language: a letter or underscore of ASCII,
then letters, digits and underscores. Generated names put texts of the definitions between fixed
parts. Names in camel case keep only the letters and digits of a text, so they are spelled well when
the first of these is a letter; the names of classes and plurals are capitalised and otherwise left
as they are, so there every character counts.
-/

namespace ClassApi

namespace Language

/-! ## Names of the language -/

/-- Whether a text can be the rest of a name. -/
def ContinuesName (text : String) : Prop :=
  ∀ c ∈ text.toList, continuesName c = true

/-- Whether a text is a name of the language. -/
def IsName (text : String) : Prop :=
  ContinuesName text ∧ ∃ c, Naming.initial text = some c ∧ startsName c = true

/-- Whether there is a letter or digit in a text, and the first of them is a letter. -/
def LetterFirst (text : String) : Prop :=
  ∃ c, text.toList.find? Char.isAlphanum = some c ∧ c.isAlpha = true

instance (text : String) : Decidable (ContinuesName text) :=
  List.decidableBAll (fun c => continuesName c = true) text.toList

instance (text : String) : Decidable (IsName text) :=
  decidable_of_iff (ContinuesName text ∧ (Naming.initial text).any startsName = true)
    (by rw [Option.any_eq_true]; rfl)

instance (text : String) : Decidable (LetterFirst text) :=
  decidable_of_iff ((text.toList.find? Char.isAlphanum).any Char.isAlpha = true)
    (by rw [Option.any_eq_true]; rfl)

variable {text other : String}

theorem continuesName_of_isAlphanum {c : Char} (h : c.isAlphanum = true) :
    continuesName c = true := by
  rw [continuesName, h, Bool.true_or]

theorem startsName_eq_isAlpha {c : Char} (h : c.isAlphanum = true) : startsName c = c.isAlpha := by
  have hne : c ≠ '_' := fun he => absurd (he ▸ h) (by decide)
  rw [startsName, beq_false_of_ne hne, Bool.or_false]

theorem ContinuesName.of_alphanum (h : Naming.AllAlphanum text.toList) : ContinuesName text :=
  fun c hc => continuesName_of_isAlphanum (h c hc)

theorem continuesName_append_iff :
    ContinuesName (text ++ other) ↔ ContinuesName text ∧ ContinuesName other := by
  rw [ContinuesName, String.toList_append, List.forall_mem_append]
  rfl

theorem IsName.append (h : IsName text) (hother : ContinuesName other) :
    IsName (text ++ other) := by
  obtain ⟨hcontinues, c, hc, hstarts⟩ := h
  refine ⟨continuesName_append_iff.mpr ⟨hcontinues, hother⟩, c, ?_, hstarts⟩
  rw [Naming.initial_append, hc, Option.some_or]

/-- What continues a name is one itself when its first letter or digit is a letter. -/
theorem ContinuesName.isName (h : ContinuesName text) (hletter : LetterFirst text) :
    IsName text := by
  obtain ⟨letter, hfind, halpha⟩ := hletter
  refine ⟨h, ?_⟩
  rw [ContinuesName] at h
  rw [Naming.initial]
  cases htext : text.toList with
  | nil =>
    rw [htext] at hfind
    cases hfind
  | cons c rest =>
    rw [htext] at h hfind
    refine ⟨c, rfl, ?_⟩
    rw [startsName, Bool.or_eq_true]
    by_cases halphanum : c.isAlphanum = true
    · rw [List.find?_cons_of_pos halphanum] at hfind
      cases hfind
      exact Or.inl halpha
    · exact Or.inr ((Bool.or_eq_true_iff.mp (h c List.mem_cons_self)).resolve_left halphanum)

/-- In a name of letters and digits the first one is a letter. -/
theorem IsName.letterFirst (h : IsName text) (halphanum : Naming.AllAlphanum text.toList) :
    LetterFirst text := by
  obtain ⟨-, c, hc, hstarts⟩ := h
  rw [Naming.initial, List.head?_eq_some_iff] at hc
  obtain ⟨rest, htext⟩ := hc
  have hplain : c.isAlphanum = true := halphanum c (htext ▸ List.mem_cons_self)
  rw [startsName_eq_isAlpha hplain] at hstarts
  exact ⟨c, by rw [htext, List.find?_cons_of_pos hplain], hstarts⟩

theorem LetterFirst.append (h : LetterFirst text) (other : String) :
    LetterFirst (text ++ other) := by
  obtain ⟨c, hfind, halpha⟩ := h
  refine ⟨c, ?_, halpha⟩
  rw [String.toList_append, List.find?_append, hfind, Option.some_or]

end Language

namespace Naming

open ClassApi.Language

variable {text : String}

/-! ## Texts that give names -/

theorem continuesName_upperFirst (h : ContinuesName text) : ContinuesName (upperFirst text) := by
  rw [ContinuesName] at h ⊢
  rw [upperFirst]
  cases htext : text.toList with
  | nil => exact fun c hc => absurd hc List.not_mem_nil
  | cons c rest =>
    rw [htext, List.forall_mem_cons] at h
    simp only [String.toList_ofList]
    have hcapital : upperChar c = [c.toUpper] ∧ continuesName c.toUpper = true := by
      rcases Bool.or_eq_true_iff.mp h.1 with halphanum | hunderscore
      · exact ⟨upperChar_ascii (toNat_lt_of_isAlphanum halphanum),
          continuesName_of_isAlphanum (alphanum_facts halphanum).1⟩
      · rw [beq_iff_eq.mp hunderscore]
        exact ⟨upperChar_ascii (by decide), by decide⟩
    rw [hcapital.1, List.singleton_append, List.forall_mem_cons]
    exact ⟨hcapital.2, h.2⟩

/-- A text gives a name in camel case when its first letter or digit is a letter. -/
theorem isName_camelCase_iff : IsName (camelCase text) ↔ LetterFirst text := by
  rw [IsName, and_iff_right (ContinuesName.of_alphanum (camelCase_alphanum text)),
    initial_camelCase_eq, LetterFirst]
  constructor
  · rintro ⟨c, hc, hstarts⟩
    obtain ⟨d, hd, rfl⟩ := Option.map_eq_some_iff.mp hc
    rw [startsName_eq_isAlpha (alphanum_facts (List.find?_some hd)).2, isAlpha_toLower] at hstarts
    exact ⟨d, hd, hstarts⟩
  · rintro ⟨d, hd, halpha⟩
    refine ⟨d.toLower, congrArg (Option.map Char.toLower) hd, ?_⟩
    rw [startsName_eq_isAlpha (alphanum_facts (List.find?_some hd)).2, isAlpha_toLower, halpha]

theorem isName_screamingSnakeCase (h : LetterFirst text) : IsName (screamingSnakeCase text) := by
  have hwords : ∀ word ∈ (words text).map String.toUpper, ContinuesName word := by
    intro word hword
    obtain ⟨given, hgiven, rfl⟩ := List.mem_map.mp hword
    obtain ⟨cs, hcs, rfl⟩ := List.mem_map.mp hgiven
    intro c hc
    rw [toList_toUpper, String.toList_ofList] at hc
    obtain ⟨d, hd, rfl⟩ := List.mem_map.mp hc
    exact continuesName_of_isAlphanum
      (alphanum_facts (splitWords_alphanum text.toList AllAlphanum.nil cs hcs d hd)).1
  have hjoined : ∀ parts : List String, (∀ part ∈ parts, ContinuesName part) →
      ContinuesName ("_".intercalate parts) := by
    intro parts hparts
    induction parts with
    | nil => exact fun c hc => absurd hc List.not_mem_nil
    | cons part rest ih =>
      obtain ⟨hpart, hrest⟩ := List.forall_mem_cons.mp hparts
      cases rest with
      | nil => rwa [String.intercalate_singleton]
      | cons next rest =>
        rw [String.intercalate_cons_of_ne_nil (List.cons_ne_nil _ _), continuesName_append_iff,
          continuesName_append_iff]
        exact ⟨⟨hpart, by decide⟩, ih hrest⟩
  obtain ⟨c, hc, halpha⟩ := h
  refine ⟨hjoined _ hwords, c.toUpper, by
    rw [initial_screamingSnakeCase_eq, hc, Option.map_some], ?_⟩
  rw [startsName_eq_isAlpha (alphanum_facts (List.find?_some hc)).1, isAlpha_toUpper, halpha]

end Naming

/-! ## The names that a domain defines -/

/-- The names in a field: its own and those of its arguments. -/
def FieldDefinition.definedNames (f : FieldDefinition) : List String :=
  f.name :: f.arguments.map InputMember.name

/-- The names in a type: those of its fields with their arguments, of its members, or of its
items. -/
def TypeDefinition.definedNames : TypeDefinition → List String
  | scalar _ => []
  | object type => type.fields.flatMap FieldDefinition.definedNames
  | interface _ fields => fields.map InterfaceField.name
  | input members => members.map InputMember.name
  | enum items => items

/-- All names that a domain defines: those of types, fields, arguments, members and items. -/
def Domain.definedNames (d : Domain) : List String :=
  d.types.flatMap (fun entry => entry.1 :: entry.2.definedNames) ++
    (d.queries ++ d.mutations).flatMap FieldDefinition.definedNames

/-- Whether the texts of a definition give names of the language. -/
structure ClassDefinition.WellSpelled (d : ClassDefinition) : Prop where
  /-- The capitalised name of the class is left as it is. -/
  name : Language.ContinuesName (Naming.upperFirst d.name) ∧
    Language.LetterFirst (Naming.upperFirst d.name)
  /-- So is a plural inside the names of types. -/
  plural : ∀ plural, d.plural = some plural →
    Language.ContinuesName (Naming.upperFirst plural) ∧ Language.LetterFirst plural
  /-- The names of fields are put in camel case. -/
  fields : ∀ name ∈ Fields.names d.fields, Language.LetterFirst name

namespace ClassInfo

open ClassApi.Language

/-- Whether the texts of a class give names of the language. -/
structure WellSpelled (c : ClassInfo) : Prop where
  /-- The name of the class does as it is. -/
  name : ContinuesName c.name ∧ LetterFirst c.name
  /-- The plural does, capitalised and in camel case. -/
  plural : ContinuesName c.pluralTypeName ∧ LetterFirst c.pluralName
  /-- The names of the fields are such names already. -/
  fields : ∀ f ∈ c.fields, IsName f.name

section Class

variable {c : ClassInfo}

theorem isName_typeNames (h : c.WellSpelled) : ∀ name ∈ Fields.names c.types, IsName name := by
  have hclass : IsName c.name := h.name.1.isName h.name.2
  have hfilter : IsName c.filterTypeName :=
    ((by decide : IsName "filter").append h.plural.1).append (by decide)
  rw [names_types, inputNames, mutationNames, filterNames_eq]
  simp only [List.forall_mem_append, List.forall_mem_cons, List.forall_mem_flatMap, objectNames]
  refine ⟨⟨hclass, hclass.append (by decide), hclass.append (by decide), List.forall_mem_nil _⟩,
    ?filters, ?order, ?mutations⟩
  case filters =>
    split
    · exact List.forall_mem_nil _
    · refine List.forall_mem_append.mpr ⟨List.forall_mem_map.mpr fun filter hmem => ?_,
        List.forall_mem_singleton.mpr hfilter⟩
      obtain ⟨hfield, ending, hending, hname⟩ := of_mem_filters hmem
      have hcontinues : ContinuesName ending := by
        cases hkind : filter.1.scalar <;> rw [hkind] at hending <;> cases hending <;> decide
      rw [hname]
      exact (hfilter.append (Naming.continuesName_upperFirst (h.fields _ hfield).1)).append
        hcontinues
  case order => exact ((by decide : IsName "order").append h.plural.1).append (by decide)
  case mutations =>
    intro kind _
    have hverb : IsName (kind.fieldName c.name) :=
      IsName.append (by cases kind <;> decide) h.name.1
    exact ⟨hverb.append (by decide), hverb.append (by decide), List.forall_mem_nil _⟩

theorem isName_definedNames_field {f : FieldDefinition} (h : IsName f.name)
    (harguments : ∀ a ∈ f.arguments, IsName a.name) : ∀ name ∈ f.definedNames, IsName name :=
  List.forall_mem_cons.mpr ⟨h, List.forall_mem_map.mpr harguments⟩

theorem isName_pageArguments : ∀ a ∈ pageArguments, IsName a.name := by
  decide

theorem isName_inputMembers (h : c.WellSpelled) (mode : FieldMode) :
    ∀ m ∈ c.inputMembers mode, IsName m.name :=
  List.forall_mem_map.mpr h.fields

theorem isName_listField (h : c.WellSpelled) : ∀ name ∈ c.listField.definedNames, IsName name := by
  refine isName_definedNames_field (Naming.isName_camelCase_iff.mpr h.plural.2) ?_
  refine List.forall_mem_append.mpr ⟨isName_pageArguments, List.forall_mem_append.mpr ⟨?_, ?_⟩⟩
  · split
    · exact List.forall_mem_nil _
    · exact List.forall_mem_singleton.mpr (by decide : IsName "filters")
  · exact List.forall_mem_singleton.mpr (by decide : IsName "orderBy")

theorem isName_queryFields (h : c.WellSpelled) :
    ∀ f ∈ c.queryFields, ∀ name ∈ f.definedNames, IsName name := by
  have hsingle : IsName c.singleQueryName := Naming.isName_camelCase_iff.mpr h.name.2
  have hid : IsName "id" := by decide
  simp only [queryFields, List.forall_mem_cons]
  refine ⟨isName_listField h, ?_, ?_, List.forall_mem_nil _⟩
  · exact isName_definedNames_field hsingle (List.forall_mem_cons.mpr ⟨hid,
      isName_inputMembers h .input⟩)
  · exact isName_definedNames_field (hsingle.append (by decide)) (List.forall_mem_singleton.mpr hid)

theorem isName_mutationFields (h : c.WellSpelled) (version : Int) :
    ∀ f ∈ c.mutationFields version, ∀ name ∈ f.definedNames, IsName name := by
  refine List.forall_mem_map.mpr fun kind _ => ?_
  refine isName_definedNames_field ?_ (List.forall_mem_singleton.mpr (by decide : IsName "input"))
  exact IsName.append (by cases kind <;> decide) h.name.1

/-- The members to sort by, provided that the names of fields are in camel case. -/
theorem isName_orderItems (h : c.WellSpelled)
    (hplain : ∀ f ∈ c.fields, Naming.AllAlphanum f.name.toList) :
    ∀ item ∈ c.orderItems, IsName item.name := by
  have hpair : ∀ name key, LetterFirst name → ∀ item ∈ orderPair name key, IsName item.name := by
    intro name key hname
    simp only [orderPair, List.forall_mem_cons]
    exact ⟨Naming.isName_screamingSnakeCase (hname.append _),
      Naming.isName_screamingSnakeCase (hname.append _), List.forall_mem_nil _⟩
  refine List.forall_mem_append.mpr ⟨List.forall_mem_append.mpr ⟨?_, ?_⟩,
    List.forall_mem_flatMap.mpr fun name hname => ?_⟩
  · exact hpair _ _ (by decide)
  · exact hpair _ _ (by decide)
  · obtain ⟨f, hf, hsortable⟩ := List.mem_filterMap.mp hname
    split at hsortable
    · cases hsortable
      exact hpair _ _ ((h.fields f hf).letterFirst (hplain f hf))
    · cases hsortable

theorem isName_types (h : c.WellSpelled)
    (hplain : ∀ f ∈ c.fields, Naming.AllAlphanum f.name.toList) :
    ∀ entry ∈ c.types, ∀ name ∈ entry.2.definedNames, IsName name := by
  refine forall_types (P := fun type => ∀ name ∈ type.definedNames, IsName name)
    ?object ?connection ?edge ?fieldFilter ?filter ?order ?input ?payload
  case object =>
    refine List.forall_mem_flatMap.mpr (List.forall_mem_append.mpr ⟨List.forall_mem_map.mpr
      fun f hf => ?_, by decide⟩)
    refine isName_definedNames_field (h.fields f hf) ?_
    show ∀ a ∈ f.arguments, IsName a.name
    rw [ClassField.arguments]
    split
    · exact isName_pageArguments
    · exact List.forall_mem_nil _
  case connection => exact (by decide : ∀ name ∈ ["pageInfo", "edges", "totalCount"], IsName name)
  case edge => exact (by decide : ∀ name ∈ ["node", "cursor"], IsName name)
  case fieldFilter =>
    have hoperators : ∀ kind : ScalarKind, ∀ operator ∈ kind.filterOperators, IsName operator := by
      intro kind
      cases kind <;> decide
    exact fun f => List.forall_mem_map.mpr (List.forall_mem_map.mpr (hoperators f.scalar))
  case filter =>
    exact List.forall_mem_map.mpr (List.forall_mem_map.mpr fun filter hmem =>
      h.fields _ (of_mem_filters hmem).1)
  case order =>
    intro name hname
    obtain ⟨item, hitem, rfl⟩ := List.mem_map.mp (List.mem_eraseDups.mp hname)
    exact isName_orderItems h hplain item hitem
  case input =>
    intro kind
    have hid : IsName "id" := by decide
    refine List.forall_mem_map.mpr (List.forall_mem_append.mpr ⟨?_,
      List.forall_mem_singleton.mpr (by decide)⟩)
    cases kind with
    | create => exact isName_inputMembers h .input
    | update => exact List.forall_mem_append.mpr ⟨isName_inputMembers h .input,
      List.forall_mem_singleton.mpr hid⟩
    | replace => exact List.forall_mem_append.mpr ⟨isName_inputMembers h .strictInput,
      List.forall_mem_singleton.mpr hid⟩
    | remove => exact List.forall_mem_singleton.mpr hid
    | recover => exact List.forall_mem_singleton.mpr hid
  case payload =>
    intro kind
    have hrecord : IsName (kind.payloadFieldName c.name) := by
      cases kind with
      | remove => exact ((by decide : IsName "removed").append h.name.1).append (by decide)
      | create => exact (by decide : IsName "created").append h.name.1
      | update => exact (by decide : IsName "updated").append h.name.1
      | replace => exact (by decide : IsName "replaced").append h.name.1
      | recover => exact (by decide : IsName "recovered").append h.name.1
    have hfield : ∀ name ∈ (c.payloadField kind).definedNames, IsName name := by
      cases kind <;> exact isName_definedNames_field hrecord (List.forall_mem_nil _)
    refine List.forall_mem_flatMap.mpr (List.forall_mem_cons.mpr ⟨by decide,
      List.forall_mem_cons.mpr ⟨hfield, ?_⟩⟩)
    exact List.forall_mem_singleton.mpr (isName_listField h)

/-- The names of a class are names of the language exactly when its texts give such names. -/
theorem wellSpelled_iff (hplain : ∀ f ∈ c.fields, Naming.AllAlphanum f.name.toList)
    (version : Int) :
    ((∀ entry ∈ c.types, ∀ name ∈ entry.1 :: entry.2.definedNames, IsName name) ∧
      (∀ f ∈ c.queryFields, ∀ name ∈ f.definedNames, IsName name) ∧
      ∀ f ∈ c.mutationFields version, ∀ name ∈ f.definedNames, IsName name) ↔ c.WellSpelled := by
  constructor
  · rintro ⟨htypes, hqueries, -⟩
    have hname : ∀ name ∈ Fields.names c.types, IsName name :=
      List.forall_mem_map.mpr fun entry hentry => htypes entry hentry _ List.mem_cons_self
    have hobject : (c.name, c.objectType) ∈ c.types := by
      simp only [types, List.append_assoc]
      exact List.mem_append_left _ List.mem_cons_self
    have horder : IsName c.orderTypeName :=
      hname _ (c.names_types ▸ List.mem_append_right _ (List.mem_append_right _ List.mem_cons_self))
    have hlist : IsName c.listQueryName := hqueries _ List.mem_cons_self _ List.mem_cons_self
    have hsingle : IsName c.singleQueryName :=
      hqueries _ (List.mem_cons_of_mem _ List.mem_cons_self) _ List.mem_cons_self
    refine ⟨⟨(htypes _ hobject _ List.mem_cons_self).1, Naming.isName_camelCase_iff.mp hsingle⟩,
      ⟨?_, Naming.isName_camelCase_iff.mp hlist⟩, fun f hf => ?_⟩
    · exact (continuesName_append_iff.mp (continuesName_append_iff.mp horder.1).1).2
    · refine htypes _ hobject _ (List.mem_cons_of_mem _
        (List.mem_flatMap.mpr ⟨f.definition, ?_, List.mem_cons_self⟩))
      exact List.mem_append_left _ (List.mem_map_of_mem hf)
  · intro h
    refine ⟨fun entry hentry => List.forall_mem_cons.mpr ⟨?_, isName_types h hplain entry hentry⟩,
      isName_queryFields h, isName_mutationFields h version⟩
    exact isName_typeNames h _ (List.mem_map_of_mem hentry)

/-- A class is spelled as its definition is. -/
theorem Declared.wellSpelled_iff {d : ClassDefinition} (h : Declared d c) :
    c.WellSpelled ↔ d.WellSpelled := by
  have hfields : (∀ f ∈ c.fields, IsName f.name) ↔
      ∀ name ∈ Fields.names d.fields, LetterFirst name := by
    rw [← List.forall_mem_map (P := IsName), h.map_name, List.forall_mem_map]
    exact forall₂_congr fun name _ => Naming.isName_camelCase_iff
  have hplural : ContinuesName c.name ∧ LetterFirst c.name →
      ((ContinuesName c.pluralTypeName ∧ LetterFirst c.pluralName) ↔
          ∀ plural, d.plural = some plural → ContinuesName (Naming.upperFirst plural) ∧
              LetterFirst plural) := by
    intro hname
    rw [pluralTypeName, pluralName, h.plural]
    cases d.plural with
    | some plural => simp
    | none =>
      have hadded : ContinuesName (c.name ++ "s") :=
        continuesName_append_iff.mpr ⟨hname.1, by decide⟩
      exact iff_of_true ⟨Naming.continuesName_upperFirst hadded, hname.2.append _⟩ nofun
  constructor
  · rintro ⟨hname, hp, hf⟩
    exact ⟨h.name ▸ hname, (hplural hname).mp hp, hfields.mp hf⟩
  · rintro ⟨hname, hp, hf⟩
    rw [← h.name] at hname
    exact ⟨hname, (hplural hname).mpr hp, hfields.mpr hf⟩

end Class

end ClassInfo

namespace Registry

open ClassApi.Language

/-- The types, fields, arguments, members and items that accepted classes define have names of the
language exactly when the texts of the definitions give such names. -/
theorem isName_definedNames_iff {json : Json} {r : Registry} (h : Registry.ofJson json = .ok r)
    (version : Int) :
    ∃ definitions, ClassDefinition.listOfJson json = .ok definitions ∧
      ((∀ name ∈ (Domain.classes r version).definedNames, IsName name) ↔
        ∀ d ∈ definitions, d.WellSpelled) := by
  obtain ⟨definitions, hread, hr⟩ := ofJson_eq_ok h
  refine ⟨definitions, hread, ?_⟩
  have hplain : ∀ c ∈ r.classes, ∀ f ∈ c.fields, Naming.AllAlphanum f.name.toList := by
    intro c hc f hf
    obtain ⟨rawName, hraw⟩ := exists_camelCase hr hc hf
    exact hraw ▸ Naming.camelCase_alphanum rawName
  have hclasses : (∀ name ∈ (Domain.classes r version).definedNames, IsName name) ↔
      ∀ c ∈ r.classes, c.WellSpelled := by
    have hnode : ∀ name ∈ (Domain.nodeField r).definedNames, IsName name :=
      ClassInfo.isName_definedNames_field (by decide : IsName "node")
        (List.forall_mem_singleton.mpr (by decide : IsName "id"))
    simp only [Domain.definedNames, Domain.classes, List.forall_mem_append, List.forall_mem_flatMap,
      List.forall_mem_singleton, and_iff_left hnode]
    rw [← forall₂_and, ← forall₂_and]
    exact forall₂_congr fun c hc => ClassInfo.wellSpelled_iff (hplain c hc) version
  have hdeclared := declared_classes hr
  rw [hclasses]
  constructor
  · intro hall d hd
    obtain ⟨c, hc, hdc⟩ := exists_of_forall₂ hdeclared.flip hd
    exact (ClassInfo.Declared.wellSpelled_iff hdc).mp (hall c hc)
  · intro hall c hc
    obtain ⟨d, hd, hdc⟩ := exists_of_forall₂ hdeclared hc
    exact (ClassInfo.Declared.wellSpelled_iff hdc).mpr (hall d hd)

/-- Users with a first and a last name. -/
theorem isName_definedNames_iff_names :
    Registry.ofJson (Sample.userJson "first_name" "last_name") =
      .ok ⟨[Sample.userWith "firstName" "lastName"]⟩ ∧
    ∀ name ∈ (Domain.classes ⟨[Sample.userWith "firstName" "lastName"]⟩ 1).definedNames,
      IsName name := by
  have haccepted : Registry.ofJson (Sample.userJson "first_name" "last_name") =
      .ok ⟨[Sample.userWith "firstName" "lastName"]⟩ := eq_ok_of_classes (by decide +kernel)
  obtain ⟨definitions, hread, hiff⟩ := isName_definedNames_iff haccepted 1
  cases hread
  refine ⟨haccepted,
    hiff.mpr (List.forall_mem_singleton.mpr ⟨by decide +kernel, nofun, by decide +kernel⟩)⟩

end Registry

namespace Sample

/-- Definitions of a class whose name has a hyphen. -/
def hyphenatedJson : Json :=
  .object [("user-profile", .object [("title", .string "string")])]

/-- The class whose name has a hyphen. -/
def hyphenated : ClassInfo :=
  ⟨"User-profile", none, [⟨"title", .scalar .string, false, none⟩]⟩

end Sample

namespace Registry

open ClassApi.Language

/-- A class whose name has a hyphen is accepted. Its type and its mutations are named with the
hyphen, and what is read of the name of a mutation ends before it. -/
theorem exists_unspellable :
    Registry.ofJson Sample.hyphenatedJson = .ok ⟨[Sample.hyphenated]⟩ ∧
    (∀ name ∈ ["User-profile", "createUser-profile"],
      name ∈ (Domain.classes ⟨[Sample.hyphenated]⟩ 1).definedNames ∧ ¬ IsName name) ∧
    takeNameHere "createUser-profile".toList = some ("createUser", "-profile".toList) := by
  exact ⟨eq_ok_of_classes (by decide +kernel), by decide +kernel, by decide +kernel⟩

end Registry

end ClassApi
