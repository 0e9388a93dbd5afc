import ClassApi.Proofs.Naming

/-!
# Which definitions are accepted

Registration goes over the definitions twice: it collects the names that relations may point at, and
then it brings one class after another into normal form. Here is said of the definitions themselves,
without the two passes, when both succeed. What the first pass collects depends on the definitions
only, so the second one checks each class and each field on its own, and a reference finds a class
wherever that class is declared.
-/

namespace ClassApi

/-! ## What a declaration has to say -/

namespace FieldSpec

/-- Whether a declaration of a single value is accepted where relations may point at the classes
with some keys. -/
inductive ElementValid (keys : List String) : FieldSpec → Prop where
  /-- The name of a type other than that of relations. -/
  | token {name : String} {kind : ScalarKind} (known : ScalarKind.ofToken name = some kind)
      (plain : kind ≠ .relation) :
      ElementValid keys (.token name)
  /-- Options with the name of a type, and for a relation with the class it points at. -/
  | detailed {options : FieldOptions} {kind : ScalarKind}
      (known : options.typeName.bind ScalarKind.ofToken = some kind)
      (refers : kind = .relation → ∃ reference, options.reference = some reference ∧
        lowerText reference ∈ keys) :
      ElementValid keys (.detailed options)

/-- Whether the declaration of a field is accepted. -/
inductive Valid (keys : List String) : FieldSpec → Prop where
  /-- A single value. -/
  | single {spec : FieldSpec} (element : ElementValid keys spec) : Valid keys spec
  /-- A list of values. -/
  | list {item : FieldSpec} (element : ElementValid keys item) : Valid keys (.list [item])

/-- Whether a declaration is one of a list of values. -/
def isList : FieldSpec → Bool
  | .list _ => true
  | _ => false

/-- What a declaration says of a single value. The name of a type stands for options that name the
type alone. -/
def elementOptions : FieldSpec → FieldOptions
  | .token name =>
    { typeName := some name, reference := none, required := false, description := none }
  | .detailed options => options
  | .list _ => { typeName := none, reference := none, required := false, description := none }

/-- What a declaration says of its value, or of each of its values. -/
def options : FieldSpec → FieldOptions
  | .list [item] => item.elementOptions
  | spec => spec.elementOptions

end FieldSpec

namespace ClassDefinition

/-- Whether a declared field is accepted. -/
structure FieldValid (keys : List String) (field : String × FieldSpec) : Prop where
  /-- The name in camel case does not belong to the system. -/
  notReserved : Naming.camelCase field.1 ∉ Registry.reservedFields
  /-- The name as written does not begin with the reserved prefix. -/
  notPrefixed : field.1.startsWith "_" = false
  /-- The declaration is accepted. -/
  declared : field.2.Valid keys

/-- Whether the names of the classes are accepted. -/
structure NamesValid (definitions : List ClassDefinition) : Prop where
  /-- No name begins with the reserved prefix. -/
  notPrefixed : ∀ d ∈ definitions, d.name.startsWith "_" = false
  /-- No name is that of the file class, whatever the case of its letters. -/
  notFile : ∀ d ∈ definitions, d.name.toLower ≠ "file"
  /-- Names differ in more than the case of their letters. -/
  distinct : (definitions.map key).Nodup
  /-- They differ so from that of the file class, too. -/
  free : "file" ∉ definitions.map key

/-- Whether a class is accepted where relations may point at the classes with some keys. -/
structure ClassValid (keys : List String) (d : ClassDefinition) : Prop where
  /-- Every field is accepted. -/
  fields : ∀ field ∈ d.fields, FieldValid keys field
  /-- The query for one object and that for many have different names. -/
  queries : Naming.camelCase (Naming.upperFirst d.name) ≠
    Naming.camelCase (d.plural.getD (Naming.upperFirst d.name ++ "s"))

/-- Whether definitions are accepted: relations may point at files and at all classes that are
declared among them. -/
structure Valid (definitions : List ClassDefinition) : Prop where
  /-- The names are accepted. -/
  names : NamesValid definitions
  /-- Every class is accepted. -/
  classes : ∀ d ∈ definitions, ClassValid ("file" :: definitions.map key) d

end ClassDefinition

/-! ## What is registered -/

/-- Whether a registered field is the declared one. -/
structure ClassField.Declared (declared : String × FieldSpec) (f : ClassField) : Prop where
  /-- It has the declared name in camel case. -/
  name : f.name = Naming.camelCase declared.1
  /-- It holds a list when that is declared. -/
  isList : f.isList = declared.2.isList
  /-- It holds values of the declared type. -/
  kind : declared.2.options.typeName.bind ScalarKind.ofToken = some f.scalar
  /-- It is required when that is declared. -/
  required : f.required = declared.2.options.required
  /-- It has the declared description. -/
  description : f.description = declared.2.options.description
  /-- A relation points at a class. -/
  pointing : f.scalar = .relation → ∃ target, f.target? = some target
  /-- It points at the class that the declaration refers to, whatever the case of the letters
  there. -/
  target : ∀ target, f.target? = some target →
    ∃ reference, declared.2.options.reference = some reference ∧
      lowerText reference = lowerText target

/-- Whether a registered class is the declared one. -/
structure ClassInfo.Declared (d : ClassDefinition) (c : ClassInfo) : Prop where
  /-- It has the declared name, capitalised. -/
  name : c.name = Naming.upperFirst d.name
  /-- It has the declared plural. -/
  plural : c.plural = d.plural
  /-- It has the declared fields in order. -/
  fields : List.Forall₂ ClassField.Declared d.fields c.fields

/-- Whether a registry holds the declared classes. -/
structure Registry.Declared (definitions : List ClassDefinition) (r : Registry) : Prop where
  /-- The classes are the declared ones in order. -/
  classes : List.Forall₂ ClassInfo.Declared definitions r.classes
  /-- A relation points at files or at a class of the registry, by the name that is in use for
  it. -/
  targets : ∀ c ∈ r.classes, ∀ f ∈ c.fields, ∀ target, f.target? = some target →
    r.canonicalName? target = some target ∧
    (target = fileClass ∨ ∃ other ∈ r.classes, other.name = target)

namespace Registry

/-! ## Fields -/

section Fields

variable {targets : Fields String} {unparsable : DefinitionError} {className rawName : String}
  {spec : FieldSpec}

/-- Whether what is resolved of a single value is what options say. -/
structure Element.Declared (targets : Fields String) (options : FieldOptions)
    (element : Element) : Prop where
  /-- The kind is the one that the type stands for. -/
  kind : options.typeName.bind ScalarKind.ofToken = some element.scalar
  /-- A value is required when the options say so. -/
  required : element.required = options.required
  /-- The description is that of the options. -/
  description : element.description = options.description
  /-- Relations, and they alone, point at a class. -/
  pointing : element.target.isSome = true ↔ element.scalar = .relation
  /-- The class is found under the name that the options refer to. -/
  target : ∀ target, element.target = some target →
    ∃ reference, options.reference = some reference ∧
      Fields.get? targets (lowerText reference) = some target

/-- A declaration of a single value that is resolved is accepted, and what is resolved is what it
says. -/
theorem of_resolveElement {element : Element}
    (h : resolveElement targets unparsable spec = .ok element) :
    spec.ElementValid (Fields.names targets) ∧ element.Declared targets spec.elementOptions := by
  revert h
  fun_cases resolveElement targets unparsable spec <;> intro h <;> cases h
  case case2 name kind plain known =>
    exact ⟨.token known plain, known, rfl, rfl, iff_of_false Bool.false_ne_true plain,
      fun _ htarget => nomatch htarget⟩
  case case7 options known reference refers target found =>
    refine ⟨.detailed known fun _ => ⟨reference, refers, Fields.exists_get?_iff.mp ⟨target, found⟩⟩,
      known, rfl, rfl, iff_of_true rfl rfl, fun _ htarget => ?_⟩
    cases htarget
    exact ⟨reference, refers, found⟩
  case case8 options kind plain known =>
    exact ⟨.detailed known fun hkind => absurd hkind plain, known, rfl, rfl,
      iff_of_false Bool.false_ne_true plain, fun _ htarget => nomatch htarget⟩

theorem exists_resolveElement (unparsable : DefinitionError)
    (h : spec.ElementValid (Fields.names targets)) :
    ∃ element, resolveElement targets unparsable spec = .ok element := by
  cases h with
  | @token name kind known plain =>
    refine ⟨⟨kind, none, false, none⟩, ?_⟩
    rw [resolveElement, known]
    cases kind with
    | relation => exact absurd rfl plain
    | _ => rfl
  | @detailed options kind known refers =>
    by_cases hkind : kind = .relation
    · obtain ⟨reference, hreference, hmem⟩ := refers hkind
      obtain ⟨target, found⟩ := Fields.exists_get?_iff.mpr hmem
      refine ⟨⟨.relation, some target, options.required, options.description⟩, ?_⟩
      rw [resolveElement, known, hkind]
      simp only [hreference, found]
    · refine ⟨⟨kind, none, options.required, options.description⟩, ?_⟩
      rw [resolveElement, known]
      cases kind with
      | relation => exact absurd rfl hkind
      | _ => rfl

theorem target?_kindOf {element : Element} {isList : Bool} {name : String} {required : Bool}
    {description : Option String} :
    ClassField.target? ⟨name, kindOf element isList, required, description⟩ = element.target := by
  cases hTarget : element.target <;> cases isList <;> simp [kindOf, ClassField.target?, hTarget]

theorem isList_kindOf {element : Element} {isList : Bool} {name : String} {required : Bool}
    {description : Option String} :
    ClassField.isList ⟨name, kindOf element isList, required, description⟩ = isList := by
  cases hTarget : element.target <;> cases isList <;> simp [kindOf, ClassField.isList, hTarget]

theorem scalar_kindOf {element : Element}
    (h : element.target.isSome = true → element.scalar = .relation) {isList : Bool} {name : String}
    {required : Bool} {description : Option String} :
    ClassField.scalar ⟨name, kindOf element isList, required, description⟩ = element.scalar := by
  cases htarget : element.target with
  | none => cases isList <;> simp [kindOf, ClassField.scalar, htarget]
  | some target =>
    have hscalar : element.scalar = .relation := h (by rw [htarget]; rfl)
    cases isList <;> simp [kindOf, ClassField.scalar, htarget, hscalar]

/-- A field is what the options say that its value, or each of its values, was resolved from. -/
theorem Element.Declared.field {element : Element} {options : FieldOptions}
    (h : element.Declared targets options) {name : String} {isList : Bool} :
    Element.Declared targets options ⟨ClassField.scalar ⟨name, kindOf element isList,
      element.required, element.description⟩,
      ClassField.target? ⟨name, kindOf element isList, element.required, element.description⟩,
      element.required, element.description⟩ := by
  rw [scalar_kindOf h.pointing.mp, target?_kindOf]
  exact h

/-- A field that is resolved is accepted, and what its declaration says. -/
theorem of_resolveField {f : ClassField} (h : resolveField targets className rawName spec = .ok f) :
    ClassDefinition.FieldValid (Fields.names targets) (rawName, spec) ∧ f.isList = spec.isList ∧
      Element.Declared targets spec.options ⟨f.scalar, f.target?, f.required, f.description⟩ := by
  rw [resolveField] at h
  split at h
  · cases h
  · rename_i hreserved
    have notReserved : Naming.camelCase rawName ∉ reservedFields :=
      fun hmem => hreserved (List.contains_iff_mem.mpr hmem)
    simp only at h
    split at h
    · cases h
    · rename_i hprefix
      have notPrefixed : rawName.startsWith "_" = false := Bool.eq_false_iff.mpr hprefix
      split at h
      · obtain ⟨_, hmapped, h⟩ := bind_eq_ok h
        obtain ⟨element, helement, rfl⟩ := map_eq_ok hmapped
        obtain ⟨hvalid, hdeclared⟩ := of_resolveElement helement
        cases h
        exact ⟨⟨notReserved, notPrefixed, .list hvalid⟩, isList_kindOf, hdeclared.field⟩
      · cases h
      · rename_i hlist
        obtain ⟨_, hmapped, h⟩ := bind_eq_ok h
        obtain ⟨element, helement, rfl⟩ := map_eq_ok hmapped
        obtain ⟨hvalid, hdeclared⟩ := of_resolveElement helement
        cases h
        have hsingle : spec.isList = false ∧ spec.options = spec.elementOptions := by
          cases hspec : spec with
          | list items => exact absurd hspec (hlist items)
          | _ => exact ⟨rfl, rfl⟩
        rw [hsingle.1, hsingle.2]
        exact ⟨⟨notReserved, notPrefixed, .single hvalid⟩, isList_kindOf, hdeclared.field⟩

theorem exists_resolveField (className : String)
    (h : ClassDefinition.FieldValid (Fields.names targets) (rawName, spec)) :
    ∃ f, resolveField targets className rawName spec = .ok f := by
  have hreserved : ¬ reservedFields.contains (Naming.camelCase rawName) = true :=
    fun hcontains => h.notReserved (List.contains_iff_mem.mp hcontains)
  have hprefix : ¬ rawName.startsWith reservedPrefix = true := Bool.eq_false_iff.mp h.notPrefixed
  have hdeclared : spec.Valid (Fields.names targets) := h.declared
  rw [resolveField, if_neg hreserved]
  simp only [if_neg hprefix]
  cases hdeclared with
  | single hvalid =>
    obtain ⟨element, helement⟩ := exists_resolveElement (.unparsableField rawName className) hvalid
    cases hvalid with
    | token known plain => exact ⟨_, by simp only [helement]; rfl⟩
    | detailed known refers => exact ⟨_, by simp only [helement]; rfl⟩
  | list hvalid =>
    obtain ⟨element, helement⟩ := exists_resolveElement (.unparsableField rawName className) hvalid
    exact ⟨_, by simp only [helement]; rfl⟩

end Fields

/-! ## Classes -/

section Classes

variable {targets : Fields String}

theorem resolveFields_eq_mapM (className : String) (declared : Fields FieldSpec) :
    resolveFields targets className declared =
      declared.mapM fun field => resolveField targets className field.1 field.2 := by
  induction declared with
  | nil => rfl
  | cons field rest ih =>
    rw [List.mapM_cons, ← ih]
    rfl

theorem resolveClasses_eq_mapM (definitions : List ClassDefinition) :
    resolveClasses targets definitions = definitions.mapM (resolveClass targets) := by
  induction definitions with
  | nil => rfl
  | cons definition rest ih =>
    rw [List.mapM_cons, ← ih]
    rfl

/-- A class is brought into normal form when its fields are and its queries have different names. -/
theorem resolveClass_eq_ok_iff {d : ClassDefinition} {c : ClassInfo} :
    resolveClass targets d = .ok c ↔
      (∃ fields, resolveFields targets (Naming.upperFirst d.name) d.fields = .ok fields ∧
        c = ⟨Naming.upperFirst d.name, d.plural, fields⟩) ∧
        c.singleQueryName ≠ c.listQueryName := by
  constructor
  · intro h
    obtain ⟨fields, hfields, h⟩ := bind_eq_ok h
    simp only at h
    split at h
    · cases h
    · rename_i hqueries
      cases h
      exact ⟨⟨fields, hfields, rfl⟩, hqueries⟩
  · rintro ⟨⟨fields, hfields, rfl⟩, hqueries⟩
    rw [resolveClass, hfields]
    simp only [bind, Except.bind, if_neg hqueries]
    rfl

theorem exists_resolveClass_iff {d : ClassDefinition} :
    (∃ c, resolveClass targets d = .ok c) ↔ d.ClassValid (Fields.names targets) := by
  constructor
  · rintro ⟨c, h⟩
    obtain ⟨⟨fields, hfields, rfl⟩, hqueries⟩ := resolveClass_eq_ok_iff.mp h
    refine ⟨fun field hmem => ?_, hqueries⟩
    rw [resolveFields_eq_mapM] at hfields
    obtain ⟨f, hf⟩ := exists_mapM_eq_ok_iff.mp ⟨fields, hfields⟩ field hmem
    exact (of_resolveField hf).1
  · intro h
    have hfields := exists_mapM_eq_ok_iff.mpr fun field hmem =>
      exists_resolveField (Naming.upperFirst d.name) (h.fields field hmem)
    rw [← resolveFields_eq_mapM] at hfields
    obtain ⟨fields, hfields⟩ := hfields
    exact ⟨⟨Naming.upperFirst d.name, d.plural, fields⟩,
      resolveClass_eq_ok_iff.mpr ⟨⟨fields, hfields, rfl⟩, h.queries⟩⟩

end Classes

/-! ## Registries -/

theorem toLower_fileClass : fileClass.toLower = "file" := by
  rw [← String.toList_inj, Naming.toList_toLower]
  decide

theorem lowerText_fileClass : lowerText fileClass = "file" := by
  have halphanum : Naming.AllAlphanum fileClass.toLower.toList := by
    rw [toLower_fileClass]
    exact List.all_eq_true.mp (by decide)
  rw [Naming.lowerText_eq_toLower halphanum, toLower_fileClass]

/-- The names that relations may point at: those of files and of the declared classes. -/
def targets (definitions : List ClassDefinition) : Fields String :=
  (lowerText fileClass, fileClass) :: definitions.map ClassDefinition.target

theorem names_targets (definitions : List ClassDefinition) :
    Fields.names (targets definitions) = "file" :: definitions.map ClassDefinition.key := by
  rw [Fields.names, targets, List.map_cons, List.map_map, lowerText_fileClass]
  rfl

theorem checkClassName_eq_ok_iff {name : String} :
    checkClassName name = .ok () ↔ name.startsWith "_" = false ∧ name.toLower ≠ "file" := by
  rw [checkClassName, toLower_fileClass, reservedPrefix]
  cases hprefix : name.startsWith "_" with
  | true => simp
  | false =>
    by_cases hname : name.toLower = "file"
    · simp [hname]
    · simp [hname]

/-- The names of the definitions are collected when they are accepted. -/
theorem collectTargets_file_eq_ok_iff {definitions : List ClassDefinition}
    {result : Fields String} :
    collectTargets definitions [(lowerText fileClass, fileClass)] = .ok result ↔
      ClassDefinition.NamesValid definitions ∧ result = targets definitions := by
  have hfile : Fields.names [(lowerText fileClass, fileClass)] = ["file"] := by
    rw [lowerText_fileClass]
    rfl
  rw [collectTargets_eq_ok_iff, hfile]
  simp only [checkClassName_eq_ok_iff, List.mem_singleton]
  constructor
  · rintro ⟨hnames, hfree, hdistinct, hresult⟩
    refine ⟨⟨fun d hd => (hnames d hd).1, fun d hd => (hnames d hd).2, hdistinct, fun hmem => ?_⟩,
      hresult⟩
    obtain ⟨d, hd, hkey⟩ := List.mem_map.mp hmem
    exact hfree d hd hkey
  · rintro ⟨h, hresult⟩
    exact ⟨fun d hd => ⟨h.notPrefixed d hd, h.notFile d hd⟩,
      fun d hd hkey => h.free (hkey ▸ List.mem_map_of_mem hd), h.distinct, hresult⟩

/-- Definitions give a registry when their names are accepted, and every class of it on its own. -/
theorem ofDefinitions_eq_ok_iff {definitions : List ClassDefinition} {r : Registry} :
    ofDefinitions definitions = .ok r ↔ ClassDefinition.NamesValid definitions ∧
      List.Forall₂ (fun d c => resolveClass (targets definitions) d = .ok c)
        definitions r.classes := by
  rw [← mapM_eq_ok_iff, ← resolveClasses_eq_mapM]
  constructor
  · intro h
    obtain ⟨_, hcollect, h⟩ := bind_eq_ok h
    obtain ⟨hnames, rfl⟩ := collectTargets_file_eq_ok_iff.mp hcollect
    obtain ⟨classes, hclasses, h⟩ := bind_eq_ok h
    cases h
    exact ⟨hnames, hclasses⟩
  · rintro ⟨hnames, hclasses⟩
    have hcollect := collectTargets_file_eq_ok_iff.mpr ⟨hnames, rfl⟩
    rw [ofDefinitions, hcollect]
    change (resolveClasses (targets definitions) definitions >>= fun classes => .ok ⟨classes⟩) =
      .ok r
    rw [hclasses]
    rfl

/-- A registry that is read comes from the definitions that are read. -/
theorem ofJson_eq_ok {json : Json} {r : Registry} (h : Registry.ofJson json = .ok r) :
    ∃ definitions, ClassDefinition.listOfJson json = .ok definitions ∧
      ofDefinitions definitions = .ok r :=
  bind_eq_ok h

/-- What relations may point at is found under its own name without regard to case. -/
theorem of_get?_targets {definitions : List ClassDefinition} {key target : String}
    (h : Fields.get? (targets definitions) key = some target) :
    key = lowerText target ∧ (target = fileClass ∨
      ∃ d ∈ definitions, Naming.upperFirst d.name = target) := by
  rcases List.mem_cons.mp (Fields.mem_of_get? h) with he | hmem
  · obtain ⟨rfl, rfl⟩ := Prod.mk.inj he
    exact ⟨rfl, Or.inl rfl⟩
  · obtain ⟨d, hd, he⟩ := List.mem_map.mp hmem
    obtain ⟨rfl, rfl⟩ := Prod.mk.inj he
    exact ⟨rfl, Or.inr ⟨d, hd, rfl⟩⟩

section Accepted

variable {definitions : List ClassDefinition} {r : Registry}

/-- The classes of a registry are the declared ones. -/
theorem declared_classes (h : ofDefinitions definitions = .ok r) :
    List.Forall₂ ClassInfo.Declared definitions r.classes := by
  refine (ofDefinitions_eq_ok_iff.mp h).2.imp fun d c hclass => ?_
  obtain ⟨⟨fields, hfields, rfl⟩, -⟩ := resolveClass_eq_ok_iff.mp hclass
  rw [resolveFields_eq_mapM, mapM_eq_ok_iff] at hfields
  refine ⟨rfl, rfl, hfields.imp fun field f hf => ?_⟩
  obtain ⟨-, hlist, hdeclared⟩ := of_resolveField hf
  refine ⟨name_resolveField hf, hlist, hdeclared.kind, hdeclared.required, hdeclared.description,
    fun hrelation => Option.isSome_iff_exists.mp (hdeclared.pointing.mpr hrelation),
      fun target ht => ?_⟩
  obtain ⟨reference, hreference, found⟩ := hdeclared.target target ht
  exact ⟨reference, hreference, (of_get?_targets found).1⟩

theorem map_key_classes (h : ofDefinitions definitions = .ok r) :
    r.classes.map (fun c => lowerText c.name) = definitions.map ClassDefinition.key := by
  have hkeys := (declared_classes h).imp (S := fun d c => d.key = lowerText c.name) fun d c hc => by
    rw [hc.name, ClassDefinition.key]
  rw [← List.forall₂_eq_eq_eq, List.forall₂_map_left_iff, List.forall₂_map_right_iff]
  exact (hkeys.imp fun _ _ he => he.symm).flip

/-- Classes of a registry are told apart by their names, without regard to case. -/
theorem eq_of_lowerText_name (h : ofDefinitions definitions = .ok r) {c other : ClassInfo}
    (hc : c ∈ r.classes) (hother : other ∈ r.classes)
    (hname : lowerText c.name = lowerText other.name) : c = other := by
  have hnodup : (r.classes.map fun c => lowerText c.name).Nodup := by
    rw [map_key_classes h]
    exact (ofDefinitions_eq_ok_iff.mp h).1.distinct
  exact List.inj_on_of_nodup_map hnodup hc hother hname

/-- A class is found under its name, and only under that, without regard to case. -/
theorem get?_eq_some_iff (h : ofDefinitions definitions = .ok r) {name : String} {c : ClassInfo} :
    r.get? name = some c ↔ c ∈ r.classes ∧ lowerText c.name = lowerText name := by
  rw [get?]
  constructor
  · intro hfind
    exact ⟨List.mem_of_find?_eq_some hfind, by simpa using List.find?_some hfind⟩
  · rintro ⟨hc, hname⟩
    cases hfind : r.classes.find? fun c => lowerText c.name = lowerText name with
    | none => exact absurd (decide_eq_true hname) (List.find?_eq_none.mp hfind c hc)
    | some other =>
      have hother : lowerText other.name = lowerText name := by simpa using List.find?_some hfind
      rw [eq_of_lowerText_name h (List.mem_of_find?_eq_some hfind) hc (hother.trans hname.symm)]

theorem canonicalName?_congr (r : Registry) {name other : String}
    (h : name.toLower = other.toLower) : r.canonicalName? name = r.canonicalName? other := by
  rw [canonicalName?, canonicalName?, get?, get?, h, Naming.lowerText_congr h]

theorem name_ne_fileClass (h : ofDefinitions definitions = .ok r) {c : ClassInfo}
    (hc : c ∈ r.classes) : c.name ≠ fileClass := by
  intro he
  refine (ofDefinitions_eq_ok_iff.mp h).1.free ?_
  rw [← map_key_classes h, ← lowerText_fileClass, ← he]
  exact List.mem_map_of_mem hc

/-- The name of a class is the one in use for it. -/
theorem canonicalName?_name (h : ofDefinitions definitions = .ok r) {c : ClassInfo}
    (hc : c ∈ r.classes) : r.canonicalName? c.name = some c.name := by
  have hfile : c.name.toLower ≠ fileClass.toLower := by
    intro he
    rw [toLower_fileClass] at he
    have halphanum : Naming.AllAlphanum c.name.toLower.toList := by
      rw [he]
      exact List.all_eq_true.mp (by decide)
    have hkey : lowerText c.name = "file" := (Naming.lowerText_eq_toLower halphanum).trans he
    refine (ofDefinitions_eq_ok_iff.mp h).1.free ?_
    rw [← map_key_classes h, ← hkey]
    exact List.mem_map_of_mem hc
  rw [canonicalName?, if_neg hfile, (get?_eq_some_iff h).mpr ⟨hc, rfl⟩]
  rfl

/-- No field of an accepted class has a reserved name. -/
theorem notReserved_name (h : ofDefinitions definitions = .ok r) {c : ClassInfo}
    (hc : c ∈ r.classes) {f : ClassField} (hf : f ∈ c.fields) : f.name ∉ reservedFields := by
  obtain ⟨d, -, hclass⟩ := exists_of_forall₂ (ofDefinitions_eq_ok_iff.mp h).2 hc
  have hvalid := exists_resolveClass_iff.mp ⟨c, hclass⟩
  obtain ⟨⟨fields, hfields, rfl⟩, -⟩ := resolveClass_eq_ok_iff.mp hclass
  have hname : f.name ∈ (Fields.names d.fields).map Naming.camelCase :=
    names_resolveFields hfields ▸ List.mem_map_of_mem hf
  obtain ⟨rawName, hmem, hraw⟩ := List.mem_map.mp hname
  obtain ⟨field, hfield, rfl⟩ := List.mem_map.mp hmem
  exact hraw ▸ (hvalid.fields field hfield).notReserved

/-- A registry holds the declared classes. -/
theorem declared_ofDefinitions (h : ofDefinitions definitions = .ok r) :
    r.Declared definitions := by
  have hclasses := declared_classes h
  refine ⟨hclasses, fun c hc f hf target htarget => ?_⟩
  have hfile : r.canonicalName? fileClass = some fileClass := by rw [canonicalName?, if_pos rfl]
  -- the field was resolved, so its target is among the names that were collected
  obtain ⟨d, -, hclass⟩ := exists_of_forall₂ (ofDefinitions_eq_ok_iff.mp h).2 hc
  obtain ⟨⟨fields, hfields, rfl⟩, -⟩ := resolveClass_eq_ok_iff.mp hclass
  rw [resolveFields_eq_mapM, mapM_eq_ok_iff] at hfields
  obtain ⟨field, -, hfield⟩ := exists_of_forall₂ hfields hf
  obtain ⟨reference, -, found⟩ := (of_resolveField hfield).2.2.target target htarget
  rcases (of_get?_targets found).2 with rfl | ⟨d', hd', rfl⟩
  · exact ⟨hfile, Or.inl rfl⟩
  · obtain ⟨other, hother, hdeclared⟩ := exists_of_forall₂ hclasses.flip hd'
    have hname : other.name = Naming.upperFirst d'.name := ClassInfo.Declared.name hdeclared
    rw [← hname]
    exact ⟨canonicalName?_name h hother, Or.inr ⟨other, hother, rfl⟩⟩

end Accepted

/-- Definitions are registered exactly when they are valid. The registry then holds the declared
classes with the declared fields in order, and every relation points at files or at one of these
classes, by the name that is in use for it. -/
theorem ofDefinitions_accepts (definitions : List ClassDefinition) :
    ((∃ r, ofDefinitions definitions = .ok r) ↔ ClassDefinition.Valid definitions) ∧
    ∀ r, ofDefinitions definitions = .ok r → r.Declared definitions := by
  refine ⟨?_, fun r => declared_ofDefinitions⟩
  have hclasses :
      (∃ classes, List.Forall₂ (fun d c => resolveClass (targets definitions) d = .ok c)
        definitions classes) ↔
      ∀ d ∈ definitions,
        ClassDefinition.ClassValid ("file" :: definitions.map ClassDefinition.key) d := by
    simp only [← mapM_eq_ok_iff, exists_mapM_eq_ok_iff, exists_resolveClass_iff, names_targets]
  constructor
  · rintro ⟨r, h⟩
    obtain ⟨hnames, hr⟩ := ofDefinitions_eq_ok_iff.mp h
    exact ⟨hnames, hclasses.mp ⟨r.classes, hr⟩⟩
  · rintro ⟨hnames, hvalid⟩
    obtain ⟨classes, hr⟩ := hclasses.mpr hvalid
    exact ⟨⟨classes⟩, ofDefinitions_eq_ok_iff.mpr ⟨hnames, hr⟩⟩

end Registry

end ClassApi
