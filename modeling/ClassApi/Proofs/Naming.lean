import ClassApi.Catalog.Registry
import ClassApi.Proofs.Path
import ClassApi.Proofs.Results

/-!
# The names of classes and fields

The words of a name hold letters and digits only, and joining them in camel case adds nothing else.
So the name of a field of an accepted class has no dot: it is one segment of every path it stands
in. An accepted class comes from a definition, which gives its name and those of its fields, and no
two definitions have one name.
-/

namespace ClassApi

/-! ## The case of ASCII -/

theorem shiftBy_of_lt {table : List CaseRange} {n : Nat} (h : ∀ r ∈ table, n < r.first) :
    shiftBy table n = n := by
  induction table with
  | nil => rfl
  | cons r rest ih =>
    have hcovers : ¬ r.covers n = true := by
      have hfirst := h r List.mem_cons_self
      rw [CaseRange.covers, Bool.and_eq_true, Bool.and_eq_true, decide_eq_true_eq]
      omega
    rw [shiftBy, if_neg hcovers, ih fun r' hr' => h r' (List.mem_cons_of_mem _ hr')]

/-- Only the first run of a table counts for what the other runs lie behind. -/
theorem shiftBy_cons_of_lt {r : CaseRange} {rest : List CaseRange} {n : Nat}
    (h : ∀ r' ∈ rest, n < r'.first) : shiftBy (r :: rest) n = shiftBy [r] n := by
  rw [shiftBy, shiftBy, shiftBy_of_lt h, shiftBy]

theorem lookup_of_lt {table : List (Nat × List Nat)} {n : Nat} (h : ∀ entry ∈ table, n < entry.1) :
    table.lookup n = none :=
  List.lookup_eq_none_iff.mpr fun entry hentry => bne_iff_ne.mpr (Nat.ne_of_lt (h entry hentry))

set_option maxRecDepth 4000 in
/-- The capital form of an ASCII character is one character, which the first run of the table
gives. -/
theorem upperChar_ascii {c : Char} (h : c.toNat < 128) : upperChar c = [c.toUpper] := by
  have hspecial : ∀ entry ∈ CaseTable.upperSpecial, 128 ≤ entry.1 := by decide
  have htail : ∀ r ∈ CaseTable.upper.tail, 128 ≤ r.first := by decide
  have hshift : shiftBy CaseTable.upper c.toNat = shiftBy [⟨0x61, 0x7A, 1, -32⟩] c.toNat :=
    shiftBy_cons_of_lt fun r hr => Nat.lt_of_lt_of_le h (htail r hr)
  have hrun : ∀ n < 128, Char.ofNat (shiftBy [⟨0x61, 0x7A, 1, -32⟩] n) =
      (Char.ofNat n).toUpper := by decide
  rw [upperChar, lookup_of_lt fun entry hentry => Nat.lt_of_lt_of_le h (hspecial entry hentry),
    hshift]
  simp only [hrun c.toNat h, Char.ofNat_toNat]

set_option maxRecDepth 4000 in
/-- The small form of an ASCII character is one character, which the first run of the table
gives. -/
theorem lowerChar_ascii {c : Char} (h : c.toNat < 128) : lowerChar c = [c.toLower] := by
  have hspecial : ∀ entry ∈ CaseTable.lowerSpecial, 128 ≤ entry.1 := by decide
  have htail : ∀ r ∈ CaseTable.lower.tail, 128 ≤ r.first := by decide
  have hshift : shiftBy CaseTable.lower c.toNat = shiftBy [⟨0x41, 0x5A, 1, 32⟩] c.toNat :=
    shiftBy_cons_of_lt fun r hr => Nat.lt_of_lt_of_le h (htail r hr)
  have hrun : ∀ n < 128, Char.ofNat (shiftBy [⟨0x41, 0x5A, 1, 32⟩] n) = (Char.ofNat n).toLower := by
    decide
  rw [lowerChar, lookup_of_lt fun entry hentry => Nat.lt_of_lt_of_le h (hspecial entry hentry),
    hshift]
  simp only [hrun c.toNat h, Char.ofNat_toNat]

namespace Naming

/-- Whether a list holds letters and digits of ASCII only. -/
def AllAlphanum (cs : List Char) : Prop :=
  ∀ c ∈ cs, c.isAlphanum = true

theorem toNat_lt_of_isAlphanum {c : Char} (h : c.isAlphanum = true) : c.toNat < 128 := by
  have hcases : ((c.isUpper || c.isLower) || c.isDigit) = true := h
  have hbound : c.val ≤ 'Z'.val ∨ c.val ≤ 'z'.val ∨ c.val ≤ '9'.val := by
    rcases Bool.or_eq_true_iff.mp hcases with hletter | hdigit
    · rcases Bool.or_eq_true_iff.mp hletter with hupper | hlower
      · exact Or.inl (of_decide_eq_true hupper).2
      · exact Or.inr (Or.inl (of_decide_eq_true (Bool.and_eq_true_iff.mp hlower).2))
    · exact Or.inr (Or.inr (of_decide_eq_true (Bool.and_eq_true_iff.mp hdigit).2))
  have hc : c.toNat = c.val.toNat := rfl
  have hZ : 'Z'.val.toNat = 90 := rfl
  have hz : 'z'.val.toNat = 122 := rfl
  have h9 : '9'.val.toNat = 57 := rfl
  rcases hbound with hle | hle | hle
  · have hnat := UInt32.le_iff_toNat_le.mp hle
    omega
  · have hnat := UInt32.le_iff_toNat_le.mp hle
    omega
  · have hnat := UInt32.le_iff_toNat_le.mp hle
    omega

/-- The capital and the small form of a letter or digit are letters and digits again. -/
theorem alphanum_facts {c : Char} (h : c.isAlphanum = true) :
    c.toUpper.isAlphanum = true ∧ c.toLower.isAlphanum = true := by
  have hall : ∀ n < 128, (Char.ofNat n).isAlphanum = true →
      (Char.ofNat n).toUpper.isAlphanum = true ∧ (Char.ofNat n).toLower.isAlphanum = true := by
    decide
  have hc := hall c.toNat (toNat_lt_of_isAlphanum h)
  rw [Char.ofNat_toNat] at hc
  exact hc h

theorem AllAlphanum.reverse {cs : List Char} (h : AllAlphanum cs) : AllAlphanum cs.reverse :=
  fun c hc => h c (List.mem_reverse.mp hc)

theorem AllAlphanum.cons {c : Char} {cs : List Char} (hc : c.isAlphanum = true)
    (h : AllAlphanum cs) : AllAlphanum (c :: cs) := by
  intro x hx
  rcases List.mem_cons.mp hx with rfl | hm
  · exact hc
  · exact h x hm

theorem AllAlphanum.nil : AllAlphanum [] :=
  fun _ hc => absurd hc List.not_mem_nil

/-- Every word holds letters and digits only. -/
theorem splitWords_alphanum (cs : List Char) {current : List Char} (h : AllAlphanum current) :
    ∀ word ∈ splitWords current cs, AllAlphanum word := by
  induction cs generalizing current with
  | nil =>
    intro word hword
    rw [splitWords.eq_def] at hword
    split at hword
    · split at hword
      · cases hword
      · rw [List.mem_singleton.mp hword]
        exact h.reverse
    · contradiction
  | cons d rest ih =>
    intro word hword
    rw [splitWords.eq_def] at hword
    simp only at hword
    by_cases hd : d.isAlphanum = true
    · rw [hd, Bool.not_true, if_neg Bool.false_ne_true] at hword
      cases current with
      | nil => exact ih (AllAlphanum.cons hd AllAlphanum.nil) word hword
      | cons prev before =>
        simp only at hword
        split at hword
        · rcases List.mem_cons.mp hword with rfl | hm
          · exact h.reverse
          · exact ih (AllAlphanum.cons hd AllAlphanum.nil) word hm
        · exact ih (AllAlphanum.cons hd h) word hword
    · rw [if_pos (by simpa using hd)] at hword
      split at hword
      · exact ih AllAlphanum.nil word hword
      · rcases List.mem_cons.mp hword with rfl | hm
        · exact h.reverse
        · exact ih AllAlphanum.nil word hm

theorem upperFirst_alphanum {name : String} (h : AllAlphanum name.toList) :
    AllAlphanum (upperFirst name).toList := by
  rw [upperFirst]
  cases hl : name.toList with
  | nil => exact AllAlphanum.nil
  | cons c rest =>
    rw [hl] at h
    have hc := h c List.mem_cons_self
    rw [String.toList_ofList, upperChar_ascii (toNat_lt_of_isAlphanum hc), List.singleton_append]
    exact AllAlphanum.cons (alphanum_facts hc).1 fun d hd => h d (List.mem_cons_of_mem _ hd)

theorem toList_toLower (name : String) : name.toLower.toList = name.toList.map Char.toLower :=
  String.toList_map

theorem toList_toUpper (name : String) : name.toUpper.toList = name.toList.map Char.toUpper :=
  String.toList_map

theorem toLower_alphanum {name : String} (h : AllAlphanum name.toList) :
    AllAlphanum name.toLower.toList := by
  intro c hc
  rw [toList_toLower] at hc
  obtain ⟨d, hd, rfl⟩ := List.mem_map.mp hc
  exact (alphanum_facts (h d hd)).2

/-- A name in camel case holds letters and digits only. -/
theorem camelCase_alphanum (name : String) : AllAlphanum (camelCase name).toList := by
  have hwords : ∀ word ∈ (words name).map String.toLower, AllAlphanum word.toList := by
    intro word hword
    obtain ⟨given, hgiven, rfl⟩ := List.mem_map.mp hword
    obtain ⟨cs, hcs, rfl⟩ := List.mem_map.mp hgiven
    refine toLower_alphanum ?_
    rw [String.toList_ofList]
    exact splitWords_alphanum name.toList AllAlphanum.nil cs hcs
  rw [camelCase]
  cases hl : (words name).map String.toLower with
  | nil => exact AllAlphanum.nil
  | cons first rest =>
    rw [hl] at hwords
    intro c hc
    have hjoin : c ∈ (String.join (first :: rest.map upperFirst)).toList := hc
    rw [String.toList_join] at hjoin
    obtain ⟨part, hpart, hmem⟩ := List.mem_flatMap.mp hjoin
    rcases List.mem_cons.mp hpart with rfl | hm
    · exact hwords part List.mem_cons_self c hmem
    · obtain ⟨word, hword, rfl⟩ := List.mem_map.mp hm
      exact upperFirst_alphanum (hwords word (List.mem_cons_of_mem _ hword)) c hmem

/-- A name in camel case has no dot. -/
theorem isPlain_camelCase (name : String) : Path.IsPlain (camelCase name) := by
  intro hdot
  have halphanum := camelCase_alphanum name '.' hdot
  exact absurd halphanum (by decide)

theorem isAlphanum_of_toLower {c : Char} (h : c.toLower.isAlphanum = true) :
    c.isAlphanum = true := by
  cases hupper : c.isUpper with
  | true =>
    show ((c.isUpper || c.isLower) || c.isDigit) = true
    rw [hupper, Bool.true_or, Bool.true_or]
  | false =>
    have hrange : ¬ (c.val ≥ 'A'.val ∧ c.val ≤ 'Z'.val) := of_decide_eq_false hupper
    have hsame : c.toLower = c := dif_neg hrange
    rwa [hsame] at h

/-- Letters and digits of ASCII have small forms of one character each, whatever stands around
them. -/
theorem lowerFrom_alphanum {cs : List Char} (h : AllAlphanum cs) (before : List Char) :
    lowerFrom before cs = cs.map Char.toLower := by
  induction cs generalizing before with
  | nil => rfl
  | cons c rest ih =>
    have hc := h c List.mem_cons_self
    have hsigma : c ≠ 'Σ' := fun he => absurd (he ▸ hc) (by decide)
    rw [lowerFrom, if_neg hsigma, lowerChar_ascii (toNat_lt_of_isAlphanum hc),
      ih fun d hd => h d (List.mem_cons_of_mem _ hd)]
    rfl

/-- A name that small letters of ASCII turn into letters and digits is turned into the same by those
of all scripts. -/
theorem lowerText_eq_toLower {name : String} (h : AllAlphanum name.toLower.toList) :
    lowerText name = name.toLower := by
  have hname : AllAlphanum name.toList := fun c hc =>
    isAlphanum_of_toLower (h c.toLower (toList_toLower name ▸ List.mem_map_of_mem hc))
  rw [lowerText, lowerFrom_alphanum hname, ← toList_toLower, String.ofList_toList]

theorem toNat_lt_of_isUpper {c : Char} (h : c.isUpper = true) : c.toNat < 128 := by
  have halphanum : ((c.isUpper || c.isLower) || c.isDigit) = true := by
    rw [h, Bool.true_or, Bool.true_or]
  exact toNat_lt_of_isAlphanum halphanum

/-- A property of characters that does not depend on the case of ASCII is the same for the small
form. -/
theorem toLower_congr {β : Type} (f : Char → β)
    (h : ∀ n < 128, f (Char.ofNat n).toLower = f (Char.ofNat n)) (c : Char) :
    f c.toLower = f c := by
  by_cases hupper : c.isUpper = true
  · have hc := h c.toNat (toNat_lt_of_isUpper hupper)
    rw [Char.ofNat_toNat] at hc
    exact hc
  · have hsame : c.toLower = c := dif_neg fun hrange => hupper (decide_eq_true hrange)
    rw [hsame]

theorem meetsCased_map_toLower (cs : List Char) :
    meetsCased (cs.map Char.toLower) = meetsCased cs := by
  have hignorable := toLower_congr CharSet.caseIgnorable.contains (by decide)
  have hcased := toLower_congr CharSet.cased.contains (by decide)
  induction cs with
  | nil => rfl
  | cons c rest ih => rw [List.map_cons, meetsCased, meetsCased, hignorable, hcased, ih]

theorem lowerChar_toLower_ascii (n : Nat) (h : n < 128) :
    lowerChar (Char.ofNat n).toLower = lowerChar (Char.ofNat n) := by
  have hall : ∀ n < 128, (Char.ofNat n).toNat < 128 ∧ (Char.ofNat n).toLower.toNat < 128 ∧
      (Char.ofNat n).toLower.toLower = (Char.ofNat n).toLower := by decide
  obtain ⟨hascii, hsmall, hsame⟩ := hall n h
  rw [lowerChar_ascii hascii, lowerChar_ascii hsmall, hsame]

theorem lowerFrom_map_toLower (before cs : List Char) :
    lowerFrom (before.map Char.toLower) (cs.map Char.toLower) = lowerFrom before cs := by
  have hsigma := toLower_congr (fun c => decide (c = 'Σ')) (by decide)
  have hlower := toLower_congr lowerChar lowerChar_toLower_ascii
  induction cs generalizing before with
  | nil => rfl
  | cons c rest ih =>
    have hrest := ih (c :: before)
    have hc : (c.toLower = 'Σ') ↔ (c = 'Σ') := decide_eq_decide.mp (hsigma c)
    rw [List.map_cons] at hrest
    rw [List.map_cons, lowerFrom, lowerFrom, hrest, hlower, meetsCased_map_toLower,
      meetsCased_map_toLower]
    simp only [hc]

/-- Names that agree up to the case of ASCII agree up to case. -/
theorem lowerText_congr {name other : String} (h : name.toLower = other.toLower) :
    lowerText name = lowerText other := by
  have hsmall :
      ∀ text : String, lowerText text = String.ofList (lowerFrom [] (text.toLower.toList)) := by
    intro text
    rw [toList_toLower]
    exact congrArg String.ofList (lowerFrom_map_toLower [] text.toList).symm
  rw [hsmall, hsmall, h]

theorem colon_mem_congr {name other : String} (h : name.toLower = other.toLower) :
    ':' ∈ name.toList ↔ ':' ∈ other.toList := by
  have hcolon := toLower_congr (fun c => decide (c = ':')) (by decide)
  have hmem : ∀ text : String, ':' ∈ text.toList ↔ ':' ∈ text.toLower.toList := by
    intro text
    rw [toList_toLower, List.mem_map]
    constructor
    · exact fun hc => ⟨':', hc, by decide⟩
    · rintro ⟨c, hc, hlower⟩
      rwa [← decide_eq_decide.mp (hcolon c) |>.mp hlower]
  rw [hmem name, hmem other, h]

end Naming

namespace ClassDefinition

/-- The name of the class without regard to case. -/
def key (d : ClassDefinition) : String :=
  lowerText (Naming.upperFirst d.name)

/-- The name of the class as others may write it, and as it is registered. -/
def target (d : ClassDefinition) : String × String :=
  (d.key, Naming.upperFirst d.name)

/-- The names of the fields in camel case. -/
def fieldNames (d : ClassDefinition) : List String :=
  (Fields.names d.fields).map Naming.camelCase

end ClassDefinition

namespace Registry

theorem name_resolveField {targets : Fields String} {className rawName : String} {spec : FieldSpec}
    {f : ClassField} (h : resolveField targets className rawName spec = .ok f) :
    f.name = Naming.camelCase rawName := by
  rw [resolveField] at h
  split at h
  · cases h
  · simp only at h
    split at h
    · cases h
    · -- The three shapes of a declaration differ in how the element is found.
      split at h
      · obtain ⟨element, -, h⟩ := bind_eq_ok h
        cases h
        rfl
      · cases h
      · obtain ⟨element, -, h⟩ := bind_eq_ok h
        cases h
        rfl

/-- The fields of a class are named after those of its definition, in order. -/
theorem names_resolveFields {targets : Fields String} {className : String}
    {specs : Fields FieldSpec} {fields : List ClassField}
    (h : resolveFields targets className specs = .ok fields) :
    fields.map ClassField.name = (Fields.names specs).map Naming.camelCase := by
  induction specs generalizing fields with
  | nil =>
    cases h
    rfl
  | cons spec rest ih =>
    obtain ⟨rawName, spec⟩ := spec
    obtain ⟨first, hfirst, h⟩ := bind_eq_ok h
    obtain ⟨others, hothers, h⟩ := bind_eq_ok h
    cases h
    rw [List.map_cons, name_resolveField hfirst, ih hothers]
    rfl

/-- A class comes from a definition, which gives the name of the class and those of its fields. -/
theorem mem_resolveClasses {targets : Fields String} {definitions : List ClassDefinition}
    {classes : List ClassInfo} (h : resolveClasses targets definitions = .ok classes)
    {c : ClassInfo} (hc : c ∈ classes) :
    ∃ d ∈ definitions, c.name = Naming.upperFirst d.name ∧
      c.fields.map ClassField.name = (Fields.names d.fields).map Naming.camelCase := by
  induction definitions generalizing classes with
  | nil =>
    cases h
    exact absurd hc List.not_mem_nil
  | cons definition rest ih =>
    obtain ⟨info, hinfo, h⟩ := bind_eq_ok h
    obtain ⟨infos, hinfos, h⟩ := bind_eq_ok h
    cases h
    rcases List.mem_cons.mp hc with rfl | hm
    · obtain ⟨fields, hfields, hrest⟩ := bind_eq_ok hinfo
      simp only at hrest
      split at hrest
      · cases hrest
      · cases hrest
        exact ⟨definition, List.mem_cons_self, rfl, names_resolveFields hfields⟩
    · obtain ⟨d, hd, hnames⟩ := ih hinfos hm
      exact ⟨d, List.mem_cons_of_mem _ hd, hnames⟩

/-- Names are collected exactly when each is free to use and all are new and different; those of the
definitions then stand behind the ones there were. -/
theorem collectTargets_eq_ok_iff {definitions : List ClassDefinition}
    {targets result : Fields String} :
    collectTargets definitions targets = .ok result ↔
      (∀ d ∈ definitions, checkClassName d.name = .ok ()) ∧
      (∀ d ∈ definitions, d.key ∉ Fields.names targets) ∧
      (definitions.map ClassDefinition.key).Nodup ∧
      result = targets ++ definitions.map ClassDefinition.target := by
  induction definitions generalizing targets with
  | nil =>
    rw [collectTargets, Except.ok.injEq, List.map_nil, List.map_nil, List.append_nil, eq_comm]
    exact ⟨fun h => ⟨fun d hd => absurd hd List.not_mem_nil, fun d hd => absurd hd List.not_mem_nil,
      List.nodup_nil, h⟩, fun h => h.2.2.2⟩
  | cons definition rest ih =>
    rw [collectTargets, List.forall_mem_cons, List.forall_mem_cons, List.map_cons, List.nodup_cons]
    cases hcheck : checkClassName definition.name with
    | error e => exact ⟨(nomatch ·), fun h => nomatch h.1.1⟩
    | ok free =>
      by_cases hkey : definition.key ∈ Fields.names targets
      · -- the class is declared twice
        have hcontains := Fields.contains_eq_true_iff.mpr hkey
        simp only [← ClassDefinition.key.eq_1, if_pos hcontains]
        exact ⟨(nomatch ·), fun h => absurd hkey h.2.1.1⟩
      · have hcontains : ¬ Fields.contains targets definition.key = true :=
          fun h => hkey (Fields.contains_eq_true_iff.mp h)
        have hinsert := Fields.insert_eq_append (Naming.upperFirst definition.name) hkey
        have hnames : Fields.names (targets ++ [definition.target]) = Fields.names targets ++
            [definition.key] := by
          rw [Fields.names, List.map_append]
          rfl
        simp only [← ClassDefinition.key.eq_1, if_neg hcontains, hinsert]
        rw [← ClassDefinition.target.eq_1, ih, hnames]
        simp only [List.mem_append, List.mem_singleton, List.map_cons, List.append_assoc,
          List.singleton_append, not_or]
        constructor
        · rintro ⟨hfree, hnew, hnodup, hresult⟩
          refine ⟨⟨trivial, hfree⟩, ⟨hkey, fun d hd => (hnew d hd).1⟩,
            ⟨fun hmem => ?_, hnodup⟩, hresult⟩
          obtain ⟨d, hd, he⟩ := List.mem_map.mp hmem
          exact (hnew d hd).2 he
        · rintro ⟨⟨-, hfree⟩, ⟨-, hnew⟩, ⟨hhead, hnodup⟩, hresult⟩
          exact ⟨hfree, fun d hd => ⟨hnew d hd, fun he => hhead (he ▸ List.mem_map_of_mem hd)⟩,
            hnodup, hresult⟩

section Accepted

variable {definitions : List ClassDefinition} {r : Registry}

/-- Definitions that are accepted are told apart by the names of their classes, without regard to
case. -/
theorem eq_of_lowerText (h : ofDefinitions definitions = .ok r) {d d' : ClassDefinition}
    (hd : d ∈ definitions) (hd' : d' ∈ definitions)
    (he : lowerText (Naming.upperFirst d.name) = lowerText (Naming.upperFirst d'.name)) :
    d = d' := by
  obtain ⟨targets, htargets, -⟩ := bind_eq_ok h
  obtain ⟨-, -, hnodup, -⟩ := collectTargets_eq_ok_iff.mp htargets
  exact List.inj_on_of_nodup_map hnodup hd hd' he

theorem exists_definition (h : ofDefinitions definitions = .ok r) {c : ClassInfo}
    (hc : c ∈ r.classes) :
    ∃ d ∈ definitions, c.name = Naming.upperFirst d.name ∧
      c.fields.map ClassField.name = (Fields.names d.fields).map Naming.camelCase := by
  obtain ⟨targets, -, h⟩ := bind_eq_ok h
  obtain ⟨classes, hclasses, h⟩ := bind_eq_ok h
  cases h
  exact mem_resolveClasses hclasses hc

/-- The fields of accepted classes have names in camel case. -/
theorem exists_camelCase (h : ofDefinitions definitions = .ok r) {c : ClassInfo}
    (hc : c ∈ r.classes) {f : ClassField} (hf : f ∈ c.fields) :
    ∃ rawName, f.name = Naming.camelCase rawName := by
  obtain ⟨d, -, -, hnames⟩ := exists_definition h hc
  have hmem : f.name ∈ (Fields.names d.fields).map Naming.camelCase :=
    hnames ▸ List.mem_map_of_mem hf
  obtain ⟨rawName, -, hname⟩ := List.mem_map.mp hmem
  exact ⟨rawName, hname.symm⟩

/-- The names of the fields of accepted classes have no dots. -/
theorem isPlain_field (h : ofDefinitions definitions = .ok r) {c : ClassInfo} (hc : c ∈ r.classes)
    {f : ClassField} (hf : f ∈ c.fields) : Path.IsPlain f.name := by
  obtain ⟨rawName, hname⟩ := exists_camelCase h hc hf
  rw [hname]
  exact Naming.isPlain_camelCase rawName

end Accepted

theorem eq_ok_of_classes {result : Except DefinitionError Registry} {classes : List ClassInfo}
    (h : result.toOption.map Registry.classes = some classes) : result = .ok ⟨classes⟩ := by
  cases result with
  | error e => cases h
  | ok r =>
    cases r
    cases h
    rfl

end Registry

end ClassApi
