import ClassApi.Proofs.Input
import ClassApi.Proofs.Lookup

/-!
# What a filter asks for

A filter restricts a field in two ways. It names candidates for the stored value, by a regular
expression, by `eq` or by `in`, and the first of these that is given counts. And it may bound the
value, where every bound counts. The condition that a filter is turned into asks for just that: it
has one operator `$in` for the candidates and one for each bound. Both the members of the condition
and the meaning of each member are told here, so that evaluating the condition is evaluating the
filter.
-/

namespace ClassApi

/-! ## Literals -/

namespace RegexLiteral

/-- Whether a text is the literal `/pattern/flags`. The pattern may hold slashes; the flags are
letters, numbers and underscores. -/
def HasForm (literal pattern flags : String) : Prop :=
  literal = "/" ++ pattern ++ "/" ++ flags ∧
  ∀ c ∈ flags.toList, (isAlphanumeric c || c == '_') = true

theorem splitLastSlash_of_notMem {cs : List Char} (h : '/' ∉ cs) : splitLastSlash cs = none := by
  induction cs with
  | nil => rfl
  | cons c rest ih =>
    obtain ⟨hc, hrest⟩ := List.ne_and_not_mem_of_not_mem_cons h
    rw [splitLastSlash, ih hrest]
    exact if_neg (Ne.symm hc)

theorem splitLastSlash_append (front : List Char) {back : List Char} (h : '/' ∉ back) :
    splitLastSlash (front ++ '/' :: back) = some (front, back) := by
  induction front with
  | nil =>
    rw [List.nil_append, splitLastSlash, splitLastSlash_of_notMem h]
    rfl
  | cons c front ih => rw [List.cons_append, splitLastSlash, ih]

section HasForm

variable {literal pattern flags : String}

theorem HasForm.slash_notMem (h : HasForm literal pattern flags) : '/' ∉ flags.toList := by
  intro hmem
  have hslash : (isAlphanumeric '/' || '/' == '_') = false := by decide
  rw [h.2 '/' hmem] at hslash
  cases hslash

theorem HasForm.toList_eq (h : HasForm literal pattern flags) :
    literal.toList = '/' :: (pattern.toList ++ '/' :: flags.toList) := by
  rw [h.1]
  simp

theorem ofText_of_hasForm (h : HasForm literal pattern flags) (className field : String) :
    ofText literal className field = .ok ⟨pattern, Extended.sortOptions flags⟩ := by
  rw [ofText, h.toList_eq]
  simp only
  rw [splitLastSlash_append _ h.slash_notMem]
  simp only
  rw [if_pos (List.all_eq_true.mpr h.2), String.ofList_toList, String.ofList_toList]

/-- A literal has one pattern and one list of flags. -/
theorem HasForm.unique {pattern' flags' : String} (h : HasForm literal pattern flags)
    (h' : HasForm literal pattern' flags') : pattern = pattern' ∧ flags = flags' := by
  have htail := List.tail_eq_of_cons_eq (h.toList_eq.symm.trans h'.toList_eq)
  have hsplit := congrArg splitLastSlash htail
  rw [splitLastSlash_append _ h.slash_notMem, splitLastSlash_append _ h'.slash_notMem] at hsplit
  obtain ⟨hpattern, hflags⟩ := Prod.mk.inj (Option.some.inj hsplit)
  exact ⟨String.toList_inj.mp hpattern, String.toList_inj.mp hflags⟩

end HasForm

/-- Options do not depend on the order of their letters. -/
theorem ofLetters_sortOptions (letters : String) :
    Pattern.Options.ofLetters (Extended.sortOptions letters) = .ofLetters letters := by
  have hcontains : ∀ c, (Extended.sortOptions letters).toList.contains c =
      letters.toList.contains c := by
    intro c
    rw [Extended.sortOptions, String.toList_ofList, Bool.eq_iff_iff, List.contains_iff_mem,
      List.contains_iff_mem, List.mem_mergeSort]
  simp only [Pattern.Options.ofLetters, hcontains]

end RegexLiteral

/-- Whether a value is neither a list nor an object. -/
def Datum.IsScalar : Datum → Prop
  | .list _ => False
  | .object _ => False
  | _ => True

namespace Listing

open Query RegexLiteral

/-! ## What a filter says -/

/-- What a filter gives for an operator; an operator that is `null` is not given. -/
def given? (filter : Fields Datum) (operator : String) : Option Datum :=
  (Fields.get? filter operator).filter fun value => !value.isNull

/-- Whether the pattern of a literal can be read. -/
def LiteralReads (literal : String) : Prop :=
  ∀ pattern flags, HasForm literal pattern flags →
    ∃ compiled, Pattern.read (.ofLetters flags) pattern = some compiled

/-- Whether the pattern of a literal is found in what is stored. -/
def LiteralFound (literal : String) (stored : Option Value) : Prop :=
  ∃ pattern flags compiled, HasForm literal pattern flags ∧
    Pattern.read (.ofLetters flags) pattern = some compiled ∧
    Found compiled stored

/-- What the stored value of a field is compared with. A reference is compared with the id that a
text stands for, and with the text when it stands for none. -/
def comparand (f : ClassField) (value : Datum) : Value :=
  match f.scalar, value with
  | .relation, .string raw => (ObjectId.ofClient? raw).elim (.string raw) .objectId
  | _, value => value.toStored

/-- Membership: a regular expression is found in the stored value; else the value agrees with `eq`,
where `false` is also agreed with by nothing and by `null`; else it agrees with an item of `in`. -/
def Membership (f : ClassField) (filter : Fields Datum) (stored : Option Value) : Prop :=
  match given? filter "regexp", given? filter "eq", given? filter "in" with
  | some (.string literal), _, _ => LiteralFound literal stored
  | _, some value, _ => Agrees stored (comparand f value) ∨
    (value = .bool false ∧ Agrees stored .null)
  | _, none, some (.list items) => ∃ item ∈ items, Agrees stored (comparand f item)
  | _, none, _ => True

/-- The operators that bound a value, each with the orders in which the value may stand to the
bound. -/
def bounds : List (String × List Ordering) :=
  [("gt", [.gt]), ("gte", [.gt, .eq]), ("lt", [.lt]), ("lte", [.lt, .eq])]

/-- Whether the stored value keeps every bound of a filter. -/
def Bounded (f : ClassField) (filter : Fields Datum) (stored : Option Value) : Prop :=
  ∀ operator orders, (operator, orders) ∈ bounds → ∀ value, given? filter operator = some value →
    StandsTo stored orders (comparand f value)

/-- Whether a filter fits a field: its operators are among those for the field and do not repeat,
`in` is a list, other operators are scalars, and a regular expression is a literal. -/
structure FilterFits (f : ClassField) (filter : Fields Datum) : Prop where
  /-- No operator is given twice. -/
  distinct : (Fields.names filter).Nodup
  /-- The operators are those for the field. -/
  known : ∀ operator ∈ Fields.names filter, operator ∈ f.scalar.filterOperators
  /-- Candidates are given as a list. -/
  list : ∀ value, given? filter "in" = some value → ∃ items, value = .list items
  /-- Other operators have one value. -/
  scalar : ∀ operator value, operator ≠ "in" → given? filter operator = some value → value.IsScalar
  /-- A regular expression has the form of a literal. -/
  literal : ∀ value, given? filter "regexp" = some value →
    ∃ literal pattern flags, value = .string literal ∧ HasForm literal pattern flags

/-! ## The condition of a filter -/

theorem comparand_eq_toStored {f : ClassField} {value : Datum}
    (h : f.scalar = .relation → ∀ raw, value ≠ .string raw) :
    comparand f value = value.toStored := by
  unfold comparand
  split
  · rename_i raw hrelation
    exact absurd rfl (h hrelation raw)
  · rfl

/-- The store is asked for what the filter means. -/
theorem filterValue_eq_comparand (f : ClassField) : filterValue f = comparand f := by
  funext value
  by_cases hrelation : f.scalar = .relation
  · cases value with
    | string raw =>
      rw [filterValue, if_pos hrelation, comparand.eq_1 f raw hrelation]
      cases ObjectId.ofClient? raw with
      | none => rfl
      | some id => rfl
    | _ => exact (comparand_eq_toStored fun _ _ => Datum.noConfusion).symm
  · rw [comparand_eq_toStored fun h => absurd h hrelation]
    cases value with
    | string raw => rw [filterValue, if_neg hrelation, Datum.toStored]
    | _ => rfl

theorem given?_eq_some {filter : Fields Datum} {operator : String} {value : Datum} :
    given? filter operator = some value ↔ Fields.get? filter operator = some value ∧
      value.isNull = false := by
  rw [given?, Option.filter_eq_some_iff, Bool.not_eq_true']

theorem given?_eq_none {filter : Fields Datum} {operator : String}
    (h : given? filter operator = none) :
    Fields.get? filter operator = none ∨ Fields.get? filter operator = some .null := by
  cases hg : Fields.get? filter operator with
  | none => exact Or.inl rfl
  | some value =>
    rw [given?, hg, Option.filter_eq_none_iff] at h
    cases value with
    | null => exact Or.inr rfl
    | _ => exact absurd rfl (h _ rfl)

/-- The candidates a filter names, as the store is asked for them. -/
inductive Candidates (f : ClassField) (filter : Fields Datum) : List Value → Prop
  | regexp {literal pattern flags : String}
      (given : given? filter "regexp" = some (.string literal))
      (form : HasForm literal pattern flags) :
      Candidates f filter [.regex pattern (Extended.sortOptions flags)]
  | eq {value : Datum} (literal : given? filter "regexp" = none)
      (given : given? filter "eq" = some value) :
      Candidates f filter (eqCandidates f value)
  | list {items : List Datum} (literal : given? filter "regexp" = none)
      (single : given? filter "eq" = none) (given : given? filter "in" = some (.list items)) :
      Candidates f filter (items.map (comparand f))

/-- A bound of a filter, as the store is asked for it. -/
inductive Bound (f : ClassField) (filter : Fields Datum) : String × Value → Prop
  | mk {operator : String} {orders : List Ordering} {value : Datum}
      (known : (operator, orders) ∈ bounds) (given : given? filter operator = some value) :
      Bound f filter ("$" ++ operator, comparand f value)

theorem dollar_injective : Function.Injective ("$" ++ ·) := by
  intro a b hab
  have hlist := congrArg String.toList hab
  exact String.toList_inj.mp (by simpa using hlist)

theorem filterOperators_cases {kind : ScalarKind} {operator : String}
    (h : operator ∈ kind.filterOperators) :
    operator = "eq" ∨ operator = "regexp" ∨ operator = "in" ∨
    ∃ orders, (operator, orders) ∈ bounds := by
  cases kind <;>
    simp only [ScalarKind.filterOperators, List.mem_cons, List.not_mem_nil, or_false] at h <;>
    rcases h with rfl | rfl | rfl | rfl | rfl | rfl <;> simp [bounds]

theorem ne_of_mem_bounds {operator : String} {orders : List Ordering}
    (h : (operator, orders) ∈ bounds) :
    operator ≠ "eq" ∧ operator ≠ "regexp" ∧ operator ≠ "in" := by
  have hall : ∀ b ∈ bounds, b.1 ≠ "eq" ∧ b.1 ≠ "regexp" ∧ b.1 ≠ "in" := by decide
  exact hall _ h

theorem filterOperand_of_isScalar {f : ClassField} {value : Datum} (h : value.IsScalar) :
    filterOperand f value = comparand f value := by
  rw [← filterValue_eq_comparand]
  cases value with
  | list items => exact h.elim
  | _ => rfl

theorem mem_conditionsWithoutEq {f : ClassField} {filter : Fields Datum}
    (hn : (Fields.names filter).Nodup) :
    (Fields.names (conditionsWithoutEq f filter)).Nodup ∧
      ∀ entry, entry ∈ conditionsWithoutEq f filter ↔
        ∃ operator value, operator ≠ "eq" ∧ given? filter operator = some value ∧
          entry = ("$" ++ operator, filterOperand f value) := by
  have hentries := Fields.ofEntries_filterMap hn dollar_injective
    (f := fun m : String × Datum =>
      if m.1 = "eq" || m.2.isNull then none else some ("$" ++ m.1, filterOperand f m.2))
    (fun m entry hm => by
      split at hm
      · cases hm
      · cases hm
        rfl)
  have heq : conditionsWithoutEq f filter = filter.filterMap fun m =>
      if m.1 = "eq" || m.2.isNull then none else some ("$" ++ m.1, filterOperand f m.2) :=
    hentries.1
  refine ⟨heq ▸ hentries.2, fun entry => ?_⟩
  rw [heq, List.mem_filterMap]
  constructor
  · rintro ⟨⟨operator, value⟩, hmem, hentry⟩
    split at hentry
    · cases hentry
    · rename_i hcond
      obtain ⟨heq, hnull⟩ : operator ≠ "eq" ∧ value.isNull = false := by simpa using hcond
      cases hentry
      exact ⟨operator, value, heq,
        given?_eq_some.mpr ⟨(Fields.get?_eq_some_iff hn).mpr hmem, hnull⟩, rfl⟩
  · rintro ⟨operator, value, hne, hgiven, rfl⟩
    obtain ⟨hget, hnull⟩ := given?_eq_some.mp hgiven
    refine ⟨(operator, value), Fields.mem_of_get? hget, ?_⟩
    simp [hne, hnull]

section Fitting

variable {f : ClassField} {filter : Fields Datum}

theorem mem_of_given {operator : String} {value : Datum} (h : given? filter operator = some value) :
    (operator, value) ∈ filter :=
  Fields.mem_of_get? (given?_eq_some.mp h).1

theorem given?_remove {name operator : String} (h : operator ≠ name) :
    given? (Fields.remove filter name) operator = given? filter operator := by
  rw [given?, given?, Fields.get?_remove_of_ne filter h]

theorem given?_remove_self (hn : (Fields.names filter).Nodup) (name : String) :
    given? (Fields.remove filter name) name = none := by
  have hnone : Fields.get? (Fields.remove filter name) name = none := by
    refine Fields.get?_eq_none fun hmem => ?_
    obtain ⟨entry, hentry, hname⟩ := List.mem_map.mp hmem
    exact ((Fields.mem_remove_iff hn).mp hentry).2 hname
  rw [given?, hnone]
  rfl

/-- A condition other than those of `eq` and `regexp` is one of `in` or a bound. -/
theorem mem_conditions (h : FilterFits f filter) (entry : String × Value) :
    entry ∈ conditionsWithoutEq f (Fields.remove filter "regexp") ↔
      (∃ items, given? filter "in" = some (.list items) ∧
        entry = ("$in", .array (items.map (comparand f)))) ∨ Bound f filter entry := by
  rw [(mem_conditionsWithoutEq (Fields.nodup_remove h.distinct "regexp")).2]
  constructor
  · rintro ⟨operator, value, hne, hgiven, rfl⟩
    by_cases hregexp : operator = "regexp"
    · rw [hregexp, given?_remove_self h.distinct] at hgiven
      cases hgiven
    rw [given?_remove hregexp] at hgiven
    have hknown := h.known operator (List.mem_map_of_mem (mem_of_given hgiven))
    rcases filterOperators_cases hknown with heq | he | rfl | ⟨orders, hbound⟩
    · exact absurd heq hne
    · exact absurd he hregexp
    · obtain ⟨items, rfl⟩ := h.list value hgiven
      exact Or.inl ⟨items, hgiven, by rw [filterOperand, filterValue_eq_comparand]; rfl⟩
    · obtain ⟨-, -, hin⟩ := ne_of_mem_bounds hbound
      rw [filterOperand_of_isScalar (h.scalar operator value hin hgiven)]
      exact Or.inr ⟨hbound, hgiven⟩
  · rintro (⟨items, hgiven, rfl⟩ | ⟨hbound, hgiven⟩)
    · refine ⟨"in", .list items, by decide, ?_, ?_⟩
      · rw [given?_remove (by decide), hgiven]
      · rw [filterOperand, filterValue_eq_comparand]
        rfl
    · rename_i operator orders value
      obtain ⟨heq, hregexp, hin⟩ := ne_of_mem_bounds hbound
      refine ⟨operator, value, heq, ?_, ?_⟩
      · rw [given?_remove hregexp, hgiven]
      · rw [filterOperand_of_isScalar (h.scalar operator value hin hgiven)]

theorem Bound.ne_in {entry : String × Value} (h : Bound f filter entry) : entry.1 ≠ "$in" := by
  obtain ⟨hbound, -⟩ := h
  have hall : ∀ b ∈ bounds, "$" ++ b.1 ≠ "$in" := by decide
  exact hall _ hbound

/-- A filter names one list of candidates. -/
theorem Candidates.unique {cs cs' : List Value} (h : Candidates f filter cs)
    (h' : Candidates f filter cs') : cs = cs' := by
  -- What the three kinds of candidates require excludes one another, so only the diagonal is left.
  cases h with
  | regexp hgiven hform =>
    cases h' with
    | regexp hgiven' hform' =>
      rw [hgiven] at hgiven'
      cases hgiven'
      obtain ⟨rfl, rfl⟩ := hform.unique hform'
      rfl
    | eq hnone _ => rw [hgiven] at hnone; cases hnone
    | list hnone _ _ => rw [hgiven] at hnone; cases hnone
  | eq hnone hgiven =>
    cases h' with
    | regexp hgiven' _ => rw [hnone] at hgiven'; cases hgiven'
    | eq _ hgiven' =>
      rw [hgiven] at hgiven'
      cases hgiven'
      rfl
    | list _ hnone' _ => rw [hgiven] at hnone'; cases hnone'
  | list hnone hsingle hgiven =>
    cases h' with
    | regexp hgiven' _ => rw [hnone] at hgiven'; cases hgiven'
    | eq _ hgiven' => rw [hsingle] at hgiven'; cases hgiven'
    | list _ _ hgiven' =>
      rw [hgiven] at hgiven'
      cases hgiven'
      rfl

/-- The conditions of a filter: one for its candidates and one for each bound. -/
def ConditionOf (f : ClassField) (filter : Fields Datum) (entry : String × Value) : Prop :=
  (∃ cs, Candidates f filter cs ∧ entry = ("$in", .array cs)) ∨ Bound f filter entry

/-- When a regular expression or `eq` names the candidates, they take the place of those of `in`. -/
theorem mem_insert_candidates (h : FilterFits f filter) {cs : List Value}
    (hcs : Candidates f filter cs) (entry : String × Value) :
    entry ∈ Fields.insert (conditionsWithoutEq f (Fields.remove filter "regexp")) "$in"
      (.array cs) ↔ ConditionOf f filter entry := by
  have hnodup := (mem_conditionsWithoutEq (f := f) (Fields.nodup_remove h.distinct "regexp")).1
  rw [Fields.mem_insert_iff hnodup, mem_conditions h]
  constructor
  · rintro (rfl | ⟨⟨items, -, rfl⟩ | hbound, hne⟩)
    · exact Or.inl ⟨cs, hcs, rfl⟩
    · exact absurd rfl hne
    · exact Or.inr hbound
  · rintro (⟨cs', hcs', rfl⟩ | hbound)
    · rw [hcs.unique hcs']
      exact Or.inl rfl
    · exact Or.inr ⟨Or.inr hbound, hbound.ne_in⟩

/-- Without a regular expression, `eq` decides whether the candidates of `in` count. -/
theorem fieldCondition_of_no_literal (c : ClassInfo) (h : given? filter "regexp" = none) :
    fieldCondition c f filter = .ok
      (match given? filter "eq" with
      | none => conditionsWithoutEq f (Fields.remove filter "regexp")
      | some value =>
        Fields.insert (conditionsWithoutEq f (Fields.remove filter "regexp")) "$in"
          (.array (eqCandidates f value))) := by
  have heq : Fields.get? (Fields.remove filter "regexp") "eq" = Fields.get? filter "eq" :=
    Fields.get?_remove_of_ne filter (by decide)
  rw [given?]
  rcases given?_eq_none h with hget | hget <;> simp only [fieldCondition, hget, heq] <;>
    cases Fields.get? filter "eq" with
    | none => rfl
    | some value => cases value <;> rfl

/-- A filter that fits a field turns into its conditions. -/
theorem exists_fieldCondition (c : ClassInfo) (h : FilterFits f filter) :
    ∃ condition, fieldCondition c f filter = .ok condition ∧ ∀ entry, entry ∈ condition ↔
      ConditionOf f filter entry := by
  -- A regular expression comes first, then `eq`; only without both do the candidates of `in` stay
  -- as they are.
  cases hregexp : given? filter "regexp" with
  | some value =>
    obtain ⟨literal, pattern, flags, rfl, hform⟩ := h.literal value hregexp
    have hget := (given?_eq_some.mp hregexp).1
    refine ⟨_, ?_, mem_insert_candidates h (.regexp hregexp hform)⟩
    simp only [fieldCondition, hget, ofText_of_hasForm hform, Except.map, toValue]
  | none =>
    refine ⟨_, fieldCondition_of_no_literal c hregexp, ?_⟩
    cases heq : given? filter "eq" with
    | some value => exact mem_insert_candidates h (.eq hregexp heq)
    | none =>
      intro entry
      rw [mem_conditions h]
      refine or_congr_left ⟨?_, ?_⟩
      · rintro ⟨items, hgiven, rfl⟩
        exact ⟨_, .list hregexp heq hgiven, rfl⟩
      · rintro ⟨cs, hcs, rfl⟩
        cases hcs with
        | regexp hgiven _ => rw [hregexp] at hgiven; cases hgiven
        | eq _ hgiven => rw [heq] at hgiven; cases hgiven
        | list _ _ hgiven => exact ⟨_, hgiven, rfl⟩

end Fitting

/-! ## The condition, evaluated -/

section Evaluated

variable {f : ClassField} {filter : Fields Datum}

theorem comparand_ne_regex (f : ClassField) (value : Datum) (pattern options : String) :
    comparand f value ≠ .regex pattern options := by
  unfold comparand
  split
  · rename_i raw _
    cases ObjectId.ofClient? raw with
    | none => exact fun h => by cases h
    | some id => exact fun h => by cases h
  · exact toStored_ne_regex _ pattern options

theorem decides_equals_comparand (f : ClassField) (value : Datum) (stored : Option Value) :
    Decides (equals stored (comparand f value)) (Agrees stored (comparand f value)) :=
  decides_equals (comparand_ne_regex f value) stored

theorem literalFound_iff {literal pattern flags : String} {compiled : Pattern}
    (form : HasForm literal pattern flags)
    (hread : Pattern.read (.ofLetters flags) pattern = some compiled) (stored : Option Value) :
    LiteralFound literal stored ↔ Found compiled stored := by
  constructor
  · rintro ⟨pattern', flags', compiled', form', hread', hfound⟩
    obtain ⟨rfl, rfl⟩ := form.unique form'
    rw [hread] at hread'
    cases hread'
    exact hfound
  · exact fun hfound => ⟨pattern, flags, compiled, form, hread, hfound⟩

theorem decides_eqCandidates (f : ClassField) (value : Datum) (stored : Option Value) :
    Decides (equalsAny stored (eqCandidates f value))
      (Agrees stored (comparand f value) ∨ (value = .bool false ∧ Agrees stored .null)) := by
  have hplain :
      Decides (equalsAny stored [comparand f value]) (∃ c ∈ [comparand f value], Agrees stored c) :=
    decides_equalsAny fun c hc => by
      rw [List.mem_singleton.mp hc]
      exact decides_equals_comparand f value stored
  by_cases hfalse : value = .bool false
  · subst hfalse
    have hcandidates : eqCandidates f (.bool false) = [comparand f (.bool false), .null] := by
      rw [eqCandidates, filterValue_eq_comparand]
    rw [hcandidates]
    have hboth : Decides (equalsAny stored [comparand f (.bool false), .null])
        (∃ c ∈ [comparand f (.bool false), .null], Agrees stored c) :=
      decides_equalsAny fun c hc => by
        rcases List.mem_pair.mp hc with rfl | rfl
        · exact decides_equals_comparand f _ stored
        · exact decides_equals (fun _ _ h => by cases h) stored
    exact hboth.congr (by simp)
  · have hcandidates : eqCandidates f value = [comparand f value] := by
      unfold eqCandidates
      split
      · exact absurd rfl hfalse
      · rw [filterValue_eq_comparand]
    rw [hcandidates]
    exact hplain.congr (by simp [hfalse])

/-- The candidates a filter names are tried for membership. -/
theorem decides_candidates {cs : List Value} (h : Candidates f filter cs)
    (hread : ∀ literal, given? filter "regexp" = some (.string literal) → LiteralReads literal)
    (stored : Option Value) :
    Decides (equalsAny stored cs) (Membership f filter stored) := by
  cases h with
  | @regexp literal pattern flags given form =>
    obtain ⟨compiled, hcompiled⟩ := hread literal given pattern flags form
    have hsorted : Pattern.read (.ofLetters (Extended.sortOptions flags)) pattern =
        some compiled := by
      rw [ofLetters_sortOptions, hcompiled]
    have hany : Decides (equalsAny stored [.regex pattern (Extended.sortOptions flags)])
        (∃ c ∈ [Value.regex pattern (Extended.sortOptions flags)], Found compiled stored) :=
      decides_equalsAny fun c hc => by
        rw [List.mem_singleton.mp hc]
        exact decides_equals_regex hsorted stored
    refine hany.congr ?_
    simp only [Membership, given, literalFound_iff form hcompiled]
    simp
  | @eq value literal given =>
    refine (decides_eqCandidates f value stored).congr ?_
    simp only [Membership, literal, given]
  | @list items literal single given =>
    have hany : Decides (equalsAny stored (items.map (comparand f)))
        (∃ c ∈ items.map (comparand f), Agrees stored c) :=
      decides_equalsAny fun c hc => by
        obtain ⟨item, -, rfl⟩ := List.mem_map.mp hc
        exact decides_equals_comparand f item stored
    refine hany.congr ?_
    simp only [Membership, literal, single, given, List.mem_map, exists_exists_and_eq_and]

/-- A filter that names no candidates asks for no membership. -/
theorem membership_of_no_candidates (h : FilterFits f filter)
    (hnone : ∀ cs, ¬ Candidates f filter cs) (stored : Option Value) :
    Membership f filter stored := by
  cases hregexp : given? filter "regexp" with
  | some value =>
    obtain ⟨literal, pattern, flags, rfl, hform⟩ := h.literal value hregexp
    exact absurd (.regexp hregexp hform) (hnone _)
  | none =>
    cases heq : given? filter "eq" with
    | some value => exact absurd (.eq hregexp heq) (hnone _)
    | none =>
      cases hin : given? filter "in" with
      | some value =>
        obtain ⟨items, rfl⟩ := h.list value hin
        exact absurd (.list hregexp heq hin) (hnone _)
      | none => simp only [Membership, hregexp, heq, hin]

theorem decides_bound {operator : String} {orders : List Ordering} (h : (operator, orders) ∈ bounds)
    (argument : Value) (stored : Option Value) :
    Decides (satisfiesOperator stored ("$" ++ operator) argument)
      (StandsTo stored orders argument) := by
  simp only [bounds, List.mem_cons, Prod.mk.injEq, List.not_mem_nil, or_false] at h
  rcases h with ⟨rfl, rfl⟩ | ⟨rfl, rfl⟩ | ⟨rfl, rfl⟩ | ⟨rfl, rfl⟩
  · exact decides_ok (compares_iff (· == .gt) (by decide))
  · exact decides_ok (compares_iff (· != .lt) (by decide))
  · exact decides_ok (compares_iff (· == .lt) (by decide))
  · exact decides_ok (compares_iff (· != .gt) (by decide))

/-- The conditions of a filter tell whether membership holds and every bound is kept. -/
theorem decides_conditions (h : FilterFits f filter)
    (hread : ∀ literal, given? filter "regexp" = some (.string literal) → LiteralReads literal)
    {condition : Document} (hmem : ∀ entry, entry ∈ condition ↔ ConditionOf f filter entry)
    (stored : Option Value) :
    Decides (satisfiesAll stored condition) (Membership f filter stored ∧
      Bounded f filter stored) := by
  have hamong : ∀ {cs}, Candidates f filter cs →
      Decides (satisfiesOperator stored "$in" (.array cs)) (Membership f filter stored) :=
    fun hcs => decides_candidates hcs hread stored
  have hall : Decides (satisfiesAll stored condition)
      (∀ entry ∈ condition, satisfiesOperator stored entry.1 entry.2 = .ok true) := by
    refine decides_satisfiesAll fun entry hentry => ?_
    rcases (hmem entry).mp hentry with ⟨cs, hcs, rfl⟩ | ⟨hbound, -⟩
    · exact (hamong hcs).self
    · exact (decides_bound hbound _ stored).self
  refine hall.congr ⟨fun hentries => ⟨?_, ?_⟩, ?_⟩
  · by_cases hcs : ∃ cs, Candidates f filter cs
    · obtain ⟨cs, hcs⟩ := hcs
      exact (hamong hcs).iff.mp (hentries _ ((hmem _).mpr (Or.inl ⟨cs, hcs, rfl⟩)))
    · exact membership_of_no_candidates h (not_exists.mp hcs) stored
  · intro operator orders hbound value hgiven
    have hentry := (hmem _).mpr (Or.inr (.mk hbound hgiven))
    exact (decides_bound hbound _ stored).iff.mp (hentries _ hentry)
  · rintro ⟨hmembership, hbounded⟩ entry hentry
    rcases (hmem entry).mp hentry with ⟨cs, hcs, rfl⟩ | ⟨hbound, hgiven⟩
    · exact (hamong hcs).iff.mpr hmembership
    · exact (decides_bound hbound _ stored).iff.mpr (hbounded _ _ hbound _ hgiven)

/-- The conditions of a filter fail to evaluate only for a regular expression that cannot be
read. -/
theorem error_of_conditions {condition : Document}
    (hmem : ∀ entry ∈ condition, ConditionOf f filter entry) {stored : Option Value}
    {e : StoreError} (h : satisfiesAll stored condition = .error e) :
    ∃ pattern, e = .invalidPattern pattern := by
  obtain ⟨entry, hentry, he⟩ := error_of_satisfiesAll h
  rcases hmem entry hentry with ⟨cs, -, rfl⟩ | ⟨hbound, -⟩
  · have hany : equalsAny stored cs = .error e := he
    obtain ⟨candidate, -, hc⟩ := error_of_equalsAny hany
    exact error_of_equals hc
  · obtain ⟨b, hb, -⟩ := decides_bound hbound _ stored
    rw [hb] at he
    cases he

/-- The conditions of a filter are operators, as long as there are any. -/
theorem isOperators_conditions {condition : Document}
    (hmem : ∀ entry ∈ condition, ConditionOf f filter entry) (hne : condition ≠ []) :
    isOperators (.document condition) = true := by
  have hbounds : ∀ b ∈ bounds, ("$" ++ b.1).startsWith "$" = true :=
    fun b _ => String.startsWith_string_iff.mpr ⟨b.1.toList, String.toList_append.symm⟩
  have hin : "$in".startsWith "$" = true := String.startsWith_string_iff.mpr (by decide)
  have hnames : condition.all (fun entry => entry.1.startsWith "$") = true := by
    refine List.all_eq_true.mpr fun entry hentry => ?_
    rcases hmem entry hentry with ⟨cs, -, rfl⟩ | ⟨hbound, -⟩
    · exact hin
    · exact hbounds _ hbound
  rw [isOperators, hnames, Bool.and_true, Bool.not_eq_true', List.isEmpty_eq_false_iff]
  exact hne

end Evaluated

end Listing

end ClassApi
