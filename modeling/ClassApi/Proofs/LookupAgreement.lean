import ClassApi.Language.Input
import ClassApi.Proofs.Filters
import ClassApi.Proofs.Listing
import ClassApi.Proofs.MemberNames

/-!
# Lookups and lists

A record can be asked for by the value of one of its fields in two ways: by a lookup, which answers
for one record, and by a list that is filtered by equality. Both compare what is stored with the
value, unless a lookup takes a text for an id. They still differ in the records that they consider:
a list leaves out what is removed, and a lookup does not, so that it can tell that a record was
removed. So the lookup gives the first record of the list exactly when the first record that has the
value is one that is listed.
-/

namespace ClassApi

namespace Listing

open Store Query Access

/-- Whether a lookup takes a text for an id: 24 hexadecimal digits, alone or inside a global id with
a type. -/
def LooksLikeId (raw : String) : Prop :=
  (ObjectId.ofHex? raw).isSome ∨
  ∃ globalId, GlobalId.decode? raw = some globalId ∧ globalId.typeName ≠ "" ∧
    (ObjectId.ofHex? globalId.id).isSome

/-- Whether a field of a document has a value. -/
def holds (name : String) (value : Datum) (doc : Document) : Bool :=
  decide (Agrees (Path.lookup doc ("data." ++ name)) value.toStored)

/-- The filter that asks for a value of a field. -/
def equalTo (name : String) (value : Datum) : Fields Datum :=
  [(name, .object [("eq", value)])]

/-- The kinds of values that are compared as they are. -/
def plainKinds : List ScalarKind :=
  [.string, .int, .float, .boolean]

/-! ## Lookups by one field -/

theorem decodeIdLike_of_not {raw : String} (h : ¬ LooksLikeId raw) :
    decodeIdLike raw = .string raw := by
  rw [LooksLikeId, not_or] at h
  have hhex : ObjectId.ofHex? raw = none := Option.not_isSome_iff_eq_none.mp h.1
  rw [decodeIdLike, hhex]
  cases hglobal : GlobalId.decode? raw with
  | none => rfl
  | some globalId =>
    simp only
    split
    · rfl
    · rename_i htype
      have hid : ObjectId.ofHex? globalId.id = none := by
        refine Option.not_isSome_iff_eq_none.mp fun hsome => h.2 ⟨globalId, hglobal, ?_, hsome⟩
        exact fun he => htype (he ▸ rfl)
      rw [hid]

theorem lookupValue_of_isScalar {value : Datum} (hscalar : value.IsScalar)
    (htext : ∀ raw, value = .string raw → ¬ LooksLikeId raw) :
    lookupValue value = value.toStored := by
  rcases lookupValue_cases value with ⟨raw, rfl, -⟩ | ⟨items, rfl, -⟩ | hstored
  · rw [lookupValue, decodeIdLike_of_not (htext raw rfl), Datum.toStored]
  · exact hscalar.elim
  · exact hstored

theorem isOperators_of_isScalar {value : Datum} (h : value.IsScalar) :
    value.isOperators = false := by
  cases value with
  | object members => exact h.elim
  | _ => rfl

section Field

variable {s : Store} {c : ClassInfo} {f : ClassField} {name : String} {value : Datum}

/-- A lookup by a field answers for the first record that has the value there. -/
theorem single_eq_parse (hname : name ≠ "id") (hscalar : value.IsScalar)
    (htext : ∀ raw, value = .string raw → ¬ LooksLikeId raw) :
    Listing.single s c [(name, value)] =
      parse c.name ((s.documents c.name).find? (holds name value)) := by
  have hselects : ∀ doc ∈ s.documents c.name, selects doc (lookupQuery [(name, value)]) =
      .ok (holds name value doc) := by
    intro doc _
    have hplain : ∀ other given, (other, given) ∈ [(name, value)] → other ≠ "id" →
        given.isOperators = false := by
      intro other given hmem _
      cases List.mem_singleton.mp hmem
      exact isOperators_of_isScalar hscalar
    have hnodup : (Fields.names [(name, value)]).Nodup := List.nodup_singleton name
    have hquery : lookupQuery [(name, value)] = [("data." ++ name, value.toStored)] := by
      rw [lookupQuery_eq hnodup]
      simp [hname, lookupValue_of_isScalar hscalar htext]
    obtain ⟨b, hb, hiff⟩ := decides_lookupQuery hnodup hplain doc
    rw [hb, holds, Except.ok.injEq, Bool.eq_iff_iff, decide_eq_true_iff, hiff, hquery,
      List.forall_mem_singleton]
  have hid : Fields.get? [(name, value)] "id" = none := if_neg hname
  rw [Listing.single, hid]
  simp only
  rw [Access.findOne, Store.findOne, selectFirst_eq_ok hselects]
  rfl

/-! ## Lists of the records with a value -/

theorem given?_eq_singleton {operator : String} {given : Datum}
    (h : given? [("eq", value)] operator = some given) : operator = "eq" ∧ given = value := by
  have hmem := List.mem_singleton.mp (mem_of_given h)
  cases hmem
  exact ⟨rfl, rfl⟩

theorem filtersFit_equalTo (hf : c.field? name = some f) (hkind : f.scalar ∈ plainKinds)
    (hscalar : value.IsScalar) : FiltersFit c (equalTo name value) := by
  refine ⟨List.nodup_singleton name, fun other filter hmem => ?_⟩
  cases List.mem_singleton.mp hmem
  have hknown : ∀ kind ∈ plainKinds, "eq" ∈ kind.filterOperators := by decide
  refine ⟨f, hf, List.nodup_singleton _, ?_, ?_, ?_, ?_⟩
  · intro operator hoperator
    rw [List.mem_singleton.mp hoperator]
    exact hknown _ hkind
  · intro given hgiven
    exact absurd (given?_eq_singleton hgiven).1 (by decide)
  · intro operator given _ hgiven
    rw [(given?_eq_singleton hgiven).2]
    exact hscalar
  · intro given hgiven
    exact absurd (given?_eq_singleton hgiven).1 (by decide)

/-- A value that is neither `null` nor `false` is asked for by equality alone. -/
theorem passes_equalTo (hf : c.field? name = some f) (hkind : f.scalar ∈ plainKinds)
    (hnull : value ≠ .null) (hfalse : value ≠ .bool false) (doc : Document) :
    Passes c (equalTo name value) doc ↔ holds name value doc = true := by
  have hrelation : f.scalar ≠ .relation := by
    intro he
    rw [he] at hkind
    exact absurd hkind (by decide)
  have hvalue : comparand f value = value.toStored :=
    comparand_eq_toStored fun he => absurd he hrelation
  have hgiven : given? [("eq", value)] "eq" = some value :=
    given?_eq_some.mpr ⟨rfl, by cases value <;> first | rfl | exact absurd rfl hnull⟩
  have hother : ∀ operator, operator ≠ "eq" → given? [("eq", value)] operator = none := by
    intro operator hne
    exact Option.eq_none_iff_forall_ne_some.mpr fun given h => hne (given?_eq_singleton h).1
  have hmembership : ∀ stored, Membership f [("eq", value)] stored ↔
      Agrees stored value.toStored := by
    intro stored
    simp only [Membership, hother "regexp" (by decide), hgiven, hvalue, hfalse, false_and, or_false]
  have hbounded : ∀ stored, Bounded f [("eq", value)] stored := by
    intro stored operator orders hbound given hgiven
    exact absurd (given?_eq_singleton hgiven).1 (ne_of_mem_bounds hbound).1
  rw [holds, decide_eq_true_iff, ← hmembership]
  constructor
  · intro hpasses
    exact (hpasses name [("eq", value)] f (List.mem_singleton_self _) hf).1
  · intro hmem other filter f' hfilter hf'
    cases List.mem_singleton.mp hfilter
    rw [hf] at hf'
    cases hf'
    exact ⟨hmem, hbounded _⟩

theorem chosen_equalTo (hf : c.field? name = some f) (hkind : f.scalar ∈ plainKinds)
    (hscalar : value.IsScalar) (hnull : value ≠ .null) (hfalse : value ≠ .bool false)
    {query : Document} (hquery : filtersToQuery c (some (.object (equalTo name value))) = .ok query)
    (doc : Document) : chosen query doc = holds name value doc := by
  have hfit := filtersFit_equalTo hf hkind hscalar
  obtain ⟨query', hquery', hmem⟩ := exists_filtersToQuery hfit
  cases hquery.symm.trans hquery'
  have hpatterns : PatternsRead (equalTo name value) := by
    intro other filter hfilter literal hgiven
    cases List.mem_singleton.mp hfilter
    exact absurd (given?_eq_singleton hgiven).1 (by decide)
  rw [Bool.eq_iff_iff, chosen_eq_true, (decides_filters hfit hpatterns hmem doc).iff,
    passes_equalTo hf hkind hnull hfalse]

end Field

theorem nodes_of_unbounded {α : Type} {items : List α} {page : Connection α}
    (h : paginate items ⟨none, none, none, none⟩ = .ok page) :
    page.edges.map Edge.node = items := by
  have hselect : PageBounds.select 0 ⟨none, none, none, none⟩ (items.length : Int) =
      .ok ⟨0, items.length⟩ := by
    show Except.ok (PageBounds.mk 0 (min (items.length : Int) items.length)) = _
    rw [min_self]
  have hhigh : PageBounds.high ⟨0, items.length⟩ items.length = items.length := by
    show max (min (items.length : Int).toNat items.length) (min 0 items.length) = items.length
    omega
  have hlow : PageBounds.low ⟨0, items.length⟩ items.length = 0 := Nat.zero_min _
  have hsums : PageArgs.checkedSums ⟨none, none, none, none⟩ = .ok ⟨0, 0⟩ := by rfl
  obtain ⟨sums, hgiven, h⟩ := bind_eq_ok h
  cases hsums.symm.trans hgiven
  obtain ⟨bounds, hbounds, h⟩ := bind_eq_ok h
  rw [hselect] at hbounds
  cases hbounds
  cases h
  rw [map_node_edgesFrom, hlow, hhigh, List.drop_zero, Nat.sub_zero, List.take_length]

/-- The first of which one thing holds is the first of which another thing holds too, if it does of
that one. -/
theorem find?_and_of_find? {α : Type} {items : List α} {p q : α → Bool} {item : α}
    (h : items.find? q = some item) (hp : p item = true) :
    items.find? (fun x => p x && q x) = some item := by
  obtain ⟨hq, front, back, rfl, hfront⟩ := List.find?_eq_some_iff_append.mp h
  refine List.find?_eq_some_iff_append.mpr ⟨?_, front, back, rfl, fun x hx => ?_⟩
  · rw [hp, hq, Bool.and_true]
  · rw [Bool.not_and, hfront x hx, Bool.or_true]

section Agreement

variable {s : Store} {c : ClassInfo} {f : ClassField} {name : String} {value : Datum}
  {page : Connection EdgeNode}

/-- The list of the records with a value begins with the first live one. -/
theorem head_of_page (hf : c.field? name = some f) (hkind : f.scalar ∈ plainKinds)
    (hscalar : value.IsScalar) (hnull : value ≠ .null) (hfalse : value ≠ .bool false)
    (hunique : UniqueIds (s.documents c.name))
    (hrecords : ∀ doc ∈ s.documents c.name, (StoredRecord.ofDocument? doc).isSome)
    (hpage : Listing.page s c [("filters", .object (equalTo name value))] = .ok page)
    (hne : page.edges ≠ []) :
    ∃ shown record, (s.documents c.name).find? (fun doc => isLive doc && holds name value doc) =
      some shown ∧ parse c.name (some shown) = .ok record ∧
      page.edges.head?.map Edge.node = some (.loaded (.ofClass record)) := by
  obtain ⟨query, records, hquery, -, hlisted, hcut⟩ := exists_records_of_page hunique hrecords hpage
  have hlive : live query (s.documents c.name) =
      (s.documents c.name).filter fun doc => isLive doc && holds name value doc :=
    List.filter_congr fun doc _ => by rw [chosen_equalTo hf hkind hscalar hnull hfalse hquery]
  have hread : parseAll c.name ((s.documents c.name).filter fun doc => isLive doc &&
      holds name value doc) = .ok records :=
    hlive ▸ hlisted
  have hnodes : page.edges.map Edge.node = records.map fun r => .loaded (.ofClass r) :=
    nodes_of_unbounded hcut
  have hhead : page.edges.head?.map Edge.node = records.head?.map fun r =>
    .loaded (.ofClass r) := by
    rw [← List.head?_map, hnodes, List.head?_map]
  rw [← List.head?_filter]
  cases hdocs : (s.documents c.name).filter fun doc => isLive doc && holds name value doc with
  | nil =>
    rw [hdocs] at hread
    cases hread
    exact absurd (List.map_eq_nil_iff.mp hnodes) hne
  | cons shown rest =>
    rw [hdocs] at hread
    obtain ⟨record, hrecord, hread⟩ := bind_eq_ok hread
    obtain ⟨others, -, hread⟩ := bind_eq_ok hread
    cases hread
    exact ⟨shown, record, rfl, hrecord, hhead⟩

theorem parse_eq_removed_iff {className : String} {doc : Document}
    (h : (StoredRecord.ofDocument? doc).isSome) :
    parse className (some doc) = .error (.removed className) ↔
      Fields.get? doc "_deleted" = some (.bool true) := by
  obtain ⟨stored, hstored⟩ := Option.isSome_iff_exists.mp h
  obtain ⟨-, -, -, hdeleted⟩ := StoredRecord.ofDocument?_eq_some hstored
  constructor
  · intro hparse
    rcases parse_error hparse with ⟨he, -⟩ | ⟨-, stored', hstored', hmark⟩
    · cases he
    · rw [hstored] at hstored'
      cases hstored'
      rw [hmark] at hdeleted
      cases hv : Fields.get? doc "_deleted" with
      | none =>
        rw [hv] at hdeleted
        cases hdeleted
      | some v =>
        rw [hv] at hdeleted
        cases v with
        | bool b =>
          cases hdeleted
          rfl
        | _ => cases hdeleted
  · intro hmark
    rw [hmark] at hdeleted
    have hremoved : stored.deleted = true := (Option.some.inj hdeleted).symm
    rw [parse, StoredRecord.ofDocument, hstored]
    simp only [hremoved, if_pos]

/-- When the list of the records with a value is not empty, the lookup for the value answers for the
first record that has it, removed ones included. It gives the first record of the list exactly when
that one is live, and fails because the record was removed exactly when it carries the mark. -/
theorem single_eq_head_iff {json : Json} {r : Registry} {kind : ScalarKind}
    (h : Registry.ofJson json = .ok r) (hc : c ∈ r.classes) (hf : c.field? name = some f)
    (hscalar : f.kind = .scalar kind) (hkind : kind ∈ plainKinds)
    (hvalue : Schema.scalarAccepts kind.typeName value = true) (hfalse : value ≠ .bool false)
    (htext : ∀ raw, value = .string raw → ¬ LooksLikeId raw)
    (hunique : UniqueIds (s.documents c.name))
    (hrecords : ∀ doc ∈ s.documents c.name, (StoredRecord.ofDocument? doc).isSome)
    (hpage : Listing.page s c [("filters", .object (equalTo name value))] = .ok page)
    (hne : page.edges ≠ []) :
    ∃ record found, page.edges.head?.map Edge.node = some (.loaded (.ofClass record)) ∧
      (s.documents c.name).find? (holds name value) = some found ∧
      (Listing.single s c [(name, value)] = .ok record ↔ isLive found = true) ∧
      (Listing.single s c [(name, value)] = .error (.removed c.name) ↔
        Fields.get? found "_deleted" = some (.bool true)) := by
  obtain ⟨definitions, -, hr⟩ := Registry.ofJson_eq_ok h
  obtain ⟨hfname, hfmem⟩ := Mutation.name_of_field? hf
  have hid : name ≠ "id" := by
    rintro rfl
    exact Registry.notReserved_name hr hc hfmem (hfname ▸ by decide)
  have hfkind : f.scalar ∈ plainKinds := by
    rw [ClassField.scalar, hscalar]
    exact hkind
  have hplain : value.IsScalar ∧ value ≠ .null := by
    simp only [plainKinds, List.mem_cons, List.not_mem_nil, or_false] at hkind
    rcases hkind with rfl | rfl | rfl | rfl <;> cases value <;>
      first | exact ⟨trivial, Datum.noConfusion⟩ | cases hvalue
  obtain ⟨shown, record, hshown, hparse, hhead⟩ :=
    head_of_page hf hfkind hplain.1 hplain.2 hfalse hunique hrecords hpage hne
  have hboth : (isLive shown && holds name value shown) = true :=
    List.find?_some (p := fun doc => isLive doc && holds name value doc) hshown
  obtain ⟨hlive, hholds⟩ := Bool.and_eq_true_iff.mp hboth
  have hshownMem := List.mem_of_find?_eq_some hshown
  have hsingle := single_eq_parse (s := s) (c := c) hid hplain.1 htext
  cases hfound : (s.documents c.name).find? (holds name value) with
  | none => exact absurd hholds (List.find?_eq_none.mp hfound shown hshownMem)
  | some found =>
    have hfoundMem := List.mem_of_find?_eq_some hfound
    rw [hfound] at hsingle
    refine ⟨record, found, hhead, rfl, ?_, ?_⟩
    · rw [hsingle]
      constructor
      · intro hrecord
        obtain ⟨id, hidFound⟩ := hunique.present found hfoundMem
        obtain ⟨id', hidShown⟩ := hunique.present shown hshownMem
        have hsame : found = shown := hunique.eq_of_idOf hfoundMem hshownMem
          ((idOf_of_parse hidFound hrecord).trans (idOf_of_parse hidShown hparse).symm)
        exact hsame ▸ hlive
      · intro hfoundLive
        rw [find?_and_of_find? hfound hfoundLive] at hshown
        cases hshown
        exact hparse
    · rw [hsingle]
      exact parse_eq_removed_iff (hrecords found hfoundMem)

end Agreement

end Listing

namespace Sample

/-- The class of users with a name and an address. -/
def addressee : ClassInfo :=
  userWith "name" "address"

/-- A mutation of the class. -/
def addresseeCall (kind : MutationKind) (input : Fields Datum) : MutationCall where
  kind := kind
  cls := addressee
  version := 1
  input := input

/-- Two users of one name. -/
def namesakes : Store :=
  empty.after [addresseeCall .create [("name", .string "a")],
    addresseeCall .create [("name", .string "a")]]

/-- Two users of one name, the first of whom is removed. -/
def survivor : Store :=
  namesakes.after [addresseeCall .remove [("id", .string firstId)]]

/-- A user whose name is written as an id. -/
def disguised : Store :=
  empty.after [addresseeCall .create [("name", .string firstId)]]

theorem addressee_accepted : Registry.ofJson (userJson "name" "address") = .ok ⟨[addressee]⟩ :=
  Registry.eq_ok_of_classes (by decide +kernel)

end Sample

namespace Listing

open Store

/-- Of two users of one name, the first one is looked up and heads the list. -/
theorem single_eq_head_iff_namesakes :
    Registry.ofJson (Sample.userJson "name" "address") = .ok ⟨[Sample.addressee]⟩ ∧
    ∃ page record, Listing.page Sample.namesakes Sample.addressee
        [("filters", .object (equalTo "name" (.string "a")))] = .ok page ∧
      page.edges.head?.map Edge.node = some (.loaded (.ofClass record)) ∧
      Listing.single Sample.namesakes Sample.addressee [("name", .string "a")] = .ok record := by
  have hpresent : ∀ doc ∈ Sample.namesakes.documents "User", (idOf doc).isSome = true := by
    decide +kernel
  have hunique : UniqueIds (Sample.namesakes.documents Sample.addressee.name) :=
    ⟨fun doc hdoc => Option.isSome_iff_exists.mp (hpresent doc hdoc), by decide +kernel⟩
  have htext : ∀ raw, Datum.string "a" = .string raw → ¬ LooksLikeId raw := by
    intro raw he
    cases he
    have hhex : ObjectId.ofHex? "a" = none := by decide +kernel
    have hglobal : GlobalId.decode? "a" = none := by decide +kernel
    rw [LooksLikeId, hhex, hglobal]
    simp
  have hcount : (Listing.page Sample.namesakes Sample.addressee
      [("filters", .object (equalTo "name" (.string "a")))]).toOption.map
          (fun page => page.edges.length) = some 2 := by
    decide +kernel
  have hfirst :
      ((Sample.namesakes.documents Sample.addressee.name).find? (holds "name" (.string "a"))).map
        isLive = some true := by
    decide +kernel
  cases hpage :
    Listing.page Sample.namesakes Sample.addressee [("filters",
      .object (equalTo "name" (.string "a")))] with
  | error e =>
    rw [hpage] at hcount
    cases hcount
  | ok page =>
    rw [hpage] at hcount
    have hne : page.edges ≠ [] := fun he => by simp [Except.toOption, he] at hcount
    have hfield :
        Sample.addressee.field? "name" = some ⟨"name", .scalar .string, false, none⟩ := rfl
    obtain ⟨record, found, hhead, hfound, hlive, -⟩ :=
      single_eq_head_iff Sample.addressee_accepted List.mem_cons_self
      hfield rfl (by decide) rfl (by simp) htext hunique (by decide +kernel) hpage hne
    rw [hfound] at hfirst
    exact ⟨Sample.addressee_accepted, page, record, rfl, hhead, hlive.mpr (Option.some.inj hfirst)⟩

/-- When the first of them is removed, the list shows the other one, and the lookup fails. A user
whose name is written as an id is listed, and not found by the lookup. -/
theorem exists_listed_not_single :
    Registry.ofJson (Sample.userJson "name" "address") = .ok ⟨[Sample.addressee]⟩ ∧
    (∃ page, Listing.page Sample.survivor Sample.addressee
        [("filters", .object (equalTo "name" (.string "a")))] = .ok page ∧ page.edges ≠ [] ∧
      Listing.single Sample.survivor Sample.addressee [("name", .string "a")] =
        .error (.removed "User")) ∧
    ∃ page, Listing.page Sample.disguised Sample.addressee
        [("filters", .object (equalTo "name" (.string Sample.firstId)))] = .ok page ∧
        page.edges ≠ [] ∧
      Listing.single Sample.disguised Sample.addressee [("name", .string Sample.firstId)] =
        .error (.notFound "User") := by
  have hshown : ∀ (s : Store) (value : Datum),
      (Listing.page s Sample.addressee [("filters", .object (equalTo "name" value))]).toOption.map
        (fun page => page.edges.length) = some 1 →
      ∃ page, Listing.page s Sample.addressee [("filters", .object (equalTo "name" value))] =
          .ok page ∧ page.edges ≠ [] := by
    intro s value hcount
    cases hpage : Listing.page s Sample.addressee [("filters", .object (equalTo "name" value))] with
    | error e =>
      rw [hpage] at hcount
      cases hcount
    | ok page =>
      rw [hpage] at hcount
      exact ⟨page, rfl, fun he => by simp [Except.toOption, he] at hcount⟩
  obtain ⟨first, hfirst, hfirstShown⟩ := hshown Sample.survivor (.string "a") (by decide +kernel)
  obtain ⟨second, hsecond, hsecondShown⟩ :=
    hshown Sample.disguised (.string Sample.firstId) (by decide +kernel)
  exact ⟨Sample.addressee_accepted,
    ⟨first, hfirst, hfirstShown, failureOf_eq_some (by decide +kernel)⟩,
    ⟨second, hsecond, hsecondShown, failureOf_eq_some (by decide +kernel)⟩⟩

end Listing

end ClassApi
