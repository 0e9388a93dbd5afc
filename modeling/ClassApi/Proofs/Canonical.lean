import ClassApi.Proofs.Input
import ClassApi.Proofs.Rereading

/-!
# The form of stored values

Values that come from clients repeat no member name, and nor do those that are read from JSON texts,
because a reader keeps one member for a name. What is stored for such values is in the form that
stored values have: no document repeats a name and options are sorted. Each function on the way from
an input to the data of a record keeps it so, and there is one lemma for each of them.
-/

namespace ClassApi

/-! ## Values without repeated names -/

namespace Datum

mutual

/-- Whether no object in a value repeats a name. -/
def Distinct : Datum → Prop
  | .list items => DistinctItems items
  | .object members => (Fields.names members).Nodup ∧ DistinctMembers members
  | _ => True

/-- Whether no object in list items repeats a name. -/
def DistinctItems : List Datum → Prop
  | [] => True
  | item :: rest => Distinct item ∧ DistinctItems rest

/-- Whether no object in the values of members repeats a name. -/
def DistinctMembers : List (String × Datum) → Prop
  | [] => True
  | (_, value) :: rest => Distinct value ∧ DistinctMembers rest

end

theorem distinctItems_iff {items : List Datum} :
    DistinctItems items ↔ ∀ item ∈ items, item.Distinct := by
  induction items with
  | nil => simp [DistinctItems]
  | cons item rest ih => rw [DistinctItems, ih, List.forall_mem_cons]

end Datum

namespace Json

mutual

/-- Whether no object in a JSON value repeats a name. -/
def Distinct : Json → Prop
  | .array items => DistinctItems items
  | .object members => (Fields.names members).Nodup ∧ DistinctMembers members
  | _ => True

/-- Whether no object in list items repeats a name. -/
def DistinctItems : List Json → Prop
  | [] => True
  | item :: rest => Distinct item ∧ DistinctItems rest

/-- Whether no object in the values of members repeats a name. -/
def DistinctMembers : List (String × Json) → Prop
  | [] => True
  | (_, value) :: rest => Distinct value ∧ DistinctMembers rest

end

theorem distinctMembers_iff {members : List (String × Json)} :
    DistinctMembers members ↔ ∀ member ∈ members, member.2.Distinct := by
  induction members with
  | nil => simp [DistinctMembers]
  | cons member rest ih => rw [DistinctMembers, ih, List.forall_mem_cons]

end Json

namespace Value

theorem canonicalItems_iff {items : List Value} :
    CanonicalItems items ↔ ∀ item ∈ items, item.Canonical := by
  induction items with
  | nil => simp [CanonicalItems]
  | cons item rest ih => rw [CanonicalItems, ih, List.forall_mem_cons]

theorem canonicalMembers_iff {members : List (String × Value)} :
    CanonicalMembers members ↔ ∀ member ∈ members, member.2.Canonical := by
  induction members with
  | nil => simp [CanonicalMembers]
  | cons member rest ih => rw [CanonicalMembers, ih, List.forall_mem_cons]

end Value

/-! ## Reading JSON texts -/

namespace Json

theorem distinct_ofEntries {members : List (String × Json)} (h : DistinctMembers members) :
    (Json.object (Fields.ofEntries members)).Distinct := by
  refine ⟨Fields.nodup_ofEntries members, distinctMembers_iff.mpr fun member hmember => ?_⟩
  exact distinctMembers_iff.mp h member (Fields.mem_of_mem_ofEntries hmember)

mutual

/-- Objects that are read repeat no name. -/
theorem distinct_takeValue :
    ∀ (fuel depth : Nat) (input : List Char) {value : Json} {rest : List Char},
    takeValue fuel depth input = some (value, rest) → value.Distinct
  | 0, _, _, _, _, h => by
    rw [takeValue] at h
    cases h
  | fuel + 1, depth, input, value, rest, h => by
    rw [takeValue] at h
    split at h
    · obtain ⟨after, -, he⟩ := Option.map_eq_some_iff.mp h
      cases he
      trivial
    · obtain ⟨after, -, he⟩ := Option.map_eq_some_iff.mp h
      cases he
      trivial
    · obtain ⟨after, -, he⟩ := Option.map_eq_some_iff.mp h
      cases he
      trivial
    · obtain ⟨after, -, he⟩ := Option.map_eq_some_iff.mp h
      cases he
      trivial
    · split at h
      · cases h
      · split at h
        · cases h
          trivial
        · obtain ⟨⟨items, after⟩, hitems, he⟩ := Option.map_eq_some_iff.mp h
          cases he
          exact distinct_takeItems fuel _ _ hitems
    · split at h
      · cases h
      · split at h
        · cases h
          exact ⟨List.nodup_nil, trivial⟩
        · obtain ⟨⟨members, after⟩, hmembers, he⟩ := Option.map_eq_some_iff.mp h
          cases he
          exact distinct_ofEntries (distinct_takeMembers fuel _ _ hmembers)
    · obtain ⟨⟨literal, after⟩, -, h⟩ := Option.bind_eq_some_iff.mp h
      obtain ⟨n, -, h⟩ := Option.bind_eq_some_iff.mp h
      cases h
      trivial

theorem distinct_takeItems :
    ∀ (fuel depth : Nat) (input : List Char) {items : List Json} {rest : List Char},
    takeItems fuel depth input = some (items, rest) → DistinctItems items
  | 0, _, _, _, _, h => by
    rw [takeItems] at h
    cases h
  | fuel + 1, depth, input, items, rest, h => by
    rw [takeItems] at h
    obtain ⟨⟨item, after⟩, hitem, h⟩ := Option.bind_eq_some_iff.mp h
    have hdistinct := distinct_takeValue fuel depth input hitem
    simp only at h
    split at h
    · obtain ⟨⟨others, after'⟩, hothers, h⟩ := Option.bind_eq_some_iff.mp h
      cases h
      exact ⟨hdistinct, distinct_takeItems fuel depth _ hothers⟩
    · cases h
      exact ⟨hdistinct, trivial⟩
    · cases h

theorem distinct_takeMembers :
    ∀ (fuel depth : Nat) (input : List Char) {members : List (String × Json)}
    {rest : List Char}, takeMembers fuel depth input = some (members, rest) →
    DistinctMembers members
  | 0, _, _, _, _, h => by
    rw [takeMembers] at h
    cases h
  | fuel + 1, depth, input, members, rest, h => by
    rw [takeMembers] at h
    split at h
    · obtain ⟨⟨name, after⟩, -, h⟩ := Option.bind_eq_some_iff.mp h
      simp only at h
      split at h
      · obtain ⟨⟨value, after'⟩, hvalue, h⟩ := Option.bind_eq_some_iff.mp h
        have hdistinct := distinct_takeValue fuel depth _ hvalue
        simp only at h
        split at h
        · obtain ⟨⟨others, after''⟩, hothers, h⟩ := Option.bind_eq_some_iff.mp h
          cases h
          exact ⟨hdistinct, distinct_takeMembers fuel depth _ hothers⟩
        · cases h
          exact ⟨hdistinct, trivial⟩
        · cases h
      · cases h
    · cases h

end

/-- A JSON text gives a value whose objects repeat no name. -/
theorem distinct_read {text : String} {value : Json} (h : read text = some value) :
    value.Distinct := by
  rw [read] at h
  split at h
  · rename_i found after htake
    split at h
    · cases h
      exact distinct_takeValue _ _ _ htake
    · cases h
  · cases h

end Json

/-! ## Extended JSON -/

namespace Extended

open Value

theorem perm_sortOptions (options : String) : (sortOptions options).toList.Perm options.toList := by
  rw [sortOptions, String.toList_ofList]
  exact List.mergeSort_perm _ _

theorem pairwise_sortOptions (options : String) :
    (sortOptions options).toList.Pairwise (· ≤ ·) := by
  have htrans : ∀ a b c : Char, decide (a ≤ b) = true → decide (b ≤ c) = true →
      decide (a ≤ c) = true := by
    intro a b c hab hbc
    exact decide_eq_true (Char.le_trans (of_decide_eq_true hab) (of_decide_eq_true hbc))
  have htotal : ∀ a b : Char, (decide (a ≤ b) || decide (b ≤ a)) = true := by
    intro a b
    rw [Bool.or_eq_true, decide_eq_true_iff, decide_eq_true_iff]
    exact Char.le_total a b
  rw [sortOptions, String.toList_ofList]
  exact (List.pairwise_mergeSort htrans htotal options.toList).imp of_decide_eq_true

theorem sortOptions_sorted (options : String) :
    sortOptions (sortOptions options) = sortOptions options := by
  have hsorted := (pairwise_sortOptions options).imp (decide_eq_true (p := _ ≤ _))
  rw [sortOptions.eq_def (sortOptions options), List.mergeSort_of_pairwise hsorted,
    String.ofList_toList]

/-- What a mark stands for is in the form of stored values, when the scope is. -/
theorem canonical_marked {mark : Mark} {members : Fields Json} {scope : Option (Option Document)}
    {v : Value} (hscope : ∀ inner, scope = some (some inner) → (Value.document inner).Canonical)
    (h : marked mark members scope = some v) : v.Canonical := by
  rcases marked_cases h with hsimple | ⟨pattern, options, rfl⟩ | ⟨text, inner, rfl, hinner⟩
  · exact hsimple.canonical
  · exact sortOptions_sorted options
  · exact hscope inner hinner

theorem names_ofMembers {members : List (String × Json)} {result : List (String × Value)}
    (h : ofMembers members = some result) : Fields.names result = Fields.names members := by
  induction members generalizing result with
  | nil =>
    cases h
    rfl
  | cons member rest ih =>
    obtain ⟨name, json⟩ := member
    rw [ofMembers] at h
    obtain ⟨value, -, h⟩ := Option.bind_eq_some_iff.mp h
    obtain ⟨values, hvalues, h⟩ := Option.bind_eq_some_iff.mp h
    cases h
    rw [Fields.names, Fields.names, List.map_cons, List.map_cons, ← Fields.names, ← Fields.names,
      ih hvalues]

mutual

/-- Extended JSON without repeated names stands for a value in the form of stored values. -/
theorem canonical_ofJson :
    ∀ (json : Json) {v : Value}, json.Distinct → ofJson json = some v → v.Canonical
  | .null, v, _, h | .bool _, v, _, h | .string _, v, _, h => by
    rw [ofJson] at h
    cases h
    trivial
  | .number n, v, _, h => by
    rw [ofJson] at h
    cases h
    cases n with
    | real x => trivial
    | integer n =>
      rw [ofNumeral]
      split
      · trivial
      · split
        · trivial
        · trivial
  | .array items, v, hd, h => by
    rw [ofJson] at h
    obtain ⟨values, hvalues, rfl⟩ := Option.map_eq_some_iff.mp h
    exact canonical_ofItems items hd hvalues
  | .object members, v, hd, h => by
    rw [ofJson] at h
    split at h
    · exact canonical_marked (fun inner hinner => canonical_scopeOf members hd.2 hinner) h
    · obtain ⟨values, hvalues, rfl⟩ := Option.map_eq_some_iff.mp h
      exact ⟨names_ofMembers hvalues ▸ hd.1, canonical_ofMembers members hd.2 hvalues⟩

theorem canonical_ofItems : ∀ (items : List Json) {values : List Value}, Json.DistinctItems items →
    ofItems items = some values → CanonicalItems values
  | [], values, _, h => by
    cases h
    trivial
  | item :: rest, values, hd, h => by
    rw [ofItems] at h
    obtain ⟨value, hvalue, h⟩ := Option.bind_eq_some_iff.mp h
    obtain ⟨others, hothers, h⟩ := Option.bind_eq_some_iff.mp h
    cases h
    exact ⟨canonical_ofJson item hd.1 hvalue, canonical_ofItems rest hd.2 hothers⟩

theorem canonical_ofMembers : ∀ (members : List (String × Json)) {values : List (String × Value)},
    Json.DistinctMembers members → ofMembers members = some values → CanonicalMembers values
  | [], values, _, h => by
    cases h
    trivial
  | (name, json) :: rest, values, hd, h => by
    rw [ofMembers] at h
    obtain ⟨value, hvalue, h⟩ := Option.bind_eq_some_iff.mp h
    obtain ⟨others, hothers, h⟩ := Option.bind_eq_some_iff.mp h
    cases h
    exact ⟨canonical_ofJson json hd.1 hvalue, canonical_ofMembers rest hd.2 hothers⟩

theorem canonical_scopeOf :
    ∀ (members : List (String × Json)) {inner : Document}, Json.DistinctMembers members →
    scopeOf members = some (some inner) → (Value.document inner).Canonical
  | [], inner, _, h => by
    rw [scopeOf] at h
    cases h
  | (name, json) :: rest, inner, hd, h => by
    rw [scopeOf.eq_def] at h
    simp only at h
    split at h
    · split at h
      · cases h
      · rename_i scope
        obtain ⟨values, hvalues, he⟩ := Option.map_eq_some_iff.mp h
        cases he
        obtain ⟨hnames, hmembers⟩ := hd.1
        exact ⟨names_ofMembers hvalues ▸ hnames, canonical_ofMembers scope hmembers hvalues⟩
      · cases h
    · exact canonical_scopeOf rest hd.2 h

end

end Extended

/-! ## From the input to the data -/

namespace Datum

open Value

theorem names_toStoredMembers (members : List (String × Datum)) :
    Fields.names (toStoredMembers members) = Fields.names members := by
  induction members with
  | nil => rfl
  | cons member rest ih =>
    rw [toStoredMembers, Fields.names, Fields.names, List.map_cons, List.map_cons, ← Fields.names,
      ← Fields.names, ih]

mutual

/-- A value without repeated names is stored in the form of stored values. -/
theorem canonical_toStored : ∀ value : Datum, value.Distinct → value.toStored.Canonical
  | .list items, h => canonical_toStoredItems items h
  | .object members, h =>
    ⟨(names_toStoredMembers members).symm ▸ h.1, canonical_toStoredMembers members h.2⟩
  | .number n, _ => by
    rw [toStored]
    split
    · trivial
    · trivial
  | .null, _ | .string _, _ | .bool _, _ | .binary _, _ | .enum _, _ => trivial

theorem canonical_toStoredItems :
    ∀ items : List Datum, DistinctItems items → CanonicalItems (toStoredItems items)
  | [], _ => trivial
  | item :: rest, h => ⟨canonical_toStored item h.1, canonical_toStoredItems rest h.2⟩

theorem canonical_toStoredMembers : ∀ members : List (String × Datum), DistinctMembers members →
    CanonicalMembers (toStoredMembers members)
  | [], _ => trivial
  | (_, value) :: rest, h => ⟨canonical_toStored value h.1, canonical_toStoredMembers rest h.2⟩

end

/-- A text that is read as JSON is stored in that form, too. -/
theorem canonical_toStoredMixed {value : Datum} (h : value.Distinct) :
    value.toStoredMixed.Canonical := by
  cases value with
  | string raw =>
    rw [toStoredMixed]
    split
    · cases hread : (Json.read raw).bind Extended.ofJson with
      | none => trivial
      | some v =>
        obtain ⟨json, hjson, hv⟩ := Option.bind_eq_some_iff.mp hread
        exact Extended.canonical_ofJson json (Json.distinct_read hjson) hv
    · trivial
  | _ => exact canonical_toStored _ h

end Datum

namespace Mutation

open Value

theorem canonical_resolveReference {s : Store} {target : String} {value : Datum} {v : Value}
    (h : resolveReference s target value = .ok v) : v.Canonical := by
  rw [resolveReference.eq_def] at h
  split at h
  · cases h
    trivial
  · obtain ⟨id, -, rfl⟩ := map_eq_ok h
    trivial
  · cases h

theorem canonical_resolveReferences {s : Store} {target : String} {values : List Datum}
    {vs : List Value} (h : resolveReferences s target values = .ok vs) : CanonicalItems vs := by
  induction values generalizing vs with
  | nil =>
    cases h
    trivial
  | cons value rest ih =>
    obtain ⟨resolved, hresolved, h⟩ := bind_eq_ok h
    obtain ⟨others, hothers, h⟩ := bind_eq_ok h
    cases h
    exact ⟨canonical_resolveReference hresolved, ih hothers⟩

/-- What is stored for the input to a field is in the form of stored values. -/
theorem canonical_resolveValue {s : Store} {f : ClassField} {value : Datum} {v : Value}
    (hd : value.Distinct) (h : resolveValue s f value = .ok v) : v.Canonical := by
  rw [resolveValue.eq_def] at h
  split at h
  · exact canonical_resolveReference h
  · obtain ⟨vs, hvs, rfl⟩ := map_eq_ok h
    exact canonical_resolveReferences hvs
  · obtain ⟨vs, hvs, rfl⟩ := map_eq_ok h
    exact canonical_resolveReferences hvs
  · cases h
    exact Datum.canonical_toStoredMixed hd
  · cases h
    refine canonicalItems_iff.mpr fun item hitem => ?_
    obtain ⟨given, hgiven, rfl⟩ := List.mem_map.mp hitem
    exact Datum.canonical_toStoredMixed (Datum.distinctItems_iff.mp hd given hgiven)
  · cases h
    exact Datum.canonical_toStored _ hd

/-- The data that the input gives is in the form of stored values. -/
theorem canonical_resolveInput {s : Store} {c : ClassInfo} {input : Fields Datum} {data : Document}
    (hd : ∀ member ∈ input, member.2.Distinct) (h : resolveInput s c input = .ok data) :
    (Value.document data).Canonical := by
  refine ⟨resolveInput_nodup h, canonicalMembers_iff.mpr fun member hmember => ?_⟩
  obtain ⟨value, f, hgives, hresolved⟩ := mem_resolveInput h hmember
  exact canonical_resolveValue (hd _ hgives.1) hresolved

end Mutation

end ClassApi
