import ClassApi.Datum
import ClassApi.Proofs.IntegerOrder

/-!
# Query values in the store and stored values in answers

The conversions between query values and stored values lose something in both directions: an enum
member is stored as a text, and ids, dates and everything else that the query language has no value
for is shown as a text. A query value comes back from the store as it was exactly when it has no
enum members and no bytes in it and its numbers are integers of 64 bits or finite floats. Whatever
is shown to clients is of that form. So storing what is shown loses no more than showing it did.
-/

namespace ClassApi

/-- Whether a number is stored as it is: an integer in 64 bits with a sign, or a finite float. -/
def Numeral.IsExact : Numeral → Prop
  | integer n => fitsInt64 n = true
  | real x => x.isFinite = true

theorem Value.toDatum_double (x : Float) :
    (double x).toDatum = if x.isFinite then .number (.real x) else .null := by
  rw [toDatum, Numeral.ofFloat]
  by_cases hfinite : x.isFinite = true
  · rw [if_pos hfinite, if_pos hfinite]
    rfl
  · rw [if_neg hfinite, if_neg hfinite]
    rfl

namespace Datum

mutual

/-- Whether a value has neither enum members nor bytes in it, and only numbers that are stored as
they are. -/
def IsExact : Datum → Prop
  | number n => n.IsExact
  | binary _ => False
  | enum _ => False
  | list items => ExactItems items
  | object members => ExactMembers members
  | _ => True

/-- Whether all list items are of that kind. -/
def ExactItems : List Datum → Prop
  | [] => True
  | item :: rest => IsExact item ∧ ExactItems rest

/-- Whether the values of all members are. -/
def ExactMembers : List (String × Datum) → Prop
  | [] => True
  | (_, value) :: rest => IsExact value ∧ ExactMembers rest

end

theorem toDatum_toStored_number (n : Numeral) :
    (number n).toStored.toDatum = number n ↔ n.IsExact := by
  rw [toStored]
  cases n with
  | integer n =>
    rw [Numeral.toInt?, Numeral.IsExact]
    by_cases hfits : fitsInt64 n = true
    · rw [if_pos hfits]
      exact iff_of_true rfl hfits
    · rw [if_neg hfits]
      refine iff_of_false (fun h => ?_) hfits
      -- A number that does not fit becomes a float, if it stays a number at all.
      simp only [Value.toDatum_double] at h
      split at h
      · cases h
      · cases h
  | real x =>
    rw [Numeral.toInt?, Numeral.IsExact]
    simp only [Value.toDatum_double, Numeral.toFloat]
    by_cases hfinite : x.isFinite = true
    · rw [if_pos hfinite]
      exact iff_of_true rfl hfinite
    · rw [if_neg hfinite]
      exact iff_of_false (fun h => by cases h) hfinite

mutual

/-- A value comes back from the store as it was exactly when it is of that kind. -/
theorem toDatum_toStored_iff : ∀ value : Datum, value.toStored.toDatum = value ↔ value.IsExact
  | .null | .string _ | .bool _ => iff_of_true rfl trivial
  | .number n => toDatum_toStored_number n
  | .binary _ | .enum _ => iff_of_false (fun h => by cases h) id
  | .list items => by
    rw [toStored, Value.toDatum, Datum.list.injEq, IsExact]
    exact toDatumItems_toStoredItems_iff items
  | .object members => by
    rw [toStored, Value.toDatum, Datum.object.injEq, IsExact]
    exact toDatumMembers_toStoredMembers_iff members

theorem toDatumItems_toStoredItems_iff :
    ∀ items : List Datum, Value.toDatumItems (toStoredItems items) = items ↔ ExactItems items
  | [] => iff_of_true rfl trivial
  | item :: rest => by
    rw [toStoredItems, Value.toDatumItems, List.cons.injEq, ExactItems]
    exact and_congr (toDatum_toStored_iff item) (toDatumItems_toStoredItems_iff rest)

theorem toDatumMembers_toStoredMembers_iff :
    ∀ members : List (String × Datum), Value.toDatumMembers (toStoredMembers members) = members ↔
      ExactMembers members
  | [] => iff_of_true rfl trivial
  | (name, value) :: rest => by
    rw [toStoredMembers, Value.toDatumMembers, List.cons.injEq, Prod.mk.injEq, ExactMembers]
    exact and_congr ((and_iff_right rfl).trans (toDatum_toStored_iff value))
      (toDatumMembers_toStoredMembers_iff rest)

end

end Datum

namespace Value

mutual

/-- Whether the integers in lists and documents have the widths of their kinds. -/
def Sized : Value → Prop
  | int32 n => HoldsInteger (int32 n) n
  | int64 n => HoldsInteger (int64 n) n
  | array items => SizedItems items
  | document members => SizedMembers members
  | _ => True

/-- Whether they have in all list items. -/
def SizedItems : List Value → Prop
  | [] => True
  | item :: rest => Sized item ∧ SizedItems rest

/-- Whether they have in the values of all members. -/
def SizedMembers : List (String × Value) → Prop
  | [] => True
  | (_, value) :: rest => Sized value ∧ SizedMembers rest

end

theorem HoldsInteger.fitsInt64 {value : Value} {n : Int} (h : value.HoldsInteger n) :
    fitsInt64 n = true := by
  have hbounds : -9223372036854775808 ≤ n ∧ n ≤ 9223372036854775807 := by
    cases h with
    | int32 hlow hhigh => omega
    | int64 hlow hhigh => omega
  rw [ClassApi.fitsInt64, Bool.and_eq_true, decide_eq_true_iff, decide_eq_true_iff]
  exact hbounds

mutual

/-- What is shown of a stored value comes back from the store as it is. -/
theorem isExact_toDatum : ∀ value : Value, value.Sized → value.toDatum.IsExact
  | .null, _ | .undefined, _ | .string _, _ | .bool _, _ | .objectId _, _ | .date _, _ => trivial
  | .regex _ _, _ | .decimal128 _, _ | .dbPointer _ _, _ | .symbol _, _ => trivial
  | .code _, _ | .codeWithScope _ _, _ | .binary _ _, _ => trivial
  | .logTime _ _, _ | .minKey, _ | .maxKey, _ => trivial
  | .double x, _ => by
    rw [toDatum_double]
    by_cases hfinite : x.isFinite = true
    · rw [if_pos hfinite]
      exact hfinite
    · rw [if_neg hfinite]
      trivial
  | .int32 _, h => HoldsInteger.fitsInt64 h
  | .int64 _, h => HoldsInteger.fitsInt64 h
  | .array items, h => exactItems_toDatumItems items h
  | .document members, h => exactMembers_toDatumMembers members h

theorem exactItems_toDatumItems :
    ∀ items : List Value, SizedItems items → Datum.ExactItems (toDatumItems items)
  | [], _ => trivial
  | item :: rest, h => ⟨isExact_toDatum item h.1, exactItems_toDatumItems rest h.2⟩

theorem exactMembers_toDatumMembers :
    ∀ members : List (String × Value), SizedMembers members →
      Datum.ExactMembers (toDatumMembers members)
  | [], _ => trivial
  | (_, value) :: rest, h => ⟨isExact_toDatum value h.1, exactMembers_toDatumMembers rest h.2⟩

end

/-- The stored form of what is shown of a stored value. -/
def normal (value : Value) : Value :=
  value.toDatum.toStored

/-- Query values come back from the store as they were exactly when they hold nothing that is stored
in another form, and a stored value is brought into its normal form at once. -/
theorem conversions_round_trip :
    (∀ value : Datum, value.toStored.toDatum = value ↔ value.IsExact) ∧
      ∀ value : Value, value.Sized → value.normal.normal = value.normal := by
  refine ⟨Datum.toDatum_toStored_iff, fun value hsized => ?_⟩
  have hback : value.toDatum.toStored.toDatum = value.toDatum :=
    (Datum.toDatum_toStored_iff value.toDatum).mpr (isExact_toDatum value hsized)
  exact congrArg Datum.toStored hback

/-- An object whose members are not in the order of their names comes back as it was; a document
with an integer of 32 bits and a symbol is shown, and stored once more, with other kinds of
values. -/
theorem conversions_round_trip_document :
    (Datum.object [("b", .list [.int 7, .null]), ("a", .number (.real 1.5))]).IsExact ∧
      (Datum.object [("b", .list [.int 7, .null]), ("a", .number (.real 1.5))]).toStored.toDatum =
        .object [("b", .list [.int 7, .null]), ("a", .number (.real 1.5))] ∧
      (document [("n", .int32 7), ("s", .array [.symbol "x"])]).Sized ∧
      (document [("n", .int32 7), ("s", .array [.symbol "x"])]).normal =
        .document [("n", .int64 7), ("s", .array [.string "Symbol(\"x\")"])] ∧
      (document [("n", .int32 7), ("s", .array [.symbol "x"])]).normal.normal =
        (document [("n", .int32 7), ("s", .array [.symbol "x"])]).normal := by
  have hinteger : fitsInt64 7 = true := by decide
  have hreal : (1.5 : Float).isFinite = true := by decide +kernel
  have hexact : (Datum.object [("b", .list [.int 7, .null]), ("a", .number (.real 1.5))]).IsExact :=
    ⟨⟨hinteger, trivial, trivial⟩, hreal, trivial⟩
  have hsized : (document [("n", .int32 7), ("s", .array [.symbol "x"])]).Sized :=
    ⟨.int32 (by decide) (by decide), ⟨trivial, trivial⟩, trivial⟩
  exact ⟨hexact, (conversions_round_trip.1 _).mpr hexact, hsized, by
    rfl, conversions_round_trip.2 _ hsized⟩

end Value

end ClassApi
