import ClassApi.Proofs.Unmarked
import Mathlib.Data.List.TakeWhile

/-!
# Objects and lists given as texts

A field of any shape takes an object or a list as it is, or as a JSON text. The two go different
ways into the store. A text is read as extended JSON, where an integer is as narrow as it can be,
and what is given as it is keeps all integers at 64 bits. Where no member has a name that begins
with a dollar sign, that is the only difference. A text that does not begin like an object or a
list, or is no JSON, is stored as it is.
-/

namespace ClassApi

namespace Value

mutual

/-- A stored value with all its integers at 64 bits. -/
def widen : Value → Value
  | int32 n => int64 n
  | codeWithScope text scope => codeWithScope text (widenMembers scope)
  | array items => array (widenItems items)
  | document members => document (widenMembers members)
  | value => value

/-- List items with all their integers at 64 bits. -/
def widenItems : List Value → List Value
  | [] => []
  | item :: rest => widen item :: widenItems rest

/-- Members with all their integers at 64 bits. -/
def widenMembers : List (String × Value) → List (String × Value)
  | [] => []
  | (name, value) :: rest => (name, widen value) :: widenMembers rest

end

theorem fitsInt64_of_fitsInt32 {n : Int} (h : Extended.fitsInt32 n = true) :
    fitsInt64 n = true := by
  rw [Extended.fitsInt32, Bool.and_eq_true, decide_eq_true_iff, decide_eq_true_iff] at h
  rw [fitsInt64, Bool.and_eq_true, decide_eq_true_iff, decide_eq_true_iff]
  unfold Extended.int32Min Extended.int32Max at h
  omega

theorem widen_ofNumeral (n : Numeral) :
    (Extended.ofNumeral n).widen = (Datum.number n).toStored := by
  rw [Datum.toStored]
  cases n with
  | real x => rfl
  | integer n =>
    rw [Extended.ofNumeral, Numeral.toInt?]
    by_cases h32 : Extended.fitsInt32 n = true
    · simp [h32, fitsInt64_of_fitsInt32 h32, widen]
    · by_cases h64 : fitsInt64 n = true
      · simp [h32, h64, widen]
      · simp [h32, h64, widen, Numeral.toFloat]

end Value

/-! ## The two ways into the store -/

namespace Extended

open Value

mutual

/-- JSON without marks stands for what it is stored as when it is given as it is, the width of
integers aside. -/
theorem exists_ofJson : ∀ json : Json, json.Unmarked →
    ∃ value, ofJson json = some value ∧ value.widen = (Datum.ofJson json).toStored
  | .null, _ => ⟨.null, rfl, rfl⟩
  | .bool b, _ => ⟨.bool b, rfl, rfl⟩
  | .string s, _ => ⟨.string s, rfl, rfl⟩
  | .number n, _ => ⟨ofNumeral n, rfl, widen_ofNumeral n⟩
  | .array items, h => by
    obtain ⟨values, hvalues, hwiden⟩ := exists_ofItems items h
    refine ⟨.array values, ?_, ?_⟩
    · rw [ofJson, hvalues, Option.map_some]
    · rw [widen, Datum.ofJson, Datum.toStored, hwiden]
  | .object members, h => by
    obtain ⟨values, hvalues, hwiden⟩ := exists_ofMembers members h
    refine ⟨.document values, ?_, ?_⟩
    · simp only [ofJson, find?_eq_none h]
      rw [hvalues, Option.map_some]
    · rw [widen, Datum.ofJson, Datum.toStored, hwiden]

theorem exists_ofItems : ∀ items : List Json, Json.UnmarkedItems items →
    ∃ values, ofItems items = some values ∧
      widenItems values = Datum.toStoredItems (Datum.ofJsonItems items)
  | [], _ => ⟨[], rfl, rfl⟩
  | item :: rest, h => by
    obtain ⟨value, hvalue, hwiden⟩ := exists_ofJson item h.1
    obtain ⟨values, hvalues, hrest⟩ := exists_ofItems rest h.2
    refine ⟨value :: values, ?_, ?_⟩
    · simp [ofItems, hvalue, hvalues]
    · rw [widenItems, Datum.ofJsonItems, Datum.toStoredItems, hwiden, hrest]

theorem exists_ofMembers : ∀ members : List (String × Json), Json.UnmarkedMembers members →
    ∃ values, ofMembers members = some values ∧
      widenMembers values = Datum.toStoredMembers (Datum.ofJsonMembers members)
  | [], _ => ⟨[], rfl, rfl⟩
  | (name, json) :: rest, h => by
    obtain ⟨value, hvalue, hwiden⟩ := exists_ofJson json h.2.1
    obtain ⟨values, hvalues, hrest⟩ := exists_ofMembers rest h.2.2
    refine ⟨(name, value) :: values, ?_, ?_⟩
    · simp [ofMembers, hvalue, hvalues]
    · rw [widenMembers, Datum.ofJsonMembers, Datum.toStoredMembers, hwiden, hrest]

end

end Extended

/-! ## How texts begin -/

/-- Whether a text begins with a brace or a bracket, white space aside. -/
def OpensContainer (text : String) : Prop :=
  ∃ space rest, (∀ c ∈ space, isWhiteSpace c = true) ∧
    (text.toList = space ++ '{' :: rest ∨ text.toList = space ++ '[' :: rest)

theorem Datum.looksStructured_iff (text : String) :
    looksStructured text = true ↔ OpensContainer text := by
  have hbrace : isWhiteSpace '{' = false := by decide
  have hbracket : isWhiteSpace '[' = false := by decide
  constructor
  · intro h
    have hspace : ∀ c ∈ text.toList.takeWhile isWhiteSpace, isWhiteSpace c = true :=
      fun c hc => List.mem_takeWhile_imp hc
    have hsplit : text.toList.takeWhile isWhiteSpace ++ text.toList.dropWhile isWhiteSpace =
        text.toList :=
      List.takeWhile_append_dropWhile
    rw [looksStructured] at h
    split at h
    · rename_i rest hrest
      exact ⟨_, rest, hspace, Or.inl (by rw [← hrest, hsplit])⟩
    · rename_i rest hrest
      exact ⟨_, rest, hspace, Or.inr (by rw [← hrest, hsplit])⟩
    · cases h
  · rintro ⟨space, rest, hspace, htext | htext⟩
    · rw [looksStructured, htext, List.dropWhile_append_of_pos hspace]
      simp [hbrace]
    · rw [looksStructured, htext, List.dropWhile_append_of_pos hspace]
      simp [hbracket]

namespace Json

/-- Whether a JSON value is an object or a list. -/
def IsContainer : Json → Prop
  | .array _ => True
  | .object _ => True
  | _ => False

theorem exists_space (input : List Char) :
    ∃ space, (∀ c ∈ space, isWhiteSpace c = true) ∧ input = space ++ skipSpace input := by
  have hspaces : ∀ c : Char, c = ' ' ∨ c = '\n' ∨ c = '\t' ∨ c = '\r' → isWhiteSpace c = true := by
    rintro c (rfl | rfl | rfl | rfl) <;> decide
  induction input with
  | nil => exact ⟨[], by simp, rfl⟩
  | cons c rest ih =>
    rw [skipSpace]
    by_cases hc : c = ' ' ∨ c = '\n' ∨ c = '\t' ∨ c = '\r'
    · obtain ⟨space, hspace, hrest⟩ := ih
      refine ⟨c :: space, List.forall_mem_cons.mpr ⟨hspaces c hc, hspace⟩, ?_⟩
      rw [if_pos hc, List.cons_append, ← hrest]
    · exact ⟨[], by simp, by rw [if_neg hc, List.nil_append]⟩

/-- Only a brace and a bracket begin an object or a list. -/
theorem skipSpace_of_takeValue {fuel depth : Nat} {input rest : List Char} {value : Json}
    (h : takeValue fuel depth input = some (value, rest)) (hcontainer : value.IsContainer) :
    ∃ after, skipSpace input = '{' :: after ∨ skipSpace input = '[' :: after := by
  cases fuel with
  | zero => cases h
  | succ fuel =>
    rw [takeValue] at h
    split at h
    case h_5 after hafter => exact ⟨after, Or.inr hafter⟩
    case h_6 after hafter => exact ⟨after, Or.inl hafter⟩
    case h_7 =>
      obtain ⟨⟨literal, after⟩, -, h⟩ := Option.bind_eq_some_iff.mp h
      obtain ⟨n, -, h⟩ := Option.bind_eq_some_iff.mp h
      cases h
      exact hcontainer.elim
    all_goals
      obtain ⟨after, -, he⟩ := Option.map_eq_some_iff.mp h
      cases he
      exact hcontainer.elim

theorem opensContainer_of_read {text : String} {value : Json} (h : read text = some value)
    (hcontainer : value.IsContainer) : OpensContainer text := by
  rw [read] at h
  split at h
  · rename_i found after htake
    split at h
    · cases h
      obtain ⟨rest, hrest⟩ := skipSpace_of_takeValue htake hcontainer
      obtain ⟨space, hspace, hinput⟩ := exists_space text.toList
      refine ⟨space, rest, hspace, hrest.imp (fun hopens => ?_) fun hopens => ?_⟩
      · rw [hinput, hopens]
      · rw [hinput, hopens]
    · cases h
  · cases h

end Json

namespace Datum

/-- A text that says an object or a list without marks is stored as that object or list is when it
is given as it is, the width of integers aside. A text that does not begin like one, or is no JSON,
is stored as it is. -/
theorem toStoredMixed_text (raw : String) :
    (∀ json, Json.read raw = some json → json.IsContainer → json.Unmarked →
      (string raw).toStoredMixed.widen = (ofJson json).toStored ∧
      (ofJson json).toStoredMixed = (ofJson json).toStored) ∧
    (¬ OpensContainer raw ∨ Json.read raw = none → (string raw).toStoredMixed = .string raw) := by
  constructor
  · intro json hread hcontainer hunmarked
    obtain ⟨value, hvalue, hwiden⟩ := Extended.exists_ofJson json hunmarked
    have hlooks := (looksStructured_iff raw).mpr (Json.opensContainer_of_read hread hcontainer)
    constructor
    · rw [toStoredMixed, if_pos hlooks, hread, Option.bind_some, hvalue, Option.getD_some, hwiden]
    · cases json with
      | array items => rfl
      | object members => rfl
      | _ => exact hcontainer.elim
  · rintro (hopens | hread)
    · rw [toStoredMixed, if_neg (mt (looksStructured_iff raw).mp hopens)]
    · rw [toStoredMixed, hread, Option.bind_none, Option.getD_none, ite_self]

/-- An object whose members are not in the order of their names, behind a space; and a text that
only begins like one. -/
theorem toStoredMixed_text_object :
    (Json.read " \x7b\"b\": [1, null], \"a\": 3000000000\x7d" =
        some (.object [("b", .array [.int 1, .null]), ("a", .int 3000000000)]) ∧
      (Json.object [("b", .array [.int 1, .null]), ("a", .int 3000000000)]).IsContainer ∧
      (Json.object [("b", .array [.int 1, .null]), ("a", .int 3000000000)]).Unmarked ∧
      (string " \x7b\"b\": [1, null], \"a\": 3000000000\x7d").toStoredMixed.widen =
        .document [("b", .array [.int64 1, .null]), ("a", .int64 3000000000)]) ∧
    Json.read "[1" = none ∧ (string "[1").toStoredMixed = .string "[1" := by
  have hread : Json.read " \x7b\"b\": [1, null], \"a\": 3000000000\x7d" =
      some (.object [("b", .array [.int 1, .null]), ("a", .int 3000000000)]) := by
    have htext : " \x7b\"b\": [1, null], \"a\": 3000000000\x7d".toList =
        [' ', '\x7b', '"', 'b', '"', ':', ' ', '[', '1', ',', ' ', 'n', 'u', 'l', 'l', ']', ',',
          ' ', '"', 'a', '"', ':', ' ', '3', '0', '0', '0', '0', '0', '0', '0', '0', '0',
          '\x7d'] := by decide
    rw [Json.read, htext]
    rfl
  have hunmarked : (Json.object [("b", .array [.int 1, .null]), ("a", .int 3000000000)]).Unmarked :=
    ⟨by decide, ⟨trivial, trivial, trivial⟩, by decide, trivial, trivial⟩
  have hnone : Json.read "[1" = none := Option.isNone_iff_eq_none.mp (by decide +kernel)
  exact ⟨⟨hread, trivial, hunmarked, ((toStoredMixed_text _).1 _ hread trivial hunmarked).1⟩, hnone,
    (toStoredMixed_text _).2 (Or.inr hnone)⟩

end Datum

end ClassApi
