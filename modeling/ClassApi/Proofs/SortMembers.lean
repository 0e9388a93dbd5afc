import ClassApi.Proofs.MemberNames
import ClassApi.Proofs.Words

/-!
# Members to sort by

Each field that can be sorted by has a member for either direction, and so have the two times of an
object. A member is named in capitals, by the words of the field and a word for the direction, and
it is looked up by its name. The words are those that remain when the name of the field is split
once more, so two fields whose names agree when they are put in camel case again have members of one
name, and then the field that comes first is sorted by.
-/

namespace ClassApi

namespace Direction

/-- The directions in the order of the members. -/
def all : List Direction :=
  [ascending, descending]

/-- What a direction adds to the name of a field. -/
def ending : Direction → String
  | ascending => "Asc"
  | descending => "Desc"

theorem mem_all (direction : Direction) : direction ∈ all := by
  cases direction <;> decide

theorem smallWords_append_ending (name : String) (direction : Direction) :
    Naming.smallWords (name ++ direction.ending) =
      Naming.smallWords name ++ [Naming.small direction.ending.toList] := by
  cases direction with
  | ascending => exact Naming.smallWords_append (by decide) (by decide) ['c'] name
  | descending => exact Naming.smallWords_append (by decide) (by decide) ['s', 'c'] name

end Direction

/-- The times of an object that it can be sorted by. -/
def timeNames : List String :=
  ["createdAt", "updatedAt"]

/-- The path that a name to sort by stands for. -/
def sortKey (name : String) : String :=
  if name ∈ timeNames then name else "data." ++ name

/-- The member for a name and a direction. -/
def sortMember (name : String) (direction : Direction) : OrderItem :=
  ⟨Naming.screamingSnakeCase (name ++ direction.ending), sortKey name, direction⟩

theorem sortKey_injective : Function.Injective sortKey := by
  have hdata : ∀ name other : String, name ∈ timeNames → name ≠ "data." ++ other := by
    intro name other hname he
    have htimes : ∀ name ∈ timeNames, ¬ "data.".toList <+: name.toList := by decide
    exact Naming.append_ne_of_not_prefix (htimes name hname) he.symm
  intro name other he
  rw [sortKey, sortKey] at he
  split_ifs at he with hname hother hother
  · exact he
  · exact absurd he (hdata _ _ hname)
  · exact absurd he.symm (hdata _ _ hother)
  · exact Path.data_injective he

/-- Members of names in letters and digits have one name when they are for one direction and the
names agree in camel case. -/
theorem sortMember_name_eq_iff {name other : String} {direction direction' : Direction}
    (h : Naming.AllAlphanum name.toList) (hother : Naming.AllAlphanum other.toList) :
    (sortMember name direction).name = (sortMember other direction').name ↔
      direction = direction' ∧ Naming.camelCase name = Naming.camelCase other := by
  have hne : ∀ (name : String) (direction : Direction),
      Naming.smallWords (name ++ direction.ending) ≠ [] := by
    intro name direction
    rw [Direction.smallWords_append_ending]
    exact List.append_ne_nil_of_right_ne_nil _ (List.cons_ne_nil _ _)
  rw [sortMember, sortMember, Naming.screamingSnakeCase_eq_iff (hne _ _) (hne _ _),
    Direction.smallWords_append_ending, Direction.smallWords_append_ending,
    Naming.camelCase_eq_iff h hother]
  constructor
  · intro he
    obtain ⟨hwords, hending⟩ := List.append_inj' he rfl
    refine ⟨?_, hwords⟩
    revert hending
    cases direction <;> cases direction' <;> decide
  · rintro ⟨rfl, hwords⟩
    rw [hwords]

namespace ClassInfo

/-- The names that objects of a class can be sorted by: those of the times and of fields. -/
def sortNames (c : ClassInfo) : List String :=
  timeNames ++ c.sortableNames

section Items

variable {c : ClassInfo}

/-- The members are those for all names and directions, provided that no field is named as a
time. -/
theorem orderItems_eq (h : ∀ name ∈ c.sortableNames, name ∉ timeNames) :
    c.orderItems = c.sortNames.flatMap fun name => Direction.all.map (sortMember name) := by
  have hfields : (c.sortableNames.flatMap fun name => orderPair name ("data." ++ name)) =
      c.sortableNames.flatMap fun name => Direction.all.map (sortMember name) :=
    List.flatMap_congr fun name hname => by
      have hkey : sortKey name = "data." ++ name := if_neg (h name hname)
      rw [Direction.all, List.map_cons, List.map_singleton, sortMember, sortMember, hkey]
      rfl
  rw [orderItems, hfields, sortNames, List.flatMap_append]
  rfl

theorem mem_orderItems_iff (h : ∀ name ∈ c.sortableNames, name ∉ timeNames) {item : OrderItem} :
    item ∈ c.orderItems ↔ ∃ name ∈ c.sortNames, ∃ direction, item = sortMember name direction := by
  rw [orderItems_eq h, List.mem_flatMap]
  refine exists_congr fun name => and_congr_right fun _ => ?_
  rw [List.mem_map]
  constructor
  · rintro ⟨direction, -, rfl⟩
    exact ⟨direction, rfl⟩
  · rintro ⟨direction, rfl⟩
    exact ⟨direction, direction.mem_all, rfl⟩

theorem nodup_orderItems_iff (h : ∀ name ∈ c.sortableNames, name ∉ timeNames)
    (hplain : ∀ name ∈ c.sortNames, Naming.AllAlphanum name.toList) :
    (c.orderItems.map OrderItem.name).Nodup ↔ (c.sortNames.map Naming.camelCase).Nodup := by
  have hpair :
      ∀ name ∈ c.sortNames, ((Direction.all.map (sortMember name)).map OrderItem.name).Nodup := by
    intro name hname
    rw [List.map_map]
    refine List.Nodup.map_on (fun direction _ direction' _ he => ?_) (by decide)
    exact ((sortMember_name_eq_iff (hplain name hname) (hplain name hname)).mp he).1
  rw [orderItems_eq h, List.map_flatMap, List.nodup_flatMap, and_iff_right hpair, List.Nodup,
    List.pairwise_map]
  refine List.Pairwise.iff_of_mem fun {name other} hname hother => ?_
  constructor
  · intro hdisjoint he
    have hsame : (sortMember name .ascending).name = (sortMember other .ascending).name :=
      (sortMember_name_eq_iff (hplain name hname) (hplain other hother)).mpr ⟨rfl, he⟩
    refine hdisjoint (List.mem_map_of_mem List.mem_cons_self) ?_
    rw [hsame]
    exact List.mem_map_of_mem List.mem_cons_self
  · intro hne memberName hmem hmem'
    obtain ⟨item, hitem, rfl⟩ := List.mem_map.mp hmem
    obtain ⟨item', hitem', he⟩ := List.mem_map.mp hmem'
    obtain ⟨direction, -, rfl⟩ := List.mem_map.mp hitem
    obtain ⟨direction', -, rfl⟩ := List.mem_map.mp hitem'
    exact hne ((sortMember_name_eq_iff (hplain name hname) (hplain other hother)).mp he.symm).2

end Items

end ClassInfo

namespace Listing

/-! ## Sorting by a member -/

/-- Whether a member that is given alone, or as the only one in a list, sorts by its path in its
direction. -/
def SortsBy (c : ClassInfo) (item : OrderItem) : Prop :=
  ∀ value, orderName value = some item.name → ∀ orderBy ∈ [value, .list [value]],
    orderToSort c (some orderBy) = some [(item.key, .int32 item.direction.toInt)]

variable {c : ClassInfo}

/-- What is sorted by is the path and the direction of the first member of the name. -/
theorem orderToSort_eq {value : Datum} {name : String} (h : orderName value = some name) :
    ∀ orderBy ∈ [value, .list [value]], orderToSort c (some orderBy) =
      (c.orderItems.find? fun item => item.name = name).map fun found =>
        [(found.key, .int32 found.direction.toInt)] := by
  have hentry : orderEntry c value =
      (c.orderItems.find? fun item => item.name = name).map fun found =>
        (found.key, .int32 found.direction.toInt) := by
    rw [orderEntry, h, Option.map_eq_bind]
    rfl
  have hsort : (if (Fields.ofEntries ([value].filterMap (orderEntry c))).isEmpty then none
      else some (Fields.ofEntries ([value].filterMap (orderEntry c)))) =
        (c.orderItems.find? fun item => item.name = name).map fun found =>
          [(found.key, .int32 found.direction.toInt)] := by
    rw [List.filterMap_cons, hentry]
    cases c.orderItems.find? fun item => item.name = name <;> rfl
  intro orderBy horder
  rcases List.mem_pair.mp horder with rfl | rfl
  · cases orderBy with
    | enum text => exact hsort
    | string text => exact hsort
    | _ => cases h
  · exact hsort

theorem sortsBy_iff {item : OrderItem} : SortsBy c item ↔
    ∃ found, c.orderItems.find? (fun other => other.name = item.name) = some found ∧
      found.key = item.key ∧ found.direction = item.direction := by
  have htoInt : ∀ direction direction' : Direction, direction.toInt = direction'.toInt →
      direction = direction' := by
    intro direction direction'
    cases direction <;> cases direction' <;> decide
  constructor
  · intro hsorts
    have hsort := hsorts (.enum item.name) rfl (.enum item.name) List.mem_cons_self
    have hname : orderName (.enum item.name) = some item.name := rfl
    rw [orderToSort_eq hname _ List.mem_cons_self] at hsort
    obtain ⟨found, hfound, he⟩ := Option.map_eq_some_iff.mp hsort
    obtain ⟨hkey, hdirection⟩ := Prod.mk.inj (List.cons.inj he).1
    exact ⟨found, hfound, hkey, htoInt _ _ (Value.int32.inj hdirection)⟩
  · rintro ⟨found, hfound, hkey, hdirection⟩ value hvalue orderBy horder
    rw [orderToSort_eq hvalue orderBy horder, hfound, Option.map_some, hkey, hdirection]

/-- Every member sorts as it should when names to sort by that agree in camel case are the same. -/
theorem forall_sortsBy_iff (h : ∀ name ∈ c.sortableNames, name ∉ timeNames)
    (hplain : ∀ name ∈ c.sortNames, Naming.AllAlphanum name.toList) :
    (∀ item ∈ c.orderItems, SortsBy c item) ↔
      ∀ name ∈ c.sortNames, ∀ other ∈ c.sortNames, Naming.camelCase name = Naming.camelCase other →
        name = other := by
  have hmem : ∀ name ∈ c.sortNames, ∀ direction, sortMember name direction ∈ c.orderItems :=
    fun name hname direction =>
      (ClassInfo.mem_orderItems_iff h).mpr ⟨name, hname, direction, rfl⟩
  constructor
  · intro hsorts name hname other hother he
    have hsame : (sortMember name .ascending).name = (sortMember other .ascending).name :=
      (sortMember_name_eq_iff (hplain name hname) (hplain other hother)).mpr ⟨rfl, he⟩
    obtain ⟨found, hfound, hkey, -⟩ := sortsBy_iff.mp (hsorts _ (hmem name hname .ascending))
    obtain ⟨found', hfound', hkey', -⟩ := sortsBy_iff.mp (hsorts _ (hmem other hother .ascending))
    rw [hsame, hfound'] at hfound
    cases hfound
    exact sortKey_injective (hkey.symm.trans hkey')
  · intro hapart item hitem
    obtain ⟨name, hname, direction, rfl⟩ := (ClassInfo.mem_orderItems_iff h).mp hitem
    rw [sortsBy_iff]
    cases hfound : c.orderItems.find? fun other =>
      other.name = (sortMember name direction).name with
    | none => exact absurd (decide_eq_true rfl) (List.find?_eq_none.mp hfound _ hitem)
    | some found =>
      -- what is found has the name of the member, so it is the member
      have hsame : decide (found.name = (sortMember name direction).name) = true :=
        List.find?_some (p := fun other : OrderItem => decide (other.name =
          (sortMember name direction).name)) hfound
      obtain ⟨other, hother, direction', rfl⟩ :=
        (ClassInfo.mem_orderItems_iff h).mp (List.mem_of_find?_eq_some hfound)
      obtain ⟨rfl, he⟩ :=
        (sortMember_name_eq_iff (hplain other hother) (hplain name hname)).mp
          (of_decide_eq_true hsame)
      rw [hapart other hother name hname he]
      exact ⟨_, rfl, rfl, rfl⟩

end Listing

namespace Registry

/-- An accepted class has a member for each of the times and each field that can be sorted by, for
either direction. The members have different names exactly when no two of these names agree in camel
case, and each one sorts by its own path exactly when names that agree in camel case are the
same. -/
theorem sortMembers_iff {json : Json} {r : Registry} (h : Registry.ofJson json = .ok r)
    {c : ClassInfo} (hc : c ∈ r.classes) :
    c.orderItems = c.sortNames.flatMap (fun name => Direction.all.map (sortMember name)) ∧
    ((c.orderItems.map OrderItem.name).Nodup ↔ (c.sortNames.map Naming.camelCase).Nodup) ∧
    ((∀ item ∈ c.orderItems, Listing.SortsBy c item) ↔
      ∀ name ∈ c.sortNames, ∀ other ∈ c.sortNames, Naming.camelCase name = Naming.camelCase other →
        name = other) := by
  obtain ⟨definitions, -, hr⟩ := ofJson_eq_ok h
  have hfield : ∀ name ∈ c.sortableNames, ∃ f ∈ c.fields, f.name = name := by
    intro name hname
    obtain ⟨f, hf, hsortable⟩ := List.mem_filterMap.mp hname
    split at hsortable
    · exact ⟨f, hf, Option.some.inj hsortable⟩
    · cases hsortable
  have hreserved : ∀ name ∈ c.sortableNames, name ∉ timeNames := by
    intro name hname htime
    obtain ⟨f, hf, rfl⟩ := hfield name hname
    exact notReserved_name hr hc hf ((by decide : timeNames ⊆ reservedFields) htime)
  have hplain : ∀ name ∈ c.sortNames, Naming.AllAlphanum name.toList := by
    have htimes : ∀ name ∈ timeNames, name.toList.all Char.isAlphanum = true := by decide
    refine List.forall_mem_append.mpr ⟨fun name hname => List.all_eq_true.mp (htimes name hname),
      fun name hname => ?_⟩
    obtain ⟨f, hf, rfl⟩ := hfield name hname
    obtain ⟨rawName, hraw⟩ := exists_camelCase hr hc hf
    exact hraw ▸ Naming.camelCase_alphanum rawName
  exact ⟨ClassInfo.orderItems_eq hreserved, ClassInfo.nodup_orderItems_iff hreserved hplain,
    Listing.forall_sortsBy_iff hreserved hplain⟩

/-- Users are sorted by a first and a last name. -/
theorem sortMembers_iff_names :
    Registry.ofJson (Sample.userJson "first_name" "last_name") =
      .ok ⟨[Sample.userWith "firstName" "lastName"]⟩ ∧
    ((Sample.userWith "firstName" "lastName").orderItems.map OrderItem.name).Nodup ∧
    Listing.orderToSort (Sample.userWith "firstName" "lastName")
      (some (.list [.enum "LAST_NAME_DESC"])) = some [("data.lastName", .int32 (-1))] := by
  have haccepted : Registry.ofJson (Sample.userJson "first_name" "last_name") =
      .ok ⟨[Sample.userWith "firstName" "lastName"]⟩ := eq_ok_of_classes (by decide +kernel)
  obtain ⟨-, hnodup, hsorts⟩ := sortMembers_iff haccepted List.mem_cons_self
  have hapart : ((Sample.userWith "firstName" "lastName").sortNames.map Naming.camelCase).Nodup :=
    by decide +kernel
  have hmember : ⟨"LAST_NAME_DESC", "data.lastName", .descending⟩ ∈
      (Sample.userWith "firstName" "lastName").orderItems := by
    decide +kernel
  have hsort :=
    hsorts.mpr (fun name hname other hother he => List.inj_on_of_nodup_map hapart hname hother he)
      _ hmember
  exact ⟨haccepted, hnodup.mpr hapart,
    hsort (.enum "LAST_NAME_DESC") rfl _ (List.mem_cons_of_mem _ List.mem_cons_self)⟩

/-- Two fields whose names are split into the same words later are accepted, and what is meant to
sort by the second one sorts by the first one. A field may even take its members from a time. -/
theorem exists_member_shared :
    Registry.ofJson (Sample.userJson "aBc" "a_b_c") = .ok ⟨[Sample.userWith "aBc" "aBC"]⟩ ∧
    ⟨"A_BC_ASC", "data.aBC", .ascending⟩ ∈ (Sample.userWith "aBc" "aBC").orderItems ∧
    ¬ ((Sample.userWith "aBc" "aBC").orderItems.map OrderItem.name).Nodup ∧
    Listing.orderToSort (Sample.userWith "aBc" "aBC") (some (.list [.enum "A_BC_ASC"])) =
      some [("data.aBc", .int32 1)] ∧
    Registry.ofJson (Sample.userJson "name" "created_a_t") =
      .ok ⟨[Sample.userWith "name" "createdAT"]⟩ ∧
    ⟨"CREATED_AT_ASC", "data.createdAT", .ascending⟩ ∈
      (Sample.userWith "name" "createdAT").orderItems ∧
    Listing.orderToSort (Sample.userWith "name" "createdAT")
      (some (.list [.enum "CREATED_AT_ASC"])) = some [("createdAt", .int32 1)] := by
  have hsort : ∀ (c : ClassInfo) (item : OrderItem),
      c.orderItems.find? (fun other => other.name = item.name) = some item →
      Listing.orderToSort c (some (.list [.enum item.name])) =
          some [(item.key, .int32 item.direction.toInt)] := by
    intro c item hfound
    have hname : Listing.orderName (.enum item.name) = some item.name := rfl
    rw [Listing.orderToSort_eq hname _ (List.mem_cons_of_mem _ List.mem_cons_self), hfound]
    rfl
  have hnames : (Sample.userWith "aBc" "aBC").orderItems.map OrderItem.name =
      ["CREATED_AT_ASC", "CREATED_AT_DESC", "UPDATED_AT_ASC", "UPDATED_AT_DESC", "A_BC_ASC",
        "A_BC_DESC", "A_BC_ASC", "A_BC_DESC"] := by decide +kernel
  exact ⟨eq_ok_of_classes (by decide +kernel), by decide +kernel, hnames ▸ by decide,
    hsort _ ⟨"A_BC_ASC", "data.aBc", .ascending⟩ (by decide +kernel),
    eq_ok_of_classes (by decide +kernel), by decide +kernel,
    hsort _ ⟨"CREATED_AT_ASC", "createdAt", .ascending⟩ (by decide +kernel)⟩

end Registry

end ClassApi
