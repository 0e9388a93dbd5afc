import ClassApi.Access.Mutation
import ClassApi.Proofs.Naming

/-!
# Reading the input of a mutation

The data that the input gives holds one value for each member of the input that names a field, and
nothing else. The field's name is the name of the member, so the data repeats no name, and for an
accepted class all its names are free of dots.
-/

namespace ClassApi.Mutation

/-- Whether a member of the input gives the value of a field. -/
def Gives (c : ClassInfo) (input : Fields Datum) (name : String) (value : Datum)
    (f : ClassField) : Prop :=
  (name, value) ∈ input ∧ ¬ (name = clientMutationIdName ∨ name = "id") ∧ c.field? name = some f

theorem Gives.tail {c : ClassInfo} {member : String × Datum} {rest : Fields Datum} {name : String}
    {value : Datum} {f : ClassField} (h : Gives c rest name value f) :
    Gives c (member :: rest) name value f :=
  ⟨List.mem_cons_of_mem _ h.1, h.2⟩

theorem name_of_field? {c : ClassInfo} {name : String} {f : ClassField}
    (h : c.field? name = some f) : f.name = name ∧ f ∈ c.fields := by
  have hname := List.find?_some h
  exact ⟨by simpa using hname, List.mem_of_find?_eq_some h⟩

/-- One step of reading: a member is passed over, or it is resolved and written. -/
theorem resolveMembers_cons {s : Store} {c : ClassInfo} {data result : Document} {name : String}
    {value : Datum} {rest : Fields Datum}
    (h : resolveMembers s c data ((name, value) :: rest) = .ok result) :
    ((∀ f, ¬ Gives c ((name, value) :: rest) name value f) ∧
      resolveMembers s c data rest = .ok result) ∨
    ∃ f stored, Gives c ((name, value) :: rest) name value f ∧ resolveValue s f value = .ok stored ∧
      resolveMembers s c (Fields.insert data name stored) rest = .ok result := by
  rw [resolveMembers] at h
  by_cases hr : name = clientMutationIdName ∨ name = "id"
  · rw [if_pos hr] at h
    exact Or.inl ⟨fun f hg => hg.2.1 hr, h⟩
  · rw [if_neg hr] at h
    cases hf : c.field? name with
    | none =>
      rw [hf] at h
      refine Or.inl ⟨fun f hg => ?_, h⟩
      rw [hg.2.2] at hf
      cases hf
    | some f =>
      rw [hf] at h
      simp only at h
      cases hv : resolveValue s f value with
      | error e =>
        rw [hv] at h
        cases h
      | ok stored =>
        rw [hv, (name_of_field? hf).1] at h
        exact Or.inr ⟨f, stored, ⟨List.mem_cons_self, hr, hf⟩, hv, h⟩

theorem resolveMembers_nodup {s : Store} {c : ClassInfo} {input : Fields Datum}
    {data result : Document} (hn : (Fields.names data).Nodup)
    (h : resolveMembers s c data input = .ok result) : (Fields.names result).Nodup := by
  induction input generalizing data with
  | nil =>
    cases h
    exact hn
  | cons member rest ih =>
    obtain ⟨name, value⟩ := member
    rcases resolveMembers_cons h with ⟨-, h⟩ | ⟨f, stored, -, -, h⟩
    · exact ih hn h
    · exact ih (Fields.nodup_insert hn name stored) h

/-- Every value in the result was there before or is what a member of the input gives. -/
theorem mem_resolveMembers {s : Store} {c : ClassInfo} {input : Fields Datum}
    {data result : Document} (h : resolveMembers s c data input = .ok result) {name : String}
    {stored : Value} (hm : (name, stored) ∈ result) :
    (name, stored) ∈ data ∨ ∃ value f, Gives c input name value f ∧
      resolveValue s f value = .ok stored := by
  induction input generalizing data with
  | nil =>
    cases h
    exact Or.inl hm
  | cons member rest ih =>
    obtain ⟨key, given⟩ := member
    rcases resolveMembers_cons h with ⟨-, h⟩ | ⟨f, written, hgives, hresolved, h⟩
    · rcases ih h with hdata | ⟨value, f, hg, hv⟩
      · exact Or.inl hdata
      · exact Or.inr ⟨value, f, hg.tail, hv⟩
    · rcases ih h with hdata | ⟨value, f, hg, hv⟩
      · rcases Fields.mem_insert hdata with he | hdata
        · cases he
          exact Or.inr ⟨given, f, hgives, hresolved⟩
        · exact Or.inl hdata
      · exact Or.inr ⟨value, f, hg.tail, hv⟩

/-- A name that is behind in the input is not written over. -/
theorem get?_resolveMembers_of_notMem {s : Store} {c : ClassInfo} {input : Fields Datum}
    {data result : Document} (h : resolveMembers s c data input = .ok result) {name : String}
    (hn : name ∉ Fields.names input) : Fields.get? result name = Fields.get? data name := by
  induction input generalizing data with
  | nil =>
    cases h
    rfl
  | cons member rest ih =>
    obtain ⟨key, given⟩ := member
    have hkey : name ≠ key := fun he => hn (he ▸ List.mem_cons_self)
    have hrest : name ∉ Fields.names rest := fun hm => hn (List.mem_cons_of_mem _ hm)
    rcases resolveMembers_cons h with ⟨-, h⟩ | ⟨f, stored, -, -, h⟩
    · exact ih h hrest
    · rw [ih h hrest, Fields.get?_insert_of_ne _ _ hkey]

/-- Every member of the input that names a field gives its value, when the names in the input do not
repeat. -/
theorem get?_resolveMembers {s : Store} {c : ClassInfo} {input : Fields Datum}
    {data result : Document} (hn : (Fields.names input).Nodup)
    (h : resolveMembers s c data input = .ok result) {name : String} {value : Datum}
    {f : ClassField} (hg : Gives c input name value f) :
    ∃ stored, resolveValue s f value = .ok stored ∧ Fields.get? result name = some stored := by
  induction input generalizing data with
  | nil => exact absurd hg.1 List.not_mem_nil
  | cons member rest ih =>
    obtain ⟨key, given⟩ := member
    obtain ⟨hkey, hrest⟩ := List.nodup_cons.mp hn
    obtain ⟨hmem, hreserved, hfield⟩ := hg
    rcases List.mem_cons.mp hmem with he | hm
    · cases he
      rcases resolveMembers_cons h with ⟨hnone, -⟩ | ⟨f', stored, hgives, hresolved, h⟩
      · exact absurd ⟨List.mem_cons_self, hreserved, hfield⟩ (hnone f)
      · obtain rfl : f' = f := Option.some.inj (hgives.2.2.symm.trans hfield)
        refine ⟨stored, hresolved, ?_⟩
        rw [get?_resolveMembers_of_notMem h hkey, Fields.get?_insert_self]
    · rcases resolveMembers_cons h with ⟨_, h'⟩ | ⟨_, _, _, _, h'⟩
      · exact ih hrest h' ⟨hm, hreserved, hfield⟩
      · exact ih hrest h' ⟨hm, hreserved, hfield⟩

section Resolved

variable {s : Store} {c : ClassInfo} {input : Fields Datum} {data : Document}

theorem resolveInput_nodup (h : resolveInput s c input = .ok data) : (Fields.names data).Nodup := by
  have hnil : (Fields.names ([] : Document)).Nodup := List.nodup_nil
  exact resolveMembers_nodup hnil h

theorem mem_resolveInput (h : resolveInput s c input = .ok data) {name : String} {stored : Value}
    (hm : (name, stored) ∈ data) :
    ∃ value f, Gives c input name value f ∧ resolveValue s f value = .ok stored :=
  (mem_resolveMembers h hm).resolve_left List.not_mem_nil

/-- The data that the input gives to an accepted class has no name with a dot. -/
theorem resolveInput_isPlain {definitions : List ClassDefinition} {r : Registry}
    (hr : Registry.ofDefinitions definitions = .ok r) (hc : c ∈ r.classes)
    (h : resolveInput s c input = .ok data) : ∀ name ∈ Fields.names data, Path.IsPlain name := by
  intro name hname
  obtain ⟨⟨_, stored⟩, hm, rfl⟩ := List.mem_map.mp hname
  obtain ⟨value, f, ⟨-, -, hfield⟩, -⟩ := mem_resolveInput h hm
  obtain ⟨hf, hmem⟩ := name_of_field? hfield
  rw [← hf]
  exact Registry.isPlain_field hr hc hmem

end Resolved

end ClassApi.Mutation
