import ClassApi.Execution.Completion

/-!
# Completion

Completing a value does to a request what answering the objects in it does, one after another. So if
answering these does not change the store and forgets no failure, completing the value does not
either, and what one of them is answered with stays part of the request until the value is complete.
-/

namespace ClassApi

namespace Progress

/-- Whether a request has come further without a change of the store. -/
structure Extends (p q : Progress) : Prop where
  /-- The store is the same. -/
  store : q.store = p.store
  /-- Failures are not forgotten. -/
  errors : p.errors <+: q.errors

theorem Extends.refl (p : Progress) : p.Extends p :=
  ⟨rfl, List.prefix_refl _⟩

theorem Extends.trans {p q r : Progress} (h : p.Extends q) (h' : q.Extends r) : p.Extends r :=
  ⟨h'.store.trans h.store, h.errors.trans h'.errors⟩

theorem extends_fail (p : Progress) (e : ExecutionError) : p.Extends (p.fail e) :=
  ⟨rfl, List.prefix_append _ _⟩

end Progress

namespace Completion

variable {schema : Schema} {answer : ObjectAnswer}

/-- An object that is asked about: its type, what its fields are read from, and how far the request
has come. -/
structure Asked where
  /-- The name of the type. -/
  typeName : String
  /-- The type. -/
  type : ObjectType
  /-- What the fields are read from. -/
  source : Source
  /-- How far the request has come. -/
  progress : Progress

/-- Whether answering an object does not change the store and forgets no failure. -/
def Asked.Extends (answer : ObjectAnswer) (asked : Asked) : Prop :=
  asked.progress.Extends (answer asked.typeName asked.type asked.source asked.progress).2

/-- Which objects are asked about while a value is completed. -/
inductive Asks (schema : Schema) (answer : ObjectAnswer) :
    TypeRef → FieldValue → Progress → Asked → Prop where
  /-- An object behind its type. -/
  | object {typeName : String} {type : ObjectType} {value : FieldValue} {p : Progress} :
      schema.type? typeName = some (.object type) →
      Asks schema answer (.named typeName) value p ⟨typeName, type, sourceOf value, p⟩
  /-- An object behind an interface. -/
  | interface {typeName objectName : String} {description : Option String}
      {fields : List InterfaceField} {type : ObjectType} {source : Source} {p : Progress} :
      schema.type? typeName = some (.interface description fields) →
      schema.object? objectName = some type →
      type.interfaces.contains typeName = true →
      Asks schema answer (.named typeName) (.typed objectName source) p ⟨objectName,
        type, source, p⟩
  /-- An object that must be there. -/
  | nonNull {type : TypeRef} {value : FieldValue} {p : Progress} {asked : Asked} :
      Asks schema answer type value p asked → Asks schema answer (.nonNull type) value p asked
  /-- An object in a list, behind items that could be completed. -/
  | item {type : TypeRef} {value item : FieldValue} {before after : List FieldValue}
      {data : List Datum} {p q : Progress} {asked : Asked} :
      itemsOf value = some (before ++ item :: after) →
      completeItems (completeValue schema answer type) before p = (.ok data, q) →
      Asks schema answer type item q asked → Asks schema answer (.list type) value p asked

section Items

variable {complete : FieldValue → Progress → Except CompletionError Datum × Progress}

/-- Items are completed one after another. -/
theorem completeItems_append {before : List FieldValue} {data : List Datum} {p q : Progress}
    (h : completeItems complete before p = (.ok data, q)) (rest : List FieldValue) :
    (completeItems complete (before ++ rest) p).2 = (completeItems complete rest q).2 := by
  induction before generalizing data p with
  | nil =>
    cases h
    rfl
  | cons value more ih =>
    rw [completeItems] at h
    rw [List.cons_append, completeItems]
    cases hc : complete value p with
    | mk result next =>
      rw [hc] at h
      cases result with
      | error e => cases h
      | ok datum =>
        cases hmore : completeItems complete more next with
        | mk result last =>
          simp only [hmore] at h
          cases result with
          | error e => cases h
          | ok others =>
            cases h
            exact ih hmore

theorem extends_completeItems {items : List FieldValue} {p : Progress}
    (h : ∀ before value after data q, items = before ++ value :: after →
      completeItems complete before p = (.ok data, q) → q.Extends (complete value q).2) :
    p.Extends (completeItems complete items p).2 := by
  induction items generalizing p with
  | nil => exact .refl p
  | cons value rest ih =>
    have hfirst := h [] value rest [] p rfl rfl
    rw [completeItems]
    cases hc : complete value p with
    | mk result q =>
      rw [hc] at hfirst
      cases result with
      | error e => exact hfirst
      | ok datum =>
        refine hfirst.trans (ih fun before later after data last hrest hbefore => ?_)
        refine h (value :: before) later after (datum :: data) last (by rw [hrest]; rfl) ?_
        rw [completeItems, hc]
        simp only [hbefore]
        rfl

theorem extends_completeItems_cons (h : ∀ value (p : Progress), p.Extends (complete value p).2)
    (value : FieldValue) (rest : List FieldValue) (p : Progress) :
    (complete value p).2.Extends (completeItems complete (value :: rest) p).2 := by
  rw [completeItems]
  cases complete value p with
  | mk result q =>
    cases result with
    | error e => exact .refl q
    | ok datum => exact extends_completeItems fun _ later _ _ last _ _ => h later last

end Items

theorem extends_completeNamed {typeName : String} {value : FieldValue} {p : Progress}
    (h : ∀ asked, Asks schema answer (.named typeName) value p asked → asked.Extends answer) :
    p.Extends (completeNamed schema answer typeName value p).2 := by
  unfold completeNamed
  split
  · rename_i htype
    exact h _ (.object htype)
  · rename_i htype
    split
    · rename_i hobject
      split
      · rename_i hcontains
        exact h _ (.interface htype hobject hcontains)
      · exact .refl p
    · exact .refl p
  · exact .refl p
  · exact .refl p
  · exact .refl p

/-- Completing a value does to a request what answering its objects does. -/
theorem extends_completeValue {type : TypeRef} {value : FieldValue} {p : Progress}
    (h : ∀ asked, Asks schema answer type value p asked → asked.Extends answer) :
    p.Extends (completeValue schema answer type value p).2 := by
  induction type generalizing value p with
  | named typeName => exact extends_completeNamed h
  | nonNull type ih => exact ih fun asked ha => h asked (.nonNull ha)
  | list type ih =>
    rw [completeValue]
    cases hitems : itemsOf value with
    | none => exact .refl p
    | some items =>
      refine extends_completeItems fun before item after data q hsplit hbefore =>
        ih fun asked ha => ?_
      rw [hsplit] at hitems
      exact h asked (.item hitems hbefore ha)

/-- What an object is answered with is not forgotten when the value is complete. -/
theorem extends_of_asks (h : ∀ asked : Asked, asked.Extends answer) {type : TypeRef}
    {value : FieldValue} {p : Progress} {asked : Asked}
    (ha : Asks schema answer type value p asked) :
    p.Extends asked.progress ∧
      (answer asked.typeName asked.type asked.source asked.progress).2.Extends
        (completeValue schema answer type value p).2 := by
  induction ha with
  | object htype =>
    unfold completeValue completeNamed
    rw [htype]
    exact ⟨.refl _, .refl _⟩
  | interface htype hobject hcontains =>
    unfold completeValue completeNamed
    rw [htype]
    simp only [hobject, hcontains, if_true]
    exact ⟨.refl _, .refl _⟩
  | nonNull _ ih => exact ih
  | @item type value item before after data p q asked hitems hbefore _ ih =>
    have hcomplete : ∀ value (p : Progress),
        p.Extends (completeValue schema answer type value p).2 :=
      fun value p => extends_completeValue fun asked _ => h asked
    have hq : p.Extends (completeItems (completeValue schema answer type) before p).2 :=
      extends_completeItems fun _ later _ _ last _ _ => hcomplete later last
    have hlist : (completeValue schema answer (.list type) value p).2 =
        (completeItems (completeValue schema answer type) (item :: after) q).2 := by
      rw [completeValue, hitems, ← completeItems_append hbefore]
    rw [hbefore] at hq
    rw [hlist]
    exact ⟨hq.trans ih.1, ih.2.trans (extends_completeItems_cons hcomplete item after q)⟩

end Completion

end ClassApi
