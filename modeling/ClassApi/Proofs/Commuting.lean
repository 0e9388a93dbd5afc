import ClassApi.Proofs.Registration
import ClassApi.Proofs.Updates

/-!
# Independent updates commute

Two updates that are about different records, or that set different fields of one record, can be
made in either order. Neither changes whether the other fails, since records are found, missing and
removed as before; so each has the same data to merge in both orders, and merging two pieces of data
into one document in either order gives the same members. What may differ is the order of the
members in the data, and the time of the last change, which is the time of the update that comes
last.
-/

namespace ClassApi

/-! ## Stores that differ in order and time -/

/-- Whether two documents that came from a third differ at most in the order of the members of their
data and in the time of the last change. -/
structure SameRecord (old first second : Document) : Prop where
  /-- All other members are the same. -/
  members : ∀ name, name ≠ "data" → name ≠ "updatedAt" →
    Fields.get? first name = Fields.get? second name
  /-- The data is the same or has the same members in another order. -/
  data : Fields.get? first "data" = Fields.get? second "data" ∨
    ∃ members others : Document, Fields.get? first "data" = some (.document members) ∧
      Fields.get? second "data" = some (.document others) ∧ members.Perm others
  /-- The time of the last change is the same or another time. -/
  updatedAt : Fields.get? first "updatedAt" = Fields.get? second "updatedAt" ∨
    ∃ time time' : Timestamp, Fields.get? first "updatedAt" = some (.date time) ∧
      Fields.get? second "updatedAt" = some (.date time')
  /-- The members stand in the same order. Records are created with data; only a document without
  any gets it from the first update that has some, and then the order of its members tells when. -/
  names : "data" ∈ Fields.names old → Fields.names first = Fields.names second

/-- Whether two stores that came from a third hold the documents of the third, changed in the same
way but for the order of the members in their data and the time of the last change, and are the same
in all else. -/
structure Store.SameFrom (s first second : Store) : Prop where
  /-- The documents of every class are those of the third store, each changed in the same way. -/
  documents : ∀ className, ∃ change change' : Document → Document,
    first.documents className = (s.documents className).map change ∧
    second.documents className = (s.documents className).map change' ∧
    ∀ doc ∈ s.documents className, SameRecord doc (change doc) (change' doc)
  /-- The files are the same. -/
  files : first.files = second.files
  /-- The ids that are given out next are the same. -/
  ids : first.seed = second.seed ∧ first.drawn = second.drawn

/-- A store at some time. -/
def Store.atTime (s : Store) (clock : Timestamp) : Store :=
  { s with clock := clock }

/-- Whether two calls can be made in either order, at whatever times: each of them fails in the same
way or succeeds in both orders, and the stores they leave are the same. -/
structure MutationCall.Commute (s : Store) (first second : MutationCall) : Prop where
  /-- The first call does not depend on the second. -/
  firstFails : ∀ t u u', first.failure ((second.run (s.atTime u)).2.atTime u') =
    first.failure (s.atTime t)
  /-- The second call does not depend on the first. -/
  secondFails : ∀ t t' u, second.failure ((first.run (s.atTime t)).2.atTime t') =
    second.failure (s.atTime u)
  /-- The order does not matter for the store. -/
  stores : ∀ t t' u u', s.SameFrom (second.run ((first.run (s.atTime t)).2.atTime t')).2
    (first.run ((second.run (s.atTime u)).2.atTime u')).2

/-! ## Merging twice -/

namespace Store

variable {version : Int} {doc data other : Document} {t t' u u' : Timestamp}

/-- Merging into a document with data puts no member before those that are there, whatever is
merged. -/
theorem names_merged_congr (h : "data" ∈ Fields.names doc) (version : Int) (t u : Timestamp)
    (data other : Document) :
    Fields.names (merged version t data doc) = Fields.names (merged version u other doc) := by
  rw [merged_eq, merged_eq]
  refine Fields.names_insert_congr (Fields.names_insert_congr ?_ _ _ _) _ _ _
  rw [Update.names_setAll_below data (by decide) h, Update.names_setAll_below other (by decide) h]

/-- A second merge adds no member. -/
theorem names_merged_merged (h : "data" ∈ Fields.names doc) (version : Int) (t u : Timestamp)
    (data other : Document) :
    Fields.names (merged version u other (merged version t data doc)) =
      Fields.names (merged version t data doc) := by
  have hdata : "data" ∈ Fields.names (merged version t data doc) := by
    rw [merged_eq, Fields.mem_names_insert, Fields.mem_names_insert,
      Update.names_setAll_below data (by decide) h]
    exact Or.inr (Or.inr h)
  have hversion : "_classVersion" ∈ Fields.names (merged version t data doc) :=
    Fields.exists_get?_iff.mp ⟨_, get?_version_merged version t data doc⟩
  have htime : "updatedAt" ∈ Fields.names (merged version t data doc) :=
    Fields.exists_get?_iff.mp ⟨_, get?_time_merged version t data doc⟩
  have hbelow := Update.names_setAll_below other (by decide) hdata
  rw [merged_eq version u, Fields.names_insert_of_mem, Fields.names_insert_of_mem, hbelow]
  · rw [hbelow]
    exact hversion
  · rw [Fields.mem_names_insert, hbelow]
    exact Or.inr htime

/-- The data after two merges, one of which has members. -/
theorem get?_data_merged_merged (version : Int) (t u : Timestamp) (h : ¬ (data = [] ∧ other = [])) :
    Fields.get? (merged version u other (merged version t data doc)) "data" =
      some (.document (Update.setAll (Update.setAll (Path.inner doc "data") data) other)) := by
  rw [get?_data_merged, inner_merged]
  by_cases hother : other = []
  · have hdata : data ≠ [] := fun hdata => h ⟨hdata, hother⟩
    rw [if_pos hother, get?_data_merged, if_neg hdata, hother]
    rfl
  · rw [if_neg hother]

theorem sameRecord_refl (old doc : Document) : SameRecord old doc doc :=
  ⟨fun _ _ _ => rfl, Or.inl rfl, Or.inl rfl, fun _ => rfl⟩

/-- The same data merged at different times. -/
theorem sameRecord_merged (version : Int) (t u : Timestamp) (data doc : Document) :
    SameRecord doc (merged version t data doc) (merged version u data doc) where
  members name hdata htime := by
    by_cases hversion : name = "_classVersion"
    · rw [hversion, get?_version_merged, get?_version_merged]
    · have hname : name ∉ ["data", "_classVersion", "updatedAt"] := by simp [hdata, hversion, htime]
      rw [get?_merged_of_ne _ _ _ _ hname, get?_merged_of_ne _ _ _ _ hname]
  data := Or.inl (by rw [get?_data_merged, get?_data_merged])
  updatedAt := Or.inr ⟨_, _, get?_time_merged .., get?_time_merged ..⟩
  names h := names_merged_congr h version t u data data

/-- Two pieces of data without a common name, merged in either order. -/
theorem sameRecord_merged_merged (hplain : Update.Plain data) (hplain' : Update.Plain other)
    (hdisjoint : ∀ name ∈ Fields.names data, name ∉ Fields.names other) (version : Int)
    (t t' u u' : Timestamp) (doc : Document) :
    SameRecord doc (merged version t' other (merged version t data doc))
      (merged version u' data (merged version u other doc)) where
  members name hdata htime := by
    by_cases hversion : name = "_classVersion"
    · rw [hversion, get?_version_merged, get?_version_merged]
    · have hname : name ∉ ["data", "_classVersion", "updatedAt"] := by simp [hdata, hversion, htime]
      rw [get?_merged_of_ne _ _ _ _ hname, get?_merged_of_ne _ _ _ _ hname,
        get?_merged_of_ne _ _ _ _ hname, get?_merged_of_ne _ _ _ _ hname]
  data := by
    by_cases hnil : data = [] ∧ other = []
    · left
      simp only [get?_data_merged, if_pos hnil.1, if_pos hnil.2]
    · right
      have hnil' : ¬ (other = [] ∧ data = []) := fun h => hnil h.symm
      exact ⟨_, _, get?_data_merged_merged version t t' hnil,
        get?_data_merged_merged version u u' hnil', Update.setAll_perm hplain hplain' hdisjoint⟩
  updatedAt := Or.inr ⟨_, _, get?_time_merged .., get?_time_merged ..⟩
  names h := by
    rw [names_merged_merged h, names_merged_merged h]
    exact names_merged_congr h version t u data other

/-- What two updates merge into a document, if they do, they may merge in either order. -/
theorem sameRecord_mergedIf {first second : Option Document}
    (hfirst : ∀ data ∈ first, Update.Plain data) (hsecond : ∀ data ∈ second, Update.Plain data)
    (hdisjoint : ∀ data ∈ first, ∀ other ∈ second, ∀ name ∈ Fields.names data, name ∉
      Fields.names other)
    (version : Int) (t t' u u' : Timestamp) (doc : Document) :
    SameRecord doc (mergedIf version t' second (mergedIf version t first doc))
      (mergedIf version u' first (mergedIf version u second doc)) := by
  cases first with
  | none =>
    cases second with
    | none => exact sameRecord_refl doc doc
    | some other => exact sameRecord_merged version t' u other doc
  | some data =>
    cases second with
    | none => exact sameRecord_merged version t u' data doc
    | some other =>
      exact sameRecord_merged_merged (hfirst data rfl) (hsecond other rfl)
        (hdisjoint data rfl other rfl) version t t' u u' doc

theorem Decodes.atTime {s : Store} (h : s.Decodes) (clock : Timestamp) : (s.atTime clock).Decodes :=
  ⟨h.unique, h.decodes⟩

theorem readsAlike_atTime {s t : Store} (h : s.ReadsAlike t) (clock : Timestamp) :
    s.ReadsAlike (t.atTime clock) :=
  ⟨h.files, h.failures⟩

theorem ReadsAlike.trans {s t u : Store} (h : s.ReadsAlike t) (h' : t.ReadsAlike u) :
    s.ReadsAlike u :=
  ⟨h'.files.trans h.files, fun className id =>
    (h'.failures className id).trans (h.failures className id)⟩

theorem ReadsAlike.refl (s : Store) : s.ReadsAlike s :=
  ⟨rfl, fun _ _ => rfl⟩

end Store

namespace Sample

/-- The user gets a friend. -/
def friendInput : Fields Datum :=
  [("id", .string firstId), ("friend", .string firstId)]

/-- The user gets a list of friends. -/
def friendsInput : Fields Datum :=
  [("id", .string firstId), ("friends", .list [.string firstId])]

end Sample

namespace Mutation

open Store

/-- Whether two updates are about different records or set different fields of one. -/
def Independent (c : ClassInfo) (input : Fields Datum) (c' : ClassInfo)
    (input' : Fields Datum) : Prop :=
  c = c' → ∀ id, requiredId input = .ok id → requiredId input' = .ok id →
    ∀ name value value' f f', Gives c input name value f → ¬ Gives c' input' name value' f'

section Pair

variable {definitions : List ClassDefinition} {r : Registry}
  (hr : Registry.ofDefinitions definitions = .ok r) {s : Store} (hs : s.Decodes) {c c' : ClassInfo}
  (hc : c ∈ r.classes) (hc' : c' ∈ r.classes) {input input' : Fields Datum}

include hr hs hc

/-- A store in which an update was made reads like the one before. -/
theorem readsAlike_run (hu : Unmarked c input) (version : Int) (t t' : Timestamp) :
    s.ReadsAlike (((MutationCall.update c version input).run (s.atTime t)).2.atTime t') :=
  readsAlike_atTime ((readsAlike_atTime (.refl s) t).trans
    (readsAlike_update hr hc hu (hs.atTime t) version)) t'

/-- An update fails alike in stores that read alike. -/
theorem failure_congr (hu : Unmarked c input) (version : Int) {t : Store} (ht : t.Decodes)
    (h : s.ReadsAlike t) :
    (MutationCall.update c version input).failure t =
      (MutationCall.update c version input).failure s := by
  rw [failure_update hr hc hu hs, failure_update hr hc hu ht, intent_update_congr h]
  cases intent .update s c input with
  | error e => rfl
  | ok i => exact h.failures c.name i.id

/-- An update does not change whether another one fails. -/
theorem failure_run (hc' : c' ∈ r.classes) (hu : Unmarked c input) (hu' : Unmarked c' input')
    (version : Int) (t u u' : Timestamp) :
    (MutationCall.update c version input).failure
        (((MutationCall.update c' version input').run (s.atTime u)).2.atTime u') =
      (MutationCall.update c version input).failure (s.atTime t) := by
  have hafter := (decodes_update hr hc' hu' (hs.atTime u) version).atTime u'
  have hreads := readsAlike_run hr hs hc' hu' version u u'
  rw [failure_congr hr hs hc hu version hafter hreads,
    failure_congr hr hs hc hu version (hs.atTime t) (readsAlike_atTime (.refl s) t)]

/-- The documents after two updates: the data of the one is merged first, then that of the other. -/
theorem documents_run_run (hu : Unmarked c input) (version : Int) (t t' : Timestamp)
    (className : String) :
    ((MutationCall.update c' version input').run
        (((MutationCall.update c version input).run (s.atTime t)).2.atTime t')).2.documents
          className =
      (s.documents className).map fun doc =>
        mergedIf version t' (given s c' input' className doc)
          (mergedIf version t (given s c input className doc) doc) := by
  have hafter := (decodes_update hr hc hu (hs.atTime t) version).atTime t'
  have hfirst := documents_update (hs.atTime t).unique c version input className
  have hsecond := documents_update hafter.unique c' version input' className
  rw [given_congr (readsAlike_run hr hs hc hu version t t')] at hsecond
  rw [given_congr (readsAlike_atTime (.refl s) t)] at hfirst
  refine hsecond.trans ((congrArg _ hfirst).trans ?_)
  rw [List.map_map]
  refine List.map_congr_left fun doc _ => ?_
  rw [Function.comp_apply, given_mergedIf]
  rfl

/-- Independent updates have no name in common in what they merge into one document. -/
theorem disjoint_given (hc' : c' ∈ r.classes) (hindependent : Independent c input c' input')
    {className : String} {doc : Document} (hdoc : doc ∈ s.documents className)
    {data other : Document} (hdata : given s c input className doc = some data)
    (hother : given s c' input' className doc = some other) :
    ∀ name ∈ Fields.names data, name ∉ Fields.names other := by
  obtain ⟨id, hid, hresolved, hclass, hanswers⟩ := of_given hdata
  obtain ⟨id', hid', hresolved', hclass', hanswers'⟩ := of_given hother
  have hnames : lowerText c.name = lowerText c'.name := hclass.symm.trans hclass'
  have hsame : c = c' := Registry.eq_of_lowerText_name hr hc hc' hnames
  -- a document has one id
  have hdocId := ((hs.unique className).answersTo_iff hdoc id).mp hanswers
  have hdocId' := ((hs.unique className).answersTo_iff hdoc id').mp hanswers'
  obtain rfl : id = id' := Option.some.inj (hdocId.symm.trans hdocId')
  intro name hname hname'
  obtain ⟨⟨key, stored⟩, hmember, rfl⟩ := List.mem_map.mp hname
  obtain ⟨⟨key', stored'⟩, hmember', hkey⟩ := List.mem_map.mp hname'
  obtain rfl : key' = key := hkey
  obtain ⟨value, f, hgives, -⟩ := mem_resolveInput hresolved hmember
  obtain ⟨value', f', hgives', -⟩ := mem_resolveInput hresolved' hmember'
  exact hindependent hsame id hid hid' key' value value' f f' hgives hgives'

end Pair

/-- An update gives out no id. -/
theorem ids_update (s : Store) (c : ClassInfo) (version : Int) (input : Fields Datum) :
    ((MutationCall.update c version input).run s).2.seed = s.seed ∧
      ((MutationCall.update c version input).run s).2.drawn = s.drawn := by
  show (update s c version input).2.seed = s.seed ∧ (update s c version input).2.drawn = s.drawn
  rw [update]
  cases requiredId input with
  | error e => exact ⟨rfl, rfl⟩
  | ok id =>
    cases resolveInput s c input with
    | error e => exact ⟨rfl, rfl⟩
    | ok data =>
      simp only [update_byId]
      exact ⟨rfl, rfl⟩

theorem ids_update_update (s : Store) (c c' : ClassInfo) (version : Int)
    (input input' : Fields Datum) (t t' : Timestamp) :
    let after := ((MutationCall.update c' version input').run
      (((MutationCall.update c version input).run (s.atTime t)).2.atTime t')).2
    after.seed = s.seed ∧ after.drawn = s.drawn := by
  obtain ⟨hseed, hdrawn⟩ := ids_update (s.atTime t) c version input
  obtain ⟨hseed', hdrawn'⟩ :=
    ids_update (((MutationCall.update c version input).run (s.atTime t)).2.atTime t') c'
      version input'
  exact ⟨hseed'.trans hseed, hdrawn'.trans hdrawn⟩

theorem files_run_run (first second : MutationCall) (s : Store) (t t' : Timestamp) :
    (second.run ((first.run (s.atTime t)).2.atTime t')).2.files = s.files := by
  rw [files_run]
  exact files_run

theorem decodes_single : Sample.single.Decodes := by
  have hother : ∀ className, lowerText className ≠ lowerText "User" →
      Sample.single.documents className = [] := by
    intro className hne
    show (run .create Sample.empty Sample.user 1 [("name", .string "a")]).2.documents className =
      Sample.empty.documents className
    refine (documents_run className).resolve_right ?_
    rintro ⟨i, -, hclass, -⟩
    exact hne hclass
  have hpresent : ∀ doc ∈ Sample.single.documents "User", (idOf doc).isSome = true := by
    decide +kernel
  have hdecodes : ∀ doc ∈ Sample.single.documents "User", (StoredRecord.ofDocument? doc).isSome =
      true := by decide +kernel
  refine ⟨fun className => ?_, fun className doc hdoc => ?_⟩
  · by_cases hclass : lowerText className = lowerText "User"
    · rw [documents_congr _ hclass]
      exact ⟨fun doc hdoc => Option.isSome_iff_exists.mp (hpresent doc hdoc), by decide +kernel⟩
    · rw [hother className hclass]
      exact ⟨fun _ hdoc => absurd hdoc List.not_mem_nil, List.nodup_nil⟩
  · by_cases hclass : lowerText className = lowerText "User"
    · rw [documents_congr _ hclass] at hdoc
      exact Option.isSome_iff_exists.mp (hdecodes doc hdoc)
    · rw [hother className hclass] at hdoc
      exact absurd hdoc List.not_mem_nil

end Mutation

end ClassApi
