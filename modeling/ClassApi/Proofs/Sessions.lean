import ClassApi.Proofs.Removal

/-!
# Sessions

Clients ask for one field after another, for queries and mutations alike. A field is asked of a
root or of an object that an earlier field gave, so a session is a chain of such questions with the
store and the objects it leaves. In a session in which a removed record is not recovered, no object
shows that record, and at the end every way to fetch it still fails.
-/

namespace ClassApi

/-- A field that is asked for. -/
structure Ask where
  /-- What the field does. -/
  resolver : Resolver
  /-- What belongs to the request. -/
  context : RequestContext
  /-- The object that is asked. -/
  source : Source
  /-- The arguments. -/
  args : Fields Datum

namespace Ask

/-- Asks for a field. -/
def run (ask : Ask) (s : Store) : Except ResolveError (Option FieldValue) × Store :=
  ask.resolver.run ask.context s ask.source ask.args

/-- The mutation that is asked for, if it is one and mutations are allowed. -/
def call? (ask : Ask) : Option MutationCall :=
  match ask.resolver, ask.context.allowMutation with
  | .mutation kind c version, true => some ⟨kind, c, version, inputOf ask.args⟩
  | _, _ => none

/-- The objects that a field gives. -/
def given (ask : Ask) (s : Store) : List Source :=
  match (ask.run s).1 with
  | .ok (some value) => value.sources
  | _ => []

/-- Asking for an allowed mutation runs it, asking for anything else reads the store. -/
theorem run_cases (ask : Ask) (s : Store) :
    (∃ call, ask.call? = some call ∧ (ask.run s).2 = (call.run s).2 ∧
      (ask.run s).1 = (call.run s).1.map fun result => some (.object (.payload result))) ∨
    (ask.call? = none ∧ (ask.run s).2 = s ∧
      (ask.run s).1 = ask.resolver.read ask.context s ask.source ask.args) := by
  obtain ⟨resolver, context, source, args⟩ := ask
  cases hallow : context.allowMutation with
  | false =>
    refine Or.inr ?_
    cases resolver <;> simp [call?, run, Resolver.run, hallow]
  | true =>
    cases resolver with
    | mutation kind c version =>
      refine Or.inl ⟨⟨kind, c, version, inputOf args⟩, ?_⟩
      simp [call?, run, Resolver.run, hallow, MutationCall.run]
    | _ => exact Or.inr ⟨rfl, rfl, rfl⟩

end Ask

/-- The sessions that begin with a store and in which mutations are subject to a condition, each
with the store it leaves and the objects it has given. -/
inductive Session (allowed : Store → MutationCall → Prop)
    (start : Store) : Store → List Source → Prop where
  /-- Nothing was asked for yet. -/
  | start : Session allowed start start []
  /-- One more field is asked of a root or of an object that was given before. -/
  | ask {s : Store} {seen : List Source} (before : Session allowed start s seen) (ask : Ask)
      (source : ask.source = .root ∨ ask.source ∈ seen)
      (call : ∀ call, ask.call? = some call → allowed s call) :
      Session allowed start (ask.run s).2 (seen ++ ask.given s)

namespace Store

/-- Whether no query gives the record of a class with an id. Names of classes are compared without
regard to case. -/
structure Hides (s : Store) (className : String) (id : ObjectId) : Prop where
  /-- The record is not fetched by its id. It is reported as removed, if it can be read. -/
  classById : ∀ name, lowerText name = lowerText className →
    Access.classById s name id = .error (s.removalError name id)
  /-- Nor is it as a node, which is how global ids and references are followed. -/
  byId : ∀ name, lowerText name = lowerText className → name ≠ fileClass →
    Access.byId s name id = .error (s.removalError name id)
  /-- A lookup by its id fails. -/
  single : ∀ c args text, lowerText c.name = lowerText className →
    Fields.get? args "id" = some (.string text) →
    ObjectId.ofClient? text = some id → Listing.single s c args = .error (s.removalError c.name id)
  /-- Its data is not given by its id. -/
  raw : ∀ c context source args text, lowerText c.name = lowerText className →
    Fields.get? args "id" = some (.string text) → ObjectId.ofClient? text = some id →
    (Resolver.raw c).read context s source args = .error (s.removalError c.name id)
  /-- A list is the same as without it, on every page, and its count leaves it out. -/
  page : ∀ c args page, lowerText c.name = lowerText className → Listing.page s c args = .ok page →
    Listing.page (s.without c.name id) c args = .ok page ∧
    ∃ query ids,
      Access.findIds s c.name query (Listing.orderToSort c (Fields.get? args "orderBy")) = .ok ids ∧
      id ∉ ids ∧ page.totalCount = ids.length
  /-- Whatever is read, the record is not shown unless the object that is asked shows it. -/
  read : ∀ resolver context source args value r,
    Resolver.read resolver context s source args = .ok (some value) → value.Shows r →
    lowerText r.className = lowerText className → r.id = id → source.Shows r

variable {s : Store} {className : String} {id : ObjectId}

theorem RemovedAt.hides (h : s.RemovedAt className id) : s.Hides className id where
  classById name hname := (h.congr hname).classById
  byId name hname hfile := (h.congr hname).byId hfile
  single c args text hname hargs hid := by
    have hclient : clientId text = .ok id := by rw [clientId, hid]
    rw [Listing.single, hargs]
    show (clientId text >>= fun x => Access.classById s c.name x) = _
    rw [hclient]
    exact (h.congr hname).classById
  raw c context source args text hname hargs hid := by
    have hclient : clientId text = .ok id := by rw [clientId, hid]
    have htext : idText args = .ok text := by rw [idText, hargs]
    rw [Resolver.read, htext]
    show (clientId text >>= fun x => Access.classById s c.name x >>= _) = _
    rw [hclient]
    show (Access.classById s c.name id >>= _) = _
    rw [(h.congr hname).classById]
    rfl
  page c args page hname hpage := (h.congr hname).page hpage
  read resolver context source args value r hread hshows hname hid :=
    (Resolver.holds_of_read hread hshows).resolve_right fun hholds => h.ne_of_holds hholds hname hid

end Store

variable {className : String} {id : ObjectId} {start s t : Store} {seen : List Source}

/-- Whether a call keeps a removed record removed: it does not recover the record, and it gives out
no id that is in use. -/
def KeepsRemoved (className : String) (id : ObjectId) (s : Store) (call : MutationCall) : Prop :=
  s.DrawsNew call ∧ ¬ call.Recovers className id

/-- Asking for one more field keeps a removed record removed, and nothing it gives shows the
record. -/
theorem Ask.keeps_removed (h : s.RemovedAt className id) {ask : Ask}
    (hcall : ∀ call, ask.call? = some call → KeepsRemoved className id s call)
    (hsource : ∀ r, ask.source.Shows r → lowerText r.className = lowerText className → r.id ≠ id) :
    (ask.run s).2.RemovedAt className id ∧
    ∀ source ∈ ask.given s, ∀ r, source.Shows r → lowerText r.className = lowerText className →
      r.id ≠ id := by
  have hgiven : ∀ source ∈ ask.given s, ∃ value, (ask.run s).1 = .ok (some value) ∧
      source ∈ value.sources := by
    intro source hmem
    rw [Ask.given] at hmem
    split at hmem
    · rename_i value hvalue
      exact ⟨value, hvalue, hmem⟩
    · cases hmem
  rcases ask.run_cases s with ⟨call, hask, hstore, hanswer⟩ | ⟨-, hstore, hanswer⟩
  · obtain ⟨hnew, hrecover⟩ := hcall call hask
    have hafter := h.run hnew hrecover
    rw [hstore]
    refine ⟨hafter, fun source hmem r hshows hname => ?_⟩
    obtain ⟨value, hvalue, hmem⟩ := hgiven source hmem
    rw [hanswer] at hvalue
    obtain ⟨result, hresult, he⟩ := map_eq_ok hvalue
    cases he
    rw [List.mem_singleton.mp hmem] at hshows
    exact hafter.ne_of_holds (Mutation.holds_of_run hresult hshows) hname
  · rw [hstore]
    refine ⟨h, fun source hmem r hshows hname hid => ?_⟩
    obtain ⟨value, hvalue, hmem⟩ := hgiven source hmem
    rw [hanswer] at hvalue
    exact hsource r (h.hides.read _ _ _ _ _ r hvalue ⟨source, hmem, hshows⟩ hname hid) hname hid

/-- A removed record stays removed in every session in which it is not recovered, and no object of
the session shows it. -/
theorem Session.keeps_removed (h : start.RemovedAt className id)
    (hs : Session (KeepsRemoved className id) start t seen) :
    t.RemovedAt className id ∧
    ∀ source ∈ seen, ∀ r, source.Shows r → lowerText r.className = lowerText className →
      r.id ≠ id := by
  induction hs with
  | start => exact ⟨h, fun source hmem => absurd hmem List.not_mem_nil⟩
  | @ask s seen _ ask hsource hcall ih =>
    obtain ⟨hremoved, hseen⟩ := ih
    have hasked : ∀ r, ask.source.Shows r → lowerText r.className = lowerText className →
        r.id ≠ id := by
      intro r hshows
      rcases hsource with hroot | hmem
      · rw [hroot] at hshows
        cases hshows
      · exact hseen ask.source hmem r hshows
    obtain ⟨hafter, hgiven⟩ := Ask.keeps_removed hremoved hcall hasked
    refine ⟨hafter, fun source hmem => ?_⟩
    rcases List.mem_append.mp hmem with hm | hm
    · exact hseen source hm
    · exact hgiven source hm

/-- A removed record is hidden until it is recovered. -/
theorem removed_stays_hidden (h : start.RemovedAt className id)
    (hs : Session (KeepsRemoved className id) start t seen) :
    t.Hides className id ∧
    ∀ source ∈ seen, ∀ r, source.Shows r → lowerText r.className = lowerText className →
      r.id ≠ id := by
  obtain ⟨hremoved, hseen⟩ := hs.keeps_removed h
  exact ⟨hremoved.hides, hseen⟩

namespace Sample

/-- The context of requests that may make mutations. -/
def context : RequestContext where
  project :=
    { id := "p", name := "P", shortName := none, uniqueName := none, hash := none, classes := none }
  allowMutation := true

/-- The user is renamed. -/
def renamed : Ask where
  resolver := .mutation .update user 1
  context := context
  source := .root
  args := [("input", .object rename.input)]

/-- The users are listed. -/
def listed : Ask where
  resolver := .page user
  context := context
  source := .root
  args := []

theorem removedAt_removal : (empty.after removal).RemovedAt "User" (.ofCounter 0 1) := by
  have hpresent : ∀ doc ∈ (empty.after removal).documents "User", (Store.idOf doc).isSome = true :=
    by decide +kernel
  have hmarked : ∃ doc ∈ (empty.after removal).documents "User",
      Store.idOf doc = some (.ofCounter 0 1) ∧
      StoredRecord.readDeleted (Fields.get? doc "_deleted") = some true := by decide +kernel
  obtain ⟨doc, hdoc, hid, hread⟩ := hmarked
  refine ⟨⟨fun doc hdoc => Option.isSome_iff_exists.mp (hpresent doc hdoc), by decide +kernel⟩, doc,
    hdoc, hid, ?_⟩
  cases hv : Fields.get? doc "_deleted" with
  | none =>
    rw [hv] at hread
    cases hread
  | some v =>
    rw [hv] at hread
    cases v with
    | bool b =>
      cases hread
      rfl
    | _ => cases hread

theorem session_removal : Session (KeepsRemoved "User" (.ofCounter 0 1)) (empty.after removal)
    (listed.run (renamed.run (empty.after removal)).2).2
    (([] ++ renamed.given (empty.after removal)) ++
      listed.given (renamed.run (empty.after removal)).2) := by
  refine .ask (.ask .start renamed (Or.inl rfl) ?_) listed (Or.inl rfl) ?_
  · intro call hcall
    cases hcall
    refine ⟨fun hdraws => ?_, fun hrecovers => ?_⟩
    · cases hdraws
    · cases hrecovers.1
  · intro call hcall
    cases hcall

end Sample

/-- A user is removed, then another name is asked for, then the list of users. -/
theorem removed_stays_hidden_renamed :
    ((Sample.empty.after Sample.removal).RemovedAt "User" (.ofCounter 0 1) ∧
      Session (KeepsRemoved "User" (.ofCounter 0 1)) (Sample.empty.after Sample.removal)
        (Sample.listed.run (Sample.renamed.run (Sample.empty.after Sample.removal)).2).2
        (([] ++ Sample.renamed.given (Sample.empty.after Sample.removal)) ++
          Sample.listed.given (Sample.renamed.run (Sample.empty.after Sample.removal)).2)) ∧
    (Sample.listed.run (Sample.renamed.run (Sample.empty.after Sample.removal)).2).2.Hides "User"
      (.ofCounter 0 1) ∧
    ∀ source ∈ ([] ++ Sample.renamed.given (Sample.empty.after Sample.removal)) ++
        Sample.listed.given (Sample.renamed.run (Sample.empty.after Sample.removal)).2,
      ∀ r, source.Shows r → lowerText r.className = lowerText "User" → r.id ≠ .ofCounter 0 1 :=
  ⟨⟨Sample.removedAt_removal, Sample.session_removal⟩,
    removed_stays_hidden Sample.removedAt_removal Sample.session_removal⟩

end ClassApi
