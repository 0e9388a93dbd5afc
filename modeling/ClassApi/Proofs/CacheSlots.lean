import ClassApi.Proofs.Cache

/-!
# Slots of the cache

Every project has a slot in the cache. A call for one project leaves the slots of all others as they
are. What a call is answered with is what stands in the slot of its project afterwards, and a call
that is not answered with a schema leaves the slot as it was. So, by induction on the calls, a slot
holds what the last call that was answered with a schema was answered with, unless the project was
dropped since.
-/

namespace ClassApi

namespace SchemaCache

/-! ## Calls -/

/-- A call to the cache. -/
inductive Call where
  /-- Asks for the schema of a project with a hash, and says how it is compiled. -/
  | getOrBuild (tenant hash : String) (compile : Unit → Except ApiError CompiledSchema)
  /-- Drops the schema of a project. -/
  | invalidate (tenant : String)

namespace Call

/-- The project of a call. -/
def tenant : Call → String
  | getOrBuild tenant _ _ => tenant
  | invalidate tenant => tenant

/-- Whether what is compiled for a hash has that hash. -/
def IsFaithful : Call → Prop
  | getOrBuild _ hash compile => ∀ compiled, compile () = .ok compiled → compiled.hash = hash
  | invalidate _ => True

/-- The cache after a call. -/
def perform (cache : SchemaCache) : Call → SchemaCache
  | getOrBuild tenant hash compile => (cache.getOrBuild tenant hash compile).2
  | invalidate tenant => (cache.invalidate tenant).2

/-- The schema that a call is answered with, if it is answered with one. -/
def served? (cache : SchemaCache) : Call → Option Build
  | getOrBuild tenant hash compile => (cache.getOrBuild tenant hash compile).1.toOption
  | invalidate _ => none

end Call

/-- The cache after some calls. -/
def after (calls : List Call) : SchemaCache :=
  calls.foldl Call.perform empty

theorem after_append_singleton (calls : List Call) (call : Call) :
    after (calls ++ [call]) = call.perform (after calls) := by
  rw [after, List.foldl_append]
  rfl

/-! ## One call -/

/-- Whether no project has two slots. -/
def OneSlot (cache : SchemaCache) : Prop :=
  (Fields.names cache.slots).Nodup

section Step

variable {cache : SchemaCache} {tenant hash : String}
  {compile : Unit → Except ApiError CompiledSchema}

theorem current?_eq_none (h : ∀ kept, cache.get? tenant = some kept → kept.compiled.hash ≠ hash) :
    cache.current? tenant hash = none := by
  cases hcurrent : cache.current? tenant hash with
  | none => rfl
  | some kept =>
    obtain ⟨hget, hhash⟩ := current?_eq_some.mp hcurrent
    exact absurd hhash (h kept hget)

/-- All that asking for a schema can do. -/
theorem getOrBuild_cases (cache : SchemaCache) (tenant : String)
    (h : ∀ compiled, compile () = .ok compiled → compiled.hash = hash) :
    (∃ kept, cache.get? tenant = some kept ∧ kept.compiled.hash = hash ∧
      cache.getOrBuild tenant hash compile = (.ok kept, cache)) ∨
    (∃ e, cache.getOrBuild tenant hash compile = (.error e, cache)) ∨
    ∃ build, build.compiled.hash = hash ∧ cache.getOrBuild tenant hash compile =
      (.ok build, ⟨Fields.insert cache.slots tenant build, cache.builds + 1⟩) := by
  cases hcurrent : cache.current? tenant hash with
  | some kept =>
    obtain ⟨hget, hhash⟩ := current?_eq_some.mp hcurrent
    exact Or.inl ⟨kept, hget, hhash, getOrBuild_of_current hcurrent compile⟩
  | none =>
    cases hcompile : compile () with
    | error e => exact Or.inr (Or.inl ⟨e, getOrBuild_of_error hcurrent hcompile⟩)
    | ok compiled =>
      have hhash := h compiled hcompile
      exact Or.inr (Or.inr ⟨_, hhash, getOrBuild_of_ok hcurrent hcompile hhash⟩)

/-- Whether a cache does what it should when it is asked for a schema of a project with a hash. -/
structure Serves (cache : SchemaCache) (tenant hash : String)
    (compile : Unit → Except ApiError CompiledSchema) : Prop where
  /-- The slots of other projects stay as they are. -/
  others : ∀ other, other ≠ tenant →
    (cache.getOrBuild tenant hash compile).2.get? other = cache.get? other
  /-- A schema with the hash is used, and it does not matter what would be compiled. -/
  kept : ∀ build, cache.get? tenant = some build → build.compiled.hash = hash →
    ∀ compile', cache.getOrBuild tenant hash compile' = (.ok build, cache)
  /-- If there is none and compiling fails, the failure is the answer and nothing is changed. -/
  failed : (∀ build, cache.get? tenant = some build → build.compiled.hash ≠ hash) →
    ∀ e, compile () = .error e → cache.getOrBuild tenant hash compile = (.error e, cache)
  /-- If there is none and compiling succeeds, what is compiled is the answer. -/
  built : (∀ build, cache.get? tenant = some build → build.compiled.hash ≠ hash) →
    ∀ compiled, compile () = .ok compiled →
      (cache.getOrBuild tenant hash compile).1 = .ok ⟨cache.builds + 1, compiled⟩
  /-- A schema that is the answer has the hash, and is the one in the slot from then on. -/
  held : ∀ build, (cache.getOrBuild tenant hash compile).1 = .ok build →
    (cache.getOrBuild tenant hash compile).2.get? tenant = some build ∧ build.compiled.hash = hash

theorem serves (cache : SchemaCache) (tenant : String)
    (h : ∀ compiled, compile () = .ok compiled → compiled.hash = hash) :
    cache.Serves tenant hash compile where
  others := by
    intro other hother
    rcases getOrBuild_cases cache tenant h with ⟨kept, -, -, hdone⟩ | ⟨e, hdone⟩ | ⟨build, -, hdone⟩
    · rw [hdone]
    · rw [hdone]
    · rw [hdone]
      exact Fields.get?_insert_of_ne _ _ hother
  kept := by
    intro build hget hhash compile'
    exact getOrBuild_of_current (current?_eq_some.mpr ⟨hget, hhash⟩) compile'
  failed := by
    intro hnone e he
    exact getOrBuild_of_error (current?_eq_none hnone) he
  built := by
    intro hnone compiled hcompiled
    rw [getOrBuild_of_ok (current?_eq_none hnone) hcompiled (h compiled hcompiled)]
  held := by
    intro build hbuild
    rcases getOrBuild_cases cache tenant h with
      ⟨kept, hget, hhash, hdone⟩ | ⟨e, hdone⟩ | ⟨fresh, hhash, hdone⟩
    · rw [hdone] at hbuild ⊢
      cases hbuild
      exact ⟨hget, hhash⟩
    · rw [hdone] at hbuild
      cases hbuild
    · rw [hdone] at hbuild ⊢
      cases hbuild
      exact ⟨Fields.get?_insert_self _ _ _, hhash⟩

/-- Whether a cache does what it should when it is asked to drop the schema of a project. -/
structure Drops (cache : SchemaCache) (tenant : String) : Prop where
  /-- The slots of other projects stay as they are. -/
  others : ∀ other, other ≠ tenant → (cache.invalidate tenant).2.get? other = cache.get? other
  /-- The slot of the project is empty from then on. -/
  dropped : (cache.invalidate tenant).2.get? tenant = none
  /-- The answer tells whether there was a schema. -/
  found : (cache.invalidate tenant).1 = (cache.get? tenant).isSome

theorem drops (h : cache.OneSlot) (tenant : String) : cache.Drops tenant where
  others := fun _ hother => Fields.get?_remove_of_ne _ hother
  dropped := Fields.get?_remove_self h tenant
  found := rfl

end Step

/-- Whether a cache does what a call asks for. -/
def Call.IsObeyed (cache : SchemaCache) : Call → Prop
  | getOrBuild tenant hash compile => cache.Serves tenant hash compile
  | invalidate tenant => cache.Drops tenant

theorem isObeyed {cache : SchemaCache} (hslot : cache.OneSlot) {call : Call} (h : call.IsFaithful) :
    call.IsObeyed cache := by
  cases call with
  | getOrBuild tenant hash compile => exact serves cache tenant h
  | invalidate tenant => exact drops hslot tenant

theorem oneSlot_perform {cache : SchemaCache} (hslot : cache.OneSlot) {call : Call}
    (h : call.IsFaithful) : (call.perform cache).OneSlot := by
  cases call with
  | getOrBuild tenant hash compile =>
    rw [Call.perform]
    rcases getOrBuild_cases cache tenant h with ⟨kept, -, -, hdone⟩ | ⟨e, hdone⟩ | ⟨build, -, hdone⟩
    · rwa [hdone]
    · rwa [hdone]
    · rw [hdone]
      exact Fields.nodup_insert hslot _ _
  | invalidate tenant => exact Fields.nodup_remove hslot tenant

/-- What stands in a slot after a call, from the answer to the call and from what stood there
before. -/
theorem get?_perform {cache : SchemaCache} (hslot : cache.OneSlot) {call : Call}
    (h : call.IsFaithful) (tenant : String) (build : Build) :
    (call.perform cache).get? tenant = some build ↔
      (call.tenant = tenant ∧ call.served? cache = some build) ∨
      (cache.get? tenant = some build ∧
        (call.tenant = tenant → call ≠ .invalidate tenant ∧ call.served? cache = none)) := by
  cases call with
  | getOrBuild asked hash compile =>
    rw [Call.perform, Call.served?, Call.tenant]
    by_cases hasked : asked = tenant
    · subst hasked
      rcases getOrBuild_cases cache asked h with
        ⟨kept, hget, -, hdone⟩ | ⟨e, hdone⟩ | ⟨fresh, -, hdone⟩
      · simp [hdone, hget, Except.toOption]
      · simp [hdone, Except.toOption]
      · simp [hdone, get?, Except.toOption]
    · rw [(serves cache asked h).others tenant (Ne.symm hasked)]
      simp [hasked]
  | invalidate asked =>
    rw [Call.perform, Call.served?, Call.tenant]
    by_cases hasked : asked = tenant
    · subst hasked
      simp [(drops hslot asked).dropped]
    · rw [(drops hslot asked).others tenant (Ne.symm hasked)]
      simp [hasked]

/-! ## Any number of calls -/

theorem oneSlot_after {calls : List Call} (h : ∀ call ∈ calls, call.IsFaithful) :
    (after calls).OneSlot := by
  induction calls using List.reverseRecOn with
  | nil => exact List.nodup_nil
  | append_singleton calls call ih =>
    obtain ⟨hcalls, hcall⟩ := List.forall_mem_append.mp h
    rw [after_append_singleton]
    exact oneSlot_perform (ih hcalls) (hcall call (List.mem_singleton_self call))

/-- Whether a schema is what the last call for a project that was answered with a schema was
answered with, and whether the project was not dropped since. -/
def LastServed (calls : List Call) (tenant : String) (build : Build) : Prop :=
  ∃ before call later, calls = before ++ call :: later ∧ call.tenant = tenant ∧
    call.served? (after before) = some build ∧
    ∀ middle next rest, later = middle ++ next :: rest → next.tenant = tenant →
      next ≠ .invalidate tenant ∧ next.served? (after (before ++ call :: middle)) = none

theorem not_lastServed_nil (tenant : String) (build : Build) : ¬ LastServed [] tenant build := by
  rintro ⟨before, call, later, hcalls, -⟩
  simp at hcalls

theorem lastServed_append_singleton {calls : List Call} {call : Call} {tenant : String}
    {build : Build} :
    LastServed (calls ++ [call]) tenant build ↔
      (call.tenant = tenant ∧ call.served? (after calls) = some build) ∨
      (LastServed calls tenant build ∧
        (call.tenant = tenant → call ≠ .invalidate tenant ∧
          call.served? (after calls) = none)) := by
  constructor
  · rintro ⟨before, served, later, hcalls, htenant, hserved, hlater⟩
    -- the call that was answered is the last one, or the last one comes after it
    induction later using List.reverseRecOn with
    | nil =>
      obtain ⟨rfl, he⟩ := List.append_inj' hcalls rfl
      obtain rfl : call = served := List.singleton_inj.mp he
      exact Or.inl ⟨htenant, hserved⟩
    | append_singleton later last _ =>
      rw [← List.cons_append, ← List.append_assoc] at hcalls
      obtain ⟨rfl, he⟩ := List.append_inj' hcalls rfl
      obtain rfl : call = last := List.singleton_inj.mp he
      refine Or.inr ⟨⟨before, served, later, rfl, htenant, hserved,
        fun middle next rest hsplit => ?_⟩, ?_⟩
      · exact hlater middle next (rest ++ [call]) (by rw [hsplit, List.append_assoc,
          List.cons_append])
      · exact hlater later call [] rfl
  · rintro (⟨htenant, hserved⟩ | ⟨⟨before, served, later, rfl, htenant, hserved, hlater⟩, hcall⟩)
    · exact ⟨calls, call, [], rfl, htenant, hserved, fun middle next rest hsplit => by
        simp at hsplit⟩
    · refine ⟨before, served, later ++ [call], by
        simp, htenant, hserved, fun middle next rest hsplit => ?_⟩
      induction rest using List.reverseRecOn with
      | nil =>
        obtain ⟨rfl, he⟩ := List.append_inj' hsplit rfl
        obtain rfl : call = next := List.singleton_inj.mp he
        exact hcall
      | append_singleton rest last _ =>
        rw [← List.cons_append, ← List.append_assoc] at hsplit
        exact hlater middle next rest (List.append_inj' hsplit rfl).1

/-- Every call does what it should to the cache that the calls before it leave, and a slot holds
what the last call that was answered with a schema was answered with, if the project was not dropped
since, and nothing else. -/
theorem slots_consistent {calls : List Call} (h : ∀ call ∈ calls, call.IsFaithful) :
    (∀ before call later, calls = before ++ call :: later → call.IsObeyed (after before)) ∧
    ∀ tenant build, (after calls).get? tenant = some build ↔ LastServed calls tenant build := by
  constructor
  · rintro before call later rfl
    obtain ⟨hbefore, hrest⟩ := List.forall_mem_append.mp h
    exact isObeyed (oneSlot_after hbefore) (hrest call List.mem_cons_self)
  · intro tenant build
    induction calls using List.reverseRecOn with
    | nil => exact iff_of_false (fun hget => by cases hget) (not_lastServed_nil tenant build)
    | append_singleton calls call ih =>
      obtain ⟨hcalls, hcall⟩ := List.forall_mem_append.mp h
      have hfaithful := hcall call (List.mem_singleton_self call)
      rw [after_append_singleton, get?_perform (oneSlot_after hcalls) hfaithful,
        lastServed_append_singleton, ih hcalls]

end SchemaCache

namespace Sample

/-- A schema without types. -/
def compiled (hash : String) : CompiledSchema :=
  ⟨⟨[], false⟩, hash, 0⟩

/-- One project is compiled, does not compile after a change, and is used again as it was. Another
one is dropped. -/
def calls : List SchemaCache.Call :=
  [.getOrBuild "a" "first" fun _ => .ok (compiled "first"),
    .getOrBuild "b" "first" fun _ => .ok (compiled "first"),
    .getOrBuild "a" "second" fun _ => .error (.definition .missingRef),
    .getOrBuild "a" "first" fun _ => .error (.definition .missingRef), .invalidate "b"]

end Sample

namespace SchemaCache

/-- The schema of the one project outlasts the failure and is used again, and the other project has
none. -/
theorem slots_consistent_failure :
    (∀ call ∈ Sample.calls, call.IsFaithful) ∧
    (∀ before call later, Sample.calls = before ++ call :: later → call.IsObeyed (after before)) ∧
    LastServed Sample.calls "a" ⟨1, Sample.compiled "first"⟩ ∧
    ∀ build, ¬ LastServed Sample.calls "b" build := by
  have hfaithful : ∀ call ∈ Sample.calls, call.IsFaithful := by
    simp [Sample.calls, Call.IsFaithful, Sample.compiled]
  obtain ⟨hobeyed, hslots⟩ := slots_consistent hfaithful
  have hdropped : (after Sample.calls).get? "b" = none := rfl
  refine ⟨hfaithful, hobeyed, (hslots "a" _).mp rfl, fun build hserved => ?_⟩
  rw [← hslots, hdropped] at hserved
  cases hserved

end SchemaCache

end ClassApi
