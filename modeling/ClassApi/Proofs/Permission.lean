import ClassApi.Proofs.Compilation
import ClassApi.Proofs.Completion

/-!
# Requests without permission

Execution does nothing to the store beside calling resolvers: a request leaves the store as it is if
every field it comes to does. Without permission every field does, whatever is selected. The
failures of a request only grow, so the failure of a mutation that is refused anywhere among the
choices is among those that the response tells.
-/

namespace ClassApi

/-- Without permission, no resolver changes the store. -/
theorem Resolver.store_run_of_not_allowed {context : RequestContext}
    (h : context.allowMutation = false) (r : Resolver) (s : Store) (source : Source)
    (args : Fields Datum) : (r.run context s source args).2 = s := by
  unfold run
  rw [h]
  cases r with
  | _ => rfl

namespace Execution

variable {env : Environment}

/-- Answers an object by choices. -/
def objectAnswer (env : Environment) (choices : List Choice) : ObjectAnswer :=
  fun typeName type source p =>
    let (answers, p) := answerChoices env typeName type source choices p
    (Answers.toDatum answers, p)

/-- A field whose resolver is called. -/
structure Call where
  /-- The field. -/
  field : FieldDefinition
  /-- The name under which it is answered. -/
  key : String
  /-- The arguments as they are written. -/
  arguments : List (String × Literal)
  /-- The choices that are made of its value. -/
  choices : List Choice
  /-- What it is read from. -/
  source : Source
  /-- How far the request has come. -/
  progress : Progress

/-- What a call is answered with, and how far the request has come then. -/
def Call.answer (env : Environment) (call : Call) : List (String × Datum) × Progress :=
  answerField env (objectAnswer env call.choices) call.field call.key call.arguments call.source
    call.progress

/-- Whether the resolver of a call leaves the store as it is. -/
def Call.Reads (env : Environment) (call : Call) : Prop :=
  ∀ args, env.arguments call.arguments = .ok args →
    (call.field.resolver.run env.context call.progress.store call.source args).2 =
      call.progress.store

theorem reads_of_not_allowed (h : env.context.allowMutation = false) (call : Call) :
    call.Reads env :=
  fun args _ =>
    Resolver.store_run_of_not_allowed h call.field.resolver call.progress.store call.source args

/-- Which calls are made while choices are answered. -/
inductive Calls (env : Environment) :
    String → ObjectType → Source → List Choice → Progress → Call → Prop where
  /-- A field that is chosen, when its arguments have values. -/
  | here {typeName : String} {type : ObjectType} {source : Source} {label : Option String}
      {name : String} {arguments : List (String × Literal)} {directives : List Directive}
      {choices rest : List Choice} {p : Progress} {f : FieldDefinition} {args : Fields Datum} :
      env.keeps (.field label name arguments directives choices) = true →
      name ≠ Language.typenameField →
      type.field? name = some f → env.arguments arguments = .ok args →
      Calls env typeName type source (.field label name arguments directives choices :: rest) p
        ⟨f, Choice.responseKey label name, arguments, choices, source, p⟩
  /-- A field of an object that is asked about while the value of a chosen field is completed. -/
  | inside {typeName : String} {type : ObjectType} {source : Source} {label : Option String}
      {name : String} {arguments : List (String × Literal)} {directives : List Directive}
      {choices rest : List Choice} {p : Progress} {f : FieldDefinition} {args : Fields Datum}
      {value : FieldValue} {s : Store} {asked : Completion.Asked} {call : Call} :
      env.keeps (.field label name arguments directives choices) = true →
      name ≠ Language.typenameField →
      type.field? name = some f → env.arguments arguments = .ok args →
      f.resolver.run env.context p.store source args = (.ok (some value), s) →
      Completion.Asks env.schema (objectAnswer env choices) f.type value
        { p with store := s } asked →
      Calls env asked.typeName asked.type asked.source choices asked.progress call →
      Calls env typeName type source (.field label name arguments directives choices :: rest) p call
  /-- A field in a group that applies. -/
  | group {typeName : String} {type : ObjectType} {source : Source} {condition : Option String}
      {directives : List Directive} {choices rest : List Choice} {p : Progress} {call : Call} :
      env.keeps (.group condition directives choices) = true →
      applies typeName type condition = true →
      Calls env typeName type source choices p call →
      Calls env typeName type source (.group condition directives choices :: rest) p call
  /-- A field behind a choice that stands. -/
  | later {typeName : String} {type : ObjectType} {source : Source} {choice : Choice}
      {rest : List Choice} {p : Progress} {call : Call} :
      env.keeps choice = true →
      Calls env typeName type source rest (answerChoice env typeName type source choice p).2 call →
      Calls env typeName type source (choice :: rest) p call
  /-- A field behind a choice that does not stand. -/
  | skip {typeName : String} {type : ObjectType} {source : Source} {choice : Choice}
      {rest : List Choice} {p : Progress} {call : Call} :
      env.keeps choice = false → Calls env typeName type source rest p call →
      Calls env typeName type source (choice :: rest) p call

theorem answerChoice_field (typeName : String) (type : ObjectType) (source : Source)
    (label : Option String) {name : String} (arguments : List (String × Literal))
    (directives : List Directive) (choices : List Choice) (p : Progress) {f : FieldDefinition}
    (hname : name ≠ Language.typenameField) (hf : type.field? name = some f) :
    answerChoice env typeName type source (.field label name arguments directives choices) p =
      Call.answer env ⟨f, Choice.responseKey label name, arguments, choices, source, p⟩ := by
  rw [answerChoice, if_neg hname, hf]
  rfl

theorem answerChoices_cons_keep (typeName : String) (type : ObjectType) (source : Source)
    {choice : Choice} (rest : List Choice) (p : Progress) (h : env.keeps choice = true) :
    (answerChoices env typeName type source (choice :: rest) p).2 =
      (answerChoices env typeName type source rest
        (answerChoice env typeName type source choice p).2).2 := by
  rw [answerChoices, if_pos h]

theorem answerChoices_cons_skip (typeName : String) (type : ObjectType) (source : Source)
    {choice : Choice} (rest : List Choice) (p : Progress) (h : env.keeps choice = false) :
    answerChoices env typeName type source (choice :: rest) p =
      answerChoices env typeName type source rest p := by
  rw [answerChoices, if_neg (by rw [h]; exact Bool.false_ne_true)]

/-- A call whose resolver gives a value has come as far as the completion of the value. -/
theorem extends_completed (call : Call) {args : Fields Datum} {value : FieldValue} {s : Store}
    (hargs : env.arguments call.arguments = .ok args)
    (hrun : call.field.resolver.run env.context call.progress.store call.source args =
      (.ok (some value), s)) :
    (Completion.completeValue env.schema (objectAnswer env call.choices) call.field.type value
      { call.progress with store := s }).2.Extends (call.answer env).2 := by
  rw [Call.answer, answerField, hargs]
  simp only [hrun, Completion.complete]
  cases Completion.completeValue env.schema (objectAnswer env call.choices) call.field.type value
    { call.progress with store := s } with
  | mk answered q =>
    cases answered with
    | error e => exact Progress.extends_fail _ _
    | ok datum => exact .refl q

theorem extends_answer {call : Call} (hreads : call.Reads env)
    (h : ∀ args value s, env.arguments call.arguments = .ok args →
      call.field.resolver.run env.context call.progress.store call.source args =
        (.ok (some value), s) →
        ∀ asked, Completion.Asks env.schema (objectAnswer env call.choices) call.field.type value
          { call.progress with store := s } asked →
          asked.Extends (objectAnswer env call.choices)) :
    call.progress.Extends (call.answer env).2 := by
  rw [Call.answer, answerField]
  cases hargs : env.arguments call.arguments with
  | error e => exact Progress.extends_fail _ _
  | ok args =>
    have hstore := hreads args hargs
    cases hrun : call.field.resolver.run env.context call.progress.store call.source args with
    | mk result s =>
      rw [hrun] at hstore
      cases hstore
      cases result with
      | error e =>
        simp only [hrun]
        exact Progress.extends_fail _ _
      | ok value =>
        have hcomplete :
            call.progress.Extends (Completion.complete env.schema (objectAnswer env call.choices)
                call.field.type value call.progress).2 := by
          cases value with
          | none => exact .refl _
          | some value => exact Completion.extends_completeValue (h args value _ hargs hrun)
        simp only [hrun]
        cases hdone :
          Completion.complete env.schema (objectAnswer env call.choices) call.field.type value
          call.progress with
        | mk answered q =>
          rw [hdone] at hcomplete
          cases answered with
          | error e => exact hcomplete.trans (Progress.extends_fail _ _)
          | ok datum => exact hcomplete

mutual

theorem extends_answerChoice (typeName : String) (type : ObjectType) (source : Source) :
    ∀ (choice : Choice) (rest : List Choice) (p : Progress), env.keeps choice = true →
      (∀ call, Calls env typeName type source (choice :: rest) p call → call.Reads env) →
      p.Extends (answerChoice env typeName type source choice p).2
  | .field label name arguments directives choices, rest, p, hkeep, h => by
    by_cases hname : name = Language.typenameField
    · rw [answerChoice, if_pos hname]
      exact .refl p
    · cases hf : type.field? name with
      | none =>
        rw [answerChoice, if_neg hname, hf]
        exact .refl p
      | some f =>
        rw [answerChoice_field _ _ _ _ _ _ _ _ hname hf]
        refine extends_answer (fun args hargs => h _ (.here hkeep hname hf hargs) args hargs) ?_
        intro args value s hargs hrun asked hasks
        exact extends_answerChoices asked.typeName asked.type asked.source choices asked.progress
          fun call hcall => h call (.inside hkeep hname hf hargs hrun hasks hcall)
  | .group condition directives choices, rest, p, hkeep, h => by
    rw [answerChoice]
    split
    · rename_i happlies
      exact extends_answerChoices typeName type source choices p
        fun call hcall => h call (.group hkeep happlies hcall)
    · exact .refl p

/-- Answering choices forgets no failure, and it does not change the store if no call does. -/
theorem extends_answerChoices (typeName : String) (type : ObjectType) (source : Source) :
    ∀ (choices : List Choice) (p : Progress),
      (∀ call, Calls env typeName type source choices p call → call.Reads env) →
      p.Extends (answerChoices env typeName type source choices p).2
  | [], p, _ => by
    rw [answerChoices]
    exact .refl p
  | choice :: rest, p, h => by
    by_cases hkeep : env.keeps choice = true
    · rw [answerChoices_cons_keep _ _ _ _ _ hkeep]
      exact (extends_answerChoice typeName type source choice rest p hkeep h).trans
        (extends_answerChoices typeName type source rest _ fun call hcall =>
          h call (.later hkeep hcall))
    · have hskip := Bool.eq_false_iff.mpr hkeep
      rw [answerChoices_cons_skip _ _ _ _ _ hskip]
      exact extends_answerChoices typeName type source rest p fun call hcall =>
        h call (.skip hskip hcall)

end

/-- What is answered to a call is not forgotten when all choices are answered. -/
theorem extends_of_calls (h : ∀ call : Call, call.Reads env) {typeName : String} {type : ObjectType}
    {source : Source} {choices : List Choice} {p : Progress} {call : Call}
    (hc : Calls env typeName type source choices p call) :
    p.Extends call.progress ∧
    (call.answer env).2.Extends (answerChoices env typeName type source choices p).2 := by
  have hchoices : ∀ typeName type source choices (p : Progress),
      p.Extends (answerChoices env typeName type source choices p).2 :=
    fun typeName type source choices p =>
      extends_answerChoices typeName type source choices p fun call _ => h call
  induction hc with
  | here hkeep hname hf hargs =>
    refine ⟨.refl _, ?_⟩
    rw [answerChoices_cons_keep _ _ _ _ _ hkeep, answerChoice_field _ _ _ _ _ _ _ _ hname hf]
    exact hchoices _ _ _ _ _
  | @inside typeName type source label name arguments directives choices rest p f args value s asked
    call hkeep hname hf hargs hrun hasks _ ih =>
    have hstore := h ⟨f, Choice.responseKey label name, arguments, choices, source, p⟩ args hargs
    rw [hrun] at hstore
    cases hstore
    have hanswer : ∀ asked : Completion.Asked, asked.Extends (objectAnswer env choices) :=
      fun asked => hchoices asked.typeName asked.type asked.source choices asked.progress
    obtain ⟨hbefore, hafter⟩ := Completion.extends_of_asks hanswer hasks
    refine ⟨hbefore.trans ih.1, ih.2.trans (hafter.trans ?_)⟩
    rw [answerChoices_cons_keep _ _ _ _ _ hkeep, answerChoice_field _ _ _ _ _ _ _ _ hname hf]
    have hcompleted :=
      extends_completed ⟨f, Choice.responseKey label name, arguments, choices, source, p⟩ hargs hrun
    exact hcompleted.trans (hchoices _ _ _ _ _)
  | group hkeep happlies _ ih =>
    refine ⟨ih.1, ?_⟩
    rw [answerChoices_cons_keep _ _ _ _ _ hkeep, answerChoice, if_pos happlies]
    exact ih.2.trans (hchoices _ _ _ _ _)
  | @later typeName type source choice rest p call hkeep _ ih =>
    have hfirst :=
      extends_answerChoice typeName type source choice rest p hkeep fun call _ => h call
    rw [answerChoices_cons_keep _ _ _ _ _ hkeep]
    exact ⟨hfirst.trans ih.1, ih.2⟩
  | skip hskip _ ih =>
    rw [answerChoices_cons_skip _ _ _ _ _ hskip]
    exact ih

/-- The arguments of a call have values. -/
theorem arguments_of_calls {typeName : String} {type : ObjectType} {source : Source}
    {choices : List Choice} {p : Progress} {call : Call}
    (hc : Calls env typeName type source choices p call) :
    ∃ args, env.arguments call.arguments = .ok args := by
  induction hc with
  | @here _ _ _ _ _ _ _ _ _ _ _ args _ _ _ hargs => exact ⟨args, hargs⟩
  | inside _ _ _ _ _ _ _ ih => exact ih
  | group _ _ _ ih => exact ih
  | later _ _ ih => exact ih
  | skip _ _ ih => exact ih

/-- Without permission, a call of a mutation is answered with nothing, and its failure is noted. -/
theorem answer_mutation (h : env.context.allowMutation = false) {call : Call} {args : Fields Datum}
    (hargs : env.arguments call.arguments = .ok args) {kind : MutationKind} {c : ClassInfo}
    {version : Int} (hr : call.field.resolver = .mutation kind c version) :
    call.answer env =
      ([], call.progress.fail (.resolve (.mutationNotAllowed (kind.fieldName c.name)))) := by
  rw [Call.answer, answerField, hargs, hr]
  simp only [Resolver.run, h]
  rfl

end Execution

/-! ## Requests -/

/-- A response tells every failure of a field itself. -/
theorem Response.mem_errors_ofExecution (data : Datum) {errors : List ExecutionError}
    {e : ExecutionError} (he : e ∈ errors) (hown : e.isOwn = true) :
    ∃ data' texts, ofExecution data errors = .answered data' texts ∧ e.message ∈ texts := by
  have hany : errors.any ExecutionError.isOwn = true := List.any_eq_true.mpr ⟨e, he, hown⟩
  have hanswered : ¬ (data.isNull && !errors.any ExecutionError.isOwn) = true := by
    rw [hany, Bool.not_true, Bool.and_false]
    exact Bool.false_ne_true
  refine ⟨data, _, if_neg hanswered, ?_⟩
  exact List.mem_mergeSort.mpr (List.mem_map_of_mem he)

namespace Request

/-- What stays the same while an operation of a request is executed. -/
def environment (r : Request) (schema : Schema) (project : Project)
    (operation : Operation) : Environment where
  schema := schema
  context := { project, allowMutation := r.allowMutation }
  definitions := operation.variableDefinitions
  variableValues := r.variableValues

/-- Which calls are made while a request is executed. -/
def Calls (r : Request) (schema : Schema) (project : Project) (s : Store) (env : Environment)
    (call : Execution.Call) : Prop :=
  ∃ executable root type,
    Language.prepare schema r.text r.variableValues r.operationName = some executable ∧
    Language.rootName schema executable.operation.kind = some root ∧
    schema.object? root = some type ∧
    env = r.environment schema project executable.operation ∧
    Execution.Calls env root type .root executable.choices ⟨s, []⟩ call

theorem Calls.arguments {r : Request} {schema : Schema} {project : Project} {s : Store}
    {env : Environment} {call : Execution.Call} (hc : r.Calls schema project s env call) :
    ∃ args, env.arguments call.arguments = .ok args := by
  obtain ⟨executable, root, type, -, -, -, -, hcalls⟩ := hc
  exact Execution.arguments_of_calls hcalls

theorem Calls.allowMutation {r : Request} {schema : Schema} {project : Project} {s : Store}
    {env : Environment} {call : Execution.Call} (hc : r.Calls schema project s env call) :
    env.context.allowMutation = r.allowMutation := by
  obtain ⟨executable, root, type, -, -, -, rfl, -⟩ := hc
  rfl

theorem execute_prepared {r : Request} {schema : Schema} {project : Project} {s : Store}
    {executable : Language.Executable} {root : String} {type : ObjectType}
    (hprepare : Language.prepare schema r.text r.variableValues r.operationName = some executable)
    (hroot : Language.rootName schema executable.operation.kind = some root)
    (htype : schema.object? root = some type) {answers : List (String × Datum)} {p : Progress}
    (hanswers :
      Execution.answerChoices (r.environment schema project executable.operation) root type .root
        executable.choices ⟨s, []⟩ = (answers, p)) :
    r.execute schema project s = (.ofExecution (Answers.toDatum answers) p.errors, p.store) := by
  have hschema : (r.environment schema project executable.operation).schema = schema := rfl
  unfold execute
  rw [hprepare]
  simp only [hroot]
  show Execution.answerOperation (r.environment schema project executable.operation) root
    executable.choices s = _
  rw [Execution.answerOperation, hschema, htype]
  simp only [hanswers]

/-- A request leaves the store as it is if every call does. -/
theorem store_execute {r : Request} {schema : Schema} {project : Project} {s : Store}
    (h : ∀ env call, r.Calls schema project s env call → call.Reads env) :
    (r.execute schema project s).2 = s := by
  cases hprepare : Language.prepare schema r.text r.variableValues r.operationName with
  | none =>
    rw [execute, hprepare]
  | some executable =>
    cases hroot : Language.rootName schema executable.operation.kind with
    | none =>
      rw [execute, hprepare]
      simp only [hroot]
    | some root =>
      cases htype : schema.object? root with
      | none =>
        rw [execute, hprepare]
        simp only [hroot, Execution.answerOperation, htype]
      | some type =>
        have hextends := Execution.extends_answerChoices root type .root executable.choices ⟨s, []⟩
          fun call hcall => h _ call ⟨executable, root, type, hprepare, hroot, htype, rfl, hcall⟩
        rw [execute_prepared hprepare hroot htype rfl]
        exact hextends.store

/-- Without permission a request leaves the store as it is. -/
theorem store_execute_of_not_allowed {r : Request} (h : r.allowMutation = false) (schema : Schema)
    (project : Project) (s : Store) : (r.execute schema project s).2 = s :=
  store_execute fun _ call hcall =>
    Execution.reads_of_not_allowed (hcall.allowMutation.trans h) call

/-- The failure of a call is among those that the response tells. -/
theorem mem_errors_of_calls {r : Request} (h : r.allowMutation = false) {schema : Schema}
    {project : Project} {s : Store} {env : Environment} {call : Execution.Call}
    (hc : r.Calls schema project s env call) {e : ExecutionError}
    (he : e ∈ (call.answer env).2.errors) (hown : e.isOwn = true) :
    call.progress.store = s ∧ ∃ data errors, (r.execute schema project s).1 =
      .answered data errors ∧ e.message ∈ errors := by
  obtain ⟨executable, root, type, hprepare, hroot, htype, rfl, hcalls⟩ := hc
  have hallow :
      (r.environment schema project executable.operation).context.allowMutation = false := h
  obtain ⟨hbefore, hafter⟩ :=
    Execution.extends_of_calls (Execution.reads_of_not_allowed hallow) hcalls
  refine ⟨hbefore.store, ?_⟩
  rw [execute_prepared hprepare hroot htype rfl]
  exact Response.mem_errors_ofExecution _ (hafter.errors.subset he) hown

end Request

namespace Service

/-- Without permission a request leaves the store as it is, and every mutation it comes to is
refused: it is answered with nothing, which alone makes `null`, and the response says which mutation
it was. -/
theorem execute_without_permission (service : Service) (project : Project) (s : Store)
    (request : Request) (h : request.allowMutation = false) :
    (service.execute project s request).2.2 = s ∧
    ∀ build, (service.schemaFor project).1 = .ok build →
      ∀ env call, request.Calls build.compiled.schema project s env call →
        ∀ kind c version, call.field.resolver = .mutation kind c version →
          call.progress.store = s ∧ (call.answer env).1 = [] ∧
          Answers.toDatum (call.answer env).1 = .null ∧
          ∃ data errors, (service.execute project s request).1 = .ok (.answered data errors) ∧
            s!"Usage of \"{kind.fieldName c.name}\" mutation is not allowed" ∈ errors := by
  rw [execute_eq]
  cases hschema : (service.schemaFor project).1 with
  | error e => exact ⟨rfl, fun build hbuild => by cases hbuild⟩
  | ok build =>
    refine ⟨Request.store_execute_of_not_allowed h _ project s, ?_⟩
    intro compiled hcompiled env call hcall kind c version hresolver
    cases hcompiled
    obtain ⟨args, hargs⟩ := hcall.arguments
    have hanswer := Execution.answer_mutation (hcall.allowMutation.trans h) hargs hresolver
    have hnoted : .resolve (.mutationNotAllowed (kind.fieldName c.name)) ∈
        (call.answer env).2.errors := by
      rw [hanswer]
      exact List.mem_append_right _ (List.mem_singleton_self _)
    obtain ⟨hstore, data, errors, hresponse, hmem⟩ := Request.mem_errors_of_calls h hcall hnoted rfl
    exact ⟨hstore, by rw [hanswer], by rw [hanswer]; rfl, data, errors, congrArg _ hresponse, hmem⟩

end Service

namespace Sample

/-- Whether a user is asked for without permission and the request comes to the mutation. -/
def reachesCreation (schema : Schema) : Bool :=
  match Language.prepare schema (creation false).text [] none with
  | some ⟨operation, [.field none name arguments [] _]⟩ =>
    match (Language.rootName schema operation.kind).bind schema.object? with
    | some type =>
      match type.field? name with
      | some ⟨_, _, _, _, .mutation .create c _⟩ =>
        c.name = "User" && name ≠ Language.typenameField &&
          (((creation false).environment schema (project 1) operation).arguments
            arguments).toOption.isSome
      | _ => false
    | none => false
  | _ => false

theorem reachesCreation_project :
    ((CompiledSchema.ofProject (project 1)).toOption.any
      fun compiled => reachesCreation compiled.schema) = true := by
  unfold CompiledSchema.ofProject CompiledSchema.assemble Schema.assemble
  simp only [Schema.sortByName_eq_insertionSort]
  decide +kernel

theorem calls_creation {schema : Schema} (h : reachesCreation schema = true) :
    ∃ env call c version, (creation false).Calls schema (project 1) empty env call ∧
      call.field.resolver = .mutation .create c version ∧ c.name = "User" := by
  unfold reachesCreation at h
  split at h
  · rename_i operation name arguments choices hprepare
    split at h
    · rename_i type htype
      split at h
      · rename_i fieldName fieldType description parameters c version hf
        obtain ⟨root, hroot, hobject⟩ := Option.bind_eq_some_iff.mp htype
        obtain ⟨hboth, hargs⟩ := Bool.and_eq_true_iff.mp h
        obtain ⟨hclass, hname⟩ := Bool.and_eq_true_iff.mp hboth
        cases hvalues :
          ((creation false).environment schema (project 1) operation).arguments arguments with
        | error e =>
          rw [hvalues] at hargs
          cases hargs
        | ok args =>
          have hcall :
              Execution.Calls ((creation false).environment schema (project 1) operation)
                root type .root [.field none name arguments [] choices] ⟨empty, []⟩ _ :=
            .here rfl (of_decide_eq_true hname) hf hvalues
          exact ⟨_, _, c, version, ⟨⟨operation, _⟩, root, type, hprepare, hroot, hobject, rfl,
            hcall⟩, rfl, of_decide_eq_true hclass⟩
      · cases h
    · cases h
  · cases h

end Sample

/-- A user is asked for without permission. -/
theorem Service.execute_without_permission_creation :
    (Sample.creation false).allowMutation = false ∧
    ((Service.start false).execute (Sample.project 1) Sample.empty (Sample.creation false)).2.2 =
      Sample.empty ∧
    ∃ env call c version data errors, call.field.resolver = .mutation .create c version ∧
      (Execution.Call.answer env call).1 = [] ∧
      ((Service.start false).execute (Sample.project 1) Sample.empty (Sample.creation false)).1 =
        .ok (.answered data errors) ∧
      "Usage of \"createUser\" mutation is not allowed" ∈ errors := by
  obtain ⟨hstore, hrefused⟩ :=
    Service.execute_without_permission (.start false) (Sample.project 1) Sample.empty
      (Sample.creation false) rfl
  refine ⟨rfl, hstore, ?_⟩
  have hschema := Sample.reachesCreation_project
  cases hcompiled : CompiledSchema.ofProject (Sample.project 1) with
  | error e =>
    rw [hcompiled] at hschema
    cases hschema
  | ok compiled =>
    rw [hcompiled] at hschema
    have hbuild : ((Service.start false).schemaFor (Sample.project 1)).1 = .ok ⟨1, compiled⟩ := by
      show (SchemaCache.empty.buildOnce fun _ => CompiledSchema.ofProject (Sample.project 1)).1 = _
      rw [SchemaCache.buildOnce, hcompiled]
      rfl
    obtain ⟨env, call, c, version, hcall, hresolver, hname⟩ := Sample.calls_creation hschema
    obtain ⟨-, hnothing, -, data, errors, hresponse, hmem⟩ :=
      hrefused _ hbuild env call hcall .create c version hresolver
    rw [hname] at hmem
    exact ⟨env, call, c, version, data, errors, hresolver, hnothing, hresponse, hmem⟩

end ClassApi
