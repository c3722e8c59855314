import StorageBackends.Proofs.Lifecycle.Run

namespace StorageBackends

/-!
# Interleaved calls

Several calls are under way at once, and a schedule says whose turn the next
collaborator call is. Whatever the schedule, all applied variables come from
some addition, and their reference is the one that storing its secret
returned. That reference leads to the content of the configuration as long as
nobody writes or removes the secret of that name again, and to nothing from
then on.
-/

/-- Calls under way, each as the program still to be run. -/
structure Pool where
  programs : List (Program (Option DeploymentVariables))
  collaborators : Collaborators

/-- All variables recorded afterwards were recorded before. -/
def Collaborators.RecordsNoMore (before after : Collaborators) : Prop :=
  ∀ planName instanceName found,
    after.engine.recorded? planName instanceName = some found →
    before.engine.recorded? planName instanceName = some found

namespace Program

variable {α : Type}

/-- The name of the secret that the next call writes or removes. -/
def secretCall? : Program α → Option String
  | putSecret name _ _ => some name
  | removeSecret name _ => some name
  | _ => none

/-- No call of a program applies anything. -/
def AppliesNothing : Program α → Prop
  | finished _ _ => True
  | failed _ => True
  | registerPlan _ next => next.AppliesNothing
  | apply _ _ _ _ => False
  | destroy _ _ next => next.AppliesNothing
  | putSecret _ _ next => ∀ reference, (next reference).AppliesNothing
  | removeSecret _ next => next.AppliesNothing

theorem step_secrets
    (program : Program α)
    {before : Collaborators}
    (inOrder : before.outages = []) :
    (program.secretCall? = none ∧
        (program.step before).2.secrets = before.secrets) ∨
      (∃ name content,
        program.secretCall? = some name ∧
        (program.step before).2.secrets =
          (before.secrets.put name content).2) ∨
      ∃ name,
        program.secretCall? = some name ∧
        (program.step before).2.secrets = before.secrets.remove name := by
  have available : ∀ operation, before.outage? operation = none := by
    intro operation
    simp [Collaborators.outage?, inOrder]
  have engineCall : ∀ operation call,
      (before.callEngine operation call).2.secrets = before.secrets :=
    fun operation call =>
      Collaborators.callEngine_keeps
        (fun after => after.secrets = before.secrets) rfl rfl
  cases program with
  | finished value line => exact .inl ⟨rfl, rfl⟩
  | failed failure => exact .inl ⟨rfl, rfl⟩
  | registerPlan plan next =>
      rw [step, continueWith_snd]
      exact .inl ⟨rfl, engineCall _ _⟩
  | apply planName instanceName deployment next =>
      rw [step, continueWith_snd]
      exact .inl ⟨rfl, engineCall _ _⟩
  | destroy planName instanceName next =>
      rw [step, continueWith_snd]
      exact .inl ⟨rfl, engineCall _ _⟩
  | putSecret name content next =>
      rw [step, continueWith_snd]
      refine .inr (.inl ⟨name, content, rfl, ?_⟩)
      simp [Collaborators.putSecret, available]
  | removeSecret name next =>
      rw [step, continueWith_snd]
      refine .inr (.inr ⟨name, rfl, ?_⟩)
      simp [Collaborators.removeSecret, available]

/-- A step of a program that applies nothing records nothing new. -/
theorem AppliesNothing.step
    {program : Program α}
    (nothing : program.AppliesNothing)
    (before : Collaborators) :
    (program.step before).1.AppliesNothing ∧
      before.RecordsNoMore (program.step before).2 := by
  have keeps : ∀ {β : Type} {next : β → Program α},
      (∀ value, (next value).AppliesNothing) →
        ∀ called, (continueWith next called).1.AppliesNothing :=
    fun kept => continueWith_keeps AppliesNothing (fun _ => True.intro) kept
  have same : before.RecordsNoMore before := fun _ _ _ left => left
  cases program with
  | finished value line => exact ⟨True.intro, same⟩
  | failed failure => exact ⟨True.intro, same⟩
  | registerPlan plan next =>
      have rest : next.AppliesNothing := nothing
      refine ⟨keeps (fun _ => rest) _, ?_⟩
      rw [Program.step, continueWith_snd]
      refine Collaborators.callEngine_keeps before.RecordsNoMore same ?_
      intro planName instanceName found left
      exact (Engine.recorded?_registerPlan _ _ _ _ _).symm.trans left
  | apply planName instanceName deployment next => cases nothing
  | destroy planName instanceName next =>
      have rest : next.AppliesNothing := nothing
      refine ⟨keeps (fun _ => rest) _, ?_⟩
      rw [Program.step, continueWith_snd]
      exact Collaborators.callEngine_keeps before.RecordsNoMore same
        (fun _ _ _ => Engine.recorded?_destroy_eq_some)
  | putSecret name content next =>
      refine ⟨keeps nothing _, ?_⟩
      rw [Program.step, continueWith_snd]
      exact Collaborators.putSecret_keeps before.RecordsNoMore same same
  | removeSecret name next =>
      have rest : next.AppliesNothing := nothing
      refine ⟨keeps (fun _ => rest) _, ?_⟩
      rw [Program.step, continueWith_snd]
      exact Collaborators.removeSecret_keeps before.RecordsNoMore same same

end Program

namespace Pool

/-- The pool of some calls that have yet to begin. -/
def ofCalls (calls : List Call) (collaborators : Collaborators) : Pool where
  programs := calls.map Call.program
  collaborators := collaborators

/-- Make the next collaborator call of the call with some number. -/
def step (pool : Pool) (number : Nat) : Pool :=
  match pool.programs[number]? with
  | none => pool
  | some program =>
      { programs :=
          pool.programs.set number (program.step pool.collaborators).1
        collaborators := (program.step pool.collaborators).2 }

/-- Make the collaborator calls of a schedule. -/
def run (pool : Pool) : List Nat → Pool
  | [] => pool
  | number :: rest => (pool.step number).run rest

/-- Whether a schedule writes or removes the secret of a name. -/
def rewrites (name : String) (pool : Pool) : List Nat → Bool
  | [] => false
  | number :: rest =>
      pool.programs[number]?.bind Program.secretCall? == some name ||
        rewrites name (pool.step number) rest

/-- The call of some number is next to store a secret, and gets a reference. -/
def Issues
    (pool : Pool)
    (number : Nat)
    (name : String)
    (content : Record String)
    (reference : String) : Prop :=
  ∃ next,
    pool.programs[number]? = some (.putSecret name content next) ∧
    pool.collaborators.putSecret name content =
      (.ok reference, (pool.step number).collaborators)

theorem run_append (pool : Pool) (earlier later : List Nat) :
    pool.run (earlier ++ later) = (pool.run earlier).run later := by
  induction earlier generalizing pool with
  | nil => rfl
  | cons number rest inductionHypothesis =>
      exact inductionHypothesis (pool.step number)

theorem step_of_none
    {pool : Pool}
    {number : Nat}
    (absent : pool.programs[number]? = none) :
    pool.step number = pool := by
  unfold step
  rw [absent]

theorem step_of_some
    {pool : Pool}
    {number : Nat}
    {program : Program (Option DeploymentVariables)}
    (found : pool.programs[number]? = some program) :
    pool.step number =
      { programs :=
          pool.programs.set number (program.step pool.collaborators).1
        collaborators := (program.step pool.collaborators).2 } := by
  unfold step
  rw [found]

/-- What every operation preserves, a step of a pool preserves. -/
theorem step_invariant
    {holds : Collaborators → Prop}
    (invariant : Collaborators.Invariant (fun _ => True) holds)
    {pool : Pool}
    (start : holds pool.collaborators)
    (number : Nat) :
    holds (pool.step number).collaborators := by
  cases found : pool.programs[number]? with
  | none =>
      rw [step_of_none found]
      exact start
  | some program =>
      rw [step_of_some found]
      exact (Program.step_invariant invariant program.within_true start).2

/-- Every schedule keeps what all operations keep. -/
theorem run_invariant
    {holds : Collaborators → Prop}
    (invariant : Collaborators.Invariant (fun _ => True) holds)
    {pool : Pool}
    (start : holds pool.collaborators)
    (schedule : List Nat) :
    holds (pool.run schedule).collaborators := by
  induction schedule generalizing pool with
  | nil => exact start
  | cons number rest inductionHypothesis =>
      exact inductionHypothesis (step_invariant invariant start number)

theorem step_secrets
    {pool : Pool}
    (inOrder : pool.collaborators.outages = [])
    (number : Nat) :
    let called := pool.programs[number]?.bind Program.secretCall?
    let before := pool.collaborators.secrets
    let after := (pool.step number).collaborators.secrets
    called = none ∧ after = before ∨
      (∃ name content,
        called = some name ∧ after = (before.put name content).2) ∨
      ∃ name, called = some name ∧ after = before.remove name := by
  cases found : pool.programs[number]? with
  | none =>
      rw [step_of_none found]
      exact .inl ⟨rfl, rfl⟩
  | some program =>
      rw [step_of_some found]
      exact program.step_secrets inOrder

/-- A stored secret is found under its reference until it is rewritten. -/
theorem resolve?_run
    {pool : Pool}
    (sound : pool.collaborators.secrets.Sound)
    (inOrder : pool.collaborators.outages = [])
    {name reference : String}
    {content : Record String}
    (held :
      pool.collaborators.secrets.secret? name = some ⟨reference, content⟩)
    (schedule : List Nat) :
    (pool.run schedule).collaborators.secrets.resolve? reference =
      if pool.rewrites name schedule then none else some content := by
  induction schedule generalizing pool with
  | nil => exact sound.resolve?_eq_some_iff.2 ⟨name, held⟩
  | cons number rest inductionHypothesis =>
      have soundAfter :=
        step_invariant Collaborators.Invariant.sound sound number
      have inOrderAfter :=
        step_invariant (Collaborators.Invariant.outages []) inOrder number
      have resolvedLater :
          (pool.step number).collaborators.secrets.secret? name =
              some ⟨reference, content⟩ →
            pool.programs[number]?.bind Program.secretCall? ≠ some name →
            (pool.run (number :: rest)).collaborators.secrets.resolve?
                reference =
              if pool.rewrites name (number :: rest) then none
              else some content := by
        intro stillHeld elsewhere
        simp only [run, rewrites,
          inductionHypothesis soundAfter inOrderAfter stillHeld,
          beq_eq_false_iff_ne.2 elsewhere, Bool.false_or]
      have lostLater :
          (pool.step number).collaborators.secrets.Lost reference →
            pool.programs[number]?.bind Program.secretCall? = some name →
            (pool.run (number :: rest)).collaborators.secrets.resolve?
                reference =
              if pool.rewrites name (number :: rest) then none
              else some content := by
        intro lost rewritten
        have stillLost :=
          run_invariant
            (Collaborators.Invariant.ofSecrets SecretStore.Lost.put
              SecretStore.Lost.remove)
            lost rest
        simp only [run, rewrites, rewritten, beq_self_eq_true, Bool.true_or,
          if_true]
        exact stillLost.unresolved
      rcases step_secrets inOrder number with
        ⟨called, same⟩ | ⟨other, written, called, same⟩ | ⟨other, called, same⟩
      · exact resolvedLater (same ▸ held) (by simp [called])
      · by_cases own : other = name
        · subst own
          exact lostLater (same ▸ sound.lost_of_put held written) called
        · refine resolvedLater ?_ (by simp [called, own])
          rw [same, SecretStore.secret?_put, if_neg (Ne.symm own)]
          exact held
      · by_cases own : other = name
        · subst own
          exact lostLater (same ▸ sound.lost_of_remove held) called
        · refine resolvedLater ?_ (by simp [called, own])
          rw [same, SecretStore.secret?_remove, if_neg (Ne.symm own)]
          exact held

/-- What was stored under a reference is found under it until rewritten. -/
theorem Issues.resolve?_run
    {pool : Pool}
    {number : Nat}
    {name reference : String}
    {content : Record String}
    (issues : pool.Issues number name content reference)
    (sound : pool.collaborators.secrets.Sound)
    (inOrder : pool.collaborators.outages = [])
    (later : List Nat) :
    ((pool.step number).run later).collaborators.secrets.resolve?
        reference =
      if (pool.step number).rewrites name later then none
      else some content := by
  obtain ⟨next, found, put⟩ := issues
  refine Pool.resolve?_run
    (step_invariant Collaborators.Invariant.sound sound number)
    (step_invariant (Collaborators.Invariant.outages []) inOrder number)
    ?_ later
  have available : pool.collaborators.outage? .putSecret = none := by
    simp [Collaborators.outage?, inOrder]
  simp only [Collaborators.putSecret, available] at put
  obtain ⟨issued, stored⟩ := Prod.mk.inj put
  rw [← stored, ← Except.ok.inj issued]
  exact (SecretStore.secret?_put _ _ _ _).trans (if_pos rfl)

end Pool

/--
An addition among some calls that has made sure of its secret at some point of
a schedule: none is set, or it was stored and a reference returned.
-/
structure StoredAddition
    (calls : List Call)
    (start : Collaborators)
    (schedule : List Nat) where
  number : Nat
  backend : Backend
  spaces : NetworkSpaces
  instanceName : String
  handed : HandedConfig
  config : ValidatedConfig
  secretRef : Option String
  called : calls[number]? = some (.add backend spaces instanceName handed)
  own : backend.ownConfig handed = .ok config
  secretless :
    secretRef = none → (backend.secretsOf config).isEmpty = true
  issued :
    ∀ {reference},
      secretRef = some reference →
      ∃ earlier later,
        schedule = earlier ++ number :: later ∧
        ((Pool.ofCalls calls start).run earlier).Issues number
          (backend.secretName instanceName) (backend.secretsOf config)
          reference

namespace StoredAddition

variable
  {calls : List Call}
  {start : Collaborators}
  {schedule : List Nat}

/-- The variables that the addition is about to apply. -/
def deployment (addition : StoredAddition calls start schedule) :
    DeploymentVariables :=
  addition.backend.variablesOf addition.config addition.instanceName
    addition.secretRef addition.spaces

/-- What is left of the program of the addition. -/
def program (addition : StoredAddition calls start schedule) :
    Program (Option DeploymentVariables) :=
  (addition.backend.applyConfig addition.config addition.instanceName
    addition.secretRef addition.spaces).map some

/-- What was stored stays stored when the schedule goes on. -/
def extend
    (addition : StoredAddition calls start schedule)
    (next : Nat) :
    StoredAddition calls start (schedule ++ [next]) where
  number := addition.number
  backend := addition.backend
  spaces := addition.spaces
  instanceName := addition.instanceName
  handed := addition.handed
  config := addition.config
  secretRef := addition.secretRef
  called := addition.called
  own := addition.own
  secretless := addition.secretless
  issued := by
    intro reference isReference
    obtain ⟨earlier, later, split, issues⟩ := addition.issued isReference
    exact ⟨earlier, later ++ [next], by simp [split], issues⟩

end StoredAddition

namespace Pool

variable
  {calls : List Call}
  {start : Collaborators}
  {schedule : List Nat}

/-- How far the call of some number has come at some point of a schedule. -/
inductive Stage
    (calls : List Call)
    (start : Collaborators)
    (schedule : List Nat)
    (number : Nat) :
    Program (Option DeploymentVariables) → Prop where
  /-- An addition that is next to store its secret. -/
  | storing
      (backend : Backend)
      (spaces : NetworkSpaces)
      (instanceName : String)
      (handed : HandedConfig)
      (config : ValidatedConfig)
      (called :
        calls[number]? = some (.add backend spaces instanceName handed))
      (own : backend.ownConfig handed = .ok config) :
      Stage calls start schedule number
        (.putSecret (backend.secretName instanceName)
          (backend.secretsOf config) fun reference =>
            (backend.applyConfig config instanceName (some reference)
              spaces).map some)
  /-- An addition that is next to apply its variables. -/
  | applying (addition : StoredAddition calls start schedule) :
      Stage calls start schedule number addition.program
  /-- A call that applies nothing any more. -/
  | idle
      (program : Program (Option DeploymentVariables))
      (nothing : program.AppliesNothing) :
      Stage calls start schedule number program

/-- Where programs stand and where applied variables come from. -/
structure Provenance
    (calls : List Call)
    (start : Collaborators)
    (schedule : List Nat)
    (pool : Pool) : Prop where
  stages :
    ∀ {number program},
      pool.programs[number]? = some program →
      Stage calls start schedule number program
  applied :
    ∀ {planName instanceName found},
      pool.collaborators.engine.recorded? planName instanceName =
        some found →
      ∃ addition : StoredAddition calls start schedule,
        MemoryEngine.jointKey planName instanceName =
          MemoryEngine.jointKey addition.backend.planName
            addition.instanceName ∧
        found = addition.deployment.toJson

/-- At the start every call is at the stage of its whole program. -/
theorem stage_program
    {number : Nat}
    {call : Call}
    (called : calls[number]? = some call) :
    Stage calls start schedule number call.program := by
  cases call with
  | register backend => exact .idle _ True.intro
  | remove backend instanceName =>
      cases valid : isInstanceName instanceName with
      | false =>
          obtain ⟨failure, refusal⟩ :=
            Backend.removeInstance_eq_failed backend valid
          rw [Call.program, refusal]
          exact .idle _ True.intro
      | true =>
          rw [Call.program, Backend.removeInstance_eq valid]
          exact .idle _ True.intro
  | add backend spaces instanceName handed =>
      cases valid : isInstanceName instanceName with
      | false =>
          obtain ⟨failure, refusal⟩ :=
            Backend.addInstance_eq_failed (.inl valid) spaces
          rw [Call.program, refusal]
          exact .idle _ True.intro
      | true =>
          cases own : backend.ownConfig handed with
          | error error =>
              obtain ⟨failure, refusal⟩ :=
                Backend.addInstance_eq_failed (.inr ⟨error, own⟩) spaces
              rw [Call.program, refusal]
              exact .idle _ True.intro
          | ok config =>
              rw [Call.program, Backend.addInstance_eq valid own]
              split
              · rename_i noSecret
                exact .applying
                  { number := number
                    backend := backend
                    spaces := spaces
                    instanceName := instanceName
                    handed := handed
                    config := config
                    secretRef := none
                    called := called
                    own := own
                    secretless := fun _ => noSecret
                    issued := by
                      intro reference impossible
                      cases impossible }
              · exact .storing backend spaces instanceName handed config
                  called own

/-- A call is where it was as long as it is not its turn. -/
theorem Stage.extend
    {number : Nat}
    {program : Program (Option DeploymentVariables)}
    (stage : Stage calls start schedule number program)
    (next : Nat) :
    Stage calls start (schedule ++ [next]) number program := by
  cases stage with
  | storing backend spaces instanceName handed config called own =>
      exact .storing backend spaces instanceName handed config called own
  | applying addition => exact .applying (addition.extend next)
  | idle program nothing => exact .idle program nothing

/-- A call whose turn it is comes to the next stage. -/
theorem Stage.step
    {number : Nat}
    {program : Program (Option DeploymentVariables)}
    (stage : Stage calls start schedule number program)
    (found :
      ((ofCalls calls start).run schedule).programs[number]? =
        some program) :
    Stage calls start (schedule ++ [number]) number
      (program.step ((ofCalls calls start).run schedule).collaborators).1 := by
  have steps := step_of_some found
  generalize reached : (ofCalls calls start).run schedule = pool
    at found steps ⊢
  cases stage with
  | storing backend spaces instanceName handed config called own =>
      rcases put :
          pool.collaborators.putSecret (backend.secretName instanceName)
            (backend.secretsOf config) with
        ⟨failure | reference, after⟩
      · rw [Program.step, put]
        exact .idle _ True.intro
      · have issues :
            pool.Issues number (backend.secretName instanceName)
              (backend.secretsOf config) reference := by
          refine ⟨_, found, ?_⟩
          rw [steps, Program.step, Program.continueWith_snd, put]
        rw [Program.step, put]
        exact .applying
          { number := number
            backend := backend
            spaces := spaces
            instanceName := instanceName
            handed := handed
            config := config
            secretRef := some reference
            called := called
            own := own
            secretless := by
              intro impossible
              cases impossible
            issued := by
              rintro issued ⟨rfl⟩
              exact ⟨schedule, [], rfl, reached ▸ issues⟩ }
  | applying addition =>
      refine Program.continueWith_keeps
        (Stage calls start (schedule ++ [number]) number)
        (fun _ => .idle _ True.intro) ?_ _
      intro done
      exact .idle _ True.intro
  | idle program nothing =>
      exact .idle _ (nothing.step pool.collaborators).1

/-- What a step records are the variables of an addition. -/
theorem Stage.recorded
    {number : Nat}
    {program : Program (Option DeploymentVariables)}
    (stage : Stage calls start schedule number program)
    {before : Collaborators}
    {planName instanceName : String}
    {found : Json}
    (left :
      (program.step before).2.engine.recorded? planName instanceName =
        some found) :
    before.engine.recorded? planName instanceName = some found ∨
      ∃ addition : StoredAddition calls start schedule,
        MemoryEngine.jointKey planName instanceName =
          MemoryEngine.jointKey addition.backend.planName
            addition.instanceName ∧
        found = addition.deployment.toJson := by
  cases stage with
  | storing backend spaces name handed config called own =>
      rw [Program.step, Program.continueWith_snd] at left
      have noMore :
          before.RecordsNoMore
            (before.putSecret (backend.secretName name)
              (backend.secretsOf config)).2 :=
        Collaborators.putSecret_keeps before.RecordsNoMore
          (fun _ _ _ same => same) (fun _ _ _ same => same)
      exact .inl (noMore _ _ _ left)
  | idle program nothing =>
      exact .inl ((nothing.step before).2 _ _ _ left)
  | applying addition =>
      have stepped :
          (addition.program.step before).2 =
            (before.apply addition.backend.planName addition.instanceName
              addition.deployment.toJson).2 :=
        Program.continueWith_snd _ _
      rw [stepped] at left
      revert left
      refine Collaborators.callEngine_keeps
        (fun after =>
          after.engine.recorded? planName instanceName = some found → _)
        .inl ?_
      intro left
      rcases Engine.recorded?_apply_eq_some left with old | ⟨key, same⟩
      · exact .inl old
      · exact .inr ⟨addition, key, same⟩

/-- The step of any call keeps track of where things come from. -/
theorem Provenance.step
    (provenance :
      Provenance calls start schedule ((ofCalls calls start).run schedule))
    (number : Nat) :
    Provenance calls start (schedule ++ [number])
      ((ofCalls calls start).run (schedule ++ [number])) := by
  rw [run_append]
  have extended :
      Provenance calls start (schedule ++ [number])
        ((ofCalls calls start).run schedule) := by
    refine ⟨fun found => (provenance.stages found).extend number, ?_⟩
    intro planName instanceName found recorded
    obtain ⟨addition, key, same⟩ := provenance.applied recorded
    exact ⟨addition.extend number, key, same⟩
  cases found :
      ((ofCalls calls start).run schedule).programs[number]? with
  | none =>
      have idle :
          ((ofCalls calls start).run schedule).run [number] =
            (ofCalls calls start).run schedule :=
        step_of_none found
      rw [idle]
      exact extended
  | some program =>
      have stage := provenance.stages found
      have stepped :
          ((ofCalls calls start).run schedule).run [number] = _ :=
        step_of_some found
      rw [stepped]
      constructor
      case stages =>
        intro other otherProgram otherFound
        rw [List.getElem?_set] at otherFound
        split at otherFound
        · rename_i own
          subst own
          split at otherFound
          · cases otherFound
            exact stage.step found
          · cases otherFound
        · exact extended.stages otherFound
      case applied =>
        intro planName instanceName json recorded
        rcases stage.recorded recorded with old | ⟨addition, key, same⟩
        · exact extended.applied old
        · exact ⟨addition.extend number, key, same⟩

/-- Every schedule keeps track of where things come from. -/
theorem provenance_run
    (calls : List Call)
    (start : Collaborators)
    (fresh :
      ∀ planName instanceName,
        start.engine.recorded? planName instanceName = none)
    (schedule : List Nat) :
    Provenance calls start schedule
      ((ofCalls calls start).run schedule) := by
  have resumed : ∀ later earlier,
      Provenance calls start earlier ((ofCalls calls start).run earlier) →
        Provenance calls start (earlier ++ later)
          ((ofCalls calls start).run (earlier ++ later)) := by
    intro later
    induction later with
    | nil =>
        intro earlier provenance
        rw [List.append_nil]
        exact provenance
    | cons number rest inductionHypothesis =>
        intro earlier provenance
        have next := inductionHypothesis _ (provenance.step number)
        rwa [List.append_assoc] at next
  refine resumed schedule [] ⟨?_, ?_⟩
  · intro number program found
    simp only [run, ofCalls, List.getElem?_map] at found
    obtain ⟨call, called, rfl⟩ := Option.map_eq_some_iff.1 found
    exact stage_program called
  · intro planName instanceName found recorded
    rw [run, ofCalls, fresh] at recorded
    cases recorded

/--
Where applied variables come from under any schedule, and where their
reference leads.

They are the variables of an addition among the calls, and their reference was
returned when that addition stored its secret. The reference leads to the
content of the configuration exactly if no later step of the schedule writes
or removes the secret of that name, and else to nothing.
-/
theorem run_applied
    (supply : ReferenceSupply)
    (plans : Record Json)
    (calls : List Call)
    (schedule : List Nat)
    {planName instanceName : String}
    {found : Json} :
    let start := .ofEngine supply (.memory { plans := plans, applied := [] })
    let pool := ofCalls calls start
    let final := (pool.run schedule).collaborators
    final.engine.recorded? planName instanceName = some found →
    ∃ addition : StoredAddition calls start schedule,
      MemoryEngine.jointKey planName instanceName =
        MemoryEngine.jointKey addition.backend.planName
          addition.instanceName ∧
      found = addition.deployment.toJson ∧
      ∀ reference,
        addition.deployment.secretRef = some reference →
        ∃ content earlier later,
          addition.backend.secretContent addition.handed = .ok content ∧
          schedule = earlier ++ addition.number :: later ∧
          (pool.run earlier).Issues addition.number
            (addition.backend.secretName addition.instanceName) content
            reference ∧
          final.secrets.resolve? reference =
            if (pool.run (earlier ++ [addition.number])).rewrites
                (addition.backend.secretName addition.instanceName) later then
              none
            else
              some content := by
  intro start pool final recorded
  have provenance :=
    provenance_run calls start (fun _ _ => rfl) schedule
  obtain ⟨addition, key, same⟩ := provenance.applied recorded
  refine ⟨addition, key, same, ?_⟩
  intro reference hasReference
  have isReference : addition.secretRef = some reference := by
    simp only [StoredAddition.deployment, Backend.variablesOf] at hasReference
    split at hasReference
    · cases hasReference
    · exact hasReference
  obtain ⟨earlier, later, split, issues⟩ := addition.issued isReference
  refine ⟨_, earlier, later, Backend.secretContent_eq_ok addition.own, split,
    issues, ?_⟩
  have sound : (pool.run earlier).collaborators.secrets.Sound :=
    run_invariant Collaborators.Invariant.sound
      (SecretStore.sound_empty supply) _
  have inOrder : (pool.run earlier).collaborators.outages = [] :=
    run_invariant (Collaborators.Invariant.outages []) rfl _
  have resumed :
      pool.run schedule =
        ((pool.run earlier).step addition.number).run later :=
    (congrArg pool.run split).trans
      (run_append pool earlier (addition.number :: later))
  have stored :
      pool.run (earlier ++ [addition.number]) =
        (pool.run earlier).step addition.number :=
    run_append pool earlier [addition.number]
  simp only [final, resumed, stored]
  exact issues.resolve?_run sound inOrder later

/-- A removal and an addition of one PowerStore instance. -/
def crossingCalls : List Call :=
  [.remove Catalogue.dellPowerStore "ps",
    .add Catalogue.dellPowerStore .default "ps" (powerStoreConfig "secret")]

/-- The collaborators over which they cross: the plan is registered. -/
def crossingStart : Collaborators :=
  .ofEngine .numbered
    (.memory
      { plans :=
          [(Catalogue.dellPowerStore.planName,
            Catalogue.dellPowerStore.plan.toJson)]
        applied := [] })

/-- The whole addition takes place between the two steps of the removal. -/
def crossingSchedule : List Nat :=
  [0, 1, 1, 0]

/--
The crossing applies variables of the addition and loses their reference: the
last step of the removal comes after the secret was stored.
-/
theorem run_applied_crossing :
    let pool := ofCalls crossingCalls crossingStart
    let final := (pool.run crossingSchedule).collaborators
    ∃ addition : StoredAddition crossingCalls crossingStart crossingSchedule,
      ∃ found content earlier later,
        final.engine.recorded? "storage-backend-dellpowerstore" "ps" =
          some found ∧
        found = addition.deployment.toJson ∧
        addition.deployment.secretRef = some "secret:#1" ∧
        addition.backend.secretContent addition.handed = .ok content ∧
        crossingSchedule = earlier ++ addition.number :: later ∧
        (pool.run (earlier ++ [addition.number])).rewrites
          (addition.backend.secretName addition.instanceName) later = true ∧
        final.secrets.resolve? "secret:#1" = none := by
  intro pool final
  have recorded :
      final.engine.recorded? "storage-backend-dellpowerstore" "ps" =
        some _ := rfl
  have lost : final.secrets.resolve? "secret:#1" = none := by
    decide +kernel
  obtain ⟨addition, -, same, leads⟩ := run_applied _ _ _ _ recorded
  have shown (deployment : DeploymentVariables) :
      deployment.toJson.member? "secret_ref" =
        some (Json.ofText? deployment.secretRef) := rfl
  have written := congrArg (Json.member? "secret_ref") same
  rw [shown, shown] at written
  have referred : addition.deployment.secretRef = some "secret:#1" := by
    cases reference : addition.deployment.secretRef <;>
      rw [reference] at written <;> cases written
    decide +kernel
  obtain ⟨content, earlier, later, own, split, -, resolved⟩ :=
    leads _ referred
  refine ⟨addition, _, content, earlier, later, recorded, same, referred,
    own, split, ?_, lost⟩
  by_contra kept
  cases lost.symm.trans (resolved.trans (if_neg kept))

/-- After the crossing the applied reference leads nowhere. -/
theorem run_crossing_loses_secret :
    let pool := (ofCalls crossingCalls crossingStart).run crossingSchedule
    (∃ removed added : LogLine,
      ∃ deployment : DeploymentVariables,
        pool.programs =
          [.finished none removed, .finished (some deployment) added] ∧
        pool.collaborators.engine.recorded? "storage-backend-dellpowerstore"
            "ps" =
          some deployment.toJson ∧
        deployment.secretRef = some "secret:#1") ∧
      pool.collaborators.secrets.resolve? "secret:#1" = none := by
  refine ⟨⟨_, _, _, rfl, rfl, ?_⟩, ?_⟩
  · decide +kernel
  · decide +kernel

end Pool

end StorageBackends
