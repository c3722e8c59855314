import StorageBackends.Proofs.Lifecycle.Call

namespace StorageBackends

/-!
# What the messages of outages decide

An operation that is out of order ends the program that meets it with the
message of the outage, and nothing else depends on messages: over collaborators
that have the same operations out of order with other messages, a program
meets the same operation or none, has the same result but for that message,
and leaves the same behind.
-/

namespace Collaborators

/-- Collaborators that differ in the messages of their outages only. -/
structure SameButMessages (before other : Collaborators) : Prop where
  engine : before.engine = other.engine
  secrets : before.secrets = other.secrets
  unhealthy : before.unhealthy = other.unhealthy
  operations :
    before.outages.map Prod.fst = other.outages.map Prod.fst

/--
How a call compares with the same call over such collaborators, given the
messages of its operation in both.
-/
inductive CallCompares
    {α : Type} :
    Option String → Option String →
    Except Failure α × Collaborators →
    Except Failure α × Collaborators → Prop where
  | inOrder
      (result : Except Failure α)
      {after other : Collaborators}
      (same : after.SameButMessages other) :
      CallCompares none none (result, after) (result, other)
  | outOfOrder
      (message otherMessage : String)
      {after other : Collaborators}
      (same : after.SameButMessages other) :
      CallCompares (some message) (some otherMessage)
        (.error (.collaborator message), after)
        (.error (.collaborator otherMessage), other)

namespace SameButMessages

variable {before other : Collaborators}

theorem refl (before : Collaborators) : before.SameButMessages before :=
  ⟨rfl, rfl, rfl, rfl⟩

/-- Whatever was out of order, new outages take its place. -/
theorem rearmed
    (same : before.SameButMessages other)
    {outages otherOutages : List (Operation × String)}
    (operations : outages.map Prod.fst = otherOutages.map Prod.fst) :
    SameButMessages { before with outages := outages }
      { other with outages := otherOutages } :=
  ⟨same.engine, same.secrets, same.unhealthy, operations⟩

/-- An operation is in order in both, or has a message in both. -/
theorem lookup
    (same : before.SameButMessages other)
    (operation : Operation) :
    (before.outages.lookup operation = none ∧
        other.outages.lookup operation = none) ∨
      ∃ message otherMessage,
        before.outages.lookup operation = some message ∧
          other.outages.lookup operation = some otherMessage := by
  have operations := same.operations
  generalize before.outages = outages at operations ⊢
  generalize other.outages = otherOutages at operations ⊢
  induction outages generalizing otherOutages with
  | nil =>
      cases otherOutages with
      | nil => exact .inl ⟨rfl, rfl⟩
      | cons outage rest => cases operations
  | cons outage rest inductionHypothesis =>
      cases otherOutages with
      | nil => cases operations
      | cons otherOutage others =>
          obtain ⟨sameOperation, sameRest⟩ := List.cons.inj operations
          cases here : operation == outage.1 with
          | true =>
              refine .inr ⟨outage.2, otherOutage.2, ?_, ?_⟩
              · rw [List.lookup_cons, here]
              · rw [List.lookup_cons, ← sameOperation, here]
          | false =>
              rw [List.lookup_cons, List.lookup_cons, ← sameOperation, here]
              exact inductionHypothesis others sameRest

/-- A call of the engine fails in both runs or comes to the same in both. -/
theorem callEngine
    (same : before.SameButMessages other)
    (operation : Operation)
    (call : Engine → Except Failure Unit × Engine) :
    CallCompares (before.outages.lookup operation)
      (other.outages.lookup operation)
      (before.callEngine operation call)
      (other.callEngine operation call) := by
  unfold Collaborators.callEngine outage?
  rcases same.lookup operation with
    ⟨found, otherFound⟩ | ⟨message, otherMessage, found, otherFound⟩
  · rw [found, otherFound, same.engine]
    exact .inOrder _ ⟨rfl, same.secrets, same.unhealthy, same.operations⟩
  · rw [found, otherFound]
    exact .outOfOrder message otherMessage same

/-- A secret is put in both runs or in neither. -/
theorem putSecret
    (same : before.SameButMessages other)
    (name : String)
    (content : Record String) :
    CallCompares (before.outages.lookup .putSecret)
      (other.outages.lookup .putSecret)
      (before.putSecret name content) (other.putSecret name content) := by
  unfold Collaborators.putSecret outage?
  rcases same.lookup .putSecret with
    ⟨found, otherFound⟩ | ⟨message, otherMessage, found, otherFound⟩
  · rw [found, otherFound, same.secrets]
    exact .inOrder _ ⟨same.engine, rfl, same.unhealthy, same.operations⟩
  · rw [found, otherFound]
    exact .outOfOrder message otherMessage same

/-- A secret is removed in both runs or in neither. -/
theorem removeSecret
    (same : before.SameButMessages other)
    (name : String) :
    CallCompares (before.outages.lookup .removeSecret)
      (other.outages.lookup .removeSecret)
      (before.removeSecret name) (other.removeSecret name) := by
  unfold Collaborators.removeSecret outage?
  rcases same.lookup .removeSecret with
    ⟨found, otherFound⟩ | ⟨message, otherMessage, found, otherFound⟩
  · rw [found, otherFound, same.secrets]
    exact .inOrder _ ⟨same.engine, rfl, same.unhealthy, same.operations⟩
  · rw [found, otherFound]
    exact .outOfOrder message otherMessage same

/-- A check of the engine leaves the same behind, whatever it reports. -/
theorem healthy (same : before.SameButMessages other) :
    before.healthy.2.SameButMessages other.healthy.2 := by
  unfold Collaborators.healthy outage?
  rcases same.lookup .healthy with
    ⟨found, otherFound⟩ | ⟨message, otherMessage, found, otherFound⟩
  · rw [found, otherFound, same.engine, same.unhealthy]
    simp only [Option.map_none]
    split
    · exact same
    · exact ⟨rfl, same.secrets, rfl, same.operations⟩
  · rw [found, otherFound]
    exact same

end SameButMessages

end Collaborators

namespace Program

variable {α : Type}

/-- The outage that a call meets, or what follows the call meets. -/
def metAfter
    {β : Type}
    (operation : Operation)
    (next : β → Collaborators → Option (Operation × String))
    (message : Option String)
    (called : Except Failure β × Collaborators) :
    Option (Operation × String) :=
  match message, called with
  | some message, _ => some (operation, message)
  | none, (.ok value, after) => next value after
  | none, (.error _, _) => none

/-- The first operation out of order that a program meets, and its message. -/
def met? : Program α → Collaborators → Option (Operation × String)
  | finished _ _, _ => none
  | failed _, _ => none
  | registerPlan plan next, before =>
      metAfter .registerPlan (fun _ => next.met?)
        (before.outages.lookup .registerPlan)
        (before.registerPlan plan.name plan.toJson)
  | apply planName instanceName deployment next, before =>
      metAfter .apply (fun _ => next.met?) (before.outages.lookup .apply)
        (before.apply planName instanceName deployment.toJson)
  | destroy planName instanceName next, before =>
      metAfter .destroy (fun _ => next.met?) (before.outages.lookup .destroy)
        (before.destroy planName instanceName)
  | putSecret name content next, before =>
      metAfter .putSecret (fun reference => (next reference).met?)
        (before.outages.lookup .putSecret) (before.putSecret name content)
  | removeSecret name next, before =>
      metAfter .removeSecret (fun _ => next.met?)
        (before.outages.lookup .removeSecret) (before.removeSecret name)

/--
How an outcome compares with the one over collaborators that differ in
messages, given the outages that the program meets in both.
-/
inductive OutcomeCompares :
    Option (Operation × String) → Option (Operation × String) →
    Outcome α → Outcome α → Prop where
  | unmet
      (result : Except Failure α)
      (lines : List LogLine)
      {after other : Collaborators}
      (same : after.SameButMessages other) :
      OutcomeCompares none none ⟨result, lines, after⟩
        ⟨result, lines, other⟩
  | met
      (operation : Operation)
      (message otherMessage : String)
      {after other : Collaborators}
      (same : after.SameButMessages other) :
      OutcomeCompares (some (operation, message))
        (some (operation, otherMessage))
        ⟨.error (.collaborator message), [], after⟩
        ⟨.error (.collaborator otherMessage), [], other⟩

/-- What follows calls that compare compares too. -/
private theorem compares_after
    {β : Type}
    {operation : Operation}
    {next : β → Program α}
    (follows :
      ∀ value {after other : Collaborators},
        after.SameButMessages other →
        OutcomeCompares ((next value).met? after) ((next value).met? other)
          ((next value).run after) ((next value).run other))
    {message otherMessage : Option String}
    {called otherCalled : Except Failure β × Collaborators}
    (compares :
      Collaborators.CallCompares message otherMessage called otherCalled) :
    OutcomeCompares
      (metAfter operation (fun value => (next value).met?) message called)
      (metAfter operation (fun value => (next value).met?) otherMessage
        otherCalled)
      (outcomeAfter (fun value => (next value).run) called)
      (outcomeAfter (fun value => (next value).run) otherCalled) := by
  cases compares with
  | outOfOrder message otherMessage same =>
      exact .met operation message otherMessage same
  | inOrder result same =>
      cases result with
      | error failure => exact .unmet (.error failure) [] same
      | ok value => exact follows value same

/-- A program compares with itself over collaborators that differ in messages. -/
theorem run_compares
    (program : Program α)
    {before other : Collaborators}
    (same : before.SameButMessages other) :
    OutcomeCompares (program.met? before) (program.met? other)
      (program.run before) (program.run other) := by
  induction program generalizing before other with
  | finished value line => exact .unmet (.ok value) [line] same
  | failed failure => exact .unmet (.error failure) [] same
  | registerPlan plan next inductionHypothesis =>
      exact compares_after (fun _ _ _ => inductionHypothesis)
        (same.callEngine _ _)
  | apply planName instanceName deployment next inductionHypothesis =>
      exact compares_after (fun _ _ _ => inductionHypothesis)
        (same.callEngine _ _)
  | destroy planName instanceName next inductionHypothesis =>
      exact compares_after (fun _ _ _ => inductionHypothesis)
        (same.callEngine _ _)
  | putSecret name content next inductionHypothesis =>
      exact compares_after (fun reference _ _ => inductionHypothesis reference)
        (same.putSecret name content)
  | removeSecret name next inductionHypothesis =>
      exact compares_after (fun _ _ _ => inductionHypothesis)
        (same.removeSecret name)

end Program

end StorageBackends
