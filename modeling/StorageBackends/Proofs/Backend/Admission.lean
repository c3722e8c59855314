import Mathlib.Data.List.Induction
import Mathlib.Data.List.Nodup
import StorageBackends.Proofs.Backend.Description
import StorageBackends.Proofs.Names

namespace StorageBackends

/-!
# Admission to the registry

A registry holds the backends of the accepted calls in the order of the calls.
A call is accepted exactly if the descriptor is sound and no backend accepted
before holds the type or the name of the unit; otherwise it is refused for the
first of these reasons and leaves no trace. Every look-up by a type then finds
the one backend of that type, and the owner of a unit name is the one backend
of that name, whether backends are kept as one list or in two indices.
-/

namespace Registry

/-- A look-up by type finds the listed backend of that type. -/
theorem find?_eq_some_iff
    (registry : Registry)
    (backendType : String)
    (backend : Backend) :
    registry.find? backendType = some backend ↔
      backend ∈ registry.backends ∧ backend.backendType = backendType := by
  constructor
  · intro found
    exact ⟨List.mem_of_find?_eq_some found, by simpa using List.find?_some found⟩
  · rintro ⟨listed, rfl⟩
    exact registry.find?_backendType listed

/-- A type is not found if no backend has it. -/
theorem find?_eq_none_iff (registry : Registry) (backendType : String) :
    registry.find? backendType = none ↔
      ∀ backend ∈ registry.backends, backend.backendType ≠ backendType := by
  simp [find?, List.find?_eq_none]

/-- A unit has no owner if no backend has its name. -/
theorem owner?_eq_none_iff (registry : Registry) (unitName : String) :
    registry.owner? unitName = none ↔
      ∀ backend ∈ registry.backends, backend.unit.name ≠ unitName := by
  simp [owner?, List.find?_eq_none]

/-- The ways in which a registration can end. -/
inductive Registration (registry : Registry) (backend : Backend) :
    Except RegistrationError Registry → Prop where
  | undescribable
      (problem : DescriptorProblem)
      (checked : backend.descriptorProblem = some problem) :
      Registration registry backend
        (.error (.descriptor backend.backendType problem))
  | typeHeld
      (other : Backend)
      (checked : backend.descriptorProblem = none)
      (held : registry.find? backend.backendType = some other) :
      Registration registry backend
        (.error (.duplicateType backend.backendType))
  | unitHeld
      (owner : Backend)
      (checked : backend.descriptorProblem = none)
      (freshType : registry.find? backend.backendType = none)
      (held : registry.owner? backend.unit.name = some owner) :
      Registration registry backend
        (.error (.duplicateUnit backend.unit.name owner.backendType))
  | accepted
      (next : Registry)
      (checked : backend.descriptorProblem = none)
      (freshType : registry.find? backend.backendType = none)
      (freshUnit : registry.owner? backend.unit.name = none)
      (grown : next.backends = registry.backends ++ [backend]) :
      Registration registry backend (.ok next)

/-- A registration comes to one of the outcomes told. -/
theorem register_registration (registry : Registry) (backend : Backend) :
    registry.Registration backend (registry.register backend) := by
  unfold register
  split
  · rename_i problem checked
    exact .undescribable problem checked
  · rename_i checked
    split
    · rename_i other held
      exact .typeHeld other checked held
    · rename_i freshType
      split
      · rename_i owner held
        exact .unitHeld owner checked freshType held
      · rename_i freshUnit
        exact .accepted _ checked freshType freshUnit rfl

/-- What a backend needs to join the backends that are held. -/
structure Admissible (held : List Backend) (backend : Backend) : Prop where
  describable : backend.Describable
  newType : ∀ other ∈ held, other.backendType ≠ backend.backendType
  newUnit : ∀ other ∈ held, other.unit.name ≠ backend.unit.name

/-- The answer to a registration; of several reasons against it the first counts. -/
inductive Verdict (held : List Backend) (backend : Backend) :
    Except Fault (List Backend) → Prop where
  | accepted (admissible : Admissible held backend) :
      Verdict held backend (.ok (held ++ [backend]))
  | undescribable
      (problem : DescriptorProblem)
      (broken : backend.Inspection (some problem)) :
      Verdict held backend
        (.error ⟨.descriptorInvalid, [backend.backendType, problem.text]⟩)
  | typeHeld
      (describable : backend.Describable)
      (other : Backend)
      (listed : other ∈ held)
      (sameType : other.backendType = backend.backendType) :
      Verdict held backend (.error ⟨.duplicateType, [backend.backendType]⟩)
  | unitHeld
      (describable : backend.Describable)
      (newType : ∀ other ∈ held, other.backendType ≠ backend.backendType)
      (owner : Backend)
      (listed : owner ∈ held)
      (sameUnit : owner.unit.name = backend.unit.name) :
      Verdict held backend
        (.error ⟨.duplicateUnit, [backend.unit.name, owner.backendType]⟩)

/-- Exactly the admissible backends are accepted. -/
theorem Verdict.isOk_iff
    {held : List Backend}
    {backend : Backend}
    {answer : Except Fault (List Backend)}
    (verdict : Verdict held backend answer) :
    answer.isOk = true ↔ Admissible held backend := by
  cases verdict with
  | accepted admissible => exact ⟨fun _ => admissible, fun _ => rfl⟩
  | undescribable problem broken =>
      exact ⟨nofun, fun admissible =>
        absurd admissible.describable broken.not_describable⟩
  | typeHeld _ other listed sameType =>
      exact ⟨nofun, fun admissible =>
        absurd sameType (admissible.newType other listed)⟩
  | unitHeld _ _ owner listed sameUnit =>
      exact ⟨nofun, fun admissible =>
        absurd sameUnit (admissible.newUnit owner listed)⟩

/-- What a call answers: the backends held from then on, or a fault. -/
def answer (registry : Registry) (backend : Backend) :
    Except Fault (List Backend) :=
  ((registry.register backend).map Registry.backends).mapError
    RegistrationError.fault

/-- The answer to a registration is the verdict of its rules. -/
theorem answer_verdict (registry : Registry) (backend : Backend) :
    Verdict registry.backends backend (registry.answer backend) := by
  have registered := registry.register_registration backend
  unfold answer
  generalize registry.register backend = outcome at registered
  cases registered with
  | undescribable problem checked =>
      have broken := backend.inspection
      rw [checked] at broken
      exact .undescribable problem broken
  | typeHeld other checked held =>
      have describable := backend.descriptorProblem_eq_none_iff.1 checked
      obtain ⟨listed, sameType⟩ := (registry.find?_eq_some_iff _ _).1 held
      exact .typeHeld describable other listed sameType
  | unitHeld owner checked freshType held =>
      have describable := backend.descriptorProblem_eq_none_iff.1 checked
      have newType := (registry.find?_eq_none_iff _).1 freshType
      have sameUnit : owner.unit.name = backend.unit.name := by
        simpa using List.find?_some held
      exact .unitHeld describable newType owner
        (List.mem_of_find?_eq_some held) sameUnit
  | accepted next checked freshType freshUnit grown =>
      have describable := backend.descriptorProblem_eq_none_iff.1 checked
      have newType := (registry.find?_eq_none_iff _).1 freshType
      have newUnit := (registry.owner?_eq_none_iff _).1 freshUnit
      simp only [Except.map, Except.mapError, grown]
      exact .accepted ⟨describable, newType, newUnit⟩

/-- The registry after a call, which changes nothing if it is refused. -/
def step (registry : Registry) (backend : Backend) : Registry :=
  match registry.register backend with
  | .ok next => next
  | .error _ => registry

/-- A registration that is refused leaves the backends as they are. -/
theorem backends_step (registry : Registry) (backend : Backend) :
    (registry.step backend).backends =
      match registry.answer backend with
      | .ok held => held
      | .error _ => registry.backends := by
  unfold step answer
  cases registry.register backend <;> rfl

/-- A refusal leaves no trace. -/
theorem step_of_error
    {registry : Registry}
    {backend : Backend}
    {fault : Fault}
    (refused : registry.answer backend = .error fault) :
    registry.step backend = registry := by
  unfold answer at refused
  unfold step
  cases answered : registry.register backend with
  | ok next =>
      rw [answered] at refused
      cases refused
  | error error => rfl

/-- The registry after a run of calls. -/
def after (registry : Registry) : List Backend → Registry
  | [] => registry
  | backend :: rest => (registry.step backend).after rest

theorem after_append
    (registry : Registry)
    (earlier later : List Backend) :
    registry.after (earlier ++ later) = (registry.after earlier).after later := by
  induction earlier generalizing registry with
  | nil => rfl
  | cons backend rest inductionHypothesis =>
      exact inductionHypothesis (registry.step backend)

/--
A registry kept as two indices: the backends under their types, and under
the name of each unit the type that owns it.
-/
structure Indices where
  byType : List (String × Backend)
  ownerByUnit : List (String × String)

namespace Indices

/-- The indices of the registry without backends. -/
def empty : Indices where
  byType := []
  ownerByUnit := []

/-- The indices of a registry. -/
def ofRegistry (registry : Registry) : Indices where
  byType :=
    registry.backends.map fun backend => (backend.backendType, backend)
  ownerByUnit :=
    registry.backends.map fun backend =>
      (backend.unit.name, backend.backendType)

/-- Register a backend in both indices, or refuse it after a look into each. -/
def register (indices : Indices) (backend : Backend) :
    Except RegistrationError Indices :=
  match backend.descriptorProblem with
  | some problem => .error (.descriptor backend.backendType problem)
  | none =>
      if (indices.byType.lookup backend.backendType).isSome then
        .error (.duplicateType backend.backendType)
      else
        match indices.ownerByUnit.lookup backend.unit.name with
        | some owner => .error (.duplicateUnit backend.unit.name owner)
        | none =>
            .ok
              { byType :=
                  indices.byType ++ [(backend.backendType, backend)]
                ownerByUnit :=
                  indices.ownerByUnit ++
                    [(backend.unit.name, backend.backendType)] }

/-- The indices after a run of calls. -/
def after (indices : Indices) : List Backend → Indices
  | [] => indices
  | backend :: rest =>
      match indices.register backend with
      | .ok next => next.after rest
      | .error _ => indices.after rest

/-- Looking up a backend by a key is finding the first one with it. -/
private theorem lookup_map
    {α : Type}
    (key : Backend → String)
    (value : Backend → α)
    (backends : List Backend)
    (wanted : String) :
    (backends.map fun backend => (key backend, value backend)).lookup wanted =
      (backends.find? fun backend => key backend == wanted).map value := by
  induction backends with
  | nil => rfl
  | cons backend rest inductionHypothesis =>
      by_cases here : key backend = wanted
      · simp [here]
      · have missed : (wanted == key backend) = false := by
          simp [Ne.symm here]
        simp [List.lookup_cons, missed, here, inductionHypothesis]

/-- Each index is the inverse view of the other, so both answer as one list. -/
theorem register_ofRegistry (registry : Registry) (backend : Backend) :
    (ofRegistry registry).register backend =
      (registry.register backend).map ofRegistry := by
  have byType :
      (ofRegistry registry).byType.lookup backend.backendType =
        registry.find? backend.backendType := by
    refine (lookup_map _ _ registry.backends _).trans ?_
    exact Option.map_id'
  have ownerByUnit :
      (ofRegistry registry).ownerByUnit.lookup backend.unit.name =
        (registry.owner? backend.unit.name).map Backend.backendType :=
    lookup_map _ _ registry.backends _
  have registered := registry.register_registration backend
  unfold register
  generalize registry.register backend = outcome at registered
  cases registered with
  | undescribable problem checked => simp [checked, Except.map]
  | typeHeld other checked held => simp [checked, byType, held, Except.map]
  | unitHeld owner checked freshType held =>
      simp [checked, byType, freshType, ownerByUnit, held, Except.map]
  | accepted next checked freshType freshUnit grown =>
      have extended :
          ofRegistry next =
            { byType :=
                (ofRegistry registry).byType ++
                  [(backend.backendType, backend)]
              ownerByUnit :=
                (ofRegistry registry).ownerByUnit ++
                  [(backend.unit.name, backend.backendType)] } := by
        simp [ofRegistry, grown]
      simp [checked, byType, freshType, ownerByUnit, freshUnit, Except.map,
        extended]

/-- A run over the indices comes to the indices of what is held. -/
theorem after_ofRegistry (registry : Registry) (calls : List Backend) :
    (ofRegistry registry).after calls = ofRegistry (registry.after calls) := by
  induction calls generalizing registry with
  | nil => rfl
  | cons backend rest inductionHypothesis =>
      unfold after
      rw [register_ofRegistry]
      show _ = ofRegistry ((registry.step backend).after rest)
      unfold step
      cases registry.register backend with
      | ok next => exact inductionHypothesis next
      | error _ => exact inductionHypothesis registry

end Indices

/-- The backends of the accepted calls of a run, in the order of the calls. -/
inductive Admitted : List Backend → List Backend → Prop where
  | start : Admitted [] []
  | accepted
      {calls held : List Backend}
      (backend : Backend)
      (earlier : Admitted calls held)
      (admissible : Admissible held backend) :
      Admitted (calls ++ [backend]) (held ++ [backend])
  | refused
      {calls held : List Backend}
      (backend : Backend)
      (earlier : Admitted calls held)
      (inadmissible : ¬Admissible held backend) :
      Admitted (calls ++ [backend]) held

/-- One more call keeps to the accepted calls. -/
theorem Admitted.step
    {calls : List Backend}
    {registry : Registry}
    (earlier : Admitted calls registry.backends)
    (backend : Backend) :
    Admitted (calls ++ [backend]) (registry.step backend).backends := by
  have verdict := registry.answer_verdict backend
  have onlyAdmissible := verdict.isOk_iff
  rw [registry.backends_step]
  generalize registry.answer backend = answer at verdict onlyAdmissible
  cases verdict with
  | accepted admissible => exact .accepted backend earlier admissible
  | undescribable | typeHeld | unitHeld =>
      refine .refused backend earlier fun admissible => ?_
      cases onlyAdmissible.2 admissible

/-- A registry holds the backends that its calls admitted. -/
theorem admitted_after (calls : List Backend) :
    Admitted calls (empty.after calls).backends := by
  induction calls using List.reverseRecOn with
  | nil => exact .start
  | append_singleton earlier last inductionHypothesis =>
      rw [after_append]
      exact inductionHypothesis.step last

/-- Every admitted backend can be described. -/
theorem Admitted.describable
    {calls held : List Backend}
    (admitted : Admitted calls held) :
    ∀ backend ∈ held, backend.Describable := by
  induction admitted with
  | start => exact fun _ listed => nomatch listed
  | accepted backend _ admissible inductionHypothesis =>
      intro other listed
      rcases List.mem_append.1 listed with before | last
      · exact inductionHypothesis other before
      · rw [List.mem_singleton.1 last]
        exact admissible.describable
  | refused _ _ _ inductionHypothesis => exact inductionHypothesis

/-- Accepted backends differ in whatever an admissible one has to have new. -/
theorem Admitted.distinct
    {image : Backend → String}
    (new :
      ∀ {held backend},
        Admissible held backend →
        ∀ other ∈ held, image other ≠ image backend)
    {calls held : List Backend}
    (admitted : Admitted calls held) :
    (held.map image).Nodup := by
  induction admitted with
  | start => exact List.nodup_nil
  | accepted backend _ admissible inductionHypothesis =>
      exact nodup_map_append_singleton inductionHypothesis (new admissible)
  | refused _ _ _ inductionHypothesis => exact inductionHypothesis

/-- What a look-up by type says, whichever way it is made. -/
structure Finds (registry : Registry) (backendType : String) : Prop where
  found :
    ∀ backend,
      registry.find? backendType = some backend ↔
        backend ∈ registry.backends ∧ backend.backendType = backendType
  given :
    ∀ backend,
      registry.get backendType = .ok backend ↔
        registry.find? backendType = some backend
  known :
    registry.has backendType = true ↔
      ∃ backend, registry.find? backendType = some backend
  unknown :
    registry.get backendType = .error ⟨.unknownBackend, [backendType]⟩ ↔
      ∀ backend ∈ registry.backends, backend.backendType ≠ backendType

/-- Both indices of a registry find the same backends. -/
theorem finds (registry : Registry) (backendType : String) :
    registry.Finds backendType where
  found := registry.find?_eq_some_iff backendType
  given := by
    intro backend
    unfold get
    cases registry.find? backendType <;> simp
  known := Option.isSome_iff_exists
  unknown := by
    rw [← find?_eq_none_iff]
    unfold get
    cases registry.find? backendType <;> simp

/-- What a registry is after a run of calls. -/
structure AdmissionLaw (calls : List Backend) : Prop where
  /-- It holds the backends of the accepted calls in their order. -/
  admitted : Admitted calls (empty.after calls).backends
  size : (empty.after calls).size = (empty.after calls).backends.length
  describable :
    ∀ backend ∈ (empty.after calls).backends, backend.Describable
  distinctTypes :
    ((empty.after calls).backends.map Backend.backendType).Nodup
  distinctUnits :
    ((empty.after calls).backends.map fun backend =>
      backend.unit.name).Nodup
  /-- Each call was answered by what was held then. -/
  answered :
    ∀ {earlier backend later},
      calls = earlier ++ backend :: later →
      Verdict (empty.after earlier).backends backend
        ((empty.after earlier).answer backend)
  accepted :
    ∀ {earlier backend later},
      calls = earlier ++ backend :: later →
      (((empty.after earlier).answer backend).isOk = true ↔
        Admissible (empty.after earlier).backends backend)
  /-- A refused call might as well not have been made. -/
  traceless :
    ∀ {earlier backend later fault},
      calls = earlier ++ backend :: later →
      (empty.after earlier).answer backend = .error fault →
      empty.after (earlier ++ [backend]) = empty.after earlier ∧
        empty.after calls = empty.after (earlier ++ later)
  /-- The owner of a unit name is the only backend of that name. -/
  soleOwner :
    ∀ {owner other},
      owner ∈ (empty.after calls).backends →
      other ∈ (empty.after calls).backends →
      owner.unit.name = other.unit.name →
      owner = other
  /-- Kept as two indices, the run comes to two views of the same backends. -/
  indexed :
    Indices.empty.after calls = Indices.ofRegistry (empty.after calls)
  finds : ∀ backendType, (empty.after calls).Finds backendType

/-- Every run of calls on a new registry keeps the admission law. -/
theorem after_admissionLaw (calls : List Backend) : AdmissionLaw calls where
  admitted := admitted_after calls
  size := rfl
  describable := (admitted_after calls).describable
  distinctTypes := (admitted_after calls).distinct Admissible.newType
  distinctUnits := (admitted_after calls).distinct Admissible.newUnit
  answered := fun {earlier backend} _ _ =>
    (empty.after earlier).answer_verdict backend
  accepted := fun {earlier backend} _ _ =>
    ((empty.after earlier).answer_verdict backend).isOk_iff
  traceless := by
    intro earlier backend later fault split refused
    have unchanged := step_of_error refused
    subst split
    constructor
    · rw [after_append]
      exact unchanged
    · rw [after_append, after_append]
      show ((empty.after earlier).step backend).after later = _
      rw [unchanged]
  soleOwner := fun listed otherListed sameUnit =>
    List.inj_on_of_nodup_map
      ((admitted_after calls).distinct Admissible.newUnit) listed otherListed
      sameUnit
  indexed := Indices.after_ofRegistry empty calls
  finds := (empty.after calls).finds

end Registry

end StorageBackends
