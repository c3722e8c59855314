import Mathlib.Logic.Relation
import StorageBackends.Proofs.Service.Sections

namespace StorageBackends.Service.Config

open StorageBackends.Document

/-!
# Filling in defaults

What a configuration shows for an absent section or member may be written
into any document that lacks it, and an absent section may be left empty as
well. The document means the same, be it a configuration or refused: the
issues of what was there before are the same and in the same order. A parsed
configuration is a document in which nothing is left to be filled in.

The proofs go by the keys of the document. Two parts under one key that are
read alike give the same outcome, whatever else the document holds.
-/

/-- The keys of the sections that stand for defaults when they are absent. -/
def sectionKeys : List String :=
  ["server", "logging", "rateLimit", "deployment", "network"]

/-- A parsed configuration shows a value under a key that was absent. -/
def Supplies (key : String) (value : Json) : Prop :=
  ∃ document config,
    parse document = .ok config ∧
      document.member? key = none ∧
        config.toJson.member? key = some value

/-- The same inside of a section, which may have been absent as a whole. -/
def SuppliesWithin (outer inner : String) (value : Json) : Prop :=
  ∃ document config,
    parse document = .ok config ∧
      (document.member? outer).bind (Json.member? inner) = none ∧
        (config.toJson.member? outer).bind (Json.member? inner) = some value

/-- One absent part of a document is filled in. -/
inductive Fills : Json → Json → Prop
  | empty
      {members : Record Json}
      {key : String}
      (isSection : key ∈ sectionKeys)
      (absent : Record.get? key members = none) :
      Fills (.obj members) (.obj (Record.insert key (.obj []) members))
  | whole
      {members : Record Json}
      {key : String}
      {value : Json}
      (supplied : Supplies key value)
      (absent : Record.get? key members = none) :
      Fills (.obj members) (.obj (Record.insert key value members))
  | within
      {members inside : Record Json}
      {outer inner : String}
      {value : Json}
      (supplied : SuppliesWithin outer inner value)
      (present : Record.get? outer members = some (.obj inside))
      (absent : Record.get? inner inside = none) :
      Fills (.obj members)
        (.obj
          (Record.insert outer (.obj (Record.insert inner value inside))
            members))

/-- The configuration of an empty document. -/
def standard : Config where
  listening := .default
  logging := .default
  tracking := none
  environment := defaultEnvironment
  rateLimit := .default
  deployment := .default
  spaces := .default

/-- A part of a document: its key, what reads it, and what it is read into. -/
inductive Part : {α : Type} → String → Decoder α → (Config → α) → Prop
  | listening :
      Part "server" (.withDefault Listening.default Listening.decoder)
        Config.listening
  | logging :
      Part "logging" (.withDefault Logging.default Logging.decoder)
        Config.logging
  | tracking :
      Part "sentry" (.optional ErrorTracking.decoder) Config.tracking
  | environment :
      Part "env"
        (.withDefault defaultEnvironment
          (.choice Environment.text Environment.all))
        Config.environment
  | rateLimit :
      Part "rateLimit" (.withDefault RateLimit.default RateLimit.decoder)
        Config.rateLimit
  | deployment :
      Part "deployment" (.withDefault Deployment.default Deployment.decoder)
        Config.deployment
  | spaces :
      Part "network" (.withDefault NetworkSpaces.default spacesDecoder)
        Config.spaces

/-- Every part of a document is read into its part of the configuration. -/
def Reads (members : Record Json) (config : Config) : Prop :=
  ∀ ⦃α : Type⦄ ⦃key : String⦄ ⦃read : Decoder α⦄ ⦃project : Config → α⦄,
    Part key read project →
      read (Record.get? key members) = .valid (project config)

/-- A configuration is read through its sections. -/
theorem decoder_eq_valid_iff
    {part : Option Json}
    {config : Config} :
    decoder part = .valid config ↔
      ∃ members, part = some (.obj members) ∧ Reads members config := by
  simp only [decoder, Decoder.object_eq_valid_iff, Checked.map_eq,
    Checked.seq_eq, Checked.apply_eq_valid_iff, Checked.map_eq_valid_iff,
    Checked.member, Checked.under_eq_valid_iff]
  constructor
  · rintro ⟨members, isObject, _, _, ⟨_, _, ⟨_, _, ⟨_, _, ⟨_, _, ⟨_, _,
      ⟨_, listening, rfl⟩, logging, rfl⟩, tracking, rfl⟩, environment, rfl⟩,
      rateLimit, rfl⟩, deployment, rfl⟩, spaces, rfl⟩
    refine ⟨members, isObject, ?_⟩
    intro α key read project part
    cases part <;> assumption
  · rintro ⟨members, isObject, reads⟩
    exact ⟨members, isObject, _, _, ⟨_, _, ⟨_, _, ⟨_, _, ⟨_, _, ⟨_, _,
      ⟨_, reads .listening, rfl⟩, reads .logging, rfl⟩, reads .tracking, rfl⟩,
      reads .environment, rfl⟩, reads .rateLimit, rfl⟩, reads .deployment,
      rfl⟩, reads .spaces, rfl⟩

/-- A document is parsed exactly if its sections can be read. -/
theorem parse_eq_ok_iff
    {document : Json}
    {config : Config} :
    parse document = .ok config ↔
      ∃ members, document = .obj members ∧ Reads members config := by
  have decoded :
      parse document = .ok config ↔
        decoder (some document) = .valid config := by
    unfold parse
    cases decoder (some document) <;> simp
  simp only [decoded, decoder_eq_valid_iff, Option.some.injEq]

/-- Documents whose parts are read alike are parsed alike. -/
theorem parse_congr
    {members others : Record Json}
    (alike :
      ∀ ⦃α : Type⦄ ⦃key : String⦄ ⦃read : Decoder α⦄ ⦃project : Config → α⦄,
        Part key read project →
          read (Record.get? key members) = read (Record.get? key others)) :
    parse (.obj members) = parse (.obj others) := by
  have same : decoder (some (.obj members)) = decoder (some (.obj others)) := by
    simp only [decoder, Decoder.object]
    rw [Checked.member_congr (alike .listening),
      Checked.member_congr (alike .logging),
      Checked.member_congr (alike .tracking),
      Checked.member_congr (alike .environment),
      Checked.member_congr (alike .rateLimit),
      Checked.member_congr (alike .deployment),
      Checked.member_congr (alike .spaces)]
  rw [parse, parse, same]

/-- What is written under a key matters for the part of that key only. -/
theorem parse_insert
    {members : Record Json}
    {key : String}
    {value : Json}
    (alike :
      ∀ ⦃α : Type⦄ ⦃read : Decoder α⦄ ⦃project : Config → α⦄,
        Part key read project →
          read (some value) = read (Record.get? key members)) :
    parse (.obj (Record.insert key value members)) = parse (.obj members) := by
  refine parse_congr fun α other read project part => ?_
  rw [Record.get?_insert]
  split
  · rename_i same
    subst same
    exact alike part
  · rfl

/-- An empty section is read like a missing one. -/
theorem Part.empty
    {α : Type}
    {key : String}
    {read : Decoder α}
    {project : Config → α}
    (part : Part key read project)
    (isSection : key ∈ sectionKeys) :
    read (some (.obj [])) = read none := by
  cases part with
  | listening => exact Listening.coherent.empty
  | logging => exact Logging.coherent.empty
  | tracking => simp [sectionKeys] at isSection
  | environment => simp [sectionKeys] at isSection
  | rateLimit => exact RateLimit.coherent.empty
  | deployment => exact Deployment.coherent.empty
  | spaces => exact spaces_coherent.empty

/-- What a configuration shows under each of its keys. -/
theorem member?_toJson (config : Config) (key : String) :
    config.toJson.member? key =
      if key = "server" then some config.listening.toJson
      else if key = "logging" then some config.logging.toJson
      else if key = "sentry" then config.tracking.map ErrorTracking.toJson
      else if key = "env" then some (.str config.environment.text)
      else if key = "rateLimit" then some config.rateLimit.toJson
      else if key = "deployment" then some config.deployment.toJson
      else if key = "network" then some (spacesJson config.spaces)
      else none := by
  cases tracked : config.tracking with
  | none =>
      simp only [toJson, Json.member?, tracked, Option.toList_none,
        List.map_nil, List.append_nil, List.cons_append, List.nil_append,
        Record.get?_cons, Option.map_none]
      by_cases isTracking : key = "sentry"
      · simp [isTracking, Record.get?]
      · simp [isTracking, Record.get?]
  | some tracking =>
      simp only [toJson, Json.member?, tracked, Option.toList_some,
        List.map_cons, List.map_nil, List.cons_append, List.nil_append,
        Record.get?_cons, Option.map_some]
      rfl

theorem environment_rereads :
    Decoder.Rereads
      (.withDefault defaultEnvironment
        (.choice Environment.text Environment.all))
      fun environment => .str environment.text :=
  (Decoder.Rereads.choice Environment.text Environment.all).withDefault
    (by decide)

/-- Each part is read from what the configuration shows of it. -/
theorem Part.written
    {α : Type}
    {key : String}
    {read : Decoder α}
    {project : Config → α}
    {given : Option Json}
    {config : Config}
    (part : Part key read project)
    (found : read given = .valid (project config)) :
    read (config.toJson.member? key) = .valid (project config) := by
  rw [member?_toJson]
  cases part with
  | listening => exact Listening.coherent.rereads found
  | logging => exact Logging.coherent.rereads found
  | tracking => exact ErrorTracking.rereads.optional found
  | environment => exact environment_rereads found
  | rateLimit => exact RateLimit.coherent.rereads found
  | deployment => exact Deployment.coherent.rereads found
  | spaces => exact spaces_coherent.rereads found

/-- A member that is shown within a part may be written into that part. -/
theorem Part.within
    {α : Type}
    {outer inner : String}
    {read : Decoder α}
    {project : Config → α}
    {given : Option Json}
    {config : Config}
    {value : Json}
    {inside : Record Json}
    (part : Part outer read project)
    (found : read given = .valid (project config))
    (absent : given.bind (Json.member? inner) = none)
    (shown :
      (config.toJson.member? outer).bind (Json.member? inner) = some value)
    (missing : Record.get? inner inside = none) :
    read (some (.obj (Record.insert inner value inside))) =
      read (some (.obj inside)) := by
  rw [member?_toJson] at shown
  cases part with
  | listening =>
      exact Listening.coherent.fillable found absent shown missing
  | logging =>
      exact Logging.coherent.fillable found absent shown missing
  | tracking =>
      exact ErrorTracking.fillable.optional found absent shown missing
  | environment => cases shown
  | rateLimit =>
      exact RateLimit.coherent.fillable found absent shown missing
  | deployment =>
      exact Deployment.coherent.fillable found absent shown missing
  | spaces => exact spaces_coherent.fillable found absent shown missing

/-- A configuration as a document is parsed into itself. -/
theorem parse_toJson
    {document : Json}
    {config : Config}
    (parsed : parse document = .ok config) :
    parse config.toJson = .ok config := by
  obtain ⟨members, rfl, reads⟩ := parse_eq_ok_iff.1 parsed
  exact parse_eq_ok_iff.2 ⟨_, rfl, fun _ _ _ _ part => part.written (reads part)⟩

/-- Filling in one part leaves the outcome as it was. -/
theorem parse_fill
    {document filled : Json}
    (fills : Fills document filled) :
    parse filled = parse document := by
  cases fills with
  | empty isSection absent =>
      refine parse_insert fun α read project part => ?_
      rw [absent]
      exact part.empty isSection
  | whole supplied absent =>
      obtain ⟨source, config, parsed, sourceAbsent, shown⟩ := supplied
      obtain ⟨members, rfl, reads⟩ := parse_eq_ok_iff.1 parsed
      refine parse_insert fun α read project part => ?_
      -- the document that the value comes from ties it to an absent part
      have found := reads part
      have written := part.written found
      rw [shown] at written
      rw [absent, written, ← found]
      exact congrArg read sourceAbsent
  | within supplied present absent =>
      obtain ⟨source, config, parsed, sourceAbsent, shown⟩ := supplied
      obtain ⟨members, rfl, reads⟩ := parse_eq_ok_iff.1 parsed
      refine parse_insert fun α read project part => ?_
      rw [present]
      exact part.within (reads part) sourceAbsent shown absent

/-- Filling in any number of parts leaves the outcome as it was. -/
theorem parse_fills
    {document filled : Json}
    (fills : Relation.ReflTransGen Fills document filled) :
    parse filled = parse document := by
  induction fills with
  | refl => rfl
  | tail _ step inductionHypothesis =>
      rw [parse_fill step, inductionHypothesis]

theorem parse_nothing : parse (.obj []) = .ok standard := by
  refine parse_eq_ok_iff.2 ⟨[], rfl, fun α key read project part => ?_⟩
  cases part <;> rfl

/-- The empty document can be filled up section by section. -/
theorem fills_standard :
    Relation.ReflTransGen Fills (.obj []) standard.toJson := by
  have supplied :
      ∀ {key : String} {value : Json},
        standard.toJson.member? key = some value → Supplies key value :=
    fun shown => ⟨.obj [], standard, parse_nothing, rfl, shown⟩
  exact
    .head (.whole (supplied rfl : Supplies "server" _) rfl) <|
    .head (.whole (supplied rfl : Supplies "logging" _) rfl) <|
    .head (.whole (supplied rfl : Supplies "env" _) rfl) <|
    .head (.whole (supplied rfl : Supplies "rateLimit" _) rfl) <|
    .head (.whole (supplied rfl : Supplies "deployment" _) rfl) <|
    .head (.whole (supplied rfl : Supplies "network" _) rfl) .refl

/-- Defaults may be left out or written out, and parsing writes them out. -/
structure FillingLaw : Prop where
  /-- A parsed configuration is parsed into itself. -/
  again :
    ∀ {document : Json} {config : Config},
      parse document = .ok config → parse config.toJson = .ok config
  /-- An absent section may be left empty. -/
  empty :
    ∀ {members : Record Json} {key : String},
      key ∈ sectionKeys →
      Record.get? key members = none →
        parse (.obj (Record.insert key (.obj []) members)) =
          parse (.obj members)
  /-- Any of the absent parts may be written out, one after the other. -/
  filled :
    ∀ {document filled : Json},
      Relation.ReflTransGen Fills document filled →
        parse filled = parse document
  /-- Nothing at all is the standard configuration, in every part of it. -/
  nothing :
    parse (.obj []) = .ok standard ∧
      Relation.ReflTransGen Fills (.obj []) standard.toJson

/--
Parsing obeys the law: what it left open may be written out, in any order.
-/
theorem fillingLaw : FillingLaw where
  again := parse_toJson
  empty isSection absent := parse_fill (.empty isSection absent)
  filled := parse_fills
  nothing := ⟨parse_nothing, fills_standard⟩

end StorageBackends.Service.Config
