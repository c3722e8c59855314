import StorageBackends.Proofs.Document.Rereading
import StorageBackends.Proofs.Url.Kept
import StorageBackends.Service.Config

namespace StorageBackends.Service

open StorageBackends.Document

/-!
# The sections of a configuration

The default of each section is made of the defaults of its members, and each
of these passes the check of its member. Error tracking has members with
defaults too; its URL is kept in a form that is kept as it stands.
-/

/-- The addresses to listen at may be left out or written out. -/
theorem Listening.coherent :
    Decoder.Coherent default decoder toJson :=
  Decoder.coherent_of_pair rfl rfl
    ⟨Decoder.Rereads.text, rfl⟩
    ⟨Decoder.Rereads.integer 1 (some 65535), by decide⟩
    (by decide)
    (fun _ _ => rfl)

/-- The options of logging may be left out or written out. -/
theorem Logging.coherent :
    Decoder.Coherent default decoder toJson :=
  Decoder.coherent_of_pair rfl rfl
    ⟨Decoder.Rereads.choice LogLevel.text LogLevel.all, by decide⟩
    ⟨Decoder.Rereads.flag, rfl⟩
    (by decide)
    (fun _ _ => rfl)

/-- The rate limit may be left out or written out. -/
theorem RateLimit.coherent :
    Decoder.Coherent default decoder toJson :=
  Decoder.coherent_of_pair rfl rfl
    ⟨Decoder.Rereads.integer 1 none, by decide⟩
    ⟨Decoder.Rereads.integer 1000 none, by decide⟩
    (by decide)
    (fun _ _ => rfl)

/-- The options of deployment may be left out or written out. -/
theorem Deployment.coherent :
    Decoder.Coherent default decoder toJson :=
  Decoder.coherent_of_pair rfl rfl
    ⟨Decoder.Rereads.choice EngineKind.text EngineKind.all, by decide⟩
    ⟨Decoder.Rereads.text, rfl⟩
    (by decide)
    (fun _ _ => rfl)

/-- The network spaces may be left out or written out. -/
theorem spaces_coherent :
    Decoder.Coherent NetworkSpaces.default spacesDecoder spacesJson :=
  Decoder.coherent_of_pair rfl rfl
    ⟨Decoder.Rereads.nonEmptyText, by decide⟩
    ⟨Decoder.Rereads.nonEmptyText, by decide⟩
    (by decide)
    (fun _ _ => rfl)

namespace ErrorTracking

/-- The kept form of a URL is a URL and is kept as it stands. -/
theorem dsn_rereads : Decoder.Rereads dsnDecoder .str := by
  intro part dsn read
  unfold dsnDecoder at read
  split at read
  · rename_i content
    split at read
    · rename_i isUrl
      cases read
      rw [← Url.isUrl_kept] at isUrl
      simp only [dsnDecoder, isUrl, if_true, Url.kept_kept]
    · cases read
  · cases read

theorem environment_passes :
    Decoder.text (some (.str defaultEnvironment)) =
      .valid defaultEnvironment := rfl

theorem sampleRate_passes :
    Decoder.fraction (some (.num defaultSampleRate)) =
      .valid defaultSampleRate := by
  decide

/-- The environment of error tracking is read as it was written. -/
theorem environment_rereads :
    Decoder.Rereads (.withDefault defaultEnvironment .text) .str :=
  Decoder.Rereads.text.withDefault environment_passes

/-- The sample rate of error tracking is read as it was written. -/
theorem sampleRate_rereads :
    Decoder.Rereads (.withDefault defaultSampleRate .fraction) .num :=
  Decoder.Rereads.fraction.withDefault sampleRate_passes

/-- What a section of error tracking is read from. -/
structure Reads (members : Record Json) (tracking : ErrorTracking) : Prop where
  dsn : dsnDecoder (Record.get? "dsn" members) = .valid tracking.dsn
  environment :
    Decoder.withDefault defaultEnvironment .text
      (Record.get? "environment" members) = .valid tracking.environment
  sampleRate :
    Decoder.withDefault defaultSampleRate .fraction
      (Record.get? "tracesSampleRate" members) =
        .valid tracking.tracesSampleRate

/-- Error tracking is read through its members. -/
theorem decoder_eq_valid_iff
    {part : Option Json}
    {tracking : ErrorTracking} :
    decoder part = .valid tracking ↔
      ∃ members, part = some (.obj members) ∧ Reads members tracking := by
  simp only [decoder, Decoder.object_eq_valid_iff, Checked.map_eq,
    Checked.seq_eq, Checked.apply_eq_valid_iff, Checked.map_eq_valid_iff,
    Checked.member, Checked.under_eq_valid_iff]
  constructor
  · rintro ⟨members, isObject, _, rate, ⟨_, environment, ⟨dsn, dsnRead, rfl⟩,
      environmentRead, rfl⟩, rateRead, rfl⟩
    exact ⟨members, isObject, dsnRead, environmentRead, rateRead⟩
  · rintro ⟨members, isObject, reads⟩
    exact ⟨members, isObject, _, _, ⟨_, _, ⟨_, reads.dsn, rfl⟩,
      reads.environment, rfl⟩, reads.sampleRate, rfl⟩

/-- Error tracking is read as it was written. -/
theorem rereads : Decoder.Rereads decoder toJson := by
  intro part tracking read
  obtain ⟨members, _, reads⟩ := decoder_eq_valid_iff.1 read
  refine decoder_eq_valid_iff.2 ⟨_, rfl, ?_, ?_, ?_⟩
  · exact dsn_rereads reads.dsn
  · exact environment_rereads reads.environment
  · exact sampleRate_rereads reads.sampleRate

/-- Missing members of error tracking may be written out as their defaults. -/
theorem fillable : Decoder.Fillable decoder toJson := by
  intro part tracking key written read absent shown members missing
  obtain ⟨inside, rfl, reads⟩ := decoder_eq_valid_iff.1 read
  have absent : Record.get? key inside = none := absent
  simp only [decoder, Decoder.object]
  rw [toJson, Json.member?, Record.get?_cons, Record.get?_cons,
    Record.get?_cons] at shown
  by_cases isDsn : key = "dsn"
  · -- the URL has no default, so it is not absent
    have dsnRead := reads.dsn
    rw [← isDsn, absent] at dsnRead
    cases dsnRead
  by_cases isEnvironment : key = "environment"
  · subst isEnvironment
    have isDefault := Decoder.eq_default_of_absent reads.environment absent
    rw [if_neg isDsn, if_pos rfl, isDefault] at shown
    cases shown
    rw [Checked.member_insert_of_ne (by decide),
      Checked.member_insert_default environment_passes missing,
      Checked.member_insert_of_ne (by decide)]
  by_cases isSampleRate : key = "tracesSampleRate"
  · subst isSampleRate
    have isDefault := Decoder.eq_default_of_absent reads.sampleRate absent
    rw [if_neg isDsn, if_neg isEnvironment, if_pos rfl, isDefault] at shown
    cases shown
    rw [Checked.member_insert_of_ne (by decide),
      Checked.member_insert_of_ne (by decide),
      Checked.member_insert_default sampleRate_passes missing]
  · rw [if_neg isDsn, if_neg isEnvironment, if_neg isSampleRate] at shown
    cases shown

end ErrorTracking

end StorageBackends.Service
