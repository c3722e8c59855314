import StorageBackends.Http.Exchange
import StorageBackends.Proofs.Record

namespace StorageBackends

/-!
# What exchanges tell

The content of a reply is read along a path of keys. A reply to a request that
failed has a code in one of two places, and so has the line that is logged
about the failure. Nothing else in a reply or in the log looks like a code, so
an exchange tells the code of the error it ended with and no other.
-/

namespace Http

/-- The value of some content at the end of a path of keys. -/
def Content.at? : Content → List String → Option Json
  | .json value, path =>
      path.foldlM (fun value key => value.member? key) value
  | _, _ => none

namespace Content

theorem at?_json_nil (value : Json) : (json value).at? [] = some value := rfl

theorem at?_json_cons (value : Json) (key : String) (path : List String) :
    (json value).at? (key :: path) =
      (value.member? key).bind fun inner => (json inner).at? path := rfl

/-- A content tells a code as part of an error or in plain form. -/
def Tells (content : Content) (code : String) : Prop :=
  content.at? ["error", "code"] = some (.str code) ∨
    content.at? ["code"] = some (.str code)

theorem not_tells_empty (code : String) : ¬empty.Tells code := by
  rintro (told | told) <;> cases told

theorem not_tells_text (written code : String) : ¬(text written).Tells code := by
  rintro (told | told) <;> cases told

/-- An object without an error and without a code tells none. -/
theorem not_tells_obj
    {members : List (String × Json)}
    (noError : "error" ∉ Record.keys members)
    (noCode : "code" ∉ Record.keys members)
    (code : String) :
    ¬(json (.obj members)).Tells code := by
  have errorless := (Record.get?_eq_none_iff "error" members).2 noError
  have codeless := (Record.get?_eq_none_iff "code" members).2 noCode
  rintro (told | told)
  · simp [at?_json_cons, Json.member?, errorless] at told
  · simp [at?_json_cons, Json.member?, codeless] at told

/-- What is sent tells what was to be sent, or nothing at all. -/
theorem Tells.of_sent
    {request : Request}
    {content : Content}
    {code : String}
    (told : (Server.sentContent request content).Tells code) :
    content.Tells code := by
  unfold Server.sentContent at told
  split at told
  · exact absurd told (not_tells_empty code)
  · exact told

end Content

end Http

/-- A line tells the code of the error that it is about. -/
def LogLine.Tells (line : LogLine) (code : String) : Prop :=
  Record.get? "code" line.members = some (.str code)

/-- A line without a member for a code tells none. -/
theorem LogLine.not_tells
    {line : LogLine}
    (noCode : "code" ∉ Record.keys line.members)
    (code : String) :
    ¬line.Tells code := by
  intro told
  rw [Tells, (Record.get?_eq_none_iff "code" line.members).2 noCode] at told
  cases told

namespace Http

/-- An exchange tells a code in its reply or in the log. -/
def Exchange.Tells (exchange : Exchange) (code : String) : Prop :=
  exchange.reply.content.Tells code ∨
    ∃ line ∈ exchange.lines, line.Tells code

namespace ErrorReport

variable
  {report : ErrorReport}
  {code : String}

/-- The code of a report whose own status no reply may have. -/
def badStatusCode : String :=
  "FST_ERR_BAD_STATUS_CODE"

/-- The body of an error reply tells the code of its report only. -/
theorem tells_body
    {isDevelopment : Bool}
    {visit : Visit}
    (told :
      (Content.json (report.body isDevelopment visit)).Tells code) :
    code = report.shownCode := by
  rcases told with told | told
  · simp only [Content.at?_json_cons, Content.at?_json_nil, body,
      Json.member?, Record.get?_cons] at told
    simpa [Record.get?_cons, eq_comm] using told
  · have codeless :
        (report.body isDevelopment visit).member? "code" = none :=
      (Record.get?_eq_none_iff _ _).2 (by simp [Record.keys])
    simp [Content.at?_json_cons, codeless] at told

/-- The plain form tells a code only if the report has one. -/
theorem tells_plainBody
    (told : (Content.json report.plainBody).Tells code) :
    report.code = some code := by
  rcases told with told | told
  · cases found : report.code <;>
      simp [Content.at?_json_cons, plainBody, Json.member?,
        Record.get?_cons, found] at told
  · cases found : report.code with
    | some shown =>
        simpa [Content.at?_json_cons, Content.at?_json_nil, plainBody,
          Json.member?, Record.get?_cons, found] using told
    | none =>
        have codeless : report.plainBody.member? "code" = none :=
          (Record.get?_eq_none_iff _ _).2 (by simp [Record.keys, found])
        simp [Content.at?_json_cons, codeless] at told

theorem shownCode_of_code
    (coded : report.code = some code) :
    code = report.shownCode := by
  simp [shownCode, coded]

/--
An error reply tells the code of its report, or that its status cannot be
sent.
-/
theorem tells_reply
    {isDevelopment : Bool}
    {visit : Visit}
    (told : (report.reply isDevelopment visit).2.Tells code) :
    code = report.shownCode ∨ code = badStatusCode := by
  unfold reply at told
  split at told
  · dsimp only [content] at told
    split at told
    · exact absurd told (Content.not_tells_empty code)
    · exact .inl (tells_body told)
  · have coded := tells_plainBody told
    exact .inr (Option.some.inj coded).symm

/-- The line of an error tells the code of its report only. -/
theorem tells_line (told : report.line.Tells code) :
    code = report.shownCode := by
  simpa [LogLine.Tells, line, Record.get?_cons, eq_comm] using told

end ErrorReport

namespace Server

/-- The line of an incoming request tells no code. -/
theorem not_tells_incomingLine (visit : Visit) (code : String) :
    ¬(incomingLine visit).Tells code := by
  refine LogLine.not_tells ?_ code
  cases found : visit.request.header? "user-agent" <;>
    simp [incomingLine, found, Record.keys]

theorem not_tells_unknownLine (visit : Visit) (code : String) :
    ¬(unknownLine visit).Tells code :=
  LogLine.not_tells (by simp [unknownLine, Record.keys]) code

/-- The line of a completed request tells no code. -/
theorem not_tells_completionLine
    (visit : Visit)
    (route : Option Route)
    (params : Record String)
    (status : Nat)
    (code : String) :
    ¬(completionLine visit route params status).Tells code := by
  refine LogLine.not_tells ?_ code
  cases route <;> simp [completionLine, Record.keys]

end Server

/-- What a request has come to tells a code in its content or in a line. -/
def Ending.Tells (ending : Ending) (code : String) : Prop :=
  ending.content.Tells code ∨ ∃ line ∈ ending.lines, line.Tells code

namespace Server

variable
  {server : Server}
  {visit : Visit}
  {code : String}

/-- An exchange tells what its ending tells and nothing else. -/
theorem tells_exchange
    {firstLines : List LogLine}
    (first : ∀ line ∈ firstLines, ¬line.Tells code)
    {ending : Ending}
    (told : (server.exchange visit firstLines ending).Tells code) :
    ending.Tells code := by
  rcases told with told | ⟨line, listed, told⟩
  · exact .inl told.of_sent
  · have written := List.mem_of_mem_filter listed
    rcases List.mem_append.1 written with earlier | last
    · rcases List.mem_append.1 earlier with before | inside
      · exact absurd told (first line before)
      · exact .inr ⟨line, inside, told⟩
    · rw [List.mem_singleton.1 last] at told
      exact absurd told (not_tells_completionLine _ _ _ _ _)

/--
The end of a request with an error tells nothing beyond its reply and its
line.
-/
theorem tells_endWithError
    {destination : Destination}
    {headers : List (String × String)}
    {report : ErrorReport}
    (told :
      (server.endWithError visit destination headers report).Tells code) :
    code = report.shownCode ∨ code = ErrorReport.badStatusCode := by
  rcases told with told | ⟨line, listed, told⟩
  · exact ErrorReport.tells_reply told
  · rw [List.mem_singleton.1 listed] at told
    exact .inl (ErrorReport.tells_line told)

/-- An early end tells nothing beyond the error it ends with. -/
theorem tells_endEarly
    {destination : Destination}
    {headers : List (String × String)}
    {report : ErrorReport}
    (told :
      (server.endEarly visit destination headers report).Tells code) :
    code = report.shownCode ∨ code = ErrorReport.badStatusCode := by
  unfold endEarly at told
  split at told
  · rcases told with told | ⟨line, listed, told⟩
    · exact .inl
        (ErrorReport.shownCode_of_code (ErrorReport.tells_plainBody told))
    · cases listed
  · exact tells_endWithError told

end Server

/-- The codes of faults of deployment engines. -/
def IsDeploymentCode (code : String) : Prop :=
  ErrorReport.startsWith "DEPLOY_" code = true

instance (code : String) : Decidable (IsDeploymentCode code) :=
  inferInstanceAs (Decidable (_ = true))

/-- A handling that has no code of a deployment engine to tell. -/
structure Handling.Discreet (handling : Handling) : Prop where
  failed :
    ∀ report,
      handling.result = .error report →
      ¬IsDeploymentCode report.shownCode
  answered :
    ∀ answer,
      handling.result = .ok answer →
      ∀ code, ¬answer.content.Tells code
  lines : ∀ line ∈ handling.lines, ∀ code, ¬line.Tells code

/-- What a discreet handling ends with tells no such code either. -/
theorem Handling.Discreet.not_tells
    {handling : Handling}
    (discreet : handling.Discreet)
    {server : Server}
    {visit : Visit}
    {destination : Destination}
    {headers : List (String × String)}
    {code : String}
    (told :
      (server.endHandled visit destination headers handling).Tells code) :
    ¬IsDeploymentCode code := by
  unfold Server.endHandled at told
  cases ended : handling.result with
  | ok answer =>
      rw [ended] at told
      rcases told with told | ⟨line, listed, told⟩
      · exact absurd told (discreet.answered answer ended code)
      · exact absurd told (discreet.lines line listed code)
  | error report =>
      rw [ended] at told
      have own := discreet.failed report ended
      have byError :
          (server.endWithError visit destination headers report).Tells code →
            ¬IsDeploymentCode code := by
        intro told
        rcases Server.tells_endWithError told with rfl | rfl
        · exact own
        · decide
      rcases told with told | ⟨line, listed, told⟩
      · exact byError (.inl told)
      · rcases List.mem_append.1 listed with before | last
        · exact absurd told (discreet.lines line before code)
        · exact byError (.inr ⟨line, last, told⟩)

end Http

end StorageBackends
