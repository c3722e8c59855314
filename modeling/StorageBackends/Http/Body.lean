import StorageBackends.Http.ErrorReport
import StorageBackends.Http.MediaType
import StorageBackends.Json.Reader
import StorageBackends.Number.Literal

namespace StorageBackends.Http.Body

open StorageBackends.Text

/-!
# Bodies of requests

A body is JSON or plain text, as its media type says. A JSON body must not
redefine the ancestor of an object, neither directly nor through a
constructor. A body that was begun to be read and is wrong ends the connection.
-/

/-- The greatest size of a body in bytes. -/
def limit : Nat :=
  65536

/-- Methods whose bodies are read. -/
def readsBody (verb : String) : Bool :=
  ["POST", "PUT", "PATCH", "DELETE", "OPTIONS", "QUERY"].contains verb

/-- The method whose requests have to name a media type. -/
def needsMediaType (verb : String) : Bool :=
  verb == "QUERY"

/-- What is wrong with a body. -/
inductive Problem where
  | tooLarge
  | otherLength
  | emptyJson
  | invalidJson
  | unsupported
  | missingMediaType
deriving DecidableEq, Repr

namespace Problem

/-- The report of a problem. -/
def report : Problem → ErrorReport
  | tooLarge =>
      .ofCode "FST_ERR_CTP_BODY_TOO_LARGE" 413 "Request body is too large"
  | otherLength =>
      .ofCode "FST_ERR_CTP_INVALID_CONTENT_LENGTH" 400
        "Request body size did not match Content-Length"
  | emptyJson =>
      .ofCode "FST_ERR_CTP_EMPTY_JSON_BODY" 400
        "Body cannot be empty when content-type is set to 'application/json'"
  | invalidJson =>
      .ofCode "FST_ERR_CTP_INVALID_JSON_BODY" 400
        "Body is not valid JSON but content-type is set to 'application/json'"
  | unsupported =>
      .ofCode "FST_ERR_CTP_INVALID_MEDIA_TYPE" 415 "Unsupported Media Type"
  | missingMediaType =>
      .ofCode "FST_ERR_ROUTE_MISSING_CONTENT_TYPE" 400
        "Method 'QUERY' must provide a 'Content-Type' header."

/-- Whether a problem is found in the body itself, and not in its media type. -/
def endsConnection : Problem → Bool
  | tooLarge | otherLength | emptyJson | invalidJson => true
  | unsupported | missingMediaType => false

end Problem

/-- Whether the members of an object redefine an ancestor. -/
def redefinesAncestor (members : Record Json) : Bool :=
  Record.contains Record.ancestorKey members ||
    match Record.get? "constructor" members with
    | some (.obj inner) => Record.contains "prototype" inner
    | _ => false

/-- The mark of an encoding that may stand in front of JSON text. -/
def encodingMark : Char :=
  Char.ofNat 0xFEFF

/-- JSON text without the mark in front of it. -/
def withoutMark : List Char → List Char
  | c :: rest => if c = encodingMark then rest else c :: rest
  | [] => []

/-- The value of a JSON body. -/
def readJson (text : String) : Except Problem Json :=
  if text.isEmpty then
    .error .emptyJson
  else
    match Json.ofChars? (withoutMark text.toList) with
    | none => .error .invalidJson
    | some value =>
        if value.anyObject redefinesAncestor then
          .error .invalidJson
        else
          .ok value

/-- The length that a header declares; any literal of a number may do so. -/
def declaredLength? (header : String) : Option Number :=
  Number.ofLiteral? header.toList

/-- The size of a body against the limit and the declared length. -/
def checkSize (size : Nat) (declared : Option Number) : Except Problem Unit :=
  if declared.any (fun length => !length.leNat limit) || limit < size then
    .error .tooLarge
  else if declared.any (fun length => length.toInt? != some (size : Int)) then
    .error .otherLength
  else
    .ok ()

/-- Whether a request announces no body at all. -/
def isAbsent (request : Request) : Bool :=
  (request.header? "transfer-encoding").isNone &&
    match request.header? "content-length" with
    | some length => length == "0"
    | none => (request.body.getD "").isEmpty

/-- How a body of some media type is read, if it is. -/
def reader? (mediaType : MediaType) :
    Option (String → Except Problem Json) :=
  if mediaType = .json then
    some readJson
  else if mediaType = .plain then
    some fun text => .ok (.str text)
  else
    none

/-- The value of the body of a request that names a media type. -/
def ofMediaType
    (isKnown : Bool)
    (request : Request)
    (header : String) :
    Except Problem (Option Json) :=
  match MediaType.ofHeader? header with
  | none => .error .unsupported
  | some mediaType =>
      match reader? mediaType with
      | none => if isKnown then .error .unsupported else .ok none
      | some read => do
          let text := request.body.getD ""
          checkSize text.utf8ByteSize
            ((request.header? "content-length").bind declaredLength?)
          return some (← read text)

/--
The value of the body of a request, if it has one.

Where no route is known, a sound media type that is not read does not matter.
-/
def ofRequest (isKnown : Bool) (request : Request) :
    Except Problem (Option Json) :=
  if !readsBody request.verb then
    .ok none
  else
    match request.header? "content-type" with
    | some header => ofMediaType isKnown request header
    | none =>
        if needsMediaType request.verb then
          .error .missingMediaType
        else if isAbsent request || !isKnown then
          .ok none
        else
          .error .unsupported

end StorageBackends.Http.Body
