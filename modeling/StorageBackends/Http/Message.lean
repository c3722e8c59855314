import StorageBackends.Http.Target
import StorageBackends.Json.Basic

namespace StorageBackends.Http

/-!
# Requests and replies

Header names are compared without regard to case, and methods too. Of two
headers of one name the later one counts.
-/

/-- The methods that a request may have. -/
def methods : List String :=
  ["ACL", "BIND", "CHECKOUT", "CONNECT", "COPY", "DELETE", "GET", "HEAD",
    "LINK", "LOCK", "M-SEARCH", "MERGE", "MKACTIVITY", "MKCALENDAR", "MKCOL",
    "MOVE", "NOTIFY", "OPTIONS", "PATCH", "POST", "PROPFIND", "PROPPATCH",
    "PURGE", "PUT", "QUERY", "REBIND", "REPORT", "SEARCH", "SOURCE",
    "SUBSCRIBE", "TRACE", "UNBIND", "UNLINK", "UNLOCK", "UNSUBSCRIBE"]

/-- Whether a text is a method, all in upper or all in lower case. -/
def isMethod (text : String) : Bool :=
  methods.contains text || (methods.map Text.toLower).contains text

/-- Why a request cannot be made. -/
inductive RequestProblem where
  | unknownMethod
  | unsoundUrl
deriving DecidableEq, Repr

namespace RequestProblem

/-- The message of a problem. -/
def message : RequestProblem → String
  | unknownMethod => "must be equal to one of the allowed values"
  | unsoundUrl => "Invalid URL"

end RequestProblem

/-- A request; its method is all in upper or all in lower case. -/
structure Request where
  method : String
  target : Target
  headers : List (String × String)
  body : Option String
deriving DecidableEq, Repr

namespace Request

/-- The request of a method for a URL, if both are sound. -/
def make
    (method url : String)
    (headers : List (String × String))
    (body : Option String) :
    Except RequestProblem Request :=
  if isMethod method then
    match Target.ofUrl? url with
    | some target =>
        .ok
          { method := method
            target := target
            headers := headers
            body := body }
    | none => .error .unsoundUrl
  else
    .error .unknownMethod

/-- The value of a header. -/
def header? (request : Request) (name : String) : Option String :=
  (request.headers.reverse.find? fun header =>
    Text.toLower header.1 == Text.toLower name).map Prod.snd

/-- The value of a header that is not empty. -/
def nonEmptyHeader? (request : Request) (name : String) : Option String :=
  (request.header? name).filter fun value => value != ""

/-- The method in upper case. -/
def verb (request : Request) : String :=
  Text.toUpper request.method

end Request

/-- What a reply carries. -/
inductive Content where
  | empty
  | text (content : String)
  | json (value : Json)
deriving Repr

/-- A reply. -/
structure Reply where
  status : Nat
  headers : List (String × String)
  content : Content
deriving Repr

namespace Reply

/-- The value of a header. -/
def header? (reply : Reply) (name : String) : Option String :=
  reply.headers.lookup (Text.toLower name)

end Reply

end StorageBackends.Http
