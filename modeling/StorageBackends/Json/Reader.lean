import StorageBackends.Json.Basic
import StorageBackends.Number.Numeral

namespace StorageBackends.Json

open StorageBackends.Text

/-!
# Reading JSON text

The reader is a machine that takes one character at a time. Its state is the
stack of open containers and what it expects next, so a text is read by one
fold, and reading a concatenation is reading one part after the other.

Of a repeated key the last value wins. A surrogate escape without its partner
reads as the replacement character.
-/

/-- An open container that waits for a value to be read. -/
inductive Frame where
  | array (reversed : List Json)
  | object (members : Record Json) (key : String)

/-- What a text being read is for. -/
inductive TextUse where
  | value
  | key (members : Record Json)

/-- The place inside an escape. -/
inductive Escape where
  | outside
  | started
  | unicode (digitsLeft : Nat) (code : Nat)

/-- A text being read: its characters in reverse and a high surrogate that waits. -/
structure OpenText where
  reversed : List Char
  high : Option Nat
  escape : Escape

/-- What the reader expects next. -/
inductive Expectation where
  | value
  | firstElement
  | nextElement (reversed : List Json)
  | firstKey
  | key (members : Record Json)
  | colon (members : Record Json) (key : String)
  | nextMember (members : Record Json)
  | text (usage : TextUse) (read : OpenText)
  | word (remaining : List Char) (value : Json)
  | numeral (reversed : List Char)
  | nothing (value : Json)

/-- The state of the reader. -/
inductive ReaderState where
  | failed
  | reading (stack : List Frame) (expectation : Expectation)

/-- The white space between tokens. -/
def isSpace (c : Char) : Bool :=
  c == ' ' || c == '\t' || c == '\n' || c == '\r'

/-- The character of an incomplete surrogate pair. -/
def replacement : Char :=
  Char.ofNat 0xFFFD

namespace OpenText

/-- A text of which nothing has been read. -/
def start : OpenText where
  reversed := []
  high := none
  escape := .outside

/-- The characters read so far, with a waiting surrogate replaced. -/
def settled (text : OpenText) : List Char :=
  match text.high with
  | some _ => replacement :: text.reversed
  | none => text.reversed

/-- Add one character. -/
def push (text : OpenText) (c : Char) : OpenText where
  reversed := c :: text.settled
  high := none
  escape := .outside

/--
Add the character of a four-digit escape. Two escapes can make one character
together. A text is a sequence of characters, so half of such a pair that
stands alone is read as the replacement character.
-/
def pushCode (text : OpenText) (code : Nat) : OpenText :=
  if 0xD800 ≤ code && code < 0xDC00 then
    { reversed := text.settled, high := some code, escape := .outside }
  else if 0xDC00 ≤ code && code < 0xE000 then
    match text.high with
    | some high =>
        let paired := 0x10000 + (high - 0xD800) * 0x400 + (code - 0xDC00)
        { reversed := Char.ofNat paired :: text.reversed
          high := none
          escape := .outside }
    | none => text.push replacement
  else
    text.push (Char.ofNat code)

/-- The text that has been read. -/
def toText (text : OpenText) : String :=
  String.ofList text.settled.reverse

end OpenText

/-- The character of a one-letter escape. -/
def escaped? : Char → Option Char
  | '"' => some '"'
  | '\\' => some '\\'
  | '/' => some '/'
  | 'b' => some (Char.ofNat 0x08)
  | 'f' => some (Char.ofNat 0x0C)
  | 'n' => some '\n'
  | 'r' => some '\r'
  | 't' => some '\t'
  | _ => none

namespace ReaderState

/-- A value is complete: it goes into the innermost open container. -/
def complete : List Frame → Json → ReaderState
  | [], value => .reading [] (.nothing value)
  | .array reversed :: stack, value =>
      .reading stack (.nextElement (value :: reversed))
  | .object members key :: stack, value =>
      .reading stack (.nextMember (Record.insert key value members))

/-- The first character of a value. -/
def startValue (stack : List Frame) (c : Char) : ReaderState :=
  if c == '"' then
    .reading stack (.text .value OpenText.start)
  else if c == '[' then
    .reading stack .firstElement
  else if c == '{' then
    .reading stack .firstKey
  else if c == 't' then
    .reading stack (.word "rue".toList (.bool true))
  else if c == 'f' then
    .reading stack (.word "alse".toList (.bool false))
  else if c == 'n' then
    .reading stack (.word "ull".toList .null)
  else if c == '-' || isDigit c then
    .reading stack (.numeral [c])
  else
    .failed

/-- One character inside a text. -/
def continueText
    (stack : List Frame)
    (usage : TextUse)
    (text : OpenText)
    (c : Char) :
    ReaderState :=
  match text.escape with
  | .outside =>
      if c == '"' then
        match usage with
        | .value => complete stack (.str text.toText)
        | .key members => .reading stack (.colon members text.toText)
      else if c == '\\' then
        .reading stack (.text usage { text with escape := .started })
      else if c.toNat < 0x20 then
        .failed
      else
        .reading stack (.text usage (text.push c))
  | .started =>
      if c == 'u' then
        .reading stack (.text usage { text with escape := .unicode 4 0 })
      else
        match escaped? c with
        | some character => .reading stack (.text usage (text.push character))
        | none => .failed
  | .unicode digitsLeft code =>
      if isHexDigit c then
        let code := 16 * code + hexValue c
        if digitsLeft ≤ 1 then
          .reading stack (.text usage (text.pushCode code))
        else
          .reading stack
            (.text usage { text with escape := .unicode (digitsLeft - 1) code })
      else
        .failed

/-- One character after a complete value. -/
def afterValue : ReaderState → Char → ReaderState
  | .reading stack (.nextElement reversed), c =>
      if isSpace c then
        .reading stack (.nextElement reversed)
      else if c == ',' then
        .reading (.array reversed :: stack) .value
      else if c == ']' then
        complete stack (.arr reversed.reverse)
      else
        .failed
  | .reading stack (.nextMember members), c =>
      if isSpace c then
        .reading stack (.nextMember members)
      else if c == ',' then
        .reading stack (.key members)
      else if c == '}' then
        complete stack (.obj members)
      else
        .failed
  | .reading stack (.nothing value), c =>
      if isSpace c then .reading stack (.nothing value) else .failed
  | _, _ => .failed

/-- The end of a numeral. -/
def finishNumeral (stack : List Frame) (reversed : List Char) : ReaderState :=
  match Number.ofNumeral? reversed.reverse with
  | some number => complete stack (.num number)
  | none => .failed

/-- Take one character. -/
def step : ReaderState → Char → ReaderState
  | .failed, _ => .failed
  | .reading stack .value, c =>
      if isSpace c then .reading stack .value else startValue stack c
  | .reading stack .firstElement, c =>
      if isSpace c then
        .reading stack .firstElement
      else if c == ']' then
        complete stack (.arr [])
      else
        startValue (.array [] :: stack) c
  | .reading stack .firstKey, c =>
      if isSpace c then
        .reading stack .firstKey
      else if c == '}' then
        complete stack (.obj [])
      else if c == '"' then
        .reading stack (.text (.key []) OpenText.start)
      else
        .failed
  | .reading stack (.key members), c =>
      if isSpace c then
        .reading stack (.key members)
      else if c == '"' then
        .reading stack (.text (.key members) OpenText.start)
      else
        .failed
  | .reading stack (.colon members key), c =>
      if isSpace c then
        .reading stack (.colon members key)
      else if c == ':' then
        .reading (.object members key :: stack) .value
      else
        .failed
  | .reading stack (.text usage text), c =>
      continueText stack usage text c
  | .reading stack (.word remaining value), c =>
      match remaining with
      | [] => .failed
      | [last] => if c == last then complete stack value else .failed
      | next :: rest =>
          if c == next then .reading stack (.word rest value) else .failed
  | .reading stack (.numeral reversed), c =>
      if Number.isNumeralChar c then
        .reading stack (.numeral (c :: reversed))
      else
        afterValue (finishNumeral stack reversed) c
  | state, c => afterValue state c

/-- The value that has been read when the text ends here. -/
def value? : ReaderState → Option Json
  | .reading [] (.nothing value) => some value
  | .reading [] (.numeral reversed) =>
      match finishNumeral [] reversed with
      | .reading [] (.nothing value) => some value
      | _ => none
  | _ => none

end ReaderState

/-- The state before the first character. -/
def readerStart : ReaderState :=
  .reading [] .value

/-- The value of a list of characters; nothing if they are no JSON text. -/
def ofChars? (characters : List Char) : Option Json :=
  (characters.foldl ReaderState.step readerStart).value?

/-- The value of a JSON text; nothing if it is none. -/
def parse? (text : String) : Option Json :=
  ofChars? text.toList

end StorageBackends.Json
