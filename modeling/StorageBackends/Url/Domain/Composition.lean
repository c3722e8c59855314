import StorageBackends.Url.Domain.CombiningClass
import StorageBackends.Url.Domain.Pair

namespace StorageBackends.Url.Domain

/-!
# Composed texts

One text can be written with letters and marks or with composites. The
composed form takes all characters apart, puts the marks of each sequence in
the order of their classes, and then composes each character that starts a
sequence with the marks that reach it.
-/

/-- The most often that a character can be taken apart. -/
def maxParts : Nat :=
  4

/-- The smallest parts of a character. -/
def decomposed : Nat → Char → List Char
  | 0, c => [c]
  | fuel + 1, c =>
      match parts? c with
      | some (first, second) => decomposed fuel first ++ [second]
      | none => [c]

/-- Put a character behind a text that is given from its end: a mark moves in
front of the marks of a higher class. -/
def settle (reversed : List Char) (c : Char) : List Char :=
  match reversed with
  | [] => [c]
  | last :: rest =>
      if combiningClass c != 0 && combiningClass c < combiningClass last then
        last :: settle rest c
      else
        c :: last :: rest

/-- A text with the marks of each sequence in the order of their classes. -/
def ordered (text : List Char) : List Char :=
  (text.foldl settle []).reverse

/-- A composition under way: the finished text and the marks that wait, both
from their ends, and the character that started the last sequence. -/
structure Composing where
  finished : List Char
  starter? : Option Char
  marks : List Char

namespace Composing

/-- The composition of nothing. -/
def empty : Composing where
  finished := []
  starter? := none
  marks := []

/-- The text so far, from its end. -/
def reversed (composing : Composing) : List Char :=
  composing.marks ++ composing.starter?.toList ++ composing.finished

/-- Whether no mark keeps a character from the start of the sequence. -/
def reaches (composing : Composing) (c : Char) : Bool :=
  match composing.marks with
  | [] => true
  | last :: _ => combiningClass last < combiningClass c

/-- The composite of the start of the sequence and a character. -/
def composite? (composing : Composing) (c : Char) : Option Char :=
  if composing.reaches c then
    composing.starter?.bind fun starter => Domain.composite? starter c
  else
    none

/-- Take one character more. -/
def push (composing : Composing) (c : Char) : Composing :=
  match composing.composite? c with
  | some composite => { composing with starter? := some composite }
  | none =>
      if combiningClass c == 0 then
        { finished := composing.reversed
          starter? := some c
          marks := [] }
      else
        { composing with marks := c :: composing.marks }

end Composing

/-- The composed form of a text. -/
def composed (text : List Char) : List Char :=
  let parts := ordered (text.flatMap (decomposed maxParts))
  (parts.foldl Composing.push .empty).reversed.reverse

/-- A text that is its composed form. -/
def isComposed (text : List Char) : Bool :=
  composed text == text

end StorageBackends.Url.Domain
