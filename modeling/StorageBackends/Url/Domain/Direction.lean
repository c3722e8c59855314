import StorageBackends.Url.Domain.Mark

namespace StorageBackends.Url.Domain

open StorageBackends.Text

/-!
# Writing direction

The first character says which way a label with a character from right to left
is judged. One that starts from left to right has no other such character in
front of its last one; the last one itself is not looked at. Any other has no
character that is written from left to right, mixes no two kinds of digits,
and ends in a letter or a digit. Marks at the end stand aside, and a character
with a folded form has the direction of its form.
-/

/-- The direction in which a character is written. -/
inductive Direction where
  | leftward
  | rightward
  | europeanDigit
  | arabicDigit
  | neutral
  | attached
deriving DecidableEq, Repr

/-- The letters that are written from right to left. -/
def leftwardLetters : CodeSet :=
  .ofLines
   ["5be 5c0 5c3 5c6 5d0-5f4 608 60b 60d 61b-64a 66d-66f 671-6d5 6e5-6e6",
    "6ee-6ef 6fa-710 712-72f 74d-7a5 7b1-7ea 7f4-7f5 7fa 7fe-815 81a 824 828",
    "830-858 85e-88e 8a0-8c9 2135-2138 fb1d fb1f-fd3d fd50-fdc7 fdf0-fdfc",
    "fe71-fefc 10800-1091b 10920-10a00 10a10-10a35 10a40-10ae4 10aeb-10b35",
    "10b40-10d23 10e80-10ea9 10ead-10eb1 10f00-10f45 10f51-10f81 10f86-10ff6",
    "1e800-1e8cf 1e900-1e943 1e94b-1eebb"]

/-- The digits of texts from right to left. -/
def arabicDigits : CodeSet :=
  .ofLines
   ["660-669 66b-66c 10d30-10e7e"]

/-- The digits of texts in either direction. -/
def europeanDigits : CodeSet :=
  .ofLines
   ["30-39 bc-be 6f0-6f9 2150-215f 2189 102e1-102fb"]

/-- The signs without a direction. -/
def neutrals : CodeSet :=
  .ofLines
   ["21-2f 3a-40 5b-60 7b-b1 b6-bb bf d7 f7 2b9-2ba 2c2-2cf 2d2-2df 2e5-2ed",
    "2ef-2ff 374-375 387 3f6 58a-58f 606-607 609-60a 60c 60e-60f 66a 6de 6e9",
    "7f6-7f9 9f2-9f3 9fb af1 bf3-bfa c78-c7e e3f f3a-f3d 1390-1399 1400",
    "169b-169c 17db 17f0-180a 1940-1945 19de-19ff 200c-208b 20a0-20c0 2104",
    "2108 2114-2125 2127-2129 212e 213a 2140-214d 218a-2335 237b-2394",
    "2396-26ab 26ad-27ff 2900-2bff 2ce5-2cea 2cf9-2cff 2e00-2e9e 2ea0-2ef2",
    "3001-3004 3008-3020 3030 3036-3037 303d-303f 30a0 30fb 31c0-31e3",
    "4dc0-4dff a490-a4c6 a60d-a60f a673 a67e-a67f a700-a721 a788 a828-a82b",
    "a838-a839 a874-a877 ab6a-ab6b fd3e-fd4f fdcf fdfd-fe18 fe31-fe5e",
    "ff5f-ff65 ffe0-ffee 10101 10140-1018c 10190-101a0 1091f 10b39-10b3f",
    "11052-11065 11660-1166c 11fd5-11ff1 16fe2 1d1e9-1d241 1d245 1d300-1d356",
    "1d6c1 1d6db 1d6fb 1d715 1d735 1d74f 1d76f 1d789 1d7a9 1d7c3 1e2ff",
    "1eef0-1f10f 1f12f 1f16d-1f16f 1f1ad 1f260-1fbca"]

/-- The direction of a character. -/
def Direction.ofChar (c : Char) : Direction :=
  if isNonspacing c then
    .attached
  else if leftwardLetters.contains c then
    .leftward
  else if arabicDigits.contains c then
    .arabicDigit
  else if europeanDigits.contains c then
    .europeanDigit
  else if neutrals.contains c then
    .neutral
  else
    .rightward

/-- Whether a label runs from right to left in part. -/
def runsLeftward (directions : List Direction) : Bool :=
  directions.contains .leftward || directions.contains .arabicDigit

/-- The directions without those of the marks at the end. -/
def withoutFinalMarks (directions : List Direction) : List Direction :=
  (directions.reverse.dropWhile (· == .attached)).reverse

/-- Whether a label that starts from left to right is in order. -/
def isRightward (directions : List Direction) : Bool :=
  !runsLeftward (withoutFinalMarks directions).dropLast

/-- Whether a label that starts in another way is in order. -/
def isLeftward (directions : List Direction) : Bool :=
  !directions.contains .rightward &&
    !(directions.contains .europeanDigit &&
      directions.contains .arabicDigit) &&
    (withoutFinalMarks directions).getLast? != some .neutral

/-- Whether the directions of a label agree. -/
def isWellDirected (label : List Char) : Bool :=
  let directions := label.map Direction.ofChar
  !runsLeftward directions ||
    if directions.head? == some .rightward then
      isRightward directions
    else
      isLeftward directions

end StorageBackends.Url.Domain
