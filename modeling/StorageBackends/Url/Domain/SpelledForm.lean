import StorageBackends.Text.CodeSet

namespace StorageBackends.Url.Domain

open StorageBackends.Text

/-!
# Folded forms that are spelled out

Wide, circled and ligature characters fold to ASCII text, fractions to digits
around a fraction slash. A run of characters folds to a run of single ASCII
characters, a row of characters to a row of words.
-/

/-- Characters that fold to consecutive ASCII characters. -/
structure FormRun where
  range : CodeRange
  form : Nat
deriving DecidableEq, Repr

namespace FormRun

/-- The run that a word denotes: a range, an equals sign and the first form. -/
def ofWord (word : List Char) : FormRun :=
  let range := word.takeWhile (· != '=')
  { range := .ofWord range
    form := hexadecimalValue (word.drop (range.length + 1)) }

/-- The folded form of a character of the run. -/
def form? (run : FormRun) (c : Char) : Option (List Char) :=
  if run.range.contains c then
    some [Char.ofNat (run.form + (c.toNat - run.range.first))]
  else
    none

end FormRun

/-- Consecutive characters that fold to words. -/
structure FormRow where
  first : Nat
  forms : List (List Char)
deriving DecidableEq, Repr

namespace FormRow

/-- The row of some words from a code point on. -/
def ofLine (first : Nat) (line : String) : FormRow where
  first := first
  forms := wordsOf line

/-- The folded form of a character of the row. -/
def form? (row : FormRow) (c : Char) : Option (List Char) :=
  if row.first ≤ c.toNat then row.forms[c.toNat - row.first]? else none

end FormRow

/-- The runs of characters that fold to one ASCII character each. -/
def formRuns : List FormRun :=
  (wordsOfLines
   ["aa=61 b2-b3=32 b9=31 ba=6f 17f=73 2b0=68 2b2=6a 2b3=72 2b7=77 2b8=79",
    "2e1=6c 2e2=73 2e3=78 37e=3b 1d2c=61 1d2e=62 1d30-1d31=64 1d33-1d3a=67",
    "1d3c=6f 1d3e=70 1d3f=72 1d40-1d41=74 1d42=77 1d43=61 1d47=62 1d48-1d49=64",
    "1d4d=67 1d4f=6b 1d50=6d 1d52=6f 1d56=70 1d57-1d58=74 1d5b=76 1d62=69",
    "1d63=72 1d64-1d65=75 1d9c=63 1da0=66 1dbb=7a 1fef=60 2070=30 2071=69",
    "2074-2079=34 207a=2b 207c=3d 207d-207e=28 207f=6e 2080-2089=30 208a=2b",
    "208c=3d 208d-208e=28 2090=61 2091=65 2092=6f 2093=78 2095=68 2096-2099=6b",
    "209a=70 209b-209c=73 2102=63 210a-210b=67 210c=68 210d=68 210e=68 2110=69",
    "2111=69 2112=6c 2113=6c 2115=6e 2119-211b=70 211c=72 211d=72 2124=7a",
    "2128=7a 212a=6b 212c-212d=62 212f=65 2130-2131=65 2133=6d 2134=6f 2139=69",
    "2145=64 2146-2147=64 2148-2149=69 2160=69 2164=76 2169=78 216c=6c",
    "216d-216e=63 216f=6d 2170=69 2174=76 2179=78 217c=6c 217d-217e=63 217f=6d",
    "2460-2468=31 24b6-24cf=61 24d0-24e9=61 24ea=30 2c7c=6a 2c7d=76 3002=2e",
    "a7f2=63 a7f3=66 a7f4=71 fb29=2b fe10=2c fe14=3b fe15=21 fe33=5f fe34=5f",
    "fe35-fe36=28 fe37=7b fe38=7d fe4d=5f fe4e=5f fe4f=5f fe50=2c fe54=3b",
    "fe57=21 fe59-fe5a=28 fe5b=7b fe5c=7d fe60=26 fe61-fe62=2a fe63=2d fe64=3c",
    "fe65=3e fe66=3d fe69=24 ff01-ff02=21 ff04=24 ff06-ff0e=26 ff10-ff19=30",
    "ff1b-ff1e=3b ff21-ff3a=61 ff3f-ff5b=5f ff5d-ff5e=7d ff61=2e 107a5=71",
    "1d400-1d419=61 1d41a-1d433=61 1d434-1d44d=61 1d44e-1d454=61",
    "1d456-1d467=69 1d468-1d481=61 1d482-1d49b=61 1d49c=61 1d49e-1d49f=63",
    "1d4a2=67 1d4a5-1d4a6=6a 1d4a9-1d4ac=6e 1d4ae-1d4b5=73 1d4b6-1d4b9=61",
    "1d4bb=66 1d4bd-1d4c3=68 1d4c5-1d4cf=70 1d4d0-1d4e9=61 1d4ea-1d503=61",
    "1d504-1d505=61 1d507-1d50a=64 1d50d-1d514=6a 1d516-1d51c=73",
    "1d51e-1d537=61 1d538-1d539=61 1d53b-1d53e=64 1d540-1d544=69 1d546=6f",
    "1d54a-1d550=73 1d552-1d56b=61 1d56c-1d585=61 1d586-1d59f=61",
    "1d5a0-1d5b9=61 1d5ba-1d5d3=61 1d5d4-1d5ed=61 1d5ee-1d607=61",
    "1d608-1d621=61 1d622-1d63b=61 1d63c-1d655=61 1d656-1d66f=61",
    "1d670-1d689=61 1d68a-1d6a3=61 1d7ce-1d7d7=30 1d7d8-1d7e1=30",
    "1d7e2-1d7eb=30 1d7ec-1d7f5=30 1d7f6-1d7ff=30 1f12b=63 1f12c=72",
    "1f130-1f149=61 1fbf0-1fbf9=30"]).map
    FormRun.ofWord

/-- The rows of characters that fold to words. -/
def formRows : List FormRow :=
  [.ofLine 0xBC "1⁄4 1⁄2 3⁄4",
   .ofLine 0x132 "ij ij",
   .ofLine 0x1C7 "lj lj lj nj nj nj",
   .ofLine 0x1F1 "dz dz dz",
   .ofLine 0x203C "!!",
   .ofLine 0x20A8 "rs",
   .ofLine 0x2116 "no",
   .ofLine 0x2120 "sm tel tm",
   .ofLine 0x213B "fax",
   .ofLine 0x2150 "1⁄7 1⁄9 1⁄10 1⁄3 2⁄3 1⁄5 2⁄5 3⁄5 4⁄5 1⁄6 5⁄6 1⁄8 3⁄8 5⁄8 7⁄8 1⁄",
   .ofLine 0x2161 "ii iii iv",
   .ofLine 0x2165 "vi vii viii ix",
   .ofLine 0x216A "xi xii",
   .ofLine 0x2171 "ii iii iv",
   .ofLine 0x2175 "vi vii viii ix",
   .ofLine 0x217A "xi xii",
   .ofLine 0x2189 "0⁄3",
   .ofLine 0x2469 "10 11 12 13 14 15 16 17 18 19 20 (1) (2) (3) (4) (5) (6) (7) (8)",
   .ofLine 0x247C "(9) (10) (11) (12) (13) (14) (15) (16) (17) (18) (19) (20)",
   .ofLine 0x249C "(a) (b) (c) (d) (e) (f) (g) (h) (i) (j) (k) (l) (m) (n) (o) (p)",
   .ofLine 0x24AC "(q) (r) (s) (t) (u) (v) (w) (x) (y) (z)",
   .ofLine 0x2A75 "== ===",
   .ofLine 0x3250 "pte 21 22 23 24 25 26 27 28 29 30 31 32 33 34 35",
   .ofLine 0x32B1 "36 37 38 39 40 41 42 43 44 45 46 47 48 49 50",
   .ofLine 0x32CC "hg erg ev ltd",
   .ofLine 0x3371 "hpa da au bar ov pc dm dm2 dm3 iu",
   .ofLine 0x3380 "pa na",
   .ofLine 0x3383 "ma ka kb mb gb cal kcal pf nf",
   .ofLine 0x338E "mg kg hz khz mhz ghz thz",
   .ofLine 0x3396 "ml dl kl fm nm",
   .ofLine 0x339C "mm cm km mm2 cm2 m2 km2 mm3 cm3 m3 km3",
   .ofLine 0x33A9 "pa kpa mpa gpa rad",
   .ofLine 0x33B0 "ps ns",
   .ofLine 0x33B3 "ms pv nv",
   .ofLine 0x33B7 "mv kv mv pw nw",
   .ofLine 0x33BD "mw kw mw",
   .ofLine 0x33C3 "bq cc cd",
   .ofLine 0x33C8 "db gy ha hp in kk km kt lm ln log lx mb mil mol ph",
   .ofLine 0x33D9 "ppm pr sr sv wb",
   .ofLine 0x33FF "gal",
   .ofLine 0xFB00 "ff fi fl ffi ffl st st",
   .ofLine 0x1F101 "0, 1, 2, 3, 4, 5, 6, 7, 8, 9,",
   .ofLine 0x1F110 "(a) (b) (c) (d) (e) (f) (g) (h) (i) (j) (k) (l) (m) (n) (o) (p)",
   .ofLine 0x1F120 "(q) (r) (s) (t) (u) (v) (w) (x) (y) (z)",
   .ofLine 0x1F12D "cd wz",
   .ofLine 0x1F14A "hv mv sd ss ppv wc",
   .ofLine 0x1F16A "mc md mr",
   .ofLine 0x1F190 "dj"]

/-- The folded form of a character, if it is spelled out. -/
def spelledForm? (c : Char) : Option (List Char) :=
  match formRuns.findSome? (·.form? c) with
  | some form => some form
  | none => formRows.findSome? (·.form? c)

end StorageBackends.Url.Domain
