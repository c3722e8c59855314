import StorageBackends.Url.Domain.CombiningClass

namespace StorageBackends.Url.Domain

open StorageBackends.Text

/-!
# Joiners

Two characters without width tell how their neighbours join. A joiner is at
home behind a mark that takes the vowel from a consonant; the one that keeps
letters apart also between letters that would join.
-/

/-- The character that keeps its neighbours apart. -/
def nonJoiner : Char :=
  Char.ofNat 0x200C

/-- The character that joins its neighbours. -/
def joiner : Char :=
  Char.ofNat 0x200D

/-- A character that says how its neighbours join. -/
def isJoiner (c : Char) : Bool :=
  c == nonJoiner || c == joiner

/-- The letters that join the one behind them. -/
def joiningOnward : CodeSet :=
  .ofLines
   ["620 626 628 62a-62e 633-63f 641-647 649-64a 66e-66f 678-687 69a-6bf",
    "6c1-6c2 6cc 6ce 6d0-6d1 6fa-6fc 6ff 712-714 71a-71d 71f-727 729 72b",
    "72d-72e 74e-758 75c-76a 76d-770 772 775-777 77a-77f 7ca-7ea 841-845 848",
    "84a-853 855 860 862-865 868 886 889-88d 8a0-8a9 8af-8b0 8b3-8b8 8ba-8c8",
    "1807 1820-1878 1887-18a8 18aa a840-a872 fb52-fb81 fb8e-fba3 fba6-fbad",
    "fbd3-fbd6 fbe4-fc5a fc5d-fcf1 fcf5-fd3b fd50-fdc7 fdf0-fdfc fe89-fe8c",
    "fe8f-fe92 fe95-fea8 feb1-feec feef-fefc 10ac0-10ac4 10acd 10ad3-10adc",
    "10ade-10ae0 10aeb-10aee 10b80 10b82 10b86-10b88 10b8a-10b8b 10b8d 10b90",
    "10bad-10bae 10d00-10d21 10d23 10f30-10f32 10f34-10f44 10f51-10f53",
    "10f70-10f73 10f76-10f81 10fb0 10fb2-10fb3 10fb8 10fbb-10fbc 10fbe-10fbf",
    "10fc1 10fc4 10fca-10fcb 1e900-1e943 1ee01-1ee02 1ee07-1ee12 1ee14-1ee17",
    "1ee19-1ee7e 1ee81-1ee82 1ee84 1ee87-1ee92 1ee94-1ee97 1ee99-1eea2",
    "1eea7-1eeb2 1eeb4-1eeb7 1eeb9-1eebb"]

/-- The letters that join the one in front of them. -/
def joiningBack : CodeSet :=
  .ofLines
   ["620 622-63f 641-64a 66e-66f 671-673 675-6d3 6d5 6ee-6ef 6fa-6fc 6ff 710",
    "712-72f 74d-77f 7ca-7ea 840-858 860 862-865 867-882 886 889-88e 8a0-8ac",
    "8ae-8c8 1807 1820-1878 1887-18a8 18aa a840-a871 fb50-fbb1 fbd3-fcf1",
    "fcf5-fd3d fd50-fdc7 fdf0-fdfc fe81-fefc 10ac0-10ac5 10ac7 10ac9-10aca",
    "10ace-10ad6 10ad8-10ae1 10ae4 10aeb-10aef 10b80-10b91 10ba9-10bae",
    "10d01-10d23 10f30-10f44 10f51-10f54 10f70-10f81 10fb0 10fb2-10fb6",
    "10fb8-10fbf 10fc1-10fc4 10fc9-10fca 1e900-1e943 1ee00-1eebb"]

/-- Whether a joiner may stand between two parts of a label. -/
def isAtHome (before : List Char) (c : Char) (after : List Char) : Bool :=
  before.getLast?.any isVirama ||
    (c == nonJoiner &&
      before.any joiningOnward.contains &&
      after.any joiningBack.contains)

/-- Whether the first joiner of a label, if any, may stand where it does. -/
def isWellJoined (label : List Char) : Bool :=
  let before := label.takeWhile fun c => !isJoiner c
  match label.drop before.length with
  | [] => true
  | c :: after => isAtHome before c after

end StorageBackends.Url.Domain
