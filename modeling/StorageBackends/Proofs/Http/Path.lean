import StorageBackends.Http.Route
import StorageBackends.Proofs.Text.Splitting

namespace StorageBackends

/-!
# Paths of routes

The path of a route with plain values for its parameters leads back to the
route and to these values, unless one of them is too long. A value is plain if
it holds no percent sign, no slash and no question mark, so that neither
decoding nor taking the path apart changes it.
-/

namespace Url

/-- The bytes of a text are read as that text. -/
theorem ofBytes?_flatMap (text : List Char) :
    ofBytes? (text.flatMap String.utf8EncodeChar) = some text := by
  have encoded :
      (⟨(text.flatMap String.utf8EncodeChar).toArray⟩ : ByteArray) =
        text.utf8Encode := by
    apply ByteArray.ext
    rw [List.utf8Encode, List.data_toByteArray]
  have valid : text.utf8Encode.IsValidUTF8 := ByteArray.isValidUTF8_utf8Encode
  have read :
      (String.fromUTF8? text.utf8Encode).map String.toList = some text := by
    rw [String.fromUTF8?, dif_pos valid]
    exact congrArg some (String.toList_ofList (l := text))
  rw [ofBytes?, encoded, read]

/-- Without a percent sign decoding leaves a text as it is. -/
theorem decode?_of_not_mem
    {text : List Char}
    (plain : '%' ∉ text) :
    decode? text = some text := by
  have bytes :
      lenientBytes text = text.flatMap String.utf8EncodeChar := by
    induction text with
    | nil => simp [lenientBytes]
    | cons c rest inductionHypothesis =>
        obtain ⟨notPercent, notRest⟩ : '%' ≠ c ∧ '%' ∉ rest := by
          simpa using plain
        rw [lenientBytes, inductionHypothesis notRest, List.flatMap_cons]
        exact fun _ _ _ isPercent => absurd isPercent.symm notPercent
  rw [decode?, bytes, ofBytes?_flatMap]

theorem decodeExcept?_of_not_mem
    (keeps : UInt8 → Bool)
    {text : List Char}
    (plain : '%' ∉ text) :
    decodeExcept? keeps text = some text := by
  have bytes :
      strictBytes? keeps text =
        some (text.flatMap String.utf8EncodeChar) := by
    induction text with
    | nil => simp [strictBytes?]
    | cons c rest inductionHypothesis =>
        obtain ⟨notPercent, notRest⟩ : '%' ≠ c ∧ '%' ∉ rest := by
          simpa using plain
        rw [strictBytes?, if_neg (Ne.symm notPercent),
          inductionHypothesis notRest, Option.map_some, List.flatMap_cons]
        exact fun _ _ _ isPercent => absurd isPercent.symm notPercent
  rw [decodeExcept?, bytes, Option.bind_some, ofBytes?_flatMap]

end Url

namespace Http

/-- A value that stands in a path as it is. -/
structure IsPlain (value : String) : Prop where
  noPercent : '%' ∉ value.toList
  noSlash : '/' ∉ value.toList
  noQuestionMark : '?' ∉ value.toList

/-- A part without a percent sign is decoded to itself. -/
theorem Target.decodePart_of_isPlain
    {value : String}
    (plain : IsPlain value) :
    Target.decodePart value.toList = value := by
  rw [Target.decodePart, Url.decode?_of_not_mem plain.noPercent,
    Option.getD_some, String.ofList_toList]

/-- A path that is written without escapes is matched as it is written. -/
theorem Target.decodedPath?_of_plain
    {target : Target}
    {rest : List Char}
    (written : target.path = '/' :: rest)
    (noPercent : '%' ∉ rest)
    (noQuestionMark : '?' ∉ rest) :
    target.decodedPath? = some ('/' :: rest) := by
  obtain ⟨behind, routed, ends⟩ :
      ∃ behind,
        target.routed = '/' :: (rest ++ behind) ∧
          behind.takeWhile (· != '?') = [] := by
    cases query : target.query with
    | none =>
        refine ⟨[], ?_, rfl⟩
        simp only [Target.routed, Url.Location.text, written,
          List.cons_append, List.head?_cons, if_true, query]
    | some text =>
        refine ⟨'?' :: text, ?_, rfl⟩
        simp only [Target.routed, Url.Location.text, written,
          List.cons_append, List.head?_cons, if_true, query]
  have taken : (rest ++ behind).takeWhile (· != '?') = rest := by
    have kept : ∀ c ∈ rest, (c != '?') = true := by
      intro c listed
      have unequal : c ≠ '?' := fun same => noQuestionMark (same ▸ listed)
      simp [unequal]
    rw [List.takeWhile_append_of_pos kept, ends, List.append_nil]
  unfold Target.decodedPath?
  rw [routed]
  simp only [taken]
  exact Url.decodeExcept?_of_not_mem _ (by simp [noPercent])

namespace PatternSegment

/-- The text of a segment with a value for its parameter. -/
def filled (values : String → String) : PatternSegment → String
  | fixed text => text
  | param name => values name

@[simp] theorem filled_fixed (values : String → String) (text : String) :
    (fixed text).filled values = text := rfl

@[simp] theorem filled_param (values : String → String) (name : String) :
    (param name).filled values = values name := rfl

/-- The parameters of some segments with their values. -/
def paramsOf (values : String → String) :
    List PatternSegment → Record String
  | [] => []
  | fixed _ :: rest => paramsOf values rest
  | param name :: rest => (name, values name) :: paramsOf values rest

end PatternSegment

namespace Route

/-- The path of a route with values for its parameters. -/
def pathWith (values : String → String) (route : Route) : List Char :=
  route.pattern.flatMap fun segment => '/' :: (segment.filled values).toList

/-- Whether some value is too long for a parameter. -/
def isOverlong (params : Record String) : Bool :=
  params.any fun param => decide (maxParam < Text.unitLength param.2)

/-- Filled segments agree with their pattern unless a value is too long. -/
theorem compareSegments_filled
    {values : String → String}
    (plain : ∀ name, IsPlain (values name))
    (pattern : List PatternSegment) :
    compareSegments pattern
        (pattern.map fun segment => (segment.filled values).toList) =
      if isOverlong (PatternSegment.paramsOf values pattern) then .overlong
      else .agrees (PatternSegment.paramsOf values pattern) := by
  induction pattern with
  | nil => rfl
  | cons segment rest inductionHypothesis =>
      cases segment with
      | fixed text =>
          rw [List.map_cons, PatternSegment.filled_fixed, compareSegments,
            if_pos rfl, inductionHypothesis]
          rfl
      | param name =>
          rw [List.map_cons, PatternSegment.filled_param, compareSegments,
            Target.decodePart_of_isPlain (plain name), inductionHypothesis]
          by_cases long : maxParam < Text.unitLength (values name)
          · simp [PatternSegment.paramsOf, isOverlong, long]
          · have short :
                isOverlong
                    (PatternSegment.paramsOf values (.param name :: rest)) =
                  isOverlong (PatternSegment.paramsOf values rest) := by
              simp [PatternSegment.paramsOf, isOverlong, long]
            rw [short]
            cases isOverlong (PatternSegment.paramsOf values rest) <;>
              simp [PatternSegment.paramsOf, long]

/-- A path of plain segments is taken apart into these segments. -/
private theorem splitOn_filled
    {texts : List String}
    (slashless : ∀ text ∈ texts, '/' ∉ text.toList)
    (notEmpty : texts ≠ []) :
    ((texts.flatMap fun text => '/' :: text.toList).drop 1).splitOn '/' =
      texts.map String.toList := by
  induction texts with
  | nil => exact absurd rfl notEmpty
  | cons text rest inductionHypothesis =>
      obtain ⟨first, others⟩ := List.forall_mem_cons.1 slashless
      cases rest with
      | nil => simp [List.splitOn_eq_singleton first]
      | cons next more =>
          have split := inductionHypothesis others (by simp)
          simp only [List.flatMap_cons, List.cons_append,
            List.drop_succ_cons, List.drop_zero] at split ⊢
          rw [List.splitOn_append_cons_self_of_not_mem first, split]
          rfl

/-- The fixed segments of all routes are plain. -/
theorem isPlain_of_fixed
    {route : Route}
    {text : String}
    (listed : .fixed text ∈ route.pattern) :
    IsPlain text := by
  have plain : ∀ text ∈ ["health", "backends", "validate", "instances"],
      IsPlain text := by
    intro text named
    simp only [List.mem_cons, List.not_mem_nil, or_false] at named
    rcases named with rfl | rfl | rfl | rfl <;>
      exact ⟨by decide, by decide, by decide⟩
  refine plain text ?_
  cases route <;> grind [pattern]

/-- The path of a route leads to it, unless a value is too long. -/
theorem ofTarget_pathWith
    {route : Route}
    {verb : String}
    (verbed : ofVerb verb = [route])
    (notOptions : verb ≠ "OPTIONS")
    (segmented : route.pattern ≠ [])
    {values : String → String}
    (plain : ∀ name, IsPlain (values name))
    {target : Target}
    (written : target.path = route.pathWith values) :
    Destination.ofTarget verb target =
      if isOverlong (PatternSegment.paramsOf values route.pattern) then
        .error (.overlongParam (route.pathWith values))
      else
        .ok ⟨some route, PatternSegment.paramsOf values route.pattern⟩ := by
  have plainSegments :
      ∀ segment ∈ route.pattern, IsPlain (segment.filled values) := by
    intro segment listed
    cases segment with
    | fixed text => exact isPlain_of_fixed listed
    | param name => exact plain name
  obtain ⟨rest, spelled⟩ :
      ∃ rest, route.pathWith values = '/' :: rest := by
    unfold pathWith
    cases pattern : route.pattern with
    | nil => exact absurd pattern segmented
    | cons segment others => exact ⟨_, rfl⟩
  have absent :
      ∀ c,
        c ≠ '/' →
        (∀ text, IsPlain text → c ∉ text.toList) →
        c ∉ rest := by
    intro c notSlash apart listed
    have inPath : c ∈ route.pathWith values := by
      rw [spelled]
      exact List.mem_cons_of_mem _ listed
    obtain ⟨segment, member, inSegment⟩ := List.mem_flatMap.1 inPath
    rcases List.mem_cons.1 inSegment with isSlash | inText
    · exact notSlash isSlash
    · exact apart _ (plainSegments segment member) inText
  have decoded :
      target.decodedPath? = some (route.pathWith values) := by
    rw [spelled]
    refine Target.decodedPath?_of_plain (written.trans spelled) ?_ ?_
    · exact absent '%' (by decide) fun _ isPlain => isPlain.noPercent
    · exact absent '?' (by decide) fun _ isPlain => isPlain.noQuestionMark
  have pieces :
      ((route.pathWith values).drop 1).splitOn '/' =
        route.pattern.map fun segment =>
          (segment.filled values).toList := by
    have slashless :
        ∀ text ∈ route.pattern.map (·.filled values),
          '/' ∉ text.toList := by
      intro text listed
      obtain ⟨segment, member, rfl⟩ := List.mem_map.1 listed
      exact (plainSegments segment member).noSlash
    have split := splitOn_filled slashless (by simpa using segmented)
    rw [List.flatMap_map, List.map_map] at split
    exact split
  simp only [Destination.ofTarget, decoded, Destination.ofPath,
    if_neg notOptions, verbed, Destination.among, pieces,
    compareSegments_filled plain]
  cases isOverlong (PatternSegment.paramsOf values route.pattern) <;> rfl

end Route

end Http

end StorageBackends
