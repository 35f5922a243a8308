import GitDelivery.Proofs.Manifest.Stream

set_option autoImplicit false

/-! Line ends of streams. A carriage return before a newline is a blank like others where content is looked
for, and part of a comment, but it is none of the blanks that may follow the dashes of a separator: a
separator without a comment does not separate once its line ends in a carriage return. -/

namespace GitDelivery.Manifest

/-! ### Documents and their lines -/

theorem linesOf_joinLines {lines : List (List Char)} (present : lines ≠ [])
    (unbroken : ∀ line ∈ lines, '\n' ∉ line) :
    linesOf (String.ofList (joinLines lines)) = lines := by
  unfold linesOf
  rw [String.toList_ofList, joinLines_eq, Text.pieces_eq, List.splitOn_intercalate _ unbroken present]

theorem flatten_groups (lines : List (List Char)) :
    (groups lines).flatten = lines.filter fun line => !isSeparator line := by
  induction lines with
  | nil => rfl
  | cons line rest ih =>
      cases separates : isSeparator line with
      | true => rw [groups, if_pos separates, List.flatten_cons, List.nil_append, ih,
          List.filter_cons_of_neg (by simp [separates])]
      | false =>
          rw [List.filter_cons_of_pos (by simp [separates]), ← ih, groups,
            if_neg (by simp [separates])]
          cases groups rest <;> rfl

theorem mem_linesOf_documentText_iff {group : List (List Char)} {line : List Char}
    (filled : line ≠ []) (unbroken : ∀ line ∈ group, '\n' ∉ line) :
    line ∈ linesOf (documentText group) ↔ line ∈ group := by
  have trimmed : line ∈ linesOf (documentText group) ↔
      line ∈ linesOf (String.ofList (joinLines group)) := Text.mem_pieces_trimChar_iff filled
  rw [trimmed]
  cases group with
  | nil => exact iff_of_false (fun member => filled (List.mem_singleton.mp member)) List.not_mem_nil
  | cons first rest => rw [linesOf_joinLines (List.cons_ne_nil first rest) unbroken]

theorem ne_nil_of_hasContent {line : List Char} (content : hasContent line = true) : line ≠ [] := by
  rintro rfl
  cases content

/-- The lines with something to say in the documents are those of the stream that do not separate. -/
theorem exists_document_iff {lines : List (List Char)} {line : List Char}
    (content : hasContent line = true) (unbroken : ∀ line ∈ lines, '\n' ∉ line) :
    (∃ document ∈ documentsOf lines, line ∈ linesOf document) ↔
      line ∈ lines ∧ isSeparator line = false := by
  have filled := ne_nil_of_hasContent content
  have grouped : line ∈ (groups lines).flatten ↔ line ∈ lines ∧ isSeparator line = false := by
    rw [flatten_groups, List.mem_filter, Bool.not_eq_true']
  have whole {group : List (List Char)} (listed : group ∈ groups lines) :
      ∀ line ∈ group, '\n' ∉ line := by
    intro inner member
    have inFlat := List.mem_flatten.mpr ⟨group, listed, member⟩
    rw [flatten_groups] at inFlat
    exact unbroken inner (List.mem_filter.mp inFlat).1
  rw [← grouped, List.mem_flatten]
  constructor
  · rintro ⟨document, listed, member⟩
    obtain ⟨group, kept, rfl⟩ := List.mem_map.mp listed
    have grouping := (List.mem_filter.mp kept).1
    exact ⟨group, grouping, (mem_linesOf_documentText_iff filled (whole grouping)).mp member⟩
  · rintro ⟨group, listed, member⟩
    have kept : group ∈ (groups lines).filter fun group => group.any hasContent :=
      List.mem_filter.mpr ⟨listed, List.any_eq_true.mpr ⟨line, member, content⟩⟩
    exact ⟨documentText group, List.mem_map.mpr ⟨group, kept, rfl⟩,
      (mem_linesOf_documentText_iff filled (whole listed)).mpr member⟩

/-! ### Carriage returns -/

def withReturns (text : String) : String :=
  String.ofList (text.toList.flatMap fun c => if c = '\n' then ['\r', '\n'] else [c])

def withoutReturns (chars : List Char) : List Char :=
  chars.filter (· ≠ '\r')

/-- A document without carriage returns, and then without newlines at its ends. -/
def normalized (document : String) : String :=
  Text.trimChar '\n' (String.ofList (withoutReturns document.toList))

/-- Three dashes and then nothing but blanks and tabs. -/
def IsBareSeparator (line : List Char) : Prop :=
  ∃ gap, line = '-' :: '-' :: '-' :: gap ∧ ∀ c ∈ gap, c = ' ' ∨ c = '\t'

theorem IsBareSeparator.separates {line : List Char} (bare : IsBareSeparator line) :
    IsSeparatorLine line := by
  obtain ⟨gap, rfl, gaps⟩ := bare
  exact ⟨gap, [], by rw [List.append_nil], gaps, .inl rfl⟩

/-- With a carriage return at its end, a line separates only if a comment makes room for it. -/
theorem isSeparator_append_return_iff {line : List Char} :
    isSeparator (line ++ ['\r']) = true ↔ IsSeparatorLine line ∧ ¬IsBareSeparator line := by
  rw [isSeparator_iff]
  constructor
  · rintro ⟨gap, comment, shape, gaps, ends⟩
    rcases List.eq_nil_or_concat comment with rfl | ⟨before, last, rfl⟩
    · -- the carriage return would be one of the dashes, or in the gap
      have inside : '\r' ∈ '-' :: '-' :: '-' :: gap := by
        rw [List.append_nil] at shape
        rw [← shape]
        exact List.mem_append_right line List.mem_cons_self
      simp only [List.mem_cons, Char.reduceEq, false_or] at inside
      rcases gaps _ inside with impossible | impossible <;> cases impossible
    · rw [List.concat_eq_append, ← List.append_assoc] at shape
      have split : line ++ ['\r'] = ('-' :: '-' :: '-' :: (gap ++ before)) ++ [last] := shape
      obtain ⟨rfl, same⟩ := List.append_inj' split rfl
      obtain rfl : '\r' = last := (List.cons.inj same).1
      have sign : before.head? = some '#' := by
        rcases ends with nothing | sign
        · exact absurd nothing (by simp)
        · cases before with
          | nil => cases sign
          | cons c rest => exact sign
      refine ⟨⟨gap, before, rfl, gaps, .inr sign⟩, ?_⟩
      rintro ⟨whole, same, gaps⟩
      have parts : gap ++ before = whole := by simpa using same
      have member : '#' ∈ whole := parts ▸ List.mem_append_right gap (List.mem_of_head? sign)
      rcases gaps _ member with impossible | impossible <;> cases impossible
  · rintro ⟨⟨gap, comment, rfl, gaps, ends⟩, notBare⟩
    have sign : comment.head? = some '#' := by
      refine ends.resolve_left ?_
      rintro rfl
      exact notBare ⟨gap, by rw [List.append_nil], gaps⟩
    refine ⟨gap, comment ++ ['\r'], by simp, gaps, .inr ?_⟩
    rw [List.head?_append, sign]
    rfl

instance (line : List Char) : Decidable (IsBareSeparator line) :=
  decidable_of_iff (IsSeparatorLine line ∧ ¬isSeparator (line ++ ['\r']) = true) <| by
    rw [isSeparator_append_return_iff, not_and, Classical.not_not]
    exact ⟨fun both => both.2 both.1, fun bare => ⟨bare.separates, fun _ => bare⟩⟩

theorem withoutReturns_of_not_mem {chars : List Char} (plain : '\r' ∉ chars) :
    withoutReturns chars = chars := by
  rw [withoutReturns, List.filter_eq_self]
  intro c member
  exact decide_eq_true fun same => plain (same ▸ member)

theorem hasContent_cons (c : Char) (rest : List Char) :
    hasContent (c :: rest) = if Text.isBlank c then hasContent rest else decide (c ≠ '#') := by
  unfold hasContent
  rw [List.dropWhile_cons]
  cases Text.isBlank c <;> rfl

private theorem hasContent_withoutReturns (line : List Char) :
    hasContent (withoutReturns line) = hasContent line := by
  induction line with
  | nil => rfl
  | cons c rest ih =>
      by_cases isReturn : c = '\r'
      · subst isReturn
        rw [hasContent_cons, if_pos (by decide), ← ih]
        rfl
      · have kept : withoutReturns (c :: rest) = c :: withoutReturns rest :=
          List.filter_cons_of_pos (decide_eq_true isReturn)
        rw [kept, hasContent_cons, hasContent_cons, ih]

theorem withoutReturns_joinLines (lines : List (List Char)) :
    withoutReturns (joinLines lines) = joinLines (lines.map withoutReturns) := by
  fun_induction joinLines lines with
  | case1 => rfl
  | case2 line => rfl
  | case3 line next rest ih =>
      unfold withoutReturns at ih ⊢
      rw [List.filter_append, List.filter_cons_of_pos (by decide), ih]
      rfl

theorem linesOf_withoutReturns (document : String) :
    linesOf (String.ofList (withoutReturns document.toList)) =
      (linesOf document).map withoutReturns := by
  have unbroken : ∀ line ∈ (linesOf document).map withoutReturns, '\n' ∉ line := by
    intro line listed member
    obtain ⟨whole, among, rfl⟩ := List.mem_map.mp listed
    exact Text.not_mem_of_mem_pieces among (List.mem_filter.mp member).1
  have present : (linesOf document).map withoutReturns ≠ [] := fun nothing =>
    Text.pieces_ne_nil _ (List.map_eq_nil_iff.mp nothing)
  have joined : withoutReturns document.toList = joinLines ((linesOf document).map withoutReturns) := by
    rw [← withoutReturns_joinLines, linesOf, joinLines_pieces]
  rw [joined, linesOf_joinLines present unbroken]

private theorem normalized_trimChar (text : String) :
    normalized (Text.trimChar '\n' text) = normalized text := by
  obtain ⟨before, after, whole⟩ := Text.exists_padded '\n' text
  have copies (count : Nat) : withoutReturns (List.replicate count '\n') = List.replicate count '\n' :=
    withoutReturns_of_not_mem fun member => absurd (List.eq_of_mem_replicate member) (by decide)
  have parts : withoutReturns text.toList = List.replicate before '\n' ++
      (withoutReturns (Text.trimChar '\n' text).toList ++ List.replicate after '\n') := by
    rw [← copies before, ← copies after, whole]
    unfold withoutReturns
    rw [List.filter_append, List.filter_append]
  unfold normalized
  rw [parts, Text.trimChar_padded]

private theorem documentText_map (group : List (List Char)) :
    documentText (group.map withoutReturns) = normalized (documentText group) := by
  unfold documentText
  rw [normalized_trimChar, normalized, String.toList_ofList, withoutReturns_joinLines]

private theorem groups_map {f : List Char → List Char} {lines : List (List Char)}
    (same : ∀ line ∈ lines, isSeparator (f line) = isSeparator line) :
    groups (lines.map f) = (groups lines).map (List.map f) := by
  induction lines with
  | nil => rfl
  | cons line rest ih =>
      obtain ⟨first, others⟩ := List.forall_mem_cons.mp same
      rw [List.map_cons, groups, groups, first, ih others]
      cases groups rest with
      | nil => split <;> rfl
      | cons group more => split <;> rfl

/-- Lines that separate alike without their carriage returns make the same documents without them. -/
theorem documentsOf_withoutReturns {lines : List (List Char)}
    (same : ∀ line ∈ lines, isSeparator (withoutReturns line) = isSeparator line) :
    documentsOf (lines.map withoutReturns) = (documentsOf lines).map normalized := by
  have content : (fun group => group.any hasContent) ∘ List.map withoutReturns =
      fun group => group.any hasContent := by
    funext group
    rw [Function.comp_apply, List.any_map]
    exact congrArg group.any (funext hasContent_withoutReturns)
  have text : documentText ∘ List.map withoutReturns = normalized ∘ documentText :=
    funext documentText_map
  unfold documentsOf
  rw [groups_map same, List.filter_map, List.map_map, List.map_map, content, text]

/-! ### Ended lines -/

def ended : List (List Char) → List (List Char)
  | [] => []
  | [last] => [last]
  | line :: next :: rest => (line ++ ['\r']) :: ended (next :: rest)

theorem linesOf_withReturns (text : String) :
    linesOf (withReturns text) = ended (linesOf text) := by
  unfold linesOf withReturns
  rw [String.toList_ofList]
  induction text.toList with
  | nil => rfl
  | cons c rest ih =>
      rw [List.flatMap_cons]
      by_cases newline : c = '\n'
      · subst newline
        -- The return that comes before the newline ends the piece that is begun here.
        have both : Text.pieces '\n' ('\r' :: '\n' :: rest.flatMap fun c =>
            if c = '\n' then ['\r', '\n'] else [c]) = ['\r'] :: ended (Text.pieces '\n' rest) := by
          rw [← ih]
          rfl
        refine both.trans ?_
        rw [Text.pieces, if_pos rfl]
        cases cut : Text.pieces '\n' rest with
        | nil => exact absurd cut (Text.pieces_ne_nil rest)
        | cons piece more => rfl
      · rw [if_neg newline, List.singleton_append, Text.pieces, Text.pieces, if_neg newline,
          if_neg newline, ih]
        cases cut : Text.pieces '\n' rest with
        | nil => exact absurd cut (Text.pieces_ne_nil rest)
        | cons piece more => cases more <;> rfl

private theorem mem_ended_of_mem_dropLast {lines : List (List Char)} {line : List Char}
    (member : line ∈ lines.dropLast) : line ++ ['\r'] ∈ ended lines := by
  fun_induction ended lines with
  | case1 => cases member
  | case2 last => cases member
  | case3 first next rest ih =>
      rcases List.mem_cons.mp member with rfl | later
      · exact List.mem_cons_self
      · exact List.mem_cons_of_mem _ (ih later)

private theorem cases_of_mem_ended {lines : List (List Char)} {line : List Char}
    (member : line ∈ ended lines) :
    line ∈ lines ∨ ∃ before ∈ lines.dropLast, line = before ++ ['\r'] := by
  fun_induction ended lines with
  | case1 => cases member
  | case2 last => exact .inl member
  | case3 first next rest ih =>
      rcases List.mem_cons.mp member with rfl | later
      · exact .inr ⟨first, List.mem_cons_self, rfl⟩
      · rcases ih later with among | ⟨before, among, same⟩
        · exact .inl (List.mem_cons_of_mem first among)
        · exact .inr ⟨before, List.mem_cons_of_mem first among, same⟩

theorem withoutReturns_append_return {line : List Char} (plain : '\r' ∉ line) :
    withoutReturns (line ++ ['\r']) = line := by
  have dropped : withoutReturns (line ++ ['\r']) = withoutReturns line := by
    unfold withoutReturns
    rw [List.filter_append]
    exact List.append_nil _
  rw [dropped, withoutReturns_of_not_mem plain]

private theorem map_withoutReturns_ended {lines : List (List Char)}
    (plain : ∀ line ∈ lines, '\r' ∉ line) :
    (ended lines).map withoutReturns = lines := by
  fun_induction ended lines with
  | case1 => rfl
  | case2 last => rw [List.map_singleton, withoutReturns_of_not_mem (plain last List.mem_cons_self)]
  | case3 first next rest ih =>
      obtain ⟨here, others⟩ := List.forall_mem_cons.mp plain
      rw [List.map_cons, withoutReturns_append_return here, ih others]

theorem plain_linesOf {text : String} (plain : '\r' ∉ text.toList) :
    ∀ line ∈ linesOf text, '\r' ∉ line := by
  have same : linesOf text = (linesOf text).map withoutReturns := by
    rw [← linesOf_withoutReturns, withoutReturns_of_not_mem plain, String.ofList_toList]
  intro line listed member
  rw [same] at listed
  obtain ⟨whole, -, rfl⟩ := List.mem_map.mp listed
  exact absurd (List.mem_filter.mp member).2 (by decide)

theorem unbroken_linesOf (text : String) : ∀ line ∈ linesOf text, '\n' ∉ line :=
  fun _ => Text.not_mem_of_mem_pieces

theorem IsBareSeparator.hasContent_append {line : List Char} (bare : IsBareSeparator line)
    (rest : List Char) : hasContent (line ++ rest) = true := by
  obtain ⟨gap, rfl, -⟩ := bare
  rw [List.cons_append, hasContent_cons]
  rfl

theorem IsBareSeparator.hasContent {line : List Char} (bare : IsBareSeparator line) :
    hasContent line = true := by
  have whole := bare.hasContent_append []
  rwa [List.append_nil] at whole

/-! ### Streams with either line end -/

/-- A separator without a comment that is ended stands in a document of the stream with returns. -/
theorem exists_normalized_of_bare {text : String} {line : List Char}
    (plain : '\r' ∉ text.toList) (isEnded : line ∈ (linesOf text).dropLast)
    (bare : IsBareSeparator line) :
    ∃ document ∈ (splitDocuments (withReturns text)).map normalized, line ∈ linesOf document := by
  have listed : line ++ ['\r'] ∈ linesOf (withReturns text) := by
    rw [linesOf_withReturns]
    exact mem_ended_of_mem_dropLast isEnded
  have joins : isSeparator (line ++ ['\r']) = false := by
    apply Bool.eq_false_iff.mpr
    exact fun separates => (isSeparator_append_return_iff.mp separates).2 bare
  obtain ⟨document, among, inside⟩ := (exists_document_iff (bare.hasContent_append _)
    (unbroken_linesOf (withReturns text))).mpr ⟨listed, joins⟩
  refine ⟨normalized document, List.mem_map_of_mem among, ?_⟩
  have returnless := plain_linesOf plain line (List.dropLast_subset _ isEnded)
  have kept : line ∈ linesOf (String.ofList (withoutReturns document.toList)) := by
    rw [linesOf_withoutReturns]
    exact List.mem_map.mpr ⟨line ++ ['\r'], inside, withoutReturns_append_return returnless⟩
  exact (Text.mem_pieces_trimChar_iff (ne_nil_of_hasContent bare.hasContent)).mpr kept

/-- Where every separator that is ended has a comment, the same lines separate with returns. -/
theorem normalized_splitDocuments {text : String} (plain : '\r' ∉ text.toList)
    (commented : ∀ line ∈ (linesOf text).dropLast, ¬IsBareSeparator line) :
    (splitDocuments (withReturns text)).map normalized = splitDocuments text := by
  have plainLines := plain_linesOf plain
  have alike : ∀ line ∈ ended (linesOf text),
      isSeparator (withoutReturns line) = isSeparator line := by
    intro line listed
    rcases cases_of_mem_ended listed with among | ⟨before, isEnded, rfl⟩
    · rw [withoutReturns_of_not_mem (plainLines line among)]
    · have among := List.dropLast_subset _ isEnded
      rw [withoutReturns_append_return (plainLines before among), Bool.eq_iff_iff,
        isSeparator_append_return_iff, isSeparator_iff]
      exact (and_iff_left (commented before isEnded)).symm
  change (documentsOf (linesOf (withReturns text))).map normalized = documentsOf (linesOf text)
  rw [linesOf_withReturns, ← documentsOf_withoutReturns alike, map_withoutReturns_ended plainLines]

/-- A text and the text with carriage returns have equally many documents, and the same but for these
returns and newlines at their ends, exactly if no line that is ended is a separator without a comment. -/
theorem splits_alike_iff (text : String) (plain : '\r' ∉ text.toList) :
    ((splitDocuments (withReturns text)).length = (splitDocuments text).length ∧
        (splitDocuments (withReturns text)).map normalized = splitDocuments text) ↔
      ∀ line ∈ (linesOf text).dropLast, ¬IsBareSeparator line := by
  constructor
  · rintro ⟨-, same⟩ line isEnded bare
    obtain ⟨document, among, inside⟩ := exists_normalized_of_bare plain isEnded bare
    rw [same] at among
    -- But no line of a document of the text itself separates.
    have joins := ((exists_document_iff bare.hasContent (unbroken_linesOf text)).mp
      ⟨document, among, inside⟩).2
    rw [isSeparator_iff.mpr bare.separates] at joins
    cases joins
  · intro commented
    have same := normalized_splitDocuments plain commented
    exact ⟨by rw [← same, List.length_map], same⟩

/-- The separator is kept by its comment. -/
theorem commented_splits_alike :
    '\r' ∉ "a: 1\n--- # next\nb: 2".toList ∧
      (splitDocuments "a: 1\r\n--- # next\r\nb: 2").map normalized = ["a: 1", "b: 2"] := by
  have plain : '\r' ∉ "a: 1\n--- # next\nb: 2".toList := by decide
  have commented : ∀ line ∈ (linesOf "a: 1\n--- # next\nb: 2").dropLast, ¬IsBareSeparator line := by
    decide
  exact ⟨plain, ((splits_alike_iff _ plain).mpr commented).2⟩

/-- Without a comment, the line is one of the only document. -/
theorem not_always_alike :
    ¬∀ text : String, '\r' ∉ text.toList →
      (splitDocuments (withReturns text)).length = (splitDocuments text).length ∧
        (splitDocuments (withReturns text)).map normalized = splitDocuments text := by
  intro always
  have same := (always "a: 1\n---\nb: 2" (by decide)).1
  exact absurd same (by decide)

end GitDelivery.Manifest
