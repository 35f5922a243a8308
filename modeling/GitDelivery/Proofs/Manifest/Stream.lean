import GitDelivery.Manifest.Document
import GitDelivery.Proofs.Text

set_option autoImplicit false

/-! Streams of documents. Splitting gives back the documents that were joined by separator lines, whatever
else without content stands between the separators. -/

namespace GitDelivery.Manifest

/-! ### Lines -/

/-- A line of three dashes, then blanks or tabs, then nothing or a comment. -/
def IsSeparatorLine (line : List Char) : Prop :=
  ∃ gap comment, line = '-' :: '-' :: '-' :: (gap ++ comment) ∧ (∀ c ∈ gap, c = ' ' ∨ c = '\t') ∧
    (comment = [] ∨ comment.head? = some '#')

def IsContentLine (line : List Char) : Prop :=
  ∃ blanks c rest, line = blanks ++ c :: rest ∧ (∀ blank ∈ blanks, Text.isBlank blank = true) ∧
    Text.isBlank c = false ∧ c ≠ '#'

theorem isGap_iff {c : Char} : isGap c = true ↔ c = ' ' ∨ c = '\t' := by
  simp [isGap]

theorem isSeparator_iff {line : List Char} : isSeparator line = true ↔ IsSeparatorLine line := by
  constructor
  · intro separator
    unfold isSeparator at separator
    split at separator
    · next rest =>
        refine ⟨rest.takeWhile isGap, rest.dropWhile isGap, ?_, ?_, ?_⟩
        · rw [List.takeWhile_append_dropWhile]
        · intro c member
          exact isGap_iff.mp (List.all_eq_true.mp List.all_takeWhile c member)
        · split at separator
          · next ends => exact .inl ends
          · next c later goesOn =>
              rw [goesOn]
              exact .inr (congrArg some (of_decide_eq_true separator))
    · cases separator
  · rintro ⟨gap, comment, rfl, gaps, ends⟩
    have stops : ∀ c, comment.head? = some c → isGap c = false := by
      intro c first
      rcases ends with rfl | sign
      · cases first
      · obtain rfl : c = '#' := Option.some.inj (first.symm.trans sign)
        decide
    have dropped : (gap ++ comment).dropWhile isGap = comment :=
      Text.dropWhile_of_stops (fun c member => isGap_iff.mpr (gaps c member)) stops
    rw [isSeparator, dropped]
    cases comment with
    | nil => rfl
    | cons c later =>
        rcases ends with impossible | sign
        · cases impossible
        · exact decide_eq_true (Option.some.inj sign)

theorem hasContent_iff {line : List Char} : hasContent line = true ↔ IsContentLine line := by
  constructor
  · intro content
    have parts := List.takeWhile_append_dropWhile (p := Text.isBlank) (l := line)
    have ends := List.head?_dropWhile_not Text.isBlank line
    unfold hasContent at content
    split at content
    · cases content
    · next c rest after =>
        rw [after] at parts ends
        refine ⟨line.takeWhile Text.isBlank, c, rest, parts.symm, ?_, ends, of_decide_eq_true content⟩
        intro blank member
        exact List.all_eq_true.mp List.all_takeWhile blank member
  · rintro ⟨blanks, c, rest, rfl, all, notBlank, notSign⟩
    have after : (blanks ++ c :: rest).dropWhile Text.isBlank = c :: rest := by
      apply Text.dropWhile_of_stops all
      intro first same
      rw [← Option.some.inj same]
      exact notBlank
    unfold hasContent
    rw [after]
    exact decide_eq_true notSign

instance (line : List Char) : Decidable (IsSeparatorLine line) :=
  decidable_of_iff _ isSeparator_iff

instance (line : List Char) : Decidable (IsContentLine line) :=
  decidable_of_iff _ hasContent_iff

def linesOf (text : String) : List (List Char) :=
  Text.pieces '\n' text.toList

theorem joinLines_eq (lines : List (List Char)) : joinLines lines = ['\n'].intercalate lines := by
  induction lines with
  | nil => rfl
  | cons line rest ih =>
      cases rest with
      | nil => exact List.intercalate_singleton.symm
      | cons next later =>
          rw [joinLines, ih, List.intercalate_cons_cons, List.append_assoc]
          rfl

theorem joinLines_pieces (chars : List Char) : joinLines (Text.pieces '\n' chars) = chars := by
  rw [joinLines_eq, Text.pieces_eq, List.intercalate_splitOn]

/-! ### Groups of lines -/

def documentsOf (lines : List (List Char)) : List String :=
  ((groups lines).filter fun group => group.any hasContent).map documentText

/-- Lines are grouped as lists are split where something holds. -/
theorem groups_eq (lines : List (List Char)) : groups lines = lines.splitOnP isSeparator := by
  induction lines with
  | nil => rfl
  | cons line rest ih =>
      rw [groups, ih, List.splitOnP_cons_eq_if_modifyHead]
      cases cut : rest.splitOnP isSeparator with
      | nil => exact absurd cut (List.splitOnP_ne_nil _ _)
      | cons group more => rfl

private theorem documentsOf_append_separator {separator : List Char}
    (separates : isSeparator separator = true) (before after : List (List Char)) :
    documentsOf (before ++ separator :: after) = documentsOf before ++ documentsOf after := by
  unfold documentsOf
  simp only [groups_eq]
  rw [List.splitOnP_append_cons before after separates, List.filter_append, List.map_append]

/-! ### Pieces of a stream -/

structure IsSeparator (line : String) : Prop where
  unbroken : '\n' ∉ line.toList
  separates : IsSeparatorLine line.toList

/-- A document as splitting gives it: it has something to say, is not separated in itself, and neither
starts nor ends with an empty line. -/
structure IsDocument (text : String) : Prop where
  content : ∃ line ∈ linesOf text, IsContentLine line
  whole : ∀ line ∈ linesOf text, ¬IsSeparatorLine line
  starts : text.toList.head? ≠ some '\n'
  ends : text.toList.getLast? ≠ some '\n'

def IsFiller (text : String) : Prop :=
  ∀ line ∈ linesOf text, ¬IsContentLine line

instance (line : String) : Decidable (IsSeparator line) :=
  decidable_of_iff ('\n' ∉ line.toList ∧ IsSeparatorLine line.toList)
    ⟨fun ⟨unbroken, separates⟩ => ⟨unbroken, separates⟩,
      fun separator => ⟨separator.unbroken, separator.separates⟩⟩

instance (text : String) : Decidable (IsDocument text) :=
  decidable_of_iff ((∃ line ∈ linesOf text, IsContentLine line) ∧
      (∀ line ∈ linesOf text, ¬IsSeparatorLine line) ∧ text.toList.head? ≠ some '\n' ∧
      text.toList.getLast? ≠ some '\n')
    ⟨fun ⟨content, whole, starts, ends⟩ => ⟨content, whole, starts, ends⟩,
      fun document => ⟨document.content, document.whole, document.starts, document.ends⟩⟩

instance (text : String) : Decidable (IsFiller text) :=
  inferInstanceAs (Decidable (∀ line ∈ linesOf text, ¬IsContentLine line))

inductive Piece where
  | separator (line : String)
  | document (text : String)
  | filler (text : String)

namespace Piece

def text : Piece → String
  | separator line => line
  | document text => text
  | filler text => text

def Fits : Piece → Prop
  | separator line => IsSeparator line
  | document text => IsDocument text
  | filler text => IsFiller text

instance : (piece : Piece) → Decidable piece.Fits
  | separator line => inferInstanceAs (Decidable (IsSeparator line))
  | document text => inferInstanceAs (Decidable (IsDocument text))
  | filler text => inferInstanceAs (Decidable (IsFiller text))

def isSeparator : Piece → Bool
  | separator _ => true
  | document _ => false
  | filler _ => false

def document? : Piece → Option String
  | separator _ => none
  | document text => some text
  | filler _ => none

end Piece

/-- Pieces that make a stream: of two that follow each other one is a separator. -/
inductive IsStream : List Piece → Prop where
  | nil : IsStream []
  | cons {piece : Piece} {rest : List Piece} : piece.Fits → IsStream rest →
      (∀ next, rest.head? = some next → piece.isSeparator = true ∨ next.isSeparator = true) →
      IsStream (piece :: rest)

def render (pieces : List Piece) : String :=
  "\n".intercalate (pieces.map Piece.text)

def linesOfAll (pieces : List Piece) : List (List Char) :=
  pieces.flatMap fun piece => linesOf piece.text

private theorem linesOf_append (before after : String) :
    linesOf (before ++ "\n" ++ after) = linesOf before ++ linesOf after := by
  unfold linesOf
  have chars : (before ++ "\n" ++ after).toList = before.toList ++ '\n' :: after.toList := by
    simp [String.toList_append]
  rw [chars, Text.pieces_append_separator]

private theorem linesOf_render (first : Piece) (rest : List Piece) :
    linesOf (render (first :: rest)) = linesOfAll (first :: rest) := by
  induction rest generalizing first with
  | nil =>
      unfold render
      rw [List.map_singleton, String.intercalate_singleton]
      exact (List.append_nil _).symm
  | cons next rest ih =>
      have joined : render (first :: next :: rest) = first.text ++ "\n" ++ render (next :: rest) :=
        String.intercalate_cons_cons
      rw [joined, linesOf_append, ih]
      rfl

private theorem whole_of_filler {text : String} (filler : IsFiller text) :
    ∀ line ∈ linesOf text, ¬IsSeparatorLine line := by
  rintro line listed ⟨gap, comment, rfl, -, -⟩
  exact filler _ listed ⟨[], '-', '-' :: '-' :: (gap ++ comment), rfl,
    List.forall_mem_nil _, by decide, by decide⟩

theorem documentsOf_whole {lines : List (List Char)} (whole : ∀ line ∈ lines, ¬IsSeparatorLine line) :
    documentsOf lines = if lines.any hasContent then [documentText lines] else [] := by
  have together : groups lines = [lines] := by
    rw [groups_eq]
    apply List.splitOnP_eq_singleton
    intro line listed
    apply Bool.eq_false_iff.mpr
    exact fun separates => whole line listed (isSeparator_iff.mp separates)
  unfold documentsOf
  rw [together, List.filter_cons, List.filter_nil]
  split <;> rfl

theorem IsDocument.documentsOf_eq {text : String} (document : IsDocument text) :
    documentsOf (linesOf text) = [text] := by
  obtain ⟨line, listed, content⟩ := document.content
  have found : (linesOf text).any hasContent = true :=
    List.any_eq_true.mpr ⟨line, listed, hasContent_iff.mpr content⟩
  have same : documentText (linesOf text) = text := by
    unfold documentText linesOf
    rw [joinLines_pieces, String.ofList_toList, Text.trimChar_of_ends document.starts document.ends]
  rw [documentsOf_whole document.whole, if_pos found, same]

private theorem IsFiller.documentsOf_eq {text : String} (filler : IsFiller text) :
    documentsOf (linesOf text) = [] := by
  have none : ¬(linesOf text).any hasContent = true := by
    intro found
    obtain ⟨line, listed, content⟩ := List.any_eq_true.mp found
    exact filler line listed (hasContent_iff.mp content)
  rw [documentsOf_whole (whole_of_filler filler), if_neg none]

theorem IsSeparator.documentsOf_eq {line : String} (separator : IsSeparator line)
    (before after : List (List Char)) :
    documentsOf (before ++ (linesOf line ++ after)) = documentsOf before ++ documentsOf after := by
  have single : linesOf line = [line.toList] := Text.pieces_of_not_mem separator.unbroken
  rw [single]
  exact documentsOf_append_separator (isSeparator_iff.mpr separator.separates) before after

/-- Nothing is one document across a piece that separates. -/
theorem Piece.Fits.documentsOf_append {piece : Piece} (fits : piece.Fits)
    (separates : piece.isSeparator = true) (before after : List (List Char)) :
    documentsOf (before ++ (linesOf piece.text ++ after)) = documentsOf before ++ documentsOf after := by
  cases piece with
  | separator line => exact IsSeparator.documentsOf_eq fits before after
  | document text => cases separates
  | filler text => cases separates

theorem Piece.Fits.documentsOf_eq {piece : Piece} (fits : piece.Fits) :
    documentsOf (linesOf piece.text) = piece.document?.toList := by
  cases piece with
  | separator line =>
      have cut := IsSeparator.documentsOf_eq fits [] []
      rw [List.nil_append, List.append_nil] at cut
      exact cut
  | document text => exact IsDocument.documentsOf_eq fits
  | filler text => exact IsFiller.documentsOf_eq fits

theorem IsStream.documentsOf_cons {piece : Piece} {rest : List Piece}
    (stream : IsStream (piece :: rest)) :
    documentsOf (linesOfAll (piece :: rest)) =
      documentsOf (linesOf piece.text) ++ documentsOf (linesOfAll rest) := by
  change documentsOf (linesOf piece.text ++ linesOfAll rest) = _
  cases stream with
  | cons fits onward apart =>
    cases onward with
    | nil =>
        have nothing : documentsOf (linesOfAll []) = [] := rfl
        rw [nothing, List.append_nil]
        exact congrArg documentsOf (List.append_nil _)
    | @cons next later nextFits _ _ =>
        -- One of two neighbours separates: this piece itself, or the one below it.
        rcases apart next rfl with separates | separates
        · have alone := fits.documentsOf_append separates [] []
          rw [List.append_nil] at alone
          rw [← List.nil_append (linesOf piece.text), alone, List.nil_append]
          exact fits.documentsOf_append separates [] _
        · have cut := nextFits.documentsOf_append separates
          exact (cut _ _).trans (congrArg (documentsOf _ ++ ·) (cut [] _).symm)

/-- The documents among the pieces of a stream are the documents of its lines. -/
theorem IsStream.documentsOf_eq {pieces : List Piece} (stream : IsStream pieces) :
    documentsOf (linesOfAll pieces) = pieces.filterMap Piece.document? := by
  induction stream with
  | nil => rfl
  | @cons piece rest fits onward apart ih =>
      rw [(IsStream.cons fits onward apart).documentsOf_cons, fits.documentsOf_eq, ih]
      cases piece <;> rfl

private theorem IsStream.splitDocuments_eq {pieces : List Piece} (stream : IsStream pieces) :
    splitDocuments (render pieces) = pieces.filterMap Piece.document? := by
  cases pieces with
  | nil => rfl
  | cons first rest =>
      change documentsOf (linesOf (render (first :: rest))) = _
      rw [linesOf_render]
      exact stream.documentsOf_eq

/-! ### Joining -/

/-- Texts one below the other, each after the first with a line of its own before it. -/
def joined (first : String) : List (String × String) → String
  | [] => first
  | (line, next) :: rest => first ++ "\n" ++ line ++ "\n" ++ joined next rest

def piecesOf (first : String) (rest : List (String × String)) : List Piece :=
  .document first :: rest.flatMap fun entry => [.separator entry.1, .document entry.2]

private theorem joined_eq_render (first : String) (rest : List (String × String)) :
    joined first rest = render (piecesOf first rest) := by
  induction rest generalizing first with
  | nil =>
      unfold render piecesOf
      exact String.intercalate_singleton.symm
  | cons entry rest ih =>
      have later : render (piecesOf first (entry :: rest)) =
          first ++ "\n" ++ (entry.1 ++ "\n" ++ render (piecesOf entry.2 rest)) := by
        unfold render piecesOf
        rw [List.flatMap_cons]
        simp only [List.cons_append, List.nil_append, List.map_cons, String.intercalate_cons_cons]
        rfl
      rw [joined, ih, later]
      simp only [String.append_assoc]

private theorem isStream_piecesOf {first : String} {rest : List (String × String)}
    (document : IsDocument first)
    (others : ∀ entry ∈ rest, IsSeparator entry.1 ∧ IsDocument entry.2) :
    IsStream (piecesOf first rest) := by
  induction rest generalizing first with
  | nil => exact .cons document .nil fun _ impossible => nomatch impossible
  | cons entry rest ih =>
      obtain ⟨⟨separator, next⟩, later⟩ := List.forall_mem_cons.mp others
      have onward : IsStream (piecesOf entry.2 rest) := ih next later
      have separated : IsStream (.separator entry.1 :: piecesOf entry.2 rest) :=
        .cons separator onward fun _ _ => .inl rfl
      refine .cons document separated ?_
      intro following same
      rw [← Option.some.inj same]
      exact .inr rfl

private theorem documents_piecesOf (first : String) (rest : List (String × String)) :
    (piecesOf first rest).filterMap Piece.document? = first :: rest.map Prod.snd := by
  induction rest generalizing first with
  | nil => rfl
  | cons entry rest ih => exact congrArg (first :: ·) (ih entry.2)

/-- Splitting gives back the texts that were joined by separator lines; and every stream of pieces in
which these texts are the documents, with any separator lines, blank and comment-only documents between,
before and after them, is split into the same. -/
theorem splits_as_joined (first : String) (rest : List (String × String))
    (document : IsDocument first)
    (others : ∀ entry ∈ rest, IsSeparator entry.1 ∧ IsDocument entry.2) :
    splitDocuments (joined first rest) = first :: rest.map Prod.snd ∧
      ∀ pieces, IsStream pieces →
        pieces.filterMap Piece.document? = first :: rest.map Prod.snd →
          splitDocuments (render pieces) = splitDocuments (joined first rest) := by
  have whole : splitDocuments (joined first rest) = first :: rest.map Prod.snd := by
    rw [joined_eq_render, (isStream_piecesOf document others).splitDocuments_eq, documents_piecesOf]
  refine ⟨whole, ?_⟩
  intro pieces stream same
  rw [stream.splitDocuments_eq, same, whole]

def commented : List Piece :=
  [.separator "---", .document "a: 1", .separator "--- # next", .filler "\n# only a comment",
    .separator "---  ", .document "b:\n  - 2"]

private theorem isStream_commented : IsStream commented := by
  have fits : ∀ piece ∈ commented, piece.Fits := by decide
  simp only [commented, List.forall_mem_cons] at fits
  obtain ⟨opening, first, next, comment, last, second, -⟩ := fits
  refine .cons opening (.cons first (.cons next (.cons comment (.cons last (.cons second .nil ?_) ?_)
    ?_) ?_) ?_) ?_
  all_goals simp [Piece.isSeparator]

theorem commented_splits_as_joined :
    splitDocuments (joined "a: 1" [("---", "b:\n  - 2")]) = ["a: 1", "b:\n  - 2"] ∧
      splitDocuments "---\na: 1\n--- # next\n\n# only a comment\n---  \nb:\n  - 2" =
        splitDocuments (joined "a: 1" [("---", "b:\n  - 2")]) := by
  have others : ∀ entry ∈ [("---", "b:\n  - 2")], IsSeparator entry.1 ∧ IsDocument entry.2 := by
    decide
  obtain ⟨split, stays⟩ := splits_as_joined "a: 1" [("---", "b:\n  - 2")] (by decide) others
  exact ⟨split, stays commented isStream_commented rfl⟩

end GitDelivery.Manifest
