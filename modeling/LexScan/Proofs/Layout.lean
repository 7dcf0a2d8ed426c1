import LexScan.Proofs.Boundary

/-! Sources that are written as texts of the language with blanks between them. Whatever the texts
contain, such a source is read as just these texts: each is recognised in full, and the blank behind
it keeps it apart from the next. Nothing but the names can be complained of then. -/
namespace LexScan

open Text Grammar

/-- A text of the language and the blanks behind it. -/
structure Piece where
  kind : Kind
  lexeme : List Char
  gap : List Char
  member : TokenText kind lexeme
  blank : gap.all isBlank = true

namespace Piece

def text (piece : Piece) : List Char := piece.lexeme ++ piece.gap

def segments (piece : Piece) : List Segment :=
  .token piece.kind piece.lexeme :: piece.gap.map .blank

/-- What is wrong with a text of the language as a name, wherever it stands. -/
def complaint? (limit : Nat) (piece : Piece) : Option (Fault × String) :=
  (Token.nameFault? limit ⟨piece.kind, String.ofList piece.lexeme, .start⟩).map fun d =>
    (d.fault, d.lexeme)

end Piece

/-- Any blanks first, then texts of the language, with at least one blank behind each but the
last. -/
structure Layout where
  lead : List Char
  pieces : List Piece
  blank : lead.all isBlank = true
  apart : ∀ piece ∈ pieces.dropLast, piece.gap ≠ []

def Layout.source (layout : Layout) : String :=
  String.ofList (layout.lead ++ layout.pieces.flatMap Piece.text)

namespace Segment

theorem read_of_isBlank {c : Char} (blank : isBlank c = true) (rest : List Char) :
    read c rest = (.blank c, rest) := by
  simp [read, blank]

theorem split_blanks {gap : List Char} (blank : gap.all isBlank = true) (rest : List Char) :
    split (gap ++ rest) = gap.map .blank ++ split rest := by
  induction gap with
  | nil => rfl
  | cons c gap ih =>
      rw [List.all_cons, Bool.and_eq_true] at blank
      rw [List.cons_append, split_cons, read_of_isBlank blank.1, ih blank.2]
      rfl

theorem ends_gap {piece : Piece} {later : List Piece}
    (apart : ∀ other ∈ (piece :: later).dropLast, other.gap ≠ []) :
    Ends (piece.gap ++ later.flatMap Piece.text) := by
  intro c first
  cases gap : piece.gap with
  | cons d others =>
      obtain rfl : d = c := by simpa [gap] using first
      exact List.all_eq_true.1 piece.blank d (by simp [gap])
  | nil =>
      -- without a blank the piece is the last one, and nothing follows
      cases later with
      | nil => simp [gap] at first
      | cons next others => exact absurd gap (apart piece (by simp))

theorem split_pieces {pieces : List Piece} (apart : ∀ piece ∈ pieces.dropLast, piece.gap ≠ []) :
    split (pieces.flatMap Piece.text) = pieces.flatMap Piece.segments := by
  induction pieces with
  | nil => simp
  | cons piece later ih =>
      have others : ∀ other ∈ later.dropLast, other.gap ≠ [] := by
        intro other member
        cases later with
        | nil => simp at member
        | cons next rest => exact apart other (by simp [member])
      have whole : (piece :: later).flatMap Piece.text =
          piece.lexeme ++ (piece.gap ++ later.flatMap Piece.text) := by
        simp [Piece.text]
      rw [whole, split_of_ends piece.member (ends_gap apart), split_blanks piece.blank, ih others]
      rfl

theorem split_layout (layout : Layout) :
    split layout.source.toList =
      layout.lead.map .blank ++ layout.pieces.flatMap Piece.segments := by
  rw [Layout.source, String.toList_ofList, split_blanks layout.blank, split_pieces layout.apart]

/-- The faults of a segment and the texts that their reports show. -/
def complaints (limit : Nat) (segment : Segment) : List (Fault × String) :=
  (segment.diagnostics limit .start).map fun d => (d.fault, d.lexeme)

theorem map_diagnostics (limit : Nat) (place : Position) (segment : Segment) :
    (segment.diagnostics limit place).map (fun d => (d.fault, d.lexeme)) =
      segment.complaints limit := by
  rw [diagnostics_eq_map, List.map_map]
  rfl

theorem complaints_blanks (limit : Nat) (gap : List Char) :
    (gap.map Segment.blank).flatMap (complaints limit) = [] := by
  simp [complaints, diagnostics]

theorem complaints_piece (limit : Nat) (piece : Piece) :
    piece.segments.flatMap (complaints limit) = (piece.complaint? limit).toList := by
  rw [Piece.segments, List.flatMap_cons, complaints_blanks, List.append_nil, complaints,
    diagnostics, Piece.complaint?, Option.toList_map]

theorem lexemes_blanks (gap : List Char) : (gap.map Segment.blank).filterMap lexeme? = [] := by
  simp [List.filterMap_map, Function.comp_def, lexeme?]

theorem lexemes_piece (piece : Piece) :
    piece.segments.filterMap lexeme? = [(piece.kind, String.ofList piece.lexeme)] := by
  rw [Piece.segments, List.filterMap_cons, lexemes_blanks]
  rfl

end Segment

namespace Scanner

theorem map_diagnosticsAhead (s : Scanner) :
    s.diagnosticsAhead.map (fun d => (d.fault, d.lexeme)) =
      (Segment.split s.rest).flatMap (Segment.complaints s.limit) := by
  rw [← Segment.map_snd_placed s.position (Segment.split s.rest), diagnosticsAhead,
    List.map_flatMap, List.flatMap_map]
  exact List.flatMap_congr fun entry _ => Segment.map_diagnostics s.limit entry.1 entry.2

/-- A source that is laid out from texts of the language is read as these texts with their kinds,
and then it ends. It is complained of just those identifiers that do not begin with an upper-case
letter, and of those that do and are too long; so of nothing if there are none of either. -/
theorem drain_layout (layout : Layout) (limit : Nat) :
    ((ofSource layout.source limit).drain.1.map fun token => (token.kind, token.lexeme)) =
      layout.pieces.map (fun piece => (piece.kind, String.ofList piece.lexeme)) ++
        [(.endOfInput, "")] ∧
    ((ofSource layout.source limit).drain.2.diagnostics.toList.map fun d => (d.fault, d.lexeme)) =
      layout.pieces.filterMap (Piece.complaint? limit) ∧
    ((∀ piece ∈ layout.pieces, piece.kind = .literal .identifier →
        startsUppercase (String.ofList piece.lexeme) = true ∧ piece.lexeme.length ≤ limit) →
      (ofSource layout.source limit).drain.2.diagnostics.toList = []) := by
  have complained : ((ofSource layout.source limit).drain.2.diagnostics.toList.map
      fun d => (d.fault, d.lexeme)) = layout.pieces.filterMap (Piece.complaint? limit) := by
    rw [diagnostics_drain_ofSource, map_diagnosticsAhead]
    change (Segment.split layout.source.toList).flatMap (Segment.complaints limit) = _
    rw [Segment.split_layout, List.flatMap_append, Segment.complaints_blanks, List.nil_append,
      List.flatMap_assoc, List.filterMap_eq_flatMap_toList]
    exact List.flatMap_congr fun piece _ => Segment.complaints_piece limit piece
  refine ⟨?_, complained, ?_⟩
  · rw [drain_tokens, List.map_append, map_tokensAhead]
    change (Segment.split layout.source.toList).filterMap Segment.lexeme? ++ _ = _
    rw [Segment.split_layout, List.filterMap_append, Segment.lexemes_blanks, List.nil_append,
      List.filterMap_flatMap]
    simp only [Segment.lexemes_piece]
    rw [← List.map_eq_flatMap]
    rfl
  · intro fine
    have none_left : layout.pieces.filterMap (Piece.complaint? limit) = [] := by
      rw [List.filterMap_eq_nil_iff]
      intro piece member
      by_cases identifier : piece.kind = .literal .identifier
      · obtain ⟨upper, short⟩ := fine piece member identifier
        simp [Piece.complaint?, Token.nameFault?, upper, Nat.not_lt.2 short]
      · simp [Piece.complaint?, Token.nameFault?_of_ne, identifier]
    rw [none_left] at complained
    exact List.map_eq_nil_iff.1 complained

theorem parts_of_all {tail : List Char} (all : tail.all isWordPart = true) :
    ∀ d ∈ tail, isAlphanumeric d = true ∨ d = '_' :=
  fun d member => Segment.isWordPart_iff.1 (List.all_eq_true.1 all d member)

/-- Two names with a reserved word, a number and two quoted texts between them. The number has an
exponent without digits, the string contains a quote and a line feed, and the character is a line
feed. -/
def assortedLayout : Layout where
  lead := ['\t']
  pieces :=
    [⟨_, 'T' :: ['o', 't'], ['\r', '\n'],
       .word (by decide) (parts_of_all (by decide)) (.name (by simp [reservedWords])), by decide⟩,
     ⟨.keyword .elseWord, 'e' :: ['l', 's', 'e'], [' '],
       .word (by decide) (parts_of_all (by decide)) (.reserved (by decide)), by decide⟩,
     ⟨_, ['-'] ++ ['1'] ++ ('.' :: []) ++ ('e' :: (['+'] ++ [])), [' '],
       .number .minus (by simp) (by simp [Digits]) (.point (by simp [Digits]))
        (.letter (.inl rfl) .plus (by simp [Digits])), by decide⟩,
     ⟨_, ['"', '\\', '"', '\n', '"'], [' ', ' '],
       .string (.escape (by decide) (.plain (by decide) (by decide) .close)), by decide⟩,
     ⟨_, ['\'', '\n', '\''], ['\t'], .character (by decide), by decide⟩,
     ⟨_, 'n' :: ['_', '1'], [],
       .word (by decide) (parts_of_all (by decide)) (.name (by simp [reservedWords])), by decide⟩]
  blank := by decide
  apart := by simp

theorem drain_assortedLayout :
    assortedLayout.source = "\tTot\r\nelse -1.e+ \"\\\"\n\"  '\n'\tn_1" ∧
    ((ofSource assortedLayout.source 2).drain.1.map fun token => (token.kind, token.lexeme)) =
      [(.literal .identifier, "Tot"), (.keyword .elseWord, "else"), (.literal .float, "-1.e+"),
       (.literal .string, "\"\\\"\n\""), (.literal .character, "'\n'"),
       (.literal .identifier, "n_1"), (.endOfInput, "")] ∧
    ((ofSource assortedLayout.source 2).drain.2.diagnostics.toList.map
        fun d => (d.fault, d.lexeme)) =
      [(.identifierLength, "Tot"), (.invalidIdentifier, "n_1")] :=
  ⟨by decide, (drain_layout assortedLayout 2).1.trans (by decide),
    (drain_layout assortedLayout 2).2.1.trans (by decide)⟩

end Scanner
end LexScan
