import Mathlib.Data.List.DropRight
import SignatureLint.Proofs.Dump.Origin
import SignatureLint.Proofs.Dump.Step

/-!
# Blank lines in a dump

A blank line says nothing: it is no header, no member and no end, and so it only moves the numbers of
the lines after it. A text with blank lines put in after its first line (`BlankLinesAdded`) declares the
classes it declared before, up to the numbers of the lines they stand on
(`BlankLinesAdded.classes_alike`).

The first line is set apart because it alone may name the format. That a blank line is put in is said
of the pieces between the line feeds of the text, so a last line without a line feed is no special case.
-/

namespace SignatureLint

/-! ## Texts with blank lines put in -/

/-- The pieces of a text with blank pieces put in. -/
inductive Padded : List (List Char) → List (List Char) → Prop where
  | nil : Padded [] []
  | keep (piece : List Char) {pieces padded : List (List Char)} :
    Padded pieces padded → Padded (piece :: pieces) (piece :: padded)
  | blank {piece : List Char} {pieces padded : List (List Char)} :
    (∀ c ∈ piece, Text.isBlank c = true) → Padded pieces padded → Padded pieces (piece :: padded)

/-- The text with blank lines put in anywhere after its first line. -/
def BlankLinesAdded (text added : String) : Prop :=
  ∃ first pieces padded, text.toList.splitOn '\n' = first :: pieces ∧
    added.toList.splitOn '\n' = first :: padded ∧ Padded pieces padded

theorem Padded.refl (pieces : List (List Char)) : Padded pieces pieces := by
  induction pieces with
  | nil => exact .nil
  | cons piece pieces ih => exact .keep piece ih

/-- Nothing comes of putting blank pieces in but blank pieces. -/
theorem Padded.eq_nil {pieces padded : List (List Char)} (added : Padded pieces padded) (nothing : padded = []) :
    pieces = [] := by
  cases added with
  | nil => rfl
  | keep => cases nothing
  | blank => cases nothing

namespace Text

theorem trimEnd_eq_rdropWhile (text : List Char) : trimEnd text = text.rdropWhile isBlank := rfl

theorem trimEnd_eq_nil {text : List Char} (blank : ∀ c ∈ text, isBlank c = true) : trimEnd text = [] :=
  List.rdropWhile_eq_nil_iff.mpr blank

/-- The carriage return of a line's end is blank. -/
theorem trimEnd_dropReturn (line : List Char) : trimEnd (dropReturn line) = trimEnd line := by
  unfold dropReturn
  split
  next returned =>
    obtain ⟨front, rfl⟩ := List.getLast?_eq_some_iff.mp returned
    have blank : isBlank '\r' = true := by decide
    rw [List.dropLast_concat, trimEnd_eq_rdropWhile, trimEnd_eq_rdropWhile, List.rdropWhile_concat_pos _ _ _ blank]
  · rfl

theorem linesOfPieces_cons {piece : List Char} {pieces : List (List Char)} (more : pieces ≠ []) :
    linesOfPieces (piece :: pieces) = dropReturn piece :: linesOfPieces pieces := by
  cases pieces with
  | nil => exact absurd rfl more
  | cons next pieces => rfl

/-- The lines of the pieces, each without the blanks that end it. -/
def trimmedLines (pieces : List (List Char)) : List (List Char) := (linesOfPieces pieces).map trimEnd

theorem trimmedLines_cons {piece : List Char} {pieces : List (List Char)} (more : pieces ≠ []) :
    trimmedLines (piece :: pieces) = trimEnd piece :: trimmedLines pieces := by
  rw [trimmedLines, linesOfPieces_cons more, List.map_cons, trimEnd_dropReturn]
  rfl

theorem trimmedLines_single {piece : List Char} (filled : piece ≠ []) : trimmedLines [piece] = [trimEnd piece] := by
  rw [trimmedLines, linesOfPieces, if_neg filled]
  rfl

/-- A first piece that is kept is the first line of both texts, or there was no line. -/
theorem trimmedLines_keep (piece : List Char) {pieces padded : List (List Char)} (added : Padded pieces padded) :
    (trimmedLines (piece :: pieces) = trimEnd piece :: trimmedLines pieces ∧
        trimmedLines (piece :: padded) = trimEnd piece :: trimmedLines padded) ∨
      (piece = [] ∧ pieces = []) := by
  by_cases more : pieces = []
  · by_cases filled : piece = []
    · exact .inr ⟨filled, more⟩
    · subst more
      refine .inl ⟨trimmedLines_single filled, ?_⟩
      by_cases nothing : padded = []
      · subst nothing
        exact trimmedLines_single filled
      · exact trimmedLines_cons nothing
  · exact .inl ⟨trimmedLines_cons more, trimmedLines_cons fun nothing => more (added.eq_nil nothing)⟩

end Text

open Text

/-- Blank pieces make blank lines. -/
theorem Padded.trimmedLines {pieces padded : List (List Char)} (added : Padded pieces padded) :
    Padded (trimmedLines pieces) (trimmedLines padded) := by
  induction added with
  | nil => exact .nil
  | @keep piece pieces padded added ih =>
    rcases trimmedLines_keep piece added with ⟨left, right⟩ | ⟨rfl, rfl⟩
    · rw [left, right]
      exact .keep _ ih
    · by_cases nothing : padded = []
      · subst nothing
        exact .refl _
      · rw [trimmedLines_cons nothing]
        exact .blank (by simp [trimEnd_eq_nil]) ih
  | @blank piece pieces padded blank added ih =>
    by_cases nothing : padded = []
    · obtain rfl := added.eq_nil nothing
      subst nothing
      by_cases filled : piece = []
      · subst filled
        exact .nil
      · rw [trimmedLines_single filled, trimEnd_eq_nil blank]
        exact .blank (fun c mem => absurd mem List.not_mem_nil) .nil
    · rw [trimmedLines_cons nothing, trimEnd_eq_nil blank]
      exact .blank (fun c mem => absurd mem List.not_mem_nil) ih

/-! ## Lines that are read alike -/

/-- The origin with the number of the line left out. -/
def Origin.unnumbered (o : Origin) : Origin := { o with line := 0 }

/-- A line without the blanks that end it. -/
def trimmed (text : String) : List Char := trimEnd text.toList

theorem trimmed_eq_nil {text : String} (blank : ∀ c ∈ trimmed text, isBlank c = true) : trimmed text = [] := by
  have again : trimEnd (trimmed text) = trimmed text := List.rdropWhile_idempotent isBlank text.toList
  rw [← again]
  exact trimEnd_eq_nil blank

namespace Line

theorem ofText_congr {text text' : String} (same : trimmed text = trimmed text') (m n : Nat) :
    (ofText m text).text = (ofText n text').text ∧ (ofText m text).blame = (ofText n text').blame := by
  have same : trimEnd text.toList = trimEnd text'.toList := same
  unfold ofText
  rw [same]
  dsimp only
  split
  · exact ⟨rfl, rfl⟩
  · exact ⟨rfl, rfl⟩

/-- Where a line stood decides nothing of its origin but the number. -/
theorem unnumbered_origin_ofText {text text' : String} (same : trimmed text = trimmed text') (m n : Nat) :
    (ofText m text).origin.unnumbered = (ofText n text').origin.unnumbered := by
  obtain ⟨text, blame⟩ := ofText_congr same m n
  rw [origin, origin, Origin.unnumbered, Origin.unnumbered, text, blame]

theorem ofText_of_blank {text : String} (blank : trimmed text = []) (n : Nat) :
    ofText n text = { number := n, text := [], blame := none } := by
  have blank : trimEnd text.toList = [] := blank
  rw [ofText, blank]
  rfl

end Line

namespace Reader

/-- A blank line is counted and no more. -/
theorem take_blank (r : Reader) {text : String} (blank : trimmed text = []) (number : Nat) :
    r.take (.ofText number text) = ({ r with line := number }, none) := by
  have line := Line.ofText_of_blank blank number
  have noVersion : (Line.ofText number text).version? = none := by
    rw [line]
    have unnamed : ({ number, text := [], blame := none } : Line).startsWith Line.formatStart = false := rfl
    rw [Line.version?, unnamed, Bool.and_false]
    rfl
  rw [take_of_version?_eq_none noVersion, line]
  rfl

theorem feed_blank (r : Reader) {text : String} (blank : trimmed text = []) :
    r.feed text = ({ r with line := r.line + 1 }, none) := r.take_blank blank (r.line + 1)

variable {r s : Reader} {text text' : String}

/-- Past the first line, lines with one text are read alike. -/
theorem Alike.feed (alike : Alike Origin.unnumbered r s) (same : trimmed text = trimmed text') (hr : r.line ≠ 0)
    (hs : s.line ≠ 0) : AlikeStep Origin.unnumbered (r.feed text) (s.feed text') := by
  have left : (Line.ofText (r.line + 1) text).version? = none :=
    Line.version?_of_number_ne (by rw [Line.number_ofText]; omega)
  have right : (Line.ofText (s.line + 1) text').version? = none :=
    Line.version?_of_number_ne (by rw [Line.number_ofText]; omega)
  rw [feed_of_version?_eq_none left, feed_of_version?_eq_none right]
  exact (alike.withLine _ _).feedLine (Line.ofText_congr same _ _).1 (Line.unnumbered_origin_ofText same _ _)

/-- As first lines, too. -/
theorem Alike.feed_first (alike : Alike Origin.unnumbered r s) (same : trimmed text = trimmed text') (hr : r.line = 0)
    (hs : s.line = 0) : AlikeStep Origin.unnumbered (r.feed text) (s.feed text') := by
  obtain ⟨sameText, -⟩ := Line.ofText_congr same (0 + 1) (0 + 1)
  have sameVersion : (Line.ofText (0 + 1) text).version? = (Line.ofText (0 + 1) text').version? := by
    rw [Line.version?, Line.version?, Line.number_ofText, Line.number_ofText, Line.startsWith, Line.startsWith,
      sameText]
  rw [← hr] at sameText sameVersion
  have alike := alike.withLine (r.line + 1) (s.line + 1)
  have again : r.line = s.line := hr.trans hs.symm
  cases names : (Line.ofText (s.line + 1) text').version? with
  | none =>
    rw [feed_of_version?_eq_none names, feed_of_version?_eq_none (sameVersion.trans (again ▸ names))]
    exact alike.feedLine (again ▸ sameText) (Line.unnumbered_origin_ofText same _ _)
  | some version =>
    rw [feed_of_version?_eq_some names, feed_of_version?_eq_some (sameVersion.trans (again ▸ names))]
    refine ⟨?_, rfl⟩
    dsimp only [Reader.setFormat]
    cases Format.ofHeaderVersion? version with
    | none => exact ⟨rfl, alike.package, alike.scope⟩
    | some format => exact ⟨rfl, alike.package, alike.scope⟩

/-- Blank lines alone end no class. -/
theorem feedAll_blank (r : Reader) {lines : List String} (blank : ∀ line ∈ lines, trimmed line = []) :
    (r.feedAll lines).2 = [] := by
  induction lines generalizing r with
  | nil => rfl
  | cons line lines ih =>
    rw [feedAll_cons, feed_blank r (blank line List.mem_cons_self)]
    exact ih _ fun later mem => blank later (List.mem_cons_of_mem line mem)

/-- **Past the first line, blank lines change no class** but the numbers in it. -/
theorem Alike.feedAll_padded (alike : Alike Origin.unnumbered r s) (hr : r.line ≠ 0) (hs : s.line ≠ 0)
    {lines lines' : List String} (added : Padded (lines.map trimmed) (lines'.map trimmed)) :
    (r.feedAll lines).2.map (Class.mapOrigin Origin.unnumbered) =
      (s.feedAll lines').2.map (Class.mapOrigin Origin.unnumbered) := by
  generalize left : lines.map trimmed = pieces at added
  generalize right : lines'.map trimmed = padded at added
  induction added generalizing r s lines lines' with
  | nil =>
    rw [List.map_eq_nil_iff.mp left, List.map_eq_nil_iff.mp right]
    rfl
  | @keep piece pieces padded added ih =>
    obtain ⟨line, lines, rfl, rfl, rfl⟩ := List.map_eq_cons_iff.mp left
    obtain ⟨line', lines', rfl, same, rfl⟩ := List.map_eq_cons_iff.mp right
    have step := alike.feed same.symm hr hs
    have rest := ih step.reader (line_feed_pos r line).ne' (line_feed_pos s line').ne' rfl rfl
    have ended : (r.feed line).2.toList.map (Class.mapOrigin Origin.unnumbered) =
        (s.feed line').2.toList.map (Class.mapOrigin Origin.unnumbered) := by
      rw [← Option.toList_map, ← Option.toList_map, step.ended]
    rw [feedAll_cons, feedAll_cons, List.map_append, List.map_append, rest, ended]
  | @blank piece pieces padded blank added ih =>
    obtain ⟨line', lines', rfl, rfl, rfl⟩ := List.map_eq_cons_iff.mp right
    rw [feedAll_cons, feed_blank s (trimmed_eq_nil blank)]
    exact ih (alike.withLine r.line (s.line + 1)) hr (by simp) left rfl

end Reader

/-! ## Whole dumps -/

theorem map_trimmed_lines (text : String) : (lines text).map trimmed = trimmedLines (text.toList.splitOn '\n') := by
  rw [lines, List.map_map, trimmedLines]
  apply List.map_congr_left
  intro line _
  rw [Function.comp_apply, trimmed, String.toList_ofList]

theorem Padded.blank_of_nil {padded : List (List Char)} (added : Padded [] padded) :
    ∀ piece ∈ padded, ∀ c ∈ piece, isBlank c = true := by
  generalize nothing : ([] : List (List Char)) = pieces at added
  induction added with
  | nil => exact fun piece mem => absurd mem List.not_mem_nil
  | keep => cases nothing
  | blank blank added ih =>
    intro piece mem
    rcases List.mem_cons.mp mem with rfl | mem
    · exact blank
    · exact ih nothing piece mem

theorem Dump.classes_contents (d : Dump) :
    d.contents.classes = ((Reader.start d.name).feedAll (lines d.text)).2 := rfl

/-- **Blank lines put in after the first line change no class** but the numbers of its lines. -/
theorem BlankLinesAdded.classes_alike {d padded : Dump} (added : BlankLinesAdded d.text padded.text) :
    padded.contents.classes.map (Class.mapOrigin Origin.unnumbered) =
      d.contents.classes.map (Class.mapOrigin Origin.unnumbered) := by
  obtain ⟨first, pieces, pieces', left, right, added⟩ := added
  have lines_d := map_trimmed_lines d.text
  have lines_padded := map_trimmed_lines padded.text
  rw [left] at lines_d
  rw [right] at lines_padded
  rw [Dump.classes_contents, Dump.classes_contents]
  rcases trimmedLines_keep first added with ⟨keep, keep'⟩ | ⟨rfl, rfl⟩
  · rw [keep] at lines_d
    rw [keep'] at lines_padded
    obtain ⟨line, rest, split, same, restPieces⟩ := List.map_eq_cons_iff.mp lines_d
    obtain ⟨line', rest', split', same', restPieces'⟩ := List.map_eq_cons_iff.mp lines_padded
    have start : Reader.Alike Origin.unnumbered (Reader.start d.name) (Reader.start padded.name) := ⟨rfl, rfl, rfl⟩
    have step := start.feed_first (same.trans same'.symm) rfl rfl
    have later := step.reader.feedAll_padded (by rw [Reader.line_feed]; omega) (by rw [Reader.line_feed]; omega)
      (restPieces ▸ restPieces' ▸ added.trimmedLines)
    have ended : ((Reader.start d.name).feed line).2.toList.map (Class.mapOrigin Origin.unnumbered) =
        ((Reader.start padded.name).feed line').2.toList.map (Class.mapOrigin Origin.unnumbered) := by
      rw [← Option.toList_map, ← Option.toList_map, step.ended]
    rw [split, split', Reader.feedAll_cons, Reader.feedAll_cons, List.map_append, List.map_append, ended, later]
  · -- a text without lines: what was put in is all there is
    have allBlank : ∀ line ∈ lines padded.text, trimmed line = [] := by
      have only := (Padded.blank (fun c mem => absurd mem List.not_mem_nil) added).trimmedLines.blank_of_nil
      intro line mem
      apply trimmed_eq_nil
      apply only
      rw [← lines_padded]
      exact List.mem_map_of_mem mem
    have empty : lines d.text = [] := List.map_eq_nil_iff.mp lines_d
    rw [empty, Reader.feedAll_blank _ allBlank]
    rfl

end SignatureLint
