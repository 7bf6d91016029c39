import PatternLint.Proofs.Document

/-! The table of lines against the pieces between newlines.
The table has one entry for each piece and cuts the text there between two characters; past the
last piece it has none.  A directive is therefore found through the table where it is found in the
pieces, on the first line and past the last one as well. -/

namespace PatternLint

namespace Source

theorem lines_eq_splitOn (s : Source) : s.lines = s.splitOn '\n' := by
  induction s with
  | nil => rfl
  | cons c s ih =>
    obtain ⟨first, rest, hs⟩ := List.exists_cons_of_ne_nil (List.splitOn_ne_nil '\n' s)
    rw [lines, ih, hs, List.splitOn_cons_eq_if_modifyHead, hs]
    simp

theorem LineAt.isBoundary {s before line after : Source} {n : Nat}
    (h : LineAt s n before line after) :
    s.IsBoundary (byteLen before) ∧ s.IsBoundary (byteLen before + byteLen line) := by
  rw [isBoundary_iff, isBoundary_iff]
  refine ⟨⟨before, line ++ after, h.text_eq, rfl⟩, before ++ line, after, ?_, byteLen_append _ _⟩
  rw [h.text_eq, List.append_assoc]

end Source

namespace Document

open Source

/-- The lines of a document are the pieces between the newlines of its text: as many, each found
between two characters, and none past the last one.  Whether a rule is silenced on a line, existing
or not, comes out the same from either. -/
theorem lineTable_eq_splitOn (path : Path) (s : Source) :
    let d := ofText path s
    d.lines.lineCount = (s.splitOn '\n').length ∧
      (∀ n < d.lines.lineCount, ∃ start stop line,
        d.lines.lineRange? n = some (start, stop) ∧ s.IsBoundary start ∧ s.IsBoundary stop ∧
          d.lineText? n = some line ∧ (s.splitOn '\n')[n]? = some line) ∧
      (∀ n, d.lines.lineCount ≤ n → d.lineText? n = none) ∧
      ∀ n code, d.isSuppressed n code = PatternLint.isSuppressed s n code := by
  intro d
  have hcount : d.lines.lineCount = s.lines.length := LineIndex.lineCount_ofSource s
  rw [hcount, ← lines_eq_splitOn]
  refine ⟨rfl, fun n hn => ?_, fun n hn => ?_, isSuppressed_ofText path s⟩
  · obtain ⟨before, line, after, hline⟩ := exists_lineAt hn
    obtain ⟨hstart, hstop⟩ := hline.isBoundary
    exact ⟨_, _, line, LineIndex.lineRange?_of_lineAt hline, hstart, hstop,
      lineText?_of_lineAt path hline, hline.getElem?_lines⟩
  · rw [lineText?_ofText, List.getElem?_eq_none hn]

/-- A text that ends in a newline: its last line is empty, the line after that is missing, and the
directive above the line of accents is found through the table. -/
theorem lineTable_eq_splitOn_accents :
    let s := "// NOLINTNEXTLINE(A)\né€\n".toList
    let d := ofText ⟨"a.cpp"⟩ s
    d.lines.lineCount = 3 ∧ d.lineText? 1 = some "é€".toList ∧ d.lineText? 2 = some [] ∧
      d.lineText? 3 = none ∧ d.isSuppressed 1 "A" = true ∧
      ∀ code, d.isSuppressed 3 code = PatternLint.isSuppressed s 3 code := by
  intro s d
  obtain ⟨hcount, hlines, hpast, hsuppressed⟩ := lineTable_eq_splitOn ⟨"a.cpp"⟩ s
  have hsplit : s.splitOn '\n' = ["// NOLINTNEXTLINE(A)".toList, "é€".toList, []] := by
    rw [← lines_eq_splitOn]
    decide
  rw [hsplit] at hcount hlines
  obtain ⟨-, -, line, -, -, -, htext, hpiece⟩ := hlines 1 (by rw [hcount]; decide)
  obtain ⟨-, -, last, -, -, -, hlast, hlastPiece⟩ := hlines 2 (by rw [hcount]; decide)
  cases hpiece
  cases hlastPiece
  refine ⟨hcount, htext, hlast, hpast 3 (by rw [hcount]; decide), ?_, hsuppressed 3⟩
  rw [hsuppressed]
  decide +kernel

end Document

end PatternLint
