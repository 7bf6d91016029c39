import PatternLint.Proofs.Text.Lines
import PatternLint.Suppression.Directive

/-! A document answers about lines and offsets as its plain text does: the lines of its table are
the pieces between newlines, and a position counts the newlines before an offset and the
characters after the last of them. -/

namespace PatternLint

namespace Document

open Source

theorem lineText?_of_lineAt {s before line after : Source} {n : Nat} (path : Path)
    (h : LineAt s n before line after) : (ofText path s).lineText? n = some line := by
  rw [lineText?, ofText, LineIndex.lineRange?_of_lineAt h]
  exact h.slice?

@[simp]
theorem lineText?_ofText (path : Path) (s : Source) (n : Nat) :
    (ofText path s).lineText? n = s.lines[n]? := by
  by_cases hn : n < s.lines.length
  · obtain ⟨before, line, after, h⟩ := exists_lineAt hn
    rw [lineText?_of_lineAt path h, h.getElem?_lines]
  · rw [Nat.not_lt] at hn
    rw [lineText?, ofText, LineIndex.lineRange?_eq_none hn, List.getElem?_eq_none hn]
    rfl

theorem offsetFor_zero_of_lineAt {s before line after : Source} {n : Nat} (path : Path)
    (h : LineAt s n before line after) : (ofText path s).offsetFor n 0 = byteLen before := by
  simp only [offsetFor, ofText, LineIndex.lineRange?_of_lineAt h, h.slice?]
  cases line <;> simp

@[simp]
theorem position_ofText (path : Path) (a b : Source) :
    (ofText path (a ++ b)).position (byteLen a) =
      (a.count '\n', (a.reverse.takeWhile (· ≠ '\n')).length) := by
  obtain ⟨before, ha, hline⟩ := lineAt_append a b
  have hslice : (a ++ b).slice? (byteLen before) (byteLen a) =
      some (a.reverse.takeWhile (· ≠ '\n')).reverse := by
    have h := slice?_append before (a.reverse.takeWhile (· ≠ '\n')).reverse b
    rw [← byteLen_append, ← List.append_assoc, ← ha] at h
    exact h
  simp only [position, ofText, LineIndex.lineOf_append, LineIndex.lineRange?_of_lineAt hline,
    hslice]
  simp

theorem takeWhile_reverse_append {c : Source} (h : '\n' ∉ c) (a : Source) :
    (a ++ c).reverse.takeWhile (· ≠ '\n') = c.reverse ++ a.reverse.takeWhile (· ≠ '\n') := by
  have hall : ∀ x ∈ c.reverse, decide (x ≠ '\n') = true := by
    intro x hx
    have : x ≠ '\n' := fun heq => h (heq ▸ List.mem_reverse.1 hx)
    simpa using this
  rw [List.reverse_append, List.takeWhile_append_of_pos hall]

theorem position_lt (path : Path) {s a b a' b' : Source} (h : s = a ++ b) (h' : s = a' ++ b')
    (hlt : byteLen a < byteLen a') :
    Prod.Lex (· < ·) (· < ·) ((ofText path s).position (byteLen a))
      ((ofText path s).position (byteLen a')) := by
  -- The longer beginning continues the shorter one.
  obtain ⟨c, rfl, hc⟩ : ∃ c, a' = a ++ c ∧ 0 < c.length := by
    rcases List.append_eq_append_iff.1 (h.symm.trans h') with ⟨c, rfl, -⟩ | ⟨c, rfl, -⟩
    · refine ⟨c, rfl, List.length_pos_iff.2 ?_⟩
      rintro rfl
      simp at hlt
    · rw [byteLen_append] at hlt
      omega
  have hposition := position_ofText path a b
  have hposition' := position_ofText path (a ++ c) b'
  rw [← h] at hposition
  rw [← h'] at hposition'
  rw [hposition, hposition', Prod.lex_def, List.count_append]
  by_cases hnewline : '\n' ∈ c
  · have := List.count_pos_iff.2 hnewline
    exact .inl (by omega)
  · rw [List.count_eq_zero.2 hnewline, takeWhile_reverse_append hnewline, List.length_append,
      List.length_reverse]
    exact .inr ⟨rfl, Nat.lt_add_of_pos_left hc⟩

@[simp]
theorem isSuppressed_ofText (path : Path) (s : Source) (line : Nat) (code : String) :
    (ofText path s).isSuppressed line code = PatternLint.isSuppressed s line code := by
  have habove : lineAbove (ofText path s).lineText? line =
      lineAbove (fun i => s.lines[i]?) line := by
    rw [funext (lineText?_ofText path s)]
  rw [isSuppressed, PatternLint.isSuppressed, lineText?_ofText, habove]

end Document

end PatternLint
