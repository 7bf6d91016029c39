import PatternLint.Proofs.Document

/-! Offsets and positions are inverse to each other.
An offset between two characters comes back from its position.  A position comes back from its
offset up to clamping: a column past the end of its line means the end of the line, and a line past
the end of the text means the end of the text. -/

namespace PatternLint

namespace Document

open Source

variable {s before line after : Source} {n : Nat}

theorem offsetFor_of_lineAt (path : Path) (h : LineAt s n before line after) (column : Nat) :
    (ofText path s).offsetFor n column = byteLen before + byteLen (line.take column) := by
  simp only [offsetFor, ofText, LineIndex.lineRange?_of_lineAt h, h.slice?, Option.getD_some]
  split
  · rfl
  · rename_i hpast
    rw [List.take_of_length_le (Nat.le_of_not_lt hpast)]

theorem offsetFor_past_end (path : Path) (h : s.lines.length ≤ n) (column : Nat) :
    (ofText path s).offsetFor n column = byteLen s := by
  simp only [offsetFor, ofText, LineIndex.lineRange?_eq_none h]

theorem position_of_lineAt (path : Path) (h : LineAt s n before line after) (column : Nat) :
    (ofText path s).position (byteLen before + byteLen (line.take column)) =
      (n, min column line.length) := by
  have hline : '\n' ∉ line.take column := fun hmem => h.whole (List.mem_of_mem_take hmem)
  have htext : s = (before ++ line.take column) ++ (line.drop column ++ after) := by
    conv_lhs => rw [h.text_eq, ← List.take_append_drop column line]
    simp only [List.append_assoc]
  have hbefore : before.reverse.takeWhile (· ≠ '\n') = [] := by
    rcases h.begins with rfl | ⟨b, rfl⟩ <;> simp
  have hposition := position_ofText path (before ++ line.take column) (line.drop column ++ after)
  rw [← htext, byteLen_append] at hposition
  rw [hposition, List.count_append, h.number_eq, List.count_eq_zero.2 hline,
    takeWhile_reverse_append hline, hbefore]
  simp

@[simp]
theorem offsetFor_position (path : Path) (a b : Source) :
    (ofText path (a ++ b)).offsetFor (a.count '\n') (a.reverse.takeWhile (· ≠ '\n')).length =
      byteLen a := by
  obtain ⟨before, ha, hline⟩ := lineAt_append a b
  rw [offsetFor_of_lineAt path hline, ← List.length_reverse, List.take_left, ← byteLen_append,
    ← ha]

/-- Between two characters, the position of an offset counts the newlines before it and the
characters after the last of them, grows with the offset and leads back to it.  Conversely a line
and a column that exist come back from their offset, a column too far right comes back as the end
of its line, and a line too far down as the end of the text. -/
theorem position_inverse_offsetFor (path : Path) (s : Source) :
    (∀ a b, s = a ++ b →
      (ofText path s).position (byteLen a) =
          (a.count '\n', (a.reverse.takeWhile (· ≠ '\n')).length) ∧
        (ofText path s).offsetFor ((ofText path s).position (byteLen a)).1
          ((ofText path s).position (byteLen a)).2 = byteLen a) ∧
      (∀ a b a' b', s = a ++ b → s = a' ++ b' → byteLen a < byteLen a' →
        Prod.Lex (· < ·) (· < ·) ((ofText path s).position (byteLen a))
          ((ofText path s).position (byteLen a'))) ∧
      ∀ n column,
        (n < (ofText path s).lines.lineCount → ∃ line, s.lines[n]? = some line ∧
          (ofText path s).position ((ofText path s).offsetFor n column) =
            (n, min column line.length)) ∧
        ((ofText path s).lines.lineCount ≤ n →
          (ofText path s).position ((ofText path s).offsetFor n column) =
            (ofText path s).position (byteLen s)) := by
  have hcount : (ofText path s).lines.lineCount = s.lines.length := LineIndex.lineCount_ofSource s
  refine ⟨?_, fun a b a' b' h h' hlt => position_lt path h h' hlt, fun n column => ⟨?_, ?_⟩⟩
  · rintro a b rfl
    refine ⟨position_ofText path a b, ?_⟩
    rw [position_ofText]
    exact offsetFor_position path a b
  · intro hn
    obtain ⟨before, line, after, hline⟩ := exists_lineAt (hcount ▸ hn)
    refine ⟨line, hline.getElem?_lines, ?_⟩
    rw [offsetFor_of_lineAt path hline, position_of_lineAt path hline]
  · intro hn
    rw [offsetFor_past_end path (hcount ▸ hn)]

/-- Characters of two and three bytes, a column past the end of its line and a line past the end
of the text. -/
theorem position_inverse_offsetFor_accents :
    let d := ofText ⟨"a.cpp"⟩ "é\nab€\n".toList
    d.position 5 = (1, 2) ∧ d.offsetFor 1 2 = 5 ∧ d.position (d.offsetFor 1 9) = (1, 3) ∧
      d.position (d.offsetFor 7 4) = d.position 9 := by
  intro d
  obtain ⟨hfront, -, hback⟩ := position_inverse_offsetFor ⟨"a.cpp"⟩ "é\nab€\n".toList
  obtain ⟨hposition, hoffset⟩ := hfront "é\nab".toList "€\n".toList rfl
  rw [hposition] at hoffset
  obtain ⟨line, hline, hcolumn⟩ := (hback 1 9).1 (by decide)
  obtain rfl : line = "ab€".toList := Option.some.inj hline.symm
  exact ⟨hposition, hoffset, hcolumn, (hback 7 4).2 (by decide)⟩

end Document

end PatternLint
