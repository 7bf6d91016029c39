import Mathlib.Data.List.TakeWhile
import PatternLint.Proofs.Text.Offset
import PatternLint.Text.Lines

/-! The two views of the lines of a text.
`LineAt s n before line after` cuts a text around its line number `n`.  Such a cut says at once
which piece the text has there, where the table of line starts puts it, and what the lines become
when other text takes its place. -/

namespace PatternLint

namespace Source

@[simp]
theorem length_lines (s : Source) : (lines s).length = s.count '\n' + 1 := by
  induction s with
  | nil => rfl
  | cons c s ih =>
    by_cases hc : c = '\n'
    · simp [lines, hc, ih]
    · rw [List.count_cons_of_ne hc, ← ih, lines, if_neg hc]
      split
      · rename_i hnil
        rw [hnil] at ih
        simp at ih
      · rename_i l ls hcons
        simp [hcons]

@[simp]
theorem lines_newline_append (a b : Source) : lines (a ++ '\n' :: b) = lines a ++ lines b := by
  induction a with
  | nil => simp [lines]
  | cons c a ih =>
    by_cases hc : c = '\n'
    · simp [lines, hc, ih]
    · cases ha : lines a with
      | nil =>
        have hlen := length_lines a
        simp [ha] at hlen
      | cons l ls => simp [lines, hc, ih, ha]

theorem lines_of_notMem {s : Source} (h : '\n' ∉ s) : lines s = [s] := by
  induction s with
  | nil => rfl
  | cons c s ih =>
    rw [List.mem_cons, not_or] at h
    simp [lines, Ne.symm h.1, ih h.2]

@[simp]
theorem lineStartsFrom_append (o : Nat) (a b : Source) :
    lineStartsFrom o (a ++ b) = lineStartsFrom o a ++ lineStartsFrom (o + byteLen a) b := by
  induction a generalizing o with
  | nil => simp [lineStartsFrom]
  | cons c a ih =>
    by_cases hc : c = '\n' <;> simp [lineStartsFrom, hc, ih, Nat.add_assoc]

theorem lineStartsFrom_of_notMem {s : Source} (h : '\n' ∉ s) (o : Nat) :
    lineStartsFrom o s = [] := by
  induction s generalizing o with
  | nil => rfl
  | cons c s ih =>
    rw [List.mem_cons, not_or] at h
    rw [lineStartsFrom, if_neg (Ne.symm h.1), ih h.2]

@[simp]
theorem length_lineStartsFrom (o : Nat) (s : Source) :
    (lineStartsFrom o s).length = s.count '\n' := by
  induction s generalizing o with
  | nil => rfl
  | cons c s ih => by_cases hc : c = '\n' <;> simp [lineStartsFrom, hc, ih]

theorem bounds_of_mem_lineStartsFrom {o x : Nat} {s : Source} (h : x ∈ lineStartsFrom o s) :
    o < x ∧ x ≤ o + byteLen s := by
  induction s generalizing o with
  | nil => simp [lineStartsFrom] at h
  | cons c s ih =>
    have hc := c.utf8Size_pos
    rw [lineStartsFrom] at h
    rw [byteLen_cons]
    split at h
    · rcases List.mem_cons.1 h with rfl | h
      · omega
      · have := ih h
        omega
    · have := ih h
      omega

theorem exists_returns (s : Source) :
    ∃ returns, s = s.dropTrailingReturns ++ returns ∧ ∀ c ∈ returns, c = '\r' := by
  refine ⟨(s.reverse.takeWhile (· == '\r')).reverse, ?_, fun c hc => ?_⟩
  · rw [dropTrailingReturns, ← List.reverse_append, List.takeWhile_append_dropWhile,
      List.reverse_reverse]
  · simpa using List.mem_takeWhile_imp (List.mem_reverse.1 hc)

theorem getLast?_dropTrailingReturns (s : Source) :
    s.dropTrailingReturns.getLast? ≠ some '\r' := by
  intro h
  rw [dropTrailingReturns, List.getLast?_reverse] at h
  have hnot := List.head?_dropWhile_not (· == '\r') s.reverse
  rw [h] at hnot
  simp at hnot

/-- Line number `n` of a text, between what stands before it and what follows. -/
structure LineAt (s : Source) (n : Nat) (before line after : Source) : Prop where
  text_eq : s = before ++ (line ++ after)
  number_eq : before.count '\n' = n
  begins : before = [] ∨ ∃ b, before = b ++ ['\n']
  whole : '\n' ∉ line
  ends : after = [] ∨ ∃ a, after = '\n' :: a

theorem newline_notMem_takeWhile (s : Source) : '\n' ∉ s.takeWhile (· ≠ '\n') := by
  intro h
  simpa using List.mem_takeWhile_imp h

theorem dropWhile_newline (s : Source) :
    s.dropWhile (· ≠ '\n') = [] ∨ ∃ t, s.dropWhile (· ≠ '\n') = '\n' :: t := by
  have hnot := List.head?_dropWhile_not (· ≠ '\n') s
  cases hs : s.dropWhile (· ≠ '\n') with
  | nil => exact .inl rfl
  | cons c t =>
    rw [hs] at hnot
    have hc : c = '\n' := by simpa using hnot
    exact .inr ⟨t, by rw [hc]⟩

theorem lineAt_append (a b : Source) :
    ∃ before, a = before ++ (a.reverse.takeWhile (· ≠ '\n')).reverse ∧
      LineAt (a ++ b) (a.count '\n') before
        ((a.reverse.takeWhile (· ≠ '\n')).reverse ++ b.takeWhile (· ≠ '\n'))
        (b.dropWhile (· ≠ '\n')) := by
  have ha : a = (a.reverse.dropWhile (· ≠ '\n')).reverse ++
      (a.reverse.takeWhile (· ≠ '\n')).reverse := by
    rw [← List.reverse_append, List.takeWhile_append_dropWhile, List.reverse_reverse]
  have hcol : '\n' ∉ (a.reverse.takeWhile (· ≠ '\n')).reverse := by
    rw [List.mem_reverse]
    exact newline_notMem_takeWhile a.reverse
  refine ⟨_, ha, ?_, ?_, ?_, ?_, dropWhile_newline b⟩
  · conv_lhs => rw [ha]
    rw [List.append_assoc, List.append_assoc, List.takeWhile_append_dropWhile]
  · conv_rhs => rw [ha]
    rw [List.count_append, List.count_eq_zero.2 hcol, Nat.add_zero]
  · rcases dropWhile_newline a.reverse with h | ⟨u, h⟩
    · exact .inl (by rw [h]; rfl)
    · exact .inr ⟨u.reverse, by rw [h, List.reverse_cons]⟩
  · rw [List.mem_append, not_or]
    exact ⟨hcol, newline_notMem_takeWhile b⟩

theorem exists_lineAt {s : Source} {n : Nat} (h : n < (lines s).length) :
    ∃ before line after, LineAt s n before line after := by
  rw [length_lines] at h
  induction s generalizing n with
  | nil =>
    have hn : n = 0 := by simpa using h
    exact ⟨[], [], [], rfl, hn.symm, .inl rfl, by simp, .inl rfl⟩
  | cons c s ih =>
    by_cases hc : c = '\n'
    · subst hc
      cases n with
      | zero => exact ⟨[], [], '\n' :: s, rfl, rfl, .inl rfl, by simp, .inr ⟨s, rfl⟩⟩
      | succ n =>
        obtain ⟨before, line, after, hl⟩ := ih (n := n) (by simpa using h)
        refine ⟨'\n' :: before, line, after, ?_, ?_, ?_, hl.whole, hl.ends⟩
        · rw [hl.text_eq]; rfl
        · rw [List.count_cons_self, hl.number_eq]
        · rcases hl.begins with rfl | ⟨b, rfl⟩
          · exact .inr ⟨[], rfl⟩
          · exact .inr ⟨'\n' :: b, rfl⟩
    · rw [List.count_cons_of_ne hc] at h
      obtain ⟨before, line, after, hl⟩ := ih h
      rcases hl.begins with rfl | ⟨b, rfl⟩
      · refine ⟨[], c :: line, after, ?_, hl.number_eq, .inl rfl, ?_, hl.ends⟩
        · rw [hl.text_eq]; rfl
        · simpa using ⟨Ne.symm hc, hl.whole⟩
      · refine ⟨c :: (b ++ ['\n']), line, after, ?_, ?_, .inr ⟨c :: b, rfl⟩, hl.whole, hl.ends⟩
        · rw [hl.text_eq]; rfl
        · rw [List.count_cons_of_ne hc, hl.number_eq]

namespace LineAt

variable {s before line after : Source} {n : Nat}

theorem exists_lines (h : LineAt s n before line after) :
    ∃ above below, above.length = n ∧
      ∀ middle, lines (before ++ (middle ++ after)) = above ++ (lines middle ++ below) := by
  have hafter : ∃ below, ∀ middle, lines (middle ++ after) = lines middle ++ below := by
    rcases h.ends with rfl | ⟨a, rfl⟩
    · exact ⟨[], fun middle => by simp⟩
    · exact ⟨lines a, fun middle => lines_newline_append middle a⟩
  obtain ⟨below, hbelow⟩ := hafter
  rcases h.begins with rfl | ⟨b, rfl⟩
  · exact ⟨[], below, h.number_eq, fun middle => hbelow middle⟩
  · refine ⟨lines b, below, ?_, fun middle => ?_⟩
    · rw [length_lines, ← h.number_eq]
      simp
    · rw [List.append_assoc, List.singleton_append, lines_newline_append, hbelow]

theorem getElem?_lines (h : LineAt s n before line after) : (lines s)[n]? = some line := by
  obtain ⟨above, below, hlen, hlines⟩ := h.exists_lines
  rw [h.text_eq, hlines, lines_of_notMem h.whole, ← hlen]
  simp

theorem lines_replace (h : LineAt s n before line after) {new : Source} (hnew : '\n' ∉ new) :
    lines (before ++ (new ++ after)) = (lines s).set n new := by
  obtain ⟨above, below, hlen, hlines⟩ := h.exists_lines
  rw [h.text_eq, hlines, hlines, lines_of_notMem hnew, lines_of_notMem h.whole, ← hlen]
  simp

theorem lines_insert (h : LineAt s n before line after) {new : Source} (hnew : '\n' ∉ new) :
    lines (before ++ ((new ++ '\n' :: line) ++ after)) = (lines s).insertIdx n new := by
  obtain ⟨above, below, hlen, hlines⟩ := h.exists_lines
  rw [h.text_eq, hlines, hlines, lines_newline_append, lines_of_notMem hnew,
    lines_of_notMem h.whole, ← hlen]
  clear hlen hlines
  induction above with
  | nil => rfl
  | cons l above ih => simpa using ih

theorem slice? (h : LineAt s n before line after) :
    s.slice? (byteLen before) (byteLen before + byteLen line) = some line := by
  rw [h.text_eq]
  exact slice?_append before line after

theorem lineStarts_eq (h : LineAt s n before line after) :
    ∃ front, front.length = n ∧ 0 :: lineStartsFrom 0 s =
      front ++ byteLen before :: lineStartsFrom (byteLen before + byteLen line) after := by
  rw [h.text_eq]
  rcases h.begins with rfl | ⟨b, rfl⟩
  · refine ⟨[], h.number_eq, ?_⟩
    simp [lineStartsFrom_append, lineStartsFrom_of_notMem h.whole]
  · refine ⟨0 :: lineStartsFrom 0 b, ?_, ?_⟩
    · rw [List.length_cons, length_lineStartsFrom, ← h.number_eq]
      simp
    · simp [lineStartsFrom_append, lineStartsFrom_of_notMem h.whole, lineStartsFrom]

end LineAt

end Source

namespace LineIndex

open Source

@[simp]
theorem lineCount_ofSource (s : Source) : (ofSource s).lineCount = (lines s).length := by
  simp [lineCount, ofSource, length_lines, length_lineStartsFrom]

theorem lineRange?_of_lineAt {s before line after : Source} {n : Nat}
    (h : LineAt s n before line after) :
    (ofSource s).lineRange? n = some (byteLen before, byteLen before + byteLen line) := by
  obtain ⟨front, hlen, hstarts⟩ := h.lineStarts_eq
  have hsize : byteLen s = byteLen before + byteLen line + byteLen after := by
    rw [h.text_eq, byteLen_append, byteLen_append, Nat.add_assoc]
  have hnewline : '\n'.utf8Size = 1 := rfl
  subst hlen
  simp only [lineRange?, ofSource, hstarts, List.getElem?_toArray,
    List.getElem?_append_right (Nat.le_refl _), List.getElem?_append_right (Nat.le_succ _)]
  rcases h.ends with rfl | ⟨a, rfl⟩
  · simp [lineStartsFrom, hsize]
  · simp [lineStartsFrom, hnewline]

theorem lineRange?_eq_none {s : Source} {n : Nat} (h : (lines s).length ≤ n) :
    (ofSource s).lineRange? n = none := by
  rw [length_lines, ← length_lineStartsFrom 0] at h
  have hnone : (ofSource s).starts[n]? = none := by
    simpa [ofSource] using h
  rw [lineRange?, hnone]

@[simp]
theorem lineOf_append (a b : Source) :
    (ofSource (a ++ b)).lineOf (byteLen a) = a.count '\n' := by
  have hstarts : (ofSource (a ++ b)).starts =
      ((0 :: lineStartsFrom 0 a) ++ lineStartsFrom (byteLen a) b).toArray := by
    simp [ofSource, lineStartsFrom_append]
  rw [lineOf, hstarts, partitionPoint_append]
  · simp [length_lineStartsFrom]
  · intro x hx
    rcases List.mem_cons.1 hx with rfl | hx
    · simp
    · have := bounds_of_mem_lineStartsFrom hx
      simpa using this.2
  · intro x hx
    have := bounds_of_mem_lineStartsFrom hx
    simpa using this.1

end LineIndex

end PatternLint
