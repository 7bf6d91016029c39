import PatternLint.Proofs.Document
import PatternLint.Proofs.Suppression.Recognition
import PatternLint.Suppression.Fix

/-! What the suppression fixes make of a text.
A fix is offered exactly when its line exists and no directive of its kind is there yet.  Its edit
always applies: one writes the directive at the end of the line, before the carriage returns, the
other puts a line with it in front.  The new text carries the directive where it is looked for. -/

namespace PatternLint

namespace Source

theorem slash_notMem_indent (s : Source) : '/' ∉ s.indent := by
  intro h
  have hblank : isBlank '/' = true := List.mem_takeWhile_imp h
  revert hblank
  decide

end Source

open Source

theorem Replacement.edited?_insert {r : Replacement} {a b : Source}
    (hoffset : r.location.offset = byteLen a) (hlength : r.location.length = 0) :
    r.edited? (a ++ b) = some (a ++ (r.newText ++ b)) := by
  simp [edited?, hoffset, hlength, splitAt?_append]

namespace Violation

variable {v : Violation} {t : Source}

abbrev sameLineDirective (v : Violation) : Directive := ⟨.lineComment, .sameLine, v.code⟩

abbrev nextLineDirective (v : Violation) : Directive := ⟨.lineComment, .nextLine, v.code⟩

theorem suppressOnLine?_eq_none_iff :
    v.suppressOnLine? t = none ↔
      t.lines[v.location.line]?.all (Directive.anyIn v.code .sameLine) = true := by
  simp only [suppressOnLine?, Document.lineText?_ofText]
  cases t.lines[v.location.line]? with
  | none => simp
  | some line => simp

theorem suppressOnPreviousLine?_eq_none_iff :
    v.suppressOnPreviousLine? t = none ↔
      t.lines[v.location.line]? = none ∨
      (lineAbove (fun i => t.lines[i]?) v.location.line).any
        (Directive.anyIn v.code .nextLine) = true := by
  simp only [suppressOnPreviousLine?, funext (Document.lineText?_ofText v.location.file t)]
  cases t.lines[v.location.line]? with
  | none => simp
  | some line => simp

@[simp]
theorem mem_suppressionFixes {f : Suggestion} :
    f ∈ v.suppressionFixes t ↔
      v.suppressOnPreviousLine? t = some f ∨ v.suppressOnLine? t = some f := by
  rw [suppressionFixes, List.mem_append, Option.mem_toList, Option.mem_toList]

theorem exists_lineAt_of_mem_suppressionFixes {f : Suggestion} (hf : f ∈ v.suppressionFixes t) :
    ∃ before line after, LineAt t v.location.line before line after := by
  apply exists_lineAt
  by_contra hout
  have hline : t.lines[v.location.line]? = none := List.getElem?_eq_none (Nat.le_of_not_lt hout)
  have habove : v.suppressOnPreviousLine? t = none :=
    suppressOnPreviousLine?_eq_none_iff.2 (.inl hline)
  have honLine : v.suppressOnLine? t = none := by
    rw [suppressOnLine?_eq_none_iff, hline]
    rfl
  simp [mem_suppressionFixes, habove, honLine] at hf

theorem edited?_of_suppressOnLine? {f : Suggestion} (h : v.suppressOnLine? t = some f) :
    ∃ before line returns after, LineAt t v.location.line before line after ∧
      line = line.dropTrailingReturns ++ returns ∧ (∀ c ∈ returns, c = '\r') ∧
      f.replacement.edited? t = some (before ++
        ((line.dropTrailingReturns ++ (' ' :: v.sameLineDirective.render ++ returns)) ++
          after)) := by
  obtain ⟨before, line, after, hline⟩ :=
    exists_lineAt_of_mem_suppressionFixes (mem_suppressionFixes.2 (.inr h))
  obtain ⟨returns, hreturns, hall⟩ := line.exists_returns
  refine ⟨before, line, returns, after, hline, hreturns, hall, ?_⟩
  simp only [suppressOnLine?, Document.lineText?_of_lineAt _ hline,
    Document.offsetFor_zero_of_lineAt _ hline, Option.bind_some] at h
  split at h
  · cases h
  · injection h with h
    have ht : t = (before ++ line.dropTrailingReturns) ++ (returns ++ after) := by
      rw [hline.text_eq]
      conv_lhs => rw [hreturns]
      simp only [List.append_assoc]
    rw [← h]
    conv_lhs => rw [ht]
    rw [Replacement.edited?_insert (by rw [byteLen_append]) rfl]
    simp only [List.append_assoc, List.cons_append]

theorem edited?_of_suppressOnPreviousLine? {f : Suggestion}
    (h : v.suppressOnPreviousLine? t = some f) :
    ∃ before line after, LineAt t v.location.line before line after ∧
      f.replacement.edited? t = some (before ++
        ((line.indent ++ v.nextLineDirective.render ++ '\n' :: line) ++ after)) := by
  obtain ⟨before, line, after, hline⟩ :=
    exists_lineAt_of_mem_suppressionFixes (mem_suppressionFixes.2 (.inl h))
  refine ⟨before, line, after, hline, ?_⟩
  simp only [suppressOnPreviousLine?, Document.lineText?_of_lineAt _ hline,
    Document.offsetFor_zero_of_lineAt _ hline, Option.bind_some] at h
  split at h
  · cases h
  · injection h with h
    rw [← h]
    conv_lhs => rw [hline.text_eq]
    rw [Replacement.edited?_insert rfl rfl]
    simp only [List.append_assoc, List.cons_append, List.nil_append]

theorem edited?_of_mem_suppressionFixes {f : Suggestion} (hf : f ∈ v.suppressionFixes t) :
    ∃ t', f.replacement.edited? t = some t' := by
  rcases mem_suppressionFixes.1 hf with habove | honLine
  · obtain ⟨before, line, after, -, hedit⟩ := edited?_of_suppressOnPreviousLine? habove
    exact ⟨_, hedit⟩
  · obtain ⟨before, line, returns, after, -, -, -, hedit⟩ := edited?_of_suppressOnLine? honLine
    exact ⟨_, hedit⟩

theorem newline_notMem_onLine {before line returns after : Source} (hcode : Directive.IsCode v.code)
    (hline : LineAt t v.location.line before line after)
    (hreturns : line = line.dropTrailingReturns ++ returns) :
    '\n' ∉ line.dropTrailingReturns ++ (' ' :: v.sameLineDirective.render ++ returns) := by
  have hwhole := hline.whole
  rw [hreturns, List.mem_append, not_or] at hwhole
  simp only [List.mem_append, List.mem_cons, not_or]
  exact ⟨hwhole.1, ⟨by decide, Directive.newline_notMem_render hcode⟩, hwhole.2⟩

theorem newline_notMem_above {before line after : Source} (hcode : Directive.IsCode v.code)
    (hline : LineAt t v.location.line before line after) :
    '\n' ∉ line.indent ++ v.nextLineDirective.render := by
  rw [List.mem_append, not_or]
  refine ⟨fun hmem => hline.whole ?_, Directive.newline_notMem_render hcode⟩
  exact (List.takeWhile_sublist isBlank).subset hmem

theorem anyIn_sameLine_onLine (hcode : Directive.IsCode v.code) (body : Source) {returns : Source}
    (hreturns : ∀ c ∈ returns, c = '\r') :
    Directive.anyIn v.code .sameLine
      (body ++ (' ' :: v.sameLineDirective.render ++ returns)) = true := by
  rw [Directive.anyIn_eq_true_iff]
  refine ⟨.lineComment, ?_⟩
  have h := Directive.appearsIn_append .lineComment (by decide) .sameLine hcode (body ++ [' '])
    returns (Directive.head?_returns hreturns)
  rwa [List.append_assoc, List.singleton_append] at h

theorem anyIn_nextLine_above (hcode : Directive.IsCode v.code) (indent : Source) :
    Directive.anyIn v.code .nextLine (indent ++ v.nextLineDirective.render) = true := by
  rw [Directive.anyIn_eq_true_iff]
  refine ⟨.lineComment, ?_⟩
  have h := Directive.appearsIn_append .lineComment (by decide) .nextLine hcode indent [] rfl
  rwa [List.append_nil] at h

theorem lines_of_suppressOnLine? {f : Suggestion} (hcode : Directive.IsCode v.code)
    (h : v.suppressOnLine? t = some f) :
    ∃ t' body returns, f.replacement.edited? t = some t' ∧
      t.lines[v.location.line]? = some (body ++ returns) ∧ (∀ c ∈ returns, c = '\r') ∧
      body.getLast? ≠ some '\r' ∧
      t'.lines = t.lines.set v.location.line
        (body ++ (' ' :: v.sameLineDirective.render ++ returns)) := by
  obtain ⟨before, line, returns, after, hline, hreturns, hall, hedit⟩ :=
    edited?_of_suppressOnLine? h
  refine ⟨_, line.dropTrailingReturns, returns, hedit, ?_, hall,
    line.getLast?_dropTrailingReturns, ?_⟩
  · rw [← hreturns, hline.getElem?_lines]
  · exact hline.lines_replace (newline_notMem_onLine hcode hline hreturns)

theorem lines_of_suppressOnPreviousLine? {f : Suggestion} (hcode : Directive.IsCode v.code)
    (h : v.suppressOnPreviousLine? t = some f) :
    ∃ t' line, f.replacement.edited? t = some t' ∧ t.lines[v.location.line]? = some line ∧
      t'.lines = t.lines.insertIdx v.location.line
        (line.indent ++ v.nextLineDirective.render) := by
  obtain ⟨before, line, after, hline, hedit⟩ := edited?_of_suppressOnPreviousLine? h
  refine ⟨_, line, hedit, hline.getElem?_lines, ?_⟩
  exact hline.lines_insert (newline_notMem_above hcode hline)

end Violation

end PatternLint
