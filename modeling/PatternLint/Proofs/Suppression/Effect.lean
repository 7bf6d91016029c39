import PatternLint.Proofs.Analysis
import PatternLint.Proofs.Suppression.Fix
import PatternLint.Proofs.Suppression.Grammar

/-! What applying a suppression fix does to the findings.
The code of the finding is silenced on its line and the fix is not offered again.  Another code
that the line itself silences stays silenced.  A code that only the line above silences stays so
under the fix on the line, and not under the fix that puts a new line in between. -/

namespace PatternLint

open Source

theorem isSuppressed_eq (t : Source) (n : Nat) (code : String) :
    isSuppressed t n code = (t.lines[n]?.any (Directive.anyIn code .sameLine) ||
      (lineAbove (fun i => t.lines[i]?) n).any (Directive.anyIn code .nextLine)) := rfl

theorem isSuppressed_of_lines_set {t t' new : Source} {n : Nat} (hn : n < t.lines.length)
    (h : t'.lines = t.lines.set n new) (code : String) :
    isSuppressed t' n code = (Directive.anyIn code .sameLine new ||
      (lineAbove (fun i => t.lines[i]?) n).any (Directive.anyIn code .nextLine)) := by
  have habove : lineAbove (fun i => (t.lines.set n new)[i]?) n =
      lineAbove (fun i => t.lines[i]?) n := by
    cases n with
    | zero => rfl
    | succ n => exact List.getElem?_set_ne (by omega)
  rw [isSuppressed_eq, h, habove, List.getElem?_set_self hn, Option.any_some]

theorem isSuppressed_of_lines_insertIdx {t t' new : Source} {n : Nat} (hn : n ≤ t.lines.length)
    (h : t'.lines = t.lines.insertIdx n new) (code : String) :
    isSuppressed t' (n + 1) code = (t.lines[n]?.any (Directive.anyIn code .sameLine) ||
      Directive.anyIn code .nextLine new) := by
  have hself : (t.lines.insertIdx n new)[n]? = some new := by
    rw [List.getElem?_insertIdx_self, if_pos hn]
  have hnext : (t.lines.insertIdx n new)[n + 1]? = t.lines[n]? :=
    List.getElem?_insertIdx_of_gt (Nat.lt_succ_self n)
  rw [isSuppressed_eq, h, hnext, lineAbove, hself, Option.any_some]

theorem Registry.line_ne_of_isSuppressed {g : Registry} {path : Path} {t : Source} {n : Nat}
    {code : String} (h : isSuppressed t n code = true) {w : Violation}
    (hw : w ∈ g.analyze path t) (hcode : w.code = code) : w.location.line ≠ n := by
  rintro rfl
  have hnot := (line_of_mem_analyze hw).2
  rw [hcode, h] at hnot
  cases hnot

namespace Violation

variable {v : Violation} {t : Source}

theorem suppressionFixes_of_mem_analyze {g : Registry} {path : Path} (hv : v ∈ g.analyze path t) :
    ∃ above onLine, v.suppressOnPreviousLine? t = some above ∧
      v.suppressOnLine? t = some onLine ∧ v.suppressionFixes t = [above, onLine] := by
  obtain ⟨hn, hnot⟩ := Registry.line_of_mem_analyze hv
  rw [isSuppressed_eq, Bool.or_eq_false_iff, List.getElem?_eq_getElem hn] at hnot
  have habove : v.suppressOnPreviousLine? t ≠ none := by
    rw [Ne, suppressOnPreviousLine?_eq_none_iff, List.getElem?_eq_getElem hn, hnot.2]
    simp
  have honLine : v.suppressOnLine? t ≠ none := by
    rw [Ne, suppressOnLine?_eq_none_iff, List.getElem?_eq_getElem hn]
    simpa using hnot.1
  obtain ⟨above, habove⟩ := Option.ne_none_iff_exists'.1 habove
  obtain ⟨onLine, honLine⟩ := Option.ne_none_iff_exists'.1 honLine
  refine ⟨above, onLine, habove, honLine, ?_⟩
  rw [suppressionFixes, habove, honLine]
  rfl

theorem silenced_of_suppressOnLine? {t' body returns : Source} (hcode : Directive.IsCode v.code)
    (hline : t.lines[v.location.line]? = some (body ++ returns))
    (hreturns : ∀ c ∈ returns, c = '\r')
    (hlines : t'.lines = t.lines.set v.location.line
      (body ++ (' ' :: v.sameLineDirective.render ++ returns))) :
    isSuppressed t' v.location.line v.code = true ∧
      ∀ w : Violation, w.code = v.code → w.location.line = v.location.line →
        w.suppressOnLine? t' = none := by
  have hn : v.location.line < t.lines.length := (List.getElem?_eq_some_iff.1 hline).1
  have hany := anyIn_sameLine_onLine hcode body hreturns
  constructor
  · rw [isSuppressed_of_lines_set hn hlines, hany, Bool.true_or]
  · intro w hwcode hwline
    rw [suppressOnLine?_eq_none_iff, hwcode, hwline, hlines, List.getElem?_set_self hn]
    exact hany

/-- After the fix above the line the code is silenced on the line, now one further down, and the
fix is not offered again. -/
theorem silenced_of_suppressOnPreviousLine? {t' line : Source} (hcode : Directive.IsCode v.code)
    (hline : t.lines[v.location.line]? = some line)
    (hlines : t'.lines = t.lines.insertIdx v.location.line
      (line.indent ++ v.nextLineDirective.render)) :
    isSuppressed t' (v.location.line + 1) v.code = true ∧
      ∀ w : Violation, w.code = v.code → w.location.line = v.location.line + 1 →
        w.suppressOnPreviousLine? t' = none := by
  have hn : v.location.line ≤ t.lines.length :=
    Nat.le_of_lt (List.getElem?_eq_some_iff.1 hline).1
  have hany := anyIn_nextLine_above hcode line.indent
  constructor
  · rw [isSuppressed_of_lines_insertIdx hn hlines, hany, Bool.or_true]
  · intro w hwcode hwline
    rw [suppressOnPreviousLine?_eq_none_iff, hwcode, hwline, hlines, lineAbove,
      List.getElem?_insertIdx_self, if_pos hn]
    exact .inr hany

/-- Both fixes are offered for every finding of an analysis; each applies, changes the text as
little as it says, and silences the code of the finding on its line for good. -/
theorem suppressionFixes_silence {g : Registry} {path : Path} (hv : v ∈ g.analyze path t)
    (hcode : Directive.IsCode v.code) :
    ∃ above onLine, v.suppressOnPreviousLine? t = some above ∧
      v.suppressOnLine? t = some onLine ∧ v.suppressionFixes t = [above, onLine] ∧
      (∃ t' body returns, onLine.replacement.edited? t = some t' ∧
        t.lines[v.location.line]? = some (body ++ returns) ∧ (∀ c ∈ returns, c = '\r') ∧
        body.getLast? ≠ some '\r' ∧
        t'.lines = t.lines.set v.location.line
          (body ++ (' ' :: v.sameLineDirective.render ++ returns)) ∧
        (∀ w ∈ g.analyze path t', w.code = v.code → w.location.line ≠ v.location.line) ∧
        ∀ w : Violation, w.code = v.code → w.location.line = v.location.line →
          w.suppressOnLine? t' = none) ∧
      ∃ t' line, above.replacement.edited? t = some t' ∧
        t.lines[v.location.line]? = some line ∧
        t'.lines = t.lines.insertIdx v.location.line
          (line.indent ++ v.nextLineDirective.render) ∧
        (∀ w ∈ g.analyze path t', w.code = v.code → w.location.line ≠ v.location.line + 1) ∧
        ∀ w : Violation, w.code = v.code → w.location.line = v.location.line + 1 →
          w.suppressOnPreviousLine? t' = none := by
  obtain ⟨above, onLine, habove, honLine, hfixes⟩ := suppressionFixes_of_mem_analyze hv
  refine ⟨above, onLine, habove, honLine, hfixes, ?_, ?_⟩
  · obtain ⟨t', body, returns, hedit, hline, hreturns, hbody, hlines⟩ :=
      lines_of_suppressOnLine? hcode honLine
    obtain ⟨hsilent, hagain⟩ := silenced_of_suppressOnLine? hcode hline hreturns hlines
    refine ⟨t', body, returns, hedit, hline, hreturns, hbody, hlines, fun w hw hwcode => ?_, hagain⟩
    exact Registry.line_ne_of_isSuppressed hsilent hw hwcode
  · obtain ⟨t', line, hedit, hline, hlines⟩ := lines_of_suppressOnPreviousLine? hcode habove
    obtain ⟨hsilent, hagain⟩ := silenced_of_suppressOnPreviousLine? hcode hline hlines
    refine ⟨t', line, hedit, hline, hlines, fun w hw hwcode => ?_, hagain⟩
    exact Registry.line_ne_of_isSuppressed hsilent hw hwcode

def literalRule : Rule where
  code := "A5-1-1"
  severity := .warning
  category := "Literals"
  pattern := ⟨"= 5", .standard, 0, .linear (Pattern.Linear.ofRegular (.literal ['=', ' ', '5']))⟩
  message := "literal value"
  description := ""
  rationale := none
  remediation := none

def literalFinding (line column offset : Nat) : Violation where
  code := "A5-1-1"
  severity := .warning
  category := "Literals"
  location := ⟨⟨"a.cpp"⟩, line, column, offset, 3⟩
  message := "literal value"

/-- The directive on the line names a longer code, so both fixes are on offer, and the line ends
in a carriage return. -/
theorem suppressionFixes_silence_longer_code :
    let g : Registry := ⟨[literalRule], ∅⟩
    let t := "a;\n\tx = 5; // autosar-disable-line A5-1-12\r\nb;".toList
    let v := literalFinding 1 3 6
    v ∈ g.analyze ⟨"a.cpp"⟩ t ∧ Directive.IsCode v.code ∧
      ∃ above onLine, v.suppressionFixes t = [above, onLine] ∧
        (∃ t', onLine.replacement.edited? t = some t' ∧
          ∀ w ∈ g.analyze ⟨"a.cpp"⟩ t', w.code = v.code → w.location.line ≠ 1) ∧
        ∃ t', above.replacement.edited? t = some t' ∧
          ∀ w ∈ g.analyze ⟨"a.cpp"⟩ t', w.code = v.code → w.location.line ≠ 2 := by
  intro g t v
  have hv : v ∈ g.analyze ⟨"a.cpp"⟩ t := by decide +kernel
  have hcode : Directive.IsCode v.code := by decide
  obtain ⟨above, onLine, -, -, hfixes, ⟨t₁, -, -, hedit₁, -, -, -, -, hsilent₁, -⟩,
    t₂, -, hedit₂, -, -, hsilent₂, -⟩ := suppressionFixes_silence hv hcode
  exact ⟨hv, hcode, above, onLine, hfixes, ⟨t₁, hedit₁, hsilent₁⟩, t₂, hedit₂, hsilent₂⟩

theorem isSuppressed_after_suppressOnLine? {other : String} {t' body returns : Source}
    (hother : Directive.IsCode other)
    (hline : t.lines[v.location.line]? = some (body ++ returns))
    (hreturns : ∀ c ∈ returns, c = '\r')
    (hlines : t'.lines = t.lines.set v.location.line
      (body ++ (' ' :: v.sameLineDirective.render ++ returns)))
    (h : isSuppressed t v.location.line other = true) :
    isSuppressed t' v.location.line other = true := by
  have hn : v.location.line < t.lines.length := (List.getElem?_eq_some_iff.1 hline).1
  rw [isSuppressed_eq, hline, Option.any_some, Bool.or_eq_true_iff] at h
  rw [isSuppressed_of_lines_set hn hlines, Bool.or_eq_true_iff]
  exact h.imp_left (Directive.anyIn_insert_before_returns hother hreturns _ rfl)

theorem isSuppressed_after_suppressOnPreviousLine? {other : String} {t' line : Source}
    (hcode : Directive.IsCode v.code) (hne : other ≠ v.code)
    (hline : t.lines[v.location.line]? = some line)
    (hlines : t'.lines = t.lines.insertIdx v.location.line
      (line.indent ++ v.nextLineDirective.render)) :
    isSuppressed t' (v.location.line + 1) other =
      t.lines[v.location.line]?.any (Directive.anyIn other .sameLine) := by
  have hn : v.location.line ≤ t.lines.length :=
    Nat.le_of_lt (List.getElem?_eq_some_iff.1 hline).1
  have hnone := Directive.anyIn_nextLine_eq_false hcode hne line.slash_notMem_indent
  rw [isSuppressed_of_lines_insertIdx hn hlines, hnone, Bool.or_false]

/-- What the fixes do to another code.  The one on the line keeps it silenced; after the one above
the line it is silenced exactly when the line itself holds a directive for it, because the new
line takes the place of the line above. -/
theorem suppressionFixes_other_code {other : String} (hcode : Directive.IsCode v.code)
    (hother : Directive.IsCode other) (hne : other ≠ v.code) {f : Suggestion}
    (hf : f ∈ v.suppressionFixes t) :
    ∃ t', f.replacement.edited? t = some t' ∧
      (v.suppressOnLine? t = some f →
        isSuppressed t v.location.line other = true →
          isSuppressed t' v.location.line other = true) ∧
      (v.suppressOnPreviousLine? t = some f →
        (isSuppressed t' (v.location.line + 1) other = true ↔
          t.lines[v.location.line]?.any (Directive.anyIn other .sameLine) = true)) := by
  obtain ⟨t', hedit⟩ := edited?_of_mem_suppressionFixes hf
  refine ⟨t', hedit, fun honLine hsilent => ?_, fun habove => ?_⟩
  · obtain ⟨u, body, returns, hu, hline, hreturns, -, hlines⟩ :=
      lines_of_suppressOnLine? hcode honLine
    obtain rfl : u = t' := Option.some.inj (hu.symm.trans hedit)
    exact isSuppressed_after_suppressOnLine? hother hline hreturns hlines hsilent
  · obtain ⟨u, line, hu, hline, hlines⟩ := lines_of_suppressOnPreviousLine? hcode habove
    obtain rfl : u = t' := Option.some.inj (hu.symm.trans hedit)
    rw [isSuppressed_after_suppressOnPreviousLine? hcode hne hline hlines]

/-- A `goto` that the line above allows, and a literal on the same line. -/
def gotoAllowedAbove : Source :=
  "// NOLINTNEXTLINE(A6-6-1)\ngoto x; y = 5; // NOLINT(M0-1-1)\r\n".toList

/-- One code is silenced by the line above and one by the line itself.  The fix on the line keeps
the first, the fix above the line keeps the second. -/
theorem suppressionFixes_other_code_goto :
    let v := literalFinding 1 10 36
    ∃ above ∈ v.suppressionFixes gotoAllowedAbove, ∃ onLine ∈ v.suppressionFixes gotoAllowedAbove,
      (∃ t', onLine.replacement.edited? gotoAllowedAbove = some t' ∧
        isSuppressed t' 1 "A6-6-1" = true) ∧
      ∃ t', above.replacement.edited? gotoAllowedAbove = some t' ∧
        isSuppressed t' 2 "M0-1-1" = true := by
  intro v
  obtain ⟨above, habove⟩ : ∃ f, v.suppressOnPreviousLine? gotoAllowedAbove = some f :=
    Option.isSome_iff_exists.1 (by decide +kernel)
  obtain ⟨onLine, honLine⟩ : ∃ f, v.suppressOnLine? gotoAllowedAbove = some f :=
    Option.isSome_iff_exists.1 (by decide +kernel)
  have habove' := mem_suppressionFixes.2 (.inl habove)
  have honLine' := mem_suppressionFixes.2 (.inr honLine)
  refine ⟨above, habove', onLine, honLine', ?_, ?_⟩
  · have hne : "A6-6-1" ≠ v.code := by decide
    obtain ⟨t', hedit, hkeep, -⟩ :=
      suppressionFixes_other_code (by decide) (by decide) hne honLine'
    exact ⟨t', hedit, hkeep honLine (by decide +kernel)⟩
  · have hne : "M0-1-1" ≠ v.code := by decide
    obtain ⟨t', hedit, -, hkeep⟩ :=
      suppressionFixes_other_code (by decide) (by decide) hne habove'
    exact ⟨t', hedit, (hkeep habove).2 (by decide +kernel)⟩

/-- The fix above the line comes between a directive and the line it is for. -/
theorem suppressionFixes_unsilence_goto :
    let v := literalFinding 1 10 36
    let edited := ("// NOLINTNEXTLINE(A6-6-1)\n// autosar-disable-next-line A5-1-1\n" ++
      "goto x; y = 5; // NOLINT(M0-1-1)\r\n").toList
    Directive.IsCode v.code ∧ Directive.IsCode "A6-6-1" ∧ "A6-6-1" ≠ v.code ∧
      (∃ f ∈ v.suppressionFixes gotoAllowedAbove,
        v.suppressOnPreviousLine? gotoAllowedAbove = some f ∧
        f.replacement.edited? gotoAllowedAbove = some edited) ∧
      isSuppressed gotoAllowedAbove 1 "A6-6-1" = true ∧
      isSuppressed edited 2 "A6-6-1" = false := by
  intro v edited
  refine ⟨by decide, by decide, by decide, ?_, by decide +kernel, by decide +kernel⟩
  refine ⟨(v.suppressOnPreviousLine? gotoAllowedAbove).get (by decide +kernel), ?_, ?_, ?_⟩
  · decide +kernel
  · rw [Option.some_get]
  · decide +kernel

end Violation

end PatternLint
