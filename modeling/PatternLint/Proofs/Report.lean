import PatternLint.Proofs.LintResult
import PatternLint.Proofs.Word
import PatternLint.Report

/-! What the text report lists.
Groups without violations leave no trace in it, so the report is made of the severities that occur,
each under its number, and the groups hold every violation once.  Its texts are written out here,
with the sequences that colour them, and its line numbers are counted in 64 bits as well. -/

namespace PatternLint

namespace Violation

def severityText : Severity → String
  | .error => "error (High Risk)"
  | .warning => "warning (Medium Risk)"
  | .info => "info (Low Risk)"

/-- The block of a violation; there is none if one of its numbers takes more than 64 bits. -/
def blockInWords? (v : Violation) : Option String := do
  let line ← nextWord? v.location.line
  let column ← nextWord? v.location.column
  return v.code ++ " at " ++ v.location.file.spelling ++ ":" ++ toString line.toNat ++ ":" ++
    toString column.toNat ++ "\n  " ++ severityText v.severity ++ ": " ++ v.message ++
    "\n  = category: " ++ v.category ++ "\n"

theorem block_eq (v : Violation) :
    v.block = v.code ++ " at " ++ v.location.file.spelling ++ ":" ++
      toString (v.location.line + 1) ++ ":" ++ toString (v.location.column + 1) ++ "\n  " ++
      severityText v.severity ++ ": " ++ v.message ++ "\n  = category: " ++ v.category ++ "\n" := by
  apply String.toList_injective
  cases hseverity : v.severity <;>
    simp [block, place, hseverity, severityText, Severity.name, Severity.riskLabel]

theorem blockInWords?_eq (v : Violation) :
    v.blockInWords? =
      if v.location.line + 1 < 2 ^ 64 ∧ v.location.column + 1 < 2 ^ 64 then some v.block
      else none := by
  simp only [blockInWords?, nextWord?_eq]
  by_cases hline : v.location.line + 1 < 2 ^ 64
  · obtain ⟨line, hword, hnat⟩ := exists_word? hline
    by_cases hcolumn : v.location.column + 1 < 2 ^ 64
    · obtain ⟨column, hword', hnat'⟩ := exists_word? hcolumn
      rw [hword, hword', if_pos ⟨hline, hcolumn⟩, block_eq, ← hnat, ← hnat']
      rfl
    · rw [hword, word?_eq_none hcolumn, if_neg fun h => hcolumn h.2]
      rfl
  · rw [word?_eq_none hline, if_neg fun h => hline h.1]
    rfl

end Violation

namespace LintResult

/-- How the heading over the violations of a severity begins. -/
def headingText : Severity → String
  | .error => "\x1b[31mHigh Risk\x1b[0m ("
  | .warning => "\x1b[33mMedium Risk\x1b[0m ("
  | .info => "\x1b[34mLow Risk\x1b[0m ("

/-- The line below all violations, red if there are errors, else yellow if there are warnings, else
green. -/
def closingLine (errors warnings infos files : Nat) : String :=
  (if 0 < errors then "\x1b[31m" else if 0 < warnings then "\x1b[33m" else "\x1b[32m") ++
    "Found " ++ toString errors ++ " error(s), " ++ toString warnings ++ " warning(s), " ++
    toString infos ++ " info(s) in " ++ toString files ++ " file(s)\x1b[0m\n"

theorem paint_riskLabel (s : Severity) :
    s.colour.paint s.riskLabel ++ " (" = headingText s := by
  cases s <;> decide

theorem paint_summary (r : LintResult) :
    r.summaryColour.paint r.summary ++ "\n" =
      closingLine (r.count .error) (r.count .warning) (r.count .info) r.filesChecked := by
  apply String.toList_injective
  rw [summaryColour, closingLine]
  split
  · simp [Colour.paint, Colour.number, summary]
  · split <;> simp [Colour.paint, Colour.number, summary]

theorem severityGroup_of_count_eq_zero {r : LintResult} {severity : Severity}
    (h : r.count severity = 0) : r.severityGroup severity = "" := by
  rw [← length_bySeverity, List.length_eq_zero_iff] at h
  rw [severityGroup, h]
  rfl

theorem severityGroup_of_count_pos {r : LintResult} {severity : Severity}
    (h : 0 < r.count severity) :
    r.severityGroup severity =
      headingText severity ++ toString (r.count severity) ++ ")\n\n" ++
        String.join ((r.bySeverity severity).map fun v => v.block ++ "\n") := by
  have hsome : (r.bySeverity severity).isEmpty = false := by
    rw [← length_bySeverity, List.length_pos_iff] at h
    simpa using h
  simp [severityGroup, hsome, length_bySeverity, ← paint_riskLabel]

theorem flatMap_filter_of_eq_nil {α β : Type} {p : α → Bool} {f : α → List β} {l : List α}
    (h : ∀ a ∈ l, p a = false → f a = []) : (l.filter p).flatMap f = l.flatMap f := by
  induction l with
  | nil => rfl
  | cons a l ih =>
    obtain ⟨ha, hl⟩ := List.forall_mem_cons.1 h
    rw [List.flatMap_cons]
    cases hp : p a with
    | true => rw [List.filter_cons_of_pos hp, List.flatMap_cons, ih hl]
    | false => rw [List.filter_cons_of_neg (by simp [hp]), ih hl, ha hp, List.nil_append]

theorem join_severityGroups (r : LintResult) :
    String.join (Severity.all.map r.severityGroup) =
      String.join ((Severity.all.filter fun s => 0 < r.count s).map fun s =>
        headingText s ++ toString (r.count s) ++ ")\n\n" ++
          String.join ((r.bySeverity s).map fun v => v.block ++ "\n")) := by
  have hoccur : String.join (Severity.all.map r.severityGroup) =
      String.join ((Severity.all.filter fun s => 0 < r.count s).map r.severityGroup) := by
    apply String.toList_injective
    rw [String.toList_join, String.toList_join, List.flatMap_map, List.flatMap_map]
    refine (flatMap_filter_of_eq_nil fun severity _ h => ?_).symm
    rw [severityGroup_of_count_eq_zero (by simpa using h)]
    rfl
  rw [hoccur]
  refine congrArg String.join (List.map_congr_left fun severity h => ?_)
  exact severityGroup_of_count_pos (by simpa using (List.mem_filter.1 h).2)

theorem perm_groups (r : LintResult) :
    ((Severity.all.filter fun s => 0 < r.count s).flatMap r.bySeverity).Perm r.violations := by
  have hall : (Severity.all.filter fun s => 0 < r.count s).flatMap r.bySeverity =
      Severity.all.flatMap r.bySeverity := by
    refine flatMap_filter_of_eq_nil fun severity _ h => ?_
    rw [← List.length_eq_zero_iff, length_bySeverity]
    simpa using h
  rw [hall]
  exact Severity.perm_flatMap_filter r.violations

/-- However results are put together, the violations of the whole are those of the parts in order,
and its numbers are the sums of theirs; in 64 bits too, where no sum on the way is too large if the
last one is not.  The counts by severity agree with each other, with the threshold, and with the
text report.  The report gives the severities that occur, highest risk first, each under its count
with the blocks of its violations in order, so that every violation is there once; then the line
with the same counts, and a line about skipped files if there are any.  The line and column of a
block may be counted in 64 bits as long as they fit. -/
theorem textReport_of_grouping (g : Grouping) :
    let r := g.combined
    (r.violations = g.parts.flatMap violations ∧
      (∀ s, r.count s = (g.parts.map fun p => p.count s).sum) ∧
      (∀ c, (r.categoryCounts.lookup c).getD 0 =
        (g.parts.map fun p => (p.categoryCounts.lookup c).getD 0).sum) ∧
      (∀ c, c ∈ r.categoryCounts.map Prod.fst ↔
        ∃ p ∈ g.parts, c ∈ p.categoryCounts.map Prod.fst) ∧
      r.filesChecked = (g.parts.map filesChecked).sum ∧
      r.filesSkipped = (g.parts.map filesSkipped).sum ∧
      ∀ number ∈ [filesChecked, filesSkipped], number r < 2 ^ 64 →
        (g.wordTotal? number).map UInt64.toNat = some (number r)) ∧
    (r.count .error + r.count .warning + r.count .info = r.violations.length ∧
      ∀ s, r.hasViolationsAt s = true ↔ ∃ t, s ≤ t ∧ 0 < r.count t) ∧
    let occurring := [Severity.error, .warning, .info].filter fun s => 0 < r.count s
    let group (s : Severity) := r.violations.filter fun v => v.severity = s
    (∀ s, (group s).length = r.count s) ∧
    (occurring.flatMap group).Perm r.violations ∧
    (∀ v : Violation, v.blockInWords? =
      if v.location.line + 1 < 2 ^ 64 ∧ v.location.column + 1 < 2 ^ 64 then some v.block
      else none) ∧
    r.textReport =
      String.join (occurring.map fun s => headingText s ++ toString (r.count s) ++ ")\n\n" ++
        String.join ((group s).map fun v => v.block ++ "\n")) ++
      closingLine (r.count .error) (r.count .warning) (r.count .info) r.filesChecked ++
      (if 0 < r.filesSkipped then
        "Skipped " ++ toString r.filesSkipped ++ " unreadable file(s)\n" else "") := by
  intro r
  have hr : r = _ := g.combined_eq
  have hchecked : r.filesChecked = (g.parts.map filesChecked).sum := by rw [hr]
  have hskipped : r.filesSkipped = (g.parts.map filesSkipped).sum := by rw [hr]
  refine ⟨⟨by rw [hr], g.count_combined, g.lookup_categoryCounts_combined,
    g.mem_categoryCounts_combined, hchecked, hskipped, ?_⟩, ⟨r.sum_counts, fun s =>
    hasViolationsAt_iff_count⟩, r.length_bySeverity, r.perm_groups, Violation.blockInWords?_eq, ?_⟩
  · intro number hnumber hfits
    have htotal : number r = (g.parts.map number).sum := by
      cases hnumber with
      | head => exact hchecked
      | tail _ hnumber => rwa [List.mem_singleton.1 hnumber]
    rw [htotal] at hfits ⊢
    obtain ⟨w, hw, hsum⟩ := g.exists_wordTotal? number hfits
    rw [hw, Option.map_some, hsum]
  · calc r.textReport
      _ = String.join (Severity.all.map r.severityGroup) ++
            (r.summaryColour.paint r.summary ++ "\n") ++ r.skippedLine := by
          rw [textReport, ← String.append_assoc]
      _ = _ := by
          rw [paint_summary, join_severityGroups]
          rfl

/-- Two parts with violations of all severities, and the report of both.  A line number at the end
of the range of 64 bits leaves no block. -/
theorem textReport_of_grouping_mixed :
    let violation (code : String) (s : Severity) (line column : Nat) : Violation :=
      ⟨code, s, "c", ⟨⟨"a.cpp"⟩, line, column, 0, 0⟩, "m"⟩
    let g : Grouping := .joined
      (.part ⟨[violation "A1" .info 0 9, violation "A2" .error 1 0], 2 ^ 63, 3⟩)
      (.joined .fresh (.part ⟨[violation "A3" .warning 4 4, violation "A4" .error 0 2], 5, 0⟩))
    g.combined.textReport =
      "\x1b[31mHigh Risk\x1b[0m (2)\n\n" ++
      "A2 at a.cpp:2:1\n  error (High Risk): m\n  = category: c\n\n" ++
      "A4 at a.cpp:1:3\n  error (High Risk): m\n  = category: c\n\n" ++
      "\x1b[33mMedium Risk\x1b[0m (1)\n\n" ++
      "A3 at a.cpp:5:5\n  warning (Medium Risk): m\n  = category: c\n\n" ++
      "\x1b[34mLow Risk\x1b[0m (1)\n\n" ++
      "A1 at a.cpp:1:10\n  info (Low Risk): m\n  = category: c\n\n" ++
      "\x1b[31mFound 2 error(s), 1 warning(s), 1 info(s) in 9223372036854775813 file(s)\x1b[0m\n" ++
      "Skipped 3 unreadable file(s)\n" ∧
    (g.wordTotal? filesChecked).map UInt64.toNat = some (2 ^ 63 + 5) ∧
    (violation "A5" .info (2 ^ 64 - 1) 0).blockInWords? = none := by
  intro violation g
  obtain ⟨⟨-, -, -, -, -, -, hwords⟩, -, -, -, hblock, hreport⟩ := textReport_of_grouping g
  refine ⟨hreport.trans ?_, hwords filesChecked (by simp) (by decide), ?_⟩
  · decide +kernel
  · rw [hblock]
    decide

end LintResult

end PatternLint
