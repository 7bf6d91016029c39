import PatternLint.LintResult
import PatternLint.Proofs.Entries
import PatternLint.Proofs.Text.Names
import PatternLint.Proofs.Word

/-! Results put together, and the numbers that sum them up.
However results are grouped when they are joined, what comes out is the violations of the parts in
their order and the sums of their numbers. -/

namespace PatternLint

theorem Severity.perm_flatMap_filter (vs : List Violation) :
    (all.flatMap fun severity => vs.filter fun v => v.severity == severity).Perm vs := by
  induction vs with
  | nil => exact .refl _
  | cons v vs ih =>
    simp only [all, List.flatMap_cons, List.flatMap_nil, List.append_nil] at *
    cases hv : v.severity with
    | error => simpa [List.filter_cons, hv] using ih
    | warning =>
      simp only [List.filter_cons, hv]
      exact List.perm_middle.trans (ih.cons v)
    | info =>
      simp only [List.filter_cons, hv]
      rw [← List.append_assoc] at *
      exact List.perm_middle.trans (ih.cons v)

namespace LintResult

variable {r : LintResult} {severity : Severity}

theorem append_eq (a b : LintResult) :
    a ++ b =
      { violations := a.violations ++ b.violations
        filesChecked := a.filesChecked + b.filesChecked
        filesSkipped := a.filesSkipped + b.filesSkipped } := rfl

theorem hasViolationsAt_iff :
    r.hasViolationsAt severity = true ↔ ∃ v ∈ r.violations, severity ≤ v.severity := by
  simp [hasViolationsAt]

@[simp]
theorem length_bySeverity (r : LintResult) (severity : Severity) :
    (r.bySeverity severity).length = r.count severity := List.countP_eq_length_filter.symm

theorem sum_counts (r : LintResult) :
    r.count .error + r.count .warning + r.count .info = r.violations.length := by
  have hlength := (Severity.perm_flatMap_filter r.violations).length_eq
  simp only [Severity.all, List.flatMap_cons, List.flatMap_nil, List.length_append,
    List.length_nil, ← List.countP_eq_length_filter] at hlength
  simp only [count]
  omega

theorem hasViolationsAt_iff_count :
    r.hasViolationsAt severity = true ↔ ∃ s, severity ≤ s ∧ 0 < r.count s := by
  simp only [hasViolationsAt_iff, count, List.countP_pos_iff, beq_iff_eq]
  constructor
  · rintro ⟨v, hv, hle⟩
    exact ⟨v.severity, hle, v, hv, rfl⟩
  · rintro ⟨s, hle, v, hv, rfl⟩
    exact ⟨v, hv, hle⟩

@[simp]
theorem mem_keys_categoryCounts {category : String} :
    category ∈ r.categoryCounts.map Prod.fst ↔ category ∈ r.violations.map Violation.category :=
  (tallies_nameCounts _).mem_keys_iff

@[simp]
theorem lookup_categoryCounts (r : LintResult) (category : String) :
    (r.categoryCounts.lookup category).getD 0 =
      (r.violations.map Violation.category).count category := by
  have htallies := tallies_nameCounts (r.violations.map Violation.category)
  cases hlookup : r.categoryCounts.lookup category with
  | some k => exact (htallies.mem_iff.1 (mem_of_lookup hlookup)).1
  | none =>
    rw [lookup_eq_none_iff_notMem, mem_keys_categoryCounts] at hlookup
    exact (List.count_eq_zero_of_not_mem hlookup).symm

/-- Results joined in pairs, beginning with parts or with nothing. -/
inductive Grouping where
  | fresh
  | part (r : LintResult)
  | joined (a b : Grouping)

namespace Grouping

def combined : Grouping → LintResult
  | fresh => .empty
  | part r => r
  | joined a b => a.combined ++ b.combined

def parts : Grouping → List LintResult
  | fresh => []
  | part r => [r]
  | joined a b => a.parts ++ b.parts

/-- A number of the parts summed up in 64 bits, along the grouping; none if a sum leaves the
range. -/
def wordTotal? (number : LintResult → Nat) : Grouping → Option UInt64
  | fresh => some 0
  | part r => word? (number r)
  | joined a b => do checkedAdd (← wordTotal? number a) (← wordTotal? number b)

theorem combined_eq (g : Grouping) :
    g.combined =
      { violations := g.parts.flatMap violations
        filesChecked := (g.parts.map filesChecked).sum
        filesSkipped := (g.parts.map filesSkipped).sum } := by
  induction g with
  | fresh => rfl
  | part r => simp [combined, parts]
  | joined a b iha ihb => simp [combined, parts, iha, ihb, append_eq]

theorem count_combined (g : Grouping) (severity : Severity) :
    g.combined.count severity = (g.parts.map fun r => r.count severity).sum := by
  rw [count, combined_eq, List.countP_flatMap]
  rfl

theorem lookup_categoryCounts_combined (g : Grouping) (category : String) :
    (g.combined.categoryCounts.lookup category).getD 0 =
      (g.parts.map fun r => (r.categoryCounts.lookup category).getD 0).sum := by
  simp only [lookup_categoryCounts, combined_eq, List.map_flatMap, List.count_flatMap]
  rfl

theorem mem_categoryCounts_combined (g : Grouping) (category : String) :
    category ∈ g.combined.categoryCounts.map Prod.fst ↔
      ∃ r ∈ g.parts, category ∈ r.categoryCounts.map Prod.fst := by
  simp only [mem_keys_categoryCounts, combined_eq, List.map_flatMap, List.mem_flatMap]

theorem exists_wordTotal? (g : Grouping) (number : LintResult → Nat)
    (h : (g.parts.map number).sum < 2 ^ 64) :
    ∃ w, g.wordTotal? number = some w ∧ w.toNat = (g.parts.map number).sum := by
  induction g with
  | fresh => exact ⟨0, rfl, rfl⟩
  | part r =>
    simp only [parts, List.map_singleton, List.sum_singleton] at h ⊢
    exact exists_word? h
  | joined a b iha ihb =>
    rw [parts, List.map_append, List.sum_append] at h ⊢
    obtain ⟨left, hleft, hleftNat⟩ := iha (by omega)
    obtain ⟨right, hright, hrightNat⟩ := ihb (by omega)
    obtain ⟨w, hw, hsum⟩ := exists_word? h
    refine ⟨w, ?_, hsum⟩
    simp [wordTotal?, hleft, hright, checkedAdd, hleftNat, hrightNat, hw]

end Grouping

end LintResult

end PatternLint
