import Mathlib.Data.List.Basic
import PatternLint.Analysis
import PatternLint.Proofs.Document
import PatternLint.Proofs.Except
import PatternLint.Proofs.Text.Comment

/-! An analysis pass against a plain reading of the text.
The plain reading builds no table: it counts newlines before a match, asks the comment scans span
by span, and splits the text into lines for every directive.  A pass reports the same findings, in
the same order, at the same places. -/

namespace PatternLint

def Source.upTo : Source → Nat → Source
  | [], _ => []
  | c :: s, offset => if c.utf8Size ≤ offset then c :: upTo s (offset - c.utf8Size) else []

def Rule.plainReport? (r : Rule) (path : Path) (text : Source) (m : MatchSpan) :
    Option Violation :=
  let before := text.upTo m.start
  let line := before.count '\n'
  if text.inComment m.start || isSuppressed text line r.code then none
  else
    some
      { code := r.code
        severity := r.severity
        category := r.category
        location :=
          { file := path
            line := line
            column := (before.reverse.takeWhile (· ≠ '\n')).length
            offset := m.start
            length := m.length }
        message := r.message }

/-- The findings of one rule in the order of its matches; a failed evaluation gives none. -/
def Rule.plainFindings (r : Rule) (path : Path) (text : Source) : List Violation :=
  match r.findMatches text with
  | .error _ => []
  | .ok spans => spans.filterMap (r.plainReport? path text)

/-- The findings of all rules in the order of registration, without any table. -/
def Registry.plainAnalyze (g : Registry) (path : Path) (text : Source) : List Violation :=
  g.rules.flatMap fun r => r.plainFindings path text

@[simp]
theorem Source.upTo_append (a b : Source) : (a ++ b).upTo (byteLen a) = a := by
  induction a with
  | nil =>
    cases b with
    | nil => rfl
    | cons c b =>
      have hc := c.utf8Size_pos
      rw [List.nil_append, upTo, if_neg (by rw [byteLen_nil]; omega)]
  | cons c a ih => simp [upTo, ih]

namespace Pattern

theorem exists_append_of_mem_offsetsFrom {o x : Nat} {s : Source} (h : x ∈ offsetsFrom o s) :
    ∃ a b, s = a ++ b ∧ x = o + Source.byteLen a := by
  induction s generalizing o with
  | nil =>
    have hx : x = o := by simpa [offsetsFrom] using h
    exact ⟨[], [], rfl, hx⟩
  | cons c s ih =>
    rcases List.mem_cons.1 h with rfl | h
    · exact ⟨[], c :: s, rfl, rfl⟩
    · obtain ⟨a, b, rfl, rfl⟩ := ih h
      exact ⟨c :: a, b, rfl, by rw [Source.byteLen_cons, Nat.add_assoc]⟩

theorem exists_append_of_findMatches {p : Pattern} {text : Source} {spans : List MatchSpan}
    (h : p.findMatches text = .ok spans) {m : MatchSpan} (hm : m ∈ spans) :
    ∃ a b, text = a ++ b ∧ m.start = Source.byteLen a := by
  simp only [findMatches] at h
  split at h
  · injection h with h
    rw [← h, List.mem_map] at hm
    obtain ⟨hit, -, rfl⟩ := hm
    simp only [Hit.toSpan, List.getElem?_toArray]
    cases hx : (offsetsFrom 0 text)[hit.start]? with
    | none => exact ⟨[], text, rfl, rfl⟩
    | some x => simpa using exists_append_of_mem_offsetsFrom (List.mem_of_getElem? hx)
  · simp at h

end Pattern

theorem Rule.findMatches_eq_ok_iff {r : Rule} {text : Source} {spans : List MatchSpan} :
    r.findMatches text = .ok spans ↔ r.pattern.findMatches text = .ok spans := mapError_eq_ok_iff

theorem Document.report?_eq_plainReport? (path : Path) (a b : Source) (r : Rule) {m : MatchSpan}
    (hm : m.start = Source.byteLen a) :
    (Document.ofText path (a ++ b)).report? r m = r.plainReport? path (a ++ b) m := by
  have hcomments : (Document.ofText path (a ++ b)).comments.covers m.start =
      (a ++ b).inComment m.start := CommentIndex.covers_detect (a ++ b) m.start
  have hbefore : (a ++ b).upTo m.start = a := by rw [hm, Source.upTo_append]
  have hposition := Document.position_ofText path a b
  rw [← hm] at hposition
  simp only [Document.report?, Rule.plainReport?, hcomments, hbefore, hposition,
    Document.isSuppressed_ofText]
  cases (a ++ b).inComment m.start with
  | true => rfl
  | false => rfl

theorem Document.checkRule_eq_plainFindings (path : Path) (text : Source) (r : Rule) :
    (Document.ofText path text).checkRule r = r.plainFindings path text := by
  have htext : (Document.ofText path text).text = text := rfl
  rw [Document.checkRule, Rule.plainFindings, htext]
  cases hspans : r.findMatches text with
  | error e => rfl
  | ok spans =>
    refine List.filterMap_congr fun m hm => ?_
    obtain ⟨a, b, rfl, hstart⟩ :=
      Pattern.exists_append_of_findMatches (Rule.findMatches_eq_ok_iff.1 hspans) hm
    exact Document.report?_eq_plainReport? path a b r hstart

/-- No finding is lost, added, moved or reordered by the tables of a document. -/
theorem Registry.analyze_eq_plainAnalyze (g : Registry) (path : Path) (text : Source) :
    g.analyze path text = g.plainAnalyze path text :=
  congrArg g.rules.flatMap (funext (Document.checkRule_eq_plainFindings path text))

theorem Source.upTo_isPrefix (s : Source) (offset : Nat) : s.upTo offset <+: s := by
  induction s generalizing offset with
  | nil => exact List.prefix_refl []
  | cons c s ih =>
    rw [upTo]
    split
    · exact (List.prefix_cons_inj c).2 (ih _)
    · exact List.nil_prefix

theorem Registry.line_of_mem_analyze {g : Registry} {path : Path} {text : Source} {v : Violation}
    (h : v ∈ g.analyze path text) :
    v.location.line < text.lines.length ∧ isSuppressed text v.location.line v.code = false := by
  obtain ⟨r, -, hr⟩ := List.mem_flatMap.1 h
  rw [Document.checkRule_eq_plainFindings, Rule.plainFindings] at hr
  split at hr
  · simp at hr
  · obtain ⟨m, -, hm⟩ := List.mem_filterMap.1 hr
    simp only [Rule.plainReport?] at hm
    split at hm
    · simp at hm
    · rename_i hkept
      simp only [Option.some.injEq] at hm
      subst hm
      rw [Bool.not_eq_true, Bool.or_eq_false_iff] at hkept
      refine ⟨?_, hkept.2⟩
      have hle := (Source.upTo_isPrefix text m.start).sublist.count_le '\n'
      rw [Source.length_lines]
      exact Nat.lt_succ_of_le hle

theorem Document.eq_of_report? {d : Document} {r : Rule} {m : MatchSpan} {v : Violation}
    (h : d.report? r m = some v) :
    v = { code := r.code
          severity := r.severity
          category := r.category
          location := ⟨d.path, (d.position m.start).1, (d.position m.start).2, m.start, m.length⟩
          message := r.message } := by
  simp only [report?] at h
  split at h
  · cases h
  · split at h
    · cases h
    · exact (Option.some.inj h).symm

theorem Document.rule_of_mem_checkRule {d : Document} {r : Rule} {v : Violation}
    (h : v ∈ d.checkRule r) : v.code = r.code ∧ v.severity = r.severity := by
  rw [checkRule] at h
  split at h
  · obtain ⟨m, -, hm⟩ := List.mem_filterMap.1 h
    rw [eq_of_report? hm]
    exact ⟨rfl, rfl⟩
  · cases h

theorem Registry.code_of_mem_analyze {g : Registry} {path : Path} {text : Source} {v : Violation}
    (h : v ∈ g.analyze path text) : v.code ∈ g.codes := by
  obtain ⟨r, hr, hv⟩ := List.mem_flatMap.1 h
  rw [(Document.rule_of_mem_checkRule hv).1]
  exact List.mem_map_of_mem hr

def Rule.ofWord (code : String) (severity : Severity) (word : String) : Rule where
  code := code
  severity := severity
  category := "Words"
  pattern := ⟨word, .standard, 0, .linear (Pattern.Linear.ofRegular (.literal word.toList))⟩
  message := word
  description := ""
  rationale := none
  remediation := none

end PatternLint
