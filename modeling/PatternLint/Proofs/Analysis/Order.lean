import Mathlib.Data.List.Nodup
import PatternLint.Proofs.Analysis
import PatternLint.Proofs.Match
import PatternLint.Proofs.Registry

/-! The order of the findings in a text.
Findings come by the registration of their rules and then by place, and no two are equal in both.
Those of one code stand together; they do not overlap, and they go down the text. -/

namespace PatternLint

/-- One finding ends before another begins, and stands before it in the text. -/
structure Violation.Precedes (v w : Violation) : Prop where
  starts : v.location.offset < w.location.offset
  ends : v.location.offset + v.location.length ≤ w.location.offset
  position : Prod.Lex (· < ·) (· < ·) (v.location.line, v.location.column)
    (w.location.line, w.location.column)

namespace Document

variable {path : Path} {text : Source} {r : Rule}

theorem pairwise_precedes_checkRule (hr : r.pattern.SearchesForward text) :
    ((ofText path text).checkRule r).Pairwise Violation.Precedes := by
  rw [checkRule]
  split
  · rename_i spans hspans
    rw [Rule.findMatches_eq_ok_iff] at hspans
    refine List.pairwise_filterMap.2 ?_
    refine (Pattern.pairwise_of_findMatches hr hspans).imp_of_mem ?_
    intro m n hm hn hmn v hv w hw
    obtain ⟨a, b, htext, hstart⟩ := Pattern.exists_append_of_findMatches hspans hm
    obtain ⟨a', b', htext', hstart'⟩ := Pattern.exists_append_of_findMatches hspans hn
    have hbounds := Pattern.bounds_of_findMatches hr hspans m hm
    have hposition := position_lt path htext htext' (by rw [← hstart, ← hstart']; exact hmn.1)
    rw [← hstart, ← hstart'] at hposition
    rw [eq_of_report? hv, eq_of_report? hw]
    refine ⟨hmn.1, ?_, hposition⟩
    show m.start + (m.stop - m.start) ≤ n.start
    rw [Nat.add_sub_cancel' hbounds.1]
    exact hmn.2
  · exact .nil

theorem inside_of_mem_checkRule (hr : r.pattern.SearchesForward text) {v : Violation}
    (hv : v ∈ (ofText path text).checkRule r) :
    v.location.offset + v.location.length ≤ text.byteLen := by
  rw [checkRule] at hv
  split at hv
  · rename_i spans hspans
    rw [Rule.findMatches_eq_ok_iff] at hspans
    obtain ⟨m, hm, hreport⟩ := List.mem_filterMap.1 hv
    have hbounds := Pattern.bounds_of_findMatches hr hspans m hm
    rw [eq_of_report? hreport]
    show m.start + (m.stop - m.start) ≤ text.byteLen
    rw [Nat.add_sub_cancel' hbounds.1]
    exact hbounds.2
  · cases hv

end Document

namespace Registry

variable {g : Registry} {text : Source}

theorem pairwise_idxOf_code (hd : g.codes.Nodup) :
    g.rules.Pairwise fun r q => g.codes.idxOf r.code < g.codes.idxOf q.code := by
  have hcodes : g.codes.Pairwise fun a b => g.codes.idxOf a < g.codes.idxOf b := by
    refine List.pairwise_iff_getElem.2 fun i j hi hj hij => ?_
    rw [hd.idxOf_getElem i hi, hd.idxOf_getElem j hj]
    exact hij
  exact (List.pairwise_map (f := Rule.code)).1 hcodes

theorem pairwise_analyze (hd : g.codes.Nodup) (path : Path)
    (hforward : ∀ r ∈ g.rules, r.pattern.SearchesForward text) :
    (g.analyze path text).Pairwise fun v w =>
      g.codes.idxOf v.code < g.codes.idxOf w.code ∨ v.code = w.code ∧ v.Precedes w := by
  refine List.pairwise_flatMap.2 ⟨fun r hr => ?_, (pairwise_idxOf_code hd).imp ?_⟩
  · refine (Document.pairwise_precedes_checkRule (hforward r hr)).imp_of_mem fun hv hw hvw => ?_
    rw [(Document.rule_of_mem_checkRule hv).1, (Document.rule_of_mem_checkRule hw).1]
    exact .inr ⟨rfl, hvw⟩
  · intro r q hrq v hv w hw
    rw [(Document.rule_of_mem_checkRule hv).1, (Document.rule_of_mem_checkRule hw).1]
    exact .inl hrq

theorem pairwise_idxOf_analyze (hd : g.codes.Nodup) (path : Path) (text : Source) :
    (g.analyze path text).Pairwise fun v w =>
      g.codes.idxOf v.code ≤ g.codes.idxOf w.code := by
  refine List.pairwise_flatMap.2 ⟨fun r hr => ?_, (pairwise_idxOf_code hd).imp ?_⟩
  · refine List.pairwise_of_forall_mem_list fun v hv w hw => ?_
    rw [(Document.rule_of_mem_checkRule hv).1, (Document.rule_of_mem_checkRule hw).1]
  · intro r q hrq v hv w hw
    rw [(Document.rule_of_mem_checkRule hv).1, (Document.rule_of_mem_checkRule hw).1]
    exact Nat.le_of_lt hrq

theorem exists_analyze_eq_append_filter (hd : g.codes.Nodup) (path : Path) (text : Source)
    (code : String) :
    ∃ before after, g.analyze path text =
      before ++ (g.analyze path text).filter (fun v => v.code = code) ++ after := by
  -- Rules with other codes have no finding of this one.
  have hother : ∀ rules : List Rule, code ∉ rules.map Rule.code →
      (rules.flatMap (Document.ofText path text).checkRule).filter
        (fun v => v.code = code) = [] := by
    intro rules hcode
    refine List.filter_eq_nil_iff.2 fun v hv => ?_
    obtain ⟨r, hr, hv⟩ := List.mem_flatMap.1 hv
    rw [(Document.rule_of_mem_checkRule hv).1, decide_eq_true_eq]
    exact fun h => hcode (h ▸ List.mem_map_of_mem hr)
  by_cases hcode : code ∈ g.codes
  · obtain ⟨r, hr, rfl⟩ := List.mem_map.1 hcode
    obtain ⟨before, after, hrules⟩ := List.append_of_mem hr
    rw [codes, hrules, List.map_append, List.map_cons] at hd
    obtain ⟨-, hafter, hdisjoint⟩ := List.nodup_append.1 hd
    have hown : ((Document.ofText path text).checkRule r).filter (fun v => v.code = r.code) =
        (Document.ofText path text).checkRule r :=
      List.filter_eq_self.2 fun v hv => by simp [(Document.rule_of_mem_checkRule hv).1]
    refine ⟨before.flatMap (Document.ofText path text).checkRule,
      after.flatMap (Document.ofText path text).checkRule, ?_⟩
    have hbefore : r.code ∉ before.map Rule.code := fun h =>
      hdisjoint r.code h r.code List.mem_cons_self rfl
    rw [analyze, hrules, List.flatMap_append, List.flatMap_cons, List.filter_append,
      List.filter_append, hother before hbefore, hother after (List.nodup_cons.1 hafter).1, hown]
    simp
  · exact ⟨g.analyze path text, [], by simp [analyze, hother g.rules hcode]⟩

/-- The findings in a text grow strictly in the registration of their code and then in their
offset, so a code and an offset tell them apart.  Those of one code are one stretch of the list,
and each of them ends in the text, before the next one begins, at a later line and column. -/
theorem analyze_ordered (hg : Built g) (path : Path) (text : Source)
    (hforward : ∀ r ∈ g.rules, r.pattern.SearchesForward text) :
    (∀ v ∈ g.analyze path text, v.code ∈ g.codes ∧
      v.location.offset + v.location.length ≤ text.byteLen) ∧
    ((g.analyze path text).Pairwise fun v w => Prod.Lex (· < ·) (· < ·)
      (g.codes.idxOf v.code, v.location.offset) (g.codes.idxOf w.code, w.location.offset)) ∧
    ((g.analyze path text).map fun v => (v.code, v.location.offset)).Nodup ∧
    (∀ code, ∃ before after, g.analyze path text =
      before ++ (g.analyze path text).filter (fun v => v.code = code) ++ after) ∧
    ((g.analyze path text).Pairwise fun v w => v.code = w.code → v.Precedes w) := by
  have hd := hg.valid.distinct
  have hpairwise := pairwise_analyze hd path hforward
  refine ⟨fun v hv => ⟨code_of_mem_analyze hv, ?_⟩, hpairwise.imp ?_, ?_,
    exists_analyze_eq_append_filter hd path text, hpairwise.imp ?_⟩
  · obtain ⟨r, hr, hv⟩ := List.mem_flatMap.1 hv
    exact Document.inside_of_mem_checkRule (hforward r hr) hv
  · rintro v w (hlt | ⟨hcode, hvw⟩)
    · exact .left _ _ hlt
    · rw [hcode]
      exact .right _ hvw.starts
  · refine List.pairwise_map.2 (hpairwise.imp fun {v w} hvw heq => ?_)
    obtain ⟨hcode, hoffset⟩ := Prod.mk.inj heq
    rcases hvw with hlt | ⟨-, hvw⟩
    · exact Nat.lt_irrefl _ (hcode ▸ hlt)
    · exact Nat.lt_irrefl _ (hoffset ▸ hvw.starts)
  · rintro v w (hlt | ⟨-, hvw⟩) hcode
    · exact absurd (hcode ▸ hlt) (Nat.lt_irrefl _)
    · exact hvw

/-- A rule that matches between any two characters, behind one that looks for a word: the findings
of the second rule begin anew at the top of the text, and count bytes and columns apart. -/
theorem analyze_ordered_words :
    let rules := [Rule.ofWord "W" .error "ü", .ofWord "E" .info ""]
    let text := "ü\nxü".toList
    let shown (v : Violation) :=
      (v.code, v.location.offset, v.location.length, v.location.line, v.location.column)
    ∃ g, ofRules rules = .ok g ∧ Built g ∧
      (∀ r ∈ g.rules, r.pattern.SearchesForward text) ∧
      (g.analyze ⟨"a.cpp"⟩ text).map shown = [("W", 0, 2, 0, 0), ("W", 4, 2, 1, 1),
        ("E", 0, 0, 0, 0), ("E", 2, 0, 0, 1), ("E", 3, 0, 1, 0), ("E", 4, 0, 1, 1),
        ("E", 6, 0, 1, 2)] ∧
      (g.analyze ⟨"a.cpp"⟩ text).Pairwise fun v w => Prod.Lex (· < ·) (· < ·)
        (g.codes.idxOf v.code, v.location.offset) (g.codes.idxOf w.code, w.location.offset) := by
  intro rules text shown
  obtain ⟨g, hg⟩ : ∃ g, ofRules rules = .ok g := exists_ofRules (by decide) (by decide)
  have hrules : g.rules = rules := (ofRules_eq_ok hg).1
  have hforward : ∀ r ∈ g.rules, r.pattern.SearchesForward text := by
    rw [hrules]
    decide +kernel
  have hfindings : g.analyze ⟨"a.cpp"⟩ text = (reindexed rules).analyze ⟨"a.cpp"⟩ text := by
    rw [analyze, hrules]
    rfl
  refine ⟨g, hg, .ofRules hg, hforward, ?_, (analyze_ordered (.ofRules hg) _ text hforward).2.1⟩
  rw [hfindings]
  decide +kernel

end Registry

end PatternLint
