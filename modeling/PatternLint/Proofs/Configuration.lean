import Mathlib.Data.List.Basic
import PatternLint.Catalog.Preset
import PatternLint.Proofs.Analysis
import PatternLint.Proofs.Registry

/-! Presets and configurations seen through the findings.
Choosing rules before a pass and choosing among its findings afterwards come to the same: a preset
takes away the findings of built-in codes below its severity, a configuration those of disabled
codes, and it sets the severity of the others.  Whatever is left stays in its order and place. -/

namespace PatternLint

/-- A finding with the severity that a configuration gives to its code. -/
def Config.graded (c : Config) (v : Violation) : Violation :=
  { v with severity := (c.ruleSeverity v.code).getD v.severity }

namespace Document

variable {d : Document}

theorem report?_withSeverity (d : Document) (r : Rule) (s : Severity) (m : MatchSpan) :
    d.report? { r with severity := s } m =
      (d.report? r m).map fun v => { v with severity := s } := by
  simp only [report?]
  split
  · rfl
  · split <;> rfl

theorem checkRule_withSeverity (d : Document) (r : Rule) (s : Severity) :
    d.checkRule { r with severity := s } =
      (d.checkRule r).map fun v => { v with severity := s } := by
  have hmatches : Rule.findMatches { r with severity := s } d.text = r.findMatches d.text := rfl
  rw [checkRule, checkRule, hmatches]
  cases r.findMatches d.text with
  | error e => rfl
  | ok spans =>
    rw [List.map_filterMap]
    exact List.filterMap_congr fun m _ => d.report?_withSeverity r s m

theorem flatMap_adjust? (d : Document) (c : Config) (r : Rule) :
    (Registry.adjust? c r).toList.flatMap d.checkRule =
      ((d.checkRule r).filter fun v => c.isRuleEnabled v.code).map c.graded := by
  have hcode : ∀ v ∈ d.checkRule r, v.code = r.code := fun v hv => (rule_of_mem_checkRule hv).1
  cases hr : c.isRuleEnabled r.code with
  | false =>
    have hnone : (d.checkRule r).filter (fun v => c.isRuleEnabled v.code) = [] :=
      List.filter_eq_nil_iff.2 fun v hv => by simp [hcode v hv, hr]
    simp [Registry.adjust?, hr, hnone]
  | true =>
    have hall : (d.checkRule r).filter (fun v => c.isRuleEnabled v.code) = d.checkRule r :=
      List.filter_eq_self.2 fun v hv => by simp [hcode v hv, hr]
    rw [hall, Registry.adjust?, if_pos hr]
    cases hs : c.ruleSeverity r.code with
    | none =>
      have hsame : (d.checkRule r).map c.graded = d.checkRule r := by
        refine (List.map_congr_left fun v hv => ?_).trans (List.map_id _)
        have hv : c.ruleSeverity v.code = none := by rw [hcode v hv, hs]
        simp [Config.graded, hv]
      simp [hsame]
    | some s =>
      have hset : (d.checkRule r).map c.graded =
          (d.checkRule r).map fun v => { v with severity := s } :=
        List.map_congr_left fun v hv => by simp [Config.graded, hcode v hv, hs]
      simp [hset, checkRule_withSeverity]

theorem flatMap_filterMap_adjust? (d : Document) (c : Config) (rules : List Rule) :
    (rules.filterMap (Registry.adjust? c)).flatMap d.checkRule =
      ((rules.flatMap d.checkRule).filter fun v => c.isRuleEnabled v.code).map c.graded := by
  induction rules with
  | nil => rfl
  | cons r rules ih =>
    rw [List.flatMap_cons, List.filter_append, List.map_append, ← flatMap_adjust?, ← ih]
    cases hr : Registry.adjust? c r <;> simp [hr]

theorem flatMap_filter {keep : Rule → Bool} {keepFinding : Violation → Bool} {rules : List Rule}
    (h : ∀ r ∈ rules, ∀ v ∈ d.checkRule r, keepFinding v = keep r) :
    (rules.filter keep).flatMap d.checkRule = (rules.flatMap d.checkRule).filter keepFinding := by
  induction rules with
  | nil => rfl
  | cons r rules ih =>
    obtain ⟨hr, hrules⟩ := List.forall_mem_cons.1 h
    rw [List.flatMap_cons, List.filter_append, ← ih hrules, List.filter_congr hr]
    cases hk : keep r <;> simp [hk]

end Document

namespace Registry

variable {c : Config}

theorem adjust?_eq_some_of_rules_nil (h : c.rules = []) (r : Rule) : adjust? c r = some r := by
  simp [adjust?, Config.isRuleEnabled, Config.ruleSeverity, h]

theorem configured_of_rules_nil (h : c.rules = []) (g : Registry) : g.configured c = g := by
  simp [configured, h]

@[simp]
theorem rules_configured (g : Registry) (c : Config) :
    (g.configured c).rules = g.rules.filterMap (adjust? c) := by
  cases h : c.rules with
  | nil =>
    rw [configured_of_rules_nil h, funext (adjust?_eq_some_of_rules_nil h), List.filterMap_some]
  | cons e es => simp [configured, h, reindexed]

theorem analyze_configured (g : Registry) (c : Config) (path : Path) (text : Source) :
    (g.configured c).analyze path text =
      ((g.analyze path text).filter fun v => c.isRuleEnabled v.code).map c.graded := by
  rw [analyze, rules_configured]
  exact Document.flatMap_filterMap_adjust? _ c g.rules

theorem analyze_of_merge {g h k : Registry} (hok : g.merge h = .ok k) (path : Path)
    (text : Source) : k.analyze path text = g.analyze path text ++ h.analyze path text := by
  simp only [analyze, rules_of_merge hok, List.flatMap_append]

theorem analyze_restrict (p : Preset) (g : Registry) (path : Path) (text : Source) :
    (p.restrict g).analyze path text =
      (g.analyze path text).filter fun v => p.minSeverity ≤ v.severity := by
  refine Document.flatMap_filter fun r _ v hv => ?_
  rw [(Document.rule_of_mem_checkRule hv).2]

theorem exists_merge_restrict {builtin user full : Registry}
    (hfull : builtin.merge user = .ok full) (p : Preset) :
    ∃ k, (p.restrict builtin).merge user = .ok k := by
  have hvalid := valid_of_merge hfull
  have hsub : ((p.restrict builtin).rules ++ user.rules).Sublist full.rules := by
    rw [rules_of_merge hfull]
    exact List.filter_sublist.append_right _
  exact exists_ofRules (fun r hr => hvalid.named r (hsub.subset hr))
    (hvalid.distinct.sublist (hsub.map Rule.code))

/-- Narrowing the built-in rules to a preset, adding the user's and configuring all of them changes
the findings as if they had been chosen one by one: out go those of built-in codes below the
preset, then those of disabled codes, and the rest take the severity that their code is given. -/
theorem analyze_restricted_configured {builtin user full : Registry}
    (hfull : builtin.merge user = .ok full) (p : Preset) :
    ∃ k, (p.restrict builtin).merge user = .ok k ∧ ∀ c : Config,
      (c.rules = [] → k.configured c = k) ∧
      ∀ path text, (k.configured c).analyze path text =
        (((full.analyze path text).filter
            fun v => decide (v.code ∈ builtin.codes → p.minSeverity ≤ v.severity)).filter
            fun v => c.isRuleEnabled v.code).map c.graded := by
  obtain ⟨k, hk⟩ := exists_merge_restrict hfull p
  refine ⟨k, hk, fun c => ⟨fun h => configured_of_rules_nil h k, fun path text => ?_⟩⟩
  -- The preset looks at built-in codes only, and no code of the user's is one.
  have hbuiltin : (p.restrict builtin).analyze path text = (builtin.analyze path text).filter
      fun v => decide (v.code ∈ builtin.codes → p.minSeverity ≤ v.severity) := by
    rw [analyze_restrict]
    exact List.filter_congr fun v hv => by simp [code_of_mem_analyze hv]
  have huser : (user.analyze path text).filter
      (fun v => decide (v.code ∈ builtin.codes → p.minSeverity ≤ v.severity)) =
      user.analyze path text := by
    refine List.filter_eq_self.2 fun v hv => ?_
    simp [disjoint_of_merge hfull (code_of_mem_analyze hv)]
  rw [analyze_configured, analyze_of_merge hk, analyze_of_merge hfull,
    List.filter_append (builtin.analyze path text), huser, hbuiltin]

/-- Of a built-in rule below the preset nothing is left, the other one takes the severity that it
is given, and of the user's rules only the disabled one goes. -/
theorem analyze_restricted_configured_words :
    let builtin := reindexed [.ofWord "B1" .info "int", .ofWord "B2" .error "goto"]
    let user := reindexed [.ofWord "U1" .info "x", .ofWord "U2" .error ";"]
    let c : Config :=
      { Config.standard with rules := [("U2", ⟨false, none⟩), ("B2", ⟨true, some .warning⟩)] }
    let shown (v : Violation) := (v.code, v.severity, v.location.offset)
    let text := "int x; goto x;".toList
    ∃ full k, builtin.merge user = .ok full ∧
      (full.analyze ⟨"a.cpp"⟩ text).map shown = [("B1", .info, 0), ("B2", .error, 7),
        ("U1", .info, 4), ("U1", .info, 12), ("U2", .error, 5), ("U2", .error, 13)] ∧
      (Preset.minimal.restrict builtin).merge user = .ok k ∧
      ((k.configured c).analyze ⟨"a.cpp"⟩ text).map shown =
        [("B2", .warning, 7), ("U1", .info, 4), ("U1", .info, 12)] := by
  intro builtin user c shown text
  obtain ⟨full, hfull⟩ : ∃ full, builtin.merge user = .ok full :=
    exists_ofRules (by decide) (by decide)
  obtain ⟨k, hk, hanalyze⟩ := analyze_restricted_configured hfull .minimal
  have hall : full.analyze ⟨"a.cpp"⟩ text =
      (reindexed (builtin.rules ++ user.rules)).analyze ⟨"a.cpp"⟩ text := by
    rw [analyze, rules_of_merge hfull]
    rfl
  refine ⟨full, k, hfull, ?_, hk, ?_⟩
  · rw [hall]
    decide +kernel
  · rw [(hanalyze c).2, hall]
    decide +kernel

end Registry

end PatternLint
