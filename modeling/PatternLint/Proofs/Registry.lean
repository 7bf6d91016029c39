import Mathlib.Data.List.Induction
import Mathlib.Data.List.Nodup
import PatternLint.Proofs.Except
import PatternLint.Registry

/-! Which rules make a registry.
Rules are accepted exactly when every one has a code and no two share it.  Registries made this way
stay so when they are merged, filtered or configured, and a merge that is refused names the first
rule of the second registry whose code the first one has. -/

namespace PatternLint

namespace Registry

variable {rules : List Rule} {index index' : Std.HashMap String Nat} {g h k : Registry}

theorem contains_of_indexFrom {i : Nat} (hok : indexFrom i index rules = .ok index')
    (code : String) :
    index'.contains code = (index.contains code || (rules.map Rule.code).contains code) := by
  induction rules generalizing i index with
  | nil =>
    injection hok with hok
    simp [hok]
  | cons r rules ih =>
    rw [indexFrom] at hok
    split at hok
    · cases hok
    · split at hok
      · cases hok
      · rw [ih hok, Std.HashMap.contains_insert, List.map_cons, List.contains_cons]
        cases index.contains code <;> simp [Bool.beq_comm]

theorem indexFrom_append (i : Nat) (index : Std.HashMap String Nat) (as bs : List Rule) :
    indexFrom i index (as ++ bs) =
      (indexFrom i index as).bind fun index' => indexFrom (i + as.length) index' bs := by
  induction as generalizing i index with
  | nil => rfl
  | cons r as ih =>
    rw [List.cons_append, indexFrom, indexFrom, ih, List.length_cons]
    split
    · rfl
    · split
      · rfl
      · rw [Nat.add_right_comm, Nat.add_assoc]

theorem exists_indexFrom (hne : ∀ r ∈ rules, r.code ≠ "") (hd : (rules.map Rule.code).Nodup)
    (i : Nat) (hindex : ∀ r ∈ rules, index.contains r.code = false) :
    ∃ index', indexFrom i index rules = .ok index' := by
  induction rules generalizing i index with
  | nil => exact ⟨index, rfl⟩
  | cons r rules ih =>
    obtain ⟨hr, hne⟩ := List.forall_mem_cons.1 hne
    obtain ⟨hrindex, hindex⟩ := List.forall_mem_cons.1 hindex
    obtain ⟨hrd, hd⟩ := List.nodup_cons.1 hd
    have hempty : r.code.isEmpty = false := by simpa using hr
    simp only [indexFrom, hempty, hrindex, Bool.false_eq_true, ↓reduceIte]
    refine ih hne hd (i + 1) fun q hq => ?_
    have hqr : r.code ≠ q.code := fun h => hrd (h ▸ List.mem_map_of_mem hq)
    simp [Std.HashMap.contains_insert, hqr, hindex q hq]

theorem indexFrom_eq_error {before after : List Rule} {r : Rule}
    (hne : ∀ q ∈ before ++ r :: after, q.code ≠ "") (hd : (before.map Rule.code).Nodup) (i : Nat)
    (hbefore : ∀ q ∈ before, index.contains q.code = false)
    (hr : index.contains r.code = true ∨ r.code ∈ before.map Rule.code) :
    indexFrom i index (before ++ r :: after) = .error (.duplicateCode r.code) := by
  obtain ⟨hnebefore, hnerest⟩ := List.forall_mem_append.1 hne
  have hner : r.code ≠ "" := hnerest r List.mem_cons_self
  obtain ⟨index', hok⟩ := exists_indexFrom hnebefore hd i hbefore
  have hempty : r.code.isEmpty = false := by simpa using hner
  have hknown : index'.contains r.code = true := by
    rw [contains_of_indexFrom hok, Bool.or_eq_true_iff, List.contains_iff_mem]
    exact hr
  rw [indexFrom_append, hok]
  simp [Except.bind, indexFrom, hempty, hknown]

theorem codes_of_indexFrom {i : Nat} (hok : indexFrom i index rules = .ok index') :
    (∀ r ∈ rules, r.code ≠ "" ∧ index.contains r.code = false) ∧
      (rules.map Rule.code).Nodup := by
  induction rules generalizing i index with
  | nil => exact ⟨by simp, List.nodup_nil⟩
  | cons r rules ih =>
    rw [indexFrom] at hok
    split at hok
    · cases hok
    · rename_i hempty
      split at hok
      · cases hok
      · rename_i hknown
        obtain ⟨hrules, hd⟩ := ih hok
        have hother : ∀ q ∈ rules, r.code ≠ q.code ∧ index.contains q.code = false := by
          intro q hq
          simpa [Std.HashMap.contains_insert] using (hrules q hq).2
        refine ⟨List.forall_mem_cons.2 ⟨⟨by simpa using hempty, by simpa using hknown⟩,
          fun q hq => ⟨(hrules q hq).1, (hother q hq).2⟩⟩, List.nodup_cons.2 ⟨fun hr => ?_, hd⟩⟩
        obtain ⟨q, hq, hcode⟩ := List.mem_map.1 hr
        exact (hother q hq).1 hcode.symm

structure Valid (g : Registry) : Prop where
  named : ∀ r ∈ g.rules, r.code ≠ ""
  distinct : g.codes.Nodup

theorem Valid.of_sublist (hg : g.Valid) (hsub : h.rules.Sublist g.rules) : h.Valid :=
  ⟨fun r hr => hg.named r (hsub.subset hr), hg.distinct.sublist (hsub.map Rule.code)⟩

theorem ofRules_eq_ok (hok : ofRules rules = .ok g) : g.rules = rules ∧ g.Valid := by
  obtain ⟨index, hindex, rfl⟩ := exists_of_map_eq_ok hok
  obtain ⟨hrules, hd⟩ := codes_of_indexFrom hindex
  exact ⟨rfl, fun r hr => (hrules r hr).1, hd⟩

theorem exists_ofRules (hne : ∀ r ∈ rules, r.code ≠ "") (hd : (rules.map Rule.code).Nodup) :
    ∃ g, ofRules rules = .ok g := by
  obtain ⟨index, hindex⟩ : ∃ index, indexFrom 0 ∅ rules = .ok index :=
    exists_indexFrom hne hd 0 (by simp)
  exact ⟨⟨rules, index⟩, by rw [ofRules, hindex]; rfl⟩

theorem exists_first_repeat {α : Type} {l : List α} (h : ¬ l.Nodup) :
    ∃ before x after, l = before ++ x :: after ∧ before.Nodup ∧ x ∈ before := by
  induction l using List.reverseRecOn with
  | nil => simp at h
  | append_singleton l x ih =>
    by_cases hl : l.Nodup
    · refine ⟨l, x, [], rfl, hl, ?_⟩
      by_contra hnew
      exact h (List.nodup_append_comm.1 (List.nodup_cons.2 ⟨hnew, hl⟩))
    · obtain ⟨before, y, after, rfl, hbefore, hy⟩ := ih hl
      exact ⟨before, y, after ++ [x], by simp, hbefore, hy⟩

theorem ofRules_eq_error_iff (hne : ∀ r ∈ rules, r.code ≠ "") {e : RuleError} :
    ofRules rules = .error e ↔ ∃ before code after,
      rules.map Rule.code = before ++ code :: after ∧ before.Nodup ∧ code ∈ before ∧
        e = .duplicateCode code := by
  have hnamed : ∀ {before code after}, rules.map Rule.code = before ++ code :: after →
      before.Nodup → code ∈ before → ofRules rules = .error (.duplicateCode code) := by
    intro before code after hcodes hd hcode
    obtain ⟨front, back, rfl, rfl, hback⟩ := List.map_eq_append_iff.1 hcodes
    obtain ⟨r, after', rfl, rfl, -⟩ := List.map_eq_cons_iff.1 hback
    rw [ofRules, indexFrom_eq_error hne hd 0 (by simp) (.inr hcode)]
    rfl
  constructor
  · intro herror
    by_cases hd : (rules.map Rule.code).Nodup
    · obtain ⟨g, hg⟩ := exists_ofRules hne hd
      rw [hg] at herror
      cases herror
    · obtain ⟨before, code, after, hcodes, hbefore, hcode⟩ := exists_first_repeat hd
      rw [hnamed hcodes hbefore hcode] at herror
      exact ⟨before, code, after, hcodes, hbefore, hcode, (Except.error.inj herror).symm⟩
  · rintro ⟨before, code, after, hcodes, hbefore, hcode, rfl⟩
    exact hnamed hcodes hbefore hcode

theorem rules_of_merge (hok : g.merge h = .ok k) : k.rules = g.rules ++ h.rules :=
  (ofRules_eq_ok hok).1

theorem valid_of_merge (hok : g.merge h = .ok k) : k.Valid := (ofRules_eq_ok hok).2

theorem disjoint_of_merge (hok : g.merge h = .ok k) {code : String} (hcode : code ∈ h.codes) :
    code ∉ g.codes := by
  have hd := (valid_of_merge hok).distinct
  rw [codes, rules_of_merge hok, List.map_append] at hd
  exact fun hg => List.disjoint_of_nodup_append hd hg hcode

theorem Valid.exists_merge (hg : g.Valid) (hh : h.Valid)
    (hdisjoint : ∀ code ∈ h.codes, code ∉ g.codes) : ∃ k, g.merge h = .ok k := by
  refine exists_ofRules (List.forall_mem_append.2 ⟨hg.named, hh.named⟩) ?_
  rw [List.map_append]
  exact hg.distinct.append hh.distinct fun code hcg hch => hdisjoint code hch hcg

theorem Valid.merge_eq_error (hg : g.Valid) (hh : h.Valid) {code : String}
    (hfirst : h.codes.find? g.codes.contains = some code) :
    g.merge h = .error (.duplicateCode code) := by
  obtain ⟨r, hfind, rfl⟩ : ∃ r, h.rules.find? (g.codes.contains ∘ Rule.code) = some r ∧
      r.code = code := by
    rw [← Option.map_eq_some_iff, ← List.find?_map]
    exact hfirst
  obtain ⟨hr, before, after, hrules, hbefore⟩ := List.find?_eq_some_iff_append.1 hfind
  obtain ⟨index, hindex⟩ : ∃ index, indexFrom 0 ∅ g.rules = .ok index :=
    exists_indexFrom hg.named hg.distinct 0 (by simp)
  have hcontains : ∀ code, index.contains code = g.codes.contains code := by
    intro code
    rw [contains_of_indexFrom hindex, Std.HashMap.contains_empty, Bool.false_or]
    rfl
  have hne : ∀ q ∈ before ++ r :: after, q.code ≠ "" := hrules ▸ hh.named
  have hd : (before.map Rule.code).Nodup := by
    have := hh.distinct
    rw [codes, hrules, List.map_append] at this
    exact this.of_append_left
  rw [merge, ofRules, indexFrom_append, hindex, hrules]
  simp only [Except.bind]
  rw [indexFrom_eq_error hne hd _ (fun q hq => ?_) (.inl ((hcontains r.code).trans hr))]
  · rfl
  · rw [hcontains]
    simpa using hbefore q hq

theorem Valid.exists_merge_iff (hg : g.Valid) (hh : h.Valid) :
    (∃ k, g.merge h = .ok k) ↔ ∀ code ∈ h.codes, code ∉ g.codes :=
  ⟨fun ⟨_, hok⟩ _ => disjoint_of_merge hok, hg.exists_merge hh⟩

theorem Valid.filter (hg : g.Valid) (keep : Rule → Bool) : (g.filter keep).Valid :=
  hg.of_sublist List.filter_sublist

theorem code_of_adjust? {c : Config} {r r' : Rule} (h : adjust? c r = some r') :
    r'.code = r.code := by
  rw [adjust?] at h
  split at h
  · injection h with h
    rw [← h]
    split <;> rfl
  · cases h

theorem map_code_filterMap_adjust? (c : Config) (rules : List Rule) :
    (rules.filterMap (adjust? c)).map Rule.code =
      (rules.filter fun r => c.isRuleEnabled r.code).map Rule.code := by
  induction rules with
  | nil => rfl
  | cons r rules ih =>
    rw [List.filterMap_cons, List.filter_cons]
    cases hr : c.isRuleEnabled r.code with
    | false => simp [adjust?, hr, ih]
    | true =>
      obtain ⟨r', hr'⟩ : ∃ r', adjust? c r = some r' := ⟨_, if_pos hr⟩
      simp [hr', ih, code_of_adjust? hr']

theorem Valid.configured (hg : g.Valid) (c : Config) : (g.configured c).Valid := by
  rw [Registry.configured]
  split
  · exact hg
  · have hcodes := map_code_filterMap_adjust? c g.rules
    refine ⟨fun r hr => ?_, ?_⟩
    · obtain ⟨q, hq, hadjust⟩ := List.mem_filterMap.1 hr
      rw [code_of_adjust? hadjust]
      exact hg.named q hq
    · rw [codes, reindexed, hcodes]
      exact hg.distinct.sublist (List.filter_sublist.map Rule.code)

inductive Built : Registry → Prop
  | ofRules {rules : List Rule} {g : Registry} : Registry.ofRules rules = .ok g → Built g
  | merge {g h k : Registry} : Built g → Built h → g.merge h = .ok k → Built k
  | filter {g : Registry} (keep : Rule → Bool) : Built g → Built (g.filter keep)
  | configured {g : Registry} (c : Config) : Built g → Built (g.configured c)

theorem Built.valid (hg : Built g) : g.Valid := by
  induction hg with
  | ofRules hok => exact (ofRules_eq_ok hok).2
  | merge _ _ hok => exact valid_of_merge hok
  | filter keep _ ih => exact ih.filter keep
  | configured c _ ih => exact ih.configured c

theorem built_reindexed (hne : ∀ r ∈ rules, r.code ≠ "") (hd : (rules.map Rule.code).Nodup) :
    Built (reindexed rules) := by
  obtain ⟨g, hg⟩ := exists_ofRules hne hd
  have hall : g.filter (fun _ => true) = reindexed rules := by
    rw [Registry.filter, (ofRules_eq_ok hg).1, List.filter_true]
  rw [← hall]
  exact .filter _ (.ofRules hg)

end Registry

end PatternLint
