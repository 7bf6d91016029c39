import Mathlib.Data.List.Induction
import PatternLint.Proofs.Analysis
import PatternLint.Proofs.Registry

/-! Looking rules up by their code.
Every operation leaves the index that its rules have when they are indexed anew, whether it checked
the codes on the way or not.  As no code occurs twice, a place in that index is the place of the one
rule with the code; so look-ups and refused merges can be told from the rules alone. -/

namespace PatternLint

namespace Registry

variable {rules : List Rule} {a b g : Registry}

theorem indexFrom_eq_foldl {i : Nat} {index index' : Std.HashMap String Nat}
    (h : indexFrom i index rules = .ok index') :
    index' = (rules.zipIdx i).foldl (fun m (r, i) => m.insert r.code i) index := by
  induction rules generalizing i index with
  | nil =>
    injection h with h
    exact h.symm
  | cons r rules ih =>
    rw [indexFrom] at h
    split at h
    · cases h
    · split at h
      · cases h
      · exact ih h

theorem eq_reindexed_of_ofRules (h : ofRules rules = .ok g) : g = reindexed rules := by
  obtain ⟨index, hindex, rfl⟩ := exists_of_map_eq_ok h
  rw [reindexed, ← indexFrom_eq_foldl hindex]

theorem Built.eq_reindexed (hg : Built g) : g = reindexed g.rules := by
  induction hg with
  | ofRules h =>
    obtain rfl := eq_reindexed_of_ofRules h
    rfl
  | merge _ _ h =>
    obtain rfl := eq_reindexed_of_ofRules h
    rfl
  | filter keep _ _ => rfl
  | configured c _ ih =>
    rw [Registry.configured]
    split
    · exact ih
    · rfl

@[simp]
theorem index_reindexed_concat (rules : List Rule) (r : Rule) :
    (reindexed (rules ++ [r])).index = (reindexed rules).index.insert r.code rules.length := by
  simp [reindexed, List.zipIdx_append]

theorem getElem?_concat_eq_some_iff {α : Type} {l : List α} {c x : α} {i : Nat} :
    (l ++ [c])[i]? = some x ↔ l[i]? = some x ∨ i = l.length ∧ c = x := by
  rcases Nat.lt_trichotomy i l.length with hi | rfl | hi
  · rw [List.getElem?_append_left hi]
    simp [Nat.ne_of_lt hi]
  · simp
  · have hpast : (l ++ [c]).length ≤ i := by
      rw [List.length_append]
      exact hi
    rw [List.getElem?_eq_none hpast, List.getElem?_eq_none (Nat.le_of_lt hi)]
    simp [Nat.ne_of_gt hi]

theorem getElem?_index_reindexed (hd : (rules.map Rule.code).Nodup) (code : String) (i : Nat) :
    (reindexed rules).index[code]? = some i ↔ (rules.map Rule.code)[i]? = some code := by
  induction rules using List.reverseRecOn with
  | nil => simp [reindexed]
  | append_singleton rules r ih =>
    rw [List.map_append, List.map_singleton] at hd ⊢
    obtain ⟨hrules, -, hnew⟩ := List.nodup_append.1 hd
    rw [index_reindexed_concat, Std.HashMap.getElem?_insert, getElem?_concat_eq_some_iff,
      List.length_map]
    by_cases hcode : r.code = code
    · subst hcode
      have hlast : (rules.map Rule.code)[i]? ≠ some r.code := fun hi =>
        hnew r.code (List.mem_of_getElem? hi) r.code (List.mem_singleton_self _) rfl
      rw [if_pos (beq_self_eq_true _), Option.some.injEq, or_iff_right hlast, and_iff_left rfl,
        eq_comm]
    · simp [hcode, ih hrules]

theorem byCode?_reindexed (hd : (rules.map Rule.code).Nodup) (code : String) (r : Rule) :
    (reindexed rules).byCode? code = some r ↔ r ∈ rules ∧ r.code = code := by
  rw [byCode?, Option.bind_eq_some_iff]
  constructor
  · rintro ⟨i, hindex, hr⟩
    rw [getElem?_index_reindexed hd, List.getElem?_map, Option.map_eq_some_iff] at hindex
    obtain ⟨q, hq, hcode⟩ := hindex
    obtain rfl : q = r := Option.some.inj (hq.symm.trans hr)
    exact ⟨List.mem_of_getElem? hr, hcode⟩
  · rintro ⟨hr, rfl⟩
    obtain ⟨i, hi⟩ := List.mem_iff_getElem?.1 hr
    refine ⟨i, (getElem?_index_reindexed hd _ _).2 ?_, hi⟩
    rw [List.getElem?_map, hi, Option.map_some]

theorem Built.lt_of_index (hg : Built g) {code : String} {i : Nat}
    (h : g.index[code]? = some i) : i < g.rules.length := by
  rw [hg.eq_reindexed] at h
  have hi := (getElem?_index_reindexed hg.valid.distinct code i).1 h
  simpa using (List.getElem?_eq_some_iff.1 hi).1

theorem Built.byCode?_eq_some_iff (hg : Built g) {code : String} {r : Rule} :
    g.byCode? code = some r ↔ r ∈ g.rules ∧ r.code = code := by
  rw [hg.eq_reindexed]
  exact byCode?_reindexed hg.valid.distinct code r

theorem Built.byCode?_eq_none_iff (hg : Built g) {code : String} :
    g.byCode? code = none ↔ code ∉ g.codes := by
  rw [Option.eq_none_iff_forall_ne_some, codes, List.mem_map, not_exists]
  exact forall_congr' fun r => not_congr hg.byCode?_eq_some_iff

theorem Valid.merge_eq_error_iff (ha : a.Valid) (hb : b.Valid) {e : RuleError} :
    a.merge b = .error e ↔ ∃ before r after, b.rules = before ++ r :: after ∧
      (∀ q ∈ before, q.code ∉ a.codes) ∧ r.code ∈ a.codes ∧ e = .duplicateCode r.code := by
  have hnamed : ∀ {before r after}, b.rules = before ++ r :: after →
      (∀ q ∈ before, q.code ∉ a.codes) → r.code ∈ a.codes →
      a.merge b = .error (.duplicateCode r.code) := by
    intro before r after hrules hbefore hr
    apply ha.merge_eq_error hb
    have hnone : (before.map Rule.code).find? a.codes.contains = none := by
      simpa using hbefore
    have hcodes : b.codes = before.map Rule.code ++ r.code :: after.map Rule.code := by
      rw [codes, hrules, List.map_append, List.map_cons]
    rw [hcodes, List.find?_append, hnone]
    simp [hr]
  constructor
  · intro herror
    -- Were every code new, the merge would succeed.
    obtain ⟨r, hr, htaken⟩ : ∃ r ∈ b.rules, r.code ∈ a.codes := by
      by_contra hnone
      obtain ⟨k, hk⟩ := ha.exists_merge hb fun code hcode htaken => by
        obtain ⟨r, hr, rfl⟩ := List.mem_map.1 hcode
        exact hnone ⟨r, hr, htaken⟩
      rw [hk] at herror
      cases herror
    obtain ⟨q, hq⟩ := Option.isSome_iff_exists.1
      (List.find?_isSome (p := fun r => decide (r.code ∈ a.codes)).2 ⟨r, hr, by simpa using htaken⟩)
    obtain ⟨hqtaken, before, after, hrules, hbefore⟩ := List.find?_eq_some_iff_append.1 hq
    have hbefore : ∀ r ∈ before, r.code ∉ a.codes := by simpa using hbefore
    have hqtaken : q.code ∈ a.codes := by simpa using hqtaken
    rw [hnamed hrules hbefore hqtaken] at herror
    exact ⟨before, q, after, hrules, hbefore, hqtaken, (Except.error.inj herror).symm⟩
  · rintro ⟨before, r, after, hrules, hbefore, hr, rfl⟩
    exact hnamed hrules hbefore hr

/-- Whatever has been merged, filtered and configured: every rule has a code of its own, the index
leads to rules only, and looking a code up gives the rule that has it.  Two such registries merge
exactly if they share no code, the rules of the second following those of the first; otherwise the
first rule of the second whose code is taken is named, and nothing else is ever complained about. -/
theorem lookup_merge_of_built (ha : Built a) (hb : Built b) :
    ((∀ r ∈ a.rules, r.code ≠ "") ∧ a.codes.Nodup) ∧
      (∀ (code : String) (i : Nat), a.index[code]? = some i → i < a.rules.length) ∧
      (∀ code r, a.byCode? code = some r ↔ r ∈ a.rules ∧ r.code = code) ∧
      (∀ code, a.byCode? code = none ↔ code ∉ a.codes) ∧
      ((∃ k, a.merge b = .ok k) ↔ ∀ code ∈ b.codes, code ∉ a.codes) ∧
      (∀ k, a.merge b = .ok k → k.rules = a.rules ++ b.rules) ∧
      ∀ e, a.merge b = .error e ↔ ∃ before r after, b.rules = before ++ r :: after ∧
        (∀ q ∈ before, q.code ∉ a.codes) ∧ r.code ∈ a.codes ∧ e = .duplicateCode r.code :=
  ⟨⟨ha.valid.named, ha.valid.distinct⟩, fun _ _ => ha.lt_of_index,
    fun _ _ => ha.byCode?_eq_some_iff, fun _ => ha.byCode?_eq_none_iff,
    ha.valid.exists_merge_iff hb.valid, fun _ => rules_of_merge,
    fun _ => ha.valid.merge_eq_error_iff hb.valid⟩

/-- After a rule is filtered out the others stand elsewhere and are still found.  Of the two codes
that a second registry repeats, the one it has first is named. -/
theorem lookup_merge_of_filtered :
    let rule (code : String) : Rule := .ofWord code .info "x"
    ∃ a b, Built a ∧ Built b ∧ a.rules = [rule "A2", rule "A3"] ∧
      b.rules = [rule "B1", rule "A3", rule "A2"] ∧ a.byCode? "A3" = some (rule "A3") ∧
      a.byCode? "A1" = none ∧ a.merge b = .error (.duplicateCode "A3") := by
  intro rule
  obtain ⟨g, hg⟩ : ∃ g, ofRules [rule "A1", rule "A2", rule "A3"] = .ok g :=
    exists_ofRules (by decide) (by decide)
  obtain ⟨b, hb⟩ : ∃ b, ofRules [rule "B1", rule "A3", rule "A2"] = .ok b :=
    exists_ofRules (by decide) (by decide)
  have ha : Built (g.filter fun r => r.code != "A1") := .filter _ (.ofRules hg)
  have harules : (g.filter fun r => r.code != "A1").rules = [rule "A2", rule "A3"] := by
    rw [Registry.filter, (ofRules_eq_ok hg).1]
    rfl
  have hbrules := (ofRules_eq_ok hb).1
  obtain ⟨-, -, hsome, hnone, -, -, herror⟩ := lookup_merge_of_built ha (.ofRules hb)
  refine ⟨_, b, ha, .ofRules hb, harules, hbrules, (hsome _ _).2 ?_, (hnone _).2 ?_,
    (herror _).2 ⟨[rule "B1"], rule "A3", [rule "A2"], hbrules, ?_, ?_, rfl⟩⟩
  all_goals simp [codes, harules, rule, Rule.ofWord]

end Registry

end PatternLint
