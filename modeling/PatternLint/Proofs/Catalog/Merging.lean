import PatternLint.Proofs.Catalog.Loading
import PatternLint.Proofs.Registry.Lookup

/-! Catalogs loaded together, and loaded apart and merged.
A registry keeps the rules that its catalogs gave, so the merge of two registries looks at the same
list of rules as one load of all their catalogs.  What is left is that a load of all of them
succeeds only if each part would load for itself. -/

namespace PatternLint

namespace Catalog

variable {options : PatternOptions} {xs ys : List String} {a b g : Registry}

theorem loadAll_append (options : PatternOptions) (xs ys : List String) :
    loadAll options (xs ++ ys) = (do
      let front ← loadAll options xs
      let back ← loadAll options ys
      return front ++ back) := by
  induction xs with
  | nil => cases h : loadAll options ys <;> simp [loadAll, h, bind, Except.bind, pure, Except.pure]
  | cons text xs ih =>
    rw [List.cons_append, loadAll, loadAll, ih]
    cases loadRules text options with
    | error e => rfl
    | ok rules =>
      cases loadAll options xs with
      | error e => rfl
      | ok front =>
        cases loadAll options ys with
        | error e => rfl
        | ok back => simp [bind, Except.bind, pure, Except.pure]

theorem loadAll_append_eq_ok_iff {rules : List Rule} :
    loadAll options (xs ++ ys) = .ok rules ↔ ∃ front back, loadAll options xs = .ok front ∧
      loadAll options ys = .ok back ∧ front ++ back = rules := by
  rw [loadAll_append]
  constructor
  · intro h
    obtain ⟨front, hfront, h⟩ := exists_of_bind_eq_ok h
    obtain ⟨back, hback, h⟩ := exists_of_bind_eq_ok h
    exact ⟨front, back, hfront, hback, Except.ok.inj h⟩
  · rintro ⟨front, back, hfront, hback, rfl⟩
    rw [hfront, hback]
    rfl

theorem loadRegistry_eq_ok_iff :
    loadRegistry xs options = .ok g ↔
      ∃ rules, loadAll options xs = .ok rules ∧ Registry.ofRules rules = .ok g := by
  rw [loadRegistry, bind_eq_ok_iff]
  simp only [mapError_eq_ok_iff]

theorem loadAll_of_loadRegistry (h : loadRegistry xs options = .ok g) :
    loadAll options xs = .ok g.rules := by
  obtain ⟨rules, hrules, hg⟩ := loadRegistry_eq_ok_iff.1 h
  rw [hrules, (Registry.ofRules_eq_ok hg).1]

theorem codes_of_loadRegistry (h : loadRegistry xs options = .ok g) :
    g.codes = (entries xs).map CatalogEntry.code :=
  (codes_of_loadAll (loadAll_of_loadRegistry h)).1

theorem built_of_loadRegistry (h : loadRegistry xs options = .ok g) : g.Built := by
  obtain ⟨rules, -, hg⟩ := loadRegistry_eq_ok_iff.1 h
  exact .ofRules hg

theorem loadRegistry_append (ha : loadRegistry xs options = .ok a)
    (hb : loadRegistry ys options = .ok b) :
    loadRegistry (xs ++ ys) options = (a.merge b).mapError .definition := by
  have hrules : loadAll options (xs ++ ys) = .ok (a.rules ++ b.rules) :=
    loadAll_append_eq_ok_iff.2
      ⟨_, _, loadAll_of_loadRegistry ha, loadAll_of_loadRegistry hb, rfl⟩
  rw [loadRegistry, hrules]
  rfl

theorem exists_parts_of_loadRegistry_append (h : loadRegistry (xs ++ ys) options = .ok g) :
    ∃ a b, loadRegistry xs options = .ok a ∧ loadRegistry ys options = .ok b ∧
      a.merge b = .ok g := by
  obtain ⟨rules, hrules, hg⟩ := loadRegistry_eq_ok_iff.1 h
  obtain ⟨front, back, hfront, hback, rfl⟩ := loadAll_append_eq_ok_iff.1 hrules
  obtain ⟨hsame, hvalid⟩ := Registry.ofRules_eq_ok hg
  have hpart : ∀ {part : List Rule}, part.Sublist (front ++ back) →
      ∃ k, Registry.ofRules part = .ok k := by
    intro part hpart
    rw [← hsame] at hpart
    exact Registry.exists_ofRules (fun r hr => hvalid.named r (hpart.subset hr))
      (hvalid.distinct.sublist (hpart.map Rule.code))
  obtain ⟨a, ha⟩ := hpart (List.sublist_append_left front back)
  obtain ⟨b, hb⟩ := hpart (List.sublist_append_right front back)
  refine ⟨a, b, loadRegistry_eq_ok_iff.2 ⟨front, hfront, ha⟩,
    loadRegistry_eq_ok_iff.2 ⟨back, hback, hb⟩, ?_⟩
  rw [Registry.merge, (Registry.ofRules_eq_ok ha).1, (Registry.ofRules_eq_ok hb).1, hg]

/-- Catalogs that load apart give the same result when they are loaded together as when the two
registries are merged: a registry with the rules of the first before those of the second and the
look-ups of both, or else the first code of the second that the first one has is named as repeated.
Catalogs that load together load apart, and their merge is the same registry. -/
theorem loadRegistry_append_eq_merge (xs ys : List String) (options : PatternOptions) :
    (∀ a b, loadRegistry xs options = .ok a → loadRegistry ys options = .ok b →
      loadRegistry (xs ++ ys) options = (a.merge b).mapError .definition ∧
      (∀ g, a.merge b = .ok g → g.rules = a.rules ++ b.rules ∧
        ∀ code r, g.byCode? code = some r ↔ a.byCode? code = some r ∨ b.byCode? code = some r) ∧
      ∀ e, a.merge b = .error e ↔ ∃ before r after, b.rules = before ++ r :: after ∧
        (∀ q ∈ before, q.code ∉ a.codes) ∧ r.code ∈ a.codes ∧ e = .duplicateCode r.code) ∧
    ∀ g, loadRegistry (xs ++ ys) options = .ok g →
      ∃ a b, loadRegistry xs options = .ok a ∧ loadRegistry ys options = .ok b ∧
        a.merge b = .ok g := by
  refine ⟨fun a b ha hb => ?_, fun g => exists_parts_of_loadRegistry_append⟩
  have habuilt := built_of_loadRegistry ha
  have hbbuilt := built_of_loadRegistry hb
  refine ⟨loadRegistry_append ha hb, fun g hg => ⟨Registry.rules_of_merge hg, fun code r => ?_⟩,
    fun e => habuilt.valid.merge_eq_error_iff hbbuilt.valid⟩
  have hgbuilt : g.Built := .merge habuilt hbbuilt hg
  rw [hgbuilt.byCode?_eq_some_iff, habuilt.byCode?_eq_some_iff, hbbuilt.byCode?_eq_some_iff,
    Registry.rules_of_merge hg, List.mem_append, or_and_right]

def otherText : String :=
  "[[rules]]\ncode='B'\nseverity='info'\ncategory='c'\npattern='x'\nmessage='m'"

/-- Of the two codes that the parts share, the one that comes first in the second part is named, and
so it depends on which part that is. -/
theorem loadRegistry_append_eq_merge_crossed :
    ∃ a b, loadRegistry [soundText, otherText] .standard = .ok a ∧
      loadRegistry [otherText, soundText] .standard = .ok b ∧
      a.merge b = .error (.duplicateCode "B") ∧ b.merge a = .error (.duplicateCode "A") ∧
      loadRegistry [soundText, otherText, otherText, soundText] .standard =
        .error (.definition (.duplicateCode "B")) ∧
      loadRegistry [otherText, soundText, soundText, otherText] .standard =
        .error (.definition (.duplicateCode "A")) := by
  have hsoundText : parse soundText = .ok [shortEntry "A" " Error "] := by decide +kernel
  have hotherText : parse otherText = .ok [shortEntry "B" "info"] := by decide +kernel
  have hsound : IsSound .standard soundText := by
    refine ⟨_, hsoundText, List.forall_mem_singleton.2 ((CatalogEntry.exists_compile_iff 0).1 ?_)⟩
    exact CatalogEntry.exists_compile_of_isComplete rfl (by decide +kernel) _ 0
  have hother : IsSound .standard otherText := by
    refine ⟨_, hotherText, List.forall_mem_singleton.2 ((CatalogEntry.exists_compile_iff 0).1 ?_)⟩
    exact CatalogEntry.exists_compile_of_isComplete rfl (by decide +kernel) _ 0
  have hfront : entries [soundText, otherText] = [shortEntry "A" " Error ", shortEntry "B" "info"] :=
    (entries_cons hsoundText).trans (congrArg _ (entries_cons hotherText))
  have hback : entries [otherText, soundText] = [shortEntry "B" "info", shortEntry "A" " Error "] :=
    (entries_cons hotherText).trans (congrArg _ (entries_cons hsoundText))
  obtain ⟨a, ha⟩ : ∃ a, loadRegistry [soundText, otherText] .standard = .ok a :=
    exists_loadRegistry_iff.2 ⟨by simp [hsound, hother], by rw [hfront]; decide⟩
  obtain ⟨b, hb⟩ : ∃ b, loadRegistry [otherText, soundText] .standard = .ok b :=
    exists_loadRegistry_iff.2 ⟨by simp [hsound, hother], by rw [hback]; decide⟩
  have hacodes : a.codes = ["A", "B"] := by rw [codes_of_loadRegistry ha, hfront]; rfl
  have hbcodes : b.codes = ["B", "A"] := by rw [codes_of_loadRegistry hb, hback]; rfl
  obtain ⟨hab, -, haberror⟩ := (loadRegistry_append_eq_merge _ _ _).1 a b ha hb
  obtain ⟨hba, -, hbaerror⟩ := (loadRegistry_append_eq_merge _ _ _).1 b a hb ha
  have hmergeab : a.merge b = .error (.duplicateCode "B") := by
    obtain ⟨r, rest, hrules, hr, -⟩ := List.map_eq_cons_iff.1 hbcodes
    exact (haberror _).2 ⟨[], r, rest, hrules, by simp, by simp [hr, hacodes], by rw [hr]⟩
  have hmergeba : b.merge a = .error (.duplicateCode "A") := by
    obtain ⟨r, rest, hrules, hr, -⟩ := List.map_eq_cons_iff.1 hacodes
    exact (hbaerror _).2 ⟨[], r, rest, hrules, by simp, by simp [hr, hbcodes], by rw [hr]⟩
  refine ⟨a, b, ha, hb, hmergeab, hmergeba, ?_, ?_⟩
  · rw [hmergeab] at hab
    exact hab
  · rw [hmergeba] at hba
    exact hba

end Catalog

end PatternLint
