import PatternLint.Proofs.Catalog
import PatternLint.Proofs.FileTree
import PatternLint.Settings

/-! When the rules of a run load.
The built-in rules always do.  A user's rule that takes one of their codes is refused where the
whole catalog is loaded; where a preset is applied first it is refused only if the preset keeps the
built-in rule, so the two ways disagree about some settings. -/

namespace PatternLint

namespace Catalog

def codes (c : Catalog) : List String := c.map CatalogEntry.code

def codesFrom (c : Catalog) (s : Severity) : List String :=
  (c.filter fun e => (Severity.parse? e.severity).any (s ≤ ·)).map CatalogEntry.code

theorem mem_codes_of_mem_codesFrom {c : Catalog} {s : Severity} {code : String}
    (h : code ∈ c.codesFrom s) : code ∈ c.codes :=
  (List.filter_sublist.map CatalogEntry.code).subset h

variable {c : Catalog} {g : Registry}

theorem codes_of_labels
    (h : g.rules.map (fun r => (r.code, some r.severity)) = c.map CatalogEntry.label) :
    g.codes = c.codes := by
  have hfirst := congrArg (List.map Prod.fst) h
  rw [List.map_map, List.map_map] at hfirst
  exact hfirst

theorem codes_restrict_of_labels
    (h : g.rules.map (fun r => (r.code, some r.severity)) = c.map CatalogEntry.label)
    (p : Preset) : (p.restrict g).codes = c.codesFrom p.minSeverity := by
  -- Both sides choose among the pairs of a code and a severity.
  have hchosen := congrArg
    (fun ls => (ls.filter fun l => l.2.any fun severity => p.minSeverity ≤ severity).map Prod.fst) h
  simp only [List.filter_map, List.map_map, Function.comp_def, Option.any_some,
    CatalogEntry.label] at hchosen
  exact hchosen

end Catalog

namespace Settings

variable {s : Settings} {w : Workspace} {builtin user : Registry}

theorem valid_of_userRegistry (h : s.userRegistry w = .ok user) : user.Valid := by
  obtain ⟨rules, -, h⟩ := exists_of_bind_eq_ok h
  exact (Registry.ofRules_eq_ok (eq_ok_of_mapError h)).2

theorem exists_builtinRegistry (s : Settings) :
    ∃ g, s.builtinRegistry = .ok g ∧ g.Valid ∧
      g.codes = Builtin.catalog.codes ∧
      ∀ p : Preset, (p.restrict g).codes = Builtin.catalog.codesFrom p.minSeverity := by
  obtain ⟨g, hg, hvalid, hlabels⟩ := Builtin.exists_registry s.patternOptions
  refine ⟨g, ?_, hvalid, Catalog.codes_of_labels hlabels, Catalog.codes_restrict_of_labels hlabels⟩
  rw [builtinRegistry, hg]
  rfl

theorem catalogRegistry_eq (hbuiltin : s.builtinRegistry = .ok builtin)
    (huser : s.userRegistry w = .ok user) :
    s.catalogRegistry w = (builtin.merge user).mapError .rules := by
  rw [catalogRegistry, hbuiltin, huser]
  rfl

theorem effectiveRegistry_eq (hbuiltin : s.builtinRegistry = .ok builtin)
    (huser : s.userRegistry w = .ok user) (p : Preset) :
    s.effectiveRegistry w p =
      (((p.restrict builtin).merge user).mapError .rules).map (·.configured s.config) := by
  rw [effectiveRegistry, hbuiltin, huser]
  simp only [bind, Except.bind]
  cases (p.restrict builtin).merge user <;> rfl

theorem exists_catalogRegistry_iff (huser : s.userRegistry w = .ok user) :
    (∃ g, s.catalogRegistry w = .ok g) ↔ ∀ code ∈ user.codes, code ∉ Builtin.catalog.codes := by
  obtain ⟨builtin, hbuiltin, hvalid, hcodes, -⟩ := s.exists_builtinRegistry
  rw [← hcodes, ← hvalid.exists_merge_iff (valid_of_userRegistry huser),
    catalogRegistry_eq hbuiltin huser]
  cases builtin.merge user <;> simp [Except.mapError]

theorem exists_effectiveRegistry_iff (huser : s.userRegistry w = .ok user) (p : Preset) :
    (∃ g, s.effectiveRegistry w p = .ok g) ↔
      ∀ code ∈ user.codes, code ∉ Builtin.catalog.codesFrom p.minSeverity := by
  obtain ⟨builtin, hbuiltin, hvalid, -, hcodes⟩ := s.exists_builtinRegistry
  have hrestricted : (p.restrict builtin).Valid := hvalid.filter _
  rw [← hcodes, ← hrestricted.exists_merge_iff (valid_of_userRegistry huser),
    effectiveRegistry_eq hbuiltin huser]
  cases (p.restrict builtin).merge user <;> simp [Except.mapError, Except.map]

theorem catalogRegistry_eq_error (huser : s.userRegistry w = .ok user) {code : String}
    (hfirst : user.codes.find? Builtin.catalog.codes.contains = some code) :
    s.catalogRegistry w = .error (.rules (.duplicateCode code)) := by
  obtain ⟨builtin, hbuiltin, hvalid, hcodes, -⟩ := s.exists_builtinRegistry
  rw [← hcodes] at hfirst
  rw [catalogRegistry_eq hbuiltin huser,
    hvalid.merge_eq_error (valid_of_userRegistry huser) hfirst]
  rfl

theorem effectiveRegistry_eq_error (huser : s.userRegistry w = .ok user) (p : Preset)
    {code : String}
    (hfirst : user.codes.find? (Builtin.catalog.codesFrom p.minSeverity).contains = some code) :
    s.effectiveRegistry w p = .error (.rules (.duplicateCode code)) := by
  obtain ⟨builtin, hbuiltin, hvalid, -, hcodes⟩ := s.exists_builtinRegistry
  have hrestricted : (p.restrict builtin).Valid := hvalid.filter _
  rw [← hcodes] at hfirst
  rw [effectiveRegistry_eq hbuiltin huser,
    hrestricted.merge_eq_error (valid_of_userRegistry huser) hfirst]
  rfl

theorem registries_of_userRegistry_error {e : SettingsError} (huser : s.userRegistry w = .error e)
    (p : Preset) : s.catalogRegistry w = .error e ∧ s.effectiveRegistry w p = .error e := by
  obtain ⟨builtin, hbuiltin, -⟩ := s.exists_builtinRegistry
  rw [catalogRegistry, effectiveRegistry, hbuiltin, huser]
  exact ⟨rfl, rfl⟩

/-- If the user's catalogs do not load together, their error is that of both ways.  If they do, all
rules load exactly if no code is taken, and the rules under a preset exactly if no code is taken by
a rule that the preset keeps; the first code that is taken is named.  So the two agree unless the
codes that are taken all belong to rules that the preset leaves out. -/
theorem registries_load_iff (s : Settings) (w : Workspace) (p : Preset) :
    (∀ e, s.userRegistry w = .error e →
      s.catalogRegistry w = .error e ∧ s.effectiveRegistry w p = .error e) ∧
    ∀ user, s.userRegistry w = .ok user →
      ((∃ g, s.catalogRegistry w = .ok g) ↔
        ∀ code ∈ user.codes, code ∉ Builtin.catalog.codes) ∧
      ((∃ g, s.effectiveRegistry w p = .ok g) ↔
        ∀ code ∈ user.codes, code ∉ Builtin.catalog.codesFrom p.minSeverity) ∧
      (∀ code, user.codes.find? Builtin.catalog.codes.contains = some code →
        s.catalogRegistry w = .error (.rules (.duplicateCode code))) ∧
      (∀ code, user.codes.find? (Builtin.catalog.codesFrom p.minSeverity).contains = some code →
        s.effectiveRegistry w p = .error (.rules (.duplicateCode code))) ∧
      (((∃ g, s.effectiveRegistry w p = .ok g) ↔ ∃ g, s.catalogRegistry w = .ok g) ↔
        ((∃ code ∈ user.codes, code ∈ Builtin.catalog.codes) →
          ∃ code ∈ user.codes, code ∈ Builtin.catalog.codesFrom p.minSeverity)) := by
  refine ⟨fun e herror => registries_of_userRegistry_error herror p, fun user huser => ?_⟩
  have hcatalog := exists_catalogRegistry_iff huser
  have heffective := exists_effectiveRegistry_iff huser p
  refine ⟨hcatalog, heffective, fun _ => catalogRegistry_eq_error huser,
    fun _ => effectiveRegistry_eq_error huser p, ?_⟩
  have hsub : (∃ code ∈ user.codes, code ∈ Builtin.catalog.codesFrom p.minSeverity) →
      ∃ code ∈ user.codes, code ∈ Builtin.catalog.codes := fun ⟨code, huser, hcode⟩ =>
    ⟨code, huser, Catalog.mem_codes_of_mem_codesFrom hcode⟩
  have hnone : ∀ codes : List String, (∀ code ∈ user.codes, code ∉ codes) ↔
      ¬ ∃ code ∈ user.codes, code ∈ codes := by simp
  rw [hcatalog, heffective, hnone, hnone, not_iff_not]
  exact ⟨fun h => h.2, fun h => ⟨hsub, h⟩⟩

theorem exists_userRegistry {file : Path} {text : String} {c : Catalog} {codes : List String}
    (hfiles : s.ruleFiles = [file]) (htext : w.readText file = .ok text)
    (hparse : Catalog.parse text = .ok c)
    (hcodes : (c.compile s.patternOptions).toOption.map (·.map Rule.code) = some codes)
    (hne : "" ∉ codes) (hd : codes.Nodup) :
    ∃ user, s.userRegistry w = .ok user ∧ user.codes = codes := by
  cases hrules : c.compile s.patternOptions with
  | error e => simp [hrules, Except.toOption] at hcodes
  | ok rules =>
    have hmap : rules.map Rule.code = codes := by simpa [hrules, Except.toOption] using hcodes
    obtain ⟨user, huser⟩ : ∃ user, Registry.ofRules rules = .ok user := by
      refine Registry.exists_ofRules (fun r hr h => hne ?_) (hmap ▸ hd)
      rw [← hmap, ← h]
      exact List.mem_map_of_mem hr
    refine ⟨user, ?_, by rw [Registry.codes, (Registry.ofRules_eq_ok huser).1, hmap]⟩
    simp [userRegistry, hfiles, loadRuleFiles, Catalog.loadFile, htext, Catalog.loadRules, hparse,
      hrules, huser, bind, Except.bind, pure, Except.pure, Except.mapError]

/-- A rule of the user's with the code of a built-in rule of low severity. -/
def takenCatalog : String :=
  "[[rules]]\ncode='A5-1-1'\nseverity='error'\ncategory='c'\npattern='x'\nmessage='m'"

def taken : Settings where
  config := { Config.standard with engine := ⟨defaultBacktrackLimit, [⟨"own.toml"⟩]⟩ }
  source := .project ⟨"autosar-lint.toml"⟩

def takenWorkspace : Workspace where
  files := .directory [("own.toml", .ofText takenCatalog)]
  currentDir := ⟨"/"⟩
  environment := []

theorem exists_userRegistry_taken :
    ∃ user, taken.userRegistry takenWorkspace = .ok user ∧ user.codes = ["A5-1-1"] := by
  have hfiles : taken.ruleFiles = [⟨"own.toml"⟩] := by decide +kernel
  have hsteps : (takenWorkspace.absolute ⟨"own.toml"⟩).components = [.root, .name "own.toml"] := by
    decide +kernel
  have hasks : FileTree.asksDirectory (takenWorkspace.absolute ⟨"own.toml"⟩) = false := by
    decide +kernel
  have hfound : takenWorkspace.find ⟨"own.toml"⟩ = .ok (.ofText takenCatalog) := by
    rw [Workspace.find, if_neg (by decide +kernel), FileTree.find, hsteps, hasks]
    rfl
  have htext : takenWorkspace.readText ⟨"own.toml"⟩ = .ok takenCatalog := by
    rw [Workspace.readText, hfound]
    exact FileTree.text_ofText takenCatalog
  have hparse : Catalog.parse takenCatalog =
      .ok [{ code := "A5-1-1", severity := "error", category := "c", pattern := "x",
             message := "m" }] := by
    decide +kernel
  exact exists_userRegistry hfiles htext hparse (by decide +kernel) (by decide) (by decide)

/-- Of all rules those of the user are refused, and with the rules of the highest severity alone
they are not, because the built-in rule whose code they take is not among these. -/
theorem registries_disagree_taken :
    (∃ user, taken.userRegistry takenWorkspace = .ok user) ∧
      (∃ g, taken.effectiveRegistry takenWorkspace .minimal = .ok g) ∧
      taken.catalogRegistry takenWorkspace = .error (.rules (.duplicateCode "A5-1-1")) := by
  obtain ⟨user, huser, hcodes⟩ := exists_userRegistry_taken
  refine ⟨⟨user, huser⟩, (exists_effectiveRegistry_iff huser .minimal).2 ?_,
    catalogRegistry_eq_error huser ?_⟩
  · rw [hcodes]
    decide +kernel
  · rw [hcodes]
    decide +kernel

/-- The same settings under the preset that keeps all rules: both ways refuse them. -/
theorem registries_load_iff_taken :
    ∃ user, taken.userRegistry takenWorkspace = .ok user ∧
      taken.catalogRegistry takenWorkspace = .error (.rules (.duplicateCode "A5-1-1")) ∧
      taken.effectiveRegistry takenWorkspace .strict =
        .error (.rules (.duplicateCode "A5-1-1")) := by
  obtain ⟨user, huser, hcodes⟩ := exists_userRegistry_taken
  obtain ⟨-, -, hcatalog, heffective, -⟩ :=
    (registries_load_iff taken takenWorkspace .strict).2 user huser
  refine ⟨user, huser, hcatalog "A5-1-1" ?_, heffective "A5-1-1" ?_⟩
  · rw [hcodes]
    decide +kernel
  · rw [hcodes]
    decide +kernel

end Settings

end PatternLint
