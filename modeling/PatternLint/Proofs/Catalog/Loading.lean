import Mathlib.Data.List.Forall2
import PatternLint.Proofs.Catalog

/-! What loading catalogs gives, and which fault is reported when there are several.
The rules are the entries, field by field and in order.  The first catalog with a fault decides: if
it cannot be decoded this is reported, else its first faulty entry, looked at for its code, its
severity and its pattern in this order.  Codes are compared only when no catalog has a fault, so
what is reported then is always a repeated code. -/

namespace PatternLint

namespace Severity

@[simp]
theorem ofName?_eq_some_iff {s : String} {v : Severity} : ofName? s = some v ↔ s = v.name := by
  constructor
  · intro h
    have hname := List.find?_some h
    exact (beq_iff_eq.1 hname).symm
  · rintro rfl
    cases v <;> decide

theorem parse?_eq_some_iff {s : String} {v : Severity} :
    parse? s = some v ↔ asciiLower (trimmed s) = v.name := ofName?_eq_some_iff

theorem parse?_eq_none_iff {s : String} :
    parse? s = none ↔ ∀ v : Severity, asciiLower (trimmed s) ≠ v.name := by
  rw [Option.eq_none_iff_forall_ne_some]
  exact forall_congr' fun v => not_congr parse?_eq_some_iff

end Severity

theorem Pattern.options_of_compile {source : String} {options : PatternOptions} {p : Pattern}
    (h : compile source options = .ok p) : p.source = source ∧ p.options = options := by
  obtain ⟨parsed, -, h⟩ := exists_of_bind_eq_ok h
  split at h
  all_goals
    obtain ⟨program, -, h⟩ := exists_of_bind_eq_ok h
    obtain rfl := Except.ok.inj h
    exact ⟨rfl, rfl⟩

namespace CatalogEntry

variable {options : PatternOptions} {index : Nat} {e : CatalogEntry} {r : Rule} {fault : RuleError}

/-- How the pattern of an entry is compiled: under the common limit, with its own idea of dots. -/
def patternOptions (options : PatternOptions) (e : CatalogEntry) : PatternOptions :=
  ⟨e.dotMatchesNewline, options.backtrackLimit⟩

structure Sound (options : PatternOptions) (e : CatalogEntry) : Prop where
  named : trimmed e.code ≠ ""
  graded : ∃ severity : Severity, asciiLower (trimmed e.severity) = severity.name
  compiles : ∃ pattern, Pattern.compile e.pattern (e.patternOptions options) = .ok pattern

structure Describes (options : PatternOptions) (e : CatalogEntry) (r : Rule) : Prop where
  code : r.code = e.code
  severity : asciiLower (trimmed e.severity) = r.severity.name
  category : r.category = e.category
  pattern : Pattern.compile e.pattern (e.patternOptions options) = .ok r.pattern
  patternSource : r.pattern.source = e.pattern
  limits : r.pattern.options = e.patternOptions options
  message : r.message = e.message
  description : r.description = e.description
  rationale : r.rationale = e.rationale
  remediation : r.remediation = e.remediation

/-- What is wrong with the entry at a place of its catalog; the first fault counts. -/
inductive HasFault (options : PatternOptions) (index : Nat) (e : CatalogEntry) : RuleError → Prop
  | code : trimmed e.code = "" → HasFault options index e (.emptyCode index)
  | severity : trimmed e.code ≠ "" →
      (∀ severity : Severity, asciiLower (trimmed e.severity) ≠ severity.name) →
      HasFault options index e (.unknownSeverity e.code e.severity)
  | pattern (severity : Severity) (cause : Pattern.PatternError) : trimmed e.code ≠ "" →
      asciiLower (trimmed e.severity) = severity.name →
      Pattern.compile e.pattern (e.patternOptions options) = .error cause →
      HasFault options index e (.invalidPattern e.code cause)

theorem compile_eq_ok_iff_describes :
    e.compile options index = .ok r ↔ e.Sound options ∧ e.Describes options r := by
  rw [compile_eq_ok_iff]
  constructor
  · rintro ⟨hnamed, severity, pattern, hseverity, hpattern, rfl⟩
    rw [Severity.parse?_eq_some_iff] at hseverity
    obtain ⟨hsource, hlimits⟩ := Pattern.options_of_compile hpattern
    exact ⟨⟨by simpa using hnamed, ⟨severity, hseverity⟩, ⟨pattern, hpattern⟩⟩,
      rfl, hseverity, rfl, hpattern, hsource, hlimits, rfl, rfl, rfl, rfl⟩
  · rintro ⟨hsound, hr⟩
    refine ⟨by simpa using hsound.named, r.severity, r.pattern,
      Severity.parse?_eq_some_iff.2 hr.severity, hr.pattern, ?_⟩
    cases r
    simp only [toRule, Rule.mk.injEq, true_and]
    exact ⟨hr.code.symm, hr.category.symm, hr.message.symm, hr.description.symm,
      hr.rationale.symm, hr.remediation.symm⟩

theorem exists_compile_iff (index : Nat) :
    (∃ r, e.compile options index = .ok r) ↔ e.Sound options := by
  constructor
  · rintro ⟨r, hr⟩
    exact (compile_eq_ok_iff_describes.1 hr).1
  · intro hsound
    obtain ⟨severity, hseverity⟩ := hsound.graded
    obtain ⟨pattern, hpattern⟩ := hsound.compiles
    exact ⟨e.toRule severity pattern, compile_eq_ok_iff.2 ⟨by simpa using hsound.named, severity,
      pattern, Severity.parse?_eq_some_iff.2 hseverity, hpattern, rfl⟩⟩

theorem compile_of_hasFault (h : e.HasFault options index fault) :
    e.compile options index = .error fault := by
  cases h with
  | code hcode => simp [compile, hcode, throw, throwThe, MonadExceptOf.throw, bind, Except.bind]
  | severity hcode hseverity =>
    simp [compile, hcode, Severity.parse?_eq_none_iff.2 hseverity, throw, throwThe,
      MonadExceptOf.throw]
  | pattern severity cause hcode hseverity hpattern =>
    have hoptions : { options with dotMatchesNewline := e.dotMatchesNewline } =
      e.patternOptions options := rfl
    simp [compile, hcode, Severity.parse?_eq_some_iff.2 hseverity, hoptions, hpattern, throw,
      throwThe, MonadExceptOf.throw]

theorem sound_or_hasFault (options : PatternOptions) (index : Nat) (e : CatalogEntry) :
    e.Sound options ∨ ∃ fault, e.HasFault options index fault := by
  by_cases hcode : trimmed e.code = ""
  · exact .inr ⟨_, .code hcode⟩
  by_cases hgraded : ∃ severity : Severity, asciiLower (trimmed e.severity) = severity.name
  · obtain ⟨severity, hseverity⟩ := hgraded
    cases hpattern : Pattern.compile e.pattern (e.patternOptions options) with
    | error cause => exact .inr ⟨_, .pattern severity cause hcode hseverity hpattern⟩
    | ok pattern => exact .inl ⟨hcode, ⟨severity, hseverity⟩, ⟨pattern, hpattern⟩⟩
  · exact .inr ⟨_, .severity hcode (not_exists.1 hgraded)⟩

theorem compile_eq_error_iff :
    e.compile options index = .error fault ↔ e.HasFault options index fault := by
  refine ⟨fun h => ?_, compile_of_hasFault⟩
  rcases sound_or_hasFault options index e with hsound | ⟨fault', hfault⟩
  · obtain ⟨r, hr⟩ := (exists_compile_iff index).2 hsound
    rw [hr] at h
    cases h
  · rw [compile_of_hasFault hfault] at h
    rwa [← Except.error.inj h]

end CatalogEntry

namespace Catalog

variable {options : PatternOptions} {c : Catalog} {texts : List String} {text : String}
  {rules : List Rule} {err : CatalogError}

theorem describes_of_compileFrom {i : Nat} (h : compileFrom options i c = .ok rules) :
    (∀ e ∈ c, e.Sound options) ∧ List.Forall₂ (CatalogEntry.Describes options) c rules := by
  induction c generalizing i rules with
  | nil =>
    obtain rfl := Except.ok.inj h
    exact ⟨by simp, .nil⟩
  | cons e c ih =>
    obtain ⟨r, hr, h⟩ := exists_of_bind_eq_ok h
    obtain ⟨rest, hrest, h⟩ := exists_of_bind_eq_ok h
    obtain rfl := Except.ok.inj h
    obtain ⟨hsound, hdescribes⟩ := CatalogEntry.compile_eq_ok_iff_describes.1 hr
    obtain ⟨hsounds, hdescribe⟩ := ih hrest
    exact ⟨List.forall_mem_cons.2 ⟨hsound, hsounds⟩, .cons hdescribes hdescribe⟩

theorem compileFrom_eq_error_iff {i : Nat} {fault : RuleError} :
    compileFrom options i c = .error fault ↔ ∃ before e after, c = before ++ e :: after ∧
      (∀ x ∈ before, x.Sound options) ∧ e.HasFault options (i + before.length) fault := by
  induction c generalizing i with
  | nil => simp [compileFrom]
  | cons e c ih =>
    rw [exists_first_cons _ (fun n x => CatalogEntry.HasFault options (i + n) x fault), compileFrom,
      both_eq_error_iff, CatalogEntry.compile_eq_error_iff, CatalogEntry.exists_compile_iff, ih]
    simp only [Nat.add_zero, Nat.add_right_comm i 1, Nat.add_assoc]

def IsSound (options : PatternOptions) (text : String) : Prop :=
  ∃ c, parse text = .ok c ∧ ∀ e ∈ c, e.Sound options

/-- What is wrong with a catalog: that its text does not decode, or else its first faulty entry. -/
inductive HasFault (options : PatternOptions) (text : String) : CatalogError → Prop
  | decoding : (∀ c, parse text ≠ .ok c) → HasFault options text (.toml text)
  | entry {before : Catalog} {e : CatalogEntry} {after : Catalog} {fault : RuleError} :
      parse text = .ok (before ++ e :: after) → (∀ x ∈ before, x.Sound options) →
      e.HasFault options before.length fault → HasFault options text (.definition fault)

theorem parse_eq_error_iff :
    parse text = .error err ↔ (∀ c, parse text ≠ .ok c) ∧ err = .toml text := by
  rw [parse]
  cases (Toml.parse? text).bind read? <;> simp [eq_comm]

theorem loadRules_eq_error_iff :
    loadRules text options = .error err ↔ HasFault options text err := by
  rw [loadRules, bind_eq_error_iff, parse_eq_error_iff]
  simp only [mapError_eq_error_iff, compile, compileFrom_eq_error_iff, Nat.zero_add]
  constructor
  · rintro (⟨h, rfl⟩ | ⟨c, hc, fault, ⟨before, e, after, rfl, hbefore, hfault⟩, rfl⟩)
    · exact .decoding h
    · exact .entry hc hbefore hfault
  · rintro (h | ⟨hc, hbefore, hfault⟩)
    · exact .inl ⟨h, rfl⟩
    · exact .inr ⟨_, hc, _, ⟨_, _, _, rfl, hbefore, hfault⟩, rfl⟩

theorem describes_of_loadRules (h : loadRules text options = .ok rules) :
    ∃ c, parse text = .ok c ∧ (∀ e ∈ c, e.Sound options) ∧
      List.Forall₂ (CatalogEntry.Describes options) c rules := by
  obtain ⟨c, hc, h⟩ := exists_of_bind_eq_ok h
  exact ⟨c, hc, describes_of_compileFrom (eq_ok_of_mapError h)⟩

theorem exists_loadRules_iff :
    (∃ rules, loadRules text options = .ok rules) ↔ IsSound options text := by
  constructor
  · rintro ⟨rules, h⟩
    obtain ⟨c, hc, hsound, -⟩ := describes_of_loadRules h
    exact ⟨c, hc, hsound⟩
  · rintro ⟨c, hc, hsound⟩
    cases h : loadRules text options with
    | ok rules => exact ⟨rules, rfl⟩
    | error err =>
      rcases loadRules_eq_error_iff.1 h with hdecoding | ⟨hc', -, hfault⟩
      · exact absurd hc (hdecoding c)
      · obtain rfl := Except.ok.inj (hc.symm.trans hc')
        obtain ⟨r, hr⟩ := (CatalogEntry.exists_compile_iff _).2
          (hsound _ (List.mem_append_right _ List.mem_cons_self))
        rw [CatalogEntry.compile_of_hasFault hfault] at hr
        cases hr

theorem loadAll_eq_error_iff :
    loadAll options texts = .error err ↔ ∃ good text rest, texts = good ++ text :: rest ∧
      (∀ t ∈ good, IsSound options t) ∧ HasFault options text err := by
  induction texts with
  | nil => simp [loadAll]
  | cons text texts ih =>
    rw [exists_first_cons _ (fun _ t => HasFault options t err), loadAll, both_eq_error_iff,
      loadRules_eq_error_iff, exists_loadRules_iff, ih]

/-- Everything that the catalogs write down, in their order. -/
def entries (texts : List String) : Catalog :=
  texts.flatMap fun text => match parse text with
    | .ok c => c
    | .error _ => []

theorem entries_cons {c : Catalog} (h : parse text = .ok c) :
    entries (text :: texts) = c ++ entries texts := by
  rw [entries, List.flatMap_cons, h]
  rfl

theorem describes_of_loadAll (h : loadAll options texts = .ok rules) :
    (∀ text ∈ texts, IsSound options text) ∧
      (∀ e ∈ entries texts, e.Sound options) ∧
      List.Forall₂ (CatalogEntry.Describes options) (entries texts) rules := by
  induction texts generalizing rules with
  | nil =>
    obtain rfl := Except.ok.inj h
    exact ⟨by simp, by simp [entries], .nil⟩
  | cons text texts ih =>
    obtain ⟨first, hfirst, h⟩ := exists_of_bind_eq_ok h
    obtain ⟨rest, hrest, h⟩ := exists_of_bind_eq_ok h
    obtain rfl := Except.ok.inj h
    obtain ⟨c, hc, hsound, hdescribes⟩ := describes_of_loadRules hfirst
    obtain ⟨htexts, hsounds, hdescribe⟩ := ih hrest
    rw [entries_cons hc]
    exact ⟨List.forall_mem_cons.2 ⟨⟨c, hc, hsound⟩, htexts⟩,
      List.forall_mem_append.2 ⟨hsound, hsounds⟩, List.rel_append hdescribes hdescribe⟩

theorem exists_loadAll_iff :
    (∃ rules, loadAll options texts = .ok rules) ↔ ∀ text ∈ texts, IsSound options text := by
  constructor
  · rintro ⟨rules, h⟩
    exact (describes_of_loadAll h).1
  · intro hsound
    cases h : loadAll options texts with
    | ok rules => exact ⟨rules, rfl⟩
    | error err =>
      obtain ⟨good, text, rest, rfl, -, hfault⟩ := loadAll_eq_error_iff.1 h
      obtain ⟨rules, hrules⟩ := exists_loadRules_iff.2 (hsound text (by simp))
      rw [loadRules_eq_error_iff.2 hfault] at hrules
      cases hrules

theorem ne_empty_of_trimmed {s : String} (h : trimmed s ≠ "") : s ≠ "" := by
  rintro rfl
  exact h (by decide)

theorem codes_of_loadAll (h : loadAll options texts = .ok rules) :
    rules.map Rule.code = (entries texts).map CatalogEntry.code ∧ ∀ r ∈ rules, r.code ≠ "" := by
  obtain ⟨-, hsound, hdescribes⟩ := describes_of_loadAll h
  have hcodes : rules.map Rule.code = (entries texts).map CatalogEntry.code := by
    rw [← List.forall₂_eq_eq_eq, List.forall₂_map_left_iff, List.forall₂_map_right_iff]
    exact hdescribes.flip.imp fun r e hr => hr.code
  refine ⟨hcodes, fun r hr => ?_⟩
  have hmem : r.code ∈ (entries texts).map CatalogEntry.code := hcodes ▸ List.mem_map_of_mem hr
  obtain ⟨e, he, hcode⟩ := List.mem_map.1 hmem
  exact hcode ▸ ne_empty_of_trimmed (hsound e he).named

theorem exists_loadRegistry_iff :
    (∃ g, loadRegistry texts options = .ok g) ↔
      (∀ text ∈ texts, IsSound options text) ∧
        ((entries texts).map CatalogEntry.code).Nodup := by
  constructor
  · rintro ⟨g, h⟩
    obtain ⟨rules, hrules, h⟩ := exists_of_bind_eq_ok h
    obtain ⟨rfl, hvalid⟩ := Registry.ofRules_eq_ok (eq_ok_of_mapError h)
    exact ⟨(describes_of_loadAll hrules).1, (codes_of_loadAll hrules).1 ▸ hvalid.distinct⟩
  · rintro ⟨hsound, hd⟩
    obtain ⟨rules, hrules⟩ := exists_loadAll_iff.2 hsound
    obtain ⟨hcodes, hne⟩ := codes_of_loadAll hrules
    obtain ⟨g, hg⟩ := Registry.exists_ofRules hne (hcodes ▸ hd)
    exact ⟨g, bind_eq_ok_iff.2 ⟨rules, hrules, mapError_eq_ok_iff.2 hg⟩⟩

theorem describes_of_loadRegistry {g : Registry} (h : loadRegistry texts options = .ok g) :
    List.Forall₂ (CatalogEntry.Describes options) (entries texts) g.rules := by
  obtain ⟨rules, hrules, h⟩ := exists_of_bind_eq_ok h
  rw [(Registry.ofRules_eq_ok (eq_ok_of_mapError h)).1]
  exact (describes_of_loadAll hrules).2.2

theorem loadRegistry_eq_error_iff :
    loadRegistry texts options = .error err ↔
      (∃ good text rest, texts = good ++ text :: rest ∧ (∀ t ∈ good, IsSound options t) ∧
        HasFault options text err) ∨
      (∀ text ∈ texts, IsSound options text) ∧ ∃ before code after,
        (entries texts).map CatalogEntry.code = before ++ code :: after ∧ before.Nodup ∧
          code ∈ before ∧ err = .definition (.duplicateCode code) := by
  rw [loadRegistry, bind_eq_error_iff, loadAll_eq_error_iff, ← exists_loadAll_iff,
    ← exists_and_right]
  refine or_congr_right (exists_congr fun rules => and_congr_right fun hrules => ?_)
  obtain ⟨hcodes, hne⟩ := codes_of_loadAll hrules
  simp only [mapError_eq_error_iff, Registry.ofRules_eq_error_iff hne, hcodes]
  constructor
  · rintro ⟨_, ⟨before, code, after, heq, hbefore, hcode, rfl⟩, rfl⟩
    exact ⟨before, code, after, heq, hbefore, hcode, rfl⟩
  · rintro ⟨before, code, after, heq, hbefore, hcode, rfl⟩
    exact ⟨_, ⟨before, code, after, heq, hbefore, hcode, rfl⟩, rfl⟩

/-- Loading gives all rules or one error.  It succeeds exactly if no catalog has a fault and no two
entries share a code, and the rules are then the entries in order.  A fault of the first catalog
that has one goes before all others; only when there is none can a code be refused, and then as
repeated, the first repetition being named. -/
theorem loadRegistry_outcome (texts : List String) (options : PatternOptions) :
    ((∃ g, loadRegistry texts options = .ok g) ↔
        (∀ text ∈ texts, IsSound options text) ∧
          ((entries texts).map CatalogEntry.code).Nodup) ∧
      (∀ g, loadRegistry texts options = .ok g →
        List.Forall₂ (CatalogEntry.Describes options) (entries texts) g.rules) ∧
      (∀ err, loadRegistry texts options = .error err ↔
        (∃ good text rest, texts = good ++ text :: rest ∧ (∀ t ∈ good, IsSound options t) ∧
          HasFault options text err) ∨
        (∀ text ∈ texts, IsSound options text) ∧ ∃ before code after,
          (entries texts).map CatalogEntry.code = before ++ code :: after ∧ before.Nodup ∧
            code ∈ before ∧ err = .definition (.duplicateCode code)) ∧
      ∀ rules index, loadAll options texts = .ok rules →
        Registry.ofRules rules ≠ .error (.emptyCode index) := by
  refine ⟨exists_loadRegistry_iff, fun g => describes_of_loadRegistry,
    fun err => loadRegistry_eq_error_iff, fun rules index hrules herror => ?_⟩
  obtain ⟨_, _, _, -, -, -, hduplicate⟩ :=
    (Registry.ofRules_eq_error_iff (codes_of_loadAll hrules).2).1 herror
  cases hduplicate

def shortEntry (code severity : String) : CatalogEntry where
  code := code
  severity := severity
  category := "c"
  pattern := "x"
  message := "m"

def soundText : String :=
  "[[rules]]\ncode='A'\nseverity=' Error '\ncategory='c'\npattern='x'\nmessage='m'"

/-- A code that `soundText` has already, and an entry with two faults of its own. -/
def faultyText : String :=
  "[[rules]]\ncode='A'\nseverity='info'\ncategory='c'\npattern='x'\nmessage='m'\n" ++
    "[[rules]]\ncode=' '\nseverity='fatal'\ncategory='c'\npattern='x'\nmessage='m'"

/-- Of a repeated code, a blank one, an unknown severity and a text that does not decode, the blank
code is reported, with its place in its own catalog; of two texts that do not decode, the first. -/
theorem loadRegistry_outcome_several_faults :
    loadRegistry [soundText, faultyText, "rules=3"] .standard =
        .error (.definition (.emptyCode 1)) ∧
      loadRegistry [soundText, "rules=3", "rules=4", faultyText] .standard =
        .error (.toml "rules=3") := by
  have hsoundText : parse soundText = .ok [shortEntry "A" " Error "] := by decide +kernel
  have hfaultyText :
      parse faultyText = .ok ([shortEntry "A" "info"] ++ [shortEntry " " "fatal"]) := by
    decide +kernel
  have herror : (shortEntry "A" " Error ").Sound .standard :=
    (CatalogEntry.exists_compile_iff 0).1
      (CatalogEntry.exists_compile_of_isComplete rfl (by decide +kernel) _ 0)
  have hinfo : (shortEntry "A" "info").Sound .standard :=
    (CatalogEntry.exists_compile_iff 0).1
      (CatalogEntry.exists_compile_of_isComplete rfl (by decide +kernel) _ 0)
  have hblank : trimmed " " = "" := by decide +kernel
  have hsound : ∀ text ∈ [soundText], IsSound .standard text := by
    simpa using ⟨_, hsoundText, by simpa using herror⟩
  have hundecodable : parse "rules=3" = .error (.toml "rules=3") := by decide +kernel
  constructor
  · obtain ⟨-, -, herrors, -⟩ :=
      loadRegistry_outcome [soundText, faultyText, "rules=3"] .standard
    refine (herrors _).2 (.inl ⟨[soundText], faultyText, ["rules=3"], rfl, hsound, ?_⟩)
    exact .entry hfaultyText (by simpa using hinfo) (.code hblank)
  · obtain ⟨-, -, herrors, -⟩ :=
      loadRegistry_outcome [soundText, "rules=3", "rules=4", faultyText] .standard
    refine (herrors _).2 (.inl ⟨[soundText], "rules=3", ["rules=4", faultyText], rfl, hsound, ?_⟩)
    exact .decoding (parse_eq_error_iff.1 hundecodable).1

end Catalog

end PatternLint
