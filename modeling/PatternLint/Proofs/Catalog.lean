import Mathlib.Data.List.Nodup
import PatternLint.Catalog.Preset
import PatternLint.Proofs.Registry

/-! Catalogs that compile, the built-in one among them.
Whether an entry compiles depends on its code, its severity and the characters of its pattern, and
not on the limit that the pattern will run under.  So the built-in registry exists under every
limit, with the codes and severities that the catalog lists. -/

namespace PatternLint

namespace Pattern

def isReadable (dotMatchesNewline : Bool) (cs : List Char) : Bool :=
  match parse ((openingFlags ⟨dotMatchesNewline, 0⟩).toList ++ cs) with
  | .error _ => false
  | .ok parsed =>
    if parsed.node.isHard then (Machine.compile parsed.groups parsed.node).isOk
    else (Linear.compile (parsed.node.write 0)).isOk

theorem exists_compile {options : PatternOptions} {cs : List Char}
    (h : isReadable options.dotMatchesNewline cs = true) :
    ∃ p, compile (String.ofList cs) options = .ok p := by
  have hflags : openingFlags ⟨options.dotMatchesNewline, 0⟩ = openingFlags options := rfl
  rw [isReadable, hflags] at h
  rw [compile, String.toList_ofList]
  split at h
  · cases h
  · rename_i parsed hparsed
    rw [hparsed]
    simp only [bind, Except.bind]
    split at h
    · rename_i hhard
      cases hprogram : Machine.compile parsed.groups parsed.node with
      | error e => simp [hprogram, Except.isOk, Except.toBool] at h
      | ok program => exact ⟨_, by rw [if_pos hhard]; rfl⟩
    · rename_i hhard
      cases hprogram : Linear.compile (parsed.node.write 0) with
      | error e => simp [hprogram, Except.isOk, Except.toBool] at h
      | ok program => exact ⟨_, by rw [if_neg hhard]; rfl⟩

end Pattern

namespace CatalogEntry

variable {options : PatternOptions} {index : Nat} {e : CatalogEntry} {r : Rule}

/-- The rule of an entry, given its severity and its pattern. -/
def toRule (e : CatalogEntry) (severity : Severity) (pattern : Pattern) : Rule where
  code := e.code
  severity := severity
  category := e.category
  pattern := pattern
  message := e.message
  description := e.description
  rationale := e.rationale
  remediation := e.remediation

theorem compile_eq_ok_iff :
    e.compile options index = .ok r ↔
      (trimmed e.code).isEmpty = false ∧ ∃ severity pattern,
        Severity.parse? e.severity = some severity ∧
        Pattern.compile e.pattern { options with dotMatchesNewline := e.dotMatchesNewline } =
          .ok pattern ∧ e.toRule severity pattern = r := by
  cases hnamed : (trimmed e.code).isEmpty <;> cases hseverity : Severity.parse? e.severity <;>
    cases hpattern : Pattern.compile e.pattern
      { options with dotMatchesNewline := e.dotMatchesNewline } <;>
    simp [compile, hnamed, hseverity, hpattern, toRule, throw, throwThe, MonadExceptOf.throw, bind,
      Except.bind, pure, Except.pure]

/-- Whether the entry has a code and a severity, and a pattern if `cs` are its characters. -/
def isComplete (e : CatalogEntry) (cs : List Char) : Bool :=
  !(trimmed e.code).isEmpty && (Severity.parse? e.severity).isSome &&
    Pattern.isReadable e.dotMatchesNewline cs

theorem exists_compile_of_isComplete {cs : List Char} (hcs : e.pattern = String.ofList cs)
    (h : e.isComplete cs = true) (options : PatternOptions) (index : Nat) :
    ∃ r, e.compile options index = .ok r := by
  simp only [isComplete, Bool.and_eq_true, Bool.not_eq_true'] at h
  obtain ⟨⟨hnamed, hgraded⟩, hreadable⟩ := h
  obtain ⟨severity, hseverity⟩ := Option.isSome_iff_exists.1 hgraded
  obtain ⟨pattern, hpattern⟩ : ∃ pattern, Pattern.compile e.pattern
      { options with dotMatchesNewline := e.dotMatchesNewline } = .ok pattern := by
    rw [hcs]
    exact Pattern.exists_compile hreadable
  exact ⟨_, compile_eq_ok_iff.2 ⟨hnamed, severity, pattern, hseverity, hpattern, rfl⟩⟩

def label (e : CatalogEntry) : String × Option Severity := (e.code, Severity.parse? e.severity)

theorem label_of_compile (h : e.compile options index = .ok r) :
    (r.code, some r.severity) = e.label := by
  obtain ⟨-, severity, pattern, hseverity, -, rfl⟩ := compile_eq_ok_iff.1 h
  rw [label, hseverity]
  rfl

end CatalogEntry

namespace Catalog

variable {options : PatternOptions} {c : Catalog}

theorem exists_compileFrom (h : ∀ e ∈ c, ∃ cs, e.pattern = String.ofList cs ∧ e.isComplete cs)
    (i : Nat) : ∃ rules, compileFrom options i c = .ok rules := by
  induction c generalizing i with
  | nil => exact ⟨[], rfl⟩
  | cons e c ih =>
    obtain ⟨⟨cs, hcs, he⟩, hc⟩ := List.forall_mem_cons.1 h
    obtain ⟨r, hr⟩ := CatalogEntry.exists_compile_of_isComplete hcs he options i
    obtain ⟨rules, hrules⟩ := ih hc (i + 1)
    exact ⟨r :: rules, by rw [compileFrom, hr]; simp [hrules, bind, Except.bind, pure, Except.pure]⟩

theorem labels_of_compileFrom {i : Nat} {rules : List Rule}
    (h : compileFrom options i c = .ok rules) :
    rules.map (fun r => (r.code, some r.severity)) = c.map CatalogEntry.label := by
  induction c generalizing i rules with
  | nil =>
    rw [← Except.ok.inj h]
    rfl
  | cons e c ih =>
    rw [compileFrom] at h
    obtain ⟨r, hr, h⟩ := exists_of_bind_eq_ok h
    obtain ⟨rest, hrest, h⟩ := exists_of_bind_eq_ok h
    rw [← Except.ok.inj h, List.map_cons, List.map_cons, CatalogEntry.label_of_compile hr,
      ih hrest]

end Catalog

namespace Builtin

theorem isComplete_of_mem_catalog :
    ∀ e ∈ catalog, ∃ cs, e.pattern = String.ofList cs ∧ e.isComplete cs := by
  repeat' first
    | exact List.forall_mem_nil _
    | refine List.forall_mem_append.2 ⟨?_, ?_⟩
    | refine List.forall_mem_cons.2 ⟨?_, ?_⟩
  all_goals exact ⟨_, rfl, by decide +kernel⟩

theorem nodup_codes : (catalog.map CatalogEntry.code).Nodup := by decide +kernel

theorem exists_registry (options : PatternOptions) :
    ∃ g, registry options = .ok g ∧ g.Valid ∧
      g.rules.map (fun r => (r.code, some r.severity)) = catalog.map CatalogEntry.label := by
  obtain ⟨rules, hrules⟩ : ∃ rules, catalog.compile options = .ok rules :=
    Catalog.exists_compileFrom isComplete_of_mem_catalog 0
  have hlabels := Catalog.labels_of_compileFrom hrules
  have hcodes : rules.map Rule.code = catalog.map CatalogEntry.code := by
    have hfirst := congrArg (List.map Prod.fst) hlabels
    rw [List.map_map, List.map_map] at hfirst
    exact hfirst
  obtain ⟨g, hg⟩ : ∃ g, Registry.ofRules rules = .ok g := by
    refine Registry.exists_ofRules (fun r hr hempty => ?_) (hcodes ▸ nodup_codes)
    have hmem : r.code ∈ catalog.map CatalogEntry.code := hcodes ▸ List.mem_map_of_mem hr
    obtain ⟨e, he, hcode⟩ := List.mem_map.1 hmem
    obtain ⟨cs, -, hcomplete⟩ := isComplete_of_mem_catalog e he
    rw [CatalogEntry.isComplete, hcode, hempty] at hcomplete
    simp [trimmed, Source.trim] at hcomplete
  obtain ⟨hsame, hvalid⟩ := Registry.ofRules_eq_ok hg
  refine ⟨g, ?_, hvalid, by rw [hsame, hlabels]⟩
  rw [registry, hrules]
  exact hg

end Builtin

end PatternLint
