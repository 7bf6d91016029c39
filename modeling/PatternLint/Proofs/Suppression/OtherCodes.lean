import PatternLint.Catalog
import PatternLint.Proofs.Registry
import PatternLint.Proofs.Suppression.Grammar

/-! What the directives for one code do to another.
The text of a directive silences another code exactly when its own goes on after that code with a
character that ends codes, or has a directive for that code in it.  Catalogs accept such codes, so
two rules of one registry can get in each other's way. -/

namespace PatternLint

@[simp]
theorem isLineSuppressed_current (line : Source) (code : String) :
    isLineSuppressed (some line) none code = Directive.anyIn code .sameLine line :=
  Bool.or_false _

@[simp]
theorem isLineSuppressed_previous (line : Source) (code : String) :
    isLineSuppressed none (some line) code = Directive.anyIn code .nextLine line := rfl

namespace Directive

theorem anyIn_render_of_goesOn {code named : String} (h : GoesOn code named)
    (scope : DirectiveScope) :
    anyIn code scope (render ⟨.lineComment, scope, named⟩) = true := by
  obtain ⟨c, rest, hnamed, hc⟩ := h
  refine anyIn_eq_true_iff.2 ⟨.lineComment, List.any_eq_true.2 ⟨c :: rest, ?_, by simp [hc]⟩⟩
  -- The token of the shorter code is the first thing in the text.
  have htext : render ⟨.lineComment, scope, named⟩ =
      render ⟨.lineComment, scope, code⟩ ++ c :: rest := by
    simp [render, closing, hnamed]
  obtain ⟨b, token, htoken⟩ := List.exists_cons_of_ne_nil
    (render_ne_nil ⟨.lineComment, scope, code⟩)
  rw [htext, htoken]
  simp [tailsAfter]

theorem eq_nil_or_exists_of_render_eq {d d' : Directive} {pre post : Source}
    (h : d.render = pre ++ (d'.render ++ post)) :
    pre = [] ∨ ∃ inner, d.code.toList ++ (closing d.form).toList =
      inner ++ (d'.render ++ post) := by
  obtain ⟨c, rest, hopening, hc, -⟩ := exists_opening d'.form d'.scope
  obtain ⟨b, own, hown, -, hchain, hlast⟩ := exists_opening d.form d.scope
  have hstart : ∃ token, d'.render = '/' :: c :: token := by
    rw [render, hopening]
    exact ⟨_, rfl⟩
  obtain ⟨token, htoken⟩ := hstart
  rw [render, List.append_assoc] at h
  rcases List.append_eq_append_iff.1 h with ⟨inner, -, hinner⟩ | ⟨mid, hmid, hrest⟩
  · exact .inr ⟨inner, hinner⟩
  · cases pre with
    | nil => exact .inl rfl
    | cons a pre =>
      -- What is left of the opening would have to begin with a comment of its own.
      rw [hown, List.cons_append, List.cons.injEq] at hmid
      rw [htoken] at hrest
      refine .inr ?_
      cases mid with
      | nil => exact ⟨[], by rw [htoken]; simpa using hrest.symm⟩
      | cons x mid =>
        obtain rfl : '/' = x := by simpa using congrArg List.head? hrest
        cases mid with
        | nil => exact absurd (by rw [hmid.2]; simp) hlast
        | cons y mid =>
          rw [hmid.2] at hchain
          simp only [List.cons_append, List.cons.injEq] at hrest
          obtain ⟨-, rfl, -⟩ := hrest
          exact absurd ⟨rfl, hc⟩ (List.isChain_cons_cons.1 (List.isChain_append.1 hchain).2.1).1

/-- Some directive for a code silences another one, on its own line or on the next. -/
def Silences (named other : String) : Prop :=
  ∃ d : Directive, d.code = named ∧
    (isLineSuppressed (some d.render) none other = true ∨
      isLineSuppressed none (some d.render) other = true)

theorem silences_iff {named other : String} :
    Silences named other ↔ ∃ d : Directive, d.code = named ∧
      ∃ scope, anyIn other scope d.render = true := by
  simp only [Silences, isLineSuppressed_current, isLineSuppressed_previous]
  refine exists_congr fun d => and_congr_right fun _ => ⟨?_, ?_⟩
  · rintro (h | h)
    · exact ⟨.sameLine, h⟩
    · exact ⟨.nextLine, h⟩
  · rintro ⟨_ | _, h⟩
    · exact .inl h
    · exact .inr h

theorem silences_of_goesOn {named other : String} (h : GoesOn other named) :
    Silences named other :=
  silences_iff.2 ⟨⟨.lineComment, .sameLine, named⟩, rfl, .sameLine,
    anyIn_render_of_goesOn h .sameLine⟩

theorem goesOn_of_render_eq {d d' : Directive} {post : Source} (hends : EndsBefore d'.form post)
    (hne : d'.code ≠ d.code) (h : d.render = d'.render ++ post) : GoesOn d'.code d.code := by
  obtain ⟨form, scope, named⟩ := d
  obtain ⟨form', scope', other⟩ := d'
  simp only [render, List.append_assoc] at h
  obtain ⟨rfl, rfl, hcode⟩ := opening_append_inj h
  exact (eq_or_goesOn hends hcode).resolve_left hne

/-- When a directive for one code silences another.  If the first code opens no comment, this
happens exactly when it goes on after the other with a character that ends codes.  Whatever it
holds, a code of code characters is silenced so, or because a directive for it stands in the first
code and what closes it. -/
theorem silences_other_iff {named other : String} (hne : other ≠ named) :
    (OpensNoComment named.toList → (Silences named other ↔ GoesOn other named)) ∧
    (other ≠ "" → IsCode other → (Silences named other ↔ GoesOn other named ∨
      ∃ form scope, anyIn other scope (named.toList ++ (closing form).toList) = true)) := by
  refine ⟨fun hnamed => ⟨fun h => ?_, silences_of_goesOn⟩,
    fun hother hcode => ⟨fun h => ?_, ?_⟩⟩
  · obtain ⟨d, rfl, scope, hany⟩ := silences_iff.1 h
    obtain ⟨-, post, hends, hcode⟩ :=
      exists_of_anyIn_append_render hnamed (List.not_mem_nil (a := '/')) hany
    exact (eq_or_goesOn hends hcode).resolve_left hne
  · obtain ⟨d, rfl, scope, hany⟩ := silences_iff.1 h
    obtain ⟨form, hform⟩ := anyIn_eq_true_iff.1 hany
    have hproper : Proper ⟨form, scope, other⟩ := ⟨hother, hcode⟩
    obtain ⟨i, pre, post, hline, -, hends⟩ := (appearsIn_iff_standsAt hproper _).1 hform
    rcases eq_nil_or_exists_of_render_eq hline with rfl | ⟨inner, hinner⟩
    · exact .inl (goesOn_of_render_eq hends hne hline)
    · refine .inr ⟨d.form, scope, anyIn_eq_true_iff.2 ⟨form, ?_⟩⟩
      exact (appearsIn_iff_standsAt hproper _).2 ⟨_, inner, post, hinner, rfl, hends⟩
  · rintro (h | ⟨form, scope, hany⟩)
    · exact silences_of_goesOn h
    · obtain ⟨form', hform⟩ := anyIn_eq_true_iff.1 hany
      have hproper : Proper ⟨form', scope, other⟩ := ⟨hother, hcode⟩
      obtain ⟨i, pre, post, hline, -, hends⟩ := (appearsIn_iff_standsAt hproper _).1 hform
      refine silences_iff.2 ⟨⟨form, .sameLine, named⟩, rfl, scope,
        anyIn_eq_true_iff.2 ⟨form', (appearsIn_iff_standsAt hproper _).2
          ⟨_, (opening form .sameLine).toList ++ pre, post, ?_, rfl, hends⟩⟩⟩
      rw [render, List.append_assoc, hline, List.append_assoc]

/-- No directive for a code with a slash in it reaches the code after the slash; one for a code with
another directive in it does. -/
theorem silences_other_iff_slash :
    OpensNoComment "misc/A5-1-1".toList ∧ "A5-1-1" ≠ "misc/A5-1-1" ∧
      ¬ Silences "misc/A5-1-1" "A5-1-1" ∧ ¬ OpensNoComment "misc// NOLINT(A5-1-1".toList ∧
      "A5-1-1" ≠ "misc// NOLINT(A5-1-1" ∧ Silences "misc// NOLINT(A5-1-1" "A5-1-1" := by
  have hnamed : OpensNoComment "misc/A5-1-1".toList := by decide
  have hne : "A5-1-1" ≠ "misc/A5-1-1" := by decide
  have hinner : "A5-1-1" ≠ "misc// NOLINT(A5-1-1" := by decide
  refine ⟨hnamed, hne, ?_, by decide, hinner, ?_⟩
  · rw [(silences_other_iff hne).1 hnamed]
    rintro ⟨c, rest, h, -⟩
    simp at h
  · refine ((silences_other_iff hinner).2 (by decide) (by decide)).2 (.inr ⟨.nolint, .sameLine, ?_⟩)
    decide +kernel

end Directive

theorem Catalog.exists_loadRegistry {text : String} {c : Catalog} {options : PatternOptions}
    {codes : List String} (hparse : parse text = .ok c)
    (hcodes : (c.compile options).toOption.map (·.map Rule.code) = some codes)
    (hne : "" ∉ codes) (hd : codes.Nodup) :
    ∃ g, loadRegistry [text] options = .ok g ∧ g.codes = codes := by
  cases hrules : c.compile options with
  | error e => simp [hrules, Except.toOption] at hcodes
  | ok rules =>
    have hmap : rules.map Rule.code = codes := by
      simpa [hrules, Except.toOption] using hcodes
    obtain ⟨index, hindex⟩ : ∃ index, Registry.indexFrom 0 ∅ rules = .ok index := by
      refine Registry.exists_indexFrom (fun r hr h => hne ?_) (hmap ▸ hd) 0 (by simp)
      rw [← hmap, ← h]
      exact List.mem_map_of_mem hr
    refine ⟨⟨rules, index⟩, ?_, hmap⟩
    simp [loadRegistry, loadAll, loadRules, hparse, hrules, Registry.ofRules, hindex, bind,
      Except.bind, pure, Except.pure, Except.mapError, Except.map]

/-- Two rules, the code of the second being that of the first with a dot and a number. -/
def dottedCatalog : String :=
  "[[rules]]\ncode='A5-1'\nseverity='info'\ncategory='c'\npattern='x'\nmessage='m'\n" ++
    "[[rules]]\ncode='A5-1.1'\nseverity='info'\ncategory='c'\npattern='x'\nmessage='m'"

def dottedEntry (code : String) : CatalogEntry where
  code := code
  severity := "info"
  category := "c"
  pattern := "x"
  message := "m"

/-- Both rules are accepted, and the directives that are to silence the second silence the first
as well, on their own line and on the next. -/
theorem silences_other_dotted :
    ∃ g, Catalog.loadRegistry [dottedCatalog] .standard = .ok g ∧
      "A5-1" ∈ g.codes ∧ "A5-1.1" ∈ g.codes ∧ "A5-1" ≠ "A5-1.1" ∧
      isLineSuppressed
        (some (Directive.render ⟨.lineComment, .sameLine, "A5-1.1"⟩)) none "A5-1" = true ∧
      isLineSuppressed none
        (some (Directive.render ⟨.suppress, .nextLine, "A5-1.1"⟩)) "A5-1" = true := by
  have hparse : Catalog.parse dottedCatalog =
      .ok [dottedEntry "A5-1", dottedEntry "A5-1.1"] := by
    decide +kernel
  obtain ⟨g, hg, hcodes⟩ : ∃ g, Catalog.loadRegistry [dottedCatalog] .standard = .ok g ∧
      g.codes = ["A5-1", "A5-1.1"] :=
    Catalog.exists_loadRegistry hparse (by decide +kernel) (by decide) (by decide)
  refine ⟨g, hg, ?_, ?_, by decide, by decide +kernel, by decide +kernel⟩
  all_goals simp [hcodes]

end PatternLint
