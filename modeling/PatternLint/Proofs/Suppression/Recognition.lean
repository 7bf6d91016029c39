import Mathlib.Data.List.Infix
import PatternLint.Suppression.Directive

/-! How directives are found in a line.
The search reports occurrences from left to right without overlap.  A token that does not overlap
itself is therefore found wherever it stands, and no token is found where it does not stand; the
forms that begin with two slashes are of this kind, because their codes hold no slash. -/

namespace PatternLint

namespace Directive

/-- The codes that directives are made for: code characters only. -/
def IsCode (code : String) : Prop := ∀ c ∈ code.toList, isCodeChar c = true

instance (code : String) : Decidable (IsCode code) :=
  decidable_of_iff (code.toList.all isCodeChar = true) List.all_eq_true

theorem IsCode.notMem {code : String} (h : IsCode code) {c : Char} (hc : isCodeChar c = false) :
    c ∉ code.toList := by
  intro hmem
  rw [h c hmem] at hc
  cases hc

/-- No end of the list, the whole apart, is also a beginning of it. -/
def Unbordered (needle : Source) : Prop :=
  ∀ j, 0 < j → j < needle.length → ¬ needle.drop j <+: needle

theorem exists_append_of_mem_tailsAfter {needle s rest : Source} {skip : Nat}
    (h : rest ∈ tailsAfter needle skip s) : ∃ pre, s = pre ++ (needle ++ rest) := by
  induction s generalizing skip with
  | nil => simp [tailsAfter] at h
  | cons c s ih =>
    have hstep : ∀ {k}, rest ∈ tailsAfter needle k s → ∃ pre, c :: s = pre ++ (needle ++ rest) := by
      intro k hk
      obtain ⟨pre, rfl⟩ := ih hk
      exact ⟨c :: pre, rfl⟩
    rw [tailsAfter] at h
    split at h
    · exact hstep h
    · split at h
      · rename_i hp
        rcases List.mem_cons.1 h with rfl | h
        · obtain ⟨tail, htail⟩ := List.isPrefixOf_iff_prefix.1 hp
          exact ⟨[], by rw [← htail]; simp⟩
        · exact hstep h
      · exact hstep h

theorem mem_tailsAfter_of_unbordered {needle : Source} (hne : needle ≠ [])
    (hu : Unbordered needle) (pre post : Source) {skip : Nat} (hskip : skip ≤ pre.length) :
    post ∈ tailsAfter needle skip (pre ++ (needle ++ post)) := by
  induction pre generalizing skip with
  | nil =>
    have hzero : skip = 0 := by simpa using hskip
    obtain ⟨c, n, rfl⟩ := List.exists_cons_of_ne_nil hne
    simp [tailsAfter, hzero]
  | cons c pre ih =>
    rw [List.cons_append, tailsAfter]
    split
    · exact ih (by simp only [List.length_cons] at hskip; omega)
    · split
      · rename_i hp
        rw [List.isPrefixOf_iff_prefix] at hp
        refine List.mem_cons_of_mem _ (ih ?_)
        -- Were the occurrence found here to reach over the one we look for, they would overlap.
        by_contra hover
        have hlt : (c :: pre).length < needle.length := by
          simp only [List.length_cons]
          omega
        refine hu (c :: pre).length (by simp) hlt ?_
        have hdrop := hp.drop (c :: pre).length
        rw [← List.cons_append, List.drop_left] at hdrop
        exact List.prefix_of_prefix_length_le hdrop (List.prefix_append needle post) (by simp)
      · exact ih (Nat.zero_le _)

theorem unbordered_slashes {rest : Source} (hne : rest ≠ []) (h : '/' ∉ rest) :
    Unbordered ('/' :: '/' :: rest) := by
  intro j hpos hlt hp
  obtain ⟨tail, htail⟩ := hp
  match j, hpos, hlt with
  | 1, _, _ =>
    obtain ⟨c, rest, rfl⟩ := List.exists_cons_of_ne_nil hne
    simp only [List.drop_succ_cons, List.drop_zero, List.cons_append, List.cons.injEq,
      true_and] at htail
    exact h (by rw [htail.1]; exact List.mem_cons_self)
  | j + 2, _, hlt =>
    cases hd : rest.drop j with
    | nil =>
      rw [List.drop_eq_nil_iff] at hd
      simp only [List.length_cons] at hlt
      omega
    | cons c tail' =>
      have hmem : c ∈ rest := List.mem_of_mem_drop (i := j) (by rw [hd]; exact List.mem_cons_self)
      simp only [List.drop_succ_cons, hd, List.cons_append, List.cons.injEq] at htail
      rw [htail.1] at hmem
      exact h hmem

theorem exists_opening_slashes {form : DirectiveForm} (h : form ≠ .blockComment)
    (scope : DirectiveScope) :
    ∃ rest, (opening form scope).toList = '/' :: '/' :: ' ' :: rest ∧ '/' ∉ rest := by
  cases form with
  | blockComment => exact absurd rfl h
  | lineComment => cases scope <;> exact ⟨_, rfl, by decide⟩
  | nolint => cases scope <;> exact ⟨_, rfl, by decide⟩
  | suppress => cases scope <;> exact ⟨_, rfl, by decide⟩

theorem unbordered_render {form : DirectiveForm} (h : form ≠ .blockComment)
    (scope : DirectiveScope) {code : String} (hcode : IsCode code) :
    Unbordered (render ⟨form, scope, code⟩) := by
  obtain ⟨rest, hopening, hrest⟩ := exists_opening_slashes h scope
  have hclosing : '/' ∉ (closing form).toList := by
    cases form with
    | blockComment => exact absurd rfl h
    | _ => decide
  have hbody : '/' ∉ ' ' :: (rest ++ code.toList ++ (closing form).toList) := by
    simp only [List.mem_cons, List.mem_append, not_or]
    exact ⟨by decide, ⟨hrest, hcode.notMem (by decide)⟩, hclosing⟩
  rw [render, hopening]
  exact unbordered_slashes (by simp) hbody

theorem render_ne_nil (d : Directive) : d.render ≠ [] := by
  have hopening : (opening d.form d.scope).toList ≠ [] := by
    cases d.form <;> cases d.scope <;> decide
  simp [render, hopening]

theorem appearsIn_append (form : DirectiveForm) (h : form ≠ .blockComment)
    (scope : DirectiveScope) {code : String} (hcode : IsCode code) (pre post : Source)
    (hpost : post.head?.any isCodeChar = false) :
    appearsIn ⟨form, scope, code⟩ (pre ++ (render ⟨form, scope, code⟩ ++ post)) = true := by
  rw [appearsIn, List.any_eq_true]
  refine ⟨post, ?_, by simp [hpost]⟩
  exact mem_tailsAfter_of_unbordered (render_ne_nil _) (unbordered_render h scope hcode) pre post
    (Nat.zero_le _)

/-- A directive that acts on a line stands there, and a form that ends in the code is not
followed by a code character. -/
theorem exists_append_of_appearsIn {d : Directive} {line : Source} (h : d.appearsIn line = true) :
    ∃ pre post, line = pre ++ (d.render ++ post) ∧
      (d.code.toList <:+ d.render → post.head?.any isCodeChar = false) := by
  rw [appearsIn, List.any_eq_true] at h
  obtain ⟨post, hmem, hpost⟩ := h
  obtain ⟨pre, rfl⟩ := exists_append_of_mem_tailsAfter hmem
  refine ⟨pre, post, rfl, fun hsuffix => ?_⟩
  rw [← List.isSuffixOf_iff_suffix] at hsuffix
  simpa [hsuffix] using hpost

theorem anyIn_eq_true_iff {code : String} {scope : DirectiveScope} {line : Source} :
    anyIn code scope line = true ↔ ∃ form, appearsIn ⟨form, scope, code⟩ line = true := by
  constructor
  · intro h
    obtain ⟨d, hd, hline⟩ := List.any_eq_true.1 h
    obtain ⟨form, -, rfl⟩ := List.mem_map.1 hd
    exact ⟨form, hline⟩
  · rintro ⟨form, hline⟩
    refine List.any_eq_true.2 ⟨⟨form, scope, code⟩, List.mem_map.2 ⟨form, ?_, rfl⟩, hline⟩
    cases form <;> decide

theorem render_notMem {c : Char} (hc : isCodeChar c = false)
    (hopening : ∀ form scope, c ∉ (opening form scope).toList)
    (hclosing : ∀ form, c ∉ (closing form).toList) {d : Directive} (hcode : IsCode d.code) :
    c ∉ d.render := by
  simp only [render, List.mem_append, not_or]
  exact ⟨⟨hopening _ _, hcode.notMem hc⟩, hclosing _⟩

theorem newline_notMem_render {d : Directive} (hcode : IsCode d.code) : '\n' ∉ d.render :=
  render_notMem (by decide) (by intro form scope; cases form <;> cases scope <;> decide)
    (by intro form; cases form <;> decide) hcode

theorem return_notMem_render {d : Directive} (hcode : IsCode d.code) : '\r' ∉ d.render :=
  render_notMem (by decide) (by intro form scope; cases form <;> cases scope <;> decide)
    (by intro form; cases form <;> decide) hcode

theorem prefix_of_prefix_append_returns {needle body returns : Source} (hneedle : '\r' ∉ needle)
    (hreturns : ∀ c ∈ returns, c = '\r') (h : needle <+: body ++ returns) : needle <+: body := by
  rcases List.prefix_or_prefix_of_prefix h (List.prefix_append body returns) with hp | ⟨more, rfl⟩
  · exact hp
  · cases more with
    | nil => simp
    | cons c more =>
      rw [List.prefix_append_right_inj] at h
      have hc := hreturns c (h.subset List.mem_cons_self)
      rw [hc] at hneedle
      simp at hneedle

/-- Writing something else in the place of trailing carriage returns leaves every occurrence
found before them in place. -/
theorem tailsAfter_replace_returns {needle returns : Source} (hne : needle ≠ [])
    (hneedle : '\r' ∉ needle) (hreturns : ∀ c ∈ returns, c = '\r') (extra : Source)
    {body rest : Source} {skip : Nat} (h : rest ∈ tailsAfter needle skip (body ++ returns)) :
    ∃ tail, rest = tail ++ returns ∧ tail ++ extra ∈ tailsAfter needle skip (body ++ extra) := by
  induction body generalizing skip with
  | nil =>
    obtain ⟨pre, hpre⟩ := exists_append_of_mem_tailsAfter h
    obtain ⟨c, n, rfl⟩ := List.exists_cons_of_ne_nil hne
    have hc := hreturns c (by rw [← List.nil_append returns, hpre]; simp)
    rw [hc] at hneedle
    simp at hneedle
  | cons c body ih =>
    rw [List.cons_append, tailsAfter] at h
    rw [List.cons_append, tailsAfter]
    split at h
    · rename_i hskip
      rw [if_pos hskip]
      exact ih h
    · rename_i hskip
      rw [if_neg hskip]
      split at h
      · rename_i hp
        rw [List.isPrefixOf_iff_prefix, ← List.cons_append] at hp
        obtain ⟨tail, htail⟩ := prefix_of_prefix_append_returns hneedle hreturns hp
        have hnew : needle.isPrefixOf (c :: (body ++ extra)) = true := by
          rw [List.isPrefixOf_iff_prefix, ← List.cons_append, ← htail, List.append_assoc]
          exact List.prefix_append _ _
        rw [if_pos hnew]
        rcases List.mem_cons.1 h with rfl | h
        · refine ⟨tail, ?_, ?_⟩
          · rw [← List.cons_append, ← htail, List.append_assoc, List.drop_left]
          · rw [← List.cons_append, ← htail, List.append_assoc, List.drop_left]
            exact List.mem_cons_self
        · obtain ⟨tail, hrest, hmem⟩ := ih h
          exact ⟨tail, hrest, List.mem_cons_of_mem _ hmem⟩
      · rename_i hp
        obtain ⟨tail, hrest, hmem⟩ := ih h
        refine ⟨tail, hrest, ?_⟩
        -- An occurrence that reaches into `extra` would be longer than one that is left behind it.
        have hnew : needle.isPrefixOf (c :: (body ++ extra)) ≠ true := by
          intro hnew
          rw [List.isPrefixOf_iff_prefix, ← List.cons_append] at hnew
          obtain ⟨pre, hpre⟩ := exists_append_of_mem_tailsAfter h
          have hlen : needle.length ≤ (c :: body).length := by
            have := congrArg List.length hpre
            simp only [hrest, List.length_append, List.length_cons] at this ⊢
            omega
          have hbody : needle <+: c :: body :=
            List.prefix_of_prefix_length_le hnew (List.prefix_append _ _) hlen
          refine hp ?_
          rw [List.isPrefixOf_iff_prefix, ← List.cons_append]
          exact hbody.trans (List.prefix_append _ _)
        rw [if_neg hnew]
        exact hmem

/-- A directive keeps acting when text is written before the carriage returns of its line, as
long as that text does not go on with the code. -/
theorem appearsIn_insert_before_returns {d : Directive} (hcode : IsCode d.code)
    {body returns : Source} (hreturns : ∀ c ∈ returns, c = '\r') {extra : Source}
    (hextra : extra.head?.any isCodeChar = false) (h : d.appearsIn (body ++ returns) = true) :
    d.appearsIn (body ++ extra) = true := by
  rw [appearsIn, List.any_eq_true] at h ⊢
  obtain ⟨rest, hmem, hrest⟩ := h
  obtain ⟨tail, rfl, hnew⟩ := tailsAfter_replace_returns d.render_ne_nil
    (return_notMem_render hcode) hreturns extra hmem
  refine ⟨tail ++ extra, hnew, ?_⟩
  cases tail with
  | nil => simp [hextra]
  | cons c tail => exact hrest

theorem anyIn_insert_before_returns {code : String} (hcode : IsCode code) {scope : DirectiveScope}
    {body returns : Source} (hreturns : ∀ c ∈ returns, c = '\r') (extra : Source)
    (hextra : extra.head?.any isCodeChar = false)
    (h : anyIn code scope (body ++ returns) = true) : anyIn code scope (body ++ extra) = true := by
  rw [anyIn_eq_true_iff] at h ⊢
  obtain ⟨form, hform⟩ := h
  exact ⟨form, appearsIn_insert_before_returns hcode hreturns hextra hform⟩

theorem head?_returns {returns : Source} (h : ∀ c ∈ returns, c = '\r') :
    returns.head?.any isCodeChar = false := by
  cases returns with
  | nil => rfl
  | cons c returns =>
    rw [h c List.mem_cons_self]
    rfl

theorem anyIn_append_returns {code : String} (hcode : IsCode code) (scope : DirectiveScope)
    (line : Source) {returns : Source} (hreturns : ∀ c ∈ returns, c = '\r') :
    anyIn code scope (line ++ returns) = anyIn code scope line := by
  rw [Bool.eq_iff_iff]
  constructor
  · intro h
    have hline := anyIn_insert_before_returns hcode hreturns [] rfl h
    rwa [List.append_nil] at hline
  · intro h
    rw [← List.append_nil line] at h
    exact anyIn_insert_before_returns hcode (by simp) returns (head?_returns hreturns) h

end Directive

end PatternLint
