import Mathlib.Data.List.Chain
import PatternLint.Proofs.Suppression.Recognition

/-! The grammar of directives.
`StandsAt` says where a directive is written and that its code ends there.  A directive with a
proper code is found exactly when it stands somewhere, although the search skips occurrences that
overlap, and no place of a line holds two of them.  In the text of a directive whose code opens no
comment, directives can only stand at the beginning. -/

namespace PatternLint

/-- The forms that end in their code, where a further code character makes it another code. -/
def DirectiveForm.endsInCode : DirectiveForm → Bool
  | .lineComment | .suppress => true
  | .blockComment | .nolint => false

namespace Directive

structure Proper (d : Directive) : Prop where
  ne_empty : d.code ≠ ""
  isCode : IsCode d.code

instance (d : Directive) : Decidable d.Proper :=
  decidable_of_iff (d.code ≠ "" ∧ IsCode d.code) ⟨fun h => ⟨h.1, h.2⟩, fun h => ⟨h.1, h.2⟩⟩

/-- What may follow a directive: anything where the form closes itself, and no code character
where it ends in the code. -/
def EndsBefore (form : DirectiveForm) (post : Source) : Prop :=
  form.endsInCode = true → post.head?.any isCodeChar = false

instance (form : DirectiveForm) (post : Source) : Decidable (EndsBefore form post) :=
  inferInstanceAs (Decidable (_ → _))

/-- `d` is written at place `i` of a line, and its code ends there. -/
def StandsAt (d : Directive) (line : Source) (i : Nat) : Prop :=
  ∃ pre post, line = pre ++ (d.render ++ post) ∧ pre.length = i ∧ EndsBefore d.form post

theorem closing_eq_nil_iff (form : DirectiveForm) :
    (closing form).toList = [] ↔ form.endsInCode = true := by
  cases form <;> decide

theorem notCode_of_mem_closing {form : DirectiveForm} {c : Char}
    (h : c ∈ (closing form).toList) : isCodeChar c = false := by
  have hall : (closing form).toList.all (fun c => !isCodeChar c) = true := by
    cases form <;> decide
  simpa using List.all_eq_true.1 hall c h

theorem head?_closing_append {form : DirectiveForm} {post : Source} (h : EndsBefore form post) :
    ((closing form).toList ++ post).head?.any isCodeChar = false := by
  cases hc : (closing form).toList with
  | nil => exact h ((closing_eq_nil_iff form).1 hc)
  | cons c rest =>
    have hmem : c ∈ (closing form).toList := hc ▸ List.mem_cons_self
    simp [notCode_of_mem_closing hmem]

theorem code_suffix_render {d : Directive} (h : d.form.endsInCode = true) :
    d.code.toList <:+ d.render := by
  rw [render, (closing_eq_nil_iff d.form).2 h, List.append_nil]
  exact List.suffix_append _ _

theorem code_suffix_render_iff {d : Directive} (hd : d.Proper) :
    d.code.toList <:+ d.render ↔ d.form.endsInCode = true := by
  refine ⟨fun h => ?_, code_suffix_render⟩
  rw [← closing_eq_nil_iff]
  -- Were something to follow the code, it would share a character with it.
  rcases List.suffix_or_suffix_of_suffix h (List.suffix_append _ _) with hs | hs
  · have hne : d.code.toList ≠ [] := fun h => hd.ne_empty (String.toList_eq_nil_iff.1 h)
    obtain ⟨c, rest, hc⟩ := List.exists_cons_of_ne_nil hne
    have hmem : c ∈ d.code.toList := by rw [hc]; exact List.mem_cons_self
    have hno := notCode_of_mem_closing (hs.subset hmem)
    rw [hd.isCode c hmem] at hno
    cases hno
  · rw [List.eq_nil_iff_forall_not_mem]
    intro c hmem
    have hno := notCode_of_mem_closing hmem
    rw [hd.isCode c (hs.subset hmem)] at hno
    cases hno

theorem exists_mem_tailsAfter {needle : Source} (hne : needle ≠ []) (pre post : Source) :
    ∃ rest, rest ∈ tailsAfter needle 0 (pre ++ (needle ++ post)) := by
  induction pre with
  | nil =>
    obtain ⟨c, n, rfl⟩ := List.exists_cons_of_ne_nil hne
    exact ⟨post, by simp [tailsAfter]⟩
  | cons c pre ih =>
    obtain ⟨rest, hrest⟩ := ih
    rw [List.cons_append, tailsAfter, if_neg (Nat.lt_irrefl 0)]
    split
    · exact ⟨_, List.mem_cons_self⟩
    · exact ⟨rest, hrest⟩

theorem appearsIn_iff_standsAt {d : Directive} (hd : d.Proper) (line : Source) :
    d.appearsIn line = true ↔ ∃ i, d.StandsAt line i := by
  constructor
  · intro h
    obtain ⟨pre, post, hline, hpost⟩ := exists_append_of_appearsIn h
    exact ⟨pre.length, pre, post, hline, rfl, fun hends => hpost (code_suffix_render hends)⟩
  · rintro ⟨i, pre, post, rfl, -, hends⟩
    cases hform : d.form.endsInCode with
    | true =>
      -- Which occurrence is found matters, and all of them are, for these forms cannot overlap.
      have hblock : d.form ≠ .blockComment := by
        intro hblock
        rw [hblock] at hform
        cases hform
      exact appearsIn_append d.form hblock d.scope hd.isCode pre post (hends hform)
    | false =>
      have hopen : d.code.toList.isSuffixOf d.render = false := by
        rw [Bool.eq_false_iff, Ne, List.isSuffixOf_iff_suffix, code_suffix_render_iff hd, hform]
        decide
      obtain ⟨rest, hrest⟩ := exists_mem_tailsAfter d.render_ne_nil pre post
      rw [appearsIn, List.any_eq_true]
      exact ⟨rest, hrest, by simp [hopen]⟩

theorem opening_prefixFree {form form' : DirectiveForm} {scope scope' : DirectiveScope}
    (h : (opening form scope).toList <+: (opening form' scope').toList) :
    form = form' ∧ scope = scope' := by
  revert h
  cases form <;> cases scope <;> cases form' <;> cases scope' <;> decide

theorem opening_append_inj {form form' : DirectiveForm} {scope scope' : DirectiveScope}
    {rest rest' : Source}
    (h : (opening form scope).toList ++ rest = (opening form' scope').toList ++ rest') :
    form = form' ∧ scope = scope' ∧ rest = rest' := by
  have hp : (opening form scope).toList <+: (opening form' scope').toList ++ rest' := by
    rw [← h]
    exact List.prefix_append _ _
  obtain ⟨rfl, rfl⟩ : form = form' ∧ scope = scope' := by
    rcases List.prefix_or_prefix_of_prefix hp (List.prefix_append _ _) with hp | hp
    · exact opening_prefixFree hp
    · exact (opening_prefixFree hp).imp Eq.symm Eq.symm
  exact ⟨rfl, rfl, List.append_cancel_left h⟩

theorem takeWhile_code_append {code : String} (hcode : IsCode code) {rest : Source}
    (hrest : rest.head?.any isCodeChar = false) :
    (code.toList ++ rest).takeWhile isCodeChar = code.toList := by
  have hnil : rest.takeWhile isCodeChar = [] := by
    cases rest with
    | nil => rfl
    | cons c rest => exact List.takeWhile_cons_of_neg (by simpa using hrest)
  rw [List.takeWhile_append_of_pos hcode, hnil, List.append_nil]

theorem StandsAt.unique {d d' : Directive} (hd : d.Proper) (hd' : d'.Proper) {line : Source}
    {i : Nat} (h : d.StandsAt line i) (h' : d'.StandsAt line i) : d = d' := by
  obtain ⟨pre, post, hline, hpre, hends⟩ := h
  obtain ⟨pre', post', hline', hpre', hends'⟩ := h'
  obtain ⟨-, hrender⟩ := List.append_inj (hline.symm.trans hline') (hpre.trans hpre'.symm)
  obtain ⟨form, scope, code⟩ := d
  obtain ⟨form', scope', code'⟩ := d'
  simp only [render, List.append_assoc] at hrender
  obtain ⟨rfl, rfl, hcode⟩ := opening_append_inj hrender
  have htake := congrArg (List.takeWhile isCodeChar) hcode
  rw [takeWhile_code_append hd.isCode (head?_closing_append hends),
    takeWhile_code_append hd'.isCode (head?_closing_append hends')] at htake
  obtain rfl : code = code' := String.toList_inj.1 htake
  rfl

def OpensNoComment (s : Source) : Prop := s.IsChain fun a b => ¬ (a = '/' ∧ (b = '/' ∨ b = '*'))

instance (s : Source) : Decidable (OpensNoComment s) :=
  inferInstanceAs (Decidable (s.IsChain _))

theorem IsCode.opensNoComment {code : String} (h : IsCode code) : OpensNoComment code.toList := by
  rw [OpensNoComment, List.isChain_iff_getElem]
  rintro i hi ⟨hslash, -⟩
  exact h.notMem (c := '/') (by decide) (hslash ▸ List.getElem_mem _)

theorem exists_opening (form : DirectiveForm) (scope : DirectiveScope) :
    ∃ c rest, (opening form scope).toList = '/' :: c :: rest ∧ (c = '/' ∨ c = '*') ∧
      OpensNoComment (c :: rest) ∧ '/' ∉ (c :: rest).getLast? := by
  cases form <;> cases scope <;> exact ⟨_, _, rfl, by decide, by decide, by decide⟩

theorem opensNoComment_tail_render {d : Directive} (h : OpensNoComment d.code.toList) :
    OpensNoComment d.render.tail := by
  obtain ⟨c, rest, hopening, -, hrest, hlast⟩ := exists_opening d.form d.scope
  have hclosing : OpensNoComment (closing d.form).toList := by
    cases d.form <;> decide
  have hhead : ∀ b ∈ (closing d.form).toList.head?, ¬ (b = '/' ∨ b = '*') := by
    cases d.form <;> simp [closing]
  have htail : d.render.tail = (c :: rest) ++ (d.code.toList ++ (closing d.form).toList) := by
    rw [render, hopening]
    simp
  rw [htail]
  refine List.isChain_append.2 ⟨hrest, List.isChain_append.2 ⟨h, hclosing, ?_⟩, ?_⟩
  · rintro a - b hb ⟨-, hopens⟩
    exact hhead b hb hopens
  · rintro a ha b - ⟨rfl, -⟩
    exact hlast ha

theorem eq_nil_of_render_eq {d d' : Directive} (h : OpensNoComment d.code.toList)
    {pre post : Source} (heq : d.render = pre ++ (d'.render ++ post)) : pre = [] := by
  cases pre with
  | nil => rfl
  | cons a pre =>
    obtain ⟨c, rest, hopening, hc, -⟩ := exists_opening d'.form d'.scope
    have hchain := opensNoComment_tail_render h
    rw [heq, render, hopening, List.cons_append, List.tail_cons] at hchain
    obtain ⟨-, hchain, -⟩ := List.isChain_append.1 hchain
    exact absurd ⟨rfl, hc⟩ (List.isChain_cons_cons.1 hchain).1

theorem eq_of_append_render_eq {d d' : Directive} (h : OpensNoComment d.code.toList)
    {front pre post : Source} (hfront : '/' ∉ front)
    (heq : front ++ d.render = pre ++ (d'.render ++ post)) : pre = front := by
  obtain ⟨c, rest, hopening, -⟩ := exists_opening d'.form d'.scope
  rcases List.append_eq_append_iff.1 heq with ⟨mid, rfl, hmid⟩ | ⟨mid, rfl, hmid⟩
  · rw [eq_nil_of_render_eq h hmid, List.append_nil]
  · cases mid with
    | nil => rw [List.append_nil]
    | cons a mid =>
      obtain rfl : '/' = a := by simpa [render, hopening] using congrArg List.head? hmid
      exact absurd (by simp) hfront

/-- A directive on its own, after something without a slash, silences a code only in its own
scope, and only if that code is read off the beginning of its own. -/
theorem exists_of_anyIn_append_render {d : Directive} (h : OpensNoComment d.code.toList)
    {front : Source} (hfront : '/' ∉ front) {code : String} {scope : DirectiveScope}
    (hany : anyIn code scope (front ++ d.render) = true) :
    scope = d.scope ∧ ∃ post, EndsBefore d.form post ∧
      d.code.toList ++ (closing d.form).toList =
        code.toList ++ ((closing d.form).toList ++ post) := by
  obtain ⟨form, hform⟩ := anyIn_eq_true_iff.1 hany
  obtain ⟨pre, post, hline, hpost⟩ := exists_append_of_appearsIn hform
  obtain rfl := eq_of_append_render_eq h hfront hline
  obtain ⟨form', scope', named⟩ := d
  simp only [render, List.append_assoc, List.append_cancel_left_eq] at hline
  obtain ⟨rfl, rfl, hcode⟩ := opening_append_inj hline
  exact ⟨rfl, post, fun hends => hpost (code_suffix_render hends), hcode⟩

/-- One code is another one with more after it, beginning with no code character. -/
def GoesOn (code longer : String) : Prop :=
  ∃ c rest, longer.toList = code.toList ++ c :: rest ∧ isCodeChar c = false

theorem eq_or_goesOn {form : DirectiveForm} {code named : String} {post : Source}
    (hends : EndsBefore form post)
    (h : named.toList ++ (closing form).toList =
      code.toList ++ ((closing form).toList ++ post)) :
    code = named ∨ GoesOn code named := by
  have hlen := congrArg List.length h
  simp only [List.length_append] at hlen
  have hwhole : code.toList <+: named.toList ++ (closing form).toList := by
    rw [h]
    exact List.prefix_append _ _
  obtain ⟨more, hmore⟩ : code.toList <+: named.toList :=
    List.prefix_of_prefix_length_le hwhole (List.prefix_append _ _) (by omega)
  cases more with
  | nil =>
    rw [List.append_nil] at hmore
    exact .inl (String.toList_inj.1 hmore)
  | cons c rest =>
    refine .inr ⟨c, rest, hmore.symm, ?_⟩
    rw [← hmore, List.append_assoc, List.append_cancel_left_eq] at h
    have hhead := head?_closing_append hends
    rw [← h] at hhead
    simpa using hhead

theorem IsCode.not_goesOn {longer : String} (h : IsCode longer) (code : String) :
    ¬ GoesOn code longer := by
  rintro ⟨c, rest, hlonger, hc⟩
  exact h.notMem hc (by rw [hlonger]; simp)

theorem eq_of_anyIn_append_render {d : Directive} (hcode : IsCode d.code) {front : Source}
    (hfront : '/' ∉ front) {code : String} {scope : DirectiveScope}
    (hany : anyIn code scope (front ++ d.render) = true) : scope = d.scope ∧ code = d.code := by
  obtain ⟨hscope, post, hends, hread⟩ :=
    exists_of_anyIn_append_render hcode.opensNoComment hfront hany
  exact ⟨hscope, (eq_or_goesOn hends hread).resolve_right (hcode.not_goesOn code)⟩

/-- A line that holds one directive for the line below, after white space, silences no other
code there. -/
theorem anyIn_nextLine_eq_false {code other : String} (hcode : IsCode code)
    (hne : other ≠ code) {front : Source} (hfront : '/' ∉ front) :
    anyIn other .nextLine (front ++ render ⟨.lineComment, .nextLine, code⟩) = false := by
  rw [Bool.eq_false_iff]
  intro hany
  exact hne (eq_of_anyIn_append_render hcode hfront hany).2

theorem anyIn_render_iff {d : Directive} (hd : d.Proper) (code : String)
    (scope : DirectiveScope) :
    anyIn code scope d.render = true ↔ scope = d.scope ∧ code = d.code := by
  constructor
  · intro hany
    exact eq_of_anyIn_append_render hd.isCode (List.not_mem_nil (a := '/')) hany
  · rintro ⟨rfl, rfl⟩
    refine anyIn_eq_true_iff.2 ⟨d.form, (appearsIn_iff_standsAt hd d.render).2 ⟨0, [], [], ?_⟩⟩
    exact ⟨by simp, rfl, fun _ => rfl⟩

/-- Recognition is exact and unambiguous: a directive is found in a line exactly when it stands
there, and no other one stands at its place.  A line silences a code when any of the four forms
stands in it, and the text of a directive alone silences its own code in its own scope. -/
theorem grammar_exact {d : Directive} (hd : d.Proper) (line : Source) :
    (d.appearsIn line = true ↔ ∃ i, d.StandsAt line i) ∧
      (∀ i d', d'.Proper → d.StandsAt line i → d'.StandsAt line i → d' = d) ∧
      (∀ scope, anyIn d.code scope line = true ↔
        ∃ form i, StandsAt ⟨form, scope, d.code⟩ line i) ∧
      ∀ code scope, anyIn code scope d.render = true ↔ scope = d.scope ∧ code = d.code := by
  refine ⟨appearsIn_iff_standsAt hd line, fun i d' hd' h h' => h'.unique hd' hd h,
    fun scope => ?_, anyIn_render_iff hd⟩
  rw [anyIn_eq_true_iff]
  refine exists_congr fun form => ?_
  exact appearsIn_iff_standsAt (d := ⟨form, scope, d.code⟩) ⟨hd.ne_empty, hd.isCode⟩ line

/-- Of two block directives that share a slash the search passes over the second, and finds the
code all the same. -/
theorem grammar_exact_overlap :
    let d : Directive := ⟨.blockComment, .sameLine, "A5-1-1"⟩
    let line := "/* autosar-disable-line A5-1-1 */* autosar-disable-line A5-1-1 */".toList
    d.Proper ∧ d.StandsAt line 0 ∧ d.StandsAt line 32 ∧ d.appearsIn line = true ∧
      ∀ d' : Directive, d'.Proper → d'.StandsAt line 32 → d' = d := by
  intro d line
  have hd : d.Proper := by decide
  have hfirst : d.StandsAt line 0 := ⟨[], line.drop 33, by decide, by decide, by decide⟩
  have hsecond : d.StandsAt line 32 := ⟨line.take 32, [], by decide, by decide, by decide⟩
  obtain ⟨hfound, hunique, -, -⟩ := grammar_exact hd line
  exact ⟨hd, hfirst, hsecond, hfound.2 ⟨0, hfirst⟩, fun d' hd' h => hunique 32 d' hd' hsecond h⟩

end Directive

end PatternLint
