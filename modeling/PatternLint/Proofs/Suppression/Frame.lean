import PatternLint.Proofs.Suppression.Effect
import PatternLint.Proofs.Text.Locality

/-! What the fix on a line leaves alone.
The directive that it writes can neither be part of a directive that was begun before it nor break
one that was complete, so it silences its own code on its own line and changes no other answer.  It
opens a comment for the rest of the line, where only carriage returns are left, and no delimiter is
made or broken at its ends; so every other character is in a comment exactly if it was. -/

namespace PatternLint

open Source

namespace Directive

theorem isChain_render {d : Directive} (hd : d.Proper) :
    (d.render ++ ['/']).IsChain fun a b => ¬ (a = ' ' ∧ b = '/') := by
  obtain ⟨c, code, hcode⟩ := List.exists_cons_of_ne_nil
    fun h => hd.ne_empty (String.toList_eq_nil_iff.1 h)
  have hspace : ' ' ∉ d.code.toList := hd.isCode.notMem (by decide)
  have hslash : '/' ∉ d.code.toList := hd.isCode.notMem (by decide)
  have hopening : (opening d.form d.scope).toList.IsChain fun a b => ¬ (a = ' ' ∧ b = '/') := by
    cases d.form <;> cases d.scope <;> decide
  have hclosing : ((closing d.form).toList ++ ['/']).IsChain
      fun a b => ¬ (a = ' ' ∧ b = '/') := by
    cases d.form <;> decide
  have hinside : d.code.toList.IsChain fun a b => ¬ (a = ' ' ∧ b = '/') := by
    rw [List.isChain_iff_getElem]
    rintro i hi ⟨h, -⟩
    exact hspace (h ▸ List.getElem_mem _)
  rw [render, List.append_assoc, List.append_assoc]
  refine List.isChain_append.2 ⟨hopening, List.isChain_append.2 ⟨hinside, hclosing, ?_⟩, ?_⟩
  · rintro a ha b - ⟨rfl, -⟩
    exact hspace (List.mem_of_mem_getLast? ha)
  · rintro a - b hb ⟨-, rfl⟩
    rw [hcode] at hb hslash
    obtain rfl : c = '/' := by simpa using hb
    exact hslash List.mem_cons_self

theorem render_ne_of_space {d d' : Directive} (hd' : d'.Proper) {front rest post : Source}
    (h : d'.render = front ++ ' ' :: rest) : d.render ≠ rest ++ post := by
  intro hother
  obtain ⟨e, token, hopening, -⟩ := exists_opening d.form d.scope
  have hslash : (rest ++ ['/']).head? = some '/' := by
    cases rest with
    | nil => rfl
    | cons b rest =>
      have hfirst := congrArg List.head? hother
      simpa [render, hopening, eq_comm] using hfirst
  obtain ⟨tail, htail⟩ := List.head?_eq_some_iff.1 hslash
  have hchain := isChain_render hd'
  rw [h, List.append_assoc, List.cons_append, htail] at hchain
  obtain ⟨-, hchain, -⟩ := List.isChain_append.1 hchain
  exact (List.isChain_cons_cons.1 hchain).1 ⟨rfl, rfl⟩

/-- A directive in a line that ends in another one, set off by a space, stands before it or in it,
never across. -/
theorem appearsIn_append_space {d d' : Directive} (hd' : d'.Proper) {body : Source}
    (h : d'.appearsIn (body ++ ' ' :: d.render) = true) :
    d'.appearsIn body = true ∨ d'.appearsIn (' ' :: d.render) = true := by
  rw [appearsIn_iff_standsAt hd'] at h
  obtain ⟨i, pre, post, hline, -, hends⟩ := h
  rcases List.append_eq_append_iff.1 hline with ⟨mid, -, hmid⟩ | ⟨mid, hbody, hmid⟩
  · exact .inr ((appearsIn_iff_standsAt hd' _).2 ⟨_, mid, post, hmid, rfl, hends⟩)
  · have hleft : ∀ rest, mid = d'.render ++ rest → EndsBefore d'.form rest →
        d'.appearsIn body = true := by
      rintro rest rfl hrest
      exact (appearsIn_iff_standsAt hd' _).2 ⟨_, pre, rest, hbody, rfl, hrest⟩
    rcases List.append_eq_append_iff.1 hmid with ⟨rest, hmid, hpost⟩ | ⟨rest, hrender, hspace⟩
    · refine .inl (hleft rest hmid fun hform => ?_)
      have hhead := hends hform
      rw [hpost] at hhead
      cases rest with
      | nil => rfl
      | cons c rest => exact hhead
    · cases rest with
      | nil =>
        rw [List.append_nil] at hrender
        exact .inl (hleft [] (by rw [hrender, List.append_nil]) fun _ => rfl)
      | cons c rest =>
        obtain ⟨rfl, hother⟩ := List.cons.inj hspace
        exact absurd hother (render_ne_of_space hd' hrender)

theorem anyIn_append_directive {d : Directive} (hcode : IsCode d.code) {other : String}
    (hne : other ≠ "") (hother : IsCode other) {scope : DirectiveScope}
    (hdiffer : ¬ (scope = d.scope ∧ other = d.code)) (body : Source) {returns : Source}
    (hreturns : ∀ c ∈ returns, c = '\r') :
    anyIn other scope (body ++ (' ' :: d.render ++ returns)) =
      anyIn other scope (body ++ returns) := by
  rw [Bool.eq_iff_iff]
  refine ⟨fun h => ?_, anyIn_insert_before_returns hother hreturns _ rfl⟩
  rw [← List.append_assoc, anyIn_append_returns hother scope _ hreturns, anyIn_eq_true_iff] at h
  rw [anyIn_append_returns hother scope _ hreturns]
  obtain ⟨form, hform⟩ := h
  rcases appearsIn_append_space ⟨hne, hother⟩ hform with hbody | htoken
  · exact anyIn_eq_true_iff.2 ⟨form, hbody⟩
  · have hfront : '/' ∉ [' '] := by decide
    exact absurd (eq_of_anyIn_append_render hcode hfront (anyIn_eq_true_iff.2 ⟨form, htoken⟩))
      hdiffer

end Directive

theorem any_getElem?_set {lines : List Source} {n : Nat} {old new : Source}
    (hold : lines[n]? = some old) {p : Source → Bool} {m : Nat} (h : m = n → p new = p old) :
    (lines.set n new)[m]?.any p = lines[m]?.any p := by
  by_cases hm : m = n
  · subst hm
    rw [List.getElem?_set_self (List.getElem?_eq_some_iff.1 hold).1, hold]
    exact h rfl
  · rw [List.getElem?_set_ne (Ne.symm hm)]

theorem isSuppressed_congr_of_lines_set {t t' old new : Source} {n : Nat}
    (hold : t.lines[n]? = some old) (hlines : t'.lines = t.lines.set n new) {code : String}
    {m : Nat}
    (hsame : m = n → Directive.anyIn code .sameLine new = Directive.anyIn code .sameLine old)
    (hnext : Directive.anyIn code .nextLine new = Directive.anyIn code .nextLine old) :
    isSuppressed t' m code = isSuppressed t m code := by
  rw [isSuppressed_eq, isSuppressed_eq, hlines, any_getElem?_set hold hsame]
  cases m with
  | zero => rfl
  | succ m => rw [lineAbove, lineAbove, any_getElem?_set hold fun _ => hnext]

theorem startsFresh_returns {returns : Source} (h : ∀ c ∈ returns, c = '\r') :
    StartsFresh returns := by
  cases returns with
  | nil => exact startsFresh_nil
  | cons c returns =>
    rw [h c List.mem_cons_self]
    exact startsFresh_cons (by decide) (by decide) returns

theorem CommentIndex.covers_insert_before_returns {x returns after : Source} (hx : StartsFresh x)
    (hstar : '*' ∉ x) (hreturns : ∀ c ∈ returns, c = '\r')
    (hafter : after = [] ∨ ∃ b, after = '\n' :: b) (a : Source) :
    (∀ o < byteLen a, (detect (a ++ (x ++ (returns ++ after)))).covers o =
      (detect (a ++ (returns ++ after))).covers o) ∧
    ∀ o, byteLen (a ++ returns) ≤ o → o < byteLen (a ++ (returns ++ after)) →
      (detect (a ++ (x ++ (returns ++ after)))).covers (o + byteLen x) =
        (detect (a ++ (returns ++ after))).covers o := by
  have hends := startsFresh_returns hreturns
  have hrest : StartsFresh (returns ++ after) := by
    refine hends.append ?_
    rcases hafter with rfl | ⟨b, rfl⟩
    · exact startsFresh_nil
    · exact startsFresh_cons (by decide) (by decide) b
  refine ⟨fun o ho => ?_, fun o hlo hhi => ?_⟩
  · rw [covers_append_left (hx.append hrest) ho, covers_append_left hrest ho]
  · obtain ⟨k, rfl⟩ := Nat.exists_eq_add_of_le hlo
    rcases hafter with rfl | ⟨b, rfl⟩
    · rw [List.append_nil] at hhi
      omega
    · have hopen := isOpen_readBlocks_insert hx hends hstar false a
      have hk : k < byteLen ('\n' :: b) := by
        simp only [byteLen_append] at hhi ⊢
        omega
      have hcovers := covers_append_newline hopen hk
      have hshift : byteLen (a ++ (x ++ returns)) + k = byteLen (a ++ returns) + k + byteLen x := by
        simp only [byteLen_append]
        omega
      rw [hshift] at hcovers
      simpa only [List.append_assoc] using hcovers

namespace Violation

variable {v : Violation} {t : Source}

theorem star_notMem_render (hcode : Directive.IsCode v.code) :
    '*' ∉ ' ' :: v.sameLineDirective.render := by
  simp only [Directive.render, List.mem_cons, List.mem_append, not_or]
  exact ⟨by decide, ⟨by decide, hcode.notMem (by decide)⟩, by decide⟩

/-- The fix on a line silences its code there and leaves every other answer as it was, and every
character but the carriage returns behind it is in a comment exactly if it was, at the place where
it stands now. -/
theorem suppressOnLine_frame (hcode : Directive.IsCode v.code) {f : Suggestion}
    (h : v.suppressOnLine? t = some f) :
    ∃ before body returns after t', LineAt t v.location.line before (body ++ returns) after ∧
      (∀ c ∈ returns, c = '\r') ∧ body.getLast? ≠ some '\r' ∧
      f.replacement.edited? t = some t' ∧
      t' = before ++ (body ++ (' ' :: v.sameLineDirective.render ++ (returns ++ after))) ∧
      isSuppressed t' v.location.line v.code = true ∧
      (∀ m other, other ≠ "" → Directive.IsCode other →
        ¬ (m = v.location.line ∧ other = v.code) →
        isSuppressed t' m other = isSuppressed t m other) ∧
      (∀ o < byteLen (before ++ body),
        (CommentIndex.detect t').covers o = (CommentIndex.detect t).covers o) ∧
      ∀ o, byteLen (before ++ (body ++ returns)) ≤ o → o < byteLen t →
        (CommentIndex.detect t').covers (o + byteLen (' ' :: v.sameLineDirective.render)) =
          (CommentIndex.detect t).covers o := by
  obtain ⟨before, line, returns, after, hline, hreturns, hall, hedit⟩ :=
    edited?_of_suppressOnLine? h
  have hbody := line.getLast?_dropTrailingReturns
  have hlines := hline.lines_replace (newline_notMem_onLine hcode hline hreturns)
  generalize line.dropTrailingReturns = body at *
  subst hreturns
  have hold := hline.getElem?_lines
  have ht : t = (before ++ body) ++ (returns ++ after) := by
    rw [hline.text_eq]
    simp only [List.append_assoc]
  obtain ⟨hfront, hback⟩ := CommentIndex.covers_insert_before_returns
    (startsFresh_cons (by decide) (by decide) v.sameLineDirective.render)
    (star_notMem_render hcode) hall hline.ends (before ++ body)
  rw [← ht] at hfront hback
  simp only [List.append_assoc] at hfront hback hedit hlines
  refine ⟨before, body, returns, after, _, hline, hall, hbody, hedit, rfl, ?_, ?_, hfront, hback⟩
  · exact (silenced_of_suppressOnLine? hcode hold hall hlines).1
  · intro m other hne hother hdiffer
    have hunchanged : ∀ scope, ¬ (scope = .sameLine ∧ other = v.code) →
        Directive.anyIn other scope (body ++ (' ' :: v.sameLineDirective.render ++ returns)) =
          Directive.anyIn other scope (body ++ returns) := fun scope hscope =>
      Directive.anyIn_append_directive (d := v.sameLineDirective) hcode hne hother hscope body hall
    refine isSuppressed_congr_of_lines_set hold hlines (fun hm => ?_) ?_
    · exact hunchanged .sameLine fun hsame => hdiffer ⟨hm, hsame.2⟩
    · exact hunchanged .nextLine fun hsame => by cases hsame.1

/-- The line is inside a block comment, names a longer code and ends in a carriage return.  Both
codes are silenced on it afterwards, the comment still ends on the line below, and nothing is
silenced there. -/
theorem suppressOnLine_frame_in_block_comment :
    let t := "/* a\nx = 5; // suppress-line: A5-1-12\r\n*/ y;".toList
    let v := literalFinding 1 2 7
    ∃ f t', v.suppressOnLine? t = some f ∧ f.replacement.edited? t = some t' ∧
      isSuppressed t' 1 "A5-1-1" = true ∧ isSuppressed t' 1 "A5-1-12" = true ∧
      isSuppressed t' 2 "A5-1-1" = false ∧ (CommentIndex.detect t').covers 3 = true ∧
      (CommentIndex.detect t').covers (42 + 31) = false := by
  intro t v
  obtain ⟨f, hf⟩ : ∃ f, v.suppressOnLine? t = some f :=
    Option.isSome_iff_exists.1 (by decide +kernel)
  obtain ⟨before, body, returns, after, t', hline, hreturns, -, hedit, -, hself, hothers, hfront,
    hback⟩ := suppressOnLine_frame (by decide) hf
  have hrange : (5, 38) = (byteLen before, byteLen before + byteLen (body ++ returns)) :=
    Option.some.inj <| (show _ = some (5, 38) by decide +kernel).symm.trans
      (LineIndex.lineRange?_of_lineAt hline)
  obtain ⟨hstart, hend⟩ := Prod.mk.inj hrange
  have hinside : 3 < byteLen (before ++ body) := by
    rw [byteLen_append]
    omega
  have hbelow : byteLen (before ++ (body ++ returns)) ≤ 42 := by
    rw [byteLen_append]
    omega
  have hlonger := hothers 1 "A5-1-12" (by decide) (by decide) (by decide)
  have hnext := hothers 2 "A5-1-1" (by decide) (by decide) (by decide)
  refine ⟨f, t', hf, hedit, hself, ?_, ?_, ?_, ?_⟩
  · rw [hlonger]
    decide +kernel
  · rw [hnext]
    decide +kernel
  · rw [hfront 3 hinside, CommentIndex.covers_detect]
    decide +kernel
  · rw [show 31 = byteLen (' ' :: v.sameLineDirective.render) by decide,
      hback 42 hbelow (by decide), CommentIndex.covers_detect]
    decide +kernel

end Violation

end PatternLint
