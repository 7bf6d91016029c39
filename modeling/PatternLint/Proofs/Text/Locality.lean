import PatternLint.Proofs.Text.Reading

/-! What the comments of a part of a text depend on.
No delimiter reaches from one part into a next one that begins with neither of its characters.  The
comments in the first part are then the same whatever follows.  On lines of their own, comments
depend on what stands above only through the block that may be open there. -/

namespace PatternLint

namespace Source

def StartsFresh (s : Source) : Prop := ∀ c ∈ s.head?, c ≠ '/' ∧ c ≠ '*'

theorem startsFresh_nil : StartsFresh [] := by simp [StartsFresh]

theorem startsFresh_cons {c : Char} (hslash : c ≠ '/') (hstar : c ≠ '*') (s : Source) :
    StartsFresh (c :: s) := by
  intro d hd
  obtain rfl : c = d := by simpa using hd
  exact ⟨hslash, hstar⟩

theorem StartsFresh.append {a b : Source} (ha : StartsFresh a) (hb : StartsFresh b) :
    StartsFresh (a ++ b) := by
  cases a with
  | nil => exact hb
  | cons c a => exact ha

theorem StartsFresh.cons_ne {s : Source} (h : StartsFresh s) {c : Char} (hc : c = '/' ∨ c = '*')
    (t : Source) : s ≠ c :: t := by
  rintro rfl
  have hfresh := h c rfl
  rcases hc with rfl | rfl
  · exact hfresh.1 rfl
  · exact hfresh.2 rfl

def BlockReading.append (r r' : BlockReading) : BlockReading := ⟨r.marks ++ r'.marks, r'.isOpen⟩

theorem BlockReading.mark_append (r r' : BlockReading) (n : Nat) (inside : Bool) :
    (r.mark n inside).append r' = (r.append r').mark n inside := by
  simp [append, mark]

theorem readBlocks_append {b : Source} (hb : StartsFresh b) (inside : Bool) (a : Source) :
    readBlocks inside (a ++ b) =
      (readBlocks inside a).append (readBlocks (readBlocks inside a).isOpen b) := by
  fun_induction readBlocks inside a with
  | case1 a ih =>
    rw [BlockReading.mark_append]
    change (readBlocks true (a ++ b)).mark 2 true = _
    rw [ih]
    rfl
  | case2 a ih =>
    rw [BlockReading.mark_append]
    change (readBlocks false (a ++ b)).mark 2 true = _
    rw [ih]
    rfl
  | case3 inside c a hopens hcloses ih =>
    rw [BlockReading.mark_append, List.cons_append]
    -- With what follows, `c` does not begin a delimiter either.
    have hsecond : ∀ d t, d = '/' ∨ d = '*' → a ++ b = d :: t → ∃ u, a = d :: u := by
      intro d t hd heq
      cases a with
      | nil => exact absurd heq (hb.cons_ne hd t)
      | cons e a => exact ⟨a, by rw [List.cons_append, List.cons.injEq] at heq; rw [heq.1]⟩
    cases inside with
    | false =>
      rw [readBlocks_outside_cons, ih]
      · rfl
      · intro t hc heq
        obtain ⟨u, rfl⟩ := hsecond '*' t (.inr rfl) heq
        exact hopens u rfl hc rfl
    | true =>
      rw [readBlocks_inside_cons, ih]
      · rfl
      · intro t hc heq
        obtain ⟨u, rfl⟩ := hsecond '/' t (.inl rfl) heq
        exact hcloses u rfl hc rfl
  | case4 inside => rfl

theorem isOpen_readBlocks_of_notMem {s : Source} (h : '*' ∉ s) (inside : Bool) :
    (readBlocks inside s).isOpen = inside := by
  fun_induction readBlocks inside s with
  | case1 s ih => simp at h
  | case2 s ih => simp at h
  | case3 inside c s _ _ ih =>
    exact ih fun hmem => h (List.mem_cons_of_mem _ hmem)
  | case4 inside => rfl

theorem isOpen_readBlocks_insert {x b : Source} (hx : StartsFresh x) (hb : StartsFresh b)
    (hstar : '*' ∉ x) (inside : Bool) (a : Source) :
    (readBlocks inside (a ++ (x ++ b))).isOpen = (readBlocks inside (a ++ b)).isOpen := by
  simp only [readBlocks_append (hx.append hb), readBlocks_append hb, BlockReading.append,
    isOpen_readBlocks_of_notMem hstar]

@[simp]
theorem charAt?_zero (s : Source) : s.charAt? 0 = s.head? := by
  cases s with
  | nil => rfl
  | cons c s => simp [charAt?, c.utf8Size_pos]

theorem charAt?_eq_none {s : Source} {o : Nat} (h : byteLen s ≤ o) : s.charAt? o = none := by
  induction s generalizing o with
  | nil => rfl
  | cons c s ih =>
    rw [byteLen_cons] at h
    rw [charAt?, if_neg (by have := c.utf8Size_pos; omega), ih (by omega)]

theorem opensLineAt_append_left {a b : Source} (hb : StartsFresh b) {o : Nat}
    (ho : o < byteLen a) : OpensLineAt (a ++ b) o ↔ OpensLineAt a o := by
  rw [OpensLineAt, OpensLineAt, charAt?_append, if_pos ho]
  refine and_congr_right fun _ => ?_
  by_cases hnext : o + 1 < byteLen a
  · rw [charAt?_append, if_pos hnext]
  · have hend : o + 1 - byteLen a = 0 := by omega
    rw [charAt?_append, if_neg hnext, hend, charAt?_zero, charAt?_eq_none (by omega)]
    refine iff_of_false (fun hslash => ?_) (by simp)
    exact (hb '/' hslash).1 rfl

theorem inLineComment_append_left {a b : Source} (hb : StartsFresh b) {o : Nat}
    (ho : o < byteLen a) : InLineComment (a ++ b) o ↔ InLineComment a o := by
  have hlen : o < byteLen (a ++ b) := by
    rw [byteLen_append]
    omega
  simp only [InLineComment, ho, hlen, true_and]
  refine exists_congr fun start => and_congr_right fun hstart => ?_
  rw [opensLineAt_append_left hb (by omega)]
  refine and_congr_right fun _ => forall_congr' fun k => ?_
  refine imp_congr_right fun _ => imp_congr_right fun hk => ?_
  rw [charAt?_append, if_pos (by omega)]

theorem inLineComment_newline (a b : Source) (k : Nat) :
    InLineComment (a ++ '\n' :: b) (byteLen a + k) ↔ InLineComment ('\n' :: b) k := by
  apply inLineComment_append
  intro start hstart _ _
  refine ⟨byteLen a, Nat.le_of_lt hstart, Nat.le_add_right _ _, ?_⟩
  exact charAt?_append_right a ('\n' :: b) 0

end Source

namespace CommentIndex

open Source

theorem covers_iff_of_lt {s : Source} {o : Nat} (ho : o < byteLen s) :
    (detect s).covers o = true ↔
      InLineComment s o ∨ (readBlocks false s).marks[o]? = some true := by
  have hline := contains_lineCommentsFrom_iff 0 s o
  have hblock := contains_blockCommentsFrom_iff 0 s o
  rw [Nat.zero_add] at hline hblock
  have hend : (o == byteLen s) = false := by
    rw [beq_eq_false_iff_ne]
    omega
  rw [covers_detect, inComment, hend, Bool.and_false, Bool.or_false, Bool.or_eq_true,
    List.any_eq_true, List.any_eq_true, hline, hblock]

theorem covers_append_left {a b : Source} (hb : StartsFresh b) {o : Nat} (ho : o < byteLen a) :
    (detect (a ++ b)).covers o = (detect a).covers o := by
  have hlen : o < byteLen (a ++ b) := by
    rw [byteLen_append]
    omega
  have hmark : o < (readBlocks false a).marks.length := by rwa [length_marks_readBlocks]
  rw [Bool.eq_iff_iff, covers_iff_of_lt hlen, covers_iff_of_lt ho, inLineComment_append_left hb ho,
    readBlocks_append hb, BlockReading.append, List.getElem?_append_left hmark]

theorem covers_append_newline {a a' : Source}
    (h : (readBlocks false a).isOpen = (readBlocks false a').isOpen) {b : Source} {k : Nat}
    (hk : k < byteLen ('\n' :: b)) :
    (detect (a ++ '\n' :: b)).covers (byteLen a + k) =
      (detect (a' ++ '\n' :: b)).covers (byteLen a' + k) := by
  have hfresh : StartsFresh ('\n' :: b) := startsFresh_cons (by decide) (by decide) b
  have hread : ∀ a, (readBlocks false (a ++ '\n' :: b)).marks[byteLen a + k]? =
      (readBlocks (readBlocks false a).isOpen ('\n' :: b)).marks[k]? := by
    intro a
    rw [readBlocks_append hfresh, BlockReading.append, ← length_marks_readBlocks false a,
      List.getElem?_append_right (Nat.le_add_right _ _), Nat.add_sub_cancel_left]
  rw [Bool.eq_iff_iff, covers_iff_of_lt (by rw [byteLen_append]; omega),
    covers_iff_of_lt (by rw [byteLen_append]; omega), inLineComment_newline,
    inLineComment_newline, hread, hread, h]

end CommentIndex

end PatternLint
