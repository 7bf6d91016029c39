import PatternLint.Proofs.Text.Comment
import PatternLint.Proofs.Text.Lines

/-! Comments as they are read, character by character.
A byte is in a line comment if `//` stands at or before it with no newline between.  Block comments
are read from left to right by an automaton that is inside a block or outside, and takes the two
characters of a delimiter together.  The comment table agrees with both readings at every offset,
and at the end of the text with the state they are left in. -/

namespace PatternLint

namespace Source

def charAt? : Source → Nat → Option Char
  | [], _ => none
  | c :: s, o => if o < c.utf8Size then some c else charAt? s (o - c.utf8Size)

def OpensLineAt (s : Source) (o : Nat) : Prop :=
  s.charAt? o = some '/' ∧ s.charAt? (o + 1) = some '/'

/-- A byte of the text that `//` comes before on its line, or that belongs to it. -/
def InLineComment (s : Source) (o : Nat) : Prop :=
  o < byteLen s ∧ ∃ start ≤ o, s.OpensLineAt start ∧
    ∀ k, start ≤ k → k ≤ o → s.charAt? k ≠ some '\n'

/-- What comes of reading a text for block comments: a mark for each byte, whether it is inside a
block, and whether the reading ends inside. -/
structure BlockReading where
  marks : List Bool
  isOpen : Bool
  deriving Repr, DecidableEq

def BlockReading.mark (r : BlockReading) (n : Nat) (inside : Bool) : BlockReading :=
  { r with marks := List.replicate n inside ++ r.marks }

/-- Reads a text from a state on; the delimiters belong to the block. -/
def readBlocks : (inside : Bool) → Source → BlockReading
  | false, '/' :: '*' :: s => (readBlocks true s).mark 2 true
  | true, '*' :: '/' :: s => (readBlocks false s).mark 2 true
  | inside, c :: s => (readBlocks inside s).mark c.utf8Size inside
  | inside, [] => ⟨[], inside⟩

section Block

@[simp]
theorem BlockReading.mark_mark (r : BlockReading) (m n : Nat) (inside : Bool) :
    (r.mark n inside).mark m inside = r.mark (m + n) inside := by
  simp [mark, ← List.append_assoc]

@[simp]
theorem BlockReading.getElem?_marks_mark (r : BlockReading) (n : Nat) (inside : Bool) (k : Nat) :
    (r.mark n inside).marks[k]? = if k < n then some inside else r.marks[k - n]? := by
  rw [mark]
  split
  · rename_i hk
    rw [List.getElem?_append_left (by simpa using hk), List.getElem?_replicate, if_pos hk]
  · rename_i hk
    rw [List.getElem?_append_right (by simpa using hk), List.length_replicate]

theorem readBlocks_outside_cons {c : Char} {s : Source}
    (h : ∀ t, c = '/' → s = '*' :: t → False) :
    readBlocks false (c :: s) = (readBlocks false s).mark c.utf8Size false := by
  rw [readBlocks]
  · exact fun t _ => h t
  · exact fun t hinside => nomatch hinside

theorem readBlocks_inside_cons {c : Char} {s : Source}
    (h : ∀ t, c = '*' → s = '/' :: t → False) :
    readBlocks true (c :: s) = (readBlocks true s).mark c.utf8Size true := by
  rw [readBlocks]
  · exact fun t hinside => nomatch hinside
  · exact fun t _ => h t

@[simp]
theorem length_marks_readBlocks (inside : Bool) (s : Source) :
    (readBlocks inside s).marks.length = byteLen s := by
  have hslash : '/'.utf8Size = 1 := rfl
  have hstar : '*'.utf8Size = 1 := rfl
  fun_induction readBlocks inside s with
  | case1 s ih =>
    simp only [BlockReading.mark, List.length_append, List.length_replicate, ih, byteLen_cons,
      hslash, hstar]
    omega
  | case2 s ih =>
    simp only [BlockReading.mark, List.length_append, List.length_replicate, ih, byteLen_cons,
      hslash, hstar]
    omega
  | case3 inside c s _ _ ih =>
    simp only [BlockReading.mark, List.length_append, List.length_replicate, ih, byteLen_cons]
  | case4 inside => rfl

theorem readBlocks_of_splitAtClose? {s body rest : Source}
    (h : splitAtClose? s = some (body, rest)) :
    readBlocks true s = (readBlocks false rest).mark (byteLen body + 2) true := by
  fun_induction splitAtClose? s generalizing body rest with
  | case1 s =>
    simp only [Option.some.injEq, Prod.mk.injEq] at h
    obtain ⟨rfl, rfl⟩ := h
    rfl
  | case2 c s hnot ih =>
    obtain ⟨⟨b, r⟩, hbr, heq⟩ := Option.map_eq_some_iff.1 h
    simp only [Prod.mk.injEq] at heq
    obtain ⟨rfl, rfl⟩ := heq
    rw [readBlocks_inside_cons hnot, ih hbr, BlockReading.mark_mark, byteLen_cons, Nat.add_assoc]
  | case3 => cases h

theorem readBlocks_of_noClose {s : Source} (h : splitAtClose? s = none) :
    readBlocks true s = (⟨[], true⟩ : BlockReading).mark (byteLen s) true := by
  fun_induction splitAtClose? s with
  | case1 s => cases h
  | case2 c s hnot ih =>
    rw [readBlocks_inside_cons hnot, ih (Option.map_eq_none_iff.1 h), BlockReading.mark_mark,
      byteLen_cons]
  | case3 => rfl

theorem contains_blockCommentsFrom_iff (o : Nat) (s : Source) (k : Nat) :
    (∃ c ∈ (blockCommentsFrom o s).1, c.contains (o + k) = true) ↔
      (readBlocks false s).marks[k]? = some true := by
  fun_induction blockCommentsFrom o s generalizing k with
  | case1 o s body rest hclose _ stop spans isOpen hrec ih =>
    rw [hrec] at ih
    have hread : readBlocks false ('/' :: '*' :: s) =
        (readBlocks false rest).mark (byteLen body + 4) true := by
      rw [readBlocks, readBlocks_of_splitAtClose? hclose, BlockReading.mark_mark]
      congr 1
      omega
    rw [hread, BlockReading.getElem?_marks_mark]
    simp only [List.mem_cons, exists_eq_or_imp, CommentSpan.contains_iff (c := ⟨o, stop, .block⟩)]
    by_cases hk : k < byteLen body + 4
    · simp only [hk, if_true, iff_true]
      exact .inl ⟨by simp, by simp only [stop]; omega⟩
    · rw [if_neg hk, ← ih]
      have hshift : stop + (k - (byteLen body + 4)) = o + k := by
        simp only [stop]
        omega
      rw [hshift]
      refine or_iff_right fun hfirst => ?_
      simp only [stop] at hfirst
      omega
  | case2 o s hclose =>
    rw [readBlocks, readBlocks_of_noClose hclose, BlockReading.mark_mark,
      BlockReading.getElem?_marks_mark]
    simp [CommentSpan.contains_iff, Nat.add_assoc]
  | case3 o c s hnot ih =>
    rw [readBlocks_outside_cons hnot, BlockReading.getElem?_marks_mark]
    by_cases hk : k < c.utf8Size
    · rw [if_pos hk]
      -- The spans begin after the character.
      refine iff_of_false ?_ (by simp)
      rintro ⟨d, hd, hcontains⟩
      have hstart := (within_blockCommentsFrom _ s d hd).le_start
      rw [CommentSpan.contains_iff] at hcontains
      omega
    · rw [if_neg hk, ← ih]
      have hshift : o + c.utf8Size + (k - c.utf8Size) = o + k := by omega
      rw [hshift]
  | case4 o => simp [readBlocks]

theorem blockCommentsFrom_open (o : Nat) (s : Source) :
    (blockCommentsFrom o s).2 = (readBlocks false s).isOpen := by
  fun_induction blockCommentsFrom o s with
  | case1 o s body rest hclose _ stop spans isOpen hrec ih =>
    rw [hrec] at ih
    rw [readBlocks, readBlocks_of_splitAtClose? hclose]
    exact ih
  | case2 o s hclose =>
    rw [readBlocks, readBlocks_of_noClose hclose]
    rfl
  | case3 o c s hnot ih =>
    rw [readBlocks_outside_cons hnot]
    exact ih
  | case4 o => rfl

end Block

section Line

theorem charAt?_append (a b : Source) (o : Nat) :
    charAt? (a ++ b) o = if o < byteLen a then charAt? a o else charAt? b (o - byteLen a) := by
  induction a generalizing o with
  | nil => simp
  | cons c a ih =>
    rw [List.cons_append, charAt?, charAt?, ih, byteLen_cons]
    by_cases hc : o < c.utf8Size
    · rw [if_pos hc, if_pos hc, if_pos (by omega)]
    · have hrest : o - c.utf8Size < byteLen a ↔ o < c.utf8Size + byteLen a := by omega
      simp only [hc, if_false, hrest, Nat.sub_sub]

@[simp]
theorem charAt?_append_right (a b : Source) (o : Nat) :
    charAt? (a ++ b) (byteLen a + o) = charAt? b o := by
  rw [charAt?_append, if_neg (by omega), Nat.add_sub_cancel_left]

theorem mem_of_charAt? {s : Source} {o : Nat} {c : Char} (h : charAt? s o = some c) : c ∈ s := by
  induction s generalizing o with
  | nil => cases h
  | cons d s ih =>
    rw [charAt?] at h
    split at h
    · cases h
      exact List.mem_cons_self
    · exact List.mem_cons_of_mem _ (ih h)

theorem OpensLineAt.of_append {a b : Source} {o : Nat} :
    OpensLineAt (a ++ b) (byteLen a + o) ↔ OpensLineAt b o := by
  rw [OpensLineAt, OpensLineAt, Nat.add_assoc, charAt?_append_right, charAt?_append_right]

/-- In front of the text that is asked about, there may be anything that opens no comment reaching
into it. -/
theorem inLineComment_append {a b : Source} {k : Nat}
    (h : ∀ start < byteLen a, k < byteLen b → OpensLineAt (a ++ b) start →
      ∃ i, start ≤ i ∧ i ≤ byteLen a + k ∧ charAt? (a ++ b) i = some '\n') :
    InLineComment (a ++ b) (byteLen a + k) ↔ InLineComment b k := by
  rw [InLineComment, InLineComment, byteLen_append, Nat.add_lt_add_iff_left]
  refine and_congr_right fun hk => ⟨?_, ?_⟩
  · rintro ⟨start, hle, hopens, hline⟩
    have hstart : byteLen a ≤ start := by
      by_contra hlt
      obtain ⟨i, hi, hik, hnewline⟩ := h start (by omega) hk hopens
      exact hline i hi hik hnewline
    obtain ⟨start, rfl⟩ := Nat.exists_eq_add_of_le hstart
    refine ⟨start, by omega, OpensLineAt.of_append.1 hopens, fun i hi hik => ?_⟩
    rw [← charAt?_append_right a]
    exact hline _ (by omega) (by omega)
  · rintro ⟨start, hle, hopens, hline⟩
    refine ⟨byteLen a + start, by omega, OpensLineAt.of_append.2 hopens, fun i hi hik => ?_⟩
    obtain ⟨i, rfl⟩ := Nat.exists_eq_add_of_le (Nat.le_trans (Nat.le_add_right _ _) hi)
    rw [charAt?_append_right]
    exact hline i (by omega) (by omega)

theorem not_opensLineAt_of_lt {c : Char} {s : Source} (h : ∀ t, c = '/' → s = '/' :: t → False)
    {o : Nat} (ho : o < c.utf8Size) : ¬ OpensLineAt (c :: s) o := by
  rintro ⟨hfirst, hsecond⟩
  rw [charAt?, if_pos ho, Option.some.injEq] at hfirst
  subst hfirst
  have hslash : '/'.utf8Size = 1 := rfl
  obtain rfl : o = 0 := by omega
  rw [charAt?, hslash] at hsecond
  cases s with
  | nil => cases hsecond
  | cons d t =>
    have hd := d.utf8Size_pos
    rw [if_neg (by omega), charAt?, if_pos (by omega), Option.some.injEq] at hsecond
    exact h t rfl (by rw [hsecond])

theorem inLineComment_cons {c : Char} {s : Source} (h : ∀ t, c = '/' → s = '/' :: t → False)
    (k : Nat) : InLineComment (c :: s) (c.utf8Size + k) ↔ InLineComment s k := by
  have hsize : byteLen [c] = c.utf8Size := by simp
  rw [← hsize, ← List.singleton_append, inLineComment_append]
  intro start hstart _ hopens
  exact absurd hopens (not_opensLineAt_of_lt h (hsize ▸ hstart))

theorem slashes_append (s : Source) :
    '/' :: '/' :: s = ('/' :: '/' :: s.takeWhile (· ≠ '\n')) ++ s.dropWhile (· ≠ '\n') := by
  rw [List.cons_append, List.cons_append, List.takeWhile_append_dropWhile]

theorem byteLen_slashes (s : Source) : byteLen ('/' :: '/' :: s) = 2 + byteLen s := by
  have hslash : '/'.utf8Size = 1 := rfl
  simp only [byteLen_cons, hslash]
  omega

theorem inLineComment_slashes {s : Source} {k : Nat}
    (hk : k < 2 + byteLen (s.takeWhile (· ≠ '\n'))) : InLineComment ('/' :: '/' :: s) k := by
  rw [← byteLen_slashes] at hk
  refine ⟨?_, 0, Nat.zero_le k, ⟨rfl, rfl⟩, fun i _ hik hnewline => ?_⟩
  · rw [slashes_append, byteLen_append]
    omega
  · rw [slashes_append, charAt?_append, if_pos (by omega)] at hnewline
    have hmem := mem_of_charAt? hnewline
    simp only [List.mem_cons, newline_notMem_takeWhile s, or_false] at hmem
    rcases hmem with h | h <;> cases h

theorem inLineComment_below_slashes (s : Source) (k : Nat) :
    InLineComment ('/' :: '/' :: s) (2 + byteLen (s.takeWhile (· ≠ '\n')) + k) ↔
      InLineComment (s.dropWhile (· ≠ '\n')) k := by
  rw [slashes_append, ← byteLen_slashes, inLineComment_append]
  intro start hstart hlt _
  refine ⟨_, Nat.le_of_lt hstart, Nat.le_add_right _ _, ?_⟩
  have hfirst := charAt?_append_right ('/' :: '/' :: s.takeWhile (· ≠ '\n'))
    (s.dropWhile (· ≠ '\n')) 0
  rw [Nat.add_zero] at hfirst
  rw [hfirst]
  rcases dropWhile_newline s with hnil | ⟨t, hcons⟩
  · rw [hnil] at hlt
    cases hlt
  · rw [hcons]
    rfl

theorem contains_lineCommentsFrom_iff (o : Nat) (s : Source) (k : Nat) :
    (∃ c ∈ lineCommentsFrom o s, c.contains (o + k) = true) ↔ InLineComment s k := by
  fun_induction lineCommentsFrom o s generalizing k with
  | case1 o s stop ih =>
    simp only [List.mem_cons, exists_eq_or_imp, CommentSpan.contains_iff (c := ⟨o, stop, .line⟩)]
    by_cases hk : k < 2 + byteLen (s.takeWhile (· ≠ '\n'))
    · refine iff_of_true (.inl ⟨by simp, ?_⟩) (inLineComment_slashes hk)
      simp only [stop]
      omega
    · obtain ⟨rest, rfl⟩ := Nat.exists_eq_add_of_le (Nat.le_of_not_lt hk)
      have hshift : o + (2 + byteLen (s.takeWhile (· ≠ '\n')) + rest) = stop + rest := by
        simp only [stop]
        omega
      rw [inLineComment_below_slashes, ← ih, hshift]
      exact or_iff_right fun hfirst => by omega
  | case2 o c s hnot ih =>
    by_cases hk : k < c.utf8Size
    · refine iff_of_false ?_ ?_
      · rintro ⟨d, hd, hcontains⟩
        have hstart := (within_lineCommentsFrom _ s d hd).le_start
        rw [CommentSpan.contains_iff] at hcontains
        omega
      · rintro ⟨-, start, hle, hopens, -⟩
        exact not_opensLineAt_of_lt hnot (by omega) hopens
    · obtain ⟨rest, rfl⟩ := Nat.exists_eq_add_of_le (Nat.le_of_not_lt hk)
      rw [inLineComment_cons hnot, ← ih, Nat.add_assoc]
  | case3 o => simp [InLineComment]

end Line

section LastLine

def OpensLastLine (s : Source) : Prop :=
  ∃ line, s.lines.getLast? = some line ∧ ['/', '/'] <:+: line

theorem exists_append_lastLine {s line : Source} (h : s.lines.getLast? = some line) :
    ∃ before, s = before ++ line ∧ '\n' ∉ line ∧
      (before = [] ∨ ∃ b, before = b ++ ['\n']) := by
  have hcount : s.lines.length - 1 < s.lines.length := by
    rw [length_lines]
    omega
  obtain ⟨before, last, after, hat⟩ := exists_lineAt hcount
  have hlast := hat.getElem?_lines
  rw [← List.getLast?_eq_getElem?, h, Option.some.injEq] at hlast
  subst hlast
  -- A newline behind the last line would begin another one.
  have hafter : after = [] := by
    rcases hat.ends with hnil | ⟨a, rfl⟩
    · exact hnil
    · have hnumber := hat.number_eq
      rw [length_lines, Nat.add_sub_cancel, hat.text_eq] at hnumber
      simp at hnumber
  exact ⟨before, by rw [hat.text_eq, hafter, List.append_nil], hat.whole, hat.begins⟩

theorem suffix_iff_of_newline {s t b : Source} (ht : '\n' :: t <:+ s) (hb : '\n' ∉ b) :
    b <:+ s ↔ b <:+ '\n' :: t := by
  refine ⟨fun h => ?_, fun h => h.trans ht⟩
  rcases List.suffix_or_suffix_of_suffix h ht with hshort | hlong
  · exact hshort
  · exact absurd (hlong.subset List.mem_cons_self) hb

theorem suffix_lastLine_iff {s line t : Source} (h : s.lines.getLast? = some line) :
    t <:+ line ↔ t <:+ s ∧ '\n' ∉ t := by
  obtain ⟨before, rfl, hline, hbefore⟩ := exists_append_lastLine h
  constructor
  · intro ht
    exact ⟨ht.trans (List.suffix_append _ _), fun hnewline => hline (ht.subset hnewline)⟩
  · rintro ⟨ht, hnewline⟩
    rcases hbefore with rfl | ⟨b, rfl⟩
    · exact ht
    · have hbelow : '\n' :: line <:+ b ++ ['\n'] ++ line := ⟨b, by simp⟩
      rw [suffix_iff_of_newline hbelow hnewline, List.suffix_cons_iff] at ht
      rcases ht with rfl | ht
      · exact absurd List.mem_cons_self hnewline
      · exact ht

theorem opensLastLine_iff (s : Source) :
    s.OpensLastLine ↔ ∃ b, '/' :: '/' :: b <:+ s ∧ '\n' ∉ b := by
  obtain ⟨line, hline⟩ : ∃ line, s.lines.getLast? = some line := by
    cases hlast : s.lines.getLast? with
    | none =>
      have hlength := length_lines s
      rw [List.getLast?_eq_none_iff.1 hlast] at hlength
      cases hlength
    | some line => exact ⟨line, rfl⟩
  have hsuffix : ['/', '/'] <:+: line ↔ ∃ b, '/' :: '/' :: b <:+ line := by
    rw [List.infix_iff_prefix_suffix]
    constructor
    · rintro ⟨t, ⟨b, rfl⟩, ht⟩
      exact ⟨b, ht⟩
    · rintro ⟨b, hb⟩
      exact ⟨_, ⟨b, rfl⟩, hb⟩
  simp [OpensLastLine, hline, hsuffix, suffix_lastLine_iff hline]

theorem suffix_cons_iff_of_noSlashes {c : Char} {s : Source}
    (h : ∀ t, c = '/' → s = '/' :: t → False) (b : Source) :
    '/' :: '/' :: b <:+ c :: s ↔ '/' :: '/' :: b <:+ s := by
  rw [List.suffix_cons_iff]
  refine or_iff_right fun heq => ?_
  obtain ⟨hfirst, hsecond⟩ := List.cons.inj heq
  exact h b hfirst.symm hsecond.symm

theorem lineCommentsFrom_open_iff (o : Nat) (s : Source) :
    (lineCommentsFrom o s).getLast?.any (fun c => c.stop == o + byteLen s) = true ↔
      ∃ b, '/' :: '/' :: b <:+ s ∧ '\n' ∉ b := by
  fun_induction lineCommentsFrom o s with
  | case1 o s stop ih =>
    have hlen := byteLen_takeWhile_add_dropWhile (· ≠ '\n') s
    have hend : o + byteLen ('/' :: '/' :: s) = stop + byteLen (s.dropWhile (· ≠ '\n')) := by
      rw [byteLen_slashes]
      omega
    rw [hend, List.getLast?_cons]
    rcases dropWhile_newline s with hnil | ⟨t, hcons⟩
    · have hwhole := List.takeWhile_append_dropWhile (p := (· ≠ '\n')) (l := s)
      rw [hnil, List.append_nil] at hwhole
      have hnewline : '\n' ∉ s := hwhole ▸ newline_notMem_takeWhile s
      refine iff_of_true ?_ ⟨s, List.suffix_refl _, hnewline⟩
      rw [hnil]
      simp [lineCommentsFrom]
    · have hbelow : '\n' :: t <:+ '/' :: '/' :: s := by
        rw [← hcons, slashes_append]
        exact List.suffix_append _ _
      have hpos : 0 < byteLen (s.dropWhile (· ≠ '\n')) := by
        rw [hcons, byteLen_cons]
        exact Nat.add_pos_left (Char.utf8Size_pos _) _
      refine Iff.trans ?_ (ih.trans (exists_congr fun b => and_congr_left fun hb => ?_))
      · cases (lineCommentsFrom stop (s.dropWhile (· ≠ '\n'))).getLast? with
        | none =>
          refine iff_of_false ?_ Bool.false_ne_true
          simp only [Option.getD_none, Option.any_some, beq_iff_eq]
          omega
        | some c => rfl
      · rw [hcons, suffix_iff_of_newline hbelow (by simpa using hb)]
  | case2 o c s hnot ih =>
    rw [byteLen_cons, ← Nat.add_assoc, ih]
    simp only [suffix_cons_iff_of_noSlashes hnot]
  | case3 o => simp

end LastLine

end Source

namespace CommentIndex

open Source

/-- At every offset the comment table says what a reader finds there: `//` earlier on the line, or a
block that is not closed yet; at the end of the text, that the last line or a block is left open.
Past the end there are no comments. -/
theorem covers_detect_iff (s : Source) (o : Nat) :
    (detect s).covers o = true ↔
      (o < byteLen s ∧ ∃ start ≤ o, s.OpensLineAt start ∧
        ∀ k, start ≤ k → k ≤ o → s.charAt? k ≠ some '\n') ∨
      (o < byteLen s ∧ (readBlocks false s).marks[o]? = some true) ∨
      (o = byteLen s ∧ (s.OpensLastLine ∨ (readBlocks false s).isOpen = true)) := by
  have hline : (∃ c ∈ lineCommentsFrom 0 s, c.contains o = true) ↔ InLineComment s o := by
    simpa using contains_lineCommentsFrom_iff 0 s o
  have hblock : (∃ c ∈ (blockCommentsFrom 0 s).1, c.contains o = true) ↔
      o < byteLen s ∧ (readBlocks false s).marks[o]? = some true := by
    have hmarks := contains_blockCommentsFrom_iff 0 s o
    rw [Nat.zero_add] at hmarks
    refine hmarks.trans (and_iff_right_of_imp fun hmark => ?_).symm
    rw [← length_marks_readBlocks false s]
    exact (List.getElem?_eq_some_iff.1 hmark).1
  have hends : s.endsInComment = true ↔ s.OpensLastLine ∨ (readBlocks false s).isOpen = true := by
    have hopen := lineCommentsFrom_open_iff 0 s
    rw [Nat.zero_add] at hopen
    rw [endsInComment, Bool.or_eq_true, hopen, blockCommentsFrom_open, opensLastLine_iff]
  rw [covers_detect, inComment]
  simp only [Bool.or_eq_true, Bool.and_eq_true, List.any_eq_true, beq_iff_eq, hline, hblock, hends]
  rw [or_assoc, and_comm (a := s.OpensLastLine ∨ _)]
  rfl

-- The slash that closes the block opens a line comment together with the next one.
example : (List.range 9).map (detect "/**// y\nz".toList).covers =
    [true, true, true, true, true, true, true, false, false] := by
  cbv

end CommentIndex

end PatternLint
