import PatternLint.Proofs.Text.Reading

/-! The spans of the comment table as stretches of the text.
Both scans find spans that begin with the opener of their kind and end between two characters.  Two
such spans still make one when they are joined, because the joined span keeps the opener of the
first and ends where one of the two ends; so merging keeps this, as it keeps the offsets covered. -/

namespace PatternLint

def CommentKind.opener : CommentKind → Source
  | .line => ['/', '/']
  | .block => ['/', '*']

@[simp]
theorem CommentKind.byteLen_opener (k : CommentKind) : Source.byteLen k.opener = 2 := by
  cases k <;> rfl

namespace CommentSpan

open Source

/-- The span is a stretch of the text that begins with the opener of its kind. -/
def StandsIn (s : Source) (c : CommentSpan) : Prop :=
  ∃ before body after, s = before ++ (c.kind.opener ++ body) ++ after ∧
    c.start = byteLen before ∧ c.stop = byteLen (before ++ (c.kind.opener ++ body))

variable {s : Source} {a b c : CommentSpan}

theorem StandsIn.join (ha : a.StandsIn s) (hb : b.StandsIn s) :
    StandsIn s { a with stop := max a.stop b.stop } := by
  obtain ⟨before, body, after, hs, hstart, hstop⟩ := ha
  obtain ⟨before', body', after', hs', -, hstop'⟩ := hb
  rcases Nat.le_total b.stop a.stop with hle | hle
  · exact ⟨before, body, after, hs, hstart, by rw [← hstop]; exact Nat.max_eq_left hle⟩
  · -- What is between the two ends goes into the body.
    obtain ⟨more, hmore, -⟩ := exists_append_of_byteLen_le (hs.symm.trans hs')
      (by rw [← hstop, ← hstop']; exact hle)
    have hfront : before ++ (a.kind.opener ++ (body ++ more)) =
        before' ++ (b.kind.opener ++ body') := by
      rw [hmore]
      simp only [List.append_assoc]
    refine ⟨before, body ++ more, after', ?_, hstart, ?_⟩
    · rw [hfront]
      exact hs'
    · rw [hfront, ← hstop']
      exact Nat.max_eq_right hle

theorem StandsIn.start_lt (h : c.StandsIn s) : c.start < c.stop := by
  obtain ⟨before, body, after, -, hstart, hstop⟩ := h
  rw [hstart, hstop, byteLen_append, byteLen_append, c.kind.byteLen_opener]
  omega

theorem StandsIn.isBoundary (h : c.StandsIn s) : s.IsBoundary c.start ∧ s.IsBoundary c.stop := by
  obtain ⟨before, body, after, hs, hstart, hstop⟩ := h
  rw [isBoundary_iff, isBoundary_iff]
  refine ⟨⟨before, c.kind.opener ++ body ++ after, ?_, hstart.symm⟩, _, after, hs, hstop.symm⟩
  rw [hs, List.append_assoc]

theorem StandsIn.exists_slice? (h : c.StandsIn s) :
    ∃ text, s.slice? c.start c.stop = some text ∧ c.kind.opener <+: text := by
  obtain ⟨before, body, after, hs, hstart, hstop⟩ := h
  refine ⟨c.kind.opener ++ body, ?_, List.prefix_append _ _⟩
  rw [hs, hstart, hstop, List.append_assoc, byteLen_append, slice?_append]

theorem countP_contains_le_one {spans : List CommentSpan}
    (hapart : spans.Pairwise fun a b => a.stop ≤ b.start) (o : Nat) :
    spans.countP (fun c => c.contains o) ≤ 1 := by
  induction spans with
  | nil => exact Nat.zero_le 1
  | cons s spans ih =>
    obtain ⟨hs, hspans⟩ := List.pairwise_cons.1 hapart
    rw [List.countP_cons]
    split
    · rename_i hin
      have hnone : spans.countP (fun c => c.contains o) = 0 := by
        rw [List.countP_eq_zero]
        intro c hc
        have hle := hs c hc
        rw [contains_iff] at hin ⊢
        omega
      omega
    · exact ih hspans

end CommentSpan

namespace Source

open CommentSpan

theorem standsIn_lineCommentsFrom (o : Nat) (s : Source) :
    ∀ front, byteLen front = o → ∀ c ∈ lineCommentsFrom o s, c.StandsIn (front ++ s) := by
  have hslash : '/'.utf8Size = 1 := rfl
  fun_induction lineCommentsFrom o s with
  | case1 o s stop ih =>
    intro front ho
    have hrest := ih (front ++ ('/' :: '/' :: s.takeWhile (· ≠ '\n'))) (by
      simp only [byteLen_append, byteLen_cons, hslash, ho, stop]
      omega)
    have htext : front ++ '/' :: '/' :: s =
        front ++ ('/' :: '/' :: s.takeWhile (· ≠ '\n')) ++ s.dropWhile (· ≠ '\n') := by
      rw [slashes_append, List.append_assoc]
    rw [htext]
    refine List.forall_mem_cons.2 ⟨⟨front, s.takeWhile (· ≠ '\n'), _, rfl, ho.symm, ?_⟩, hrest⟩
    simp only [byteLen_append, CommentKind.byteLen_opener, ho, stop]
    omega
  | case2 o c s _ ih =>
    intro front ho
    have hrest := ih (front ++ [c]) (by simp [ho])
    rwa [List.append_assoc, List.singleton_append] at hrest
  | case3 o => simp

theorem standsIn_blockCommentsFrom (o : Nat) (s : Source) :
    ∀ front, byteLen front = o → ∀ c ∈ (blockCommentsFrom o s).1, c.StandsIn (front ++ s) := by
  have hslash : '/'.utf8Size = 1 := rfl
  have hstar : '*'.utf8Size = 1 := rfl
  fun_induction blockCommentsFrom o s with
  | case1 o s body rest hclose _ stop spans isOpen hrec ih =>
    intro front ho
    rw [hrec] at ih
    have hrest := ih (front ++ ('/' :: '*' :: (body ++ ['*', '/']))) (by
      simp only [byteLen_append, byteLen_cons, byteLen_nil, hslash, hstar, ho, stop]
      omega)
    have htext : front ++ '/' :: '*' :: s =
        front ++ ('/' :: '*' :: (body ++ ['*', '/'])) ++ rest := by
      rw [eq_append_of_splitAtClose? hclose]
      simp
    rw [htext]
    refine List.forall_mem_cons.2 ⟨⟨front, body ++ ['*', '/'], rest, rfl, ho.symm, ?_⟩, hrest⟩
    simp only [byteLen_append, CommentKind.byteLen_opener, byteLen_cons, byteLen_nil, hslash, hstar,
      ho, stop]
    omega
  | case2 o s hclose =>
    intro front ho
    refine List.forall_mem_singleton.2 ⟨front, s, [], ?_, ho.symm, ?_⟩
    · rw [List.append_nil]
      rfl
    · simp only [byteLen_append, CommentKind.byteLen_opener, ho]
      omega
  | case3 o c s _ ih =>
    intro front ho
    have hrest := ih (front ++ [c]) (by simp [ho])
    rwa [List.append_assoc, List.singleton_append] at hrest
  | case4 o => simp

theorem endsInComment_iff (s : Source) :
    s.endsInComment = true ↔ s.OpensLastLine ∨ (readBlocks false s).isOpen = true := by
  have hline := lineCommentsFrom_open_iff 0 s
  rw [Nat.zero_add] at hline
  rw [endsInComment, Bool.or_eq_true, hline, blockCommentsFrom_open, opensLastLine_iff]

end Source

namespace CommentIndex

open Source CommentSpan

theorem standsIn_scans (s : Source) :
    ∀ c ∈ s.lineCommentsFrom 0 ++ (s.blockCommentsFrom 0).1, c.StandsIn s :=
  List.forall_mem_append.2
    ⟨standsIn_lineCommentsFrom 0 s [] rfl, standsIn_blockCommentsFrom 0 s [] rfl⟩

/-- Every span of the comment table is a stretch of the text between two characters and begins
with the opener of its kind.  The spans stand apart in order, so no offset is in two of them, and
together they cover what the two scans cover.  The table knows when the last line holds `//` or a
block is not closed, and its last span then ends with the text. -/
theorem detect_wellFormed (s : Source) :
    let ix := detect s
    (∀ c ∈ ix.spans, c.start < c.stop ∧ c.stop ≤ byteLen s ∧ s.IsBoundary c.start ∧
      s.IsBoundary c.stop ∧ ∃ text, s.slice? c.start c.stop = some text ∧ c.kind.opener <+: text) ∧
    (ix.spans.toList.Pairwise fun c d => c.stop ≤ d.start) ∧
    (∀ o, ix.spans.toList.countP (fun c => c.contains o) ≤ 1) ∧
    (∀ o, (∃ c ∈ ix.spans, c.contains o = true) ↔
      (∃ c ∈ s.lineCommentsFrom 0, c.contains o = true) ∨
        ∃ c ∈ (s.blockCommentsFrom 0).1, c.contains o = true) ∧
    (ix.openAtEnd = true ↔ s.OpensLastLine ∨ (readBlocks false s).isOpen = true) ∧
    (ix.openAtEnd = true → ∃ c, ix.spans.back? = some c ∧ c.stop = byteLen s) := by
  intro ix
  have hspans : ix.spans = (coalesce ((s.lineCommentsFrom 0 ++
      (s.blockCommentsFrom 0).1).mergeSort precedes)).toArray := rfl
  have hopen : ix.openAtEnd = s.endsInComment := rfl
  have hraw := within_scans s
  have hapart := pairwise_coalesce hraw
  rw [hopen, hspans]
  refine ⟨fun c hc => ?_, hapart, countP_contains_le_one hapart, fun o => ?_,
    endsInComment_iff s, fun hends => ?_⟩
  · have hstands := forall_mem_coalesce (fun _ _ => StandsIn.join) (standsIn_scans s) c
      (List.mem_toArray.1 hc)
    obtain ⟨hstart, hstop⟩ := hstands.isBoundary
    exact ⟨hstands.start_lt, hstop.le_byteLen, hstart, hstop, hstands.exists_slice?⟩
  · have hunion := any_contains_coalesce (s.lineCommentsFrom 0 ++ (s.blockCommentsFrom 0).1) o
    rw [Bool.eq_iff_iff, List.any_append, Bool.or_eq_true, List.any_eq_true, List.any_eq_true,
      List.any_eq_true] at hunion
    simpa only [List.mem_toArray] using hunion
  · rw [List.back?_toArray]
    exact getLast?_coalesce hraw (exists_stop_of_endsInComment hends)

/-- A block that begins in a line comment and ends on the next line, before a block that is left
open: the line comment reaches to the end of the first block and keeps its kind. -/
theorem detect_wellFormed_overlap :
    let s : Source := "x // é /* y\nz */ /* w".toList
    detect s = ⟨#[⟨2, 17, .line⟩, ⟨18, 22, .block⟩], true⟩ ∧
      (∃ text, s.slice? 2 17 = some text ∧ CommentKind.line.opener <+: text) ∧
      ∃ c, (detect s).spans.back? = some c ∧ c.stop = byteLen s := by
  have hline : lineCommentsFrom 0 "x // é /* y\nz */ /* w".toList = [⟨2, 12, .line⟩] := by
    decide +kernel
  have hblock : blockCommentsFrom 0 "x // é /* y\nz */ /* w".toList =
      ([⟨8, 17, .block⟩, ⟨18, 22, .block⟩], true) := by decide +kernel
  have hordered : List.mergeSort ([⟨2, 12, .line⟩] ++ [⟨8, 17, .block⟩, ⟨18, 22, .block⟩])
      precedes = [⟨2, 12, .line⟩, ⟨8, 17, .block⟩, ⟨18, 22, .block⟩] :=
    List.mergeSort_of_pairwise (by decide)
  have hdetect : detect "x // é /* y\nz */ /* w".toList =
      ⟨#[⟨2, 17, .line⟩, ⟨18, 22, .block⟩], true⟩ := by
    rw [detect, hline, hblock]
    simp only [hordered]
    decide
  intro s
  obtain ⟨hstands, -, -, -, -, hlast⟩ := detect_wellFormed s
  have hfirst := hstands ⟨2, 17, .line⟩ (by rw [hdetect]; simp)
  exact ⟨hdetect, hfirst.2.2.2.2, hlast (by rw [hdetect])⟩

end CommentIndex

end PatternLint
