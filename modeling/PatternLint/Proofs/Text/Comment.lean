import PatternLint.Proofs.Text.Offset
import PatternLint.Text.Comment

/-! The merged comment table against the two scans it is made from.
`Source.inComment` asks the scans themselves, span by span.  Ordering and merging keep the offsets
covered, merged spans stand apart, and an open comment makes the last of them end with the text;
so the table, searched by halving, gives the same answer at every offset. -/

namespace PatternLint

namespace Source

/-- Whether the last comment of either scan is left open at the end of the text. -/
def endsInComment (s : Source) : Bool :=
  (s.lineCommentsFrom 0).getLast?.any (fun c => c.stop == s.byteLen) || (s.blockCommentsFrom 0).2

/-- Whether an offset is in a comment, asked of the scans as they come. -/
def inComment (s : Source) (offset : Nat) : Bool :=
  (s.lineCommentsFrom 0).any (fun c => c.contains offset) ||
    (s.blockCommentsFrom 0).1.any (fun c => c.contains offset) ||
    (s.endsInComment && offset == s.byteLen)

end Source

namespace CommentSpan

structure Within (lo hi : Nat) (c : CommentSpan) : Prop where
  le_start : lo ≤ c.start
  start_lt : c.start < c.stop
  stop_le : c.stop ≤ hi

theorem Within.mono {lo lo' hi hi' : Nat} {c : CommentSpan} (h : c.Within lo hi) (hlo : lo' ≤ lo)
    (hhi : hi ≤ hi') : c.Within lo' hi' :=
  ⟨Nat.le_trans hlo h.le_start, h.start_lt, Nat.le_trans h.stop_le hhi⟩

@[simp]
theorem contains_iff {c : CommentSpan} {offset : Nat} :
    c.contains offset = true ↔ c.start ≤ offset ∧ offset < c.stop := by
  simp [contains]

theorem precedes_iff {a b : CommentSpan} :
    precedes a b = true ↔ a.start < b.start ∨ a.start = b.start ∧ a.stop ≤ b.stop := by
  simp [precedes]

theorem precedes_trans (a b c : CommentSpan) (hab : precedes a b = true)
    (hbc : precedes b c = true) : precedes a c = true := by
  rw [precedes_iff] at *
  omega

@[simp]
theorem precedes_total (a b : CommentSpan) : (precedes a b || precedes b a) = true := by
  rw [Bool.or_eq_true_iff, precedes_iff, precedes_iff]
  omega

theorem forall_mem_coalesceFrom {P : CommentSpan → Prop}
    (hjoin : ∀ a b, P a → P b → P { a with stop := max a.stop b.stop }) {current : CommentSpan}
    {rest : List CommentSpan} (hcurrent : P current) (hrest : ∀ c ∈ rest, P c) :
    ∀ c ∈ coalesceFrom current rest, P c := by
  induction rest generalizing current with
  | nil => simpa [coalesceFrom] using hcurrent
  | cons s rest ih =>
    obtain ⟨hs, hrest⟩ := List.forall_mem_cons.1 hrest
    rw [coalesceFrom]
    split
    · exact ih (hjoin current s hcurrent hs) hrest
    · exact List.forall_mem_cons.2 ⟨hcurrent, ih hs hrest⟩

theorem Within.join {lo hi : Nat} {a b : CommentSpan} (ha : a.Within lo hi) (hb : b.Within lo hi) :
    Within lo hi { a with stop := max a.stop b.stop } :=
  ⟨ha.le_start, Nat.lt_of_lt_of_le ha.start_lt (Nat.le_max_left _ _),
    Nat.max_le.2 ⟨ha.stop_le, hb.stop_le⟩⟩

theorem pairwise_coalesceFrom {hi : Nat} {current : CommentSpan} {rest : List CommentSpan}
    (hrest : ∀ c ∈ rest, c.Within 0 hi)
    (hsorted : (current :: rest).Pairwise fun a b => a.start ≤ b.start) :
    (coalesceFrom current rest).Pairwise fun a b => a.stop ≤ b.start := by
  induction rest generalizing current with
  | nil => simp [coalesceFrom]
  | cons s rest ih =>
    obtain ⟨hcurrent, hs⟩ := List.pairwise_cons.1 hsorted
    obtain ⟨hswithin, hrest⟩ := List.forall_mem_cons.1 hrest
    rw [coalesceFrom]
    split
    · refine ih hrest (List.pairwise_cons.2 ⟨fun c hc => ?_, (List.pairwise_cons.1 hs).2⟩)
      exact hcurrent c (List.mem_cons_of_mem _ hc)
    · rename_i hge
      refine List.pairwise_cons.2 ⟨fun c hc => ?_, ih hrest hs⟩
      have hfrom : ∀ c ∈ rest, c.Within s.start hi := fun c hc =>
        ⟨(List.pairwise_cons.1 hs).1 c hc, (hrest c hc).start_lt, (hrest c hc).stop_le⟩
      have hc := forall_mem_coalesceFrom (fun _ _ => Within.join)
        ⟨Nat.le_refl _, hswithin.start_lt, hswithin.stop_le⟩ hfrom c hc
      exact Nat.le_trans (Nat.le_of_not_lt hge) hc.le_start

theorem any_contains_coalesceFrom {current : CommentSpan} {rest : List CommentSpan}
    (hsorted : (current :: rest).Pairwise fun a b => a.start ≤ b.start) (offset : Nat) :
    (coalesceFrom current rest).any (fun c => c.contains offset) =
      (current :: rest).any (fun c => c.contains offset) := by
  induction rest generalizing current with
  | nil => rfl
  | cons s rest ih =>
    obtain ⟨hcurrent, hs⟩ := List.pairwise_cons.1 hsorted
    rw [coalesceFrom]
    split
    · rename_i hlt
      have hle := hcurrent s List.mem_cons_self
      have hjoin : contains { current with stop := max current.stop s.stop } offset =
          (current.contains offset || s.contains offset) := by
        rw [Bool.eq_iff_iff, Bool.or_eq_true_iff, contains_iff, contains_iff, contains_iff]
        simp only
        omega
      have hjoined : ({ current with stop := max current.stop s.stop } :: rest).Pairwise
          fun a b => a.start ≤ b.start :=
        List.pairwise_cons.2 ⟨fun c hc => hcurrent c (List.mem_cons_of_mem _ hc),
          (List.pairwise_cons.1 hs).2⟩
      rw [ih hjoined, List.any_cons, hjoin, List.any_cons, List.any_cons, Bool.or_assoc]
    · rw [List.any_cons, ih hs]
      rfl

theorem exists_division {spans : List CommentSpan}
    (hapart : spans.Pairwise fun a b => a.stop ≤ b.start)
    (hne : ∀ c ∈ spans, c.start < c.stop) (offset : Nat) :
    ∃ front back, spans = front ++ back ∧ (∀ c ∈ front, c.stop ≤ offset) ∧
      ∀ c ∈ back, offset < c.stop := by
  induction spans with
  | nil => exact ⟨[], [], rfl, by simp, by simp⟩
  | cons s spans ih =>
    obtain ⟨hs, hapart⟩ := List.pairwise_cons.1 hapart
    obtain ⟨hsne, hne⟩ := List.forall_mem_cons.1 hne
    by_cases hstop : s.stop ≤ offset
    · obtain ⟨front, back, rfl, hfront, hback⟩ := ih hapart hne
      exact ⟨s :: front, back, rfl, List.forall_mem_cons.2 ⟨hstop, hfront⟩, hback⟩
    · refine ⟨[], s :: spans, rfl, by simp, List.forall_mem_cons.2 ⟨by omega, fun c hc => ?_⟩⟩
      have h1 := hs c hc
      have h2 := hne c hc
      omega

theorem any_contains_at_partitionPoint {spans : List CommentSpan}
    (hapart : spans.Pairwise fun a b => a.stop ≤ b.start)
    (hne : ∀ c ∈ spans, c.start < c.stop) (offset : Nat) :
    (spans.toArray[partitionPoint (fun c : CommentSpan => decide (c.stop ≤ offset))
        spans.toArray]?).any (fun c => c.contains offset) =
      spans.any (fun c => c.contains offset) := by
  obtain ⟨front, back, rfl, hfront, hback⟩ := exists_division hapart hne offset
  rw [partitionPoint_append (by simpa using hfront) (by simpa using hback), List.any_append]
  have hnone : front.any (fun c => c.contains offset) = false := by
    rw [List.any_eq_false]
    intro c hc
    have hstop := hfront c hc
    rw [contains_iff]
    omega
  rw [hnone, Bool.false_or, List.getElem?_toArray, List.getElem?_append_right (Nat.le_refl _),
    Nat.sub_self]
  cases back with
  | nil => rfl
  | cons s back =>
    have hrest : back.any (fun c => c.contains offset) = false := by
      rw [List.any_eq_false]
      intro c hc
      have hs := (List.pairwise_cons.1 (List.pairwise_append.1 hapart).2.1).1 c hc
      have hstop := hback s List.mem_cons_self
      rw [contains_iff]
      omega
    simp [hrest]

end CommentSpan

namespace Source

open CommentSpan

theorem byteLen_takeWhile_add_dropWhile (p : Char → Bool) (s : Source) :
    byteLen (s.takeWhile p) + byteLen (s.dropWhile p) = byteLen s := by
  rw [← byteLen_append, List.takeWhile_append_dropWhile]

theorem eq_append_of_splitAtClose? {s body rest : Source}
    (h : splitAtClose? s = some (body, rest)) : s = body ++ '*' :: '/' :: rest := by
  fun_induction splitAtClose? s generalizing body rest with
  | case1 s =>
    simp only [Option.some.injEq, Prod.mk.injEq] at h
    obtain ⟨rfl, rfl⟩ := h
    rfl
  | case2 c s _ ih =>
    obtain ⟨⟨b, r⟩, hbr, heq⟩ := Option.map_eq_some_iff.1 h
    simp only [Prod.mk.injEq] at heq
    obtain ⟨rfl, rfl⟩ := heq
    rw [ih hbr, List.cons_append]
  | case3 => simp at h

theorem byteLen_of_splitAtClose? {s body rest : Source}
    (h : splitAtClose? s = some (body, rest)) : byteLen body + 2 + byteLen rest = byteLen s := by
  have hstar : '*'.utf8Size = 1 := rfl
  have hslash : '/'.utf8Size = 1 := rfl
  rw [eq_append_of_splitAtClose? h, byteLen_append, byteLen_cons, byteLen_cons, hstar, hslash]
  omega

theorem within_lineCommentsFrom (o : Nat) (s : Source) :
    ∀ c ∈ lineCommentsFrom o s, c.Within o (o + byteLen s) := by
  have hslash : '/'.utf8Size = 1 := rfl
  fun_induction lineCommentsFrom o s with
  | case1 o s stop ih =>
    have hlen := byteLen_takeWhile_add_dropWhile (· ≠ '\n') s
    simp only [byteLen_cons, hslash]
    refine List.forall_mem_cons.2 ⟨⟨Nat.le_refl o, ?_, ?_⟩, fun c hc => (ih c hc).mono ?_ ?_⟩
    all_goals simp only [stop]
    all_goals omega
  | case2 o c s _ ih =>
    intro d hd
    refine (ih d hd).mono (Nat.le_add_right _ _) ?_
    rw [byteLen_cons]
    omega
  | case3 o => simp

theorem within_blockCommentsFrom (o : Nat) (s : Source) :
    ∀ c ∈ (blockCommentsFrom o s).1, c.Within o (o + byteLen s) := by
  have hslash : '/'.utf8Size = 1 := rfl
  have hstar : '*'.utf8Size = 1 := rfl
  fun_induction blockCommentsFrom o s with
  | case1 o s body rest h _ stop spans isOpen hrec ih =>
    have hlen := byteLen_of_splitAtClose? h
    rw [hrec] at ih
    simp only [byteLen_cons, hslash, hstar]
    refine List.forall_mem_cons.2 ⟨⟨Nat.le_refl o, ?_, ?_⟩, fun c hc => (ih c hc).mono ?_ ?_⟩
    all_goals simp only [stop]
    all_goals omega
  | case2 o s h =>
    simp only [byteLen_cons, hslash, hstar, List.mem_singleton, forall_eq]
    exact ⟨Nat.le_refl o, by simp only; omega, by simp only; omega⟩
  | case3 o c s _ ih =>
    intro d hd
    refine (ih d hd).mono (Nat.le_add_right _ _) ?_
    rw [byteLen_cons]
    omega
  | case4 o => simp

theorem exists_stop_of_blockOpen {o : Nat} {s : Source} (h : (blockCommentsFrom o s).2 = true) :
    ∃ c ∈ (blockCommentsFrom o s).1, c.stop = o + byteLen s := by
  have hslash : '/'.utf8Size = 1 := rfl
  have hstar : '*'.utf8Size = 1 := rfl
  fun_induction blockCommentsFrom o s with
  | case1 o s body rest hclose _ stop spans isOpen hrec ih =>
    have hlen := byteLen_of_splitAtClose? hclose
    rw [hrec] at ih
    obtain ⟨c, hc, hstop⟩ := ih h
    refine ⟨c, List.mem_cons_of_mem _ hc, ?_⟩
    simp only [byteLen_cons, hslash, hstar, hstop, stop]
    omega
  | case2 o s hclose =>
    refine ⟨_, List.mem_singleton_self _, ?_⟩
    simp only [byteLen_cons, hslash, hstar]
    omega
  | case3 o c s _ ih =>
    obtain ⟨d, hd, hstop⟩ := ih h
    refine ⟨d, hd, ?_⟩
    rw [hstop, byteLen_cons, Nat.add_assoc]
  | case4 o => simp at h

end Source

namespace CommentSpan

variable {raw : List CommentSpan}

theorem pairwise_start_mergeSort (raw : List CommentSpan) :
    (raw.mergeSort precedes).Pairwise fun a b => a.start ≤ b.start := by
  have hsorted := List.pairwise_mergeSort precedes_trans precedes_total raw
  refine hsorted.imp fun h => ?_
  rw [precedes_iff] at h
  omega

theorem forall_mem_coalesce {P : CommentSpan → Prop}
    (hjoin : ∀ a b, P a → P b → P { a with stop := max a.stop b.stop }) (hraw : ∀ c ∈ raw, P c) :
    ∀ c ∈ coalesce (raw.mergeSort precedes), P c := by
  have hall : ∀ c ∈ raw.mergeSort precedes, P c := fun c hc => hraw c (List.mem_mergeSort.1 hc)
  cases h : raw.mergeSort precedes with
  | nil => simp [coalesce]
  | cons s rest =>
    rw [h, List.forall_mem_cons] at hall
    exact forall_mem_coalesceFrom hjoin hall.1 hall.2

theorem within_coalesce {hi : Nat} (hraw : ∀ c ∈ raw, c.Within 0 hi) :
    ∀ c ∈ coalesce (raw.mergeSort precedes), c.Within 0 hi :=
  forall_mem_coalesce (fun _ _ => Within.join) hraw

theorem pairwise_coalesce {hi : Nat} (hraw : ∀ c ∈ raw, c.Within 0 hi) :
    (coalesce (raw.mergeSort precedes)).Pairwise fun a b => a.stop ≤ b.start := by
  have hall : ∀ c ∈ raw.mergeSort precedes, c.Within 0 hi := fun c hc =>
    hraw c (List.mem_mergeSort.1 hc)
  have hsorted := pairwise_start_mergeSort raw
  cases h : raw.mergeSort precedes with
  | nil => simp [coalesce]
  | cons s rest =>
    rw [h] at hsorted
    rw [h, List.forall_mem_cons] at hall
    exact pairwise_coalesceFrom hall.2 hsorted

theorem any_contains_coalesce (raw : List CommentSpan) (offset : Nat) :
    (coalesce (raw.mergeSort precedes)).any (fun c => c.contains offset) =
      raw.any (fun c => c.contains offset) := by
  have hperm : (raw.mergeSort precedes).any (fun c => c.contains offset) =
      raw.any (fun c => c.contains offset) := by
    rw [Bool.eq_iff_iff, List.any_eq_true, List.any_eq_true]
    simp only [List.mem_mergeSort]
  rw [← hperm]
  have hsorted := pairwise_start_mergeSort raw
  cases h : raw.mergeSort precedes with
  | nil => rfl
  | cons s rest =>
    rw [h] at hsorted
    exact any_contains_coalesceFrom hsorted offset

theorem getLast?_coalesce {hi : Nat} (hraw : ∀ c ∈ raw, c.Within 0 hi)
    (hreach : ∃ c ∈ raw, c.stop = hi) :
    ∃ c, (coalesce (raw.mergeSort precedes)).getLast? = some c ∧ c.stop = hi := by
  have hwithin := within_coalesce hraw
  have hapart := pairwise_coalesce hraw
  -- The byte before the bound is covered, hence by a merged span that ends at the bound.
  have hcover : (coalesce (raw.mergeSort precedes)).any (fun c => c.contains (hi - 1)) = true := by
    obtain ⟨c, hc, hstop⟩ := hreach
    have hlt := (hraw c hc).start_lt
    rw [any_contains_coalesce, List.any_eq_true]
    refine ⟨c, hc, ?_⟩
    rw [contains_iff]
    omega
  obtain ⟨d, hd, hcontains⟩ := List.any_eq_true.1 hcover
  have hdstop : hi ≤ d.stop := by
    have hlt := (hwithin d hd).start_lt
    rw [contains_iff] at hcontains
    omega
  generalize coalesce (raw.mergeSort precedes) = merged at *
  rcases List.eq_nil_or_concat merged with rfl | ⟨init, last, rfl⟩
  · simp at hd
  · rw [List.concat_eq_append] at *
    refine ⟨last, by simp, ?_⟩
    have hlast := hwithin last (by simp)
    rcases List.mem_append.1 hd with hd | hd
    · -- A span before the last one would leave no room for it.
      have hsep := (List.pairwise_append.1 hapart).2.2 d hd last (by simp)
      have h1 := hlast.start_lt
      have h2 := hlast.stop_le
      omega
    · rw [List.mem_singleton] at hd
      subst hd
      exact Nat.le_antisymm hlast.stop_le hdstop

end CommentSpan

namespace CommentIndex

open Source CommentSpan

theorem within_scans (s : Source) :
    ∀ c ∈ s.lineCommentsFrom 0 ++ (s.blockCommentsFrom 0).1, c.Within 0 s.byteLen := by
  intro c hc
  rcases List.mem_append.1 hc with hc | hc
  · simpa using within_lineCommentsFrom 0 s c hc
  · simpa using within_blockCommentsFrom 0 s c hc

theorem exists_stop_of_endsInComment {s : Source} (h : s.endsInComment = true) :
    ∃ c ∈ s.lineCommentsFrom 0 ++ (s.blockCommentsFrom 0).1, c.stop = s.byteLen := by
  rcases Bool.or_eq_true_iff.1 h with h | h
  · obtain ⟨c, hc, hstop⟩ := (Option.any_eq_true _ _).1 h
    exact ⟨c, List.mem_append_left _ (List.mem_of_getLast? hc), by simpa using hstop⟩
  · obtain ⟨c, hc, hstop⟩ := exists_stop_of_blockOpen h
    exact ⟨c, List.mem_append_right _ hc, by simpa using hstop⟩

@[simp]
theorem covers_detect (s : Source) (offset : Nat) :
    (detect s).covers offset = s.inComment offset := by
  have hraw := within_scans s
  have hspan := any_contains_at_partitionPoint (pairwise_coalesce hraw)
    (fun c hc => (within_coalesce hraw c hc).start_lt) offset
  rw [any_contains_coalesce, List.any_append] at hspan
  have hopen : (s.endsInComment &&
      (coalesce ((s.lineCommentsFrom 0 ++ (s.blockCommentsFrom 0).1).mergeSort
        precedes)).getLast?.any (fun c => c.stop == offset)) =
      (s.endsInComment && offset == s.byteLen) := by
    cases he : s.endsInComment with
    | false => rfl
    | true =>
      obtain ⟨c, hlast, hstop⟩ := getLast?_coalesce hraw (exists_stop_of_endsInComment he)
      rw [hlast, Option.any_some, hstop, Bool.beq_comm]
  rw [inComment, ← hspan, ← hopen, ← List.back?_toArray]
  rfl

end CommentIndex

end PatternLint
