import Mathlib.Data.List.Basic
import PatternLint.Match
import PatternLint.Proofs.Except

/-! Where the matches of a repeated search lie.
A search that never looks back finds its matches from left to right: each begins after the one
before it began and not before that one ended, and an empty match is never found twice.  In bytes
the matches lie in the same order, because every character takes some. -/

namespace PatternLint

namespace Source

theorem byteLen_take_le_byteLen (s : Source) (n : Nat) : byteLen (s.take n) ≤ byteLen s := by
  conv_rhs => rw [← List.take_append_drop n s]
  rw [byteLen_append]
  exact Nat.le_add_right _ _

theorem byteLen_take_le_byteLen_take (s : Source) {i j : Nat} (h : i ≤ j) :
    byteLen (s.take i) ≤ byteLen (s.take j) := by
  rw [← Nat.min_eq_left h, ← List.take_take]
  exact byteLen_take_le_byteLen _ _

theorem byteLen_take_lt_byteLen_take {s : Source} {i j : Nat} (h : i < j) (hj : j ≤ s.length) :
    byteLen (s.take i) < byteLen (s.take j) := by
  have hi : i < s.length := Nat.lt_of_lt_of_le h hj
  calc byteLen (s.take i) < byteLen (s.take (i + 1)) := by
        rw [List.take_succ_eq_append_getElem hi, byteLen_append]
        have := s[i].utf8Size_pos
        simpa using this
    _ ≤ byteLen (s.take j) := byteLen_take_le_byteLen_take s h

end Source

namespace Pattern

open Source

/-- A hit in a text of `size` characters, found from `pos` on. -/
structure Hit.Within (h : Hit) (pos size : Nat) : Prop where
  after : pos ≤ h.start
  ordered : h.start ≤ h.stop
  inside : h.stop ≤ size

instance (h : Hit) (pos size : Nat) : Decidable (h.Within pos size) :=
  decidable_of_iff (pos ≤ h.start ∧ h.start ≤ h.stop ∧ h.stop ≤ size)
    ⟨fun ⟨after, ordered, inside⟩ => ⟨after, ordered, inside⟩,
      fun h => ⟨h.after, h.ordered, h.inside⟩⟩

/-- One hit ends before another begins, and does not begin with it either. -/
def Hit.Precedes (a b : Hit) : Prop := a.start < b.start ∧ a.stop ≤ b.start

theorem Hit.Within.mono {h : Hit} {pos pos' size : Nat} (hh : h.Within pos' size)
    (hle : pos ≤ pos') : h.Within pos size :=
  ⟨Nat.le_trans hle hh.after, hh.ordered, hh.inside⟩

theorem Hit.Within.lt_resume {h : Hit} {pos size : Nat} (hh : h.Within pos size) :
    pos < h.resume := by
  have hafter := hh.after
  have hordered := hh.ordered
  rw [resume]
  split <;> omega

theorem Hit.precedes_of_resume_le {a b : Hit} (ha : a.start ≤ a.stop) (h : a.resume ≤ b.start) :
    a.Precedes b := by
  rw [resume] at h
  rw [Precedes]
  split at h <;> omega

section Collect

variable {ε : Type} {search : Nat → Except ε (Option Hit)} {endless : ε} {size turns pos : Nat}
  {hits : List Hit}

theorem within_of_collect
    (hsearch : ∀ pos ≤ size, ∀ hit, search pos = .ok (some hit) → hit.Within pos size)
    (h : collect search endless size turns pos = .ok hits) :
    ∀ hit ∈ hits, hit.Within pos size := by
  fun_induction collect search endless size turns pos generalizing hits with
  | case1 pos => cases h
  | case2 turns pos hpos e he => cases h
  | case3 turns pos hpos hnone =>
    cases h
    exact List.forall_mem_nil _
  | case4 turns pos hpos hit hhit ih =>
    obtain ⟨rest, hrest, rfl⟩ := exists_of_map_eq_ok h
    have hwithin := hsearch pos hpos hit hhit
    exact List.forall_mem_cons.2 ⟨hwithin,
      fun next hnext => (ih hrest next hnext).mono (Nat.le_of_lt hwithin.lt_resume)⟩
  | case5 turns pos hpos =>
    cases h
    exact List.forall_mem_nil _

theorem pairwise_precedes_of_collect
    (hsearch : ∀ pos ≤ size, ∀ hit, search pos = .ok (some hit) → hit.Within pos size)
    (h : collect search endless size turns pos = .ok hits) : hits.Pairwise Hit.Precedes := by
  fun_induction collect search endless size turns pos generalizing hits with
  | case1 pos => cases h
  | case2 turns pos hpos e he => cases h
  | case3 turns pos hpos hnone =>
    cases h
    exact .nil
  | case4 turns pos hpos hit hhit ih =>
    obtain ⟨rest, hrest, rfl⟩ := exists_of_map_eq_ok h
    refine .cons (fun next hnext => ?_) (ih hrest)
    -- The later hits were found from where this one resumes.
    have hafter := (within_of_collect hsearch hrest next hnext).after
    exact Hit.precedes_of_resume_le (hsearch pos hpos hit hhit).ordered hafter
  | case5 turns pos hpos =>
    cases h
    exact .nil

end Collect

theorem getElem?_offsetsFrom (o : Nat) {s : Source} {i : Nat} (hi : i ≤ s.length) :
    (offsetsFrom o s)[i]? = some (o + byteLen (s.take i)) := by
  induction s generalizing o i with
  | nil =>
    have hzero : i = 0 := by simpa using hi
    simp [hzero, offsetsFrom]
  | cons c s ih =>
    cases i with
    | zero => simp [offsetsFrom]
    | succ i =>
      rw [offsetsFrom, List.getElem?_cons_succ, ih _ (Nat.le_of_succ_le_succ hi)]
      simp [Nat.add_assoc]

theorem Hit.Within.toSpan {text : Source} {h : Hit} {pos : Nat} (hh : h.Within pos text.length) :
    (h.toSpan text.toArray (offsetsFrom 0 text).toArray).start = byteLen (text.take h.start) ∧
      (h.toSpan text.toArray (offsetsFrom 0 text).toArray).stop = byteLen (text.take h.stop) := by
  have hstart := getElem?_offsetsFrom 0 (Nat.le_trans hh.ordered hh.inside)
  have hstop := getElem?_offsetsFrom 0 hh.inside
  simp [Hit.toSpan, hstart, hstop]

/-- No search in the text finds a match before the place where it begins, or past the end. -/
def SearchesForward (p : Pattern) (text : Source) : Prop :=
  ∀ pos ≤ text.length, ∀ hit, p.searchFrom text.toArray pos = .ok (some hit) →
    hit.Within pos text.length

instance (p : Pattern) (text : Source) : Decidable (p.SearchesForward text) :=
  decidable_of_iff (∀ pos ≤ text.length,
      ∀ hit ∈ (p.searchFrom text.toArray pos).toOption.join, hit.Within pos text.length) <| by
    refine forall₂_congr fun pos _ => forall_congr' fun hit => ?_
    cases hs : p.searchFrom text.toArray pos <;> simp [Except.toOption]

section FindMatches

variable {p : Pattern} {text : Source} {spans : List MatchSpan}

theorem exists_hits_of_findMatches (hp : p.SearchesForward text)
    (h : p.findMatches text = .ok spans) :
    ∃ hits : List Hit, spans = hits.map (Hit.toSpan text.toArray (offsetsFrom 0 text).toArray) ∧
      (∀ hit ∈ hits, hit.Within 0 text.length) ∧ hits.Pairwise Hit.Precedes := by
  simp only [findMatches] at h
  split at h
  · rename_i hits hhits
    rw [List.size_toArray] at hhits
    exact ⟨hits, (Except.ok.inj h).symm, within_of_collect hp hhits,
      pairwise_precedes_of_collect hp hhits⟩
  · cases h

theorem bounds_of_findMatches (hp : p.SearchesForward text) (h : p.findMatches text = .ok spans) :
    ∀ m ∈ spans, m.start ≤ m.stop ∧ m.stop ≤ byteLen text := by
  obtain ⟨hits, rfl, hwithin, -⟩ := exists_hits_of_findMatches hp h
  intro m hm
  obtain ⟨hit, hhit, rfl⟩ := List.mem_map.1 hm
  obtain ⟨hstart, hstop⟩ := (hwithin hit hhit).toSpan
  rw [hstart, hstop]
  exact ⟨byteLen_take_le_byteLen_take text (hwithin hit hhit).ordered,
    byteLen_take_le_byteLen text _⟩

theorem pairwise_of_findMatches (hp : p.SearchesForward text)
    (h : p.findMatches text = .ok spans) :
    spans.Pairwise fun m n => m.start < n.start ∧ m.stop ≤ n.start := by
  obtain ⟨hits, rfl, hwithin, hpairwise⟩ := exists_hits_of_findMatches hp h
  refine List.pairwise_map.2 (hpairwise.imp_of_mem fun {a b} ha hb hab => ?_)
  obtain ⟨hastart, hastop⟩ := (hwithin a ha).toSpan
  obtain ⟨hbstart, -⟩ := (hwithin b hb).toSpan
  rw [hastart, hastop, hbstart]
  have hinside : b.start ≤ text.length := Nat.le_trans (hwithin b hb).ordered (hwithin b hb).inside
  exact ⟨byteLen_take_lt_byteLen_take hab.1 hinside, byteLen_take_le_byteLen_take text hab.2⟩

end FindMatches

end Pattern

end PatternLint
