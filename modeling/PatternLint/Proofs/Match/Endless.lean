import Mathlib.Combinatorics.Pigeonhole
import PatternLint.Analysis
import PatternLint.Proofs.Match.Coverage

/-! Searches that never end.
A text has finitely many places, so a loop of searches that takes more turns than there are places
comes back to one of them, and from there it takes the same way again.  Such a loop has no last
turn; every other loop has one. -/

namespace PatternLint

namespace Pattern

variable {ε : Type} {search : Nat → Except ε (Option Hit)} {size a b c pos : Nat} {hits : List Hit}

/-- Going on from `a`, the loop finds some hits and then stands at `b`. -/
def Leads (search : Nat → Except ε (Option Hit)) (size a : Nat) : List Hit → Nat → Prop
  | [], b => a = b
  | hit :: hits, b => a ≤ size ∧ search a = .ok (some hit) ∧ Leads search size hit.resume hits b

theorem leads_append {xs ys : List Hit} :
    Leads search size a (xs ++ ys) c ↔
      ∃ b, Leads search size a xs b ∧ Leads search size b ys c := by
  induction xs generalizing a with
  | nil => simp [Leads]
  | cons hit xs ih => simp [Leads, ih, and_assoc]

theorem reaches_iff_leads : Reaches search size hits pos ↔ Leads search size 0 hits pos := by
  constructor
  · intro h
    induction h with
    | start => rfl
    | step _ hpos hhit ih => exact leads_append.2 ⟨_, ih, hpos, hhit, rfl⟩
  · intro h
    induction hits using List.reverseRecOn generalizing pos with
    | nil =>
      cases h
      exact .start
    | append_singleton hits hit ih =>
      obtain ⟨b, hb, hpos, hhit, rfl⟩ := leads_append.1 h
      exact (ih hb).step hpos hhit

theorem Leads.unique (hb : Leads search size a hits b) (hc : Leads search size a hits c) :
    b = c := by
  induction hits generalizing a with
  | nil => exact hb.symm.trans hc
  | cons hit hits ih => exact ih hb.2.2 hc.2.2

theorem Leads.again (h : Leads search size a hits a) (n : Nat) :
    Leads search size a (List.replicate n hits).flatten a := by
  induction n with
  | zero => rfl
  | succ n ih =>
    rw [List.replicate_succ, List.flatten_cons]
    exact leads_append.2 ⟨a, h, ih⟩

theorem Leads.exists_cycle (h : Leads search size 0 hits pos) (hlength : size + 1 < hits.length) :
    ∃ before around place, around ≠ [] ∧ Leads search size 0 before place ∧
      Leads search size place around place := by
  have hsplit : ∀ n, ∃ place, Leads search size 0 (hits.take n) place ∧
      Leads search size place (hits.drop n) pos := fun n =>
    leads_append.1 (by rwa [List.take_append_drop])
  choose place hbefore hafter using hsplit
  have hplace : ∀ n ∈ Finset.range (size + 2), place n ∈ Finset.range (size + 1) := by
    intro n hn
    have hn : n < hits.length := by
      rw [Finset.mem_range] at hn
      omega
    have hnext := hafter n
    rw [List.drop_eq_getElem_cons hn] at hnext
    exact Finset.mem_range.2 (Nat.lt_succ_of_le hnext.1)
  obtain ⟨i, hi, j, hj, hne, hsame⟩ :=
    Finset.exists_ne_map_eq_of_card_lt_of_maps_to (by simp) hplace
  wlog hij : i < j generalizing i j
  · exact this j hj i hi hne.symm hsame.symm (by omega)
  rw [Finset.mem_range] at hj
  have hparts : hits.take j = hits.take i ++ (hits.take j).drop i := by
    conv_lhs => rw [← List.take_append_drop i (hits.take j)]
    rw [List.take_take, Nat.min_eq_left hij.le]
  have haround := hbefore j
  rw [hparts] at haround
  obtain ⟨middle, hmiddle, haround⟩ := leads_append.1 haround
  rw [hmiddle.unique (hbefore i), ← hsame] at haround
  refine ⟨hits.take i, (hits.take j).drop i, place i, fun hnil => ?_, hbefore i, haround⟩
  have hzero := congrArg List.length hnil
  simp only [List.length_drop, List.length_take, List.length_nil] at hzero
  omega

/-- The loop takes any number of turns. -/
def GoesOn (search : Nat → Except ε (Option Hit)) (size : Nat) : Prop :=
  ∀ n, ∃ hits pos, Reaches search size hits pos ∧ hits.length = n

/-- The loop comes to a search that fails so. -/
def FailsWith (search : Nat → Except ε (Option Hit)) (size : Nat) (e : ε) : Prop :=
  ∃ hits pos, Reaches search size hits pos ∧ pos ≤ size ∧ search pos = .error e

theorem Reaches.goesOn (h : Reaches search size hits pos) (hlength : size + 1 < hits.length) :
    GoesOn search size := by
  intro n
  obtain ⟨before, around, place, hne, hbefore, haround⟩ :=
    (reaches_iff_leads.1 h).exists_cycle hlength
  -- Going around `n` times takes at least `n` turns; the first `n` of all turns are enough.
  have hlong := leads_append.2 ⟨place, hbefore, haround.again n⟩
  rw [← List.take_append_drop n (before ++ _)] at hlong
  obtain ⟨last, hlast, -⟩ := leads_append.1 hlong
  refine ⟨_, last, reaches_iff_leads.2 hlast, List.length_take_of_le ?_⟩
  have haround := List.length_pos_iff.2 hne
  simp only [List.length_append, List.length_flatten, List.map_replicate, List.sum_replicate,
    smul_eq_mul]
  exact (Nat.le_mul_of_pos_right n haround).trans (Nat.le_add_left _ _)

theorem Leads.length_le_of_error {e : ε} (herror : search b = .error e)
    (hb : Leads search size a hits b) {more : List Hit} (hc : Leads search size a more c) :
    more.length ≤ hits.length := by
  induction hits generalizing a more with
  | nil =>
    cases hb
    cases more with
    | nil => exact Nat.le_refl _
    | cons hit more =>
      have hhit := hc.2.1
      simp [herror] at hhit
  | cons hit hits ih =>
    cases more with
    | nil => exact Nat.zero_le _
    | cons other more =>
      have hsame : other = hit := by simpa [hb.2.1] using hc.2.1.symm
      subst hsame
      exact Nat.succ_le_succ (ih hb.2.2 hc.2.2)

theorem exists_collect_eq_endless_iff {endless : ε} (hsearch : ∀ pos, search pos ≠ .error endless) :
    (∃ pos, collect search endless size (size + 2) 0 = .error (endless, pos)) ↔
      GoesOn search size := by
  constructor
  · rintro ⟨pos, h⟩
    obtain ⟨hits, hreach, ⟨-, herror⟩ | ⟨hlength, -⟩⟩ := Reaches.start.of_collect_eq_error h
    · exact absurd herror (hsearch pos)
    · exact hreach.goesOn (by rw [List.nil_append, hlength]; omega)
  · intro h
    obtain ⟨hits, pos, hreach, hlength⟩ := h (size + 2)
    refine ⟨pos, ?_⟩
    rw [← hlength, ← Nat.add_zero hits.length, hreach.collect_eq]
    rfl

theorem exists_collect_eq_error_iff {endless e : ε} (he : e ≠ endless) :
    (∃ pos, collect search endless size (size + 2) 0 = .error (e, pos)) ↔
      FailsWith search size e := by
  constructor
  · rintro ⟨pos, h⟩
    obtain ⟨hits, hreach, ⟨hpos, herror⟩ | ⟨-, hendless⟩⟩ := Reaches.start.of_collect_eq_error h
    · exact ⟨hits, pos, hreach, hpos, herror⟩
    · exact absurd hendless he
  · rintro ⟨hits, pos, hreach, hpos, herror⟩
    -- With more turns the loop would go on, and so would have gone on behind the error.
    have hlength : hits.length ≤ size + 1 := by
      by_contra hlong
      obtain ⟨more, last, hmore, hcount⟩ := hreach.goesOn (by omega) (hits.length + 1)
      rw [reaches_iff_leads] at hreach hmore
      have := hreach.length_le_of_error herror hmore
      omega
    obtain ⟨turns, hturns⟩ : ∃ turns, size + 2 = hits.length + (turns + 1) :=
      ⟨size + 1 - hits.length, by omega⟩
    refine ⟨pos, ?_⟩
    rw [hturns, hreach.collect_eq, collect, if_pos hpos, herror]
    rfl

theorem searchFrom_ne_endless (p : Pattern) (t : Chars) (pos : Nat) :
    p.searchFrom t pos ≠ .error .endless := by
  rw [searchFrom]
  split
  · nofun
  · split <;> nofun

theorem exists_findMatches_eq_error_iff {p : Pattern} {text : Source} {e : SearchError} :
    (∃ offset, p.findMatches text = .error ⟨offset, e⟩) ↔
      ∃ pos, collect (p.searchFrom text.toArray) .endless text.length (text.length + 2) 0 =
        .error (e, pos) := by
  simp only [findMatches_eq_error_iff]
  exact ⟨fun ⟨_, pos, h, _⟩ => ⟨pos, h⟩, fun ⟨pos, h⟩ => ⟨_, pos, h, rfl⟩⟩

end Pattern

namespace Rule

variable {r : Rule} {text : Source}

theorem abort?_eq_some_iff {a : Abort} {e : Pattern.SearchError}
    (ha : ∀ cause : Pattern.SearchError, cause.abort? = some a ↔ cause = e) :
    r.abort? text = some a ↔
      ∃ pos, Pattern.collect (r.pattern.searchFrom text.toArray) .endless text.length
        (text.length + 2) 0 = .error (e, pos) := by
  rw [← Pattern.exists_findMatches_eq_error_iff, abort?, findMatches]
  cases r.pattern.findMatches text with
  | ok spans => simp [Except.mapError]
  | error failure =>
    obtain ⟨offset, cause⟩ := failure
    simp [Except.mapError, ha]

/-- A rule has an answer: its searches come to an end, and none of them breaks off. -/
structure Answers (r : Rule) (text : Source) : Prop where
  ends : ¬ Pattern.GoesOn (r.pattern.searchFrom text.toArray) text.length
  whole : ¬ Pattern.FailsWith (r.pattern.searchFrom text.toArray) text.length .brokenReference

theorem abort?_eq_endless_iff :
    r.abort? text = some .endless ↔
      Pattern.GoesOn (r.pattern.searchFrom text.toArray) text.length := by
  have hcause (cause : Pattern.SearchError) : cause.abort? = some .endless ↔ cause = .endless := by
    cases cause <;> decide
  rw [abort?_eq_some_iff hcause]
  exact Pattern.exists_collect_eq_endless_iff (r.pattern.searchFrom_ne_endless text.toArray)

theorem abort?_eq_crash_iff :
    r.abort? text = some .crash ↔
      Pattern.FailsWith (r.pattern.searchFrom text.toArray) text.length .brokenReference := by
  have hcause (cause : Pattern.SearchError) :
      cause.abort? = some .crash ↔ cause = .brokenReference := by
    cases cause <;> decide
  rw [abort?_eq_some_iff hcause]
  exact Pattern.exists_collect_eq_error_iff nofun

theorem abort?_eq_none_iff : r.abort? text = none ↔ r.Answers text := by
  constructor
  · intro h
    refine ⟨fun hgoes => ?_, fun hfails => ?_⟩
    · simp [abort?_eq_endless_iff.2 hgoes] at h
    · simp [abort?_eq_crash_iff.2 hfails] at h
  · rintro ⟨hends, hwhole⟩
    cases h : r.abort? text with
    | none => rfl
    | some a =>
      cases a with
      | crash => exact absurd (abort?_eq_crash_iff.1 h) hwhole
      | endless => exact absurd (abort?_eq_endless_iff.1 h) hends

end Rule

theorem Registry.abort?_eq_none_iff {g : Registry} {text : Source} :
    g.abort? text = none ↔ ∀ r ∈ g.rules, r.Answers text := by
  simp only [abort?, List.findSome?_eq_none_iff, Rule.abort?_eq_none_iff]

end PatternLint
