import PatternLint.Proofs.Match

/-! The loop of searches behind the matches of a pattern, step by step.
`Reaches` describes the loop by itself: what it has found and where it stands, with no bound on
its steps.  If every search finds the first match from its position on, the loop moves on at each
step, so it ends after at most one match for each place of the text.  It has then passed over no
place where a match can begin, unless that place lies within a match.  A search that fails ends
the loop with its error. -/

namespace PatternLint

namespace Pattern

open Source

/-- Searches in a text of `size` characters find what comes first: `begins` tells at which
characters a match can begin. -/
structure FindsFirst {ε : Type} (search : Nat → Except ε (Option Hit)) (size : Nat)
    (begins : Nat → Prop) : Prop where
  within : ∀ pos ≤ size, ∀ hit, search pos = .ok (some hit) → hit.Within pos size
  first : ∀ pos ≤ size, ∀ hit, search pos = .ok (some hit) →
    ∀ q, pos ≤ q → q < hit.start → ¬ begins q
  absent : ∀ pos ≤ size, search pos = .ok none → ∀ q, pos ≤ q → q ≤ size → ¬ begins q

/-- The loop has found `hits`, in this order, and goes on from `pos`. -/
inductive Reaches {ε : Type} (search : Nat → Except ε (Option Hit)) (size : Nat) :
    List Hit → Nat → Prop
  | start : Reaches search size [] 0
  | step {hits : List Hit} {pos : Nat} {hit : Hit} : Reaches search size hits pos → pos ≤ size →
      search pos = .ok (some hit) → Reaches search size (hits ++ [hit]) hit.resume

/-- The loop ends at `pos`, past the end of the text or because nothing more is found. -/
def Exhausted {ε : Type} (search : Nat → Except ε (Option Hit)) (size pos : Nat) : Prop :=
  size < pos ∨ search pos = .ok none

section Loop

variable {ε : Type} {search : Nat → Except ε (Option Hit)} {size pos : Nat} {hits : List Hit}
  {hit : Hit} {begins : Nat → Prop}

theorem Hit.Within.resume_le (h : hit.Within pos size) : hit.resume ≤ size + 1 := by
  have h1 := h.inside
  rw [Hit.resume]
  split <;> omega

theorem Hit.Within.covers (h : hit.Within pos size) {q : Nat} (hq : q < hit.resume)
    (hstart : hit.start ≤ q) : hit.start = q ∨ hit.start < q ∧ q < hit.stop := by
  have h1 := h.ordered
  rw [Hit.resume] at hq
  split at hq <;> omega

/-- What holds wherever the loop stands: it has moved on at least once for each hit, and every
place behind it where a match can begin is one of a hit. -/
structure Progress (size : Nat) (begins : Nat → Prop) (hits : List Hit) (pos : Nat) : Prop where
  count : hits.length ≤ pos
  bounded : pos ≤ size + 1
  covered : ∀ q < pos, begins q → ∃ hit ∈ hits, hit.start = q ∨ hit.start < q ∧ q < hit.stop

theorem Progress.step (hs : FindsFirst search size begins) (h : Progress size begins hits pos)
    (hpos : pos ≤ size) (hhit : search pos = .ok (some hit)) :
    Progress size begins (hits ++ [hit]) hit.resume := by
  have hwithin := hs.within pos hpos hit hhit
  have hlt := hwithin.lt_resume
  have hcount := h.count
  refine ⟨?_, hwithin.resume_le, fun q hq hbegins => ?_⟩
  · rw [List.length_append, List.length_singleton]
    omega
  · by_cases hbehind : q < pos
    · obtain ⟨earlier, hmem, hcovers⟩ := h.covered q hbehind hbegins
      exact ⟨earlier, List.mem_append_left _ hmem, hcovers⟩
    · -- Between the search and its hit nothing begins, so the place belongs to the hit.
      have hstart : hit.start ≤ q := by
        by_contra hbefore
        exact hs.first pos hpos hit hhit q (by omega) (by omega) hbegins
      exact ⟨hit, by simp, hwithin.covers hq hstart⟩

theorem Reaches.progress (hs : FindsFirst search size begins) (h : Reaches search size hits pos) :
    Progress size begins hits pos := by
  induction h with
  | start => exact ⟨Nat.le_refl 0, Nat.zero_le _, fun q hq => absurd hq (Nat.not_lt_zero q)⟩
  | step _ hpos hhit ih => exact ih.step hs hpos hhit

theorem Reaches.covered_of_exhausted (hs : FindsFirst search size begins)
    (h : Reaches search size hits pos) (hend : Exhausted search size pos) {q : Nat}
    (hq : q ≤ size) (hbegins : begins q) :
    ∃ hit ∈ hits, hit.start = q ∨ hit.start < q ∧ q < hit.stop := by
  refine (h.progress hs).covered q ?_ hbegins
  by_contra hahead
  rcases hend with hpast | hnone
  · omega
  · exact hs.absent pos (by omega) hnone q (by omega) hq hbegins

variable {endless : ε} {turns : Nat}

theorem collect_of_exhausted (h : Exhausted search size pos) :
    collect search endless size (turns + 1) pos = .ok [] := by
  rw [collect]
  split
  · rename_i hpos
    rw [h.resolve_left (Nat.not_lt.2 hpos)]
  · rfl

theorem collect_of_found (hpos : pos ≤ size) (hhit : search pos = .ok (some hit)) :
    collect search endless size (turns + 1) pos =
      (collect search endless size turns hit.resume).map (hit :: ·) := by
  rw [collect, if_pos hpos, hhit]

theorem Reaches.collect_eq (h : Reaches search size hits pos) (turns : Nat) :
    collect search endless size (hits.length + turns) 0 =
      (collect search endless size turns pos).map (hits ++ ·) := by
  induction h generalizing turns with
  | start =>
    rw [List.length_nil, Nat.zero_add]
    cases collect search endless size turns 0 <;> rfl
  | @step hits pos hit _ hpos hhit ih =>
    have hturns : (hits ++ [hit]).length + turns = hits.length + (turns + 1) := by
      rw [List.length_append, List.length_singleton]
      omega
    rw [hturns, ih, collect_of_found hpos hhit]
    cases collect search endless size turns hit.resume with
    | error e => rfl
    | ok rest =>
      show Except.ok (hits ++ hit :: rest) = Except.ok (hits ++ [hit] ++ rest)
      rw [List.append_cons]

theorem Reaches.of_collect_eq_ok (h : Reaches search size hits pos) {more : List Hit}
    (hcollect : collect search endless size turns pos = .ok more) :
    ∃ last, Reaches search size (hits ++ more) last ∧ Exhausted search size last := by
  fun_induction collect search endless size turns pos generalizing hits more with
  | case1 pos => cases hcollect
  | case2 turns pos hpos e he => cases hcollect
  | case3 turns pos hpos hnone =>
    cases hcollect
    exact ⟨pos, by rwa [List.append_nil], .inr hnone⟩
  | case4 turns pos hpos hit hhit ih =>
    obtain ⟨rest, hrest, rfl⟩ := exists_of_map_eq_ok hcollect
    rw [List.append_cons]
    exact ih (h.step hpos hhit) hrest
  | case5 turns pos hpos =>
    cases hcollect
    exact ⟨pos, by rwa [List.append_nil], .inl (Nat.lt_of_not_le hpos)⟩

theorem Reaches.of_collect_eq_error (h : Reaches search size hits pos) {e : ε} {last : Nat}
    (hcollect : collect search endless size turns pos = .error (e, last)) :
    ∃ more, Reaches search size (hits ++ more) last ∧
      (last ≤ size ∧ search last = .error e ∨ more.length = turns ∧ e = endless) := by
  fun_induction collect search endless size turns pos generalizing hits with
  | case1 pos =>
    cases hcollect
    exact ⟨[], by rwa [List.append_nil], .inr ⟨rfl, rfl⟩⟩
  | case2 turns pos hpos e' he =>
    cases hcollect
    exact ⟨[], by rwa [List.append_nil], .inl ⟨hpos, he⟩⟩
  | case3 turns pos hpos hnone => cases hcollect
  | case4 turns pos hpos hit hhit ih =>
    obtain ⟨more, hreach, hend⟩ := ih (h.step hpos hhit) (eq_error_of_map hcollect)
    refine ⟨hit :: more, by rwa [List.append_cons], hend.imp_right fun hout => ?_⟩
    exact ⟨by rw [List.length_cons, hout.1], hout.2⟩
  | case5 turns pos hpos => cases hcollect

theorem Reaches.exists_turns (hs : FindsFirst search size begins)
    (h : Reaches search size hits pos) : ∃ turns, size + 2 = hits.length + (turns + 1) := by
  have hcount := (h.progress hs).count
  have hbounded := (h.progress hs).bounded
  exact ⟨size + 1 - hits.length, by omega⟩

theorem collect_eq_ok_iff (hs : FindsFirst search size begins) :
    collect search endless size (size + 2) 0 = .ok hits ↔
      ∃ pos, Reaches search size hits pos ∧ Exhausted search size pos := by
  constructor
  · exact fun h => Reaches.start.of_collect_eq_ok h
  · rintro ⟨pos, hreach, hend⟩
    obtain ⟨turns, hturns⟩ := hreach.exists_turns hs
    rw [hturns, hreach.collect_eq, collect_of_exhausted hend]
    simp [Except.map]

theorem collect_eq_error_iff (hs : FindsFirst search size begins) {e : ε} :
    collect search endless size (size + 2) 0 = .error (e, pos) ↔
      ∃ hits, Reaches search size hits pos ∧ pos ≤ size ∧ search pos = .error e := by
  constructor
  · intro h
    obtain ⟨hits, hreach, ⟨hpos, herror⟩ | ⟨hlength, -⟩⟩ := Reaches.start.of_collect_eq_error h
    · exact ⟨hits, hreach, hpos, herror⟩
    · obtain ⟨turns, hturns⟩ := hreach.exists_turns hs
      rw [List.nil_append] at hturns
      omega
  · rintro ⟨hits, hreach, hpos, herror⟩
    obtain ⟨turns, hturns⟩ := hreach.exists_turns hs
    rw [hturns, hreach.collect_eq, collect, if_pos hpos, herror]
    rfl

end Loop

def Hit.spanIn (text : Source) : Hit → MatchSpan :=
  Hit.toSpan text.toArray (offsetsFrom 0 text).toArray

/-- Where the loop goes on after some matches, in bytes: at the beginning of the text, at the end of
the last match, or one character after it if the last match is empty. -/
def ResumesAt (text : Source) (found : List MatchSpan) (offset : Nat) : Prop :=
  match found.getLast? with
  | none => offset = 0
  | some m =>
    if m.start < m.stop then offset = m.stop
    else ∃ before c after, text = before ++ c :: after ∧ m.stop = byteLen before ∧
      offset = byteLen (before ++ [c])

/-- Matches of a text from left to right, among which no place is missed where one can begin. -/
structure Complete (text : Source) (begins : Nat → Prop) (spans : List MatchSpan) : Prop where
  ordered : spans.Pairwise fun m n => m.start < n.start ∧ m.stop ≤ n.start
  count : spans.length ≤ text.length + 1
  boundaries : ∀ m ∈ spans, ∃ before inside after, text = before ++ (inside ++ after) ∧
    m.start = byteLen before ∧ m.stop = byteLen (before ++ inside)
  covered : ∀ before after, text = before ++ after → begins before.length →
    ∃ m ∈ spans, m.start = byteLen before ∨ m.start < byteLen before ∧ byteLen before < m.stop

section Text

variable {p : Pattern} {text : Source} {begins : Nat → Prop} {hits : List Hit} {hit : Hit}
  {pos : Nat}

theorem findMatches_eq_ok_iff {spans : List MatchSpan} :
    p.findMatches text = .ok spans ↔
      ∃ hits, collect (p.searchFrom text.toArray) .endless text.length (text.length + 2) 0 =
          .ok hits ∧ spans = hits.map (Hit.spanIn text) := by
  simp only [findMatches, List.size_toArray]
  cases collect (p.searchFrom text.toArray) .endless text.length (text.length + 2) 0 with
  | error e => simp
  | ok hits => simp [Hit.spanIn, eq_comm]

theorem findMatches_eq_error_iff {e : Failure} :
    p.findMatches text = .error e ↔
      ∃ pos, collect (p.searchFrom text.toArray) .endless text.length (text.length + 2) 0 =
          .error (e.cause, pos) ∧ e.offset = (offsetsFrom 0 text)[pos]?.getD 0 := by
  obtain ⟨offset, cause⟩ := e
  simp only [findMatches, List.size_toArray, List.getElem?_toArray]
  cases collect (p.searchFrom text.toArray) .endless text.length (text.length + 2) 0 with
  | error e =>
    obtain ⟨cause', pos⟩ := e
    simp [eq_comm, and_comm]
  | ok hits => simp

theorem Reaches.within (hs : FindsFirst (p.searchFrom text.toArray) text.length begins)
    (h : Reaches (p.searchFrom text.toArray) text.length hits pos) :
    ∀ hit ∈ hits, hit.Within 0 text.length := by
  induction h with
  | start => exact List.forall_mem_nil _
  | step _ hpos hhit ih =>
    intro hit hmem
    rcases List.mem_append.1 hmem with hmem | hmem
    · exact ih hit hmem
    · rw [List.mem_singleton.1 hmem]
      exact (hs.within _ hpos _ hhit).mono (Nat.zero_le _)

theorem Hit.Within.exists_append (h : hit.Within 0 text.length) :
    ∃ before inside after, text = before ++ (inside ++ after) ∧
      (hit.spanIn text).start = byteLen before ∧
        (hit.spanIn text).stop = byteLen (before ++ inside) := by
  obtain ⟨hstart, hstop⟩ := h.toSpan
  obtain ⟨length, hlength⟩ := Nat.exists_eq_add_of_le h.ordered
  refine ⟨text.take hit.start, (text.drop hit.start).take length, text.drop hit.stop, ?_, hstart, ?_⟩
  · rw [← List.append_assoc, ← List.take_add, ← hlength, List.take_append_drop]
  · rw [← List.take_add, ← hlength]
    exact hstop

theorem Hit.Within.covers_bytes (h : hit.Within 0 text.length) {before after : Source}
    (htext : text = before ++ after)
    (hcovers : hit.start = before.length ∨ hit.start < before.length ∧ before.length < hit.stop) :
    (hit.spanIn text).start = byteLen before ∨
      (hit.spanIn text).start < byteLen before ∧ byteLen before < (hit.spanIn text).stop := by
  obtain ⟨hstart, hstop⟩ := h.toSpan
  have hbefore : byteLen before = byteLen (text.take before.length) := by
    rw [htext, List.take_left]
  have hle : before.length ≤ text.length := by simp [htext]
  rw [Hit.spanIn, hstart, hstop, hbefore]
  rcases hcovers with heq | ⟨hlt, hlt'⟩
  · exact .inl (by rw [heq])
  · exact .inr ⟨byteLen_take_lt_byteLen_take hlt hle, byteLen_take_lt_byteLen_take hlt' h.inside⟩

theorem Reaches.resumesAt (hs : FindsFirst (p.searchFrom text.toArray) text.length begins)
    (h : Reaches (p.searchFrom text.toArray) text.length hits pos) (hpos : pos ≤ text.length) :
    ResumesAt text (hits.map (Hit.spanIn text)) (byteLen (text.take pos)) := by
  cases h with
  | start => simp [ResumesAt]
  | @step hits pos' hit hreach hpos' hhit =>
    have hwithin := (hs.within pos' hpos' hit hhit).mono (Nat.zero_le _)
    obtain ⟨hstart, hstop⟩ := hwithin.toSpan
    have hlast : ((hits ++ [hit]).map (Hit.spanIn text)).getLast? = some (hit.spanIn text) := by
      simp
    rw [ResumesAt, hlast]
    simp only [Hit.spanIn, hstart, hstop]
    have hordered := hwithin.ordered
    by_cases hempty : hit.start < hit.stop
    · rw [if_pos (byteLen_take_lt_byteLen_take hempty hwithin.inside), Hit.resume, if_pos hempty]
    · have hsame : hit.start = hit.stop := by omega
      rw [Hit.resume, if_neg hempty] at hpos ⊢
      rw [hsame, if_neg (Nat.lt_irrefl _)]
      refine ⟨text.take hit.stop, text[hit.stop], text.drop (hit.stop + 1), ?_, rfl, ?_⟩
      · simp
      · rw [List.take_succ_eq_append_getElem hpos]

theorem complete_of_findMatches
    (hs : FindsFirst (p.searchFrom text.toArray) text.length begins)
    {spans : List MatchSpan} (h : p.findMatches text = .ok spans) : Complete text begins spans := by
  have hordered := pairwise_of_findMatches hs.within h
  obtain ⟨hits, hcollect, rfl⟩ := findMatches_eq_ok_iff.1 h
  obtain ⟨pos, hreach, hend⟩ := (collect_eq_ok_iff hs).1 hcollect
  have hprogress := hreach.progress hs
  refine ⟨hordered, ?_, fun m hm => ?_, fun before after htext hbegins => ?_⟩
  · rw [List.length_map]
    exact Nat.le_trans hprogress.count hprogress.bounded
  · obtain ⟨hit, hhit, rfl⟩ := List.mem_map.1 hm
    exact (hreach.within hs hit hhit).exists_append
  · have hle : before.length ≤ text.length := by simp [htext]
    obtain ⟨hit, hhit, hcovers⟩ := hreach.covered_of_exhausted hs hend hle hbegins
    exact ⟨hit.spanIn text, List.mem_map_of_mem hhit,
      (hreach.within hs hit hhit).covers_bytes htext hcovers⟩

/-- If the searches of a pattern find what comes first, the loop finds at most one match for each
place of the text before it ends.  When it ends well, its matches go from left to right without
overlap, between characters, and no place is missed where a match can begin.  When one of its
searches fails, the result is the error of that search with the offset where it began. -/
theorem findMatches_complete (p : Pattern) (text : Source) (begins : Nat → Prop)
    (hs : FindsFirst (p.searchFrom text.toArray) text.length begins) :
    let search := p.searchFrom text.toArray
    (∀ hits pos, Reaches search text.length hits pos → hits.length ≤ text.length + 1) ∧
      (∀ spans, p.findMatches text = .ok spans ↔
        ∃ hits pos, Reaches search text.length hits pos ∧ Exhausted search text.length pos ∧
          spans = hits.map (Hit.spanIn text)) ∧
      (∀ spans, p.findMatches text = .ok spans → Complete text begins spans) ∧
      (∀ e, p.findMatches text = .error e ↔
        ∃ hits pos, Reaches search text.length hits pos ∧ pos ≤ text.length ∧
          search pos = .error e.cause ∧ e.offset = byteLen (text.take pos)) ∧
      ∀ hits pos, Reaches search text.length hits pos → pos ≤ text.length →
        ResumesAt text (hits.map (Hit.spanIn text)) (byteLen (text.take pos)) := by
  intro search
  refine ⟨fun hits pos h => ?_, fun spans => ?_, fun spans => complete_of_findMatches hs,
    fun e => ?_, fun hits pos h hpos => h.resumesAt hs hpos⟩
  · exact Nat.le_trans (h.progress hs).count (h.progress hs).bounded
  · rw [findMatches_eq_ok_iff]
    simp only [collect_eq_ok_iff hs]
    exact ⟨fun ⟨hits, ⟨pos, hreach, hend⟩, heq⟩ => ⟨hits, pos, hreach, hend, heq⟩,
      fun ⟨hits, pos, hreach, hend, heq⟩ => ⟨hits, ⟨pos, hreach, hend⟩, heq⟩⟩
  · rw [findMatches_eq_error_iff]
    simp only [collect_eq_error_iff hs]
    constructor
    · rintro ⟨pos, ⟨hits, hreach, hpos, herror⟩, hoffset⟩
      rw [getElem?_offsetsFrom 0 hpos] at hoffset
      exact ⟨hits, pos, hreach, hpos, herror, by simpa using hoffset⟩
    · rintro ⟨hits, pos, hreach, hpos, herror, hoffset⟩
      refine ⟨pos, ⟨hits, hreach, hpos, herror⟩, ?_⟩
      rw [getElem?_offsetsFrom 0 hpos]
      simpa using hoffset

end Text

def repeatedX : Pattern :=
  ⟨"x*", .standard, 0, .linear (Linear.ofRegular (.loop 0 none true (.literal ['x'])))⟩

/-- A match can begin anywhere then, also within another match and right behind it: an empty one, one
of two characters, and another empty one cover the four places of a text of four bytes. -/
theorem findMatches_complete_repeatedX :
    let text := "éxx".toList
    let spans : List MatchSpan := [⟨0, 0, []⟩, ⟨2, 4, []⟩, ⟨4, 4, []⟩]
    FindsFirst (repeatedX.searchFrom text.toArray) text.length (fun _ => True) ∧
      repeatedX.findMatches text = .ok spans ∧ Complete text (fun _ => True) spans := by
  intro text spans
  have hforward : repeatedX.SearchesForward text := by decide +kernel
  have hhere : ∀ pos ≤ text.length,
      (repeatedX.searchFrom text.toArray pos).toOption.join.map Hit.start = some pos := by
    decide +kernel
  have hs : FindsFirst (repeatedX.searchFrom text.toArray) text.length fun _ => True := by
    refine ⟨hforward, fun pos hpos hit hhit q hq hlt => ?_, fun pos hpos hnone => ?_⟩
    · have hstart : hit.start = pos := by simpa [hhit, Except.toOption] using hhere pos hpos
      omega
    · simpa [hnone, Except.toOption] using hhere pos hpos
  have hspans : repeatedX.findMatches text = .ok spans := by decide +kernel
  exact ⟨hs, hspans, (findMatches_complete repeatedX text _ hs).2.2.1 spans hspans⟩

end Pattern

end PatternLint
