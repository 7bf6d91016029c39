import Mathlib.Algebra.Ring.Nat
import PatternLint.Edit
import PatternLint.Proofs.Text.Offset
import PatternLint.Proofs.Word

/-! When an edit applies, what it makes of a text, and how it is taken back.
An edit divides a text into what stands before its place, what it cuts out and what follows.  It
applies exactly if both ends of its place fall between characters, and then the edit that puts the
cut back in the place of the new text restores the text. -/

namespace PatternLint

namespace Replacement

open Source

variable {r : Replacement} {s t : Source}

theorem edited?_append {head cut : Source} (tail : Source)
    (hoffset : r.location.offset = byteLen head) (hlength : r.location.length = byteLen cut) :
    r.edited? (head ++ (cut ++ tail)) = some (head ++ r.newText ++ tail) := by
  have hstop : splitAt? (head ++ (cut ++ tail)) (byteLen head + byteLen cut) =
      some (head ++ cut, tail) := by
    rw [← byteLen_append, ← List.append_assoc, splitAt?_append]
  simp [edited?, hoffset, hlength, splitAt?_append, hstop]

theorem exists_append_of_edited? (h : r.edited? s = some t) :
    ∃ head cut tail, s = head ++ (cut ++ tail) ∧ r.location.offset = byteLen head ∧
      r.location.length = byteLen cut := by
  simp only [edited?, Option.bind_eq_bind, Option.bind_eq_some_iff, Prod.exists] at h
  obtain ⟨head, rest, hhead, front, tail, htail, -⟩ := h
  rw [splitAt?_eq_some_iff] at hhead htail
  obtain ⟨cut, hfront, hrest⟩ := exists_append_of_byteLen_le (hhead.1.symm.trans htail.1)
    (by rw [hhead.2, htail.2]; omega)
  refine ⟨head, cut, tail, ?_, hhead.2.symm, ?_⟩
  · rw [hhead.1, hrest]
  · have hlen := htail.2
    rw [hfront, byteLen_append, hhead.2] at hlen
    omega

theorem exists_edited?_iff :
    (∃ t, r.edited? s = some t) ↔
      s.IsBoundary r.location.offset ∧ s.IsBoundary (r.location.offset + r.location.length) := by
  simp only [isBoundary_iff]
  constructor
  · rintro ⟨t, h⟩
    obtain ⟨head, cut, tail, rfl, hoffset, hlength⟩ := exists_append_of_edited? h
    refine ⟨⟨head, cut ++ tail, rfl, hoffset.symm⟩, head ++ cut, tail, by simp, ?_⟩
    rw [byteLen_append, hoffset, hlength]
  · rintro ⟨⟨head, rest, rfl, hoffset⟩, front, tail, hsplit, hstop⟩
    obtain ⟨cut, rfl, rfl⟩ := exists_append_of_byteLen_le hsplit (by omega)
    rw [byteLen_append] at hstop
    exact ⟨_, edited?_append tail hoffset.symm (by omega)⟩

/-- The edited text, the place being given in 64 bits: its end has to be such a number too. -/
def editedInWords? (newText : Source) (offset length : UInt64) (s : Source) : Option Source := do
  let stop ← checkedAdd offset length
  let (head, _) ← s.splitAt? offset.toNat
  let (_, tail) ← s.splitAt? stop.toNat
  return head ++ newText ++ tail

theorem editedInWords?_eq (hs : byteLen s < 2 ^ 64) {offset length : UInt64}
    (hoffset : offset.toNat = r.location.offset) (hlength : length.toNat = r.location.length) :
    editedInWords? r.newText offset length s = r.edited? s := by
  by_cases hstop : r.location.offset + r.location.length < 2 ^ 64
  · obtain ⟨stop, hword, hnat⟩ := exists_word? hstop
    simp [editedInWords?, edited?, checkedAdd, hoffset, hlength, hword, hnat]
  · -- A place that ends past all numbers ends past the text.
    have hrange : checkedAdd offset length = none := by
      rw [checkedAdd, hoffset, hlength, word?_eq_none hstop]
    cases hedited : r.edited? s with
    | none => simp [editedInWords?, hrange]
    | some t =>
      have hle := (exists_edited?_iff.1 ⟨t, hedited⟩).2.le_byteLen
      omega

/-- An edit applies exactly if its place ends in the text and both ends fall between characters; a
place whose end is past every number of 64 bits is outside all texts of such a size, so an edit in
such numbers does the same.  The new text then stands between what came before and after the place,
and any edit that puts the cut back in the place of the new text restores the text. -/
theorem edited?_bounds_and_undo (r : Replacement) (s : Source) :
    ((∃ t, r.edited? s = some t) ↔
      r.location.offset + r.location.length ≤ byteLen s ∧ s.IsBoundary r.location.offset ∧
        s.IsBoundary (r.location.offset + r.location.length)) ∧
    (byteLen s < 2 ^ 64 → 2 ^ 64 ≤ r.location.offset + r.location.length → r.edited? s = none) ∧
    (byteLen s < 2 ^ 64 → ∀ offset length : UInt64, offset.toNat = r.location.offset →
      length.toNat = r.location.length →
      editedInWords? r.newText offset length s = r.edited? s) ∧
    ∀ t, r.edited? s = some t → ∃ head cut tail,
      s.slice? 0 r.location.offset = some head ∧
      s.slice? r.location.offset (r.location.offset + r.location.length) = some cut ∧
      s.slice? (r.location.offset + r.location.length) (byteLen s) = some tail ∧
      t = head ++ r.newText ++ tail ∧
      ∀ u : Replacement, u.location.offset = r.location.offset →
        u.location.length = byteLen r.newText → u.newText = cut → u.edited? t = some s := by
  have hexact : (∃ t, r.edited? s = some t) ↔
      r.location.offset + r.location.length ≤ byteLen s ∧ s.IsBoundary r.location.offset ∧
        s.IsBoundary (r.location.offset + r.location.length) := by
    rw [exists_edited?_iff]
    exact ⟨fun h => ⟨h.2.le_byteLen, h⟩, fun h => h.2⟩
  refine ⟨hexact, fun hsize hlarge => ?_, fun hsize _ _ => editedInWords?_eq hsize,
    fun t h => ?_⟩
  · cases hedit : r.edited? s with
    | none => rfl
    | some t =>
      have hle := (hexact.1 ⟨t, hedit⟩).1
      omega
  · obtain ⟨head, cut, tail, rfl, hoffset, hlength⟩ := exists_append_of_edited? h
    rw [edited?_append tail hoffset hlength, Option.some.injEq] at h
    rw [hoffset, hlength]
    have hhead := slice?_append [] head (cut ++ tail)
    have htail := slice?_append (head ++ cut) tail []
    simp only [List.nil_append, List.append_nil, byteLen_nil, byteLen_append, Nat.zero_add,
      List.append_assoc] at hhead htail
    refine ⟨head, cut, tail, hhead, slice?_append head cut tail, ?_, h.symm, ?_⟩
    · rw [byteLen_append, byteLen_append, ← Nat.add_assoc]
      exact htail
    · intro u huoffset hulength hucut
      rw [← h, List.append_assoc, edited?_append tail huoffset hulength, hucut, List.append_assoc]

/-- Characters of two and three bytes give way to one of two bytes and come back.  A place inside
a character is refused, and so is one whose end would be 1 if it were counted in 64 bits. -/
theorem edited?_bounds_and_undo_accents :
    let edit (offset length : Nat) (newText : String) : Replacement :=
      ⟨⟨⟨"a.cpp"⟩, 0, 0, offset, length⟩, newText.toList⟩
    let s := "aé€b".toList
    (edit 1 5 "ü").edited? s = some "aüb".toList ∧ (edit 1 2 "é€").edited? "aüb".toList = some s ∧
      (edit 2 1 "").edited? s = none ∧ (edit (2 ^ 64 - 1) 2 "").edited? s = none := by
  intro edit s
  obtain ⟨hexact, -, -, happlied⟩ := edited?_bounds_and_undo (edit 1 5 "ü") s
  obtain ⟨t, ht⟩ := hexact.2 ⟨by decide, by decide, by decide⟩
  obtain ⟨head, cut, tail, hhead, hcut, htail, rfl, hundo⟩ := happlied t ht
  cases hhead
  cases hcut
  cases htail
  refine ⟨ht, hundo (edit 1 2 "é€") rfl rfl rfl, ?_, ?_⟩
  · have hinside := (edited?_bounds_and_undo (edit 2 1 "") s).1
    exact Option.eq_none_iff_forall_ne_some.2 fun t ht =>
      absurd (hinside.1 ⟨t, ht⟩).2.1 (by decide)
  · exact (edited?_bounds_and_undo (edit (2 ^ 64 - 1) 2 "") s).2.1 (by decide) (by decide)

end Replacement

end PatternLint
