import Mathlib.Tactic.ByContra
import PatternLint.Text.Basic

/-! Byte offsets of a text and the search by halving.
Cutting a text at the size of one of its beginnings gives that beginning back; a slice is the
middle of three parts.  The offsets that cut are those where the UTF-8 form of the text can be cut.
`partitionPoint` counts the front entries of any array that a predicate divides into a front and a
back. -/

namespace PatternLint

namespace Source

@[simp]
theorem splitAt?_append (a b : Source) : splitAt? (a ++ b) (byteLen a) = some (a, b) := by
  induction a with
  | nil => cases b <;> rfl
  | cons c a ih =>
    have hc := c.utf8Size_pos
    obtain ⟨n, hn⟩ : ∃ n, byteLen (c :: a) = n + 1 := ⟨c.utf8Size + byteLen a - 1, by simp; omega⟩
    have hrest : n + 1 - c.utf8Size = byteLen a := by rw [← hn]; simp
    have hle : c.utf8Size ≤ n + 1 := by rw [← hn]; simp
    rw [hn, List.cons_append, splitAt?, if_pos hle, hrest, ih]
    rfl

@[simp]
theorem slice?_append (a b c : Source) :
    slice? (a ++ (b ++ c)) (byteLen a) (byteLen a + byteLen b) = some b := by
  have hguard : (guard (byteLen a ≤ byteLen a + byteLen b) : Option Unit) = some () :=
    if_pos (Nat.le_add_right _ _)
  rw [slice?, hguard]
  simp [splitAt?_append]

theorem splitAt?_eq_some_iff {s a b : Source} {o : Nat} :
    splitAt? s o = some (a, b) ↔ s = a ++ b ∧ byteLen a = o := by
  refine ⟨fun h => ?_, ?_⟩
  · fun_induction splitAt? s o generalizing a b with
    | case1 s =>
      cases h
      exact ⟨rfl, rfl⟩
    | case2 n => cases h
    | case3 c s n hle ih =>
      obtain ⟨⟨head, tail⟩, hrest, heq⟩ := Option.map_eq_some_iff.1 h
      obtain ⟨rfl, hlen⟩ := ih hrest
      cases heq
      refine ⟨rfl, ?_⟩
      rw [byteLen_cons, hlen]
      omega
    | case4 c s n hgt => cases h
  · rintro ⟨rfl, rfl⟩
    exact splitAt?_append a b

theorem exists_append_of_byteLen_le {a b c d : Source} (h : a ++ b = c ++ d)
    (hle : byteLen a ≤ byteLen c) : ∃ m, c = a ++ m ∧ b = m ++ d := by
  rcases List.append_eq_append_iff.1 h with ⟨m, hc, hb⟩ | ⟨m, rfl, rfl⟩
  · exact ⟨m, hc, hb⟩
  · cases m with
    | nil => exact ⟨[], by simp, rfl⟩
    | cons x m =>
      have hx := x.utf8Size_pos
      rw [byteLen_append, byteLen_cons] at hle
      omega

/-- An offset at which the UTF-8 form of the text can be cut in two. -/
def IsBoundary (s : Source) (o : Nat) : Prop := String.Pos.Raw.IsValid (String.ofList s) ⟨o⟩

instance (s : Source) (o : Nat) : Decidable (s.IsBoundary o) :=
  inferInstanceAs (Decidable (String.Pos.Raw.IsValid (String.ofList s) ⟨o⟩))

@[simp]
theorem utf8ByteSize_ofList (s : Source) : (String.ofList s).utf8ByteSize = byteLen s := by
  induction s with
  | nil => rfl
  | cons c s ih =>
    rw [String.ofList_cons, String.utf8ByteSize_append, String.utf8ByteSize_singleton, ih,
      byteLen_cons]

theorem isBoundary_iff {s : Source} {o : Nat} :
    s.IsBoundary o ↔ ∃ a b, s = a ++ b ∧ byteLen a = o := by
  rw [IsBoundary, String.Pos.Raw.isValid_ofList]
  simp only [utf8ByteSize_ofList]
  constructor
  · rintro ⟨i, hi⟩
    exact ⟨s.take i, s.drop i, (List.take_append_drop i s).symm, hi.symm⟩
  · rintro ⟨a, b, rfl, rfl⟩
    exact ⟨a.length, by rw [List.take_left]⟩

theorem IsBoundary.le_byteLen {s : Source} {o : Nat} (h : s.IsBoundary o) : o ≤ byteLen s := by
  obtain ⟨a, b, rfl, rfl⟩ := isBoundary_iff.1 h
  rw [byteLen_append]
  exact Nat.le_add_right _ _

end Source

section PartitionPoint

variable {α : Type} {p : α → Bool} {front back : List α}

theorem partitionPoint_go_append (hfront : ∀ x ∈ front, p x = true)
    (hback : ∀ x ∈ back, p x = false) (lo hi : Nat) (hlo : lo ≤ front.length)
    (hhi : front.length ≤ hi) (hsize : hi ≤ (front ++ back).length) :
    partitionPoint.go p (front ++ back).toArray lo hi = front.length := by
  fun_induction partitionPoint.go p (front ++ back).toArray lo hi with
  | case1 lo hi hlt x hx hp ih =>
    refine ih ?_ hhi hsize
    by_contra hmid
    -- Past the front nothing satisfies `p`.
    rw [List.getElem?_toArray, List.getElem?_append_right (by omega)] at hx
    have := hback x (List.mem_of_getElem? hx)
    simp [hp] at this
  | case2 lo hi hlt x hx hp ih =>
    refine ih hlo ?_ (by omega)
    by_contra hmid
    rw [List.getElem?_toArray, List.getElem?_append_left (by omega)] at hx
    exact hp (hfront x (List.mem_of_getElem? hx))
  | case3 lo hi hlt hx =>
    rw [List.getElem?_toArray, List.getElem?_eq_none_iff] at hx
    omega
  | case4 lo hi hge => omega

theorem partitionPoint_append (hfront : ∀ x ∈ front, p x = true)
    (hback : ∀ x ∈ back, p x = false) :
    partitionPoint p (front ++ back).toArray = front.length := by
  rw [partitionPoint]
  exact partitionPoint_go_append hfront hback 0 _ (Nat.zero_le _) (by simp) (by simp)

end PartitionPoint

end PatternLint
