import Mathlib.Order.Compare
import PatternLint.Proofs.PathMap

/-! Maps with ascending keys.
Both updates keep the keys ascending.  A document then has one entry at most, so the part of a map
about one document can be updated on its own: `only_insert_same` and `only_insert_other` say how
an update of the whole shows in the part. -/

namespace PatternLint

namespace Component

/-- The name of a step, empty for the steps that have none. -/
def label : Component → String
  | .name s => s
  | _ => ""

theorem order_eq_compareLex : order = compareLex (compareOn rank) (compareOn label) := by
  funext a b
  cases a <;> cases b <;> rfl

instance : Std.TransCmp order := by
  rw [order_eq_compareLex]
  infer_instance

end Component

namespace Path

theorem orderComponents_eq_compareLex : orderComponents = List.compareLex Component.order := by
  funext as bs
  induction as generalizing bs with
  | nil => cases bs <;> rfl
  | cons a as ih =>
    cases bs with
    | nil => rfl
    | cons b bs => rw [orderComponents, List.compareLex_cons_cons, ih]

instance : Std.TransCmp orderComponents := by
  rw [orderComponents_eq_compareLex]
  infer_instance

theorem order_lt_trans {p q r : Path} (hpq : p.order q = .lt) (hqr : q.order r = .lt) :
    p.order r = .lt := by
  rw [order] at *
  exact Std.TransCmp.lt_trans hpq hqr

theorem order_gt_iff_lt {p q : Path} : p.order q = .gt ↔ q.order p = .lt := by
  rw [order, order, Std.OrientedCmp.gt_iff_lt]

theorem order_ne_gt_trans {p q r : Path} (hpq : p.order q ≠ .gt) (hqr : q.order r ≠ .gt) :
    p.order r ≠ .gt := by
  rw [order, ne_eq, Ordering.ne_gt_iff_isLE] at *
  exact Std.TransCmp.isLE_trans hpq hqr

theorem order_ne_gt_or (p q : Path) : p.order q ≠ .gt ∨ q.order p ≠ .gt := by
  by_cases h : p.order q = .gt
  · rw [order_gt_iff_lt.1 h]
    exact .inr (by decide)
  · exact .inl h

theorem same_eq_false_of_order_lt {p q : Path} (h : p.order q = .lt) : p.same q = false := by
  rw [← Bool.not_eq_true, ← order_eq_iff, h]
  decide

theorem order_congr_right {p q : Path} (h : p.same q = true) (r : Path) :
    r.order p = r.order q := by
  rw [order, order, same_iff.1 h]

theorem order_congr_left {p q : Path} (h : p.same q = true) (r : Path) : p.order r = q.order r := by
  rw [order, order, same_iff.1 h]

theorem same_congr_left {p q : Path} (h : p.same q = true) (r : Path) : p.same r = q.same r := by
  rw [same_comm p, same_comm q, same_congr_right h]

end Path

namespace PathMap

variable {α : Type} {m : PathMap α} {p q : Path} {a : α}

def Sorted (m : PathMap α) : Prop := m.Pairwise fun d e => d.1.order e.1 = .lt

theorem sorted_nil : Sorted ([] : PathMap α) := List.Pairwise.nil

theorem insert_cons_lt {e : Path × α} (h : p.order e.1 = .lt) :
    insert p a (e :: m) = (p, a) :: e :: m := by
  simp [insert, h]

theorem insert_cons_eq {e : Path × α} (h : p.order e.1 = .eq) :
    insert p a (e :: m) = (e.1, a) :: m := by
  simp [insert, h]

theorem insert_cons_gt {e : Path × α} (h : p.order e.1 = .gt) :
    insert p a (e :: m) = e :: insert p a m := by
  simp [insert, h]

theorem mem_insert {e : Path × α} (h : e ∈ insert p a m) : e ∈ m ∨ e.1.same p = true ∧ e.2 = a := by
  induction m with
  | nil =>
    obtain rfl : e = (p, a) := by simpa [insert] using h
    exact .inr ⟨p.same_refl, rfl⟩
  | cons d m ih =>
    cases ho : p.order d.1 with
    | lt =>
      rw [insert_cons_lt ho, List.mem_cons] at h
      rcases h with rfl | h
      · exact .inr ⟨p.same_refl, rfl⟩
      · exact .inl h
    | eq =>
      rw [insert_cons_eq ho, List.mem_cons] at h
      rcases h with rfl | h
      · exact .inr ⟨by rw [Path.same_comm]; exact Path.order_eq_iff.1 ho, rfl⟩
      · exact .inl (List.mem_cons_of_mem d h)
    | gt =>
      rw [insert_cons_gt ho, List.mem_cons] at h
      rcases h with rfl | h
      · exact .inl List.mem_cons_self
      · exact (ih h).imp_left (List.mem_cons_of_mem d)

theorem lt_of_lt_head {e : Path × α} (h : Sorted (e :: m)) (hp : p.order e.1 = .lt) :
    ∀ d ∈ e :: m, p.order d.1 = .lt := by
  intro d hd
  rcases List.mem_cons.1 hd with rfl | hd
  · exact hp
  · exact Path.order_lt_trans hp ((List.pairwise_cons.1 h).1 d hd)

theorem Sorted.insert (h : Sorted m) (p : Path) (a : α) : Sorted (insert p a m) := by
  induction m with
  | nil => exact List.pairwise_singleton _ _
  | cons e m ih =>
    obtain ⟨he, hm⟩ := List.pairwise_cons.1 h
    cases ho : p.order e.1 with
    | lt =>
      rw [insert_cons_lt ho]
      exact List.pairwise_cons.2 ⟨lt_of_lt_head h ho, h⟩
    | eq =>
      rw [insert_cons_eq ho]
      exact List.pairwise_cons.2 ⟨he, hm⟩
    | gt =>
      rw [insert_cons_gt ho]
      refine List.pairwise_cons.2 ⟨fun d hd => ?_, ih hm⟩
      rcases mem_insert hd with hd | ⟨hd, -⟩
      · exact he d hd
      · rw [Path.order_congr_right hd, ← Path.order_gt_iff_lt, ho]

theorem Sorted.erase (h : Sorted m) (p : Path) : Sorted (m.erase p) := List.Pairwise.filter _ h

@[simp]
theorem mem_erase {e : Path × α} : e ∈ m.erase p ↔ e ∈ m ∧ e.1.same p = false := by
  simp [erase]

def only (m : PathMap α) (p : Path) : PathMap α := m.filter fun e => e.1.same p

theorem only_cons_same {e : Path × α} (h : e.1.same p = true) (m : PathMap α) :
    only (e :: m) p = e :: only m p := by
  simp [only, h]

theorem only_cons_other {e : Path × α} (h : e.1.same p = false) (m : PathMap α) :
    only (e :: m) p = only m p := by
  simp [only, h]

theorem only_eq_nil_of_lt (hq : q.same p = true) (h : ∀ e ∈ m, q.order e.1 = .lt) :
    only m p = [] := by
  refine List.filter_eq_nil_iff.2 fun e he => ?_
  rw [Path.same_comm, ← Path.same_congr_left hq, Path.same_eq_false_of_order_lt (h e he)]
  decide

theorem get?_only (hq : q.same p = true) (m : PathMap α) : (m.only p).get? q = m.get? q := by
  induction m with
  | nil => rfl
  | cons e m ih =>
    have he : e.1.same q = e.1.same p := Path.same_congr_right hq e.1
    cases h : e.1.same p with
    | true => rw [only_cons_same h, get?_cons, get?_cons, ih]
    | false => simp [only_cons_other h, get?_cons, ih, he, h]

@[simp]
theorem keys_only (m : PathMap α) (p : Path) : (m.only p).keys = m.keys.filter (·.same p) := by
  rw [only, keys, keys, List.filter_map]
  rfl

theorem only_insert_same (h : Sorted m) (hq : q.same p = true) (a : α) :
    (insert q a m).only p = insert q a (m.only p) := by
  induction m with
  | nil => exact only_cons_same (e := (q, a)) hq []
  | cons e m ih =>
    cases ho : q.order e.1 with
    | lt =>
      -- Everything from here on comes after `q`.
      have hnil : only (e :: m) p = [] := only_eq_nil_of_lt hq (lt_of_lt_head h ho)
      rw [insert_cons_lt ho, only_cons_same (e := (q, a)) hq, hnil]
      rfl
    | eq =>
      have hep : e.1.same p = true := by
        rw [← Path.same_congr_left (Path.order_eq_iff.1 ho)]
        exact hq
      rw [insert_cons_eq ho, only_cons_same (e := (e.1, a)) hep, only_cons_same hep,
        insert_cons_eq ho]
    | gt =>
      have hep : e.1.same p = false := by
        rw [← Path.same_congr_right hq]
        exact Path.same_eq_false_of_order_lt (Path.order_gt_iff_lt.1 ho)
      rw [insert_cons_gt ho, only_cons_other hep, only_cons_other hep,
        ih (List.pairwise_cons.1 h).2]

theorem only_insert_other (hq : q.same p = false) (a : α) (m : PathMap α) :
    (insert q a m).only p = m.only p := by
  induction m with
  | nil => exact only_cons_other (e := (q, a)) hq []
  | cons e m ih =>
    cases ho : q.order e.1 with
    | lt =>
      rw [insert_cons_lt ho]
      exact only_cons_other (e := (q, a)) hq _
    | eq =>
      have hep : e.1.same p = false := by
        rw [← Path.same_congr_left (Path.order_eq_iff.1 ho)]
        exact hq
      rw [insert_cons_eq ho, only_cons_other (e := (e.1, a)) hep, only_cons_other hep]
    | gt =>
      rw [insert_cons_gt ho]
      cases hep : e.1.same p with
      | true => rw [only_cons_same hep, only_cons_same hep, ih]
      | false => rw [only_cons_other hep, only_cons_other hep, ih]

theorem only_erase (m : PathMap α) (p q : Path) : (m.erase q).only p = (m.only p).erase q := by
  simp only [only, erase, List.filter_filter, Bool.and_comm]

theorem only_erase_other (hq : q.same p = false) (m : PathMap α) :
    (m.erase q).only p = m.only p := by
  rw [only, erase, List.filter_filter]
  refine List.filter_congr fun e _ => ?_
  cases hep : e.1.same p with
  | false => rfl
  | true =>
    have heq : e.1.same q = false := by rw [Path.same_congr_left hep, Path.same_comm, hq]
    rw [heq]
    rfl

theorem isSome_get?_of_mem_keys (h : q ∈ m.keys) : (m.get? q).isSome = true := by
  rw [Option.isSome_iff_ne_none, Ne, get?_eq_none_iff]
  intro hnone
  have hself := hnone q h
  rw [Path.same_refl] at hself
  cases hself

theorem get?_of_mem (h : Sorted m) {e : Path × α} (he : e ∈ m) : m.get? e.1 = some e.2 := by
  induction m with
  | nil => cases he
  | cons d m ih =>
    obtain ⟨hd, hm⟩ := List.pairwise_cons.1 h
    rw [get?_cons]
    cases List.mem_cons.1 he with
    | inl heq => rw [heq, if_pos d.1.same_refl]
    | inr he =>
      rw [Path.same_eq_false_of_order_lt (hd e he), if_neg Bool.false_ne_true]
      exact ih hm he

theorem filter_keys_eq_singleton (h : Sorted m) (hp : (m.get? p).isSome = true) :
    ∃ q, m.keys.filter (·.same p) = [q] := by
  rw [← keys_only]
  induction m with
  | nil => cases hp
  | cons e m ih =>
    obtain ⟨he, hm⟩ := List.pairwise_cons.1 h
    cases hep : e.1.same p with
    | true => exact ⟨e.1, by rw [only_cons_same hep, only_eq_nil_of_lt hep he]; rfl⟩
    | false =>
      rw [only_cons_other hep]
      exact ih hm (by simpa [get?_cons, hep] using hp)

end PathMap

end PatternLint
