import PatternLint.PathMap

/-! Look-ups in maps keyed by paths.
What `get?` finds depends on the components of a path only: `get?_insert` and `get?_erase` say it
for the two updates, `get?_congr` for two spellings of one document.  None of this needs the
entries to be in order. -/

namespace PatternLint

@[simp]
theorem Component.order_eq_iff (a b : Component) : order a b = .eq ↔ a = b := by
  cases a <;> cases b <;> simp [order, rank]

namespace Path

theorem same_iff {p q : Path} : p.same q = true ↔ p.components = q.components := by
  simp [same]

@[simp] theorem same_refl (p : Path) : p.same p = true := by simp [same]

theorem same_comm (p q : Path) : p.same q = q.same p := by
  simp only [same, Bool.beq_comm]

theorem same_trans {p q r : Path} (hpq : p.same q = true) (hqr : q.same r = true) :
    p.same r = true := by
  rw [same_iff] at *
  exact hpq.trans hqr

theorem same_congr_right {p q : Path} (h : p.same q = true) (r : Path) : r.same p = r.same q := by
  simp only [same, same_iff.1 h]

@[simp]
theorem orderComponents_eq_iff (as bs : List Component) :
    orderComponents as bs = .eq ↔ as = bs := by
  induction as generalizing bs with
  | nil => cases bs <;> simp [orderComponents]
  | cons a as ih =>
    cases bs with
    | nil => simp [orderComponents]
    | cons b bs => simp [orderComponents, Ordering.then_eq_eq, Component.order_eq_iff, ih]

@[simp]
theorem order_eq_iff {p q : Path} : p.order q = .eq ↔ p.same q = true := by
  rw [order, orderComponents_eq_iff, same_iff]

end Path

namespace PathMap

variable {α : Type}

@[simp] theorem get?_nil (p : Path) : get? ([] : PathMap α) p = none := rfl

theorem get?_cons (e : Path × α) (m : PathMap α) (p : Path) :
    get? (e :: m) p = if e.1.same p then some e.2 else get? m p := by
  by_cases h : e.1.same p = true <;> simp [get?, h]

theorem get?_congr {p q : Path} (h : p.same q = true) (m : PathMap α) : m.get? p = m.get? q := by
  induction m with
  | nil => rfl
  | cons e m ih => rw [get?_cons, get?_cons, Path.same_congr_right h, ih]

theorem get?_insert (p q : Path) (a : α) (m : PathMap α) :
    (insert p a m).get? q = if p.same q then some a else m.get? q := by
  induction m with
  | nil => simp [insert, get?_cons]
  | cons e m ih =>
    rw [insert]
    cases h : p.order e.1 with
    | lt => simp [get?_cons]
    | eq =>
      have he : p.same e.1 = true := Path.order_eq_iff.1 h
      have hq : e.1.same q = p.same q := by
        rw [Path.same_comm e.1, Path.same_comm p, Path.same_congr_right he]
      simp only [get?_cons, hq]
      split <;> rfl
    | gt =>
      -- The entry passed over is no spelling of `p`, so it cannot answer for one either.
      have he : p.same e.1 ≠ true := by
        rw [Ne, ← Path.order_eq_iff, h]
        decide
      simp only [get?_cons, ih]
      by_cases hq : p.same q = true
      · have heq : e.1.same q ≠ true := by
          intro heq
          exact he (Path.same_trans hq (by rw [Path.same_comm]; exact heq))
        simp [hq, heq]
      · simp [hq]

theorem get?_erase (p q : Path) (m : PathMap α) :
    (erase m p).get? q = if p.same q then none else m.get? q := by
  induction m with
  | nil => simp [erase]
  | cons e m ih =>
    by_cases he : e.1.same p = true
    · have hq : e.1.same q = p.same q := by
        rw [Path.same_comm e.1, Path.same_comm p, Path.same_congr_right he]
      have hdrop : erase (e :: m) p = erase m p := by simp [erase, he]
      rw [hdrop, ih, get?_cons, hq]
      split <;> rfl
    · have hkeep : erase (e :: m) p = e :: erase m p := by simp [erase, he]
      rw [hkeep, get?_cons, get?_cons, ih]
      by_cases hq : p.same q = true
      · have heq : e.1.same q ≠ true := by rwa [← Path.same_congr_right hq]
        simp [hq, heq]
      · simp [hq]

theorem get?_eq_none_iff (m : PathMap α) (p : Path) :
    m.get? p = none ↔ ∀ q ∈ m.keys, q.same p = false := by
  simp [get?, keys]

theorem exists_key_of_get? {m : PathMap α} {p : Path} {a : α} (h : m.get? p = some a) :
    ∃ q ∈ m.keys, q.same p = true := by
  obtain ⟨e, he, -⟩ := Option.map_eq_some_iff.1 h
  exact ⟨e.1, List.mem_map_of_mem (List.mem_of_find?_eq_some he),
    List.find?_some (p := fun e : Path × α => e.1.same p) he⟩

end PathMap

end PatternLint
