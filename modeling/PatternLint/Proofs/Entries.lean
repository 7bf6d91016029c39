import Mathlib.Data.List.Nodup

/-! Lists of entries with names.
As long as no name occurs twice, looking a name up finds the one entry that has it, wherever that
stands. -/

namespace PatternLint

variable {α : Type} {entries entries' before after : List (String × α)} {name key : String}

theorem lookup_of_mem (hd : (entries.map Prod.fst).Nodup) {e : String × α} (he : e ∈ entries) :
    entries.lookup e.1 = some e.2 := by
  induction entries with
  | nil => cases he
  | cons d entries ih =>
    rw [List.map_cons, List.nodup_cons] at hd
    rcases List.mem_cons.1 he with rfl | he
    · exact List.lookup_cons_self
    · have hne : e.1 ≠ d.1 := fun heq => hd.1 (heq ▸ List.mem_map_of_mem he)
      rw [List.lookup_cons, beq_false_of_ne hne]
      exact ih hd.2 he

theorem mem_of_lookup {a : α} (h : entries.lookup name = some a) : (name, a) ∈ entries := by
  obtain ⟨before, after, rfl, -⟩ := List.lookup_eq_some_iff.1 h
  simp

theorem lookup_eq_some_iff_mem (hd : (entries.map Prod.fst).Nodup) {a : α} :
    entries.lookup name = some a ↔ (name, a) ∈ entries :=
  ⟨mem_of_lookup, lookup_of_mem hd⟩

theorem lookup_eq_none_iff_notMem : entries.lookup name = none ↔ name ∉ entries.map Prod.fst := by
  rw [List.lookup_eq_none_iff, List.mem_map, not_exists]
  refine forall_congr' fun e => ?_
  rw [bne_iff_ne, ne_comm, not_and]

theorem lookup_eq_of_perm (hd : (entries.map Prod.fst).Nodup) (h : entries.Perm entries')
    (name : String) : entries.lookup name = entries'.lookup name := by
  have hd' : (entries'.map Prod.fst).Nodup := (h.map Prod.fst).nodup_iff.1 hd
  ext a
  rw [lookup_eq_some_iff_mem hd, lookup_eq_some_iff_mem hd', h.mem_iff]

theorem lookup_cons_of_ne (a : α) (h : name ≠ key) :
    ((key, a) :: entries).lookup name = entries.lookup name := by
  rw [List.lookup_cons, beq_false_of_ne h]

theorem lookup_append_cons_self (a : α) (h : key ∉ before.map Prod.fst) :
    (before ++ (key, a) :: after).lookup key = some a := by
  rw [List.lookup_append, lookup_eq_none_iff_notMem.2 h, Option.none_or, List.lookup_cons_self]

theorem lookup_append_cons_of_ne (a a' : α) (h : name ≠ key) :
    (before ++ (key, a) :: after).lookup name = (before ++ (key, a') :: after).lookup name := by
  rw [List.lookup_append, List.lookup_append, lookup_cons_of_ne a h, lookup_cons_of_ne a' h]

@[simp]
theorem lookup_filter_self (key : String) (entries : List (String × α)) :
    (entries.filter fun e => e.1 != key).lookup key = none := by
  rw [lookup_eq_none_iff_notMem]
  simp

theorem lookup_filter_of_ne (entries : List (String × α)) (h : name ≠ key) :
    (entries.filter fun e => e.1 != key).lookup name = entries.lookup name := by
  induction entries with
  | nil => rfl
  | cons e entries ih =>
    by_cases he : e.1 = key
    · rw [List.filter_cons_of_neg (by simp [he]), ih, ← lookup_cons_of_ne e.2 (he ▸ h)]
    · rw [List.filter_cons_of_pos (by simp [he]), List.lookup_cons, List.lookup_cons, ih]

end PatternLint
