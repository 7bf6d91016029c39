import Mathlib.Algebra.Ring.Nat
import Mathlib.Data.List.Sort
import PatternLint.Text.Names

/-! Sorted names and tables of how often names occur.
A table is read by spelling it out: `perm_spelledOut_countName` says that counting a name adds that
name and nothing else, and the entries, the keys and the sum of a table follow from it. -/

namespace PatternLint

theorem nodup_eraseDups (names : List String) : names.eraseDups.Nodup := by
  -- The recursion goes over what the head leaves of the tail.
  induction h : names.length using Nat.strongRecOn generalizing names with
  | ind n ih =>
    cases names with
    | nil => exact List.nodup_nil
    | cons name names =>
      have hshorter : (names.filter fun other => !other == name).length < n := by
        have hle := names.length_filter_le fun other => !other == name
        rw [List.length_cons] at h
        omega
      rw [List.eraseDups_cons, List.nodup_cons]
      refine ⟨fun hmem => ?_, ih _ hshorter _ rfl⟩
      simp at hmem

@[simp]
theorem mem_distinctSorted {names : List String} {n : String} :
    n ∈ distinctSorted names ↔ n ∈ names := by
  rw [distinctSorted, List.mem_mergeSort, List.mem_eraseDups]

theorem pairwise_distinctSorted (names : List String) :
    (distinctSorted names).Pairwise (· < ·) := by
  have hsorted : (distinctSorted names).Pairwise fun a b => decide (a ≤ b) = true := by
    refine List.pairwise_mergeSort (fun a b c hab hbc => ?_) (fun a b => ?_) _
    · rw [decide_eq_true_eq] at *
      exact Std.le_trans hab hbc
    · simpa using String.le_total a b
  have hnodup : (distinctSorted names).Nodup :=
    (List.mergeSort_perm _ _).nodup_iff.2 (nodup_eraseDups names)
  refine (hsorted.and hnodup).imp fun ⟨hle, hne⟩ => ?_
  exact Std.lt_of_le_of_ne (of_decide_eq_true hle) hne

def spelledOut (table : List (String × Nat)) : List String :=
  table.flatMap fun e => List.replicate e.2 e.1

@[simp]
theorem spelledOut_cons (e : String × Nat) (table : List (String × Nat)) :
    spelledOut (e :: table) = List.replicate e.2 e.1 ++ spelledOut table := rfl

@[simp]
theorem length_spelledOut (table : List (String × Nat)) :
    (spelledOut table).length = (table.map Prod.snd).sum := by
  simp [spelledOut, List.length_flatMap]

theorem fst_mem_of_mem_spelledOut {table : List (String × Nat)} {n : String}
    (h : n ∈ spelledOut table) : n ∈ table.map Prod.fst := by
  obtain ⟨e, he, hn⟩ := List.mem_flatMap.1 h
  rw [List.eq_of_mem_replicate hn]
  exact List.mem_map_of_mem he

theorem perm_spelledOut_countName (table : List (String × Nat)) (name : String) :
    (spelledOut (countName table name)).Perm (name :: spelledOut table) := by
  induction table with
  | nil => exact .refl _
  | cons e table ih =>
    rw [countName]
    split
    · exact .refl _
    · split
      · rename_i heq
        rw [spelledOut_cons, List.replicate_succ, heq]
        exact .refl _
      · rw [spelledOut_cons, spelledOut_cons]
        exact (ih.append_left _).trans List.perm_middle

@[simp]
theorem mem_keys_countName {table : List (String × Nat)} {name n : String} :
    n ∈ (countName table name).map Prod.fst ↔ n = name ∨ n ∈ table.map Prod.fst := by
  induction table with
  | nil => simp [countName]
  | cons e table ih =>
    rw [countName]
    split
    · simp
    · split
      · simp_all
      · rw [List.map_cons, List.mem_cons, ih, List.map_cons, List.mem_cons, or_left_comm]

/-- A table with ascending names and without empty entries that counts the names of a list. -/
structure Tallies (names : List String) (table : List (String × Nat)) : Prop where
  ascending : (table.map Prod.fst).Pairwise (· < ·)
  positive : ∀ e ∈ table, e.2 ≠ 0
  perm : (spelledOut table).Perm names

theorem pairwise_keys_countName {table : List (String × Nat)}
    (h : (table.map Prod.fst).Pairwise (· < ·)) (name : String) :
    ((countName table name).map Prod.fst).Pairwise (· < ·) := by
  induction table with
  | nil => exact List.pairwise_singleton _ _
  | cons e table ih =>
    obtain ⟨he, htable⟩ := List.pairwise_cons.1 h
    rw [countName]
    split
    · rename_i hlt
      refine List.pairwise_cons.2 ⟨fun n hn => ?_, h⟩
      cases List.mem_cons.1 hn with
      | inl heq => exact heq ▸ hlt
      | inr hn => exact String.lt_trans hlt (he n hn)
    · split
      · exact h
      · rename_i hnot hne
        refine List.pairwise_cons.2 ⟨fun n hn => ?_, ih htable⟩
        cases mem_keys_countName.1 hn with
        | inl heq => exact heq ▸ Std.lt_of_le_of_ne (String.not_lt.1 hnot) (Ne.symm hne)
        | inr hn => exact he n hn

theorem positive_countName {table : List (String × Nat)} (h : ∀ e ∈ table, e.2 ≠ 0)
    (name : String) : ∀ e ∈ countName table name, e.2 ≠ 0 := by
  induction table with
  | nil => simp [countName]
  | cons e table ih =>
    obtain ⟨he, htable⟩ := List.forall_mem_cons.1 h
    rw [countName]
    split
    · exact List.forall_mem_cons.2 ⟨Nat.one_ne_zero, h⟩
    · split
      · exact List.forall_mem_cons.2 ⟨Nat.succ_ne_zero _, htable⟩
      · exact List.forall_mem_cons.2 ⟨he, ih htable⟩

namespace Tallies

variable {names : List String} {table : List (String × Nat)}

theorem countName (h : Tallies names table) (name : String) :
    Tallies (name :: names) (countName table name) where
  ascending := pairwise_keys_countName h.ascending name
  positive := positive_countName h.positive name
  perm := (perm_spelledOut_countName table name).trans (h.perm.cons name)

theorem foldl_countName (h : Tallies names table) (more : List String) :
    Tallies (more ++ names) (more.foldl PatternLint.countName table) := by
  induction more generalizing names table with
  | nil => exact h
  | cons name more ih =>
    have hnext := ih (h.countName name)
    exact ⟨hnext.ascending, hnext.positive, hnext.perm.trans List.perm_middle⟩

end Tallies

theorem tallies_nameCounts (names : List String) : Tallies names (nameCounts names) := by
  have hempty : Tallies [] [] := ⟨.nil, by simp, .refl _⟩
  have h := hempty.foldl_countName names
  rwa [List.append_nil] at h

theorem count_spelledOut {table : List (String × Nat)}
    (h : (table.map Prod.fst).Pairwise (· < ·)) {e : String × Nat} (he : e ∈ table) :
    (spelledOut table).count e.1 = e.2 := by
  induction table with
  | nil => cases he
  | cons d table ih =>
    obtain ⟨hd, htable⟩ := List.pairwise_cons.1 h
    rw [spelledOut_cons, List.count_append]
    cases List.mem_cons.1 he with
    | inl heq =>
      have hnot : e.1 ∉ spelledOut table := fun hmem =>
        String.lt_irrefl _ (heq ▸ hd e.1 (fst_mem_of_mem_spelledOut hmem))
      rw [List.count_eq_zero_of_not_mem hnot, heq, List.count_replicate_self, Nat.add_zero]
    | inr he =>
      have hlt : d.1 < e.1 := hd e.1 (List.mem_map_of_mem he)
      have hne : e.1 ∉ List.replicate d.2 d.1 := fun hmem =>
        String.lt_irrefl _ (List.eq_of_mem_replicate hmem ▸ hlt)
      rw [List.count_eq_zero_of_not_mem hne, ih htable he, Nat.zero_add]

namespace Tallies

variable {names : List String} {table : List (String × Nat)}

theorem mem_keys_iff (h : Tallies names table) {n : String} :
    n ∈ table.map Prod.fst ↔ n ∈ names := by
  rw [← h.perm.mem_iff]
  refine ⟨fun hn => ?_, fst_mem_of_mem_spelledOut⟩
  obtain ⟨e, he, rfl⟩ := List.mem_map.1 hn
  exact List.mem_flatMap.2 ⟨e, he, List.mem_replicate.2 ⟨h.positive e he, rfl⟩⟩

theorem mem_iff (h : Tallies names table) {n : String} {k : Nat} :
    (n, k) ∈ table ↔ k = names.count n ∧ k ≠ 0 := by
  constructor
  · intro he
    exact ⟨(count_spelledOut h.ascending he).symm.trans (h.perm.count_eq n), h.positive _ he⟩
  · intro ⟨hk, hne⟩
    rw [hk] at hne
    have hn : n ∈ table.map Prod.fst :=
      h.mem_keys_iff.2 (List.count_pos_iff.1 (Nat.pos_of_ne_zero hne))
    obtain ⟨e, he, rfl⟩ := List.mem_map.1 hn
    rw [hk, ← h.perm.count_eq, count_spelledOut h.ascending he]
    exact he

theorem keys_eq (h : Tallies names table) : table.map Prod.fst = distinctSorted names :=
  h.ascending.eq_of_mem_iff (pairwise_distinctSorted names) fun _ =>
    h.mem_keys_iff.trans mem_distinctSorted.symm

theorem sum_eq (h : Tallies names table) : (table.map Prod.snd).sum = names.length := by
  rw [← length_spelledOut, h.perm.length_eq]

end Tallies

end PatternLint
