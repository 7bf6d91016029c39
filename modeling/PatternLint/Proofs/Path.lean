import Mathlib.Data.List.Basic
import PatternLint.Path

/-! Names appended to paths.
A name that an entry of a directory can have is one step: appended to a path that begins at the
root it adds itself to the components, whether the path ends in a slash or not. -/

namespace PatternLint

structure IsEntryName (name : String) : Prop where
  nonempty : name ≠ ""
  whole : '/' ∉ name.toList
  notHere : name ≠ "."
  notUp : name ≠ ".."

instance (name : String) : Decidable (IsEntryName name) :=
  decidable_of_iff (name ≠ "" ∧ '/' ∉ name.toList ∧ name ≠ "." ∧ name ≠ "..")
    ⟨fun ⟨nonempty, whole, notHere, notUp⟩ => ⟨nonempty, whole, notHere, notUp⟩,
      fun h => ⟨h.nonempty, h.whole, h.notHere, h.notUp⟩⟩

theorem IsEntryName.toList_ne {name : String} (h : IsEntryName name) :
    name.toList ≠ [] ∧ name.toList ≠ ['.'] ∧ name.toList ≠ ['.', '.'] := by
  have hne : ∀ other : String, name ≠ other → name.toList ≠ other.toList := fun _ hne heq =>
    hne (String.toList_injective heq)
  exact ⟨hne "" h.nonempty, hne "." h.notHere, hne ".." h.notUp⟩

namespace Path

theorem exists_pieces (s : List Char) : ∃ first rest, pieces s = first :: rest := by
  cases s with
  | nil => exact ⟨[], [], rfl⟩
  | cons c s =>
    rw [pieces]
    split
    · exact ⟨_, _, rfl⟩
    · split <;> exact ⟨_, _, rfl⟩

theorem pieces_of_notMem {s : List Char} (h : '/' ∉ s) : pieces s = [s] := by
  induction s with
  | nil => rfl
  | cons c s ih =>
    rw [List.mem_cons, not_or] at h
    simp [pieces, Ne.symm h.1, ih h.2]

@[simp]
theorem pieces_append_slash (a b : List Char) : pieces (a ++ '/' :: b) = pieces a ++ pieces b := by
  induction a with
  | nil => simp [pieces]
  | cons c a ih =>
    by_cases hc : c = '/'
    · simp [pieces, hc, ih]
    · obtain ⟨first, rest, ha⟩ := exists_pieces a
      simp [pieces, hc, ih, ha]

theorem pieces_eq_splitOn (s : List Char) : pieces s = s.splitOn '/' := by
  induction s with
  | nil => rfl
  | cons c s ih =>
    obtain ⟨first, rest, hs⟩ := exists_pieces s
    rw [pieces, ih, List.splitOn_cons_eq_if_modifyHead]
    rw [ih] at hs
    simp [hs]

@[simp]
theorem intercalate_pieces (s : List Char) : ['/'].intercalate (pieces s) = s := by
  rw [pieces_eq_splitOn, List.intercalate_splitOn]

theorem pieces_intercalate {parts : List (List Char)} (hne : parts ≠ [])
    (h : ∀ part ∈ parts, '/' ∉ part) : pieces (['/'].intercalate parts) = parts := by
  rw [pieces_eq_splitOn, List.splitOn_intercalate '/' h hne]

theorem slash_notMem_of_mem_pieces {s piece : List Char} (h : piece ∈ pieces s) :
    '/' ∉ piece := by
  induction s generalizing piece with
  | nil =>
    rw [pieces, List.mem_singleton] at h
    simp [h]
  | cons c s ih =>
    obtain ⟨first, rest, hs⟩ := exists_pieces s
    rw [hs, List.forall_mem_cons] at ih
    rw [pieces] at h
    split at h
    · rcases List.mem_cons.1 h with rfl | h
      · simp
      · rw [hs, List.mem_cons] at h
        rcases h with rfl | h
        · exact ih.1
        · exact ih.2 piece h
    · rename_i hc
      simp only [hs, List.mem_cons] at h
      rcases h with rfl | h
      · simpa using ⟨Ne.symm hc, ih.1⟩
      · exact ih.2 piece h

theorem pieces_eq_cons_iff {name s : List Char} (hname : '/' ∉ name) :
    (∃ rest, rest ≠ [] ∧ pieces s = name :: rest) ↔ name ++ ['/'] <+: s := by
  constructor
  · rintro ⟨rest, hrest, hs⟩
    obtain ⟨second, others, rfl⟩ := List.exists_cons_of_ne_nil hrest
    rw [← intercalate_pieces s, hs, List.intercalate_cons_cons]
    exact List.prefix_append _ _
  · rintro ⟨t, rfl⟩
    obtain ⟨first, others, ht⟩ := exists_pieces t
    refine ⟨pieces t, by simp [ht], ?_⟩
    rw [List.append_assoc, List.singleton_append, pieces_append_slash, pieces_of_notMem hname,
      List.singleton_append]

theorem mem_dropLast_pieces_iff {name s : List Char} (hname : '/' ∉ name) :
    name ∈ (pieces s).dropLast ↔ name ++ ['/'] <+: s ∨ name ∈ (pieces s).tail.dropLast := by
  rw [← pieces_eq_cons_iff hname]
  obtain ⟨first, rest, hs⟩ := exists_pieces s
  rw [hs]
  cases rest <;> simp [eq_comm]

theorem eq_nil_of_pieces {s : List Char} (h : pieces s = [[]]) : s = [] := by
  cases s with
  | nil => rfl
  | cons c s =>
    obtain ⟨first, rest, hs⟩ := exists_pieces s
    rw [pieces, hs] at h
    split at h <;> simp at h

def stepOf (piece : List Char) : Option Component :=
  if piece = [] ∨ piece = ['.'] then none
  else if piece = ['.', '.'] then some .up
  else some (.name (String.ofList piece))

theorem stepOf_toList {name : String} (h : IsEntryName name) :
    stepOf name.toList = some (.name name) := by
  obtain ⟨hnil, hhere, hup⟩ := h.toList_ne
  simp [stepOf, hhere, hup, h.nonempty]

theorem stepOf_eq_some_name_iff {piece : List Char} {name : String} (hname : IsEntryName name) :
    stepOf piece = some (.name name) ↔ piece = name.toList := by
  constructor
  · intro h
    rw [stepOf] at h
    split_ifs at h
    · cases h
    · obtain rfl := Component.name.inj (Option.some.inj h)
      rw [String.toList_ofList]
  · rintro rfl
    exact stepOf_toList hname

theorem text_of_stepOf {piece : List Char} {step : Component} (h : stepOf piece = some step) :
    step.text.toList = piece := by
  rw [stepOf] at h
  split_ifs at h with hidle hup
  · rw [← Option.some.inj h, hup]
    rfl
  · rw [← Option.some.inj h]
    exact String.toList_ofList

theorem ne_root_of_stepOf {piece : List Char} {step : Component} (h : stepOf piece = some step) :
    step ≠ .root := by
  rintro rfl
  rw [stepOf] at h
  split_ifs at h <;> cases h

theorem componentsOf_of_pieces {s first : List Char} {rest : List (List Char)}
    (h : pieces s = first :: rest) :
    componentsOf s =
      if first = [] then (if rest = [] then [] else .root :: rest.filterMap stepOf)
      else if first = ['.'] then .here :: rest.filterMap stepOf
      else [first].filterMap stepOf ++ rest.filterMap stepOf := by
  rw [← List.filterMap_append]
  simp only [componentsOf, h]
  rfl

theorem componentsOf_append_name {name : String} (h : IsEntryName name) (s : List Char) :
    componentsOf (s ++ '/' :: name.toList) = componentsOf (s ++ ['/']) ++ [.name name] := by
  obtain ⟨first, rest, hs⟩ := exists_pieces s
  have hname : pieces (s ++ '/' :: name.toList) = first :: (rest ++ [name.toList]) := by
    rw [pieces_append_slash, hs, pieces_of_notMem h.whole, List.cons_append]
  have hslash : pieces (s ++ ['/']) = first :: (rest ++ [[]]) := by
    rw [pieces_append_slash, hs, pieces, List.cons_append]
  have hidle : stepOf [] = none := rfl
  rw [componentsOf_of_pieces hname, componentsOf_of_pieces hslash]
  split_ifs <;> simp_all [stepOf_toList h]

theorem componentsOf_append_slash {s : List Char} (h : s ≠ []) :
    componentsOf (s ++ ['/']) = componentsOf s := by
  obtain ⟨first, rest, hs⟩ := exists_pieces s
  have hslash : pieces (s ++ ['/']) = first :: (rest ++ [[]]) := by
    rw [pieces_append_slash, hs, pieces, List.cons_append]
  have hidle : stepOf [] = none := rfl
  rw [componentsOf_of_pieces hs, componentsOf_of_pieces hslash]
  by_cases hempty : first = [] ∧ rest = []
  · rw [hempty.1, hempty.2] at hs
    exact absurd (eq_nil_of_pieces hs) h
  · split_ifs <;> simp_all

theorem spell_eq_spellSteps {steps : List Component} (h : .root ∉ steps) :
    spell steps = spell.spellSteps steps := by
  cases steps with
  | nil => rfl
  | cons step steps =>
    cases step with
    | root => simp at h
    | here | up | name => rfl

theorem dropLast_pieces_spell {steps : List Component} (hroot : .root ∉ steps)
    (hwhole : ∀ step ∈ steps, '/' ∉ step.text.toList) :
    (pieces (spell steps).toList).dropLast = steps.dropLast.map fun step => step.text.toList := by
  rw [spell_eq_spellSteps hroot, spell.spellSteps, String.toList_intercalate, List.map_map,
    List.map_dropLast]
  by_cases hnil : steps = []
  · rw [hnil]
    rfl
  · rw [show "/".toList = ['/'] from rfl, pieces_intercalate (by simpa using hnil)]
    · rfl
    · simpa using hwhole

theorem isAbsolute_iff {p : Path} : p.isAbsolute = true ↔ ['/'] <+: p.spelling.toList :=
  String.startsWith_string_iff

theorem isAbsolute_join {p : Path} (hp : p.isAbsolute = true) (q : Path) :
    (p.join q).isAbsolute = true := by
  rw [join]
  split
  · assumption
  · rw [isAbsolute_iff] at hp ⊢
    split
    · rw [String.toList_append]
      exact hp.trans (List.prefix_append _ _)
    · rw [String.toList_append, String.toList_append, List.append_assoc]
      exact hp.trans (List.prefix_append _ _)

theorem join_of_isAbsolute (p : Path) {q : Path} (hq : q.isAbsolute = true) : p.join q = q :=
  if_pos hq

theorem exists_spelling_join_relative {p q : Path} (hp : p.isAbsolute = true)
    (hq : q.isAbsolute = false) :
    ∃ s, (p.join q).spelling.toList = s ++ '/' :: q.spelling.toList ∧
      p.components = componentsOf (s ++ ['/']) ∧ (s = [] ∨ ['/'] <+: s) := by
  obtain ⟨below, hbelow⟩ := isAbsolute_iff.1 hp
  have hnonempty : p.spelling.toList ≠ [] := by simp [← hbelow]
  have hspelled : p.spelling.isEmpty = false := by
    simpa using fun h => hnonempty (by rw [h]; rfl)
  rw [join, hq, hspelled]
  simp only [Bool.false_eq_true, if_false, Bool.false_or]
  split
  · rename_i hslash
    rw [← String.endsWith_toSlice, String.Slice.endsWith_string_iff, String.copy_toSlice] at hslash
    obtain ⟨s, hs⟩ := hslash
    refine ⟨s, ?_, by rw [components, ← hs]; rfl, ?_⟩
    · rw [String.toList_append, ← hs]
      simp
    · cases s with
      | nil => exact .inl rfl
      | cons c s =>
        rw [← hs] at hbelow
        exact .inr ⟨s, by rw [(List.cons.inj hbelow).1]; rfl⟩
  · refine ⟨p.spelling.toList, by simp, ?_, .inr ⟨below, hbelow⟩⟩
    rw [components, componentsOf_append_slash hnonempty]

theorem exists_spelling_join {p : Path} (hp : p.isAbsolute = true) {name : String}
    (hname : IsEntryName name) :
    ∃ s, (p.join ⟨name⟩).spelling.toList = s ++ '/' :: name.toList ∧
      p.components = componentsOf (s ++ ['/']) := by
  have hrelative : Path.isAbsolute ⟨name⟩ = false := by
    rw [← Bool.not_eq_true, isAbsolute_iff]
    exact fun hslash => hname.whole (hslash.subset List.mem_cons_self)
  obtain ⟨s, hspelling, hcomponents, -⟩ := exists_spelling_join_relative hp hrelative
  exact ⟨s, hspelling, hcomponents⟩

theorem components_join {p : Path} (hp : p.isAbsolute = true) {name : String}
    (hname : IsEntryName name) : (p.join ⟨name⟩).components = p.components ++ [.name name] := by
  obtain ⟨s, hspelling, hcomponents⟩ := exists_spelling_join hp hname
  rw [components, hspelling, componentsOf_append_name hname, hcomponents]

/-- Below an absolute path, the pieces of the way down come after those of the path, and so do the
components. -/
theorem exists_pieces_join {p q : Path} (hp : p.isAbsolute = true) (hq : q.isAbsolute = false) :
    ∃ above, pieces (p.join q).spelling.toList = [] :: above ++ pieces q.spelling.toList ∧
      p.components = .root :: above.filterMap stepOf ∧
      (p.join q).components = p.components ++ (pieces q.spelling.toList).filterMap stepOf := by
  obtain ⟨s, hspelling, hcomponents, hs⟩ := exists_spelling_join_relative hp hq
  obtain ⟨above, habove⟩ : ∃ above, pieces s = [] :: above := by
    rcases hs with rfl | ⟨t, rfl⟩
    · exact ⟨[], rfl⟩
    · exact ⟨pieces t, by simp [pieces]⟩
  obtain ⟨first, rest, hfirst⟩ := exists_pieces q.spelling.toList
  have hpieces : pieces (p.join q).spelling.toList = [] :: (above ++ pieces q.spelling.toList) := by
    rw [hspelling, pieces_append_slash, habove, List.cons_append]
  have hroot : p.components = .root :: above.filterMap stepOf := by
    have hslash : pieces (s ++ ['/']) = [] :: (above ++ [[]]) := by
      rw [pieces_append_slash, habove, pieces, List.cons_append]
    have hidle : stepOf [] = none := rfl
    rw [hcomponents, componentsOf_of_pieces hslash]
    simp [hidle]
  refine ⟨above, hpieces, hroot, ?_⟩
  rw [components, componentsOf_of_pieces hpieces, hroot]
  simp [hfirst]

end Path

end PatternLint
