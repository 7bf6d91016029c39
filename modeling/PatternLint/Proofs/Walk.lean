import PatternLint.Proofs.FileTree
import PatternLint.Walk

/-! What a walk meets.
A walk goes down through every entry that is not ignored, so it meets a file exactly when none of
the names on the way to it is.  Each path that it gives leads to the file it stands for, and no
file comes twice. -/

namespace PatternLint

namespace Walk

/-- A walk meets a file: it stands on it, or goes on to it through an entry that is not ignored. -/
inductive Meets : Walk → FileTree → Path → FileContent → Prop
  | file (s : Walk) (content : FileContent) : Meets s (.file content) s.path content
  | entry {s : Walk} {entries : List (String × FileTree)} {e : String × FileTree} {p : Path}
      {content : FileContent} : e ∈ entries →
      (s.enter (.directory entries)).ignores e.1 e.2.isDirectory = false →
      Meets ((s.enter (.directory entries)).step e.1) e.2 p content →
      Meets s (.directory entries) p content

variable {s : Walk} {t : FileTree} {p : Path} {content : FileContent}

theorem filesIn_eq_flatMap (s : Walk) (entries : List (String × FileTree)) :
    s.filesIn entries = (entries.filter fun e => !s.ignores e.1 e.2.isDirectory).flatMap fun e =>
      (s.step e.1).files e.2 := by
  induction entries with
  | nil => rw [filesIn, List.filter_nil, List.flatMap_nil]
  | cons e entries ih =>
    rw [filesIn, ih, List.filter_cons]
    cases s.ignores e.1 e.2.isDirectory <;> simp

theorem files_directory (s : Walk) (entries : List (String × FileTree)) :
    s.files (.directory entries) =
      (entries.filter fun e =>
        !(s.enter (.directory entries)).ignores e.1 e.2.isDirectory).flatMap fun e =>
          ((s.enter (.directory entries)).step e.1).files e.2 := by
  rw [files, filesIn_eq_flatMap]

@[simp]
theorem mem_files_directory {entries : List (String × FileTree)} :
    p ∈ s.files (.directory entries) ↔ ∃ e ∈ entries,
      (s.enter (.directory entries)).ignores e.1 e.2.isDirectory = false ∧
        p ∈ ((s.enter (.directory entries)).step e.1).files e.2 := by
  simp only [files_directory, List.mem_flatMap, List.mem_filter, Bool.not_eq_true', and_assoc]

theorem mem_files_iff (ht : t.WellFormed) : p ∈ s.files t ↔ ∃ content, s.Meets t p content := by
  constructor
  · intro h
    -- A tree holds lists of trees; its well-formedness has the induction that this needs.
    induction ht generalizing s with
    | file content =>
      rw [files, List.mem_singleton] at h
      exact ⟨content, h ▸ .file s content⟩
    | other => simp [files] at h
    | directory _ _ _ ih =>
      obtain ⟨e, he, hkept, h⟩ := mem_files_directory.1 h
      obtain ⟨content, hmeets⟩ := ih e he h
      exact ⟨content, .entry he hkept hmeets⟩
  · rintro ⟨content, h⟩
    clear ht
    induction h with
    | file s content =>
      rw [files]
      exact List.mem_singleton_self _
    | entry he hkept _ ih => exact mem_files_directory.2 ⟨_, he, hkept, ih⟩

theorem Meets.find {w : Workspace} (h : s.Meets t p content) (ht : t.WellFormed)
    (hs : s.path.isAbsolute = true) (hfind : w.find s.path = .ok t) :
    w.find p = .ok (.file content) := by
  induction h with
  | file s content => exact hfind
  | entry he _ _ ih =>
    exact ih (ht.entries.2.2 _ he) (Path.isAbsolute_join hs _) (Workspace.find_join hs hfind ht he)

theorem Meets.isPrefix_components (h : s.Meets t p content) (ht : t.WellFormed)
    (hs : s.path.isAbsolute = true) : s.path.components <+: p.components := by
  induction h with
  | file s content => exact List.prefix_refl _
  | @entry s _ e _ _ he _ _ ih =>
    have hname := ht.entries.2.1 e he
    have hbelow : (s.path.join ⟨e.1⟩).components <+: _ :=
      ih (ht.entries.2.2 e he) (Path.isAbsolute_join hs _)
    rw [Path.components_join hs hname] at hbelow
    exact (List.prefix_append _ _).trans hbelow

theorem pairwise_files (ht : t.WellFormed) (hs : s.path.isAbsolute = true) :
    (s.files t).Pairwise fun p q => p.components ≠ q.components := by
  induction ht generalizing s with
  | file content =>
    rw [files]
    exact List.pairwise_singleton _ _
  | other =>
    rw [files]
    exact .nil
  | @directory entries hd hnames htrees ih =>
    -- What lies below an entry shows the name of the entry right after the path of the walk.
    have hbelow : ∀ e ∈ entries, ∀ p ∈ ((s.enter (.directory entries)).step e.1).files e.2,
        s.path.components ++ [.name e.1] <+: p.components := by
      intro e he p hp
      obtain ⟨content, hmeets⟩ := (mem_files_iff (htrees e he)).1 hp
      rw [← Path.components_join hs (hnames e he)]
      exact hmeets.isPrefix_components (htrees e he) (Path.isAbsolute_join hs _)
    rw [files_directory]
    refine List.pairwise_flatMap.2 ⟨fun e he => ?_, ?_⟩
    · exact ih e (List.mem_of_mem_filter he) (Path.isAbsolute_join hs _)
    · refine ((List.pairwise_map.1 hd).filter _).imp_of_mem ?_
      intro e d he hd hne p hp q hq heq
      have hep := hbelow e (List.mem_of_mem_filter he) p hp
      have hdq := hbelow d (List.mem_of_mem_filter hd) q hq
      rw [heq] at hep
      have hsame := (List.prefix_of_prefix_length_le hep hdq (by simp)).eq_of_length (by simp)
      exact hne (by simpa using hsame)

end Walk

end PatternLint
