import PatternLint.Proofs.Except
import PatternLint.Proofs.Path
import PatternLint.Scan

/-! What the standard exclusions leave out.
Each of them names a directory, and a path matches it exactly if it leads through a directory of
that name.  A scan tries the path as it was walked, from the root of the file system on, so a
directory above the root of the scan counts like one below it. -/

namespace PatternLint

def directoryGlob (name : String) : Glob :=
  .anyDirectories :: ((name.toList ++ ['/']).map .char ++ [.anyDirectories])

/-- The names of the directories that the standard exclusions leave out. -/
def standardExcluded : List String := ["build", "third_party"]

theorem parse_standard_exclude :
    AnalyzerConfig.standard.exclude.mapM Glob.parse = .ok (standardExcluded.map directoryGlob) := by
  have hbuild : Glob.parse "**/build/**" = .ok (directoryGlob "build") := by
    simp [Glob.parse, Glob.parseFrom, directoryGlob]
  have hthirdParty : Glob.parse "**/third_party/**" = .ok (directoryGlob "third_party") := by
    simp [Glob.parse, Glob.parseFrom, directoryGlob]
  simp only [AnalyzerConfig.standard, List.mapM_cons, List.mapM_nil, hbuild, hthirdParty]
  rfl

theorem isEntryName_of_mem_standardExcluded {name : String} (h : name ∈ standardExcluded) :
    IsEntryName name := by
  revert name
  decide

namespace Glob

theorem nil_mem_afterSlashes (s : List Char) : [] ∈ belowDirectories.afterSlashes s := by
  induction s with
  | nil => exact List.mem_singleton_self []
  | cons c s ih =>
    rw [belowDirectories.afterSlashes]
    split
    · exact List.mem_cons_of_mem s ih
    · exact ih

@[simp]
theorem accepts_anyDirectories (s : List Char) : accepts [.anyDirectories] s = true := by
  rw [accepts, List.any_eq_true]
  exact ⟨[], List.mem_cons_of_mem s (nil_mem_afterSlashes s), rfl⟩

@[simp]
theorem accepts_chars_append {name : List Char} {items : Glob} {s : List Char} :
    accepts (name.map .char ++ items) s = true ↔
      ∃ rest, s = name ++ rest ∧ items.accepts rest = true := by
  induction name generalizing s with
  | nil => simp
  | cons c name ih =>
    cases s with
    | nil => simp [accepts]
    | cons d s => simp [accepts, GlobItem.accepts, ih, and_assoc]

theorem exists_mem_afterSlashes_iff {name s : List Char} (hname : '/' ∉ name) :
    (∃ t ∈ belowDirectories.afterSlashes s, name ++ ['/'] <+: t) ↔
      name ∈ (Path.pieces s).tail.dropLast := by
  induction s with
  | nil => simp [belowDirectories.afterSlashes, Path.pieces]
  | cons c s ih =>
    rw [belowDirectories.afterSlashes, Path.pieces]
    by_cases hc : c = '/'
    · simp only [hc, beq_self_eq_true, if_true, List.exists_mem_cons_iff, ih, List.tail_cons]
      rw [Path.mem_dropLast_pieces_iff hname]
    · obtain ⟨first, rest, hs⟩ := Path.exists_pieces s
      rw [hs] at ih
      simp only [beq_iff_eq, hc, if_false, ih, hs, List.tail_cons]

theorem accepts_directoryGlob_iff {name : String} (hname : '/' ∉ name.toList) {s : List Char} :
    (directoryGlob name).accepts s = true ↔ name.toList ∈ (Path.pieces s).dropLast := by
  have hbegins : ∀ t, accepts ((name.toList ++ ['/']).map .char ++ [.anyDirectories]) t = true ↔
      name.toList ++ ['/'] <+: t := by
    intro t
    rw [accepts_chars_append]
    simp only [accepts_anyDirectories, and_true, List.IsPrefix, eq_comm]
  rw [directoryGlob, accepts, List.any_eq_true, belowDirectories]
  simp only [hbegins, List.exists_mem_cons_iff]
  rw [exists_mem_afterSlashes_iff hname, ← Path.mem_dropLast_pieces_iff hname]

end Glob

theorem exists_of_mem_dropLast_filterMap {α β : Type} {f : α → Option β} {l : List α} {b : β}
    (h : b ∈ (l.filterMap f).dropLast) : ∃ a ∈ l.dropLast, f a = some b := by
  rcases l.eq_nil_or_concat with rfl | ⟨l, last, rfl⟩
  · simp at h
  · rw [List.concat_eq_append, List.dropLast_concat, ← List.mem_filterMap]
    rw [List.concat_eq_append, List.filterMap_append] at h
    cases hlast : f last with
    | none =>
      simp only [List.filterMap_cons, hlast, List.filterMap_nil, List.append_nil] at h
      exact List.dropLast_subset _ h
    | some b' =>
      simpa [hlast] using h

namespace Path

/-- The names of the directories that a path leads through, as they are spelled. -/
def directories (p : Path) : List String := (pieces p.spelling.toList).dropLast.map String.ofList

/-- Whether a path leads through a directory that the standard exclusions leave out. -/
def liesInExcluded (p : Path) : Bool := standardExcluded.any fun name => p.directories.contains name

/-- Whether a directory that the standard exclusions leave out is one of the steps of a path, its
last one included. -/
def crossesExcluded (p : Path) : Bool :=
  standardExcluded.any fun name => p.components.contains (.name name)

theorem mem_directories_iff {p : Path} {name : String} :
    name ∈ p.directories ↔ name.toList ∈ (pieces p.spelling.toList).dropLast := by
  simp only [directories, List.mem_map]
  constructor
  · rintro ⟨piece, h, rfl⟩
    rwa [String.toList_ofList]
  · exact fun h => ⟨_, h, String.ofList_toList⟩

theorem mem_directories_join {p q : Path} (hp : p.isAbsolute = true) (hq : q.isAbsolute = false)
    {name : String} (hname : IsEntryName name) :
    name ∈ (p.join q).directories ↔ .name name ∈ p.components ∨ name ∈ q.directories := by
  obtain ⟨above, hpieces, hcomponents, -⟩ := exists_pieces_join hp hq
  obtain ⟨first, rest, hq⟩ := exists_pieces q.spelling.toList
  have habove : Component.name name ∈ p.components ↔ name.toList ∈ above := by
    simp [hcomponents, stepOf_eq_some_name_iff hname]
  rw [habove, mem_directories_iff, mem_directories_iff, hpieces,
    List.dropLast_append_of_ne_nil (by simp [hq]), List.cons_append, List.mem_cons, List.mem_append]
  simp [hname.nonempty]

theorem exists_relativeTo?_join {p q : Path} (hp : p.isAbsolute = true)
    (hq : q.isAbsolute = false) :
    ∃ relative, (p.join q).relativeTo? p = some relative ∧ relative.directories ⊆ q.directories := by
  obtain ⟨above, -, -, hjoin⟩ := exists_pieces_join hp hq
  have hrelative : (p.join q).relativeTo? p =
      some ⟨spell ((pieces q.spelling.toList).filterMap stepOf)⟩ := by
    simp [relativeTo?, hjoin]
  refine ⟨_, hrelative, fun name hname => ?_⟩
  have hsteps : ∀ step ∈ (pieces q.spelling.toList).filterMap stepOf,
      step ≠ .root ∧ '/' ∉ step.text.toList := by
    intro step hstep
    obtain ⟨piece, hpiece, hstep⟩ := List.mem_filterMap.1 hstep
    exact ⟨ne_root_of_stepOf hstep, text_of_stepOf hstep ▸ slash_notMem_of_mem_pieces hpiece⟩
  rw [mem_directories_iff, dropLast_pieces_spell (fun h => (hsteps _ h).1 rfl)
    fun step h => (hsteps step h).2] at hname
  obtain ⟨step, hstep, htext⟩ := List.mem_map.1 hname
  obtain ⟨piece, hpiece, hstep⟩ := exists_of_mem_dropLast_filterMap hstep
  rw [mem_directories_iff, ← htext, text_of_stepOf hstep]
  exact hpiece

end Path

namespace Scan

/-- A scan from an absolute root with the standard exclusions. -/
structure IsStandard (s : Scan) : Prop where
  isAbsolute_root : s.root.isAbsolute = true
  parse_exclude : AnalyzerConfig.standard.exclude.mapM Glob.parse = .ok s.exclusions

variable {s t : Scan}

/-- The scan of a directory under the standard configuration. -/
def standardRequest (root : Path) : ScanRequest :=
  ({ root := some root } : ScanRequest).withConfig .standard

theorem isStandard_of_prepare {w : Workspace} {root : Path}
    (hw : w.currentDir.isAbsolute = true) (h : prepare w (standardRequest root) = .ok s) :
    s.IsStandard ∧ s.root = w.absolute root := by
  simp only [prepare] at h
  split at h
  · cases h
  · obtain ⟨exclusions, hparse, h⟩ := exists_of_bind_eq_ok h
    cases h
    exact ⟨⟨Path.isAbsolute_join hw _, eq_ok_of_mapError hparse⟩, rfl⟩

theorem exists_prepare_standard {w : Workspace} {root : Path}
    (h : w.isDirectory (w.absolute root) = true) :
    ∃ s, prepare w (standardRequest root) = .ok s := by
  have hroot : (standardRequest root).root = some root := rfl
  have hexclude : (standardRequest root).exclude = AnalyzerConfig.standard.exclude := rfl
  rw [prepare, hroot, hexclude, parse_standard_exclude]
  simp [h, bind, Except.bind, Except.mapError, pure, Except.pure]

theorem IsStandard.excludes_iff (hs : s.IsStandard) {p relative : Path}
    (hrelative : p.relativeTo? s.root = some relative) :
    s.excludes p = true ↔
      ∃ name ∈ standardExcluded, name ∈ p.directories ∨ name ∈ relative.directories := by
  have hexclusions : s.exclusions = standardExcluded.map directoryGlob :=
    Except.ok.inj (hs.parse_exclude.symm.trans parse_standard_exclude)
  have haccepts : ∀ name ∈ standardExcluded, ∀ q : Path,
      ((directoryGlob name).acceptsPath q = true ↔ name ∈ q.directories) := fun name hname q =>
    (Glob.accepts_directoryGlob_iff (isEntryName_of_mem_standardExcluded hname).whole).trans
      Path.mem_directories_iff.symm
  simp only [excludes, hexclusions, hrelative, Option.getD_some, List.any_map, List.any_eq_true,
    Function.comp_apply, Bool.or_eq_true]
  exact exists_congr fun name => and_congr_right fun hname => by simp only [haccepts name hname]

/-- Below the root of a scan, a path is excluded by a step of the root or by a directory on the
way down. -/
theorem IsStandard.excludes_join (hs : s.IsStandard) {f : Path} (hf : f.isAbsolute = false) :
    s.excludes (s.root.join f) = (s.root.crossesExcluded || f.liesInExcluded) := by
  obtain ⟨relative, hrelative, hsubset⟩ := Path.exists_relativeTo?_join hs.isAbsolute_root hf
  rw [Bool.eq_iff_iff, hs.excludes_iff hrelative, Bool.or_eq_true]
  simp only [Path.crossesExcluded, Path.liesInExcluded, List.any_eq_true, List.contains_iff_mem,
    ← exists_or, ← and_or_left]
  refine exists_congr fun name => and_congr_right fun hname => ?_
  rw [Path.mem_directories_join hs.isAbsolute_root hf (isEntryName_of_mem_standardExcluded hname)]
  constructor
  · rintro (h | h)
    · exact h
    · exact .inr (hsubset h)
  · exact .inl

/-- A scan leaves out everything below its root exactly if a step of the root is an excluded
directory; otherwise the way down alone decides.  Two scans thus agree on every way down exactly if
both of their roots have such a step or neither has one. -/
theorem excludes_below_roots (hs : s.IsStandard) (ht : t.IsStandard) :
    (∀ f : Path, f.isAbsolute = false →
      s.excludes (s.root.join f) = (s.root.crossesExcluded || f.liesInExcluded)) ∧
    ((∀ f : Path, f.isAbsolute = false → s.excludes (s.root.join f) = true) ↔
      s.root.crossesExcluded = true) ∧
    ((∀ f : Path, f.isAbsolute = false →
        s.excludes (s.root.join f) = t.excludes (t.root.join f)) ↔
      s.root.crossesExcluded = t.root.crossesExcluded) := by
  -- A file in the root itself lies in no directory below it, so it tells the roots apart.
  have hfile : Path.isAbsolute ⟨"main.cpp"⟩ = false := by decide +kernel
  have hopen : Path.liesInExcluded ⟨"main.cpp"⟩ = false := by decide
  refine ⟨fun f hf => hs.excludes_join hf, ⟨fun h => ?_, fun h f hf => ?_⟩,
    fun h => ?_, fun h f hf => ?_⟩
  · simpa [hs.excludes_join hfile, hopen] using h ⟨"main.cpp"⟩ hfile
  · rw [hs.excludes_join hf, h, Bool.true_or]
  · simpa [hs.excludes_join hfile, ht.excludes_join hfile, hopen] using h ⟨"main.cpp"⟩ hfile
  · rw [hs.excludes_join hf, ht.excludes_join hf, h]

/-- Three directories to check, one of them below a directory named `build`. -/
def checkouts : Workspace where
  files := .directory
    [("home", .directory [("p", .empty)]), ("srv", .directory [("p", .empty)]),
      ("build", .directory [("p", .empty)])]
  currentDir := ⟨"/"⟩
  environment := []

theorem exists_standard_in_checkouts (root : Path) (hroot : checkouts.absolute root = root)
    (h : checkouts.isDirectory root = true) :
    ∃ s, prepare checkouts (standardRequest root) = .ok s ∧ s.IsStandard ∧ s.root = root := by
  obtain ⟨s, hs⟩ := exists_prepare_standard (hroot.symm ▸ h)
  have hstandard := isStandard_of_prepare (by decide +kernel) hs
  exact ⟨s, hs, hstandard.1, hstandard.2.trans hroot⟩

theorem excludes_below_roots_checkouts :
    ∃ s t, prepare checkouts (standardRequest ⟨"/home/p"⟩) = .ok s ∧
      prepare checkouts (standardRequest ⟨"/srv/p"⟩) = .ok t ∧
      ∀ f : Path, f.isAbsolute = false →
        s.excludes (s.root.join f) = t.excludes (t.root.join f) := by
  obtain ⟨s, hs, hstandard, hroot⟩ :=
    exists_standard_in_checkouts ⟨"/home/p"⟩ (by decide +kernel) (by decide +kernel)
  obtain ⟨t, ht, hstandard', hroot'⟩ :=
    exists_standard_in_checkouts ⟨"/srv/p"⟩ (by decide +kernel) (by decide +kernel)
  refine ⟨s, t, hs, ht, (excludes_below_roots hstandard hstandard').2.2.2 ?_⟩
  rw [hroot, hroot']
  decide

/-- A checkout below a directory named `build` is left out as a whole, while the same file below
another root is kept. -/
theorem excludes_checkout_in_build :
    ∃ s t, prepare checkouts (standardRequest ⟨"/build/p"⟩) = .ok s ∧
      prepare checkouts (standardRequest ⟨"/home/p"⟩) = .ok t ∧
      Path.isAbsolute ⟨"src/a.cpp"⟩ = false ∧
      s.excludes (s.root.join ⟨"src/a.cpp"⟩) = true ∧
      t.excludes (t.root.join ⟨"src/a.cpp"⟩) = false := by
  obtain ⟨s, hs, hstandard, hroot⟩ :=
    exists_standard_in_checkouts ⟨"/build/p"⟩ (by decide +kernel) (by decide +kernel)
  obtain ⟨t, ht, hstandard', hroot'⟩ :=
    exists_standard_in_checkouts ⟨"/home/p"⟩ (by decide +kernel) (by decide +kernel)
  have hf : Path.isAbsolute ⟨"src/a.cpp"⟩ = false := by decide +kernel
  refine ⟨s, t, hs, ht, hf, ?_, ?_⟩
  · rw [hstandard.excludes_join hf, hroot]
    decide
  · rw [hstandard'.excludes_join hf, hroot']
    decide

end Scan

end PatternLint
