import PatternLint.Command.Run
import PatternLint.Proofs.LintResult
import PatternLint.Proofs.Match.Endless
import PatternLint.Proofs.PathMap.Sorted
import PatternLint.Proofs.Settings
import PatternLint.Proofs.Walk

/-! What a scan finds.
The files of a scan are those its walk meets, less those that the extensions or the exclusions turn
away, once each and in the order of their paths.  The result joins the findings of the files that
are text and counts the others, and a check fails exactly when one of the findings is severe
enough. -/

namespace PatternLint

theorem hasExtension_iff {p : Path} {extensions : List String} :
    hasExtension p extensions = true ↔
      ∃ ext, p.extension? = some ext ∧ ∃ e ∈ extensions, asciiLower e = asciiLower ext := by
  simp [hasExtension, Option.any_eq_true]

namespace Scan

def Meets (s : Scan) (w : Workspace) (p : Path) (content : FileContent) : Prop :=
  ∃ dir, w.find s.root = .ok dir ∧ (Walk.start w s.respectGitignore s.root).Meets dir p content

def findings (w : Workspace) (g : Registry) (p : Path) : List Violation :=
  match w.readText p with
  | .ok text => g.analyze p text.toList
  | .error _ => []

variable {w : Workspace} {s : Scan} {p : Path} {content : FileContent}

section Files

theorem Meets.find (hw : w.WellFormed) (hroot : s.root.isAbsolute = true)
    (h : s.Meets w p content) : w.find p = .ok (.file content) := by
  obtain ⟨dir, hdir, hmeets⟩ := h
  exact hmeets.find (hw.of_find hdir) hroot hdir

theorem mem_walked_iff (hw : w.WellFormed) : p ∈ s.walked w ↔ ∃ content, s.Meets w p content := by
  rw [walked]
  cases hdir : w.find s.root with
  | error e => simp [Meets, hdir]
  | ok dir =>
    rw [Walk.mem_files_iff (hw.of_find hdir)]
    simp [Meets, hdir]

theorem pairwise_walked (hw : w.WellFormed) (hroot : s.root.isAbsolute = true) :
    (s.walked w).Pairwise fun p q => p.components ≠ q.components := by
  rw [walked]
  split
  · rename_i dir hdir
    exact Walk.pairwise_files (hw.of_find hdir) hroot
  · exact .nil

theorem files_ascending (hw : w.WellFormed) (hroot : s.root.isAbsolute = true) :
    (s.files w).Pairwise fun p q => p.order q = .lt := by
  have hsorted : (s.files w).Pairwise fun p q => (p.order q != .gt) = true := by
    refine List.pairwise_mergeSort (fun p q r hpq hqr => ?_) (fun p q => ?_) _
    · rw [bne_iff_ne] at *
      exact Path.order_ne_gt_trans hpq hqr
    · rw [Bool.or_eq_true, bne_iff_ne, bne_iff_ne]
      exact Path.order_ne_gt_or p q
  have hdistinct : (s.files w).Pairwise fun p q => p.components ≠ q.components := by
    have hperm := List.mergeSort_perm ((s.walked w).filter s.selects) fun p q => p.order q != .gt
    exact hperm.symm.pairwise ((pairwise_walked hw hroot).filter _) fun h heq => h heq.symm
  -- The sort would let equal paths stand side by side; the walk gives none.
  refine (hsorted.and hdistinct).imp fun {p q} ⟨hle, hne⟩ => ?_
  cases horder : p.order q with
  | lt => rfl
  | eq => exact absurd (Path.same_iff.1 (Path.order_eq_iff.1 horder)) hne
  | gt => simp [horder] at hle

theorem relativeTo?_of_meets (hw : w.WellFormed) (hroot : s.root.isAbsolute = true)
    (h : s.Meets w p content) : ∃ relative, p.relativeTo? s.root = some relative := by
  obtain ⟨dir, hdir, hmeets⟩ := h
  have hbelow : s.root.components <+: p.components :=
    hmeets.isPrefix_components (hw.of_find hdir) hroot
  exact ⟨_, if_pos (by simpa using hbelow)⟩

/-- A file is analyzed exactly if the walk meets it, it has a wanted extension, and no exclusion
names it, as the walk spells it or as it is seen from the root. -/
theorem mem_files_iff (hw : w.WellFormed) (hroot : s.root.isAbsolute = true) :
    p ∈ s.files w ↔ (∃ content, s.Meets w p content) ∧
      (∃ ext, p.extension? = some ext ∧ ∃ e ∈ s.extensions, asciiLower e = asciiLower ext) ∧
      ∃ relative, p.relativeTo? s.root = some relative ∧ ∀ x ∈ s.exclusions,
        x.acceptsPath p = false ∧ x.acceptsPath relative = false := by
  rw [files, List.mem_mergeSort, List.mem_filter, mem_walked_iff hw, selects, Bool.and_eq_true,
    hasExtension_iff]
  refine and_congr_right fun ⟨content, hmeets⟩ => and_congr_right fun _ => ?_
  obtain ⟨relative, hrelative⟩ := relativeTo?_of_meets hw hroot hmeets
  simp [excludes, hrelative]

end Files

section Result

theorem fileResult_eq (w : Workspace) (g : Registry) (p : Path) :
    fileResult w g p =
      { violations := findings w g p
        filesChecked := if (w.readText p).isOk then 1 else 0
        filesSkipped := if (w.readText p).isOk then 0 else 1 } := by
  rw [fileResult, checkFile, findings]
  cases w.readText p <;> rfl

theorem foldl_fileResult (w : Workspace) (g : Registry) (r : LintResult) (ps : List Path) :
    ps.foldl (fun sum p => sum ++ fileResult w g p) r =
      { violations := r.violations ++ ps.flatMap (findings w g)
        filesChecked := r.filesChecked + ps.countP fun p => (w.readText p).isOk
        filesSkipped := r.filesSkipped + ps.countP fun p => !(w.readText p).isOk } := by
  induction ps generalizing r with
  | nil => simp
  | cons p ps ih =>
    rw [List.foldl_cons, ih, fileResult_eq, LintResult.append_eq, List.flatMap_cons,
      List.countP_cons, List.countP_cons]
    cases (w.readText p).isOk <;> simp [Nat.add_assoc, Nat.add_comm 1]

theorem run_eq (s : Scan) (w : Workspace) (g : Registry) :
    s.run w g =
      { violations := (s.files w).flatMap (findings w g)
        filesChecked := (s.files w).countP fun p => (w.readText p).isOk
        filesSkipped := (s.files w).countP fun p => !(w.readText p).isOk } := by
  rw [run, foldl_fileResult]
  simp [LintResult.empty]

theorem filesChecked_add_filesSkipped (s : Scan) (w : Workspace) (g : Registry) :
    (s.run w g).filesChecked + (s.run w g).filesSkipped = (s.files w).length := by
  rw [run_eq, List.length_eq_countP_add_countP fun p => (w.readText p).isOk]
  simp

end Result

theorem abortAt?_eq_none_iff {w : Workspace} {g : Registry} {p : Path} :
    abortAt? w g p = none ↔
      ∀ text, w.readText p = .ok text → ∀ r ∈ g.rules, r.Answers text.toList := by
  rw [abortAt?]
  cases w.readText p with
  | error e => simp
  | ok text => simp [Registry.abort?_eq_none_iff]

theorem attempt_eq_ok_iff {w : Workspace} {s : Scan} {g : Registry} {result : LintResult} :
    s.attempt w g = .ok result ↔
      (∀ p ∈ s.files w, ∀ text, w.readText p = .ok text → ∀ r ∈ g.rules, r.Answers text.toList) ∧
        result = s.run w g := by
  simp only [← abortAt?_eq_none_iff, ← List.findSome?_eq_none_iff]
  rw [attempt]
  cases (s.files w).findSome? (abortAt? w g) with
  | none => simp [eq_comm]
  | some a => simp

theorem root_of_prepare {r : ScanRequest} (h : prepare w r = .ok s) :
    s.root = w.absolute (r.root.getD ⟨"."⟩) := by
  simp only [prepare] at h
  split at h
  · cases h
  · obtain ⟨exclusions, -, h⟩ := exists_of_bind_eq_ok h
    cases h
    rfl

end Scan

section Check

variable {w : Workspace} {o : CheckOptions} {settings : Settings} {g : Registry} {i : Invocation}
  {s : Scan}

theorem CheckOptions.registry_of_preset {preset : Preset}
    (h : settings.preset o.preset = .ok preset) :
    o.registry w settings = settings.effectiveRegistry w preset := by
  simp only [CheckOptions.registry, h, Except.bind]

theorem Invocation.run_check (hcommand : i.command = .check o)
    (hload : Settings.load w i.command.projectDir i.config = .ok settings)
    (hregistry : o.registry w settings = .ok g)
    (hs : Scan.prepare w (o.scanRequest settings.config) = .ok s) :
    i.run w = o.settle settings.config (s.attempt w g) := by
  have hrun : i.run w = o.run w settings := by
    rw [Invocation.run, hcommand]
    simp only [Invocation.withSettings, hload]
  rw [hrun, CheckOptions.run, hregistry]
  simp only [hs]

theorem CheckOptions.exitCode_conclude_eq_one_iff {c : Config} {r : LintResult} :
    (o.conclude c r).exitCode = 1 ↔
      ∃ v ∈ r.violations, o.failOn.getD (c.failOn.getD .error) ≤ v.severity := by
  have hthreshold : o.threshold c = o.failOn.getD (c.failOn.getD .error) := rfl
  rw [← hthreshold, ← LintResult.hasViolationsAt_iff, CheckOptions.conclude]
  cases r.hasViolationsAt (o.threshold c) <;> simp [exitFailure]

theorem CheckOptions.exitCode_conclude_eq_zero_iff {c : Config} {r : LintResult} :
    (o.conclude c r).exitCode = 0 ↔ (o.conclude c r).exitCode ≠ 1 := by
  rw [CheckOptions.conclude]
  cases r.hasViolationsAt (o.threshold c) <;> simp [exitFailure]

end Check

namespace Scan

/-- The files of a prepared scan are those that its walk meets, with a wanted extension and named
by no exclusion, once each and in ascending order.  The scan returns exactly if every rule has an
answer on every one of them that is text: its searches come to an end and none of them breaks off.
The result is then made of the findings in these files, in that order, and the others are counted
apart; a check exits with 1 if one of the findings has at least the severity asked for and else with
0, whatever its format.  A scan that breaks off ends the check with 101, and one without an end has
no exit code. -/
theorem attempt_covers_files {w : Workspace} (hw : w.WellFormed) {r : ScanRequest} {s : Scan}
    (hs : prepare w r = .ok s) (g : Registry) :
    ((s.files w).Pairwise fun p q => p.order q = .lt) ∧
    (∀ p, p ∈ s.files w ↔ (∃ content, s.Meets w p content) ∧
      (∃ ext, p.extension? = some ext ∧ ∃ e ∈ s.extensions, asciiLower e = asciiLower ext) ∧
      ∃ relative, p.relativeTo? s.root = some relative ∧ ∀ x ∈ s.exclusions,
        x.acceptsPath p = false ∧ x.acceptsPath relative = false) ∧
    (∀ p content, s.Meets w p content → w.readText p = (FileTree.file content).text) ∧
    (∀ result, s.attempt w g = .ok result ↔
      (∀ p ∈ s.files w, ∀ text, w.readText p = .ok text →
        ∀ rule ∈ g.rules, rule.Answers text.toList) ∧
      result =
        { violations := (s.files w).flatMap (findings w g)
          filesChecked := (s.files w).countP fun p => (w.readText p).isOk
          filesSkipped := (s.files w).countP fun p => !(w.readText p).isOk }) ∧
    (∀ result, s.attempt w g = .ok result →
      result.filesChecked + result.filesSkipped = (s.files w).length) ∧
    ∀ (i : Invocation) (o : CheckOptions) (settings : Settings), i.command = .check o →
      Settings.load w i.command.projectDir i.config = .ok settings →
      o.registry w settings = .ok g → o.scanRequest settings.config = r →
      (∀ result, s.attempt w g = .ok result → ∃ out, i.run w = some out ∧
        (out.exitCode = 1 ↔ ∃ v ∈ result.violations,
          o.failOn.getD (settings.config.failOn.getD .error) ≤ v.severity) ∧
        (out.exitCode = 0 ↔ ¬ ∃ v ∈ result.violations,
          o.failOn.getD (settings.config.failOn.getD .error) ≤ v.severity)) ∧
      (s.attempt w g = .error .crash → ∃ out, i.run w = some out ∧ out.exitCode = 101) ∧
      (s.attempt w g = .error .endless → i.run w = none) := by
  have hroot : s.root.isAbsolute = true := by
    rw [root_of_prepare hs]
    exact Path.isAbsolute_join hw.current _
  refine ⟨files_ascending hw hroot, fun p => mem_files_iff hw hroot, fun p content hmeets => ?_,
    fun result => ?_, fun result h => ?_, ?_⟩
  · rw [Workspace.readText, hmeets.find hw hroot]
    rfl
  · rw [attempt_eq_ok_iff, run_eq]
  · rw [(attempt_eq_ok_iff.1 h).2]
    exact filesChecked_add_filesSkipped s w g
  · rintro i o settings hcommand hload hregistry rfl
    rw [Invocation.run_check hcommand hload hregistry hs]
    refine ⟨fun result h => ?_, fun h => ?_, fun h => ?_⟩
    · rw [h]
      refine ⟨_, rfl, CheckOptions.exitCode_conclude_eq_one_iff, ?_⟩
      rw [CheckOptions.exitCode_conclude_eq_zero_iff, Ne,
        CheckOptions.exitCode_conclude_eq_one_iff]
    · rw [h]
      exact ⟨_, rfl, rfl⟩
    · rw [h]
      rfl

/-- A file that is text, one that is not, one that may not be read, one of another kind, one that is
excluded, and a link; beside them a directory without any text. -/
def mixedWorkspace : Workspace where
  files := .directory
    [("src", .directory
      [("b.CPP", .file (.ok ⟨#[0xff]⟩)), ("a.hpp", .ofText "x = 5;\n"), ("c.txt", .ofText "5"),
        ("e.cpp", .file (.error .denied)), ("link.cpp", .other),
        ("build", .directory [("d.cpp", .ofText "5")])]),
      ("locked", .directory [("f.cpp", .file (.error .denied))])]
  currentDir := ⟨"/"⟩
  environment := []

theorem wellFormed_mixedWorkspace : mixedWorkspace.WellFormed := by
  refine ⟨.directory (by decide) (by decide) ?_, by decide +kernel⟩
  refine List.forall_mem_cons.2 ⟨.directory (by decide) (by decide) ?_,
    List.forall_mem_singleton.2 (.directory (by decide) (by decide) ?_)⟩
  · simp only [List.forall_mem_cons]
    exact ⟨.file _, .file _, .file _, .file _, .other, .directory (by decide) (by decide)
      (List.forall_mem_singleton.2 (.file _)), List.forall_mem_nil _⟩
  · exact List.forall_mem_singleton.2 (.file _)

def ruleOf (p : Pattern) : Rule where
  code := "T-1"
  severity := .error
  category := "c"
  pattern := p
  message := "m"
  description := ""
  rationale := none
  remediation := none

/-- Of the files in question, found out of order, one is text and has a finding, and the others are
skipped.  A check of the other directory has nothing to read and exits with 0. -/
theorem attempt_covers_files_mixed :
    let r : ScanRequest := ⟨some ⟨"src"⟩, ["**/build/**"], none, none⟩
    let five : Pattern :=
      ⟨"5", .standard, 0, .linear (Pattern.Linear.ofRegular (.literal ['5']))⟩
    let header : Path := ⟨"/src/a.hpp"⟩
    let o : CheckOptions := ⟨some ⟨"locked"⟩, .json, [], none, none⟩
    let settings : Settings := ⟨.standard, .standard⟩
    (∃ s, prepare mixedWorkspace r = .ok s ∧
      s.walked mixedWorkspace =
        [⟨"/src/b.CPP"⟩, header, ⟨"/src/c.txt"⟩, ⟨"/src/e.cpp"⟩, ⟨"/src/build/d.cpp"⟩] ∧
      s.files mixedWorkspace = [header, ⟨"/src/b.CPP"⟩, ⟨"/src/e.cpp"⟩] ∧
      s.attempt mixedWorkspace (.reindexed [ruleOf five]) =
        .ok ⟨[⟨"T-1", .error, "c", ⟨header, 0, 4, 4, 1⟩, "m"⟩], 1, 2⟩) ∧
    ∃ s g, prepare mixedWorkspace (o.scanRequest settings.config) = .ok s ∧
      o.registry mixedWorkspace settings = .ok g ∧
      s.attempt mixedWorkspace g = .ok ⟨[], 0, 1⟩ ∧
      ∃ out, (Invocation.mk none false (.check o)).run mixedWorkspace = some out ∧
        out.exitCode = 0 := by
  intro r five header o settings
  constructor
  · have hwalk : ((prepare mixedWorkspace r).toOption.map fun s =>
        (s.walked mixedWorkspace, (s.walked mixedWorkspace).filter s.selects)) =
        some ([⟨"/src/b.CPP"⟩, header, ⟨"/src/c.txt"⟩, ⟨"/src/e.cpp"⟩, ⟨"/src/build/d.cpp"⟩],
          [⟨"/src/b.CPP"⟩, header, ⟨"/src/e.cpp"⟩]) := by
      decide +kernel
    obtain ⟨s, hs, hwalk⟩ := Option.map_eq_some_iff.1 hwalk
    rw [toOption_eq_some_iff] at hs
    obtain ⟨hwalked, hselected⟩ := Prod.mk.inj hwalk
    have hfiles : s.files mixedWorkspace = [header, ⟨"/src/b.CPP"⟩, ⟨"/src/e.cpp"⟩] := by
      have hback : (Path.order ⟨"/src/b.CPP"⟩ header != .gt) = false := by decide +kernel
      have hfirst : (Path.order header ⟨"/src/e.cpp"⟩ != .gt) = true := by decide +kernel
      have hsecond : (Path.order ⟨"/src/b.CPP"⟩ ⟨"/src/e.cpp"⟩ != .gt) = true := by decide +kernel
      simp [files, hselected, List.mergeSort, hback, hfirst, hsecond]
    obtain ⟨-, -, -, hattempt, -⟩ :=
      attempt_covers_files wellFormed_mixedWorkspace hs (.reindexed [ruleOf five])
    refine ⟨s, hs, hwalked, hfiles, (hattempt _).2 ?_⟩
    simp only [← abortAt?_eq_none_iff, hfiles]
    decide +kernel
  · obtain ⟨g, hg⟩ : ∃ g, o.registry mixedWorkspace settings = .ok g := by
      have huser : settings.userRegistry mixedWorkspace = .ok .empty := rfl
      have hpreset : settings.preset o.preset = .ok .strict := rfl
      rw [CheckOptions.registry_of_preset hpreset]
      refine (Settings.exists_effectiveRegistry_iff huser .strict).2 fun code hcode => ?_
      cases hcode
    have hload : Settings.load mixedWorkspace (Command.check o).projectDir none =
        .ok settings := by
      decide +kernel
    have hselected : ((prepare mixedWorkspace (o.scanRequest settings.config)).toOption.map
        fun s => (s.walked mixedWorkspace).filter s.selects) = some [⟨"/locked/f.cpp"⟩] := by
      decide +kernel
    have hdenied : mixedWorkspace.readText ⟨"/locked/f.cpp"⟩ = .error .denied := by decide +kernel
    obtain ⟨s, hs, hselected⟩ := Option.map_eq_some_iff.1 hselected
    rw [toOption_eq_some_iff] at hs
    have hfiles : s.files mixedWorkspace = [⟨"/locked/f.cpp"⟩] := by simp [files, hselected]
    obtain ⟨-, -, -, hattempt, -, hexit⟩ := attempt_covers_files wellFormed_mixedWorkspace hs g
    have hresult : s.attempt mixedWorkspace g = .ok ⟨[], 0, 1⟩ := by
      refine (hattempt _).2 ?_
      simp [hfiles, hdenied, findings, Except.isOk, Except.toBool]
    obtain ⟨out, hout, -, hzero⟩ :=
      (hexit ⟨none, false, .check o⟩ o settings rfl hload hg rfl).1 _ hresult
    exact ⟨s, g, hs, hg, hresult, out, hout, hzero.2 (by simp)⟩

/-- Two searches for which a scan has no result.  The first asks for what a group holds that has
just begun anew, behind its former end; the second matches what stands before the place where it
began, so that the next one begins at the same place. -/
theorem attempt_without_result :
    let w : Workspace := ⟨.directory [("a.cpp", .ofText "acb")], ⟨"/"⟩, []⟩
    ∃ s broken endless, prepare w {} = .ok s ∧
      Pattern.compile "(?:(a|b\\1)c?)+" .standard = .ok broken ∧
      Pattern.compile "(?<=\\Ka)" .standard = .ok endless ∧
      s.attempt w (.reindexed [ruleOf broken]) = .error .crash ∧
      s.attempt w (.reindexed [ruleOf endless]) = .error .endless := by
  intro w
  have hrun : (do
      let s ← (prepare w {}).toOption
      let broken ← (Pattern.compile "(?:(a|b\\1)c?)+" .standard).toOption
      let endless ← (Pattern.compile "(?<=\\Ka)" .standard).toOption
      return ((s.walked w).filter s.selects, [broken, endless].map fun p =>
        abortAt? w (.reindexed [ruleOf p]) ⟨"/./a.cpp"⟩)) =
      some ([⟨"/./a.cpp"⟩], [some .crash, some .endless]) := by
    decide +kernel
  simp only [Option.bind_eq_bind, Option.bind_eq_some_iff, toOption_eq_some_iff, Option.pure_def,
    Option.some.injEq, Prod.mk.injEq, List.map_cons, List.map_nil, List.cons.injEq,
    and_true] at hrun
  obtain ⟨s, hs, broken, hbroken, endless, hendless, hselected, hcrash, hforever⟩ := hrun
  have hfiles : s.files w = [⟨"/./a.cpp"⟩] := by simp [files, hselected]
  exact ⟨s, broken, endless, hs, hbroken, hendless, by simp [attempt, hfiles, hcrash],
    by simp [attempt, hfiles, hforever]⟩

end Scan

end PatternLint
