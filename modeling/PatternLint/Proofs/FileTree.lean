import PatternLint.Proofs.Entries
import PatternLint.Proofs.Path
import PatternLint.Workspace

/-! Trees of files as a file system has them.
In a directory every name leads to one entry.  Following an absolute path and then a name is the
same as following the path with the name appended, which is how a walk spells what it meets. -/

namespace PatternLint

namespace FileTree

@[simp]
theorem text_ofText (text : String) : (ofText text).text = .ok text := by
  have hvalid : String.fromUTF8? text.toUTF8 = some text := by
    simp only [String.fromUTF8?, String.toUTF8_eq_toByteArray, dif_pos text.isValidUTF8]
    rfl
  simp only [ofText, FileTree.text, bind, Except.bind, hvalid]

/-- The entries of every directory have names, and no two the same. -/
inductive WellFormed : FileTree → Prop
  | file (content : FileContent) : WellFormed (.file content)
  | other : WellFormed .other
  | directory {entries : List (String × FileTree)} : (entries.map Prod.fst).Nodup →
      (∀ e ∈ entries, IsEntryName e.1) → (∀ e ∈ entries, WellFormed e.2) →
      WellFormed (.directory entries)

theorem WellFormed.entries {entries : List (String × FileTree)}
    (h : (FileTree.directory entries).WellFormed) :
    (entries.map Prod.fst).Nodup ∧ (∀ e ∈ entries, IsEntryName e.1) ∧
      ∀ e ∈ entries, e.2.WellFormed := by
  cases h with
  | directory hd hnames htrees => exact ⟨hd, hnames, htrees⟩

theorem WellFormed.of_follow {above : List FileTree} {here t : FileTree} {steps : List Component}
    (habove : ∀ dir ∈ above, dir.WellFormed) (hhere : here.WellFormed)
    (h : follow above here steps = .ok t) : t.WellFormed := by
  fun_induction follow above here steps with
  | case1 above here =>
    cases h
    exact hhere
  | case2 above step steps content => cases h
  | case3 above step steps => cases h
  | case4 above steps entries ih => exact ih habove hhere h
  | case5 above steps entries ih => exact ih habove hhere h
  | case6 steps entries ih => exact ih habove hhere h
  | case7 steps entries dir dirs ih =>
    obtain ⟨hdir, hdirs⟩ := List.forall_mem_cons.1 habove
    exact ih hdirs hdir h
  | case8 above steps entries name hname => cases h
  | case9 above steps entries name child hname ih =>
    have hchild := hhere.entries.2.2 _ (mem_of_lookup hname)
    exact ih (List.forall_mem_cons.2 ⟨hhere, habove⟩) hchild h

theorem follow_append_name {above : List FileTree} {here t : FileTree} {steps : List Component}
    {entries : List (String × FileTree)} {name : String}
    (h : follow above here steps = .ok (.directory entries))
    (hname : entries.lookup name = some t) :
    follow above here (steps ++ [.name name]) = .ok t := by
  fun_induction follow above here steps with
  | case1 above here =>
    cases h
    simp [follow, hname]
  | case2 above step steps content => cases h
  | case3 above step steps => cases h
  | case4 above steps es ih => exact ih h
  | case5 above steps es ih => exact ih h
  | case6 steps es ih => exact ih h
  | case7 steps es dir dirs ih => exact ih h
  | case8 above steps es n hn => cases h
  | case9 above steps es n child hn ih =>
    rw [List.cons_append, follow]
    simp only [hn]
    exact ih h

theorem find_eq_ok_iff {t found : FileTree} {p : Path} :
    t.find p = .ok found ↔
      t.follow [] p.components = .ok found ∧ (asksDirectory p && found.isFile) = false := by
  rw [find]
  cases t.follow [] p.components with
  | error e => simp [bind, Except.bind]
  | ok u =>
    cases hasks : asksDirectory p && u.isFile with
    | true =>
      refine iff_of_false (by simp [bind, Except.bind, hasks, throw, throwThe,
        MonadExceptOf.throw]) ?_
      rintro ⟨h, hnot⟩
      cases h
      simp [hasks] at hnot
    | false =>
      simp only [bind, Except.bind, hasks, pure, Except.pure, Bool.false_eq_true, if_false,
        Except.ok.injEq]
      exact ⟨fun h => ⟨h, h ▸ hasks⟩, fun h => h.1⟩

theorem asksDirectory_eq_false {p : Path} {s : List Char} {name : String}
    (hname : IsEntryName name) (h : p.spelling.toList = s ++ '/' :: name.toList) :
    asksDirectory p = false := by
  obtain ⟨hnil, hhere, -⟩ := hname.toList_ne
  rw [asksDirectory, h, Path.pieces_append_slash, Path.pieces_of_notMem hname.whole,
    List.reverse_append]
  cases (Path.pieces s).reverse with
  | nil => rfl
  | cons last back => simp [hhere, hname.nonempty]

end FileTree

namespace Workspace

/-- The current directory of a well-formed workspace is known from the root on. -/
structure WellFormed (w : Workspace) : Prop where
  files : w.files.WellFormed
  current : w.currentDir.isAbsolute = true

variable {w : Workspace} {p : Path}

theorem find_of_isAbsolute (w : Workspace) (hp : p.isAbsolute = true) :
    w.find p = w.files.find p := by
  obtain ⟨below, hbelow⟩ := Path.isAbsolute_iff.1 hp
  have hspelled : p.spelling.isEmpty = false := by
    rw [← Bool.not_eq_true, String.isEmpty_iff]
    intro h
    simp [h] at hbelow
  rw [find, hspelled, absolute, Path.join_of_isAbsolute _ hp]
  rfl

theorem WellFormed.of_find (hw : w.WellFormed) {t : FileTree} (h : w.find p = .ok t) :
    t.WellFormed := by
  rw [find] at h
  split at h
  · cases h
  · exact .of_follow (by simp) hw.files (FileTree.find_eq_ok_iff.1 h).1

theorem find_join (hp : p.isAbsolute = true) {entries : List (String × FileTree)}
    (h : w.find p = .ok (.directory entries)) (ht : (FileTree.directory entries).WellFormed)
    {e : String × FileTree} (he : e ∈ entries) : w.find (p.join ⟨e.1⟩) = .ok e.2 := by
  obtain ⟨hd, hnames, -⟩ := ht.entries
  have hname := hnames e he
  rw [find_of_isAbsolute w hp, FileTree.find_eq_ok_iff] at h
  obtain ⟨s, hspelling, -⟩ := Path.exists_spelling_join hp hname
  rw [find_of_isAbsolute w (Path.isAbsolute_join hp _), FileTree.find_eq_ok_iff,
    Path.components_join hp hname, FileTree.asksDirectory_eq_false hname hspelling]
  exact ⟨FileTree.follow_append_name h.1 (lookup_of_mem hd he), rfl⟩

end Workspace

end PatternLint
