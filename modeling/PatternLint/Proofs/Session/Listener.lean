import PatternLint.Proofs.Session.History
import PatternLint.Proofs.Session.Independence

/-! What a listener hears.
Each event tells about certain documents, `reported` lists them, and tells about each once.  What
was told last about a document is what the session shows about it.  Over a whole history the
listener is told about a document at its pass points and when it is closed, and at no other
event. -/

namespace PatternLint

def latestAbout (p : Path) (told : List Notification) : Option (List Violation) :=
  (told.filter (Notification.isAbout p)).getLast?.map Notification.violations

@[simp]
theorem latestAbout_append (p : Path) (told more : List Notification) :
    latestAbout p (told ++ more) = (latestAbout p more).or (latestAbout p told) := by
  simp only [latestAbout, List.filter_append, List.getLast?_append, Option.map_or]

namespace History

def ClosePoint (p : Path) (es : List DocumentEvent) (i : Nat) : Prop :=
  ∃ e, es[i]? = some e ∧ e.closes p = true

variable {extensions : List String} {p : Path} {es : List DocumentEvent} {i : Nat}

instance : Decidable (PassPoint extensions p es i) :=
  decidable_of_iff (es[i]?.any (fun e => e.isPass extensions p (paused (es.take i))
    (text? extensions p (es.take i))) = true) (Option.any_eq_true _ _)

instance : Decidable (ClosePoint p es i) :=
  decidable_of_iff (es[i]?.any (DocumentEvent.closes p) = true) (Option.any_eq_true _ _)

theorem passPoint_or_closePoint_iff :
    PassPoint extensions p es i ∨ ClosePoint p es i ↔
      ∃ e, es[i]? = some e ∧ (e.closes p || e.isPass extensions p (paused (es.take i))
        (text? extensions p (es.take i))) = true := by
  simp only [Bool.or_eq_true, and_or_left, exists_or]
  exact or_comm

end History

namespace Session

variable {s : Session}

theorem told_publish (h : s.listeners = 1) (path : Path) (vs : List Violation) :
    (s.publish path vs).2 = [⟨0, path, vs⟩] := by
  simp [publish, h]

theorem told_runPass (h : s.listeners = 1) {path : Path} {text : Source}
    (htext : s.openTexts.get? path = some text) :
    (s.runPass path).2 = [⟨0, path, s.registry.analyze path text⟩] := by
  simp only [runPass, htext, told_publish h]

/-- The findings of a pass over the recorded text of a document. -/
def findings (s : Session) (path : Path) : List Violation :=
  s.registry.analyze path ((s.openTexts.get? path).getD [])

theorem told_runPasses (h : s.listeners = 1) {paths : List Path}
    (hpaths : ∀ path ∈ paths, (s.openTexts.get? path).isSome = true) :
    (s.runPasses paths).2 = paths.map fun path => ⟨0, path, s.findings path⟩ := by
  induction paths generalizing s with
  | nil => rfl
  | cons path paths ih =>
    obtain ⟨hpath, hrest⟩ := List.forall_mem_cons.1 hpaths
    obtain ⟨text, htext⟩ := Option.isSome_iff_exists.1 hpath
    obtain ⟨d, hd⟩ := s.runPass_frame path
    -- A pass leaves the texts as they are, so those behind it are analyzed as if it had not run.
    have hmore : ((s.runPass path).1.runPasses paths).2 =
        paths.map fun q => ⟨0, q, s.findings q⟩ := by
      rw [hd]
      exact ih (s := { s with documents := d }) h hrest
    have hfindings : s.findings path = s.registry.analyze path text := by
      rw [findings, htext]
      rfl
    rw [runPasses_eq_andThen, andThen, told_runPass h htext, hmore, List.map_cons, hfindings]
    rfl

/-- The documents that an event makes a session tell about. -/
def reported (s : Session) : DocumentEvent → List Path
  | .opened path _ | .changed path _ =>
    if hasExtension path s.extensions && !s.paused then [path] else []
  | .closed path => [path]
  | .setPaused _ => []
  | .rerunAll => s.openTexts.keys

theorem told_analyze (h : s.listeners = 1) (path : Path) (text : Source) :
    (s.analyze path text).2 =
      if hasExtension path s.extensions && !s.paused
      then [⟨0, path, s.registry.analyze path text⟩] else [] := by
  have hget : (s.record path text).openTexts.get? path = some text := by
    simp [record, PathMap.get?_insert]
  have hpass := told_runPass (s := s.record path text) h hget
  rw [analyze_eq_record]
  cases hasExtension path s.extensions with
  | false => rfl
  | true =>
    cases s.paused with
    | true => rfl
    | false => exact hpass

theorem told_handle (h : s.listeners = 1) (e : DocumentEvent) :
    ∃ found : Path → List Violation,
      (s.handle e).2 = (s.reported e).map fun path => ⟨0, path, found path⟩ := by
  have hanalyze : ∀ path text, ∃ found : Path → List Violation, (s.analyze path text).2 =
      (if hasExtension path s.extensions && !s.paused then [path] else []).map
        fun path => ⟨0, path, found path⟩ := by
    intro path text
    refine ⟨fun _ => s.registry.analyze path text, ?_⟩
    rw [told_analyze h]
    split <;> rfl
  cases e with
  | opened path text => exact hanalyze path text
  | changed path text => exact hanalyze path text
  | closed path =>
    refine ⟨fun _ => [], ?_⟩
    exact told_publish (s := s.forget path) h path []
  | setPaused paused => exact ⟨fun _ => [], rfl⟩
  | rerunAll =>
    refine ⟨(s.setPaused false).findings,
      told_runPasses (s := s.setPaused false) h fun path hpath => ?_⟩
    exact PathMap.isSome_get?_of_mem_keys hpath

/-- Of the documents that an event reports, `p` is one if the event closes it or lets a pass over
it run, and then under one spelling. -/
theorem filter_reported (h : s.Tidy) (e : DocumentEvent) (p : Path) :
    ∃ q, (s.reported e).filter (·.same p) =
      if e.closes p || e.isPass s.extensions p s.paused (s.openTexts.get? p) then [q] else [] := by
  have hanalyze : ∀ (path : Path) (text : Source),
      (if hasExtension path s.extensions && !s.paused then [path] else []).filter (·.same p) =
        if (if path.same p && hasExtension path s.extensions then some text else none).isSome &&
          !s.paused then [path] else [] := by
    intro path text
    cases hasExtension path s.extensions <;> cases s.paused <;> cases hp : path.same p <;>
      simp [hp]
  cases e with
  | opened path text => exact ⟨path, hanalyze path text⟩
  | changed path text => exact ⟨path, hanalyze path text⟩
  | closed path =>
    refine ⟨path, ?_⟩
    cases hp : path.same p <;>
      simp [reported, DocumentEvent.closes, DocumentEvent.isPass, DocumentEvent.recordedText?, hp]
  | setPaused paused => exact ⟨p, rfl⟩
  | rerunAll =>
    cases hget : (s.openTexts.get? p).isSome with
    | true =>
      obtain ⟨q, hq⟩ := PathMap.filter_keys_eq_singleton h.texts_sorted hget
      exact ⟨q, by rw [reported, hq]; simp [DocumentEvent.closes, DocumentEvent.isPass, hget]⟩
    | false =>
      have hnone : s.openTexts.get? p = none := by simpa using hget
      have hkeys := (PathMap.get?_eq_none_iff _ _).1 hnone
      refine ⟨p, ?_⟩
      rw [reported, List.filter_eq_nil_iff.2 fun q hq => by simp [hkeys q hq]]
      simp [DocumentEvent.closes, DocumentEvent.isPass, hnone]

/-- What is told about `p` while an event is handled: one thing if the event closes `p` or lets a
pass over it run, and nothing otherwise. -/
theorem told_handle_about (ht : s.Tidy) (hl : s.listeners = 1) (e : DocumentEvent) (p : Path) :
    ∃ q vs, (s.handle e).2.filter (Notification.isAbout p) =
      if e.closes p || e.isPass s.extensions p s.paused (s.openTexts.get? p)
      then [⟨0, q, vs⟩] else [] := by
  obtain ⟨found, htold⟩ := told_handle hl e
  obtain ⟨q, hq⟩ := filter_reported ht e p
  refine ⟨q, found q, ?_⟩
  have hmap : (s.handle e).2.filter (Notification.isAbout p) =
      ((s.reported e).filter (·.same p)).map fun path => ⟨0, path, found path⟩ := by
    rw [htold, List.filter_map]
    rfl
  rw [hmap, hq]
  split <;> rfl

/-- What a step shows about `p` is what it told last, and what was shown before when it told
nothing. -/
def ShowsTold (p : Path) (s : Session) (r : Session × List Notification) : Prop :=
  r.1.violations p = (latestAbout p r.2).getD (s.violations p)

theorem ShowsTold.andThen {p : Path} {r : Session × List Notification}
    {next : Session → Session × List Notification} (h : ShowsTold p s r)
    (hnext : ShowsTold p r.1 (next r.1)) : ShowsTold p s (andThen r next) := by
  rw [ShowsTold, Session.andThen, latestAbout_append, Option.getD_or, ← h]
  exact hnext

theorem showsTold_publish (h : s.listeners = 1) (p path : Path) (vs : List Violation) :
    ShowsTold p s (s.publish path vs) := by
  rw [ShowsTold, violations_publish, told_publish h]
  cases hp : path.same p <;> simp [latestAbout, Notification.isAbout, hp]

theorem showsTold_runPass (h : s.listeners = 1) (p path : Path) :
    ShowsTold p s (s.runPass path) := by
  rw [runPass]
  split
  · rfl
  · exact showsTold_publish h p path _

theorem showsTold_runPasses (h : s.listeners = 1) (p : Path) (paths : List Path) :
    ShowsTold p s (s.runPasses paths) := by
  induction paths generalizing s with
  | nil => rfl
  | cons path paths ih =>
    obtain ⟨d, hd⟩ := s.runPass_frame path
    rw [runPasses_eq_andThen]
    refine (showsTold_runPass h p path).andThen (ih ?_)
    rw [hd]
    exact h

theorem showsTold_analyze (h : s.listeners = 1) (p path : Path) (text : Source) :
    ShowsTold p s (s.analyze path text) := by
  rw [analyze_eq_record]
  split
  · split
    · rfl
    · exact showsTold_runPass (s := s.record path text) h p path
  · rfl

theorem showsTold_handle (h : s.listeners = 1) (p : Path) (e : DocumentEvent) :
    ShowsTold p s (s.handle e) := by
  cases e with
  | opened path text => exact showsTold_analyze h p path text
  | changed path text => exact showsTold_analyze h p path text
  | closed path => exact showsTold_publish (s := s.forget path) h p path []
  | setPaused paused => rfl
  | rerunAll => exact showsTold_runPasses (s := s.setPaused false) h p s.openTexts.keys

theorem showsTold_handleAll (h : s.listeners = 1) (p : Path) (es : List DocumentEvent) :
    ShowsTold p s (s.handleAll es) := by
  induction es generalizing s with
  | nil => rfl
  | cons e es ih =>
    rw [handleAll_eq_andThen]
    exact (showsTold_handle h p e).andThen (ih ((s.handle_listeners e).trans h))

def toldAt (s : Session) (es : List DocumentEvent) (i : Nat) : List Notification :=
  (es[i]?.map fun e => ((s.handleAll (es.take i)).1.handle e).2).getD []

theorem toldAt_of_getElem? {es : List DocumentEvent} {i : Nat} {e : DocumentEvent}
    (h : es[i]? = some e) : s.toldAt es i = ((s.handleAll (es.take i)).1.handle e).2 := by
  rw [toldAt, h]
  rfl

theorem told_handleAll (s : Session) (es : List DocumentEvent) :
    (s.handleAll es).2 = (List.range es.length).flatMap (s.toldAt es) := by
  induction es generalizing s with
  | nil => rfl
  | cons e es ih =>
    have hstep : ∀ i, s.toldAt (e :: es) (i + 1) = (s.handle e).1.toldAt es i := fun _ => rfl
    rw [handleAll_eq_andThen, andThen, ih, List.length_cons, List.range_succ_eq_map,
      List.flatMap_cons, List.flatMap_map]
    simp only [hstep]
    rfl

@[simp]
theorem handleAll_listeners (s : Session) (es : List DocumentEvent) :
    (s.handleAll es).1.listeners = s.listeners := by
  induction es generalizing s with
  | nil => rfl
  | cons e es ih => exact (ih (s.handle e).1).trans (s.handle_listeners e)

theorem filter_toldAt {registry : Registry} {extensions : List String} (ht : s.Tidy)
    (hl : s.listeners = 1) (hf : Follows registry extensions [] s) {es : List DocumentEvent}
    {i : Nat} {e : DocumentEvent} (he : es[i]? = some e) (p : Path) :
    ∃ q vs, (s.toldAt es i).filter (Notification.isAbout p) =
      if e.closes p || e.isPass extensions p (History.paused (es.take i))
        (History.text? extensions p (es.take i)) then [⟨0, q, vs⟩] else [] := by
  have hthen : Follows registry extensions (es.take i) (s.handleAll (es.take i)).1 :=
    hf.handleAll (es.take i)
  have hpass := told_handle_about (ht.handleAll (es.take i))
    ((s.handleAll_listeners _).trans hl) e p
  rwa [hthen.extensions_eq, hthen.paused_eq, hthen.text_eq, ← toldAt_of_getElem? he] at hpass

/-- A session with one listener.  It shows about every document what the listener was told last,
the listener is told once at every pass point and closing of a document and never else, and the
table holds no empty entry and open documents only. -/
theorem handleAll_told (registry : Registry) (extensions : List String)
    (es : List DocumentEvent) :
    let fresh := (start registry extensions).subscribe
    let run := fresh.handleAll es
    (∀ p, run.1.violations p = (latestAbout p run.2).getD []) ∧
      run.2 = (List.range es.length).flatMap (fresh.toldAt es) ∧
      (∀ i p, History.PassPoint extensions p es i ∨ History.ClosePoint p es i →
        ∃ q vs, (fresh.toldAt es i).filter (Notification.isAbout p) = [⟨0, q, vs⟩]) ∧
      (∀ i p, ¬ (History.PassPoint extensions p es i ∨ History.ClosePoint p es i) →
        (fresh.toldAt es i).filter (Notification.isAbout p) = []) ∧
      ∀ d ∈ run.1.documents, d.2 ≠ [] ∧ ∃ q ∈ run.1.openDocuments, q.same d.1 = true := by
  intro fresh run
  have htidy : fresh.Tidy := (tidy_start registry extensions).subscribe
  have hfollows : Follows registry extensions [] fresh :=
    ⟨rfl, rfl, rfl, fun _ => rfl⟩
  refine ⟨fun p => showsTold_handleAll rfl p es, fresh.told_handleAll es, fun i p hpoint => ?_,
    fun i p hno => ?_, fun d hd => ?_⟩
  · obtain ⟨e, he, hcalls⟩ := History.passPoint_or_closePoint_iff.1 hpoint
    obtain ⟨q, vs, htold⟩ := filter_toldAt htidy rfl hfollows he p
    exact ⟨q, vs, by rw [htold, if_pos hcalls]⟩
  · rw [History.passPoint_or_closePoint_iff] at hno
    cases he : es[i]? with
    | none => simp [toldAt, he]
    | some e =>
      obtain ⟨q, vs, htold⟩ := filter_toldAt htidy rfl hfollows he p
      rw [htold, if_neg fun hcalls => hno ⟨e, he, hcalls⟩]
  · have hrun : run.1.Tidy := htidy.handleAll es
    obtain ⟨text, htext⟩ := Option.isSome_iff_exists.1 (hrun.recorded d hd)
    exact ⟨hrun.found d hd, PathMap.exists_key_of_get? htext⟩

/-- An edit during a pause is told when the pause ends and not before, whatever the spelling of
the path. -/
theorem handleAll_told_after_pause :
    let p : Path := ⟨"d/a.cpp"⟩
    let es : List DocumentEvent :=
      [.opened p "goto x;".toList, .setPaused true, .changed ⟨"d//a.cpp"⟩ "x;".toList, .rerunAll,
        .closed ⟨"d/./a.cpp"⟩]
    let fresh := (start (.reindexed [gotoRule]) ["cpp"]).subscribe
    (History.PassPoint ["cpp"] p es 3 ∧
        ∃ q vs, (fresh.toldAt es 3).filter (Notification.isAbout p) = [⟨0, q, vs⟩]) ∧
      (History.ClosePoint p es 4 ∧
        ∃ q vs, (fresh.toldAt es 4).filter (Notification.isAbout p) = [⟨0, q, vs⟩]) ∧
      ¬ (History.PassPoint ["cpp"] p es 2 ∨ History.ClosePoint p es 2) ∧
        (fresh.toldAt es 2).filter (Notification.isAbout p) = [] := by
  intro p es fresh
  obtain ⟨-, -, honce, hsilent, -⟩ := handleAll_told (.reindexed [gotoRule]) ["cpp"] es
  have hpass : History.PassPoint ["cpp"] p es 3 := by decide +kernel
  have hclose : History.ClosePoint p es 4 := by decide +kernel
  have hno : ¬ (History.PassPoint ["cpp"] p es 2 ∨ History.ClosePoint p es 2) := by
    decide +kernel
  exact ⟨⟨hpass, honce 3 p (.inl hpass)⟩, ⟨hclose, honce 4 p (.inr hclose)⟩, hno, hsilent 2 p hno⟩

end Session

end PatternLint
