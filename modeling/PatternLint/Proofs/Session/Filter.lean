import PatternLint.Proofs.Session.History
import PatternLint.Proofs.Session.Independence

/-! The extension filter of a session.
Documents with other extensions never enter the tables, and events about them leave a session as
it is.  They are not passed over in silence, though: closing such a document is told to every
listener like any other closing, and that is all that is ever told about it. -/

namespace PatternLint

theorem hasExtension_congr {p q : Path} (h : p.same q = true) (extensions : List String) :
    hasExtension p extensions = hasExtension q extensions := by
  simp only [hasExtension, Path.extension?, Path.fileName?, Path.same_iff.1 h]

theorem PathMap.erase_of_forall {α : Type} {m : PathMap α} {p : Path}
    (h : ∀ e ∈ m, e.1.same p = false) : m.erase p = m := by
  refine List.filter_eq_self.2 fun e he => ?_
  simp [h e he]

/-- An event about a document that the filter accepts, or about none. -/
def DocumentEvent.isAdmitted (extensions : List String) (e : DocumentEvent) : Bool :=
  e.path?.all fun path => hasExtension path extensions

def Notification.isAdmitted (extensions : List String) (n : Notification) : Bool :=
  hasExtension n.path extensions

namespace Session

/-- Texts are known of documents with accepted extensions only. -/
structure Filtered (s : Session) : Prop where
  tidy : s.Tidy
  accepted : ∀ p, (s.openTexts.get? p).isSome = true → hasExtension p s.extensions = true

variable {s : Session} {path : Path}

theorem iterate_subscribe (s : Session) (n : Nat) :
    subscribe^[n] s = { s with listeners := s.listeners + n } := by
  induction n with
  | zero => rfl
  | succ n ih =>
    rw [Function.iterate_succ_apply', ih]
    rfl

theorem filtered_iterate_subscribe (registry : Registry) (extensions : List String) (n : Nat) :
    (subscribe^[n] (start registry extensions)).Filtered := by
  refine ⟨tidy_iterate_subscribe registry extensions n, fun p hp => ?_⟩
  rw [iterate_subscribe] at hp
  cases hp

theorem Filtered.hasExtension_of_mem_openDocuments (h : s.Filtered)
    (hpath : path ∈ s.openDocuments) : hasExtension path s.extensions = true :=
  h.accepted path (PathMap.isSome_get?_of_mem_keys hpath)

theorem Filtered.hasExtension_of_mem_documents (h : s.Filtered) {d : Path × List Violation}
    (hd : d ∈ s.documents) : hasExtension d.1 s.extensions = true :=
  h.accepted d.1 (h.tidy.recorded d hd)

theorem hasExtension_of_recordedText? {extensions : List String} {p : Path} {e : DocumentEvent}
    (h : (e.recordedText? extensions p).isSome = true) : hasExtension p extensions = true := by
  have hanalyze : ∀ (q : Path) (text : Source),
      (if q.same p && hasExtension q extensions then some text else none).isSome = true →
      hasExtension p extensions = true := by
    intro q text hsome
    have hboth : (q.same p && hasExtension q extensions) = true := by
      by_contra hno
      simp [hno] at hsome
    obtain ⟨hsame, haccepted⟩ := Bool.and_eq_true_iff.1 hboth
    rwa [← hasExtension_congr hsame]
  cases e with
  | opened q text => exact hanalyze q text h
  | changed q text => exact hanalyze q text h
  | closed q => cases h
  | setPaused paused => cases h
  | rerunAll => cases h

theorem Filtered.handle (h : s.Filtered) (e : DocumentEvent) : (s.handle e).1.Filtered := by
  refine ⟨h.tidy.handle e, fun p hp => ?_⟩
  rw [(s.handle_registry e).2]
  rw [text?_handle] at hp
  split at hp
  · cases hp
  · rw [Option.isSome_or, Bool.or_eq_true] at hp
    rcases hp with hnew | hold
    · exact hasExtension_of_recordedText? hnew
    · exact h.accepted p hold

theorem Filtered.handleAll (h : s.Filtered) (es : List DocumentEvent) :
    (s.handleAll es).1.Filtered := by
  induction es generalizing s with
  | nil => exact h
  | cons e es ih => exact ih (h.handle e)

theorem handleAll_extensions (s : Session) (es : List DocumentEvent) :
    (s.handleAll es).1.extensions = s.extensions := by
  induction es generalizing s with
  | nil => rfl
  | cons e es ih => exact (ih (s.handle e).1).trans (s.handle_registry e).2

theorem Filtered.close_rejected (h : s.Filtered)
    (hpath : hasExtension path s.extensions = false) :
    s.close path = (s, (List.range s.listeners).map fun i => ⟨i, path, []⟩) := by
  have htexts : s.openTexts.erase path = s.openTexts := by
    refine PathMap.erase_of_forall fun d hd => ?_
    by_contra hsame
    rw [Bool.not_eq_false] at hsame
    have haccepted := h.accepted d.1 (PathMap.isSome_get?_of_mem_keys (List.mem_map_of_mem hd))
    simp [hasExtension_congr hsame, hpath] at haccepted
  have hdocuments : s.documents.erase path = s.documents := by
    refine PathMap.erase_of_forall fun d hd => ?_
    by_contra hsame
    rw [Bool.not_eq_false] at hsame
    have haccepted := h.hasExtension_of_mem_documents hd
    simp [hasExtension_congr hsame, hpath] at haccepted
  rw [close_eq_forget, forget, htexts]
  refine Prod.ext ?_ rfl
  rw [publish_documents_nil, hdocuments]

/-- What the listeners are told about a document that the filter turns away: that it is closed. -/
def farewells (extensions : List String) (listeners : Nat) : DocumentEvent → List Notification
  | .closed path =>
    if hasExtension path extensions then []
    else (List.range listeners).map fun i => ⟨i, path, []⟩
  | _ => []

theorem Filtered.handle_rejected (h : s.Filtered) {e : DocumentEvent}
    (he : e.isAdmitted s.extensions = false) :
    s.handle e = (s, farewells s.extensions s.listeners e) := by
  cases e with
  | opened path text => exact if_neg (Bool.not_eq_true _ ▸ he)
  | changed path text => exact if_neg (Bool.not_eq_true _ ▸ he)
  | closed path =>
    have hpath : hasExtension path s.extensions = false := he
    rw [farewells, hpath]
    exact h.close_rejected hpath
  | setPaused paused => cases he
  | rerunAll => cases he

theorem path_of_mem_told_publish {n : Notification} {vs : List Violation}
    (h : n ∈ (s.publish path vs).2) : n.path = path := by
  obtain ⟨i, -, rfl⟩ := List.mem_map.1 h
  rfl

theorem path_of_mem_told_runPass {n : Notification} (h : n ∈ (s.runPass path).2) :
    n.path = path := by
  rw [runPass] at h
  split at h
  · cases h
  · exact path_of_mem_told_publish h

theorem path_of_mem_told_runPasses {n : Notification} {paths : List Path}
    (h : n ∈ (s.runPasses paths).2) : n.path ∈ paths := by
  induction paths generalizing s with
  | nil => cases h
  | cons path paths ih =>
    rw [runPasses_eq_andThen, andThen, List.mem_append] at h
    rcases h with h | h
    · rw [path_of_mem_told_runPass h]
      exact List.mem_cons_self
    · exact List.mem_cons_of_mem _ (ih h)

theorem path_of_mem_told_analyze {n : Notification} {text : Source}
    (h : n ∈ (s.analyze path text).2) : n.path = path := by
  rw [analyze_eq_record] at h
  split at h
  · split at h
    · cases h
    · exact path_of_mem_told_runPass h
  · cases h

theorem Filtered.told_admitted (h : s.Filtered) {e : DocumentEvent}
    (he : e.isAdmitted s.extensions = true) :
    ∀ n ∈ (s.handle e).2, n.isAdmitted s.extensions = true := by
  intro n hn
  rw [Notification.isAdmitted]
  cases e with
  | opened path text => rwa [path_of_mem_told_analyze hn]
  | changed path text => rwa [path_of_mem_told_analyze hn]
  | closed path => rwa [path_of_mem_told_publish hn]
  | setPaused paused => cases hn
  | rerunAll => exact h.hasExtension_of_mem_openDocuments (path_of_mem_told_runPasses hn)

theorem isAdmitted_of_mem_farewells {extensions : List String} {listeners : Nat}
    {e : DocumentEvent} {n : Notification} (h : n ∈ farewells extensions listeners e) :
    n.isAdmitted extensions = false := by
  cases e with
  | closed path =>
    rw [farewells] at h
    split at h
    · cases h
    · rename_i hpath
      obtain ⟨i, -, rfl⟩ := List.mem_map.1 h
      exact (Bool.not_eq_true _).mp hpath
  | _ => cases h

theorem Filtered.filter_told_handle (h : s.Filtered) (e : DocumentEvent) :
    (s.handle e).2.filter (fun n => !n.isAdmitted s.extensions) =
      farewells s.extensions s.listeners e := by
  cases he : e.isAdmitted s.extensions with
  | true =>
    have hnone : farewells s.extensions s.listeners e = [] := by
      cases e with
      | closed path => exact if_pos he
      | _ => rfl
    rw [hnone, List.filter_eq_nil_iff]
    intro n hn
    simp [h.told_admitted he n hn]
  | false =>
    rw [h.handle_rejected he, List.filter_eq_self]
    intro n hn
    simp [isAdmitted_of_mem_farewells hn]

/-- What is left of a result without the notifications about documents turned away. -/
def admittedResult (extensions : List String) (r : Session × List Notification) :
    Session × List Notification :=
  (r.1, r.2.filter (Notification.isAdmitted extensions))

theorem admittedResult_andThen {extensions : List String} {r : Session × List Notification}
    {next : Session → Session × List Notification}
    (admittedNext : Session → Session × List Notification)
    (h : admittedResult extensions (next r.1) = admittedNext r.1) :
    admittedResult extensions (andThen r next) =
      andThen (admittedResult extensions r) admittedNext := by
  have hr : (admittedResult extensions r).1 = r.1 := rfl
  rw [andThen, andThen, hr, ← h]
  simp [admittedResult]

theorem Filtered.admittedResult_handle (h : s.Filtered) (e : DocumentEvent) :
    admittedResult s.extensions (s.handle e) =
      if e.isAdmitted s.extensions then s.handle e else (s, []) := by
  cases he : e.isAdmitted s.extensions with
  | true =>
    rw [if_pos rfl]
    exact Prod.ext rfl (List.filter_eq_self.2 (h.told_admitted he))
  | false =>
    rw [if_neg Bool.false_ne_true, h.handle_rejected he]
    refine Prod.ext rfl (List.filter_eq_nil_iff.2 fun n hn => ?_)
    simp [isAdmitted_of_mem_farewells hn]

theorem Filtered.admittedResult_handleAll (h : s.Filtered) (es : List DocumentEvent) :
    admittedResult s.extensions (s.handleAll es) =
      s.handleAll (es.filter (·.isAdmitted s.extensions)) := by
  induction es generalizing s with
  | nil => rfl
  | cons e es ih =>
    have hnext := ih (h.handle e)
    rw [(s.handle_registry e).2] at hnext
    rw [handleAll_eq_andThen, admittedResult_andThen (fun t => t.handleAll _) hnext,
      h.admittedResult_handle, List.filter_cons]
    split
    · rw [handleAll_eq_andThen]
    · rw [andThen_nil]

theorem Filtered.filter_told_handleAll (h : s.Filtered) (es : List DocumentEvent) :
    (s.handleAll es).2.filter (fun n => !n.isAdmitted s.extensions) =
      es.flatMap (farewells s.extensions s.listeners) := by
  induction es generalizing s with
  | nil => rfl
  | cons e es ih =>
    have hnext := ih (h.handle e)
    rw [(s.handle_registry e).2, s.handle_listeners e] at hnext
    rw [handleAll_eq_andThen, andThen, List.filter_append, h.filter_told_handle, hnext,
      List.flatMap_cons]

theorem farewells_eq_nil_iff {extensions : List String} {listeners : Nat} {e : DocumentEvent} :
    farewells extensions listeners e = [] ↔
      listeners = 0 ∨ ∀ path, e = .closed path → hasExtension path extensions = true := by
  cases e with
  | closed path =>
    rw [farewells]
    split <;> simp_all
  | _ => simp [farewells]

/-- Whatever the extensions, the listeners and the events, a run leaves accepted documents in its
tables only.  It ends as the run without the events about other documents does and tells the same
about accepted documents.  About the others it tells each listener that they are closed, whenever
they are, and nothing else; so it is silent about them exactly if nobody listens or none of them is
closed. -/
theorem handleAll_filtered (registry : Registry) (extensions : List String) (listeners : Nat)
    (es : List DocumentEvent) :
    let fresh := subscribe^[listeners] (start registry extensions)
    let run := fresh.handleAll es
    let admitted := fresh.handleAll (es.filter (·.isAdmitted extensions))
    (∀ path ∈ run.1.openDocuments, hasExtension path extensions = true) ∧
      (∀ d ∈ run.1.documents, hasExtension d.1 extensions = true) ∧
      run.1 = admitted.1 ∧
      run.2.filter (·.isAdmitted extensions) = admitted.2 ∧
      run.2.filter (fun n => !n.isAdmitted extensions) =
        es.flatMap (farewells extensions listeners) ∧
      ((∀ n ∈ run.2, hasExtension n.path extensions = true) ↔
        listeners = 0 ∨ ∀ path, .closed path ∈ es → hasExtension path extensions = true) := by
  intro fresh run admitted
  have hfresh : fresh.Filtered := filtered_iterate_subscribe registry extensions listeners
  have hextensions : fresh.extensions = extensions := by simp [fresh, iterate_subscribe, start]
  have hlisteners : fresh.listeners = listeners := by simp [fresh, iterate_subscribe, start]
  have hrun : run.1.Filtered := hfresh.handleAll es
  have hrunExtensions : run.1.extensions = extensions :=
    (fresh.handleAll_extensions es).trans hextensions
  have hresult := hfresh.admittedResult_handleAll es
  have hfarewells := hfresh.filter_told_handleAll es
  rw [hextensions] at hresult hfarewells
  rw [hlisteners] at hfarewells
  obtain ⟨hstate, htold⟩ := Prod.ext_iff.1 hresult
  refine ⟨fun path hpath => ?_, fun d hd => ?_, hstate, htold, hfarewells, ?_⟩
  · rw [← hrunExtensions]
    exact hrun.hasExtension_of_mem_openDocuments hpath
  · rw [← hrunExtensions]
    exact hrun.hasExtension_of_mem_documents hd
  · -- Nothing is told about other documents when none of the events says farewell to one.
    calc (∀ n ∈ run.2, hasExtension n.path extensions = true)
        ↔ run.2.filter (fun n => !n.isAdmitted extensions) = [] := by
          simp [Notification.isAdmitted]
      _ ↔ ∀ e ∈ es, farewells extensions listeners e = [] := by
          rw [hfarewells, List.flatMap_eq_nil_iff]
      _ ↔ listeners = 0 ∨ ∀ path, .closed path ∈ es → hasExtension path extensions = true := by
          simp only [farewells_eq_nil_iff]
          by_cases hzero : listeners = 0
          · simp [hzero]
          · simp only [hzero, false_or]
            exact ⟨fun h path hpath => h _ hpath path rfl, fun h e he path heq => h path (heq ▸ he)⟩

/-- A document that was never taken in is heard of when it is closed. -/
theorem handleAll_tells_rejected_close :
    let es : List DocumentEvent := [.opened ⟨"notes.md"⟩ "goto x;".toList, .closed ⟨"notes.md"⟩]
    let fresh := (start (.reindexed [gotoRule]) defaultExtensions).subscribe
    hasExtension ⟨"notes.md"⟩ defaultExtensions = false ∧
      (fresh.handleAll es).2 = [⟨0, ⟨"notes.md"⟩, []⟩] := by
  decide +kernel

end Session

end PatternLint
