import Mathlib.Logic.Function.Iterate
import PatternLint.Proofs.Session.Tables

/-! Documents do not influence each other.
What a session holds and tells about one document is a session of its own: `only` cuts it out, and
every operation either takes place in the cut as it does in the whole, or leaves the cut alone.
A run and the run of the events that concern a document therefore agree about that document, and
events about two documents may change places. -/

namespace PatternLint

namespace DocumentEvent

/-- The document that an event is about; pausing and rerunning are about none. -/
def path? : DocumentEvent → Option Path
  | .opened path _ | .changed path _ | .closed path => some path
  | .setPaused _ | .rerunAll => none

def concerns (p : Path) (e : DocumentEvent) : Bool := e.path?.all (·.same p)

end DocumentEvent

def Notification.isAbout (p : Path) (n : Notification) : Bool := n.path.same p

namespace Session

def only (s : Session) (p : Path) : Session :=
  { s with documents := s.documents.only p, openTexts := s.openTexts.only p }

/-- What a session that has handled something holds and has told about one document. -/
def onlyResult (p : Path) (r : Session × List Notification) : Session × List Notification :=
  (r.1.only p, r.2.filter (Notification.isAbout p))

@[simp]
theorem violations_only (s : Session) (p : Path) : (s.only p).violations p = s.violations p := by
  rw [violations, violations, only, PathMap.get?_only p.same_refl]

@[simp]
theorem text?_only (s : Session) (p : Path) :
    (s.only p).openTexts.get? p = s.openTexts.get? p :=
  PathMap.get?_only p.same_refl s.openTexts

variable {s : Session} {p path : Path}

theorem filter_told_same (hpath : path.same p = true) (vs : List Violation) (n : Nat) :
    ((List.range n).map fun i => Notification.mk i path vs).filter (Notification.isAbout p) =
      (List.range n).map fun i => ⟨i, path, vs⟩ := by
  refine List.filter_eq_self.2 fun a ha => ?_
  obtain ⟨i, -, rfl⟩ := List.mem_map.1 ha
  exact hpath

theorem filter_told_other (hpath : path.same p = false) (vs : List Violation) (n : Nat) :
    ((List.range n).map fun i => Notification.mk i path vs).filter (Notification.isAbout p) =
      [] := by
  refine List.filter_eq_nil_iff.2 fun a ha => ?_
  obtain ⟨i, -, rfl⟩ := List.mem_map.1 ha
  simp [Notification.isAbout, hpath]

theorem onlyResult_publish (h : s.documents.Sorted) (hpath : path.same p = true)
    (vs : List Violation) :
    onlyResult p (s.publish path vs) = (s.only p).publish path vs := by
  refine Prod.ext ?_ (filter_told_same hpath vs s.listeners)
  by_cases hvs : vs = []
  · subst hvs
    simp only [onlyResult, publish_documents_nil, only, PathMap.only_erase]
  · simp only [onlyResult, publish_documents_ne_nil hvs, only, PathMap.only_insert_same h hpath]

theorem onlyResult_publish_other (hpath : path.same p = false) (vs : List Violation) :
    onlyResult p (s.publish path vs) = (s.only p, []) := by
  refine Prod.ext ?_ (filter_told_other hpath vs s.listeners)
  by_cases hvs : vs = []
  · subst hvs
    simp only [onlyResult, publish_documents_nil, only, PathMap.only_erase_other hpath]
  · simp only [onlyResult, publish_documents_ne_nil hvs, only, PathMap.only_insert_other hpath]

theorem onlyResult_runPass (h : s.Tidy) (hpath : path.same p = true) :
    onlyResult p (s.runPass path) = (s.only p).runPass path := by
  have hget : (s.only p).openTexts.get? path = s.openTexts.get? path :=
    PathMap.get?_only hpath s.openTexts
  rw [runPass, runPass, hget]
  cases s.openTexts.get? path with
  | none => rfl
  | some text => exact onlyResult_publish h.documents_sorted hpath _

theorem onlyResult_runPass_other (hpath : path.same p = false) :
    onlyResult p (s.runPass path) = (s.only p, []) := by
  rw [runPass]
  cases s.openTexts.get? path with
  | none => rfl
  | some text => exact onlyResult_publish_other hpath _

/-- What `next` makes of a result, told after what has been told before. -/
def andThen (r : Session × List Notification) (next : Session → Session × List Notification) :
    Session × List Notification :=
  ((next r.1).1, r.2 ++ (next r.1).2)

@[simp]
theorem andThen_nil (s : Session) (next : Session → Session × List Notification) :
    andThen (s, []) next = next s := rfl

theorem runPasses_eq_andThen (s : Session) (path : Path) (paths : List Path) :
    s.runPasses (path :: paths) = andThen (s.runPass path) fun t => t.runPasses paths := rfl

theorem handleAll_eq_andThen (s : Session) (e : DocumentEvent) (es : List DocumentEvent) :
    s.handleAll (e :: es) = andThen (s.handle e) fun t => t.handleAll es := rfl

theorem onlyResult_andThen {r : Session × List Notification}
    {next : Session → Session × List Notification}
    (cutNext : Session → Session × List Notification)
    (h : onlyResult p (next r.1) = cutNext (r.1.only p)) :
    onlyResult p (andThen r next) = andThen (onlyResult p r) cutNext := by
  have hr : (onlyResult p r).1 = r.1.only p := rfl
  rw [andThen, andThen, hr, ← h]
  simp [onlyResult]

theorem onlyResult_runPasses (h : s.Tidy) (p : Path) (paths : List Path) :
    onlyResult p (s.runPasses paths) = (s.only p).runPasses (paths.filter (·.same p)) := by
  induction paths generalizing s with
  | nil => rfl
  | cons path paths ih =>
    rw [runPasses_eq_andThen, onlyResult_andThen (fun t => t.runPasses _) (ih (h.runPass path)),
      List.filter_cons]
    cases hpath : path.same p with
    | true => rw [onlyResult_runPass h hpath, if_pos rfl, runPasses_eq_andThen]
    | false => rw [onlyResult_runPass_other hpath, andThen_nil, if_neg Bool.false_ne_true]

theorem record_only (h : s.Tidy) (hpath : path.same p = true) (text : Source) :
    (s.record path text).only p = (s.only p).record path text := by
  simp only [only, record, PathMap.only_insert_same h.texts_sorted hpath]

theorem record_only_other (hpath : path.same p = false) (text : Source) :
    (s.record path text).only p = s.only p := by
  simp only [only, record, PathMap.only_insert_other hpath]

theorem onlyResult_analyze (h : s.Tidy) (hpath : path.same p = true) (text : Source) :
    onlyResult p (s.analyze path text) = (s.only p).analyze path text := by
  have hx : (s.only p).extensions = s.extensions := rfl
  have hs : (s.only p).paused = s.paused := rfl
  rw [analyze_eq_record, analyze_eq_record, hx, hs, ← record_only h hpath]
  split
  · split
    · rfl
    · exact onlyResult_runPass (h.record path text) hpath
  · rfl

theorem onlyResult_analyze_other (hpath : path.same p = false) (text : Source) :
    onlyResult p (s.analyze path text) = (s.only p, []) := by
  rw [analyze_eq_record, ← record_only_other hpath text]
  split
  · split
    · rfl
    · exact onlyResult_runPass_other hpath
  · rw [record_only_other hpath]
    rfl

theorem onlyResult_close (h : s.Tidy) (hpath : path.same p = true) :
    onlyResult p (s.close path) = (s.only p).close path := by
  have hforget : (s.forget path).only p = (s.only p).forget path := by
    simp only [only, forget, PathMap.only_erase]
  rw [close_eq_forget, close_eq_forget, ← hforget]
  exact onlyResult_publish (s := s.forget path) h.documents_sorted hpath []

theorem onlyResult_close_other (hpath : path.same p = false) :
    onlyResult p (s.close path) = (s.only p, []) := by
  have hforget : (s.forget path).only p = s.only p := by
    simp only [only, forget, PathMap.only_erase_other hpath]
  rw [close_eq_forget, ← hforget]
  exact onlyResult_publish_other hpath []

theorem onlyResult_rerun (h : s.Tidy) (p : Path) :
    onlyResult p (s.rerun s.openTexts.keys) = (s.only p).rerun (s.only p).openTexts.keys := by
  have hkeys : (s.only p).openTexts.keys = s.openTexts.keys.filter (·.same p) :=
    PathMap.keys_only s.openTexts p
  rw [rerun, rerun, hkeys, onlyResult_runPasses (h.setPaused false)]
  rfl

theorem onlyResult_handle (h : s.Tidy) {e : DocumentEvent} (he : e.concerns p = true) :
    onlyResult p (s.handle e) = (s.only p).handle e := by
  cases e with
  | opened path text => exact onlyResult_analyze h he text
  | changed path text => exact onlyResult_analyze h he text
  | closed path => exact onlyResult_close h he
  | setPaused paused => rfl
  | rerunAll => exact onlyResult_rerun h p

theorem onlyResult_handle_other {e : DocumentEvent} (he : e.concerns p = false) :
    onlyResult p (s.handle e) = (s.only p, []) := by
  cases e with
  | opened path text => exact onlyResult_analyze_other he text
  | changed path text => exact onlyResult_analyze_other he text
  | closed path => exact onlyResult_close_other he
  | setPaused paused => cases he
  | rerunAll => cases he

theorem onlyResult_handleAll (h : s.Tidy) (p : Path) (es : List DocumentEvent) :
    onlyResult p (s.handleAll es) = (s.only p).handleAll (es.filter (·.concerns p)) := by
  induction es generalizing s with
  | nil => rfl
  | cons e es ih =>
    rw [handleAll_eq_andThen, onlyResult_andThen (fun t => t.handleAll _) (ih (h.handle e)),
      List.filter_cons]
    cases he : e.concerns p with
    | true => rw [onlyResult_handle h he, if_pos rfl, handleAll_eq_andThen]
    | false => rw [onlyResult_handle_other he, andThen_nil, if_neg Bool.false_ne_true]

/-- Two runs cannot be told apart by what they show, keep and have told about `p`. -/
structure AgreeAbout (p : Path) (r r' : Session × List Notification) : Prop where
  violations_eq : r.1.violations p = r'.1.violations p
  text_eq : r.1.openTexts.get? p = r'.1.openTexts.get? p
  told_eq : r.2.filter (Notification.isAbout p) = r'.2.filter (Notification.isAbout p)

theorem AgreeAbout.of_onlyResult {r r' : Session × List Notification}
    (h : onlyResult p r = onlyResult p r') : AgreeAbout p r r' := by
  obtain ⟨hstate, htold⟩ := Prod.ext_iff.1 h
  change r.1.only p = r'.1.only p at hstate
  refine ⟨?_, ?_, htold⟩
  · rw [← violations_only, hstate, violations_only]
  · rw [← text?_only, hstate, text?_only]

theorem agreeAbout_of_filter_eq (h : s.Tidy) {es es' : List DocumentEvent}
    (hes : es.filter (·.concerns p) = es'.filter (·.concerns p)) :
    AgreeAbout p (s.handleAll es) (s.handleAll es') := by
  refine .of_onlyResult ?_
  rw [onlyResult_handleAll h, onlyResult_handleAll h, hes]

theorem filter_concerns_swap {e₁ e₂ : DocumentEvent} {q₁ q₂ : Path} (h₁ : e₁.path? = some q₁)
    (h₂ : e₂.path? = some q₂) (hne : q₁.same q₂ = false) (p : Path)
    (before after : List DocumentEvent) :
    (before ++ e₁ :: e₂ :: after).filter (·.concerns p) =
      (before ++ e₂ :: e₁ :: after).filter (·.concerns p) := by
  have hnot : q₁.same p = true → q₂.same p = false := by
    intro hp
    rw [Path.same_comm, ← Path.same_congr_left hp, hne]
  have hc₁ : e₁.concerns p = q₁.same p := by simp [DocumentEvent.concerns, h₁]
  have hc₂ : e₂.concerns p = q₂.same p := by simp [DocumentEvent.concerns, h₂]
  simp only [List.filter_append, List.filter_cons, hc₁, hc₂]
  cases hp : q₁.same p with
  | true => simp [hnot hp]
  | false => simp

theorem tidy_iterate_subscribe (registry : Registry) (extensions : List String) (n : Nat) :
    (subscribe^[n] (start registry extensions)).Tidy := by
  induction n with
  | zero => exact tidy_start registry extensions
  | succ n ih =>
    rw [Function.iterate_succ_apply']
    exact ih.subscribe

/-- With any number of listeners, a run agrees about a document with the run of the events that
concern it, and two neighbouring events about different documents may change places. -/
theorem handleAll_independent (registry : Registry) (extensions : List String) (listeners : Nat)
    (es : List DocumentEvent) (p : Path) :
    let fresh := subscribe^[listeners] (start registry extensions)
    AgreeAbout p (fresh.handleAll es) (fresh.handleAll (es.filter (·.concerns p))) ∧
      ∀ before e₁ e₂ after q₁ q₂,
        e₁.path? = some q₁ → e₂.path? = some q₂ → q₁.same q₂ = false →
        AgreeAbout p (fresh.handleAll (before ++ e₁ :: e₂ :: after))
          (fresh.handleAll (before ++ e₂ :: e₁ :: after)) := by
  intro fresh
  have hfresh : fresh.Tidy := tidy_iterate_subscribe registry extensions listeners
  constructor
  · exact agreeAbout_of_filter_eq hfresh (by simp [List.filter_filter])
  · intro before e₁ e₂ after q₁ q₂ h₁ h₂ hne
    exact agreeAbout_of_filter_eq hfresh (filter_concerns_swap h₁ h₂ hne p before after)

def gotoRule : Rule where
  code := "A6-6-1"
  severity := .error
  category := "Statements"
  pattern := ⟨"goto", .standard, 0,
    .linear (Pattern.Linear.ofRegular (.literal ['g', 'o', 't', 'o']))⟩
  message := "goto"
  description := ""
  rationale := none
  remediation := none

/-- One document is edited and another one closed, in either order, during a pause; the edit uses
a second spelling of its document. -/
theorem handleAll_independent_edit_close :
    let p : Path := ⟨"d/a.cpp"⟩
    let edit : DocumentEvent := .changed ⟨"d//a.cpp"⟩ "goto x;".toList
    let before : List DocumentEvent :=
      [.opened p "x;".toList, .opened ⟨"b.cpp"⟩ "goto y;".toList, .setPaused true]
    let fresh := subscribe^[2] (start (.reindexed [gotoRule]) ["cpp"])
    (fresh.handleAll (before ++ [edit, .closed ⟨"b.cpp"⟩, .rerunAll])).1.violations p ≠ [] ∧
      Path.same ⟨"d//a.cpp"⟩ ⟨"b.cpp"⟩ = false ∧
      AgreeAbout p (fresh.handleAll (before ++ [edit, .closed ⟨"b.cpp"⟩, .rerunAll]))
        (fresh.handleAll (before ++ [.closed ⟨"b.cpp"⟩, edit, .rerunAll])) := by
  intro p edit before fresh
  have hne : Path.same ⟨"d//a.cpp"⟩ ⟨"b.cpp"⟩ = false := by decide +kernel
  refine ⟨by decide +kernel, hne, ?_⟩
  exact (handleAll_independent _ _ 2 before p).2 before edit (.closed ⟨"b.cpp"⟩) [.rerunAll] _ _
    rfl rfl hne

end Session

end PatternLint
