import Mathlib.Data.List.Forall2
import Mathlib.Data.List.Induction
import PatternLint.Proofs.PathMap
import PatternLint.Session

/-! What a session shows about a document, read off the history of its events.
A history fixes three things by itself: whether the session is paused, the text known of each
document, and which events let a pass over a document run.  The violations shown are those of the
text known at the latest such event, and none when the document was closed after it. -/

namespace PatternLint

/-- Two findings that differ in the spelling of the file at most. -/
def Violation.SameFinding (v w : Violation) : Prop :=
  v.location.file.same w.location.file = true ∧
    { v with location := { v.location with file := w.location.file } } = w

abbrev SameFindings : List Violation → List Violation → Prop :=
  List.Forall₂ Violation.SameFinding

namespace DocumentEvent

/-- The text an event brings for `p`; documents with other extensions are not recorded. -/
def recordedText? (extensions : List String) (p : Path) : DocumentEvent → Option Source
  | .opened q text | .changed q text =>
    if q.same p && hasExtension q extensions then some text else none
  | _ => none

def closes (p : Path) : DocumentEvent → Bool
  | .closed q => q.same p
  | _ => false

def pause? : DocumentEvent → Option Bool
  | .setPaused paused => some paused
  | .rerunAll => some false
  | _ => none

/-- Whether an event lets a pass over `p` run, given the pause flag and the text known before. -/
def isPass (extensions : List String) (p : Path) (paused : Bool) (known : Option Source) :
    DocumentEvent → Bool
  | .rerunAll => known.isSome
  | e => (e.recordedText? extensions p).isSome && !paused

end DocumentEvent

namespace History

open DocumentEvent

/-- The pause flag after a history: the last one set, and off at first. -/
def paused (es : List DocumentEvent) : Bool := (es.filterMap pause?).getLast?.getD false

/-- The latest text of `p` recorded since it was last closed. -/
def text? (extensions : List String) (p : Path) (es : List DocumentEvent) : Option Source :=
  (es.reverse.takeWhile fun e => !e.closes p).findSome? (recordedText? extensions p)

/-- Event number `i` of the history lets a pass over `p` run. -/
def PassPoint (extensions : List String) (p : Path) (es : List DocumentEvent) (i : Nat) : Prop :=
  ∃ e, es[i]? = some e ∧
    e.isPass extensions p (paused (es.take i)) (text? extensions p (es.take i)) = true

/-- Event number `i` is the latest pass point of `p` and `p` has not been closed since. -/
structure LatestPass (extensions : List String) (p : Path) (es : List DocumentEvent)
    (i : Nat) : Prop where
  passes : PassPoint extensions p es i
  still_open : ∀ e ∈ es.drop (i + 1), e.closes p = false
  latest : ∀ j, i < j → ¬ PassPoint extensions p es j

theorem paused_concat (es : List DocumentEvent) (e : DocumentEvent) :
    paused (es ++ [e]) = e.pause?.getD (paused es) := by
  cases h : e.pause? with
  | none => simp [paused, h]
  | some b => simp [paused, h]

theorem text?_concat (extensions : List String) (p : Path) (es : List DocumentEvent)
    (e : DocumentEvent) :
    text? extensions p (es ++ [e]) =
      if e.closes p then none
      else (e.recordedText? extensions p).or (text? extensions p es) := by
  by_cases hc : e.closes p = true
  · simp [text?, hc]
  · cases hr : e.recordedText? extensions p <;> simp [text?, hc, hr]

variable {extensions : List String} {p : Path} {es : List DocumentEvent} {e : DocumentEvent}
  {i : Nat}

theorem PassPoint.lt_length (h : PassPoint extensions p es i) : i < es.length := by
  obtain ⟨e, he, -⟩ := h
  exact (List.getElem?_eq_some_iff.1 he).1

theorem passPoint_concat_lt (hi : i < es.length) :
    PassPoint extensions p (es ++ [e]) i ↔ PassPoint extensions p es i := by
  simp only [PassPoint, List.getElem?_append_left hi,
    List.take_append_of_le_length (Nat.le_of_lt hi)]

theorem passPoint_concat_length :
    PassPoint extensions p (es ++ [e]) es.length ↔
      e.isPass extensions p (paused es) (text? extensions p es) = true := by
  simp [PassPoint]

theorem PassPoint.lt_or_eq (h : PassPoint extensions p (es ++ [e]) i) :
    i < es.length ∨ i = es.length := by
  have hi := h.lt_length
  rw [List.length_append, List.length_singleton] at hi
  omega

theorem latestPass_concat_of_isPass
    (he : e.isPass extensions p (paused es) (text? extensions p es) = true) :
    LatestPass extensions p (es ++ [e]) i ↔ i = es.length := by
  have hlast := passPoint_concat_length.2 he
  constructor
  · intro h
    exact h.passes.lt_or_eq.resolve_left fun hlt => h.latest es.length hlt hlast
  · rintro rfl
    refine ⟨hlast, fun e' he' => ?_, fun j hij hj => ?_⟩
    · simp at he'
    · rcases hj.lt_or_eq with hlt | rfl
      · omega
      · omega

theorem LatestPass.lt_length_of_concat (h : LatestPass extensions p (es ++ [e]) i)
    (he : e.isPass extensions p (paused es) (text? extensions p es) = false) : i < es.length := by
  refine h.passes.lt_or_eq.resolve_right ?_
  rintro rfl
  rw [passPoint_concat_length.1 h.passes] at he
  cases he

theorem latestPass_concat_of_other (hc : e.closes p = false)
    (he : e.isPass extensions p (paused es) (text? extensions p es) = false) :
    LatestPass extensions p (es ++ [e]) i ↔ LatestPass extensions p es i := by
  constructor
  · intro h
    have hi := h.lt_length_of_concat he
    refine ⟨(passPoint_concat_lt hi).1 h.passes, fun e' he' => ?_, fun j hij hj => ?_⟩
    · refine h.still_open e' ?_
      rw [List.drop_append_of_le_length hi]
      exact List.mem_append_left _ he'
    · exact h.latest j hij ((passPoint_concat_lt hj.lt_length).2 hj)
  · intro h
    have hi := h.passes.lt_length
    refine ⟨(passPoint_concat_lt hi).2 h.passes, fun e' he' => ?_, fun j hij hj => ?_⟩
    · rw [List.drop_append_of_le_length hi, List.mem_append, List.mem_singleton] at he'
      rcases he' with he' | rfl
      · exact h.still_open e' he'
      · exact hc
    · rcases hj.lt_or_eq with hlt | rfl
      · exact h.latest j hij ((passPoint_concat_lt hlt).1 hj)
      · rw [passPoint_concat_length.1 hj] at he
        cases he

theorem not_latestPass_of_closes (he : e.closes p = true) :
    ¬ LatestPass extensions p (es ++ [e]) i := by
  intro h
  have hpass : e.isPass extensions p (paused es) (text? extensions p es) = false := by
    cases e with
    | closed q => rfl
    | _ => cases he
  have hopen := h.still_open e (by
    rw [List.drop_append_of_le_length (h.lt_length_of_concat hpass)]
    exact List.mem_append_right _ (List.mem_singleton_self e))
  rw [he] at hopen
  cases hopen

end History

def Violation.inFile (file : Path) (v : Violation) : Violation :=
  { v with location := { v.location with file } }

theorem Document.report?_inFile (p q : Path) (text : Source) (r : Rule) (m : MatchSpan) :
    (ofText q text).report? r m = ((ofText p text).report? r m).map (Violation.inFile q) := by
  have hc : (ofText q text).comments = (ofText p text).comments := rfl
  have hp : (ofText q text).position m.start = (ofText p text).position m.start := rfl
  have hs : ∀ line, (ofText q text).isSuppressed line r.code =
      (ofText p text).isSuppressed line r.code := fun _ => rfl
  simp only [report?, hc, hp, hs]
  split
  · rfl
  · split <;> rfl

theorem Document.checkRule_inFile (p q : Path) (text : Source) (r : Rule) :
    (ofText q text).checkRule r = ((ofText p text).checkRule r).map (Violation.inFile q) := by
  have ht : (ofText q text).text = (ofText p text).text := rfl
  simp only [checkRule, ht]
  cases r.findMatches (ofText p text).text with
  | ok spans => rw [List.map_filterMap, funext (report?_inFile p q text r)]
  | error e => rfl

theorem Registry.analyze_inFile (g : Registry) (p q : Path) (text : Source) :
    g.analyze q text = (g.analyze p text).map (Violation.inFile q) := by
  rw [analyze, analyze, List.map_flatMap]
  exact congrArg g.rules.flatMap (funext (Document.checkRule_inFile p q text))

theorem Registry.file_of_mem_analyze {g : Registry} {p : Path} {text : Source} {v : Violation}
    (h : v ∈ g.analyze p text) : v.location.file = p := by
  rw [g.analyze_inFile p p, List.mem_map] at h
  obtain ⟨w, -, rfl⟩ := h
  rfl

theorem Registry.analyze_sameFindings (g : Registry) {p q : Path} (h : q.same p = true)
    (text : Source) : SameFindings (g.analyze q text) (g.analyze p text) := by
  rw [g.analyze_inFile p q]
  refine List.forall₂_map_left_iff.2 (List.forall₂_same.2 ?_)
  intro v hv
  have hf : v.location.file = p := file_of_mem_analyze hv
  refine ⟨?_, rfl⟩
  rw [hf]
  exact h

namespace Session

@[simp]
theorem handleAll_concat (s : Session) (es : List DocumentEvent) (e : DocumentEvent) :
    (s.handleAll (es ++ [e])).1 = ((s.handleAll es).1.handle e).1 := by
  induction es generalizing s with
  | nil => rfl
  | cons e' es ih => exact ih (s.handle e').1

@[simp]
theorem violations_publish (s : Session) (path p : Path) (vs : List Violation) :
    (s.publish path vs).1.violations p = if path.same p then vs else s.violations p := by
  by_cases hv : vs = []
  · subst hv
    simp only [publish, violations, List.isEmpty_nil, ↓reduceIte, PathMap.get?_erase]
    split <;> rfl
  · have hne : vs.isEmpty = false := by simpa using hv
    simp only [publish, violations, hne, Bool.false_eq_true, ↓reduceIte, PathMap.get?_insert]
    split <;> rfl

@[simp]
theorem runPasses_cons (s : Session) (p : Path) (ps : List Path) :
    (s.runPasses (p :: ps)).1 = ((s.runPass p).1.runPasses ps).1 := rfl

theorem runPass_frame (s : Session) (path : Path) :
    ∃ documents, (s.runPass path).1 = { s with documents } := by
  rw [runPass]
  split
  · exact ⟨s.documents, rfl⟩
  · exact ⟨_, rfl⟩

theorem runPasses_frame (s : Session) (ps : List Path) :
    ∃ documents, (s.runPasses ps).1 = { s with documents } := by
  induction ps generalizing s with
  | nil => exact ⟨s.documents, rfl⟩
  | cons p ps ih =>
    obtain ⟨d, hd⟩ := s.runPass_frame p
    obtain ⟨d', hd'⟩ := ih (s.runPass p).1
    exact ⟨d', by rw [runPasses_cons, hd', hd]⟩

theorem violations_runPass {s : Session} {path : Path} {text : Source}
    (h : s.openTexts.get? path = some text) (p : Path) :
    (s.runPass path).1.violations p =
      if path.same p then s.registry.analyze path text else s.violations p := by
  simp only [runPass, h, violations_publish]

theorem violations_runPass_other {s : Session} {path p : Path} (h : path.same p = false) :
    (s.runPass path).1.violations p = s.violations p := by
  cases ht : s.openTexts.get? path with
  | none => simp only [runPass, ht]
  | some text => simp [violations_runPass ht, h]

theorem violations_runPasses_other {s : Session} {ps : List Path} {p : Path}
    (h : ∀ q ∈ ps, q.same p = false) : (s.runPasses ps).1.violations p = s.violations p := by
  induction ps generalizing s with
  | nil => rfl
  | cons q ps ih =>
    obtain ⟨hq, hps⟩ := List.forall_mem_cons.1 h
    exact (ih hps).trans (violations_runPass_other hq)

theorem violations_runPasses {s : Session} {ps : List Path} {p : Path} {text : Source}
    (ht : s.openTexts.get? p = some text) (h : ∃ q ∈ ps, q.same p = true) :
    ∃ q, q.same p = true ∧ (s.runPasses ps).1.violations p = s.registry.analyze q text := by
  induction ps generalizing s with
  | nil => simp at h
  | cons q ps ih =>
    rw [runPasses_cons]
    by_cases hps : ∃ r ∈ ps, r.same p = true
    · obtain ⟨d, hd⟩ := s.runPass_frame q
      rw [hd]
      exact ih ht hps
    · have hother : ∀ r ∈ ps, r.same p = false := by
        intro r hr
        simpa using fun hs => hps ⟨r, hr, hs⟩
      have hq : q.same p = true := by
        obtain ⟨r, hr, hs⟩ := h
        rcases List.mem_cons.1 hr with rfl | hr
        · exact hs
        · exact absurd ⟨r, hr, hs⟩ hps
      refine ⟨q, hq, ?_⟩
      have htq : s.openTexts.get? q = some text := by rw [PathMap.get?_congr hq, ht]
      rw [violations_runPasses_other hother, violations_runPass htq, if_pos hq]

theorem analyze_rejected {s : Session} {path : Path} (h : hasExtension path s.extensions = false)
    (text : Source) : (s.analyze path text).1 = s := by
  simp [analyze, h]

theorem analyze_accepted {s : Session} {path : Path} (h : hasExtension path s.extensions = true)
    (text : Source) :
    ∃ documents, (s.analyze path text).1 =
      { s with openTexts := PathMap.insert path text s.openTexts, documents } := by
  simp only [analyze, h, ↓reduceIte]
  split
  · exact ⟨s.documents, rfl⟩
  · exact runPass_frame _ path

theorem handle_frame (s : Session) (e : DocumentEvent) :
    ∃ documents openTexts paused, (s.handle e).1 = { s with documents, openTexts, paused } := by
  have hanalyze : ∀ path text, ∃ documents openTexts paused,
      (s.analyze path text).1 = { s with documents, openTexts, paused } := by
    intro path text
    cases h : hasExtension path s.extensions with
    | false => exact ⟨_, _, _, analyze_rejected h text⟩
    | true =>
      obtain ⟨d, hd⟩ := analyze_accepted h text
      exact ⟨d, _, _, hd⟩
  cases e with
  | opened path text => exact hanalyze path text
  | changed path text => exact hanalyze path text
  | closed path => exact ⟨_, _, _, rfl⟩
  | setPaused b => exact ⟨_, _, b, rfl⟩
  | rerunAll =>
    obtain ⟨d, hd⟩ := (s.setPaused false).runPasses_frame s.openTexts.keys
    exact ⟨d, _, _, hd⟩

theorem handle_registry (s : Session) (e : DocumentEvent) :
    (s.handle e).1.registry = s.registry ∧ (s.handle e).1.extensions = s.extensions := by
  obtain ⟨d, t, b, h⟩ := s.handle_frame e
  rw [h]
  exact ⟨rfl, rfl⟩

@[simp]
theorem handle_listeners (s : Session) (e : DocumentEvent) :
    (s.handle e).1.listeners = s.listeners := by
  obtain ⟨d, t, b, h⟩ := s.handle_frame e
  rw [h]

@[simp]
theorem paused_analyze (s : Session) (path : Path) (text : Source) :
    (s.analyze path text).1.paused = s.paused := by
  cases h : hasExtension path s.extensions with
  | false => rw [analyze_rejected h]
  | true =>
    obtain ⟨d, hd⟩ := analyze_accepted h text
    rw [hd]

@[simp]
theorem paused_handle (s : Session) (e : DocumentEvent) :
    (s.handle e).1.paused = e.pause?.getD s.paused := by
  cases e with
  | opened path text => exact s.paused_analyze path text
  | changed path text => exact s.paused_analyze path text
  | closed path => rfl
  | setPaused b => rfl
  | rerunAll =>
    obtain ⟨d, hd⟩ := (s.setPaused false).runPasses_frame s.openTexts.keys
    rw [handle, rerun, hd]
    rfl

theorem text?_analyze (s : Session) (path p : Path) (text : Source) :
    (s.analyze path text).1.openTexts.get? p =
      if path.same p && hasExtension path s.extensions then some text
      else s.openTexts.get? p := by
  cases h : hasExtension path s.extensions with
  | false => simp [analyze_rejected h]
  | true =>
    obtain ⟨d, hd⟩ := analyze_accepted h text
    simp [hd, PathMap.get?_insert]

theorem text?_handle (s : Session) (e : DocumentEvent) (p : Path) :
    (s.handle e).1.openTexts.get? p =
      if e.closes p then none
      else (e.recordedText? s.extensions p).or (s.openTexts.get? p) := by
  have hanalyze : ∀ path text, (s.analyze path text).1.openTexts.get? p =
      (if path.same p && hasExtension path s.extensions then some text else none).or
        (s.openTexts.get? p) := by
    intro path text
    rw [text?_analyze]
    split <;> rfl
  cases e with
  | opened path text => exact hanalyze path text
  | changed path text => exact hanalyze path text
  | closed path => exact PathMap.get?_erase path p s.openTexts
  | setPaused b => rfl
  | rerunAll =>
    obtain ⟨d, hd⟩ := (s.setPaused false).runPasses_frame s.openTexts.keys
    rw [handle, rerun, hd]
    rfl

theorem violations_handle_closes {s : Session} {e : DocumentEvent} {p : Path}
    (h : e.closes p = true) : (s.handle e).1.violations p = [] := by
  cases e with
  | closed path =>
    have hp : path.same p = true := h
    rw [handle, close, violations_publish, if_pos hp]
  | _ => cases h

theorem violations_analyze_pass {s : Session} {path : Path}
    (hx : hasExtension path s.extensions = true) (hs : s.paused = false) (text : Source)
    (p : Path) :
    (s.analyze path text).1.violations p =
      if path.same p then s.registry.analyze path text else s.violations p := by
  have hget : (PathMap.insert path text s.openTexts).get? path = some text := by
    simp [PathMap.get?_insert]
  simp only [analyze, hx, hs, ↓reduceIte, Bool.false_eq_true]
  exact violations_runPass hget p

theorem violations_handle_pass {s : Session} {e : DocumentEvent} {p : Path}
    (h : e.isPass s.extensions p s.paused (s.openTexts.get? p) = true) :
    ∃ q text, q.same p = true ∧ (s.handle e).1.openTexts.get? p = some text ∧
      (s.handle e).1.violations p = s.registry.analyze q text := by
  have hanalyze : ∀ path text,
      (if path.same p && hasExtension path s.extensions then some text else none).isSome = true →
      s.paused = false →
      path.same p = true ∧ (s.analyze path text).1.openTexts.get? p = some text ∧
        (s.analyze path text).1.violations p = s.registry.analyze path text := by
    intro path text hsome hs
    have hboth : (path.same p && hasExtension path s.extensions) = true := by
      by_contra hno
      simp [hno] at hsome
    obtain ⟨hp, hx⟩ := Bool.and_eq_true_iff.1 hboth
    refine ⟨hp, ?_, ?_⟩
    · rw [text?_analyze, if_pos hboth]
    · rw [violations_analyze_pass hx hs, if_pos hp]
  cases e with
  | opened path text =>
    obtain ⟨hr, hs⟩ := Bool.and_eq_true_iff.1 h
    exact ⟨path, text, hanalyze path text hr (by simpa using hs)⟩
  | changed path text =>
    obtain ⟨hr, hs⟩ := Bool.and_eq_true_iff.1 h
    exact ⟨path, text, hanalyze path text hr (by simpa using hs)⟩
  | closed path => cases h
  | setPaused b => cases h
  | rerunAll =>
    obtain ⟨text, ht⟩ := Option.isSome_iff_exists.1 h
    obtain ⟨q, hq, hv⟩ := violations_runPasses (s := s.setPaused false) ht
      (PathMap.exists_key_of_get? ht)
    refine ⟨q, text, hq, ?_, hv⟩
    rw [text?_handle]
    exact ht

theorem violations_analyze_paused {s : Session} (hs : s.paused = true) (path : Path)
    (text : Source) (p : Path) : (s.analyze path text).1.violations p = s.violations p := by
  simp only [analyze, hs, ↓reduceIte]
  split <;> rfl

theorem violations_handle_other {s : Session} {e : DocumentEvent} {p : Path}
    (hc : e.closes p = false)
    (h : e.isPass s.extensions p s.paused (s.openTexts.get? p) = false) :
    (s.handle e).1.violations p = s.violations p := by
  have hanalyze : ∀ path text,
      ((if path.same p && hasExtension path s.extensions then some text else none).isSome &&
        !s.paused) = false →
      (s.analyze path text).1.violations p = s.violations p := by
    intro path text hno
    cases hs : s.paused with
    | true => exact violations_analyze_paused hs path text p
    | false =>
      cases hx : hasExtension path s.extensions with
      | false => rw [analyze_rejected hx]
      | true =>
        have hp : path.same p = false := by
          simpa [hs, hx] using hno
        simp [violations_analyze_pass hx hs, hp]
  cases e with
  | opened path text => exact hanalyze path text h
  | changed path text => exact hanalyze path text h
  | closed path =>
    have hp : path.same p = false := hc
    simp only [handle, close, violations_publish, hp, Bool.false_eq_true, ↓reduceIte]
    rfl
  | setPaused b => rfl
  | rerunAll =>
    have hnone : s.openTexts.get? p = none := by simpa [DocumentEvent.isPass] using h
    exact violations_runPasses_other ((PathMap.get?_eq_none_iff _ _).1 hnone)

structure Follows (registry : Registry) (extensions : List String) (es : List DocumentEvent)
    (s : Session) : Prop where
  registry_eq : s.registry = registry
  extensions_eq : s.extensions = extensions
  paused_eq : s.paused = History.paused es
  text_eq : ∀ p, s.openTexts.get? p = History.text? extensions p es

theorem follows_start (registry : Registry) (extensions : List String) :
    Follows registry extensions [] (start registry extensions) :=
  ⟨rfl, rfl, rfl, fun _ => rfl⟩

theorem Follows.handle {registry : Registry} {extensions : List String} {es : List DocumentEvent}
    {s : Session} (h : Follows registry extensions es s) (e : DocumentEvent) :
    Follows registry extensions (es ++ [e]) (s.handle e).1 where
  registry_eq := (s.handle_registry e).1.trans h.registry_eq
  extensions_eq := (s.handle_registry e).2.trans h.extensions_eq
  paused_eq := by rw [paused_handle, History.paused_concat, h.paused_eq]
  text_eq p := by rw [text?_handle, History.text?_concat, h.extensions_eq, h.text_eq]

theorem Follows.handleAll {registry : Registry} {extensions : List String}
    {before : List DocumentEvent} {s : Session} (h : Follows registry extensions before s)
    (es : List DocumentEvent) :
    Follows registry extensions (before ++ es) (s.handleAll es).1 := by
  induction es generalizing s before with
  | nil =>
    rw [List.append_nil]
    exact h
  | cons e es ih =>
    have hnext := ih (h.handle e)
    rwa [List.append_assoc] at hnext

theorem follows_handleAll (registry : Registry) (extensions : List String)
    (es : List DocumentEvent) :
    Follows registry extensions es ((start registry extensions).handleAll es).1 :=
  (follows_start registry extensions).handleAll es

/-- What is to be shown about `p` after a history: the findings in the text known at the latest
pass point since `p` was last closed, and none without such a point. -/
structure Shows (registry : Registry) (extensions : List String) (p : Path)
    (es : List DocumentEvent) (shown : List Violation) : Prop where
  of_latestPass : ∀ i, History.LatestPass extensions p es i →
    ∃ text, History.text? extensions p (es.take (i + 1)) = some text ∧
      SameFindings shown (registry.analyze p text)
  of_noPass : (∀ i, ¬ History.LatestPass extensions p es i) → shown = []

theorem Shows.handle {registry : Registry} {extensions : List String} {es : List DocumentEvent}
    {s : Session} {p : Path} (hf : Follows registry extensions es s)
    (h : Shows registry extensions p es (s.violations p)) (e : DocumentEvent) :
    Shows registry extensions p (es ++ [e]) ((s.handle e).1.violations p) := by
  have hstate : e.isPass s.extensions p s.paused (s.openTexts.get? p) =
      e.isPass extensions p (History.paused es) (History.text? extensions p es) := by
    rw [hf.extensions_eq, hf.paused_eq, hf.text_eq]
  cases hc : e.closes p with
  | true =>
    exact ⟨fun i hi => absurd hi (History.not_latestPass_of_closes hc),
      fun _ => violations_handle_closes hc⟩
  | false =>
    cases hpass : e.isPass extensions p (History.paused es) (History.text? extensions p es) with
    | true =>
      obtain ⟨q, text, hq, ht, hv⟩ := violations_handle_pass (hstate.trans hpass)
      refine ⟨fun i hi => ⟨text, ?_, ?_⟩, fun hno => ?_⟩
      · rw [(History.latestPass_concat_of_isPass hpass).1 hi, List.take_of_length_le (by simp),
          ← (hf.handle e).text_eq, ht]
      · rw [hv, hf.registry_eq]
        exact registry.analyze_sameFindings hq text
      · exact absurd ((History.latestPass_concat_of_isPass hpass).2 rfl) (hno es.length)
    | false =>
      rw [violations_handle_other hc (hstate.trans hpass)]
      refine ⟨fun i hi => ?_, fun hno => ?_⟩
      · rw [History.latestPass_concat_of_other hc hpass] at hi
        rw [List.take_append_of_le_length hi.passes.lt_length]
        exact h.of_latestPass i hi
      · exact h.of_noPass fun i hi =>
          hno i ((History.latestPass_concat_of_other hc hpass).2 hi)

/-- Whatever the events and their order, a session shows for every document what its history
says. -/
theorem violations_handleAll (registry : Registry) (extensions : List String)
    (es : List DocumentEvent) (p : Path) :
    Shows registry extensions p es (((start registry extensions).handleAll es).1.violations p) := by
  induction es using List.reverseRecOn with
  | nil => exact ⟨fun i h => absurd h.passes.lt_length (Nat.not_lt_zero i), fun _ => rfl⟩
  | append_singleton es e ih =>
    rw [handleAll_concat]
    exact ih.handle (follows_handleAll registry extensions es) e

end Session

end PatternLint
