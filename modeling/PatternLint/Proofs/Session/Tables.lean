import PatternLint.Proofs.PathMap.Sorted
import PatternLint.Session

/-! The two tables of a session.
Their keys ascend, no document is listed without findings, and findings are kept for open
documents only.  Each operation of a session keeps this, hence every run does. -/

namespace PatternLint

namespace Session

structure Tidy (s : Session) : Prop where
  documents_sorted : s.documents.Sorted
  texts_sorted : s.openTexts.Sorted
  /-- No entry is without findings. -/
  found : ∀ d ∈ s.documents, d.2 ≠ []
  /-- The text of every document with findings is known. -/
  recorded : ∀ d ∈ s.documents, (s.openTexts.get? d.1).isSome = true

theorem tidy_start (registry : Registry) (extensions : List String) :
    (start registry extensions).Tidy where
  documents_sorted := PathMap.sorted_nil
  texts_sorted := PathMap.sorted_nil
  found := by simp [start]
  recorded := by simp [start]

variable {s : Session}

theorem Tidy.subscribe (h : s.Tidy) : s.subscribe.Tidy :=
  ⟨h.documents_sorted, h.texts_sorted, h.found, h.recorded⟩

theorem Tidy.setPaused (h : s.Tidy) (paused : Bool) : (s.setPaused paused).Tidy :=
  ⟨h.documents_sorted, h.texts_sorted, h.found, h.recorded⟩

theorem publish_documents_nil (s : Session) (path : Path) :
    (s.publish path []).1 = { s with documents := s.documents.erase path } := rfl

theorem publish_documents_ne_nil {vs : List Violation} (hvs : vs ≠ []) (s : Session)
    (path : Path) :
    (s.publish path vs).1 = { s with documents := PathMap.insert path vs s.documents } := by
  simp [publish, hvs]

def record (s : Session) (path : Path) (text : Source) : Session :=
  { s with openTexts := PathMap.insert path text s.openTexts }

def forget (s : Session) (path : Path) : Session :=
  { s with openTexts := s.openTexts.erase path }

theorem analyze_eq_record (s : Session) (path : Path) (text : Source) :
    s.analyze path text =
      if hasExtension path s.extensions then
        if s.paused then (s.record path text, []) else (s.record path text).runPass path
      else (s, []) := rfl

theorem close_eq_forget (s : Session) (path : Path) :
    s.close path = (s.forget path).publish path [] := rfl

theorem Tidy.record (h : s.Tidy) (path : Path) (text : Source) : (s.record path text).Tidy where
  documents_sorted := h.documents_sorted
  texts_sorted := h.texts_sorted.insert path text
  found := h.found
  recorded d hd := by
    rw [Session.record, PathMap.get?_insert]
    split
    · rfl
    · exact h.recorded d hd

theorem Tidy.publish (h : s.Tidy) {path : Path}
    (hpath : (s.openTexts.get? path).isSome = true) (vs : List Violation) :
    (s.publish path vs).1.Tidy := by
  by_cases hvs : vs = []
  · subst hvs
    rw [publish_documents_nil]
    refine ⟨h.documents_sorted.erase path, h.texts_sorted, fun d hd => ?_, fun d hd => ?_⟩
    · exact h.found d (PathMap.mem_erase.1 hd).1
    · exact h.recorded d (PathMap.mem_erase.1 hd).1
  · rw [publish_documents_ne_nil hvs]
    refine ⟨h.documents_sorted.insert path vs, h.texts_sorted, fun d hd => ?_, fun d hd => ?_⟩
    · rcases PathMap.mem_insert hd with hd | ⟨-, rfl⟩
      · exact h.found d hd
      · exact hvs
    · rcases PathMap.mem_insert hd with hd | ⟨hd, -⟩
      · exact h.recorded d hd
      · rw [PathMap.get?_congr hd]
        exact hpath

theorem Tidy.runPass (h : s.Tidy) (path : Path) : (s.runPass path).1.Tidy := by
  rw [Session.runPass]
  split
  · exact h
  · rename_i text htext
    exact h.publish (by rw [htext]; rfl) _

theorem Tidy.runPasses (h : s.Tidy) (paths : List Path) : (s.runPasses paths).1.Tidy := by
  induction paths generalizing s with
  | nil => exact h
  | cons path paths ih => exact ih (h.runPass path)

theorem Tidy.analyze (h : s.Tidy) (path : Path) (text : Source) :
    (s.analyze path text).1.Tidy := by
  rw [analyze_eq_record]
  split
  · split
    · exact h.record path text
    · exact (h.record path text).runPass path
  · exact h

theorem Tidy.close (h : s.Tidy) (path : Path) : (s.close path).1.Tidy where
  documents_sorted := h.documents_sorted.erase path
  texts_sorted := h.texts_sorted.erase path
  found d hd := h.found d (PathMap.mem_erase.1 hd).1
  recorded d hd := by
    obtain ⟨hmem, hne⟩ := PathMap.mem_erase.1 hd
    have hget : (s.openTexts.erase path).get? d.1 = s.openTexts.get? d.1 := by
      rw [PathMap.get?_erase, Path.same_comm, hne]
      rfl
    exact (congrArg Option.isSome hget).trans (h.recorded d hmem)

theorem Tidy.handle (h : s.Tidy) (e : DocumentEvent) : (s.handle e).1.Tidy := by
  cases e with
  | opened path text => exact h.analyze path text
  | changed path text => exact h.analyze path text
  | closed path => exact h.close path
  | setPaused paused => exact h.setPaused paused
  | rerunAll => exact (h.setPaused false).runPasses s.openTexts.keys

theorem Tidy.handleAll (h : s.Tidy) (es : List DocumentEvent) : (s.handleAll es).1.Tidy := by
  induction es generalizing s with
  | nil => exact h
  | cons e es ih => exact ih (h.handle e)

end Session

end PatternLint
