import PatternLint.Proofs.Analysis.Order
import PatternLint.Proofs.LintResult
import PatternLint.Proofs.Session.Filter
import PatternLint.Proofs.Text.Names

/-! The lists and numbers that sum up a session.
What is shown about a document comes from a pass over it, so the findings name the file that they
are kept under, and all findings together are in the order of their files.  The counts by category
and the parts by severity are taken over the same list and agree with it. -/

namespace PatternLint

namespace DocumentEvent

def text? : DocumentEvent → Option Source
  | .opened _ text | .changed _ text => some text
  | _ => none

theorem text?_of_recordedText? {extensions : List String} {p : Path} {e : DocumentEvent}
    {text : Source} (h : e.recordedText? extensions p = some text) : e.text? = some text := by
  cases e with
  | opened q t => exact (Option.ite_none_right_eq_some.1 h).2
  | changed q t => exact (Option.ite_none_right_eq_some.1 h).2
  | _ => cases h

end DocumentEvent

def Violation.ByFile (inside : Violation → Violation → Prop) (v w : Violation) : Prop :=
  v.location.file.order w.location.file = .lt ∨
    v.location.file.same w.location.file = true ∧ inside v w

theorem Violation.ByFile.order_ne_gt {inside : Violation → Violation → Prop} {v w : Violation}
    (h : v.ByFile inside w) : v.location.file.order w.location.file ≠ .gt := by
  cases h with
  | inl hlt =>
    rw [hlt]
    decide
  | inr h =>
    rw [Path.order_eq_iff.2 h.1]
    decide

namespace Session

/-- What is shown about a document was found by a pass over a known text, under some spelling of
the document. -/
structure FromPasses (registry : Registry) (known : Source → Prop) (s : Session) : Prop where
  registry_eq : s.registry = registry
  text_known : ∀ p text, s.openTexts.get? p = some text → known text
  shown : ∀ p, s.violations p = [] ∨
    ∃ q text, q.same p = true ∧ known text ∧ s.violations p = registry.analyze q text

section Runs

variable {registry : Registry} {known : Source → Prop} {s : Session}

theorem fromPasses_iterate_subscribe (registry : Registry) (extensions : List String) (n : Nat)
    (known : Source → Prop) :
    FromPasses registry known (subscribe^[n] (start registry extensions)) := by
  rw [iterate_subscribe]
  refine ⟨rfl, fun p text h => ?_, fun p => .inl rfl⟩
  cases h

theorem FromPasses.handle (h : FromPasses registry known s) {e : DocumentEvent}
    (he : ∀ text, e.text? = some text → known text) :
    FromPasses registry known (s.handle e).1 := by
  have hknown : ∀ p text, (s.handle e).1.openTexts.get? p = some text → known text := by
    intro p text hp
    rw [text?_handle] at hp
    split at hp
    · cases hp
    · cases Option.or_eq_some_iff.1 hp with
      | inl hnew => exact he text (DocumentEvent.text?_of_recordedText? hnew)
      | inr hold => exact h.text_known p text hold.2
  refine ⟨(s.handle_registry e).1.trans h.registry_eq, hknown, fun p => ?_⟩
  cases hc : e.closes p with
  | true => exact .inl (violations_handle_closes hc)
  | false =>
    cases hpass : e.isPass s.extensions p s.paused (s.openTexts.get? p) with
    | true =>
      obtain ⟨q, text, hq, htext, hv⟩ := violations_handle_pass hpass
      rw [h.registry_eq] at hv
      exact .inr ⟨q, text, hq, hknown p text htext, hv⟩
    | false =>
      rw [violations_handle_other hc hpass]
      exact h.shown p

theorem FromPasses.handleAll (h : FromPasses registry known s) {es : List DocumentEvent}
    (hes : ∀ e ∈ es, ∀ text, e.text? = some text → known text) :
    FromPasses registry known (s.handleAll es).1 := by
  induction es generalizing s with
  | nil => exact h
  | cons e es ih =>
    obtain ⟨he, hes⟩ := List.forall_mem_cons.1 hes
    exact ih (h.handle he) hes

theorem FromPasses.exists_analyze (h : FromPasses registry known s) (ht : s.Tidy)
    {d : Path × List Violation} (hd : d ∈ s.documents) :
    ∃ q text, q.same d.1 = true ∧ known text ∧ d.2 = registry.analyze q text := by
  have hshown : s.violations d.1 = d.2 := by
    rw [violations, PathMap.get?_of_mem ht.documents_sorted hd]
    rfl
  rw [← hshown]
  exact (h.shown d.1).resolve_left (hshown ▸ ht.found d hd)

end Runs

/-- The documents ascend, and the findings of each name it as their file. -/
structure Filed (s : Session) : Prop where
  sorted : s.documents.Sorted
  file_same : ∀ d ∈ s.documents, ∀ v ∈ d.2, v.location.file.same d.1 = true

theorem FromPasses.filed {registry : Registry} {known : Source → Prop} {s : Session}
    (h : FromPasses registry known s) (ht : s.Tidy) : s.Filed := by
  refine ⟨ht.documents_sorted, fun d hd v hv => ?_⟩
  obtain ⟨q, text, hq, -, hfound⟩ := h.exists_analyze ht hd
  rw [hfound] at hv
  rw [Registry.file_of_mem_analyze hv]
  exact hq

theorem allViolations_eq_flatMap (s : Session) :
    s.allViolations = s.documents.flatMap Prod.snd := rfl

section Order

variable {s : Session}

theorem Filed.pairwise_allViolations (h : s.Filed) {inside : Violation → Violation → Prop}
    (hinside : ∀ d ∈ s.documents, d.2.Pairwise inside) :
    s.allViolations.Pairwise (Violation.ByFile inside) := by
  rw [allViolations_eq_flatMap]
  refine List.pairwise_flatMap.2 ⟨fun d hd => ?_, h.sorted.imp_of_mem ?_⟩
  · refine (hinside d hd).imp_of_mem fun {v w} hv hw hvw => .inr ⟨?_, hvw⟩
    rw [Path.same_congr_left (h.file_same d hd v hv), Path.same_comm]
    exact h.file_same d hd w hw
  · intro d e hd he hlt v hv w hw
    refine .inl ?_
    rw [Path.order_congr_left (h.file_same d hd v hv),
      Path.order_congr_right (h.file_same e he w hw)]
    exact hlt

theorem Filed.filter_allViolations (h : s.Filed) (p : Path) :
    s.allViolations.filter (fun v => v.location.file.same p) = s.violations p := by
  obtain ⟨hsorted, hfile⟩ := h
  rw [allViolations_eq_flatMap, violations]
  generalize s.documents = m at hsorted hfile ⊢
  induction m with
  | nil => rfl
  | cons d m ih =>
    obtain ⟨hd, hm⟩ := List.pairwise_cons.1 hsorted
    obtain ⟨hdfile, hmfile⟩ := List.forall_mem_cons.1 hfile
    rw [List.flatMap_cons, List.filter_append, ih hm hmfile, PathMap.get?_cons]
    cases hdp : d.1.same p with
    | true =>
      have hown : d.2.filter (fun v => v.location.file.same p) = d.2 :=
        List.filter_eq_self.2 fun v hv => Path.same_trans (hdfile v hv) hdp
      have hnone : PathMap.get? m p = none := by
        refine (PathMap.get?_eq_none_iff m p).2 fun q hq => ?_
        obtain ⟨e, he, rfl⟩ := List.mem_map.1 hq
        rw [← Path.same_congr_right hdp, Path.same_comm]
        exact Path.same_eq_false_of_order_lt (hd e he)
      simp [hown, hnone]
    | false =>
      have hother : d.2.filter (fun v => v.location.file.same p) = [] := by
        refine List.filter_eq_nil_iff.2 fun v hv => ?_
        rw [Path.same_congr_left (hdfile v hv), hdp]
        exact Bool.false_ne_true
      simp [hother]

end Order

theorem foldl_length (n : Nat) (lists : List (List Violation)) :
    lists.foldl (fun n vs => n + vs.length) n = n + lists.flatten.length := by
  induction lists generalizing n with
  | nil => rfl
  | cons vs lists ih =>
    rw [List.foldl_cons, ih, List.flatten_cons, List.length_append]
    omega

theorem total_eq_length (s : Session) : s.total = s.allViolations.length := by
  rw [total, foldl_length, Nat.zero_add, allViolations]

theorem length_byCategory (s : Session) (c : String) :
    (s.byCategory c).length = (s.allViolations.map Violation.category).count c := by
  rw [byCategory, ← List.countP_eq_length_filter, List.count, List.countP_map]
  rfl

/-- The summaries of a session agree with the list of all its findings. -/
structure SummedUp (s : Session) : Prop where
  total_eq : s.total = s.allViolations.length
  /-- A category is counted if it has findings, and then by their number. -/
  mem_categoryCounts : ∀ c k, (c, k) ∈ s.categoryCounts ↔ k = (s.byCategory c).length ∧ k ≠ 0
  categories_ascending : s.categories.Pairwise (· < ·)
  keys_eq : s.categoryCounts.map Prod.fst = s.categories
  sum_eq : (s.categoryCounts.map Prod.snd).sum = s.total
  /-- Every finding is in the part of its severity, as often as it is among all. -/
  severities_perm : (Severity.all.flatMap s.bySeverity).Perm s.allViolations
  mem_bySeverity : ∀ severity v,
    v ∈ s.bySeverity severity ↔ v ∈ s.allViolations ∧ v.severity = severity
  bySeverity_sublist : ∀ severity, (s.bySeverity severity).Sublist s.allViolations

theorem summedUp (s : Session) : s.SummedUp := by
  have htallies := tallies_nameCounts (s.allViolations.map Violation.category)
  refine ⟨s.total_eq_length, fun c k => ?_, pairwise_distinctSorted _, htallies.keys_eq, ?_,
    Severity.perm_flatMap_filter s.allViolations, fun severity v => ?_, fun severity => ?_⟩
  · rw [length_byCategory]
    exact htallies.mem_iff
  · rw [total_eq_length, ← List.length_map (f := Violation.category)]
    exact htallies.sum_eq
  · rw [bySeverity, List.mem_filter, beq_iff_eq]
  · exact List.filter_sublist

/-- Whatever the extensions, the listeners and the events, the findings kept under a path are those
of a pass over it and name it as their file, so all findings together are ordered by file, and
within a file by the registration of their codes.  If the rules search forward in the texts of the
events, then findings of one file and code go by offset, and none occurs twice.  Every summary of
the session agrees with that list. -/
theorem handleAll_summaries (registry : Registry) (extensions : List String) (listeners : Nat)
    (es : List DocumentEvent) :
    let s := ((subscribe^[listeners] (start registry extensions)).handleAll es).1
    (∀ d ∈ s.documents, ∀ v ∈ d.2, v.location.file.same d.1 = true) ∧
      (∀ d ∈ s.documents, ∃ q text, q.same d.1 = true ∧ (∃ e ∈ es, e.text? = some text) ∧
        d.2 = registry.analyze q text) ∧
      s.allViolations.Pairwise (fun v w => v.location.file.order w.location.file ≠ .gt) ∧
      (∀ p, s.allViolations.filter (fun v => v.location.file.same p) = s.violations p) ∧
      (registry.Built → s.allViolations.Pairwise (Violation.ByFile fun v w =>
        registry.codes.idxOf v.code ≤ registry.codes.idxOf w.code)) ∧
      (registry.Built →
        (∀ e ∈ es, ∀ text, e.text? = some text →
          ∀ r ∈ registry.rules, r.pattern.SearchesForward text) →
        s.allViolations.Pairwise (Violation.ByFile fun v w => Prod.Lex (· < ·) (· < ·)
          (registry.codes.idxOf v.code, v.location.offset)
          (registry.codes.idxOf w.code, w.location.offset))) ∧
      s.SummedUp := by
  intro s
  have htidy : s.Tidy := (tidy_iterate_subscribe registry extensions listeners).handleAll es
  have hpasses : FromPasses registry (fun text => ∃ e ∈ es, e.text? = some text) s :=
    (fromPasses_iterate_subscribe registry extensions listeners _).handleAll
      fun e he text htext => ⟨e, he, htext⟩
  have hfound := fun d hd => hpasses.exists_analyze htidy (d := d) hd
  have hfiled : s.Filed := hpasses.filed htidy
  refine ⟨hfiled.file_same, hfound, ?_, hfiled.filter_allViolations, fun hbuilt => ?_,
    fun hbuilt hforward => ?_, s.summedUp⟩
  · have hany : ∀ d ∈ s.documents, d.2.Pairwise fun _ _ => True :=
      fun d _ => List.pairwise_of_forall fun _ _ => trivial
    exact (hfiled.pairwise_allViolations hany).imp Violation.ByFile.order_ne_gt
  · refine hfiled.pairwise_allViolations fun d hd => ?_
    obtain ⟨q, text, -, -, hd⟩ := hfound d hd
    rw [hd]
    exact Registry.pairwise_idxOf_analyze hbuilt.valid.distinct q text
  · refine hfiled.pairwise_allViolations fun d hd => ?_
    obtain ⟨q, text, -, ⟨e, he, htext⟩, hd⟩ := hfound d hd
    rw [hd]
    refine (Registry.pairwise_analyze hbuilt.valid.distinct q (hforward e he text htext)).imp ?_
    intro v w hvw
    cases hvw with
    | inl hlt => exact .left _ _ hlt
    | inr hvw =>
      rw [hvw.1]
      exact .right _ hvw.2.starts

/-- The document that is opened first comes second by its path; it keeps its key when it is changed
under a second spelling, and its findings name it by that one. -/
theorem handleAll_summaries_spellings :
    let registry := Registry.reindexed [.ofWord "W" .info "x", gotoRule]
    let es : List DocumentEvent := [.opened ⟨"d/b.cpp"⟩ "goto goto".toList,
      .opened ⟨"c.cpp"⟩ "goto x".toList, .changed ⟨"d//b.cpp"⟩ "xé goto x".toList]
    let s := ((start registry ["cpp"]).handleAll es).1
    registry.Built ∧
      (∀ e ∈ es, ∀ text, e.text? = some text →
        ∀ r ∈ registry.rules, r.pattern.SearchesForward text) ∧
      s.documents.keys = [⟨"c.cpp"⟩, ⟨"d/b.cpp"⟩] ∧
      s.allViolations.map (fun v => (v.location.file, v.code, v.location.offset)) =
        [(⟨"c.cpp"⟩, "W", 5), (⟨"c.cpp"⟩, "A6-6-1", 0), (⟨"d//b.cpp"⟩, "W", 0),
          (⟨"d//b.cpp"⟩, "W", 9), (⟨"d//b.cpp"⟩, "A6-6-1", 4)] ∧
      s.categoryCounts = [("Statements", 2), ("Words", 3)] ∧
      s.allViolations.Pairwise (Violation.ByFile fun v w => Prod.Lex (· < ·) (· < ·)
        (registry.codes.idxOf v.code, v.location.offset)
        (registry.codes.idxOf w.code, w.location.offset)) ∧
      s.SummedUp := by
  intro registry es s
  have hbuilt : registry.Built := Registry.built_reindexed (by decide) (by decide)
  have htexts : ∀ text ∈ es.filterMap DocumentEvent.text?, ∀ r ∈ registry.rules,
      r.pattern.SearchesForward text := by
    decide +kernel
  have hforward : ∀ e ∈ es, ∀ text, e.text? = some text →
      ∀ r ∈ registry.rules, r.pattern.SearchesForward text :=
    fun e he text htext => htexts text (List.mem_filterMap.2 ⟨e, he, htext⟩)
  have hsummaries := handleAll_summaries registry ["cpp"] 0 es
  exact ⟨hbuilt, hforward, by decide +kernel, by decide +kernel, by decide +kernel,
    hsummaries.2.2.2.2.2.1 hbuilt hforward, hsummaries.2.2.2.2.2.2⟩

end Session

end PatternLint
