import Mathlib.Logic.Relation
import PatternLint.LintResult
import PatternLint.Proofs.Except
import PatternLint.Proofs.JsonValue

/-! Results written as JSON and read back.
Reading an object goes by what stands under its known keys, so it gives back what was written, in
whatever order the keys come and whatever else is there.  All keys are needed except the number of
skipped files, which is 0 when it is left out. -/

namespace PatternLint

open JsonValue

@[simp]
theorem Severity.ofJson?_toJson (s : Severity) : ofJson? s.toJson = some s := by
  cases s <;> rfl

namespace Location

structure FitsWords (l : Location) : Prop where
  line : l.line < 2 ^ 64
  column : l.column < 2 ^ 64
  offset : l.offset < 2 ^ 64
  length : l.length < 2 ^ 64

def shape : Shape :=
  .record [("file", .plain), ("line", .plain), ("column", .plain), ("offset", .plain),
    ("length", .plain)]

theorem ofJson?_object (es : List (String × JsonValue)) :
    ofJson? (.object es) = (do
      let file ← es.lookup "file"
      let line ← es.lookup "line"
      let column ← es.lookup "column"
      let offset ← es.lookup "offset"
      let length ← es.lookup "length"
      return ⟨⟨← file.string?⟩, ← line.count?, ← column.count?, ← offset.count?,
        ← length.count?⟩) := by
  simp only [ofJson?, fields?, fieldNames, List.map_cons, List.map_nil]
  cases es.lookup "file" <;> cases es.lookup "line" <;> cases es.lookup "column" <;>
    cases es.lookup "offset" <;> cases es.lookup "length" <;> rfl

theorem ofJson?_toJson {l : Location} (h : l.FitsWords) : ofJson? l.toJson = some l := by
  simp [toJson, ofJson?_object, List.lookup_cons, string?, count?_integer h.line,
    count?_integer h.column, count?_integer h.offset, count?_integer h.length]

theorem ofJson?_eq_of_respelled {v v' : JsonValue} (h : Respelled shape v v') :
    ofJson? v = ofJson? v' := by
  refine h.read_eq (fun hknown => ?_) fun hkey _ h => ?_
  · simp [ofJson?_object, hknown]
  · simp [h.shape_ne_plain] at hkey

theorem ofJson?_eq_none_of_removed {path : List String} {v v' : JsonValue}
    (h : Removed shape path v v') : ofJson? v' = none := by
  refine h.read_eq_none (fun {key es} hkey hnone => ?_) fun hkey _ h => ?_
  · have hkey : key = "file" ∨ key = "line" ∨ key = "column" ∨ key = "offset" ∨ key = "length" := by
      simpa using hkey
    rcases hkey with rfl | rfl | rfl | rfl | rfl <;> simp [ofJson?_object, hnone]
  · simp [h.shape_ne_plain] at hkey

end Location

namespace Violation

def shape : Shape :=
  .record [("code", .plain), ("severity", .plain), ("category", .plain),
    ("location", Location.shape), ("message", .plain)]

theorem ofJson?_object (es : List (String × JsonValue)) :
    ofJson? (.object es) = (do
      let code ← es.lookup "code"
      let severity ← es.lookup "severity"
      let category ← es.lookup "category"
      let location ← es.lookup "location"
      let message ← es.lookup "message"
      return ⟨← code.string?, ← Severity.ofJson? severity, ← category.string?,
        ← Location.ofJson? location, ← message.string?⟩) := by
  simp only [ofJson?, fields?, fieldNames, List.map_cons, List.map_nil]
  cases es.lookup "code" <;> cases es.lookup "severity" <;> cases es.lookup "category" <;>
    cases es.lookup "location" <;> cases es.lookup "message" <;> rfl

theorem ofJson?_toJson {v : Violation} (h : v.location.FitsWords) : ofJson? v.toJson = some v := by
  simp [toJson, ofJson?_object, List.lookup_cons, string?, Severity.ofJson?_toJson,
    Location.ofJson?_toJson h]

theorem ofJson?_eq_of_respelled {v v' : JsonValue} (h : Respelled shape v v') :
    ofJson? v = ofJson? v' := by
  refine h.read_eq (fun hknown => ?_) fun {key inner v v' before after} hkey hfirst h => ?_
  · simp [ofJson?_object, hknown]
  · -- Of the values under the known keys only the location can be spelled in another way.
    obtain ⟨rfl, rfl⟩ : key = "location" ∧ inner = Location.shape := by
      simpa [h.shape_ne_plain] using hkey
    have hother : ∀ {name}, name ≠ "location" → (before ++ ("location", v) :: after).lookup name =
        (before ++ ("location", v') :: after).lookup name := lookup_append_cons_of_ne v v'
    simp [ofJson?_object, lookup_append_cons_self _ hfirst, hother,
      Location.ofJson?_eq_of_respelled h]

theorem ofJson?_eq_none_of_removed {path : List String} {v v' : JsonValue}
    (h : Removed shape path v v') : ofJson? v' = none := by
  refine h.read_eq_none (fun {key es} hkey hnone => ?_) fun {key inner _ _ _ _ _} hkey hfirst h => ?_
  · have hkey : key = "code" ∨ key = "severity" ∨ key = "category" ∨ key = "location" ∨
        key = "message" := by
      simpa using hkey
    rcases hkey with rfl | rfl | rfl | rfl | rfl <;> simp [ofJson?_object, hnone]
  · obtain ⟨rfl, rfl⟩ : key = "location" ∧ inner = Location.shape := by
      simpa [h.shape_ne_plain] using hkey
    simp [ofJson?_object, lookup_append_cons_self _ hfirst, Location.ofJson?_eq_none_of_removed h]

end Violation

namespace LintResult

/-- The counters and all numbers of the locations take at most 64 bits. -/
structure FitsWords (r : LintResult) : Prop where
  filesChecked : r.filesChecked < 2 ^ 64
  filesSkipped : r.filesSkipped < 2 ^ 64
  locations : ∀ v ∈ r.violations, v.location.FitsWords

def shape : Shape :=
  .record [("violations", .items Violation.shape), ("files_checked", .plain),
    ("files_skipped", .plain)]

theorem ofJson?_object (es : List (String × JsonValue)) :
    ofJson? (.object es) = (do
      let violations ← es.lookup "violations"
      let checked ← es.lookup "files_checked"
      let items ← violations.items?
      let violations ← items.mapM Violation.ofJson?
      let skipped ← (es.lookup "files_skipped").elim (some 0) count?
      return ⟨violations, ← checked.count?, skipped⟩) := by
  simp only [ofJson?, fields?, fieldNames, List.map_cons, List.map_nil]
  cases es.lookup "violations" with
  | none => cases es.lookup "files_checked" <;> rfl
  | some violations =>
    cases es.lookup "files_checked" <;> cases violations <;> cases es.lookup "files_skipped" <;> rfl

theorem ofJson?_object_eq_some_iff {es : List (String × JsonValue)} {r : LintResult} :
    ofJson? (.object es) = some r ↔ ∃ items checked,
      es.lookup "violations" = some (.array items) ∧ es.lookup "files_checked" = some checked ∧
        items.mapM Violation.ofJson? = some r.violations ∧ checked.count? = some r.filesChecked ∧
        (es.lookup "files_skipped").elim (some 0) count? = some r.filesSkipped := by
  simp only [ofJson?_object, Option.bind_eq_bind, Option.bind_eq_some_iff, Option.pure_def,
    Option.some.injEq, items?_eq_some_iff]
  constructor
  · rintro ⟨_, hviolations, checked, hchecked, items, rfl, _, hitems, _, hskipped, _, hcount, rfl⟩
    exact ⟨items, checked, hviolations, hchecked, hitems, hcount, hskipped⟩
  · rintro ⟨items, checked, hviolations, hchecked, hitems, hcount, hskipped⟩
    exact ⟨_, hviolations, checked, hchecked, items, rfl, _, hitems, _, hskipped, _, hcount, rfl⟩

theorem ofJson?_toJson {r : LintResult} (h : r.FitsWords) : ofJson? r.toJson = some r := by
  have hread : ∀ v ∈ r.violations, (Violation.ofJson? ∘ Violation.toJson) v = some (id v) :=
    fun v hv => Violation.ofJson?_toJson (h.locations v hv)
  refine ofJson?_object_eq_some_iff.2 ⟨_, _, List.lookup_cons_self, ?_, ?_,
    count?_integer h.filesChecked, ?_⟩
  · simp [List.lookup_cons]
  · rw [List.mapM_map, mapM_eq_some_map hread, List.map_id]
  · have hskipped : List.lookup "files_skipped" [("violations",
        .array (r.violations.map Violation.toJson)), ("files_checked", .integer r.filesChecked),
        ("files_skipped", .integer r.filesSkipped)] =
        some (JsonValue.integer r.filesSkipped) := by
      simp [List.lookup_cons]
    rw [hskipped, Option.elim_some]
    exact count?_integer h.filesSkipped

theorem ofJson?_eq_of_respelled {v v' : JsonValue} (h : Respelled shape v v') :
    ofJson? v = ofJson? v' := by
  refine h.read_eq (fun hknown => ?_) fun {key inner v v' before after} hkey hfirst h => ?_
  · simp [ofJson?_object, hknown]
  · obtain ⟨rfl, rfl⟩ : key = "violations" ∧ inner = .items Violation.shape := by
      simpa [h.shape_ne_plain] using hkey
    have hother : ∀ {name}, name ≠ "violations" →
        (before ++ ("violations", v) :: after).lookup name =
          (before ++ ("violations", v') :: after).lookup name := lookup_append_cons_of_ne v v'
    cases h with
    | item h =>
      simp [ofJson?_object, lookup_append_cons_self _ hfirst, hother, items?,
        mapM_replace _ _ (Violation.ofJson?_eq_of_respelled h)]

theorem ofJson?_of_removed_skipped {r : LintResult} {v v' : JsonValue} (hr : ofJson? v = some r)
    (h : Removed shape ["files_skipped"] v v') :
    ofJson? v' = some { r with filesSkipped := 0 } := by
  cases h with
  | @here _ _ es _ =>
    obtain ⟨items, checked, hviolations, hchecked, hitems, hcount, -⟩ :=
      ofJson?_object_eq_some_iff.1 hr
    refine ofJson?_object_eq_some_iff.2 ⟨items, checked, ?_, ?_, hitems, hcount, ?_⟩
    · rw [lookup_filter_of_ne es (by decide), hviolations]
    · rw [lookup_filter_of_ne es (by decide), hchecked]
    · rw [lookup_filter_self]
      rfl
  | field hkey _ h => simp [h.shape_ne_plain] at hkey

theorem ofJson?_eq_none_of_removed {path : List String} {v v' : JsonValue}
    (hpath : path ≠ ["files_skipped"]) (h : Removed shape path v v') : ofJson? v' = none := by
  cases h with
  | @here _ key es hkey =>
    have hkey : key = "violations" ∨ key = "files_checked" := by
      simp_all
    cases hkey with
    | inl hkey => simp [ofJson?_object, hkey, lookup_filter_self]
    | inr hkey => simp [ofJson?_object, hkey, lookup_filter_self]
  | @field _ key inner _ _ _ _ _ hkey hfirst h =>
    obtain ⟨rfl, rfl⟩ : key = "violations" ∧ inner = .items Violation.shape := by
      simpa [h.shape_ne_plain] using hkey
    cases h with
    | item h =>
      simp [ofJson?_object, lookup_append_cons_self _ hfirst, items?,
        mapM_eq_none _ _ (Violation.ofJson?_eq_none_of_removed h)]

/-- A result with numbers of 64 bits is read back from its JSON form, and from every other spelling
of it, with the keys of objects in another order and unknown keys added, in any number of steps.
Without the number of skipped files the same result is read with 0 in its place; without any other
known key, in whichever object, nothing is read. -/
theorem ofJson?_toJson_of_respelled {r : LintResult} (h : r.FitsWords) {v : JsonValue}
    (hv : Relation.ReflTransGen (Respelled shape) r.toJson v) :
    ofJson? r.toJson = some r ∧ ofJson? v = some r ∧
      (∀ v', Removed shape ["files_skipped"] v v' →
        ofJson? v' = some { r with filesSkipped := 0 }) ∧
      ∀ path v', path ≠ ["files_skipped"] → Removed shape path v v' → ofJson? v' = none := by
  have hwritten : ofJson? r.toJson = some r := ofJson?_toJson h
  have hread : ofJson? v = some r := by
    induction hv with
    | refl => exact hwritten
    | tail _ hstep ih => rw [← ofJson?_eq_of_respelled hstep, ih]
  exact ⟨hwritten, hread, fun v' => ofJson?_of_removed_skipped hread,
    fun path v' => ofJson?_eq_none_of_removed⟩

/-- Keys in another order, and a key in the location that is known one level above only.  Of the two
removals, that of the skipped files can be read, that of a column in a location cannot. -/
theorem ofJson?_toJson_of_respelled_nested :
    let l : Location := ⟨⟨"src/é.cpp"⟩, 0, 3, 0xFFFFFFFFFFFFFFFF, 0⟩
    let r : LintResult := ⟨[⟨"A5-1-1", .warning, "c", l, "\"m\"\n"⟩], 0xFFFFFFFFFFFFFFFF, 3⟩
    let location (column : List (String × JsonValue)) : JsonValue :=
      .object ([("code", .null), ("file", .string "src/é.cpp"), ("line", .integer 0)] ++ column ++
        [("offset", .integer 0xFFFFFFFFFFFFFFFF), ("length", .integer 0)])
    let result (skipped : List (String × JsonValue)) (location : JsonValue) : JsonValue :=
      .object (skipped ++ [("violations", .array [.object [("code", .string "A5-1-1"),
          ("severity", .string "warning"), ("category", .string "c"), ("location", location),
          ("message", .string "\"m\"\n")]]),
        ("files_checked", .integer 0xFFFFFFFFFFFFFFFF)])
    r.FitsWords ∧
      ofJson? (result [("files_skipped", .integer 3)] (location [("column", .integer 3)])) =
        some r ∧
      ofJson? (result [] (location [("column", .integer 3)])) = some { r with filesSkipped := 0 } ∧
      ofJson? (result [("files_skipped", .integer 3)] (location [])) = none := by
  intro l r location result
  have hfits : r.FitsWords := by
    refine ⟨by decide, by decide, fun v hv => ?_⟩
    rw [List.mem_singleton.1 hv]
    exact ⟨by decide, by decide, by decide, by decide⟩
  have hreordered : Respelled shape r.toJson (result [("files_skipped", .integer 3)] l.toJson) :=
    .reordered (by decide) (@List.perm_append_comm _ [_, _] [_])
  -- The new key goes into the innermost object, where `code` is not known.
  have hextended : Respelled shape (result [("files_skipped", .integer 3)] l.toJson)
      (result [("files_skipped", .integer 3)] (location [("column", .integer 3)])) :=
    @Respelled.field _ "violations" (.items Violation.shape) _ _ [("files_skipped", .integer 3)] [_]
      (by simp) (by decide) <| @Respelled.item _ _ _ [] [] <|
      @Respelled.field _ "location" Location.shape _ _ [_, _, _] [_] (by simp) (by decide) <|
      .extended .null (by decide) (by decide)
  obtain ⟨-, hread, hskipped, hother⟩ :=
    ofJson?_toJson_of_respelled hfits (.tail (.single hreordered) hextended)
  refine ⟨hfits, hread, hskipped _ ?_,
    hother ["violations", "location", "column"] _ (by decide) ?_⟩
  · exact .here (by decide)
  · exact @Removed.field _ "violations" (.items Violation.shape) _ _ _
      [("files_skipped", .integer 3)] [_] (by simp) (by decide) <| @Removed.item _ _ _ _ [] [] <|
      @Removed.field _ "location" Location.shape _ _ _ [_, _, _] [_] (by simp) (by decide) <|
      .here (by decide)

end LintResult

end PatternLint
