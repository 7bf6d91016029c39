import Mathlib.Data.List.Sort
import PatternLint.Proofs.Document.Lines
import PatternLint.Proofs.Except
import PatternLint.Proofs.Word
import PatternLint.Snippet

/-! What a snippet shows.
The lines of a snippet are cut out of all lines by two bounds, one of which is kept inside the text.
Told by their distance, they are the existing lines that are at most `context` away, in order.  The
bounds can be computed in 64 bits: where a sum could be too large or a difference negative, it stops
at the end of the range, and no other step leaves the range. -/

namespace PatternLint

open Source

def marker (line i : Nat) : Char := if i = line then '→' else ' '

/-- How line `i` of a text stands in a snippet around `line`: its number counted from 1, with blanks
in front up to four characters, the marker, and the text up to the carriage returns at its end. -/
def ShownAs (text : Source) (line i : Nat) (row : String) : Prop :=
  ∃ blanks kept returns : List Char,
    (text.splitOn '\n')[i]? = some (kept ++ returns) ∧
      (∀ c ∈ returns, c = '\r') ∧ kept.getLast? ≠ some '\r' ∧
      (∀ c ∈ blanks, c = ' ') ∧
      blanks.length + (toString (i + 1)).length = max 4 (toString (i + 1)).length ∧
      row = String.ofList blanks ++ toString (i + 1) ++ " " ++ String.singleton (marker line i) ++
        " " ++ String.ofList kept ++ "\n"

theorem pushn_blank (n : Nat) : "".pushn ' ' n = String.ofList (List.replicate n ' ') := by
  induction n with
  | zero => rfl
  | succ n ih =>
    have hpush : "".pushn ' ' (n + 1) = ("".pushn ' ' n).push ' ' := rfl
    rw [hpush, ih]
    apply String.toList_injective
    simp [List.replicate_succ']

theorem shownAs_snippetLine {text l : Source} {i : Nat} (line : Nat) (h : text.lines[i]? = some l) :
    ShownAs text line i (snippetLine line (l, i)) := by
  obtain ⟨returns, hl, hreturns⟩ := l.exists_returns
  refine ⟨List.replicate (4 - (toString (i + 1)).length) ' ', l.dropTrailingReturns, returns, ?_,
    hreturns, l.getLast?_dropTrailingReturns, fun c => List.eq_of_mem_replicate, ?_, ?_⟩
  · rw [← lines_eq_splitOn, ← hl, h]
  · rw [List.length_replicate]
    omega
  · simp only [snippetLine, padNumber, marker]
    split <;> simp [pushn_blank, String.append_assoc]

section Window

variable {count line context : Nat}

/-- The numbers of the lines in a snippet of a text with `count` lines. -/
def shownLines (count line context : Nat) : List Nat :=
  ((List.range count).take (min (line + context) (count - 1) + 1)).drop (line - context)

theorem mem_shownLines (hcount : 0 < count) {i : Nat} :
    i ∈ shownLines count line context ↔ i < count ∧ line ≤ i + context ∧ i ≤ line + context := by
  rw [shownLines, List.take_range, List.range_eq_range', List.drop_range', List.mem_range'_1]
  omega

theorem pairwise_shownLines (count line context : Nat) :
    (shownLines count line context).Pairwise (· < ·) :=
  (List.pairwise_lt_range.sublist (List.take_sublist _ _)).sublist (List.drop_sublist _ _)

theorem shownLines_eq_nil_iff (hcount : 0 < count) :
    shownLines count line context = [] ↔ count + context ≤ line := by
  rw [List.eq_nil_iff_forall_not_mem]
  constructor
  · intro hnone
    -- The line itself or the last one is the first to come within reach.
    have h := hnone (min line (count - 1))
    rw [mem_shownLines hcount] at h
    omega
  · intro hle i hi
    rw [mem_shownLines hcount] at hi
    omega

theorem count_marker_shownLines (hcount : 0 < count) :
    ((shownLines count line context).map (marker line)).count '→' =
      if line < count then 1 else 0 := by
  have hmarker : ∀ i, (marker line i == '→') = (i == line) := by
    intro i
    rw [marker]
    split <;> simp_all
  have hcounted : ((shownLines count line context).map (marker line)).count '→' =
      (shownLines count line context).count line := by
    rw [List.count, List.countP_map]
    exact List.countP_congr fun i _ => by simp [hmarker]
  have hnodup : (shownLines count line context).Nodup :=
    (pairwise_shownLines count line context).imp Nat.ne_of_lt
  rw [hcounted]
  split
  · rename_i hline
    exact List.count_eq_one_of_mem hnodup ((mem_shownLines hcount).2 (by omega))
  · rename_i hline
    exact List.count_eq_zero_of_not_mem fun h => hline ((mem_shownLines hcount).1 h).1

end Window

theorem zipIdx_eq_map_range (lines : List Source) :
    lines.zipIdx = (List.range lines.length).map fun i => (lines.getD i [], i) := by
  refine List.ext_getElem (by simp) fun i hi hi' => ?_
  simp at hi ⊢
  simp [hi]

theorem lines_length_pos (text : Source) : 0 < text.lines.length := by
  rw [length_lines]
  exact Nat.succ_pos _

theorem snippet_eq_join (text : Source) (line context : Nat) :
    snippet text line context =
      String.join ((shownLines text.lines.length line context).map fun i =>
        snippetLine line (text.lines.getD i [], i)) := by
  rw [snippet, zipIdx_eq_map_range, ← List.map_take, ← List.map_drop, List.map_map]
  rfl

theorem snippet_eq_empty_iff (text : Source) (line context : Nat) :
    snippet text line context = "" ↔ text.lines.length + context ≤ line := by
  rw [← shownLines_eq_nil_iff (lines_length_pos text), snippet_eq_join]
  cases shownLines text.lines.length line context with
  | nil => simp
  | cons i rest => simp [snippetLine]

section Words

def snippetLineInWords? (line : UInt64) (entry : Source × Nat) : Option String := do
  let i ← word? entry.2
  let number ← checkedAdd i 1
  return padNumber 4 number.toNat ++ (if i = line then " → " else "   ") ++
    String.ofList entry.1.dropTrailingReturns ++ "\n"

/-- The snippet with every bound and every number in 64 bits; none if a step leaves the range. -/
def snippetInWords? (text : Source) (line context : UInt64) : Option String := do
  let lines := text.lines
  let count ← word? lines.length
  let first := saturatingSub line context
  let last := min (saturatingAdd line context) (← checkedSub count 1)
  let stop ← checkedAdd last 1
  let rows ← ((lines.zipIdx.take stop.toNat).drop first.toNat).mapM (snippetLineInWords? line)
  return String.join rows

theorem snippetLineInWords?_eq {line : UInt64} {entry : Source × Nat} (h : entry.2 + 1 < 2 ^ 64) :
    snippetLineInWords? line entry = some (snippetLine line.toNat entry) := by
  obtain ⟨i, hi, hindex⟩ := exists_word? (Nat.lt_of_succ_lt h)
  obtain ⟨number, hnumber, hnext⟩ := exists_word? h
  have hadd : checkedAdd i 1 = some number := by
    rw [checkedAdd, hindex]
    exact hnumber
  have hmark : i = line ↔ entry.2 = line.toNat := by rw [← UInt64.toNat_inj, hindex]
  simp [snippetLineInWords?, snippetLine, hi, hadd, hnext, hmark]

theorem snippetInWords?_eq {text : Source} (h : text.lines.length < 2 ^ 64)
    (line context : UInt64) :
    snippetInWords? text line context = some (snippet text line.toNat context.toNat) := by
  obtain ⟨count, hcount, hlength⟩ := exists_word? h
  have hpos := lines_length_pos text
  have hone : 1 ≤ count := by
    rw [UInt64.le_iff_toNat_le, hlength]
    exact hpos
  have hsub : checkedSub count 1 = some (count - 1) := if_pos hone
  have hlast : (min (saturatingAdd line context) (count - 1)).toNat =
      min (line.toNat + context.toNat) (text.lines.length - 1) := by
    rw [UInt64.toNat_min, toNat_saturatingAdd, UInt64.toNat_sub_of_le _ _ hone, hlength,
      UInt64.toNat_one]
    omega
  obtain ⟨stop, hstop, hbound⟩ :=
    exists_word? (n := min (line.toNat + context.toNat) (text.lines.length - 1) + 1) (by omega)
  have hadd : checkedAdd (min (saturatingAdd line context) (count - 1)) 1 = some stop := by
    rw [checkedAdd, hlast]
    exact hstop
  have hrows : ((text.lines.zipIdx.take stop.toNat).drop (saturatingSub line context).toNat).mapM
      (snippetLineInWords? line) =
      some (((text.lines.zipIdx.take stop.toNat).drop (saturatingSub line context).toNat).map
        (snippetLine line.toNat)) := by
    refine mapM_eq_some_map fun entry hentry => snippetLineInWords?_eq ?_
    have hindex := List.snd_lt_of_mem_zipIdx (List.mem_of_mem_take (List.mem_of_mem_drop hentry))
    omega
  simp only [snippetInWords?, hcount, hsub, hadd, hrows, Option.bind_eq_bind, Option.bind_some,
    Option.pure_def]
  rw [snippet, hbound, toNat_saturatingSub]

end Words

/-- A snippet shows the existing lines that are at most `context` away from `line`, once each and in
order.  The arrow marks `line` if that exists and is no marker otherwise, and nothing is shown only
if all lines are too far above.  Computed in 64 bits, the snippet of a text with a number of lines
in that range is the same, and no step on the way leaves the range. -/
theorem snippet_shows_window (text : Source) (line context : Nat) :
    let count := (text.splitOn '\n').length
    (∃ (shown : List Nat) (row : Nat → String),
      shown.Pairwise (· < ·) ∧
      (∀ i, i ∈ shown ↔ i < count ∧ line ≤ i + context ∧ i ≤ line + context) ∧
      snippet text line context = String.join (shown.map row) ∧
      (∀ i ∈ shown, ShownAs text line i (row i)) ∧
      (shown.map (marker line)).count '→' = if line < count then 1 else 0) ∧
    (snippet text line context = "" ↔ count + context ≤ line) ∧
    (count < 2 ^ 64 → ∀ l c : UInt64, l.toNat = line → c.toNat = context →
      snippetInWords? text l c = some (snippet text line context)) := by
  intro count
  have hcount : count = text.lines.length := by rw [lines_eq_splitOn]
  have hpos := lines_length_pos text
  rw [hcount]
  refine ⟨⟨shownLines text.lines.length line context, fun i =>
    snippetLine line (text.lines.getD i [], i), pairwise_shownLines _ _ _,
    fun i => mem_shownLines hpos, snippet_eq_join text line context, fun i hi => ?_,
    count_marker_shownLines hpos⟩, snippet_eq_empty_iff text line context, ?_⟩
  · have hi := ((mem_shownLines hpos).1 hi).1
    refine shownAs_snippetLine line ?_
    rw [List.getD_eq_getElem?_getD, List.getElem?_eq_getElem hi, Option.getD_some]
  · rintro hwords l c rfl rfl
    exact snippetInWords?_eq hwords l c

/-- A context as large as 64 bits allow shows all lines.  Past the end of the text a line without
arrow is left as long as it is within reach; one step further there is none. -/
theorem snippet_shows_window_wide :
    let text := "a\r\nb\r\r\nc→".toList
    snippet text 1 (2 ^ 64 - 1) = "   1   a\n   2 → b\n   3   c→\n" ∧
      snippetInWords? text 1 (.ofNat (2 ^ 64 - 1)) = some (snippet text 1 (2 ^ 64 - 1)) ∧
      snippet text 4 2 = "   3   c→\n" ∧ snippet text 5 2 = "" := by
  intro text
  have hcount : (text.splitOn '\n').length = 3 := by
    rw [← lines_eq_splitOn]
    decide
  obtain ⟨-, -, hwords⟩ := snippet_shows_window text 1 (2 ^ 64 - 1)
  obtain ⟨-, hempty, -⟩ := snippet_shows_window text 5 2
  rw [hcount] at hwords hempty
  refine ⟨by decide +kernel, hwords (by decide) _ _ rfl ?_, by decide +kernel, hempty.2 (by decide)⟩
  exact UInt64.toNat_ofNat_of_lt' (by decide)

end PatternLint
