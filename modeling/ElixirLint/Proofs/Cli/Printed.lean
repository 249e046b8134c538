import ElixirLint.Cli.Lint
import ElixirLint.Proofs.Highlight

/-!
# Places are printed from one on

The linter counts lines and columns from one, a range counts them from zero, and what is printed counts from one again.
The way there holds a number to 32 bits, and the way back adds one to it within 32 bits. So the two are inverse for the
numbers that fit into 32 bits, and for no others: the last place of all is printed as zero (`printed_from_one`).
-/

namespace ElixirLint.Cli.LintVerdict

open Highlight Text

variable {issue : Issue} {text : String} {severities : SeverityMap} {file : String} {d : Diagnostic}

/-! ## Specification -/

/-- The four numbers that are printed for a place. -/
structure Numbers where
  line : Nat
  column : Nat
  endLine : Nat
  endColumn : Nat

namespace Numbers

/-- The places of a range, each counted from one. -/
def fromOne (r : Range) : Numbers :=
  ⟨r.start.line.toNat + 1, r.start.character.toNat + 1, r.stop.line.toNat + 1, r.stop.character.toNat + 1⟩

/-- A diagnostic as JSON, with these numbers. -/
def json (p : Numbers) (file : String) (d : Diagnostic) : Json :=
  .object
    [("file", .string file), ("line", .int p.line), ("column", .int p.column), ("end_line", .int p.endLine),
     ("end_column", .int p.endColumn), ("severity", .string d.severity.text), ("category", .string d.category.name),
     ("check", .string d.code), ("message", .string d.message)]

/-- The line for a diagnostic, with these numbers. -/
def human (p : Numbers) (view : Display) (file : String) (d : Diagnostic) : String :=
  file ++ ":" ++ toString p.line ++ ":" ++ toString p.column ++ ": " ++
    (Style.ofSeverity d.severity).paint view.styled d.severity.text ++ " " ++ d.message

/-- The lines for diagnostics, each with its numbers. -/
def report (p : Diagnostic → Numbers) (view : Display) (format : OutputFormat) (file : String) (ds : List Diagnostic) :
    List String :=
  match format with
  | .human => ds.map (fun d => (p d).human view file d) ++ summary view ds.length
  | .json => [(Json.array (ds.map fun d => (p d).json file d)).indented]

end Numbers

/-- A diagnostic is printed with these numbers, in both formats. -/
structure Prints (file : String) (d : Diagnostic) (p : Numbers) : Prop where
  json : diagnosticJson file d = p.json file d
  human : ∀ view, diagnosticLine view file d = p.human view file d

/-- The numbers that an issue gives fit into 32 bits. A missing number is one. -/
structure Fits (issue : Issue) : Prop where
  line : issue.lineNo.getD 1 < UInt32.size
  column : issue.column.getD 1 < UInt32.size
  columnEnd : issue.columnEnd.getD 1 < UInt32.size

/-! ## Single numbers -/

theorem toNat_oneBased (n : UInt32) : (oneBased n).toNat = (n.toNat + 1) % UInt32.size := UInt32.toNat_add n 1

/-- Below the last word that is one more. -/
theorem toNat_oneBased_of_lt {n : UInt32} (h : n.toNat + 1 < UInt32.size) : (oneBased n).toNat = n.toNat + 1 := by
  rw [toNat_oneBased, Nat.mod_eq_of_lt h]

/-- Behind the last word comes zero. -/
theorem toNat_oneBased_last {n : UInt32} (h : n.toNat + 1 = UInt32.size) : (oneBased n).toNat = 0 := by
  rw [toNat_oneBased, h, Nat.mod_self]

/-- A number that fits stands for a place before the last one, and no other number does. -/
theorem place_lt_iff (n : Option Int) : place n + 1 < UInt32.size ↔ n.getD 1 < UInt32.size := by
  simp only [place, UInt32.size]
  omega

/-- A number of a line beyond the words is the last word. -/
theorem place_last (n : Option Int) (h : ¬n.getD 1 < UInt32.size) : place n + 1 = UInt32.size := by
  simp only [place, UInt32.size] at *
  omega

/-- A number from one on that fits is one more than its place. -/
theorem place_add_one {n : Nat} (hn : 1 ≤ n) (fits : n < UInt32.size) : place (some (n : Int)) + 1 = n := by
  simp only [place, Option.getD_some, UInt32.size] at *
  omega

/-! ## What is printed -/

/-- The numbers that are printed are those of the range, counted from one within 32 bits. -/
theorem prints (file : String) (d : Diagnostic) :
    Prints file d ⟨(oneBased d.range.start.line).toNat, (oneBased d.range.start.character).toNat,
      (oneBased d.range.stop.line).toNat, (oneBased d.range.stop.character).toNat⟩ :=
  ⟨rfl, fun _ => rfl⟩

/-- A diagnostic is printed with one choice of numbers. -/
theorem Prints.unique {p q : Numbers} (hp : Prints file d p) (hq : Prints file d q) : p = q := by
  have same := hp.json.symm.trans hq.json
  cases p
  cases q
  simp only [Numbers.json, Json.object.injEq, List.cons.injEq, Prod.mk.injEq, Json.int.injEq, true_and, and_true,
    Int.natCast_inj] at same
  obtain ⟨rfl, rfl, rfl, rfl⟩ := same
  rfl

/-- The places of a range are printed from one on as long as none of them is the last one. -/
theorem prints_fromOne_iff :
    Prints file d (.fromOne d.range) ↔
      d.range.start.line.toNat + 1 < UInt32.size ∧ d.range.start.character.toNat + 1 < UInt32.size ∧
        d.range.stop.line.toNat + 1 < UInt32.size ∧ d.range.stop.character.toNat + 1 < UInt32.size := by
  constructor
  · intro h
    have same := h.unique (prints file d)
    simp only [Numbers.fromOne, Numbers.mk.injEq] at same
    obtain ⟨line, column, endLine, endColumn⟩ := same
    have below (n : UInt32) (hn : n.toNat + 1 = (oneBased n).toNat) : n.toNat + 1 < UInt32.size :=
      hn ▸ UInt32.toNat_lt_size _
    exact ⟨below _ line, below _ column, below _ endLine, below _ endColumn⟩
  · rintro ⟨line, column, endLine, endColumn⟩
    have shown := prints file d
    rwa [toNat_oneBased_of_lt line, toNat_oneBased_of_lt column, toNat_oneBased_of_lt endLine,
      toNat_oneBased_of_lt endColumn] at shown

/-- Diagnostics are reported with the numbers that each of them is printed with. -/
theorem report_eq {ds : List Diagnostic} {p : Diagnostic → Numbers} (h : ∀ d ∈ ds, Prints file d (p d)) (view : Display)
    (format : OutputFormat) : report view format file ds = Numbers.report p view format file ds := by
  cases format with
  | human => exact congrArg (· ++ _) (List.map_congr_left fun d hd => (h d hd).human view)
  | json => exact congrArg (fun vs => [(Json.array vs).indented]) (List.map_congr_left fun d hd => (h d hd).json)

/-! ## Which issues are printed right -/

/-- Without columns, the range of an issue is not empty and stays before the last column. -/
theorem range_of_no_columns (hc : issue.column = none) (he : issue.columnEnd = none)
    (short : ∀ n l, IsLine text n l → unitCount l < UInt32.size - 1) :
    ∃ first last, range issue text = .onLine (zeroBased issue.lineNo) first last ∧ first.toNat < last.toNat ∧
      last.toNat + 1 < UInt32.size := by
  by_cases covered : ∃ l, IsLine text (place issue.lineNo) l
  · obtain ⟨l, hl⟩ := covered
    have size := short _ l hl
    have within : unitCount l < UInt32.size := by omega
    by_cases trigger : ∃ t, Highlight.Names issue t ∧ t ≠ [] ∧ t <:+: l
    · obtain ⟨t, named, ht, on⟩ := trigger
      obtain ⟨first, last, hr, marks⟩ := range_of_trigger hc he hl within named ht on
      have stop := marks.within
      exact ⟨first, last, hr, marks.lt ht, by omega⟩
    · have off : ∀ t, Highlight.Names issue t → t ≠ [] → ¬t <:+: l := fun t named ht on => trigger ⟨t, named, ht, on⟩
      have stop := toNat_wholeLine_stop (zeroBased issue.lineNo) within
      refine ⟨_, _, range_of_no_trigger hc he hl off, ?_, ?_⟩
      · have some : 0 < max 1 (unitCount l) := by omega
        exact Nat.lt_of_lt_of_eq some stop.symm
      · have inside : max 1 (unitCount l) + 1 < UInt32.size := by
          simp only [UInt32.size] at size ⊢
          omega
        rwa [← stop] at inside
  · have away : ∀ l, ¬IsLine text (place issue.lineNo) l := fun l hl => covered ⟨l, hl⟩
    exact ⟨0, 1, range_of_no_line hc he away, by decide, by decide⟩

/-- The range of an issue is on its line, and avoids the last column exactly if the columns of the issue do. -/
theorem range_columns (issue : Issue) (text : String) (short : ∀ n l, IsLine text n l → unitCount l < UInt32.size - 1) :
    ∃ first last, range issue text = .onLine (zeroBased issue.lineNo) first last ∧ first.toNat ≤ last.toNat ∧
      (last.toNat + 1 < UInt32.size ↔ issue.column.getD 1 < UInt32.size ∧ issue.columnEnd.getD 1 < UInt32.size) := by
  by_cases columns : issue.column ≠ none ∨ issue.columnEnd ≠ none
  · refine ⟨_, _, range_of_columns columns, ?_, ?_⟩
    · rw [toNat_max]
      exact Nat.le_max_left _ _
    · rw [toNat_max, toNat_zeroBased, toNat_zeroBased, ← place_lt_iff, ← place_lt_iff]
      omega
  · obtain ⟨hc, he⟩ : issue.column = none ∧ issue.columnEnd = none := by simpa using columns
    obtain ⟨first, last, hr, lt, stop⟩ := range_of_no_columns hc he short
    exact ⟨first, last, hr, Nat.le_of_lt lt, by simp [stop, hc, he]⟩

/-- The places of an issue are printed from one on exactly if its numbers fit. -/
theorem prints_fromOne_iff_fits (issue : Issue) (text : String) (severities : SeverityMap) (file : String)
    (short : ∀ n l, IsLine text n l → unitCount l < UInt32.size - 1) :
    Prints file (.ofIssue issue text severities) (.fromOne (range issue text)) ↔ Fits issue := by
  obtain ⟨first, last, hr, le, columns⟩ := range_columns issue text short
  refine prints_fromOne_iff.trans ?_
  simp only [Diagnostic.ofIssue, hr, Range.onLine, toNat_zeroBased, place_lt_iff]
  rw [columns]
  constructor
  · rintro ⟨line, -, -, column, columnEnd⟩
    exact ⟨line, column, columnEnd⟩
  · rintro ⟨line, column, columnEnd⟩
    have before := columns.mpr ⟨column, columnEnd⟩
    exact ⟨line, by omega, line, column, columnEnd⟩

/-- An issue with a line and columns from one on that fit is printed with its own numbers. -/
theorem prints_own {n a b : Nat} (hn : issue.lineNo = some (n : Int)) (ha : issue.column = some (a : Int))
    (hb : issue.columnEnd = some (b : Int)) (n_pos : 1 ≤ n) (a_pos : 1 ≤ a) (ab : a ≤ b) (n_lt : n < UInt32.size)
    (b_lt : b < UInt32.size) : Prints file (.ofIssue issue text severities) ⟨n, a, n, b⟩ := by
  have hr : range issue text = _ := range_of_columns (Or.inl (by simp [ha]))
  have line := place_add_one n_pos n_lt
  have column := place_add_one a_pos (Nat.lt_of_le_of_lt ab b_lt)
  have columnEnd := place_add_one (Nat.le_trans a_pos ab) b_lt
  have own : Numbers.fromOne (range issue text) = ⟨n, a, n, b⟩ := by
    simp only [hr, Numbers.fromOne, Range.onLine, toNat_max, toNat_zeroBased, hn, ha, hb, Numbers.mk.injEq]
    omega
  rw [← own]
  refine prints_fromOne_iff.mpr ?_
  simp only [Diagnostic.ofIssue, hr, Range.onLine, toNat_max, toNat_zeroBased, hn, ha, hb]
  omega

/-- An issue whose numbers do not all fit is printed with a zero. -/
theorem prints_zero (issue : Issue) (text : String) (severities : SeverityMap) (file : String)
    (short : ∀ n l, IsLine text n l → unitCount l < UInt32.size - 1) (h : ¬Fits issue) :
    ∃ p, Prints file (.ofIssue issue text severities) p ∧ (p.endLine = 0 ∨ p.endColumn = 0) := by
  obtain ⟨first, last, hr, -, columns⟩ := range_columns issue text short
  refine ⟨_, prints file (.ofIssue issue text severities), ?_⟩
  simp only [Diagnostic.ofIssue, hr, Range.onLine]
  by_cases line : issue.lineNo.getD 1 < UInt32.size
  · have beyond : ¬last.toNat + 1 < UInt32.size := fun h' =>
      h ⟨line, (columns.mp h').1, (columns.mp h').2⟩
    have bound := last.toNat_lt_size
    exact Or.inr (toNat_oneBased_last (by omega))
  · exact Or.inl (toNat_oneBased_last (by rw [toNat_zeroBased, place_last _ line]))

/-- What is printed for an issue of the linter, for every issue and every text whose lines are shorter than
`UInt32.size - 1` UTF-16 units.

1. The numbers are one more than the places of the range exactly if those of the issue fit into 32 bits.
2. Then they are at least one, the last line is the first one, and the last column is not before the first one.
3. An issue with a line and columns from one on that fit is printed with these very numbers.
4. If the numbers of an issue do not all fit, its last line or its last column is printed as zero.
5. A file whose issues all fit is reported, in both formats, with all their places counted from one. -/
theorem printed_from_one (text : String) (severities : SeverityMap) (file : String)
    (short : ∀ n l, IsLine text n l → unitCount l < UInt32.size - 1) :
    (∀ issue, Prints file (.ofIssue issue text severities) (.fromOne (range issue text)) ↔ Fits issue) ∧
    (∀ issue, Fits issue → ∃ line column endColumn,
      Prints file (.ofIssue issue text severities) ⟨line, column, line, endColumn⟩ ∧ 1 ≤ line ∧ 1 ≤ column ∧
        column ≤ endColumn) ∧
    (∀ (issue : Issue) (n a b : Nat), issue.lineNo = some (n : Int) → issue.column = some (a : Int) →
      issue.columnEnd = some (b : Int) → 1 ≤ n → 1 ≤ a → a ≤ b → n < UInt32.size → b < UInt32.size →
        Prints file (.ofIssue issue text severities) ⟨n, a, n, b⟩) ∧
    (∀ issue, ¬Fits issue → ∃ p, Prints file (.ofIssue issue text severities) p ∧ (p.endLine = 0 ∨ p.endColumn = 0)) ∧
    (∀ issues warnings, (∀ issue ∈ issues, Fits issue) → ∀ view format,
      outcome view format (.checked file warnings (Diagnostic.ofIssues issues text severities)) =
        .ofLines (if issues.isEmpty then .success else .issuesFound)
          (Numbers.report (fun d => .fromOne d.range) view format file (Diagnostic.ofIssues issues text severities))
          (view.warnings warnings)) := by
  have right (issue : Issue) := prints_fromOne_iff_fits issue text severities file short
  refine ⟨right, fun issue fits => ?_, fun issue n a b => prints_own,
    fun issue => prints_zero issue text severities file short, fun issues warnings fit view format => ?_⟩
  · obtain ⟨first, last, hr, le, -⟩ := range_columns issue text short
    have shown := (right issue).mpr fits
    rw [hr] at shown
    exact ⟨_, _, _, shown, Nat.le_add_left .., Nat.le_add_left .., Nat.add_le_add_right le 1⟩
  · have shown : ∀ d ∈ Diagnostic.ofIssues issues text severities, Prints file d (.fromOne d.range) := by
      intro d hd
      obtain ⟨issue, member, rfl⟩ := List.mem_map.mp hd
      exact (right issue).mpr (fit issue member)
    rw [← report_eq shown]
    simp [outcome, Diagnostic.ofIssues]

/-- An issue on a line with columns, with the numbers that the linter gave. -/
def placed (line column columnEnd : Int) : Issue :=
  { Issue.blank with lineNo := some line, column := some column, columnEnd := some columnEnd }

/-- A text on one short line. -/
theorem short_text : ∀ n l, IsLine "x = 1\n" n l → unitCount l < UInt32.size - 1 := by
  intro n l hl
  have all : unitCount "x = 1\n".toList < UInt32.size - 1 := by decide +kernel
  exact Nat.lt_of_le_of_lt hl.unitCount_le all

/-- The largest numbers that fit are printed, and the next line is printed as zero. -/
theorem printed_from_one_limit :
    (∀ n l, IsLine "x = 1\n" n l → unitCount l < UInt32.size - 1) ∧
      Prints "lib/a.ex" (.ofIssue (placed 4294967295 2 4294967295) "x = 1\n" ⟨.hint⟩)
        ⟨4294967295, 2, 4294967295, 4294967295⟩ ∧
      ∃ p, Prints "lib/a.ex" (.ofIssue (placed 4294967296 2 3) "x = 1\n" ⟨.hint⟩) p ∧
        (p.endLine = 0 ∨ p.endColumn = 0) := by
  obtain ⟨-, -, own, zero, -⟩ := printed_from_one "x = 1\n" ⟨.hint⟩ "lib/a.ex" short_text
  refine ⟨short_text, own _ 4294967295 2 4294967295 rfl rfl rfl ?_ ?_ ?_ ?_ ?_, zero _ fun fits => ?_⟩
  iterate 5 decide
  exact absurd fits.line (by decide)

/-- The numbers that are printed are not always those of the range, counted from one: a line that takes 33 bits is
printed as zero. -/
theorem not_always_from_one :
    ¬∀ (issue : Issue) (text : String) (severities : SeverityMap) (file : String),
      (∀ n l, IsLine text n l → unitCount l < UInt32.size - 1) →
        Prints file (.ofIssue issue text severities) (.fromOne (range issue text)) := by
  intro h
  have shown := h (placed 4294967296 1 2) "x = 1\n" ⟨.hint⟩ "lib/a.ex" short_text
  have within := (prints_fromOne_iff.mp shown).1
  revert within
  decide

end ElixirLint.Cli.LintVerdict
