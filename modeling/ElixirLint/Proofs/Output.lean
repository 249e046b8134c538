import ElixirLint.Output
import ElixirLint.Proofs.Text.Search
import ElixirLint.Proofs.Text.Words
import ElixirLint.Report
import Mathlib.Data.List.TakeWhile

/-!
# What is recovered from a noisy output

The payload of an output is what stands from its first opening to its last closing brace, if these stand in this order.
It alone decides whether there is a report. What stands around it only decides which error is told without one.

Main results: `payload?_of_encloses`, `encloses_of_payload?`, `recovered_from_noise`.
-/

namespace ElixirLint.Output

open Json Text

variable {α : Type} {d : Decoder α} {a : α} {output : String} {front payload behind inner cs : List Char}

/-! ## Specification -/

/-- A text is a payload from an opening to a closing brace, with no opening brace in front of it and no closing brace
behind it. -/
structure Encloses (cs front payload behind : List Char) : Prop where
  whole : cs = front ++ payload ++ behind
  unopened : '\x7b' ∉ front
  unclosed : '\x7d' ∉ behind
  braces : ∃ inner, payload = '\x7b' :: (inner ++ ['\x7d'])

/-- No report is read from an output. Whether it mentions that the process was told to terminate decides what is told
instead. -/
structure Unread (d : Decoder α) (output : String) : Prop where
  terminated : "SIGTERM".toList <:+: output.toList → report? d output = .ok none
  malformed : ¬"SIGTERM".toList <:+: output.toList → ∃ text, report? d output = .error (.malformed text)

/-! ## The payload -/

/-- A text is kept up to its last closing brace. -/
theorem untilLastBrace_append (cs : List Char) (h : '\x7d' ∉ behind) :
    untilLastBrace (cs ++ '\x7d' :: behind) = cs ++ ['\x7d'] := by
  have cut : IsCut (fun c => decide (c ≠ '\x7d')) behind.reverse ('\x7d' :: cs.reverse) :=
    isCut_of_not_mem (mt List.mem_reverse.mp h) (by simp)
  have reversed : (cs ++ '\x7d' :: behind).reverse = behind.reverse ++ '\x7d' :: cs.reverse := by simp
  rw [untilLastBrace, reversed, cut.dropWhile_eq]
  simp

/-- Nothing is kept of a text without an opening brace. -/
theorem dropWhile_eq_nil {brace : Char} (h : brace ∉ cs) : cs.dropWhile (· ≠ brace) = [] := by
  rw [List.dropWhile_eq_nil_iff]
  intro c hc
  exact decide_eq_true fun same => h (same ▸ hc)

theorem untilLastBrace_eq_nil (h : '\x7d' ∉ cs) : untilLastBrace cs = [] := by
  rw [untilLastBrace, List.reverse_eq_nil_iff]
  exact dropWhile_eq_nil (mt List.mem_reverse.mp h)

/-- A text is kept from its first opening brace on. -/
theorem fromFirstBrace_append (h : '\x7b' ∉ front) (cs : List Char) :
    (front ++ '\x7b' :: cs).dropWhile (· ≠ '\x7b') = '\x7b' :: cs :=
  (isCut_of_not_mem h (by simp)).dropWhile_eq

/-- The payload is found whatever the noise around it is. -/
theorem payload?_of_encloses (h : Encloses output.toList front payload behind) :
    payload? output = some (String.ofList payload) := by
  obtain ⟨whole, unopened, unclosed, inner, rfl⟩ := h
  have rest : output.toList = front ++ '\x7b' :: (inner ++ '\x7d' :: behind) := by rw [whole]; simp
  have last := untilLastBrace_append ('\x7b' :: inner) unclosed
  rw [List.cons_append] at last
  unfold payload?
  rw [rest, fromFirstBrace_append unopened, last]
  rfl

/-- What is found as a payload is one. -/
theorem encloses_of_payload? {text : String} (h : payload? output = some text) :
    ∃ front behind, Encloses output.toList front text.toList behind := by
  by_cases opened : '\x7b' ∈ output.toList
  · obtain ⟨front, rest, whole, unopened⟩ := List.eq_append_cons_of_mem opened
    by_cases closed : '\x7d' ∈ rest
    · obtain ⟨inner, behind, rfl, unclosed⟩ := exists_last_of_mem closed
      have encloses : Encloses output.toList front ('\x7b' :: (inner ++ ['\x7d'])) behind :=
        ⟨by rw [whole]; simp, unopened, unclosed, _, rfl⟩
      obtain rfl := Option.some.inj ((payload?_of_encloses encloses).symm.trans h)
      rw [String.toList_ofList]
      exact ⟨front, _, encloses⟩
    · have none : '\x7d' ∉ '\x7b' :: rest := by simp [closed]
      unfold payload? at h
      rw [whole, fromFirstBrace_append unopened, untilLastBrace_eq_nil none] at h
      cases h
  · unfold payload? at h
    rw [dropWhile_eq_nil opened] at h
    cases h

/-! ## The report -/

/-- A mention of the signal is found anywhere in the output. -/
theorem mentionsTermination_iff : mentionsTermination output = true ↔ "SIGTERM".toList <:+: output.toList := by
  rw [mentionsTermination, occursIn, Option.isSome_iff_exists]
  constructor
  · rintro ⟨n, found⟩
    obtain ⟨rest, whole⟩ := find?_split found
    exact ⟨_, rest, whole.symm⟩
  · exact exists_find?_of_infix

/-- Without a payload that decodes there is no report. -/
theorem unread_of_none (nonempty : output ≠ "") (h : (payload? output).bind (decodeText? d) = none) :
    Unread d output := by
  have unread : report? d output =
      if mentionsTermination output then .ok none else .error (.malformed (collapse output)) := by
    rw [report?, if_neg nonempty, h]
  constructor
  · intro mark
    rw [unread, if_pos (mentionsTermination_iff.mpr mark)]
  · intro mark
    exact ⟨_, by rw [unread, if_neg fun h => mark (mentionsTermination_iff.mp h)]⟩

/-- The answer for an output is a report, silence, or one of two errors. -/
theorem report?_cases (d : Decoder α) (output : String) :
    (output = "" ∧ report? d output = .error .empty) ∨ (∃ a, report? d output = .ok (some a)) ∨
      report? d output = .ok none ∨ report? d output = .error (.malformed (collapse output)) := by
  unfold report?
  split
  · exact .inl ⟨‹_›, rfl⟩
  split
  · exact .inr (.inl ⟨_, rfl⟩)
  split
  · exact .inr (.inr (.inl rfl))
  · exact .inr (.inr (.inr rfl))

/-- An output that encloses something is not empty. -/
theorem ne_empty_of_encloses (h : Encloses output.toList front payload behind) : output ≠ "" := by
  rintro rfl
  obtain ⟨whole, -, -, inner, rfl⟩ := h
  simp at whole

/-- What is recovered from every output, for every kind of report.

1. A payload that decodes is the report, whatever noise is around it. If it does not decode, there is none.
2. Neither is there a report without a payload.
3. Nothing was printed only if the output is empty.
4. An output that is told as malformed is told with its words, single spaces between them and nothing around them. -/
theorem recovered_from_noise (d : Decoder α) (output : String) :
    (∀ front payload behind, Encloses output.toList front payload behind →
      (∀ a, decodeText? d (String.ofList payload) = some a → report? d output = .ok (some a)) ∧
      (decodeText? d (String.ofList payload) = none → Unread d output)) ∧
    (output ≠ "" → (∀ front payload behind, ¬Encloses output.toList front payload behind) → Unread d output) ∧
    (report? d output = .error .empty ↔ output = "") ∧
    ∀ text, report? d output = .error (.malformed text) → Collapsed output.toList text.toList := by
  refine ⟨?_, ?_, ?_, ?_⟩
  · intro front payload behind encloses
    have nonempty := ne_empty_of_encloses encloses
    have found := payload?_of_encloses encloses
    constructor
    · intro a decoded
      rw [report?, if_neg nonempty, found, Option.bind_some, decoded]
    · intro failed
      exact unread_of_none nonempty (by rw [found, Option.bind_some, failed])
  · intro nonempty bare
    refine unread_of_none nonempty ?_
    cases found : payload? output with
    | none => rfl
    | some text =>
      obtain ⟨front, behind, encloses⟩ := encloses_of_payload? found
      exact absurd encloses (bare _ _ _)
  · constructor
    · intro h
      rcases report?_cases d output with ⟨empty, -⟩ | ⟨a, read⟩ | silent | malformed
      · exact empty
      · cases read.symm.trans h
      · cases silent.symm.trans h
      · cases malformed.symm.trans h
    · rintro rfl
      rfl
  · intro text h
    rcases report?_cases d output with ⟨-, empty⟩ | ⟨a, read⟩ | silent | malformed
    · cases empty.symm.trans h
    · cases read.symm.trans h
    · cases silent.symm.trans h
    · cases malformed.symm.trans h
      exact collapsed_collapse output

/-- A report between noise with braces, from a process that was told to terminate. -/
def noisy : String := "SIGTERM \x7d\n\x7b\"issues\":[]\x7d \x7bSIGTERM"

/-- An output without a payload, with white space of several kinds. -/
def scattered : String := "\u2003no \u00a0\x7d\u3000report\x7b\r\n"

/-- The report between the noise is recovered, and the output without one is told with its words. -/
theorem recovered_from_noise_scattered :
    (∃ front payload behind, Encloses noisy.toList front payload behind ∧
      ∃ r, decodeText? SuggestReport.decoder (String.ofList payload) = some r ∧
        report? SuggestReport.decoder noisy = .ok (some r)) ∧
    report? SuggestReport.decoder scattered = .error (.malformed "no \x7d report\x7b") := by
  constructor
  · have encloses : Encloses noisy.toList "SIGTERM \x7d\n".toList "\x7b\"issues\":[]\x7d".toList " \x7bSIGTERM".toList :=
      ⟨by decide +kernel, by decide +kernel, by decide +kernel, "\"issues\":[]".toList, by decide +kernel⟩
    obtain ⟨r, decoded⟩ := Option.isSome_iff_exists.mp
      (by decide +kernel : (decodeText? SuggestReport.decoder "\x7b\"issues\":[]\x7d").isSome = true)
    exact ⟨_, _, _, encloses, r, decoded,
      ((recovered_from_noise SuggestReport.decoder noisy).1 _ _ _ encloses).1 r decoded⟩
  · obtain ⟨-, bare, -, words⟩ := recovered_from_noise SuggestReport.decoder scattered
    have none : payload? scattered = none := by decide +kernel
    have unread := bare (by decide) fun front payload behind encloses => by
      cases none.symm.trans (payload?_of_encloses encloses)
    obtain ⟨text, malformed⟩ := unread.malformed (by decide +kernel)
    have spaced : text.toList = "no \x7d report\x7b".toList := (words text malformed).spaced.trans (by decide +kernel)
    rw [malformed, String.toList_inj.mp spaced]

end ElixirLint.Output
