import ElixirLint.Lsp.Outgoing
import ElixirLint.Proofs.FileUri

/-!
# Which files can be told of

Diagnostics reach the editor only under a URI by the general syntax. The URI of a file spells as triplets what the syntax
for files of the web keeps out of a segment, and the brackets. Two more characters may not stand in a URI, the caret and
the bar, and these are left as they are: so a file can be told of exactly if its path holds neither (`publishable_iff`).

Main results: `Reference.isValid_file_iff`, `DocumentUri.publishable_iff`.
-/

namespace ElixirLint

/-! ## Paths by the general syntax -/

namespace Reference

variable {allowed : Char → Bool} {cs front rest : List Char} {i : Nat} {c : Char}

/-- A text of allowed characters and triplets. -/
inductive IsSpelled (allowed : Char → Bool) : List Char → Prop
  | nil : IsSpelled allowed []
  | char {c : Char} {cs : List Char} : allowed c = true → IsSpelled allowed cs → IsSpelled allowed (c :: cs)
  | triplet {x y : Char} {cs : List Char} : Address.isHexDigit x = true → Address.isHexDigit y = true →
      IsSpelled allowed cs → IsSpelled allowed ('%' :: x :: y :: cs)

theorem IsSpelled.append (h : IsSpelled allowed front) (hr : IsSpelled allowed rest) :
    IsSpelled allowed (front ++ rest) := by
  induction h with
  | nil => exact hr
  | char hc _ ih => exact .char hc ih
  | triplet hx hy _ ih => exact .triplet hx hy ih

/-- A character of such a text is allowed, or one of a triplet. -/
theorem IsSpelled.mem (h : IsSpelled allowed cs) (hc : c ∈ cs) :
    allowed c = true ∨ c = '%' ∨ Address.isHexDigit c = true := by
  induction h with
  | nil => cases hc
  | char hd _ ih =>
    rcases List.mem_cons.mp hc with rfl | hc
    · exact .inl hd
    · exact ih hc
  | triplet hx hy _ ih =>
    simp only [List.mem_cons] at hc
    rcases hc with rfl | rfl | rfl | hc
    · exact .inr (.inl rfl)
    · exact .inr (.inr hx)
    · exact .inr (.inr hy)
    · exact ih hc

/-- An allowed character is taken. -/
theorem take_char (hc : c ≠ '%') (ha : allowed c = true) (i : Nat) (cs : List Char) :
    take allowed i (c :: cs) = (take allowed (i + 1) cs).map fun (t, rest) => (c :: t, rest) := by
  rw [take, if_neg hc, if_pos ha]
  exact fun _ _ _ hp => absurd hp hc

theorem take_stop (hc : c ≠ '%') (ha : allowed c = false) (i : Nat) (cs : List Char) :
    take allowed i (c :: cs) = .ok ([], c :: cs) := by
  rw [take, if_neg hc, if_neg (by simp [ha])]
  exact fun _ _ _ hp => absurd hp hc

/-- What is taken off the front of a text is spelled. -/
theorem take_spec (h : take allowed i cs = .ok (front, rest)) : cs = front ++ rest ∧ IsSpelled allowed front := by
  fun_induction take allowed i cs generalizing front rest with
  | case1 i x y cs digits ih =>
    obtain ⟨hx, hy⟩ := Bool.and_eq_true_iff.mp digits
    cases taken : take allowed (i + 3) cs with
    | error e => rw [taken] at h; cases h
    | ok parts =>
      rw [taken] at h
      cases h
      obtain ⟨whole, spelled⟩ := ih taken
      exact ⟨by simp [← whole], .triplet hx hy spelled⟩
  | case2 => cases h
  | case3 => cases h
  | case4 i c cs _ _ ha ih =>
    cases taken : take allowed (i + 1) cs with
    | error e => rw [taken] at h; cases h
    | ok parts =>
      rw [taken] at h
      cases h
      obtain ⟨whole, spelled⟩ := ih taken
      exact ⟨by simp [← whole], .char ha spelled⟩
  | case5 => cases h; exact ⟨rfl, .nil⟩
  | case6 => cases h; exact ⟨rfl, .nil⟩

/-- A text that is spelled is taken as a whole. -/
theorem take_of_isSpelled (sign : allowed '%' = false) (h : IsSpelled allowed cs) (i : Nat) :
    take allowed i cs = .ok (cs, []) := by
  induction h generalizing i with
  | nil => rfl
  | @char c cs ha _ ih =>
    have hc : c ≠ '%' := by
      rintro rfl
      rw [sign] at ha
      cases ha
    rw [take_char hc ha, ih]
    rfl
  | triplet hx hy _ ih =>
    rw [take, hx, hy, Bool.and_self, if_pos rfl, ih]
    rfl

/-- Behind a path stands nothing but a query or a fragment. -/
theorem readRest_cons (query : c ≠ '?') (fragment : c ≠ '#') (i : Nat) (cs : List Char) :
    readRest i (c :: cs) = .error (.character i) := by
  unfold readRest
  split
  · rename_i h
    exact absurd (List.cons.inj h).1 query
  simp only [pure_bind]
  split
  · rename_i h
    exact absurd (List.cons.inj h).1 fragment
  rfl

/-- In front of a slash the authority is empty. -/
theorem takeAuthority_slash (i : Nat) (cs : List Char) : takeAuthority i ('/' :: cs) = .ok ([], '/' :: cs) := by
  have stop : take isAuthorityChar i ('/' :: cs) = .ok ([], '/' :: cs) := take_stop (by decide) (by decide) i cs
  unfold takeAuthority
  rw [stop]
  rfl

/-- What is behind an empty host is a path and what is behind that. -/
theorem parse_file (cs : List Char) :
    parse ("file://".toList ++ '/' :: cs) =
      (take isPathChar 7 ('/' :: cs)).bind fun (path, rest) =>
        (readRest (7 + path.length) rest).bind fun _ => .ok ⟨some "file".toList, some [], path⟩ := by
  have scheme : parse ("file://".toList ++ '/' :: cs) =
      readHierarchy (some "file".toList) 5 ('/' :: '/' :: '/' :: cs) := rfl
  rw [scheme, readHierarchy, takeAuthority_slash]
  rfl

/-- Behind an empty host, a text is a path if it is spelled. -/
theorem isValid_file_iff (query : '?' ∉ '/' :: cs) (fragment : '#' ∉ '/' :: cs) :
    isValid (String.ofList ("file://".toList ++ '/' :: cs)) = true ↔ IsSpelled isPathChar ('/' :: cs) := by
  rw [isValid, String.toList_ofList, parse_file]
  constructor
  · intro valid
    cases taken : take isPathChar 7 ('/' :: cs) with
    | error e =>
      rw [taken] at valid
      cases valid
    | ok parts =>
      obtain ⟨path, rest⟩ := parts
      obtain ⟨whole, spelled⟩ := take_spec taken
      cases rest with
      | nil => rwa [whole, List.append_nil]
      | cons c rest =>
        have hc : c ∈ '/' :: cs := by simp [whole]
        have stop := readRest_cons (fun h => query (h ▸ hc)) (fun h => fragment (h ▸ hc)) (7 + path.length) rest
        rw [taken] at valid
        simp only [Except.bind, stop] at valid
        cases valid
  · intro spelled
    rw [take_of_isSpelled (by decide) spelled]
    rfl

end Reference

/-! ## URIs of files -/

namespace FileUri

open Reference

variable {n : List UInt8} {b : UInt8}

/-- The byte of a character that the general syntax keeps out of a URI, but the syntax for files of the web does not. -/
def isStray (b : UInt8) : Bool := b == 94 || b == 124

/-- Whether the spelling of a byte is one character of a path or a triplet. -/
def isProper : List Char → Bool
  | [c] => isPathChar c
  | ['%', x, y] => Address.isHexDigit x && Address.isHexDigit y
  | _ => false

/-- The spelling of a byte is proper unless the byte is stray. -/
theorem isProper_spelledByte (b : UInt8) : isProper (spelledByte b) = !isStray b :=
  forall_byte (P := fun b => isProper (spelledByte b) = !isStray b) (by decide +kernel) b

/-- A proper spelling consists of characters of a path and triplets. -/
theorem isSpelled_of_isProper {s : List Char} (h : isProper s = true) : IsSpelled isPathChar s := by
  unfold isProper at h
  split at h
  · exact .char h .nil
  · obtain ⟨hx, hy⟩ := Bool.and_eq_true_iff.mp h
    exact .triplet hx hy .nil
  · cases h

/-- A name without stray bytes is spelled by the general syntax. -/
theorem isSpelled_spelled (h : ∀ b ∈ n, isStray b = false) : IsSpelled isPathChar (spelled n) := by
  rw [spelled_eq]
  induction n with
  | nil => exact .nil
  | cons b n ih =>
    obtain ⟨hb, hn⟩ := List.forall_mem_cons.mp h
    rw [List.flatMap_cons]
    refine IsSpelled.append (isSpelled_of_isProper ?_) (ih hn)
    rw [isProper_spelledByte, hb]
    rfl

/-- A stray byte is left as it is. -/
theorem mem_spelled_of_isStray (h : isStray b = true) (hb : b ∈ n) : '^' ∈ spelled n ∨ '|' ∈ spelled n := by
  rw [spelled_eq]
  simp only [isStray, Bool.or_eq_true, beq_iff_eq] at h
  rcases h with rfl | rfl
  · exact .inl (List.mem_flatMap.mpr ⟨_, hb, by decide⟩)
  · exact .inr (List.mem_flatMap.mpr ⟨_, hb, by decide⟩)

/-- What the segments of a URI spell begins with a slash and ends nowhere before its end. -/
theorem segmentsOf_spec (ns : List (List UInt8)) :
    ∃ cs, (segmentsOf ns).flatMap ('/' :: ·) = '/' :: cs ∧ '?' ∉ '/' :: cs ∧ '#' ∉ '/' :: cs := by
  have plain : ∀ s ∈ segmentsOf ns, ∀ c ∈ s, isPlain c = true := by
    intro s hs c hc
    unfold segmentsOf at hs
    split at hs
    · rw [List.mem_singleton.mp hs] at hc
      cases hc
    · obtain ⟨n, -, rfl⟩ := List.mem_map.mp hs
      exact plain_spelled hc
  have other : ∀ c, isPlain c = false → c ≠ '/' → c ∉ (segmentsOf ns).flatMap ('/' :: ·) := by
    intro c odd slash hc
    obtain ⟨s, hs, hc⟩ := List.mem_flatMap.mp hc
    rcases List.mem_cons.mp hc with rfl | hc
    · exact slash rfl
    · rw [plain s hs c hc] at odd
      cases odd
  obtain ⟨s, segs, parts⟩ : ∃ s segs, segmentsOf ns = s :: segs := by
    cases ns with
    | nil => exact ⟨_, _, rfl⟩
    | cons n ns => exact ⟨_, _, rfl⟩
  have query := other '?' (by decide) (by decide)
  have fragment := other '#' (by decide) (by decide)
  rw [parts] at query fragment ⊢
  exact ⟨_, rfl, query, fragment⟩

/-- The segments for names without stray bytes are spelled by the general syntax. -/
theorem isSpelled_segmentsOf {ns : List (List UInt8)} (h : ∀ n ∈ ns, ∀ b ∈ n, isStray b = false) :
    IsSpelled isPathChar ((segmentsOf ns).flatMap ('/' :: ·)) := by
  have segments : ∀ segs : List (List Char), (∀ s ∈ segs, IsSpelled isPathChar s) →
      IsSpelled isPathChar (segs.flatMap ('/' :: ·)) := by
    intro segs
    induction segs with
    | nil => exact fun _ => .nil
    | cons s segs ih =>
      intro hs
      obtain ⟨hs, hsegs⟩ := List.forall_mem_cons.mp hs
      exact .char (by decide) (hs.append (ih hsegs))
  apply segments
  intro s hs
  unfold segmentsOf at hs
  split at hs
  · rw [List.mem_singleton.mp hs]
    exact .nil
  · obtain ⟨n, hn, rfl⟩ := List.mem_map.mp hs
    exact isSpelled_spelled (h n hn)

/-- A stray byte of a name is in the URI as it is. -/
theorem mem_segmentsOf_of_isStray {ns : List (List UInt8)} (h : isStray b = true) (hn : n ∈ ns) (hb : b ∈ n) :
    '^' ∈ (segmentsOf ns).flatMap ('/' :: ·) ∨ '|' ∈ (segmentsOf ns).flatMap ('/' :: ·) := by
  have segment : spelled n ∈ segmentsOf ns := by
    unfold segmentsOf
    split
    · rename_i none
      rw [List.isEmpty_iff.mp none] at hn
      cases hn
    · exact List.mem_map.mpr ⟨n, hn, rfl⟩
  rcases mem_spelled_of_isStray h hb with caret | bar
  · exact .inl (List.mem_flatMap.mpr ⟨_, segment, .tail _ caret⟩)
  · exact .inr (List.mem_flatMap.mpr ⟨_, segment, .tail _ bar⟩)

end FileUri

namespace DocumentUri

open FileUri Reference

variable {p : Path}

/-- Diagnostics can be published under the URI of a file: behind `file://` it consists of slashes, characters of segments
and triplets, it is a reference by the general syntax, and this very URI is told to the editor. -/
structure Publishable (u : DocumentUri) : Prop where
  spelled : ∃ cs, u.text = String.ofList ("file://".toList ++ cs) ∧ IsSpelled isPathChar cs
  valid : isValid u.text = true
  published : ∀ ds, Lsp.publishing u ds =
    [⟨"textDocument/publishDiagnostics",
      .object [("diagnostics", .array (ds.map Lsp.diagnosticJson)), ("uri", .string u.text)]⟩]

/-- The path holds neither a caret nor a bar. -/
def IsPlain (p : Path) : Prop := ∀ b ∈ p.bytes, isStray b = false

/-- The stray bytes of an absolute path are in the entries that it names. -/
theorem isPlain_iff (h : p.isAbsolute = true) : IsPlain p ↔ ∀ n ∈ p.entries, ∀ b ∈ n, isStray b = false := by
  have root : ∃ bs, p.bytes = Path.slash :: bs := by
    obtain ⟨bytes⟩ := p
    cases bytes with
    | nil => cases h
    | cons b bs => exact ⟨bs, by simpa [Path.isAbsolute] using h⟩
  obtain ⟨bs, whole⟩ := root
  have entries : p.entries = (Path.splitOn Path.slash bs).filter fun piece => !Path.isIdle piece := by
    rw [Path.entries, whole]
    rfl
  rw [IsPlain, whole, entries]
  constructor
  · intro plain n hn b hb
    by_cases hs : b = Path.slash
    · exact absurd (hs ▸ hb) (Path.not_mem_of_mem_splitOn (List.mem_filter.mp hn).1)
    · exact plain b (.tail _ ((Path.mem_iff_mem_splitOn hs).mpr ⟨n, (List.mem_filter.mp hn).1, hb⟩))
  · intro plain b hb
    rcases List.mem_cons.mp hb with rfl | hb
    · rfl
    by_cases hs : b = Path.slash
    · subst hs
      rfl
    obtain ⟨piece, hp, hb⟩ := (Path.mem_iff_mem_splitOn hs).mp hb
    cases idle : Path.isIdle piece with
    | false => exact plain piece (List.mem_filter.mpr ⟨hp, by simp [idle]⟩) b hb
    | true =>
      -- A piece that makes no difference is empty or a dot.
      have dot : piece = [] ∨ piece = [Path.dot] := by simpa [Path.isIdle] using idle
      rcases dot with rfl | rfl
      · cases hb
      · rw [List.mem_singleton.mp hb]
        rfl

/-- Every absolute path has a URI. Diagnostics can be published under it if and only if the path holds neither a caret
nor a bar. With one of these it is no reference by the general syntax, and they are dropped. -/
theorem publishable_iff (h : p.isAbsolute = true) :
    ∃ u, ofFilePath? p = some u ∧ (Publishable u ↔ IsPlain p) ∧
      (¬IsPlain p → isValid u.text = false ∧ ∀ ds, Lsp.publishing u ds = []) := by
  obtain ⟨cs, path, query, fragment⟩ := segmentsOf_spec p.entries
  have spelled : IsSpelled isPathChar ('/' :: cs) ↔ IsPlain p := by
    rw [isPlain_iff h, ← path]
    constructor
    · intro spelled n hn b hb
      by_contra stray
      rcases mem_segmentsOf_of_isStray (by simpa using stray) hn hb with caret | bar
      · exact absurd (spelled.mem caret) (by decide)
      · exact absurd (spelled.mem bar) (by decide)
    · exact isSpelled_segmentsOf
  have valid := (isValid_file_iff query fragment).trans spelled
  rw [ofFilePath?_of_segments h (segments_of_isAbsolute h), path]
  refine ⟨_, rfl, ⟨fun able => valid.mp able.valid, ?_⟩, ?_⟩
  · intro plain
    refine ⟨⟨_, rfl, spelled.mpr plain⟩, valid.mpr plain, ?_⟩
    intro ds
    rw [Lsp.publishing, if_pos (valid.mpr plain)]
  · intro stray
    have invalid := fun ok => stray (valid.mp ok)
    refine ⟨Bool.eq_false_iff.mpr invalid, ?_⟩
    intro ds
    rw [Lsp.publishing, if_neg invalid]

/-- A path with bytes of all kinds that must be spelled. -/
def reserved : Path := ⟨Text.utf8Bytes "/tmp/../x[1]//my app\\a#b?%é" ++ [0xFF, 0x0A]⟩

/-- A path with a bar. -/
def barred : Path := .ofString "/a|b"

/-- Diagnostics are published for the one path and dropped for the other. -/
theorem publishable_iff_barred :
    (reserved.isAbsolute = true ∧ ∃ u, ofFilePath? reserved = some u ∧ Publishable u) ∧
    (barred.isAbsolute = true ∧ ∃ u, ofFilePath? barred = some u ∧ ∀ ds, Lsp.publishing u ds = []) := by
  have plain : IsPlain reserved := by
    unfold IsPlain
    decide +kernel
  have stray : ¬IsPlain barred := by
    unfold IsPlain
    decide +kernel
  obtain ⟨u, hu, able, -⟩ := publishable_iff (p := reserved) (by decide +kernel)
  obtain ⟨v, hv, -, dropped⟩ := publishable_iff (p := barred) (by decide +kernel)
  exact ⟨⟨by decide +kernel, u, hu, able.mpr plain⟩, by decide +kernel, v, hv, (dropped stray).2⟩

/-- Diagnostics cannot always be published under the URI of a file: a bar is left as it is. -/
theorem not_always_publishable :
    ¬∀ p : Path, p.isAbsolute = true → ∃ u, ofFilePath? p = some u ∧ Publishable u := by
  intro h
  obtain ⟨u, hu, able⟩ := h barred (by decide +kernel)
  have same : u = ⟨"file:///a|b"⟩ := by
    have shown : ofFilePath? barred = some ⟨"file:///a|b"⟩ := by decide +kernel
    exact Option.some.inj (hu.symm.trans shown)
  have valid := able.valid
  rw [same] at valid
  revert valid
  decide +kernel

end DocumentUri

end ElixirLint
