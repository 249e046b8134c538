import ElixirLint.Proofs.Path
import ElixirLint.Uri.FilePath
import Mathlib.Data.List.Basic

/-!
# A file is known by its URI

The URI of a file spells each component of its path as one segment, in characters that stand for themselves wherever
they are, so that nothing a reader is lenient about is ever in it. An empty segment comes before them, behind the empty
host. It keeps the reader from taking the first component for the name of a drive, and is gone in the end.

Main results: `Percent.decode_encode`, `FileUri.hostPath?_segmentsOf`, `DocumentUri.ofFilePath?_recovers`.
-/

namespace ElixirLint

/-! ## Triplets -/

namespace Percent

variable {special : UInt8 → Bool} {b : UInt8}

/-- A hexadecimal digit stands for the number it is made of. -/
theorem digitValue?_digit : ∀ n < 16, digitValue? (digit (UInt8.ofNat n)) = some (UInt8.ofNat n) := by decide

/-- A triplet is read as the byte it stands for. -/
theorem decode_triplet_append (b : UInt8) (bs : List UInt8) : decode (triplet b ++ bs) = b :: decode bs := by
  have bound : b.toNat < 256 := b.toNat_lt
  have high : digitValue? (digit (b / 16)) = some (b / 16) := by
    have hd := digitValue?_digit (b / 16).toNat (by simp; omega)
    rwa [UInt8.ofNat_toNat] at hd
  have low : digitValue? (digit (b % 16)) = some (b % 16) := by
    have hd := digitValue?_digit (b % 16).toNat (by simp; omega)
    rwa [UInt8.ofNat_toNat] at hd
  have value : b / 16 * 16 + b % 16 = b := by
    apply UInt8.toNat_inj.mp
    simp
    omega
  simp [triplet, decode, high, low, value]

/-- Any byte but the percent sign is read as it is. -/
theorem decode_cons (h : b ≠ sign) (bs : List UInt8) : decode (b :: bs) = b :: decode bs := by
  rcases bs with _ | ⟨c, _ | ⟨d, bs⟩⟩
  · simp [decode]
  · simp [decode]
  · simp [decode, h]

/-- Where the percent sign itself is spelled, what was spelled is read back. -/
theorem decode_encode (h : special sign = true) (bs : List UInt8) : decode (encode special bs) = bs := by
  induction bs with
  | nil => rfl
  | cons b bs ih =>
    rw [encode] at ih ⊢
    rw [List.flatMap_cons]
    split
    · rw [decode_triplet_append, ih]
    · rename_i plain
      have hb : b ≠ sign := fun he => plain (he ▸ h)
      rw [List.singleton_append, decode_cons hb, ih]

end Percent

namespace FileUri

open ElixirLint.Path

variable {n : List UInt8} {s cs : List Char} {segs : List (List Char)}

/-! ## Characters that stand for themselves -/

/-- A printable character that ends no segment. -/
def isPlain (c : Char) : Bool := 0x20 < c.toNat && c.toNat < 0x7F && !(['/', '\\', '?', '#'].contains c)

/-- A byte of a name as it is spelled in a URI. -/
def spelledByte (b : UInt8) : List Char :=
  (if isSpelled b then Percent.triplet b else [b]).map fun b => Char.ofNat b.toNat

/-- A name as it is spelled in a URI. -/
def spelled (n : List UInt8) : List Char := (Percent.encode isSpelled n).map fun b => Char.ofNat b.toNat

/-- A name is spelled byte by byte. -/
theorem spelled_eq (n : List UInt8) : spelled n = n.flatMap spelledByte := List.map_flatMap

/-- What holds of the bytes of all numbers below 256 holds of every byte. -/
theorem forall_byte {P : UInt8 → Prop} (h : ∀ n < 256, P (UInt8.ofNat n)) (b : UInt8) : P b := by
  have hb := h b.toNat b.toNat_lt
  rwa [UInt8.ofNat_toNat] at hb

/-- The spelling of any byte is plain. -/
theorem plain_spelledByte (b : UInt8) : (spelledByte b).all isPlain = true :=
  forall_byte (P := fun b => (spelledByte b).all isPlain = true) (by decide +kernel) b

/-- The characters of a name's spelling are plain. -/
theorem plain_spelled {c : Char} (h : c ∈ spelled n) : isPlain c = true := by
  rw [spelled_eq] at h
  obtain ⟨b, -, hc⟩ := List.mem_flatMap.mp h
  exact List.all_eq_true.mp (plain_spelledByte b) c hc

/-- A plain character is neither a space nor a control character, so it is never trimmed. -/
theorem isEdge_of_isPlain {c : Char} (h : isPlain c = true) : isEdge c = false := by
  simp only [isPlain, Bool.and_eq_true, decide_eq_true_eq] at h
  exact decide_eq_false (by omega)

/-- A plain character is no break. -/
theorem isBreak_of_isPlain {c : Char} (h : isPlain c = true) : isBreak c = false := by
  rw [isBreak, Bool.or_eq_false_iff, Bool.or_eq_false_iff]
  refine ⟨⟨?_, ?_⟩, ?_⟩ <;> refine beq_eq_false_iff_ne.mpr fun hc => ?_ <;> subst hc <;> revert h <;> decide

/-- A plain character ends no path. -/
theorem not_endsPath_of_isPlain {c : Char} (h : isPlain c = true) : endsPath c = false := by
  simp_all [isPlain, endsPath]

/-- A plain character separates no segments, whatever the scheme is. -/
theorem not_isSeparator_of_isPlain (k : SchemeKind) {c : Char} (h : isPlain c = true) : k.isSeparator c = false := by
  simp_all [isPlain, SchemeKind.isSeparator]

theorem visible_of_isPlain (h : ∀ c ∈ s, isPlain c = true) : visible s = s :=
  List.filter_eq_self.mpr fun c hc => by rw [isBreak_of_isPlain (h c hc)]; rfl

/-- A text without spaces and control characters is not trimmed. -/
theorem trimmed_of_isEdge (h : ∀ c ∈ cs, isEdge c = false) : trimmed cs = cs := by
  have front : cs.dropWhile isEdge = cs := by
    cases cs with
    | nil => rfl
    | cons c cs => rw [List.dropWhile_cons, h c (.head cs)]; rfl
  have back : cs.reverse.dropWhile isEdge = cs.reverse := by
    cases hr : cs.reverse with
    | nil => rfl
    | cons c rs =>
      have hc : isEdge c = false := h c (List.mem_reverse.mp (hr ▸ .head rs))
      rw [List.dropWhile_cons, hc]; rfl
  rw [trimmed, front, back, List.reverse_reverse]

/-! ## Names read back -/

/-- The text that spells a byte is made of ASCII characters: a triplet, or the byte itself. -/
theorem encodeUtf8_spelledByte (b : UInt8) :
    Text.encodeUtf8 (spelledByte b) = if isSpelled b then Percent.triplet b else [b] :=
  forall_byte (P := fun b => Text.encodeUtf8 (spelledByte b) = if isSpelled b then Percent.triplet b else [b])
    (by decide +kernel) b

/-- A name is read back from its spelling. -/
theorem decode_spelled (n : List UInt8) : Percent.decode (Text.encodeUtf8 (spelled n)) = n := by
  have bytes : Text.encodeUtf8 (spelled n) = Percent.encode isSpelled n := by
    rw [spelled_eq, Text.encodeUtf8, List.flatMap_assoc]
    exact List.flatMap_congr fun b _ => encodeUtf8_spelledByte b
  rw [bytes, Percent.decode_encode (by decide)]

/-- Whether the spelling of a byte is none that stands for a dot, and begins none. -/
def isInert : List Char → Bool
  | [c] => c != '%'
  | ['%', x, y] => x != '%' && y != '%' && (x != '2' || (y != 'e' && y != 'E'))
  | _ => false

/-- The spelling of a byte does not stand for a dot: a dot is never spelled by a triplet. -/
theorem isInert_spelledByte (b : UInt8) : isInert (spelledByte b) = true :=
  forall_byte (P := fun b => isInert (spelledByte b) = true) (by decide +kernel) b

/-- Only a percent sign may begin a triplet that stands for a dot. -/
theorem foldDots_cons {c : Char} (h : c ≠ '%') (cs : List Char) : foldDots (c :: cs) = c :: foldDots cs := by
  rw [foldDots]
  exact fun _ _ hc => absurd hc h

/-- In front of what does not stand for dots nothing is folded. -/
theorem foldDots_append (h : isInert s = true) (cs : List Char) : foldDots (s ++ cs) = s ++ foldDots cs := by
  unfold isInert at h
  split at h
  · rename_i c
    exact foldDots_cons (by simpa using h) cs
  · rename_i x y
    simp only [Bool.and_eq_true, Bool.or_eq_true, bne_iff_ne] at h
    obtain ⟨⟨hx, hy⟩, hdot⟩ := h
    change foldDots ('%' :: x :: y :: cs) = '%' :: x :: y :: foldDots cs
    by_cases two : x = '2'
    · subst two
      have other : ¬(y = 'e' ∨ y = 'E') := by simpa using hdot
      rw [foldDots, if_neg other]
    · have step : foldDots ('%' :: x :: y :: cs) = '%' :: foldDots (x :: y :: cs) := by
        rw [foldDots]
        exact fun _ _ _ hx => absurd (List.cons.inj hx).1 two
      rw [step, foldDots_cons hx, foldDots_cons hy]
  · cases h

/-- In the spelling of a name no triplet stands for a dot. -/
theorem foldDots_spelled (n : List UInt8) : foldDots (spelled n) = spelled n := by
  rw [spelled_eq]
  induction n with
  | nil => rfl
  | cons b n ih => rw [List.flatMap_cons, foldDots_append (isInert_spelledByte b), ih]

/-! ## Segments taken up as they are -/

/-- A segment of plain characters that stands for no dots. -/
structure Stays (s : List Char) : Prop where
  plain : ∀ c ∈ s, isPlain c = true
  not_here : foldDots s ≠ ['.']
  not_parent : foldDots s ≠ ['.', '.']

/-- Plain characters become part of the first segment behind them. -/
theorem segments_append (k : SchemeKind) (hs : ∀ c ∈ s, isPlain c = true) (h : segments k cs = [] :: segs) :
    segments k (s ++ cs) = s :: segs := by
  induction s with
  | nil => exact h
  | cons c s ih =>
    obtain ⟨hc, hs⟩ := List.forall_mem_cons.mp hs
    rw [List.cons_append, segments, not_endsPath_of_isPlain hc, not_isSeparator_of_isPlain k hc, ih hs]
    rfl

/-- Segments behind slashes are the segments of the text they make up. -/
theorem segments_flatMap (k : SchemeKind) (h : ∀ s ∈ segs, Stays s) :
    segments k (segs.flatMap ('/' :: ·)) = [] :: segs := by
  induction segs with
  | nil => rfl
  | cons s segs ih =>
    obtain ⟨hs, hsegs⟩ := List.forall_mem_cons.mp h
    rw [List.flatMap_cons, List.cons_append, segments, segments_append k hs.plain (ih hsegs)]
    rfl

/-- Behind the first segment one is taken up as it is. -/
theorem Trail.add_of_stays (k : SchemeKind) {t : Trail} (ht : t.kept.isEmpty = false) (h : Stays s) (last : Bool) :
    t.add k s last = { t with kept := s :: t.kept } := by
  simp [Trail.add, ht, visible_of_isPlain h.plain, h.not_here, h.not_parent]

/-- Segments that stay are all kept behind one that is kept. -/
theorem Trail.addAll_of_stays (k : SchemeKind) {t : Trail} (ht : t.kept.isEmpty = false) (h : ∀ s ∈ segs, Stays s) :
    t.addAll k segs = { t with kept := segs.reverse ++ t.kept } := by
  induction segs generalizing t with
  | nil => rfl
  | cons s segs ih =>
    obtain ⟨hs, hsegs⟩ := List.forall_mem_cons.mp h
    rw [Trail.addAll, Trail.add_of_stays k ht hs, ih rfl hsegs]
    simp

/-- The empty segment before the first slash keeps a first segment from being read as the name of a drive. -/
theorem trail_flatMap (h : ∀ s ∈ segs, Stays s) :
    (trail .file (segs.flatMap ('/' :: ·))).kept.reverse = [] :: segs := by
  have first : ({} : Trail).add .file [] segs.isEmpty = ⟨[[]], false⟩ := rfl
  rw [trail, segments_flatMap _ h, Trail.addAll, first, Trail.addAll_of_stays _ rfl h]
  simp

/-! ## Entries of directories -/

/-- A piece that names an entry of a directory. -/
structure IsEntry (n : List UInt8) : Prop where
  not_idle : isIdle n = false
  not_parent : n ≠ [dot, dot]
  not_slash : slash ∉ n

/-- The name of an entry is a component by itself. -/
theorem IsEntry.laterComponent? (h : IsEntry n) : Path.laterComponent? n = some (.name n) := by
  have hi := h.not_idle
  rw [isIdle] at hi
  simp [Path.laterComponent?, hi, h.not_parent]

/-- The spelling of an entry stays as a segment. -/
theorem IsEntry.stays (h : IsEntry n) : Stays (spelled n) := by
  have other : ∀ {m : List UInt8} {cs : List Char}, Percent.decode (Text.encodeUtf8 cs) = m → n ≠ m →
      foldDots (spelled n) ≠ cs := by
    intro m cs hm hn hs
    rw [foldDots_spelled] at hs
    exact hn (by rw [← decode_spelled n, hs, hm])
  have idle := h.not_idle
  refine ⟨fun c => plain_spelled, other (m := [dot]) (by decide) ?_, other (m := [dot, dot]) (by decide) h.not_parent⟩
  rintro rfl
  cases idle

/-- The segments of a URI for the names behind the root. The root alone has one that is empty. -/
def segmentsOf (ns : List (List UInt8)) : List (List Char) := if ns.isEmpty then [[]] else ns.map spelled

/-- The path from the root has a separator in front of each name. -/
theorem bytes_fromRoot {ps : List (List UInt8)} (h : ps ≠ []) : (fromRoot ps).bytes = ps.flatMap (slash :: ·) := by
  induction ps with
  | nil => cases h rfl
  | cons p ps ih =>
    cases ps with
    | nil => simp [fromRoot, joinWith]
    | cons m ps =>
      rw [List.flatMap_cons, ← ih (by simp)]
      simp [fromRoot, joinWith, List.intercalate_cons_cons]

/-- The bytes that segments spell make the path, perhaps with a separator at the end. -/
theorem pathOf_eq {bytes : List UInt8}
    (h : segs.flatMap (fun s => slash :: Percent.decode (Text.encodeUtf8 s)) = bytes) :
    pathOf segs = ⟨bytes⟩ ∨ pathOf segs = ⟨bytes ++ [slash]⟩ := by
  unfold pathOf
  simp only [h]
  split
  · split
    · exact .inr rfl
    · exact .inl rfl
  · exact .inl rfl

/-- The path that the segments of names spell has their components. -/
theorem components_pathOf {ns : List (List UInt8)} (h : ∀ n ∈ ns, IsEntry n) (hne : ns ≠ []) :
    (pathOf (ns.map spelled)).components = .root :: ns.map .name := by
  have bytes : (ns.map spelled).flatMap (fun s => slash :: Percent.decode (Text.encodeUtf8 s)) = (fromRoot ns).bytes := by
    rw [List.flatMap_map, bytes_fromRoot hne]
    simp only [decode_spelled]
  have parted : ∀ n ∈ ns, slash ∉ n := fun n hn => (h n hn).not_slash
  have named : later ns = ns.map .name :=
    List.filterMap_eq_map_iff_forall_eq_some.mpr fun n hn => (h n hn).laterComponent?
  rcases pathOf_eq bytes with hp | hp
  · rw [hp]
    exact (components_fromRoot parted).trans (by rw [named])
  · -- The separator adds an empty piece.
    have closed : (fromRoot ns).bytes ++ [slash] = (fromRoot (ns ++ [[]])).bytes := by
      rw [bytes_fromRoot hne, bytes_fromRoot (by simp), List.flatMap_append]
      rfl
    rw [hp, closed]
    refine (components_fromRoot (List.forall_mem_append.mpr ⟨parted, by simp⟩)).trans ?_
    rw [later_append, named, later_cons_idle rfl, later_nil, List.append_nil]

/-- Every segment of a URI for entries stays. -/
theorem stays_of_mem_segmentsOf {ns : List (List UInt8)} (h : ∀ n ∈ ns, IsEntry n) (hs : s ∈ segmentsOf ns) :
    Stays s := by
  unfold segmentsOf at hs
  split at hs
  · obtain rfl := List.mem_singleton.mp hs
    exact ⟨by simp, by decide, by decide⟩
  · obtain ⟨n, hn, rfl⟩ := List.mem_map.mp hs
    exact (h n hn).stays

/-- What the segments of names spell behind the empty host is read as their path. -/
theorem hostPath?_segmentsOf {ns : List (List UInt8)} (h : ∀ n ∈ ns, IsEntry n) :
    ∃ q, hostPath? ((segmentsOf ns).flatMap ('/' :: ·)) = some q ∧ q.components = .root :: ns.map .name := by
  rcases ns with _ | ⟨n, ns⟩
  · exact ⟨⟨[slash]⟩, by decide, by decide⟩
  · have stay : ∀ s ∈ (n :: ns).map spelled, Stays s := fun s => stays_of_mem_segmentsOf h
    refine ⟨pathOf ((n :: ns).map spelled), ?_, components_pathOf h (by simp)⟩
    -- The reader drops the empty segment behind the host; the first name is not empty, and stays.
    have shown : spelled n ≠ [] := by
      intro hs
      have he := decode_spelled n
      rw [hs] at he
      exact absurd (h n (.head ns)).not_idle (by rw [← he]; decide)
    have rest : dropLeadingEmpty ([] :: (n :: ns).map spelled) = (n :: ns).map spelled := by
      cases hs : spelled n with
      | nil => exact absurd hs shown
      | cons c s => simp [hs, dropLeadingEmpty]
    have path : pathFrom .file (((n :: ns).map spelled).flatMap ('/' :: ·)) = pathOf ((n :: ns).map spelled) := by
      rw [pathFrom, trail_flatMap stay, if_pos rfl, rest]
    rw [segmentsOf, ← path]
    rfl

end FileUri

namespace Path

/-- The pieces of an absolute path behind its root that make a difference. -/
def entries (p : Path) : List (List UInt8) := (splitOn slash p.bytes.tail).filter fun piece => !isIdle piece

end Path

namespace DocumentUri

open FileUri

variable {p : Path}

/-- An absolute path that never turns back names an entry with each of its pieces that makes a difference. -/
theorem isEntry_of_mem_entries (h : p.isAbsolute = true) (hup : .parent ∉ p.components) {n : List UInt8}
    (hn : n ∈ p.entries) : IsEntry n := by
  obtain ⟨hm, hi⟩ := List.mem_filter.mp hn
  refine ⟨by simpa using hi, ?_, Path.not_mem_of_mem_splitOn hm⟩
  rintro rfl
  refine hup ?_
  rw [Path.components_of_isAbsolute h]
  exact .tail _ (List.mem_filterMap.mpr ⟨_, hm, rfl⟩)

/-- The components of such a path are its root and the entries that it names. -/
theorem components_eq_entries (h : p.isAbsolute = true) (hup : .parent ∉ p.components) :
    p.components = .root :: p.entries.map .name := by
  have named : p.entries.filterMap Path.laterComponent? = p.entries.map .name :=
    List.filterMap_eq_map_iff_forall_eq_some.mpr fun n hn => (isEntry_of_mem_entries h hup hn).laterComponent?
  rw [Path.components_of_isAbsolute h, ← named, Path.later, Path.entries, List.filterMap_filter]
  refine congrArg _ (List.filterMap_congr fun piece _ => ?_)
  cases hi : Path.isIdle piece
  · rfl
  · exact Path.laterComponent?_eq_none hi

/-- An absolute path has a segment for each of its pieces that makes a difference. -/
theorem segments_of_isAbsolute (h : p.isAbsolute = true) :
    p.components.filterMap segmentOf? = p.entries.map (Percent.encode isSpelled) := by
  rw [Path.components_of_isAbsolute h, List.filterMap_cons_none rfl, Path.later, List.filterMap_filterMap, Path.entries,
    ← List.filterMap_eq_map, List.filterMap_filter]
  refine List.filterMap_congr fun piece _ => ?_
  cases idle : Path.isIdle piece with
  | true => simp [Path.laterComponent?_eq_none idle]
  | false =>
    unfold Path.isIdle at idle
    unfold Path.laterComponent?
    by_cases up : piece = [Path.dot, Path.dot]
    · subst up
      rfl
    · simp [idle, up, segmentOf?]

/-- The URI with these segments. -/
theorem ofFilePath?_of_segments {ns : List (List UInt8)} (h : p.isAbsolute = true)
    (hs : p.components.filterMap segmentOf? = ns.map (Percent.encode isSpelled)) :
    ofFilePath? p = some ⟨String.ofList ("file://".toList ++ (segmentsOf ns).flatMap ('/' :: ·))⟩ := by
  have absolute : ¬(!p.isAbsolute) = true := by simp [h]
  rw [ofFilePath?, if_neg absolute, hs]
  cases ns with
  | nil => rfl
  | cons n ns =>
    simp only [segmentsOf, List.isEmpty_map, List.isEmpty_cons, Bool.false_eq_true, if_false, List.map_flatMap,
      List.flatMap_map]
    rfl

/-- The URI of such a path. -/
theorem ofFilePath?_eq (h : p.isAbsolute = true) (hup : .parent ∉ p.components) :
    ofFilePath? p = some ⟨String.ofList ("file://".toList ++ (segmentsOf p.entries).flatMap ('/' :: ·))⟩ := by
  refine ofFilePath?_of_segments h ?_
  rw [components_eq_entries h hup, List.filterMap_cons_none rfl, List.filterMap_map]
  exact congrFun List.filterMap_eq_map _

/-- What begins with `file://` is a URI of a file. -/
theorem isFile_file (cs : List Char) : (⟨String.ofList ("file://".toList ++ cs)⟩ : DocumentUri).isFile = true := by
  have colon : ':' ∈ "file://".toList ++ cs := List.mem_append_left _ (by decide)
  rw [isFile, scheme?, String.toList_ofList, if_pos colon]
  rfl

/-- The path of a URI of a file is what is behind its scheme and the two slashes. -/
theorem filePath?_file {cs : List Char} (h : ∀ c ∈ cs, isEdge c = false) :
    (⟨String.ofList ("file://".toList ++ cs)⟩ : DocumentUri).filePath? = hostPath? cs := by
  have front : ∀ c ∈ "file://".toList, isEdge c = false := by simp [isEdge]
  have edges : ∀ c ∈ "file://".toList ++ cs, isEdge c = false := List.forall_mem_append.mpr ⟨front, h⟩
  rw [filePath?, String.toList_ofList, trimmed_of_isEdge edges]
  rfl

/-- The URI of an absolute path that never turns back is read as a path with the same components. -/
theorem filePath?_of_ofFilePath? {u : DocumentUri} (h : p.isAbsolute = true) (hup : .parent ∉ p.components)
    (hu : ofFilePath? p = some u) : ∃ q, u.filePath? = some q ∧ q.components = p.components := by
  have entries : ∀ n ∈ p.entries, IsEntry n := fun n => isEntry_of_mem_entries h hup
  obtain rfl := Option.some.inj ((ofFilePath?_eq h hup).symm.trans hu)
  obtain ⟨q, hq, hc⟩ := hostPath?_segmentsOf entries
  refine ⟨q, ?_, hc.trans (components_eq_entries h hup).symm⟩
  rw [filePath?_file ?_, hq]
  intro c hc
  obtain ⟨s, hs, hc⟩ := List.mem_flatMap.mp hc
  rcases List.mem_cons.mp hc with rfl | hc
  · decide
  · exact isEdge_of_isPlain ((stays_of_mem_segmentsOf entries hs).plain c hc)

/-- The URI of an absolute path that never turns back is one of a file, and is read as a path with the same components,
so that no other path has it. -/
theorem ofFilePath?_recovers (h : p.isAbsolute = true) (hup : .parent ∉ p.components) :
    ∃ u, ofFilePath? p = some u ∧ u.isFile = true ∧ (∃ q, u.filePath? = some q ∧ q.components = p.components) ∧
      ∀ p' : Path, p'.isAbsolute = true → .parent ∉ p'.components → ofFilePath? p' = some u →
        p'.components = p.components := by
  have hu := ofFilePath?_eq h hup
  obtain ⟨q, hq, hc⟩ := filePath?_of_ofFilePath? h hup hu
  refine ⟨_, hu, isFile_file _, ⟨q, hq, hc⟩, fun p' h' hup' hu' => ?_⟩
  obtain ⟨q', hq', hc'⟩ := filePath?_of_ofFilePath? h' hup' hu'
  obtain rfl := Option.some.inj (hq.symm.trans hq')
  exact hc'.symm.trans hc

/-- A path that ends like a drive, with bytes that no text has and others that a URI gives a meaning to. -/
theorem ofFilePath?_recovers_spelled :
    let p : Path := ⟨Text.utf8Bytes "/C|/./%2e" ++ [0xFF, 0x0A] ++ Text.utf8Bytes "//a b[1]?#\\/z:"⟩
    p.isAbsolute = true ∧ .parent ∉ p.components ∧
      ∃ u, ofFilePath? p = some u ∧ u.isFile = true ∧ (∃ q, u.filePath? = some q ∧ q.components = p.components) ∧
        ∀ p' : Path, p'.isAbsolute = true → .parent ∉ p'.components → ofFilePath? p' = some u →
          p'.components = p.components := by
  intro p
  have absolute : p.isAbsolute = true := by decide +kernel
  have onward : .parent ∉ p.components := by decide +kernel
  exact ⟨absolute, onward, ofFilePath?_recovers absolute onward⟩

end DocumentUri

end ElixirLint
