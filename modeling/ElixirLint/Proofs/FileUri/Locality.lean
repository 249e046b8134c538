import ElixirLint.Linter
import ElixirLint.Proofs.Text.Pieces
import Mathlib.Data.List.Basic

/-!
# Which documents are files

A URI names a file of this host if its scheme is `file` and it names no other host. All of these have a path, but they
are not the only ones. Whether there is one is decided by what is behind the scheme, so a URI of another scheme has a
path, too, where its host is missing or the local one. And in front of the name of a drive, another host does not count.
With these (`ReadsElsewhere`) a document is taken for a file that it is not; without them, only local files are targets
(`paths_of_local_files`).

Main results: `FileUri.isSome_localPath?_iff`, `FileUri.isSome_pathAfterScheme?_iff`,
`DocumentUri.isSome_filePath?_iff`, `DocumentUri.paths_of_local_files`.
-/

namespace ElixirLint

namespace FileUri

open Text

variable {k : SchemeKind} {cs front behind authority host digits junk path raw rest : List Char} {scheme : String}
  {x c : Char} {user port : Option (List Char)}

/-! ## Schemes -/

/-- A text is a scheme and what stands behind its colon. Tabs and ends of lines in the scheme do not count, nor does the
case of its letters. -/
inductive HasScheme : List Char → String → List Char → Prop
  | intro {front rest : List Char} : (visible front).head?.any Char.isAlpha = true →
      (∀ c ∈ visible front, isSchemeChar c = true) →
      HasScheme (front ++ ':' :: rest) (String.ofList ((visible front).map Char.toLower)) rest

/-- What is visible are the characters of the text that are no breaks. -/
theorem mem_visible : c ∈ visible cs ↔ c ∈ cs ∧ isBreak c = false := by
  simp [visible]

/-- A scheme ends at the first character that is neither part of one nor a break. -/
theorem isCut_scheme (chars : ∀ c ∈ visible front, isSchemeChar c = true) (rest : List Char) :
    IsCut (fun c => isSchemeChar c || isBreak c) front (':' :: rest) := by
  constructor
  · intro c hc
    cases plain : isBreak c with
    | true => exact Bool.or_true _
    | false => rw [chars c (mem_visible.mpr ⟨hc, plain⟩)]; rfl
  · intro c hc
    cases hc
    decide

/-- Splitting a scheme off finds it exactly where there is one. -/
theorem splitScheme?_eq_some_iff : splitScheme? cs = some (scheme, rest) ↔ HasScheme cs scheme rest := by
  constructor
  · intro h
    obtain ⟨front, behind, rfl, cut⟩ := exists_isCut (fun c => isSchemeChar c || isBreak c) cs
    unfold splitScheme? at h
    simp only [cut.takeWhile_eq, cut.dropWhile_eq] at h
    split at h
    · split at h
      · rename_i letter
        cases h
        refine .intro letter ?_
        intro c hc
        obtain ⟨hc, plain⟩ := mem_visible.mp hc
        simpa [plain] using cut.inside c hc
      · cases h
    · cases h
  · intro h
    cases h with
    | intro letter chars =>
      have cut := isCut_scheme chars rest
      unfold splitScheme?
      simp only [cut.takeWhile_eq, cut.dropWhile_eq]
      rw [if_pos letter]

/-! ## Hosts of files -/

/-- Whether a character is part of an authority: neither a separator nor one that ends the path. -/
def SchemeKind.isInside (k : SchemeKind) (c : Char) : Bool := !k.isSeparator c && !endsPath c

/-- The text of a `file` URI behind its scheme begins with two separators and a host. Tabs and ends of lines among them
do not count. -/
inductive HasHost : List Char → List Char → List Char → Prop
  | intro {front between raw rest : List Char} {x y : Char} :
      (∀ c ∈ front, isBreak c = true) → SchemeKind.file.isSeparator x = true →
      (∀ c ∈ between, isBreak c = true) → SchemeKind.file.isSeparator y = true →
      IsCut SchemeKind.file.isInside raw rest →
      HasHost (front ++ x :: (between ++ y :: (raw ++ rest))) (visible raw) rest

/-- No other host is named: the host is empty or the local one. What looks like the name of a drive is none, but the
beginning of the path. -/
def IsHere (host : List Char) : Prop := host = [] ∨ isDrive host = true ∨ Host.isLocal host = true

/-- A host does not count: the path behind it begins with the name of a drive. -/
structure IsDropped (host rest : List Char) : Prop where
  host : Host.isHost host = true
  drive : ∃ c path, rest = c :: path ∧ SchemeKind.file.isSeparator c = true ∧ (trail .file path).hasDrive = true

/-- No separator is a break. -/
theorem not_isBreak_of_isSeparator (h : k.isSeparator c = true) : isBreak c = false := by
  simp only [SchemeKind.isSeparator, Bool.or_eq_true, Bool.and_eq_true, beq_iff_eq] at h
  rcases h with rfl | ⟨-, rfl⟩ <;> decide

/-- The next character is the first one that is no break. -/
theorem next?_eq_some_iff :
    next? cs = some (c, rest) ↔ ∃ front, cs = front ++ c :: rest ∧ IsCut isBreak front (c :: rest) := by
  constructor
  · intro h
    obtain ⟨front, behind, rfl, cut⟩ := exists_isCut isBreak cs
    unfold next? at h
    rw [cut.dropWhile_eq] at h
    cases behind with
    | nil => cases h
    | cons c rest =>
      cases h
      exact ⟨front, rfl, cut⟩
  · rintro ⟨front, rfl, cut⟩
    unfold next?
    rw [cut.dropWhile_eq]

/-- A separator is found behind any breaks. -/
theorem next?_separator (breaks : ∀ c ∈ front, isBreak c = true) (h : k.isSeparator c = true) (rest : List Char) :
    next? (front ++ c :: rest) = some (c, rest) := by
  refine next?_eq_some_iff.mpr ⟨front, rfl, breaks, ?_⟩
  intro d hd
  cases hd
  exact not_isBreak_of_isSeparator h

theorem trail_of_endsPath (h : endsPath c = true) (cs : List Char) : trail k (c :: cs) = trail k [] := by
  rw [trail, segments, if_pos h]
  rfl

/-- The drive is behind a separator, since what ends a path has none behind it. -/
theorem isDropped_cons_iff (edge : SchemeKind.file.isInside c = false) :
    IsDropped host (c :: path) ↔ Host.isHost host = true ∧
      (trail .file (if SchemeKind.file.isSeparator c then path else c :: path)).hasDrive = true := by
  by_cases sep : SchemeKind.file.isSeparator c = true
  · rw [if_pos sep]
    constructor
    · rintro ⟨isHost, d, path', same, -, drive⟩
      cases same
      exact ⟨isHost, drive⟩
    · rintro ⟨isHost, drive⟩
      exact ⟨isHost, c, path, rfl, sep, drive⟩
  · have ends : endsPath c = true := by simpa [SchemeKind.isInside, sep] using edge
    rw [if_neg sep, trail_of_endsPath ends]
    constructor
    · rintro ⟨-, d, path', same, sep', -⟩
      cases same
      exact absurd sep' sep
    · rintro ⟨-, drive⟩
      cases drive

/-- Behind two separators a `file` URI has a path if its host is this one, or is dropped. -/
theorem isSome_hostPath?_iff (cut : IsCut SchemeKind.file.isInside raw rest) :
    (hostPath? (raw ++ rest)).isSome = true ↔ IsHere (visible raw) ∨ IsDropped (visible raw) rest := by
  have front : (raw ++ rest).takeWhile (fun c => !SchemeKind.file.isSeparator c && !endsPath c) = raw :=
    cut.takeWhile_eq
  have behind : (raw ++ rest).dropWhile (fun c => !SchemeKind.file.isSeparator c && !endsPath c) = rest :=
    cut.dropWhile_eq
  unfold hostPath?
  simp only [front, behind, Bool.or_eq_true, List.isEmpty_iff]
  split
  · rename_i drive
    exact iff_of_true rfl (.inl (.inr (.inl drive)))
  rename_i drive
  split
  · rename_i here
    rcases here with none | loc
    · exact iff_of_true rfl (.inl (.inl none))
    · exact iff_of_true rfl (.inl (.inr (.inr loc)))
  rename_i other
  have elsewhere : ¬IsHere (visible raw) := by
    rintro (none | isDrive | loc)
    · exact other (.inl none)
    · exact drive isDrive
    · exact other (.inr loc)
  rw [or_iff_right elsewhere]
  cases rest with
  | nil =>
    have no : (trail .file []).hasDrive = false := rfl
    rw [no, Bool.and_false, if_neg Bool.false_ne_true]
    refine iff_of_false Bool.false_ne_true ?_
    intro dropped
    obtain ⟨c, path, same, -⟩ := dropped.drive
    cases same
  | cons c path =>
    rw [isDropped_cons_iff (cut.edge c rfl), ← Bool.and_eq_true]
    dsimp only
    split <;> simp [*]

/-- Where the text behind the scheme has a host, there is a path if that host is this one, or is dropped. -/
theorem isSome_localPath?_of_hasHost (h : HasHost cs host rest) :
    (localPath? cs).isSome = true ↔ IsHere host ∨ IsDropped host rest := by
  cases h with
  | intro front hx between hy cut =>
    rw [← isSome_hostPath?_iff cut, localPath?, next?_separator front hx]
    simp only [hx, Bool.not_true, Bool.false_eq_true, if_false, next?_separator between hy, hy, if_true]

/-- Where it has no host, there always is a path. -/
theorem isSome_localPath?_of_not_hasHost (h : ∀ host rest, ¬HasHost cs host rest) :
    (localPath? cs).isSome = true := by
  unfold localPath?
  split
  · rfl
  rename_i first
  split
  · rfl
  rename_i x behind hx
  split
  · rename_i second
    split
    · rename_i y behind hy
      obtain ⟨front, rfl, breaks⟩ := next?_eq_some_iff.mp first
      obtain ⟨between, rfl, breaks'⟩ := next?_eq_some_iff.mp second
      obtain ⟨raw, rest, rfl, cut⟩ := exists_isCut SchemeKind.file.isInside behind
      exact absurd (.intro breaks.inside (by simpa using hx) breaks'.inside hy cut) (h _ _)
    · rfl
  · rfl

/-- A `file` URI has a path if it names no other host, or one that is dropped. -/
theorem isSome_localPath?_iff :
    (localPath? cs).isSome = true ↔ (∀ host rest, HasHost cs host rest → IsHere host) ∨
      ∃ host rest, HasHost cs host rest ∧ ¬IsHere host ∧ IsDropped host rest := by
  by_cases other : ∃ host rest, HasHost cs host rest ∧ ¬IsHere host
  · constructor
    · intro some
      obtain ⟨host, rest, named, elsewhere⟩ := other
      rcases (isSome_localPath?_of_hasHost named).mp some with here | dropped
      · exact absurd here elsewhere
      · exact .inr ⟨host, rest, named, elsewhere, dropped⟩
    · rintro (here | ⟨host, rest, named, -, dropped⟩)
      · obtain ⟨host, rest, named, elsewhere⟩ := other
        exact absurd (here host rest named) elsewhere
      · exact (isSome_localPath?_of_hasHost named).mpr (.inr dropped)
  · have here : ∀ host rest, HasHost cs host rest → IsHere host := by
      intro host rest named
      by_contra elsewhere
      exact other ⟨host, rest, named, elsewhere⟩
    refine iff_of_true ?_ (.inl here)
    by_cases named : ∃ host rest, HasHost cs host rest
    · obtain ⟨host, rest, named⟩ := named
      exact (isSome_localPath?_of_hasHost named).mpr (.inl (here host rest named))
    · exact isSome_localPath?_of_not_hasHost fun host rest h => named ⟨host, rest, h⟩

/-! ## Authorities -/

/-- What a user is written as in front of a host. -/
def userText : Option (List Char) → List Char
  | none => []
  | some user => user ++ ['@']

/-- What a port is written as behind a host. -/
def portText : Option (List Char) → List Char
  | none => []
  | some port => ':' :: port

/-- The parts of an authority: the host stands behind the last sign of a user, and before the first colon from there. -/
structure HasParts (authority : List Char) (user : Option (List Char)) (host : List Char)
    (port : Option (List Char)) : Prop where
  whole : authority = userText user ++ (host ++ portText port)
  place : '@' ∉ host ++ portText port
  name : ':' ∉ host

/-- The number that decimal digits spell. -/
def decimal (digits : List Char) : Nat := digits.foldl (fun n d => n * 10 + (d.toNat - 48)) 0

/-- A decimal number of 16 bits. -/
structure IsNumber (text : List Char) : Prop where
  digits : ∀ d ∈ text, d.isDigit = true
  bound : decimal text ≤ 65535

theorem splitLast_of_not_mem (h : x ∉ cs) : splitLast x cs = none := by
  have cut : IsCut (fun c => decide (c ≠ x)) cs.reverse [] := isCut_of_not_mem (mt List.mem_reverse.mp h) (by simp)
  have whole : cs.reverse.takeWhile (fun c => decide (c ≠ x)) = cs.reverse := by
    simpa only [List.append_nil] using cut.takeWhile_eq
  unfold splitLast
  simp only [whole, List.reverse_reverse, if_true]

/-- A text is split at the last occurrence of the character. -/
theorem splitLast_append (h : x ∉ behind) : splitLast x (front ++ x :: behind) = some (front, behind) := by
  have cut : IsCut (fun c => decide (c ≠ x)) behind.reverse (x :: front.reverse) :=
    isCut_of_not_mem (mt List.mem_reverse.mp h) (by simp)
  have reversed : (front ++ x :: behind).reverse = behind.reverse ++ x :: front.reverse := by simp
  have shorter : behind.length ≠ (front ++ x :: behind).length := by
    rw [List.length_append, List.length_cons]
    omega
  have length : (front ++ x :: behind).length - behind.length - 1 = front.length := by
    rw [List.length_append, List.length_cons]
    omega
  unfold splitLast
  simp only [reversed, cut.takeWhile_eq, List.reverse_reverse, if_neg shorter, length, List.take_left]

/-- Every authority has parts. -/
theorem exists_hasParts (authority : List Char) : ∃ user host port, HasParts authority user host port := by
  have place : ∃ user place, authority = userText user ++ place ∧ '@' ∉ place := by
    by_cases sign : '@' ∈ authority
    · obtain ⟨user, place, rfl, last⟩ := exists_last_of_mem sign
      exact ⟨some user, place, by simp [userText], last⟩
    · exact ⟨none, authority, rfl, sign⟩
  obtain ⟨user, place, rfl, sign⟩ := place
  obtain ⟨host, behind, rfl, cut⟩ := exists_isCut (fun c => decide (c ≠ ':')) place
  have name : ':' ∉ host := fun h => of_decide_eq_true (cut.inside _ h) rfl
  cases behind with
  | nil => exact ⟨user, host, none, rfl, sign, name⟩
  | cons c port =>
    have colon : c = ':' := by simpa using cut.edge c rfl
    subst colon
    exact ⟨user, host, some port, rfl, sign, name⟩

/-- The user is what stands before the last sign of one. -/
theorem splitLast_of_hasParts (h : HasParts authority user host port) :
    splitLast '@' authority = user.map fun user => (user, host ++ portText port) := by
  rw [h.whole]
  cases user with
  | none => exact splitLast_of_not_mem h.place
  | some user =>
    rw [userText, List.append_assoc, List.singleton_append]
    exact splitLast_append h.place

/-- A host ends at the colon of its port, or where the authority ends. -/
theorem isCut_port (h : ':' ∉ host) (port : Option (List Char)) :
    IsCut (fun c => decide (c ≠ ':')) host (portText port) := by
  refine isCut_of_not_mem h ?_
  intro c hc
  cases port with
  | none => cases hc
  | some port =>
    cases hc
    rfl

/-- Behind the digits of a port of 16 bits there is nothing, except that a backslash is passed over where the scheme is
none of those known. -/
theorem afterPort?_of_isCut (cut : IsCut Char.isDigit digits rest) :
    afterPort? k (portText (some (digits ++ rest))) =
      if 65535 < decimal digits then none
      else match rest with
        | [] => some []
        | c :: _ => if k = .other ∧ c = '\\' then some rest else none := by
  unfold afterPort?
  simp only [portText, cut.takeWhile_eq, List.drop_left]
  rfl

/-- What is left behind a port: nothing if there is none or it is a number, and for an unknown scheme also what begins
with a backslash. -/
theorem afterPort?_eq_some_iff : afterPort? k (portText port) = some rest ↔
    (port = none ∧ rest = []) ∨ ∃ digits, port = some (digits ++ rest) ∧ IsNumber digits ∧
      (rest = [] ∨ k = .other ∧ rest.head? = some '\\') := by
  cases port with
  | none => simp [portText, afterPort?, eq_comm]
  | some port =>
    constructor
    · intro h
      obtain ⟨digits, behind, rfl, cut⟩ := exists_isCut Char.isDigit port
      rw [afterPort?_of_isCut cut] at h
      split at h
      · cases h
      rename_i bound
      have number : IsNumber digits := ⟨cut.inside, Nat.not_lt.mp bound⟩
      split at h
      · cases h
        exact .inr ⟨digits, rfl, number, .inl rfl⟩
      split at h
      · rename_i slip
        cases h
        exact .inr ⟨digits, rfl, number, .inr ⟨slip.1, congrArg some slip.2⟩⟩
      · cases h
    · rintro (⟨no, -⟩ | ⟨digits, same, number, tail⟩)
      · cases no
      cases same
      have bound := Nat.not_lt.mpr number.bound
      cases rest with
      | nil =>
        have cut : IsCut Char.isDigit digits [] := ⟨number.digits, by simp⟩
        rw [afterPort?_of_isCut cut, if_neg bound]
      | cons c rest =>
        obtain none | ⟨other, slip⟩ := tail
        · cases none
        cases slip
        have cut : IsCut Char.isDigit digits ('\\' :: rest) := by
          refine ⟨number.digits, ?_⟩
          intro c hc
          cases hc
          decide
        rw [afterPort?_of_isCut cut, if_neg bound]
        exact if_pos ⟨other, rfl⟩

/-- The host, the user before it and the port are such that a path may follow: the host is the local one, or missing. -/
def Accepts (k : SchemeKind) (user : Option (List Char)) (host : List Char) (port : Option (List Char)) : Prop :=
  if host = [] then k = .other ∧ port = none ∧ (user = none ∨ user = some [':'])
  else if k = .other then host = Host.localName
  else Host.isLocal host = true

/-- The path behind an authority that is accepted, and behind what follows the number of its port. -/
def pathBehind? (k : SchemeKind) (rest : List Char) : List Char → Option Path
  | c :: cs => some (pathFrom k (c :: cs ++ rest))
  | [] =>
    match rest with
    | c :: cs => if k.isSeparator c then some (pathFrom k cs) else if k = .other then none else some (pathFrom k rest)
    | [] => if k = .other then none else some (pathFrom k [])

/-- There is a path behind an authority unless the scheme is unknown and no slash follows. -/
theorem isSome_pathBehind?_iff :
    (pathBehind? k rest behind).isSome = true ↔ (behind = [] → k = .other → ∃ path, rest = '/' :: path) := by
  cases behind with
  | cons c cs => exact iff_of_true rfl fun h => by cases h
  | nil =>
    cases rest with
    | nil => by_cases other : k = .other <;> simp [pathBehind?, other]
    | cons c path => by_cases other : k = .other <;> by_cases slash : c = '/' <;>
        simp [pathBehind?, other, slash, SchemeKind.isSeparator, apply_ite Option.isSome]

/-- What is refused unless a condition holds is there if the condition holds and it is there. -/
theorem isSome_guard_iff {p q : Prop} [Decidable p] {o : Option Path} (h : p ↔ q) :
    (if (!decide p) = true then none else o).isSome = true ↔ q ∧ o.isSome = true := by
  rw [← h]
  by_cases hp : p <;> simp [hp]

/-- An authority is followed by a path if its parts are accepted and its port ends where a path may begin. -/
theorem isSome_authorityPath?_iff (cut : IsCut k.isInside authority rest)
    (parts : HasParts authority user host port) :
    (authorityPath? k (authority ++ rest)).isSome = true ↔ Accepts k user host port ∧
      ∃ behind, afterPort? k (portText port) = some behind ∧
        (behind = [] → k = .other → ∃ path, rest = '/' :: path) := by
  have front : (authority ++ rest).takeWhile (fun c => !k.isSeparator c && !endsPath c) = authority :=
    cut.takeWhile_eq
  have path : (authority ++ rest).dropWhile (fun c => !k.isSeparator c && !endsPath c) = rest :=
    cut.dropWhile_eq
  have name := isCut_port parts.name port
  have empty : portText port = [] ↔ port = none := by cases port <;> simp [portText]
  have behind : (∃ behind, afterPort? k (portText port) = some behind ∧
      (behind = [] → k = .other → ∃ path, rest = '/' :: path)) ↔
      ((afterPort? k (portText port)).bind (pathBehind? k rest)).isSome = true := by
    simp only [← isSome_pathBehind?_iff]
    cases afterPort? k (portText port) <;> simp
  have whole := parts.whole
  rw [behind]
  unfold authorityPath?
  simp only [front, path, splitLast_of_hasParts parts]
  -- Without a user, the place is the whole authority.
  cases user <;>
    simp only [Option.map_none, Option.map_some, whole, userText, List.nil_append, name.takeWhile_eq,
      name.dropWhile_eq]
  all_goals
    refine (isSome_guard_iff ?_).trans (and_congr_right fun _ => ?_)
    · simp only [Accepts, List.isEmpty_iff, empty]
    · cases afterPort? k (portText port) with
      | none => rfl
      | some behind => cases behind <;> rfl

/-! ## What is no local file -/

/-- The text behind a scheme leads to a path although it is not that of a file of this host. -/
inductive ReadsElsewhere : SchemeKind → List Char → Prop
  /-- Another host in front of a drive is dropped. -/
  | dropped {cs host rest : List Char} : HasHost cs host rest → ¬IsHere host → IsDropped host rest →
      ReadsElsewhere .file cs
  /-- The local host of a scheme of the web. -/
  | web {cs slashes authority host rest : List Char} {user port : Option (List Char)} :
      visible cs = slashes ++ (authority ++ rest) → (∀ c ∈ slashes, SchemeKind.web.isSeparator c = true) →
      IsCut SchemeKind.web.isInside authority rest → HasParts authority user host port →
      Host.isLocal host = true → (∀ number ∈ port, IsNumber number) → ReadsElsewhere .web cs
  /-- A path from the root. -/
  | rooted {cs path : List Char} : visible cs = '/' :: path → path.head? ≠ some '/' → ReadsElsewhere .other cs
  /-- A path behind no host. -/
  | hostless {cs authority path : List Char} : visible cs = '/' :: '/' :: (authority ++ '/' :: path) →
      authority = [] ∨ authority = [':', '@'] → ReadsElsewhere .other cs
  /-- A path behind the local host. -/
  | named {cs authority path : List Char} {user port : Option (List Char)} :
      visible cs = '/' :: '/' :: (authority ++ '/' :: path) →
      IsCut SchemeKind.other.isInside authority ('/' :: path) → HasParts authority user Host.localName port →
      (∀ number ∈ port, IsNumber number) → ReadsElsewhere .other cs
  /-- A path from a backslash behind the port of the local host. -/
  | slipped {cs authority digits junk rest : List Char} {user : Option (List Char)} :
      visible cs = '/' :: '/' :: (authority ++ rest) → IsCut SchemeKind.other.isInside authority rest →
      HasParts authority user Host.localName (some (digits ++ '\\' :: junk)) → IsNumber digits →
      ReadsElsewhere .other cs

/-- The port ends where a path may begin: it is missing or a number in front of a path, or a number with a backslash
behind it. -/
theorem exists_afterPort?_iff :
    (∃ behind, afterPort? k (portText port) = some behind ∧
      (behind = [] → k = .other → ∃ path, rest = '/' :: path)) ↔
    ((∀ number ∈ port, IsNumber number) ∧ (k = .other → ∃ path, rest = '/' :: path)) ∨
      ∃ digits junk, k = .other ∧ port = some (digits ++ '\\' :: junk) ∧ IsNumber digits := by
  simp only [afterPort?_eq_some_iff]
  constructor
  · rintro ⟨behind, ⟨rfl, rfl⟩ | ⟨digits, rfl, number, rfl | ⟨other, slip⟩⟩, path⟩
    · exact .inl ⟨by simp, path rfl⟩
    · refine .inl ⟨?_, path rfl⟩
      intro number hn
      cases hn
      rwa [List.append_nil]
    · cases behind with
      | nil => cases slip
      | cons c junk =>
        cases slip
        exact .inr ⟨digits, junk, other, rfl, number⟩
  · rintro (⟨number, path⟩ | ⟨digits, junk, other, rfl, number⟩)
    · refine ⟨[], ?_, fun _ => path⟩
      cases port with
      | none => exact .inl ⟨rfl, rfl⟩
      | some digits => exact .inr ⟨digits, by rw [List.append_nil], number digits rfl, .inl rfl⟩
    · exact ⟨'\\' :: junk, .inr ⟨digits, rfl, number, .inr ⟨other, rfl⟩⟩, fun h => by cases h⟩

theorem isLocal_nil : Host.isLocal [] = false := by decide +kernel

/-- A URI of the web may only name the local host. -/
theorem accepts_web_iff : Accepts .web user host port ↔ Host.isLocal host = true := by
  by_cases none : host = []
  · simp [Accepts, none, isLocal_nil]
  · simp [Accepts, none]

/-- Under an unknown scheme the host may be missing, without a port and with no more than an empty user, or it is the
local name. -/
theorem accepts_other_iff : Accepts .other user host port ↔
    (host = [] ∧ port = none ∧ (user = none ∨ user = some [':'])) ∨ host = Host.localName := by
  by_cases none : host = []
  · simp [Accepts, none, Host.localName]
  · simp [Accepts, none]

theorem not_isSeparator_of_isInside (h : k.isInside c = true) : k.isSeparator c = false := by
  rw [SchemeKind.isInside, Bool.and_eq_true] at h
  simpa using h.1

theorem hasParts_hostless (h : authority = [] ∨ authority = [':', '@']) :
    ∃ user, HasParts authority user [] none ∧ (user = none ∨ user = some [':']) := by
  rcases h with rfl | rfl
  · exact ⟨none, ⟨rfl, by decide, by decide⟩, .inl rfl⟩
  · exact ⟨some [':'], ⟨rfl, by decide, by decide⟩, .inr rfl⟩

/-- A URI of the web with such an authority has a path exactly if the host is the local one and the port, if there is
one, is a number. -/
theorem isSome_web_authority_iff {slashes : List Char} (text : visible cs = slashes ++ (authority ++ rest))
    (slash : IsCut SchemeKind.web.isSeparator slashes (authority ++ rest))
    (cut : IsCut SchemeKind.web.isInside authority rest) (parts : HasParts authority user host port) :
    (pathAfterScheme? .web cs).isSome = true ↔ Host.isLocal host = true ∧ ∀ number ∈ port, IsNumber number := by
  rw [pathAfterScheme?, text, slash.dropWhile_eq, isSome_authorityPath?_iff cut parts, accepts_web_iff,
    exists_afterPort?_iff]
  simp

/-- The URIs of the web with a path are those that are read elsewhere. -/
theorem isSome_web_iff : (pathAfterScheme? .web cs).isSome = true ↔ ReadsElsewhere .web cs := by
  constructor
  · intro some
    obtain ⟨slashes, behind, text, slash⟩ := exists_isCut SchemeKind.web.isSeparator (visible cs)
    obtain ⟨authority, rest, rfl, cut⟩ := exists_isCut SchemeKind.web.isInside behind
    obtain ⟨user, host, port, parts⟩ := exists_hasParts authority
    obtain ⟨loc, number⟩ := (isSome_web_authority_iff text slash cut parts).mp some
    exact .web text slash.inside cut parts loc number
  · intro elsewhere
    cases elsewhere with
    | @web _ slashes authority host rest _ _ text separators cut parts loc number =>
      have slash : IsCut SchemeKind.web.isSeparator slashes (authority ++ rest) := by
        refine ⟨separators, ?_⟩
        intro c hc
        cases authority with
        | nil =>
          have none : host = [] := (List.append_eq_nil_iff.mp (List.append_eq_nil_iff.mp parts.whole.symm).2).1
          rw [none, isLocal_nil] at loc
          cases loc
        | cons d authority =>
          have plain := not_isSeparator_of_isInside (cut.inside d (.head _))
          cases hc
          exact plain
      exact (isSome_web_authority_iff text slash cut parts).mpr ⟨loc, number⟩

/-- A URI of an unknown scheme with such an authority has a path exactly if the host is missing or local and its port
ends where a path may begin. -/
theorem isSome_other_authority_iff (text : visible cs = '/' :: '/' :: (authority ++ rest))
    (cut : IsCut SchemeKind.other.isInside authority rest) (parts : HasParts authority user host port) :
    (pathAfterScheme? .other cs).isSome = true ↔
      ((host = [] ∧ port = none ∧ (user = none ∨ user = some [':'])) ∨ host = Host.localName) ∧
      (((∀ number ∈ port, IsNumber number) ∧ ∃ path, rest = '/' :: path) ∨
        ∃ digits junk, port = some (digits ++ '\\' :: junk) ∧ IsNumber digits) := by
  have reads : pathAfterScheme? .other cs = authorityPath? .other (authority ++ rest) := by
    unfold pathAfterScheme?
    simp only [text]
  rw [reads, isSome_authorityPath?_iff cut parts, accepts_other_iff, exists_afterPort?_iff]
  simp

/-- The text behind a scheme that is no known one has a path only if it has an authority or begins at the root. -/
theorem slashes_of_isSome_other (h : (pathAfterScheme? .other cs).isSome = true) :
    (∃ behind, visible cs = '/' :: '/' :: behind) ∨
      ∃ path, visible cs = '/' :: path ∧ path.head? ≠ some '/' := by
  unfold pathAfterScheme? at h
  simp only at h
  split at h
  · rename_i behind text
    exact .inl ⟨behind, text⟩
  · rename_i path single text
    refine .inr ⟨path, text, ?_⟩
    intro h
    obtain ⟨rest, rfl⟩ := List.head?_eq_some_iff.mp h
    exact single rest rfl
  · cases h

/-- Under an unknown scheme, one slash is the beginning of a path. -/
theorem isSome_rooted (text : visible cs = '/' :: path) (single : path.head? ≠ some '/') :
    (pathAfterScheme? .other cs).isSome = true := by
  unfold pathAfterScheme?
  simp only [text]
  split
  · rename_i rest same
    cases same
    exact absurd rfl single
  · rfl
  · rename_i other
    exact absurd rfl (other path)

/-- The URIs of unknown schemes with a path are those that are read elsewhere. -/
theorem isSome_other_iff : (pathAfterScheme? .other cs).isSome = true ↔ ReadsElsewhere .other cs := by
  constructor
  · intro some
    obtain ⟨behind, text⟩ | ⟨path, text, single⟩ := slashes_of_isSome_other some
    · obtain ⟨authority, rest, rfl, cut⟩ := exists_isCut SchemeKind.other.isInside behind
      obtain ⟨user, host, port, parts⟩ := exists_hasParts authority
      obtain ⟨⟨rfl, rfl, hu⟩ | rfl, ⟨number, path, rfl⟩ | ⟨digits, junk, hp, number⟩⟩ :=
        (isSome_other_authority_iff text cut parts).mp some
      · refine .hostless text ?_
        rw [parts.whole]
        rcases hu with rfl | rfl
        · exact .inl rfl
        · exact .inr rfl
      · cases hp
      · exact .named text cut parts number
      · subst hp
        exact .slipped text cut parts number
    · exact .rooted text single
  · intro elsewhere
    cases elsewhere with
    | rooted text single => exact isSome_rooted text single
    | @hostless _ authority path text empty =>
      obtain ⟨user, parts, hu⟩ := hasParts_hostless empty
      have cut : IsCut SchemeKind.other.isInside authority ('/' :: path) := by
        rcases empty with rfl | rfl
        · exact isCut_iff.mpr rfl
        · exact isCut_iff.mpr rfl
      exact (isSome_other_authority_iff text cut parts).mpr
        ⟨.inl ⟨rfl, rfl, hu⟩, .inl ⟨by simp, path, rfl⟩⟩
    | named text cut parts number =>
      exact (isSome_other_authority_iff text cut parts).mpr ⟨.inr rfl, .inl ⟨number, _, rfl⟩⟩
    | slipped text cut parts number =>
      exact (isSome_other_authority_iff text cut parts).mpr ⟨.inr rfl, .inr ⟨_, _, rfl, number⟩⟩

theorem ofScheme_eq_file_iff : SchemeKind.ofScheme scheme = .file ↔ scheme = "file" := by
  unfold SchemeKind.ofScheme
  split
  · rename_i same
    exact iff_of_true rfl same
  · rename_i other
    refine iff_of_false ?_ other
    split <;> decide

/-- The paths of schemes other than that of files are all those of no local file. -/
theorem isSome_pathAfterScheme?_iff : (pathAfterScheme? k cs).isSome = true ↔
    (k = .file ∧ ∀ host rest, HasHost cs host rest → IsHere host) ∨ ReadsElsewhere k cs := by
  cases k with
  | file =>
    have dropped : ReadsElsewhere .file cs ↔
        ∃ host rest, HasHost cs host rest ∧ ¬IsHere host ∧ IsDropped host rest := by
      constructor
      · intro elsewhere
        cases elsewhere with
        | dropped named other dropped => exact ⟨_, _, named, other, dropped⟩
      · rintro ⟨host, rest, named, other, dropped⟩
        exact .dropped named other dropped
    rw [pathAfterScheme?, isSome_localPath?_iff, dropped]
    simp
  | web =>
    rw [isSome_web_iff]
    simp
  | other =>
    rw [isSome_other_iff]
    simp

end FileUri

namespace DocumentUri

open FileUri

variable {u : DocumentUri} {scheme : String} {cs : List Char}

/-- A URI names a file of this host: its scheme is `file`, and it names no other host. -/
def IsLocalFile (u : DocumentUri) : Prop :=
  ∃ cs, HasScheme (trimmed u.text.toList) "file" cs ∧ ∀ host rest, HasHost cs host rest → IsHere host

/-- A URI has a path, and a document with it is a target, only if it names a file of this host. -/
structure OnlyLocal (u : DocumentUri) : Prop where
  path : ∀ p, u.filePath? = some p → IsLocalFile u
  target : ∀ t d workspace, d.uri = u → ¬IsLocalFile u → LintTarget.ofDocument t d workspace = .error .notAFile

/-- The text behind the scheme of a URI leads to a path although the URI names no file of this host. -/
def ReadsElsewhere (u : DocumentUri) : Prop :=
  ∃ scheme cs, HasScheme (trimmed u.text.toList) scheme cs ∧ FileUri.ReadsElsewhere (.ofScheme scheme) cs

/-- The path of a URI is that of what stands behind its scheme. -/
theorem filePath?_of_hasScheme (h : HasScheme (trimmed u.text.toList) scheme cs) :
    u.filePath? = pathAfterScheme? (.ofScheme scheme) cs := by
  rw [filePath?, splitScheme?_eq_some_iff.mpr h]

/-- A URI with a path has a scheme. -/
theorem exists_hasScheme (h : u.filePath?.isSome = true) :
    ∃ scheme cs, HasScheme (trimmed u.text.toList) scheme cs := by
  unfold filePath? at h
  split at h
  · cases h
  · rename_i scheme cs parts
    exact ⟨scheme, cs, splitScheme?_eq_some_iff.mp parts⟩

/-- A URI has a path exactly if it names a file of this host or is read as if it did. -/
theorem isSome_filePath?_iff : u.filePath?.isSome = true ↔ IsLocalFile u ∨ ReadsElsewhere u := by
  constructor
  · intro some
    obtain ⟨scheme, cs, named⟩ := exists_hasScheme some
    rw [filePath?_of_hasScheme named, isSome_pathAfterScheme?_iff] at some
    rcases some with ⟨file, here⟩ | elsewhere
    · rw [ofScheme_eq_file_iff.mp file] at named
      exact .inl ⟨cs, named, here⟩
    · exact .inr ⟨scheme, cs, named, elsewhere⟩
  · rintro (⟨cs, named, here⟩ | ⟨scheme, cs, named, elsewhere⟩)
    · rw [filePath?_of_hasScheme named, isSome_pathAfterScheme?_iff]
      exact .inl ⟨rfl, here⟩
    · rw [filePath?_of_hasScheme named, isSome_pathAfterScheme?_iff]
      exact .inr elsewhere

/-- What is read as if it named a file of this host does not. -/
theorem ReadsElsewhere.not_isLocalFile (h : ReadsElsewhere u) : ¬IsLocalFile u := by
  rintro ⟨cs, named, here⟩
  obtain ⟨scheme, cs', named', elsewhere⟩ := h
  have same := splitScheme?_eq_some_iff.mpr named
  rw [splitScheme?_eq_some_iff.mpr named'] at same
  cases same
  cases elsewhere with
  | dropped named other => exact other (here _ _ named)

/-- All local files have a path. Nothing else has one, and only they are targets, exactly if the URI is not read as if it
named one: where another host in front of a drive is dropped, and where another scheme has no host or the local one. -/
theorem paths_of_local_files (u : DocumentUri) :
    (IsLocalFile u → ∃ p, u.filePath? = some p) ∧ (OnlyLocal u ↔ ¬ReadsElsewhere u) := by
  refine ⟨fun here => Option.isSome_iff_exists.mp (isSome_filePath?_iff.mpr (.inl here)), ?_⟩
  constructor
  · intro only elsewhere
    obtain ⟨p, hp⟩ := Option.isSome_iff_exists.mp (isSome_filePath?_iff.mpr (.inr elsewhere))
    exact elsewhere.not_isLocalFile (only.path p hp)
  · intro none
    have path : ∀ p, u.filePath? = some p → IsLocalFile u := by
      intro p hp
      rcases isSome_filePath?_iff.mp (Option.isSome_of_eq_some hp) with here | elsewhere
      · exact here
      · exact absurd elsewhere none
    refine ⟨path, ?_⟩
    intro t d workspace same remote
    rw [LintTarget.ofDocument, same]
    cases hp : u.filePath? with
    | none => rfl
    | some p => exact absurd (path p hp) remote

/-- A file of another host. -/
def remote : DocumentUri := ⟨"file://build-server/srv/app/lib/a.ex"⟩

/-- A file of another host, on a drive. -/
def remoteDrive : DocumentUri := ⟨"file://build-server/C:/a.ex"⟩

/-- A drive on another host is read as one of this host. -/
theorem readsElsewhere_remoteDrive : ReadsElsewhere remoteDrive := by
  have host : HasHost "//build-server/C:/a.ex".toList "build-server".toList "/C:/a.ex".toList :=
    @HasHost.intro [] [] "build-server".toList "/C:/a.ex".toList '/' '/' nofun (by decide) nofun (by decide)
      (by decide +kernel)
  have dropped : IsDropped "build-server".toList "/C:/a.ex".toList :=
    ⟨by decide +kernel, '/', _, rfl, by decide, by decide +kernel⟩
  refine ⟨"file", _, splitScheme?_eq_some_iff.mp (by decide +kernel), .dropped host ?_ dropped⟩
  unfold IsHere
  decide +kernel

/-- The file of another host is refused, unless it is on a drive. -/
theorem paths_of_local_files_remote : OnlyLocal remote ∧ ¬OnlyLocal remoteDrive := by
  constructor
  · apply (paths_of_local_files remote).2.mpr
    intro elsewhere
    have none : remote.filePath? = none := by decide +kernel
    have some := isSome_filePath?_iff.mpr (.inr elsewhere)
    rw [none] at some
    cases some
  · intro only
    exact (paths_of_local_files remoteDrive).2.mp only readsElsewhere_remoteDrive

/-- A document of a version control system, which no file on disk holds. -/
def revision : DocumentUri := ⟨"git:/repo/a.ex"⟩

/-- Not only local files have paths: a URI of another scheme has one, too. -/
theorem not_always_local : ¬∀ u : DocumentUri, OnlyLocal u := by
  intro only
  have path : revision.filePath? = some (.ofString "/repo/a.ex") := by decide +kernel
  obtain ⟨cs, named, -⟩ := (only revision).path _ path
  have scheme : splitScheme? (trimmed revision.text.toList) = some ("git", "/repo/a.ex".toList) := by decide +kernel
  rw [splitScheme?_eq_some_iff.mpr named] at scheme
  exact absurd (Prod.mk.inj (Option.some.inj scheme)).1 (by decide)

end DocumentUri

end ElixirLint
