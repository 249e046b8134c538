import ElixirLint.Path
import ElixirLint.Uri
import ElixirLint.Uri.Host

/-!
# Files named by URIs

From a URI to the path of a local file and back. Reading is lenient, as in a browser: white space around the URI and
tabs and ends of lines in it do not count, the scheme may be in either case, `file` URIs may lack slashes or have
backslashes, dots in the path are resolved, and triplets are decoded. A URI names a local file if its path starts at a
root and its host is missing, empty or the local one; the scheme need not be `file`.

In one place a tab or the end of a line counts: between the name of a drive and more text of the same segment it
separates the two.

Writing gives every component of an absolute path one segment, so that dots and repeated slashes vanish.
-/

namespace ElixirLint

namespace FileUri

/-- How a scheme is read. -/
inductive SchemeKind
  /-- Files: lenient about slashes, and with names of drives. -/
  | file
  /-- Schemes of the web, which always have a host. -/
  | web
  /-- Any other scheme. -/
  | other
  deriving DecidableEq, Repr

/-- How a scheme in lower case is read. -/
def SchemeKind.ofScheme (scheme : String) : SchemeKind :=
  if scheme = "file" then .file
  else if ["http", "https", "ws", "wss", "ftp"].contains scheme then .web
  else .other

/-- Whether a character is a control character or a space. -/
def isEdge (c : Char) : Bool := c.toNat ≤ 0x20

/-- A URI without the control characters and spaces at its ends, which do not count. -/
def trimmed (cs : List Char) : List Char := ((cs.dropWhile isEdge).reverse.dropWhile isEdge).reverse

/-- Whether a character is a tab or ends a line. -/
def isBreak (c : Char) : Bool := c == '\t' || c == '\n' || c == '\r'

/-- A text without tabs and ends of lines. -/
def visible (cs : List Char) : List Char := cs.filter fun c => !isBreak c

/-- Whether a character may stand in a scheme. -/
def isSchemeChar (c : Char) : Bool := c.isAlphanum || c == '+' || c == '-' || c == '.'

/-- The scheme of a URI in lower case and the text behind its colon. -/
def splitScheme? (cs : List Char) : Option (String × List Char) :=
  let inside (c : Char) : Bool := isSchemeChar c || isBreak c
  match cs.dropWhile inside with
  | ':' :: rest =>
    let scheme := visible (cs.takeWhile inside)
    if scheme.head?.any Char.isAlpha then some (String.ofList (scheme.map Char.toLower), rest) else none
  | _ => none

/-- Whether a character separates segments of a path: a slash, and unless the scheme is unknown a backslash. -/
def SchemeKind.isSeparator (k : SchemeKind) (c : Char) : Bool := c == '/' || (k ≠ .other && c == '\\')

/-- Whether a character ends a path. -/
def endsPath (c : Char) : Bool := c == '?' || c == '#'

/-- The segments of a path behind its root. -/
def segments (k : SchemeKind) : List Char → List (List Char)
  | [] => [[]]
  | c :: cs =>
    if endsPath c then [[]]
    else if k.isSeparator c then [] :: segments k cs
    else
      match segments k cs with
      | [] => [[c]]
      | s :: ss => (c :: s) :: ss

/-- A segment in lower case with its triplets for dots as dots. -/
def foldDots : List Char → List Char
  | '%' :: '2' :: c :: cs => if c = 'e' ∨ c = 'E' then '.' :: foldDots cs else '%' :: '2' :: c :: foldDots cs
  | c :: cs => c :: foldDots cs
  | [] => []

/-- Whether text begins with the name of a drive: a letter and a colon or a bar, and then nothing or a separator. -/
def beginsWithDrive : List Char → Bool
  | [c, d] => c.isAlpha && (d == ':' || d == '|')
  | c :: d :: e :: _ =>
    c.isAlpha && (d == ':' || d == '|') && (e == '/' || e == '\\' || endsPath e)
  | _ => false

/-- Whether a segment is the name of a drive. -/
def isDrive (s : List Char) : Bool := s.length == 2 && beginsWithDrive s

/-- Segments in reverse order without the last, which stays if it begins with the name of a drive. -/
def dropSegment : List (List Char) → List (List Char)
  | [] => []
  | s :: ss => if beginsWithDrive (s ++ ['/']) then s :: ss else ss

/-- The name of a drive at the front of a segment and what a tab or the end of a line separates from it. -/
def brokenDrive? (s : List Char) : Option (List Char × List Char) :=
  match s.dropWhile isBreak with
  | [] => none
  | c :: rest =>
    match rest.dropWhile isBreak with
    | ':' :: rest =>
      if c.isAlpha && rest.head?.any isBreak && !(visible rest).isEmpty then some ([c, ':'], visible rest) else none
    | _ => none

/-- A path while its segments are taken up one after the other. -/
structure Trail where
  /-- The segments so far, the last first. -/
  kept : List (List Char) := []
  /-- Whether the first of them is the name of a drive, which a separator or the end of the path ends. -/
  hasDrive : Bool := false

/-- The path with one more segment, which may be the last. Dots are resolved. In a path of a file, a drive at the front
is written with a colon, and what a tab or the end of a line separates from it is a segment that is left as it is. -/
def Trail.add (k : SchemeKind) (t : Trail) (s : List Char) (last : Bool) : Trail :=
  match if k = .file ∧ t.kept.isEmpty then brokenDrive? s else none with
  | some (drive, behind) => { t with kept := behind :: drive :: t.kept }
  | none =>
    let s := visible s
    let dots := foldDots s
    if dots == ['.'] || dots == ['.', '.'] then
      let kept := if dots == ['.'] then t.kept else dropSegment t.kept
      { t with kept := if last then [] :: kept else kept }
    else if k = .file ∧ t.kept.isEmpty ∧ isDrive s then ⟨[[s.headD 'c', ':']], true⟩
    else { t with kept := s :: t.kept }

/-- The path with more segments. -/
def Trail.addAll (k : SchemeKind) : Trail → List (List Char) → Trail
  | t, [] => t
  | t, s :: rest => addAll k (t.add k s rest.isEmpty) rest

/-- The path that a text spells behind its root. -/
def trail (k : SchemeKind) (cs : List Char) : Trail := Trail.addAll k {} (segments k cs)

/-- Segments without the empty ones in front; one stays. -/
def dropLeadingEmpty : List (List Char) → List (List Char)
  | [] :: s :: rest => dropLeadingEmpty (s :: rest)
  | ss => ss

/-- The path that segments spell. The name of a drive at its end gets a separator behind it. -/
def pathOf (ss : List (List Char)) : Path :=
  let bytes := ss.flatMap fun s => Path.slash :: Percent.decode (Text.encodeUtf8 s)
  let drive :=
    match bytes.reverse with
    | last :: letter :: _ :: _ => (last == 58 || last == 124) && (Char.ofNat letter.toNat).isAlpha
    | _ => false
  ⟨if drive then bytes ++ [Path.slash] else bytes⟩

/-- The path behind a root. -/
def pathFrom (k : SchemeKind) (cs : List Char) : Path :=
  let ss := (trail k cs).kept.reverse
  pathOf (if k = .file then dropLeadingEmpty ss else ss)

/-- The part of a text before its last occurrence of a character, and the part behind it. -/
def splitLast (x : Char) (cs : List Char) : Option (List Char × List Char) :=
  let behind := (cs.reverse.takeWhile (· ≠ x)).reverse
  if behind.length = cs.length then none else some (cs.take (cs.length - behind.length - 1), behind)

/-- The text behind the port of an authority, if there is one and it is a number of 16 bits. -/
def afterPort? (k : SchemeKind) : List Char → Option (List Char)
  | [] => some []
  | _ :: cs =>
    let digits := cs.takeWhile Char.isDigit
    let rest := cs.drop digits.length
    let value := digits.foldl (fun n d => n * 10 + (d.toNat - 48)) 0
    if 65535 < value then none
    else
      match rest with
      | [] => some []
      | c :: _ => if k = .other ∧ c = '\\' then some rest else none

/-- The path of a URI behind the slashes of its authority, if the host is the local one or, but for the schemes of the
web, empty. -/
def authorityPath? (k : SchemeKind) (cs : List Char) : Option Path :=
  let inside (c : Char) : Bool := !k.isSeparator c && !endsPath c
  let authority := cs.takeWhile inside
  let rest := cs.dropWhile inside
  let (user, place) :=
    match splitLast '@' authority with
    | some (user, place) => (some user, place)
    | none => (none, authority)
  let host := place.takeWhile (· ≠ ':')
  let port := place.dropWhile (· ≠ ':')
  let accepted :=
    if host.isEmpty then k = .other ∧ port.isEmpty ∧ (user = none ∨ user = some [':'])
    else if k = .other then host = Host.localName
    else Host.isLocal host
  if !accepted then none
  else
    match afterPort? k port with
    | none => none
    | some (c :: cs) => some (pathFrom k (c :: cs ++ rest))
    | some [] =>
      match rest with
      | c :: cs => if k.isSeparator c then some (pathFrom k cs) else if k = .other then none else some (pathFrom k rest)
      | [] => if k = .other then none else some (pathFrom k [])

/-- The path of a `file` URI behind two slashes: a host, then the path. A host does not count before a drive. -/
def hostPath? (cs : List Char) : Option Path :=
  let inside (c : Char) : Bool := !SchemeKind.file.isSeparator c && !endsPath c
  let host := visible (cs.takeWhile inside)
  let rest := cs.dropWhile inside
  if isDrive host then some (pathFrom .file cs)
  else if host.isEmpty || Host.isLocal host then some (pathFrom .file rest)
  else
    let path :=
      match rest with
      | c :: cs => if SchemeKind.file.isSeparator c then cs else rest
      | [] => []
    if Host.isHost host && (trail .file path).hasDrive then some (pathFrom .file path) else none

/-- The first character of a text that is no tab and ends no line, and what is behind it. -/
def next? (cs : List Char) : Option (Char × List Char) :=
  match cs.dropWhile isBreak with
  | c :: rest => some (c, rest)
  | [] => none

/-- The path of a `file` URI behind its scheme. -/
def localPath? (cs : List Char) : Option Path :=
  match next? cs with
  | none => some (pathFrom .file [])
  | some (c, rest) =>
    if !SchemeKind.file.isSeparator c then some (pathFrom .file cs)
    else
      match next? rest with
      | some (d, behind) => if SchemeKind.file.isSeparator d then hostPath? behind else some (pathFrom .file rest)
      | none => some (pathFrom .file rest)

/-- The path of a URI behind its scheme. -/
def pathAfterScheme? (k : SchemeKind) (cs : List Char) : Option Path :=
  match k with
  | .web => authorityPath? .web ((visible cs).dropWhile SchemeKind.web.isSeparator)
  | .other =>
    match visible cs with
    | '/' :: '/' :: rest => authorityPath? .other rest
    | '/' :: rest => some (pathFrom .other rest)
    | _ => none
  | .file => localPath? cs

/-- Whether a byte must be spelled as a triplet in a URI: one beyond the printable ASCII characters, and a few of
those. -/
def isSpelled (b : UInt8) : Bool :=
  b ≤ 0x20 || 0x7F ≤ b || ("\"#<>?\x60\x7b\x7d/%\\[]".toList.map fun c => UInt8.ofNat c.toNat).contains b

/-- The component of a path as a segment of a URI; the root and the current directory have none. -/
def segmentOf? : Path.Component → Option (List UInt8)
  | .root => none
  | .here => none
  | .parent => some [Path.dot, Path.dot]
  | .name bytes => some (Percent.encode isSpelled bytes)

end FileUri

namespace DocumentUri

open FileUri

/-- The path of the local file that a URI names. -/
def filePath? (u : DocumentUri) : Option Path :=
  match splitScheme? (trimmed u.text.toList) with
  | none => none
  | some (scheme, rest) => pathAfterScheme? (.ofScheme scheme) rest

/-- The URI of a file; none for a relative path. -/
def ofFilePath? (p : Path) : Option DocumentUri :=
  if !p.isAbsolute then none
  else
    let segments := p.components.filterMap segmentOf?
    let bytes := if segments.isEmpty then [Path.slash] else segments.flatMap (Path.slash :: ·)
    some ⟨String.ofList ("file://".toList ++ bytes.map fun b => Char.ofNat b.toNat)⟩

end DocumentUri

end ElixirLint
