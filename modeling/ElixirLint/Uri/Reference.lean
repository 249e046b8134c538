import ElixirLint.Uri.Address
import ElixirLint.Uri.Percent

/-!
# URI references

What messages between editor and server may hold as a URI: a reference by the general syntax of URIs, with or without a
scheme, made of unreserved characters, delimiters and percent triplets. `Reference.parse` takes one apart and tells
where and why a text is none; the index is one of bytes.
-/

namespace ElixirLint

/-- The parts of a URI reference that matter here. -/
structure Reference where
  /-- The scheme, if there is one. -/
  scheme : Option (List Char)
  /-- The authority behind two slashes, if there is one. -/
  authority : Option (List Char)
  /-- The path, with its triplets. -/
  path : List Char
  deriving DecidableEq, Repr

namespace Reference

/-- Why a text is no reference, and where. -/
inductive Fault
  /-- A percent sign without two hexadecimal digits. -/
  | octet (index : Nat)
  /-- A character that may not stand there. -/
  | character (index : Nat)
  /-- What stands between brackets is no address. -/
  | address (index : Nat)
  deriving DecidableEq, Repr

/-- The message of a fault. -/
def Fault.message : Fault → String
  | .octet i => "invalid percent-encoded octet at index " ++ toString i
  | .character i => "unexpected character at index " ++ toString i
  | .address i => "invalid IP literal at index " ++ toString i

/-- Whether a character may always stand in a URI. -/
def isUnreserved (c : Char) : Bool := c.isAlphanum || c == '-' || c == '.' || c == '_' || c == '~'

/-- Whether a character separates parts of a component. -/
def isSubDelim (c : Char) : Bool := "!$&'()*+,;=".toList.contains c

/-- Whether a character may stand in a segment of a path. -/
def isPchar (c : Char) : Bool := isUnreserved c || isSubDelim c || c == ':' || c == '@'

/-- Whether a character may stand in a path. -/
def isPathChar (c : Char) : Bool := isPchar c || c == '/'

/-- Whether a character may stand in a query or fragment. -/
def isQueryChar (c : Char) : Bool := isPathChar c || c == '?'

/-- Whether a character may stand in an authority. -/
def isAuthorityChar (c : Char) : Bool := isUnreserved c || isSubDelim c || c == ':'

/-- Whether a character may stand in a scheme behind the first. -/
def isSchemeChar (c : Char) : Bool := c.isAlphanum || c == '+' || c == '-' || c == '.'

/-- Takes allowed characters and triplets off the front of a text that begins at an index. -/
def take (allowed : Char → Bool) : Nat → List Char → Except Fault (List Char × List Char)
  | i, '%' :: a :: b :: cs =>
    if Address.isHexDigit a && Address.isHexDigit b then (take allowed (i + 3) cs).map fun (t, rest) => ('%' :: a :: b :: t, rest)
    else .error (.octet i)
  | i, c :: cs =>
    if c = '%' then .error (.octet i)
    else if allowed c then (take allowed (i + 1) cs).map fun (t, rest) => (c :: t, rest)
    else .ok ([], c :: cs)
  | _, [] => .ok ([], [])

/-- Whether a text is an address of a later version. -/
def isAddressFuture (cs : List Char) : Bool :=
  match cs with
  | v :: rest =>
    let digits := rest.takeWhile Address.isHexDigit
    match rest.drop digits.length with
    | '.' :: body => (v == 'v' || v == 'V') && !digits.isEmpty && !body.isEmpty && body.all isAuthorityChar
    | _ => false
  | [] => false

/-- An address between brackets at the front of a text, if it begins with one. -/
def takeAddress (i : Nat) (cs : List Char) : Except Fault (List Char × List Char) :=
  match cs with
  | '[' :: rest =>
    let inner := rest.takeWhile (· ≠ ']')
    match rest.drop inner.length with
    | ']' :: after =>
      if Address.isGroups inner || isAddressFuture inner then .ok ('[' :: inner ++ [']'], after) else .error (.address i)
    | _ => .error (.address i)
  | _ => .ok ([], cs)

/-- A colon and digits at the front of a text, if it begins with a colon. -/
def takePort (cs : List Char) : List Char × List Char :=
  match cs with
  | ':' :: rest => (':' :: rest.takeWhile Char.isDigit, rest.dropWhile Char.isDigit)
  | _ => ([], cs)

/-- The index of the last element that is not wanted in a text that begins at an index. -/
def lastIndex? (wanted : Char → Bool) (i : Nat) (cs : List Char) : Option Nat :=
  let behind := (cs.reverse.takeWhile wanted).length
  if behind < cs.length then some (i + cs.length - behind - 1) else none

/-- Checks that a name may be followed by a port: behind a single colon stand digits only. -/
def checkPort (i : Nat) (cs : List Char) : Except Fault Unit :=
  let name := cs.takeWhile (· ≠ ':')
  match cs.drop name.length with
  | [] => .ok ()
  | _ :: port =>
    match lastIndex? (if port.contains ':' then (· ≠ ':') else Char.isDigit) (i + name.length + 1) port with
    | some j => .error (.character j)
    | none => .ok ()

/-- Reads an authority at an index: perhaps a user before an at sign, then a name or an address between brackets, and
perhaps a port. -/
def takeAuthority (i : Nat) (cs : List Char) : Except Fault (List Char × List Char) := do
  let (front, rest) ← take isAuthorityChar i cs
  match rest with
  | '@' :: rest =>
    let j := i + front.length + 1
    let (address, rest) ← takeAddress j rest
    let (name, rest) ← if address.isEmpty then take (fun c => isAuthorityChar c && c != ':') j rest else pure ([], rest)
    let (port, rest) := takePort rest
    return (front ++ '@' :: address ++ name ++ port, rest)
  | _ =>
    if front.isEmpty then
      let (address, rest) ← takeAddress i rest
      let (port, rest) := if address.isEmpty then ([], rest) else takePort rest
      return (address ++ port, rest)
    else
      checkPort i front
      return (front, rest)

/-- Reads what stands behind a path at an index: a query and a fragment. -/
def readRest (i : Nat) (cs : List Char) : Except Fault Unit := do
  let (i, cs) ←
    match cs with
    | '?' :: cs => do
      let (query, rest) ← take isQueryChar (i + 1) cs
      pure (i + 1 + query.length, rest)
    | cs => pure (i, cs)
  let (i, cs) ←
    match cs with
    | '#' :: cs => do
      let (fragment, rest) ← take isQueryChar (i + 1) cs
      pure (i + 1 + fragment.length, rest)
    | cs => pure (i, cs)
  if cs.isEmpty then .ok () else .error (.character i)

/-- Reads what stands behind a scheme at an index. -/
def readHierarchy (scheme : Option (List Char)) (i : Nat) (cs : List Char) : Except Fault Reference :=
  match cs with
  | '/' :: '/' :: cs => do
    let (authority, rest) ← takeAuthority (i + 2) cs
    let j := i + 2 + authority.length
    let (path, rest) ← if rest.head? = some '/' then take isPathChar j rest else pure ([], rest)
    readRest (j + path.length) rest
    return ⟨scheme, some authority, path⟩
  | cs => do
    let (path, rest) ← take isPathChar i cs
    readRest (i + path.length) rest
    return ⟨scheme, none, path⟩

/-- Takes a reference apart. Without a scheme, no colon may stand in its first segment. -/
def parse (cs : List Char) : Except Fault Reference :=
  let front := cs.takeWhile isSchemeChar
  match cs.drop front.length with
  | ':' :: rest =>
    match front with
    | c :: _ => if c.isAlpha then readHierarchy (some front) (front.length + 1) rest else .error (.character 0)
    | [] => .error (.character 0)
  | _ =>
    if "//".toList.isPrefixOf cs then readHierarchy none 0 cs
    else
      match take (fun c => isPchar c && c != ':') 0 cs with
      | .error e => .error e
      | .ok (segment, ':' :: _) => .error (.character segment.length)
      | .ok _ => readHierarchy none 0 cs

/-- Whether a text is a URI reference. -/
def isValid (s : String) : Bool :=
  match parse s.toList with
  | .ok _ => true
  | .error _ => false

/-- The path that a reference names, its triplets decoded; parts that are no text are replaced. -/
def decodedPath (r : Reference) : String :=
  Text.decodeUtf8Lossy (Percent.decode (Text.encodeUtf8 r.path))

end Reference

end ElixirLint
