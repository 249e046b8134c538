import ElixirLint.Uri.Domain.Direction
import ElixirLint.Uri.Domain.Letters
import ElixirLint.Uri.Domain.Punycode

/-!
# Domain names

A domain name is a list of labels between dots. Names that are spelled differently may be the same: `normal?` brings a
name into the form in which plain letters are small and plain, and refuses what is no name.
-/

namespace ElixirLint.Domain

/-- The labels of a name between its dots. -/
def labels : List Char → List (List Char)
  | [] => [[]]
  | c :: cs =>
    match labels cs with
    | [] => [[c]]
    | l :: ls => if c = '.' then [] :: l :: ls else (c :: l) :: ls

/-- What begins the plain spelling of a label. -/
def plainMark : List Char := ['x', 'n', '-', '-']

/-- Whether a character may stand in a label as it is. -/
def isSettled (c : Char) : Bool :=
  c.toNat < 0x80 || !(isRefused c || isIgnored c || isSpelledOtherwise c)

/-- The letters of a label. The plain spelling must be of a label that needs it. -/
def letters? (label : List Char) : Option (List Char) :=
  if plainMark.isPrefixOf label then
    match Punycode.decode? (label.drop plainMark.length) with
    | none => none
    | some cs => if cs.all isSettled && cs.any (0x80 ≤ ·.toNat) then some cs else none
  else some label

/-- Whether letters make a label: they do not begin with a mark, and tell letters to join or not to join only where that
makes a difference. -/
def isLabel (cs : List Char) : Bool := !cs.head?.any isMark && joinersMatter [] cs

/-- Characters that no name holds. -/
def isForbidden (c : Char) : Bool := c.toNat ≤ 0x20 || c.toNat == 0x7F || "#/:<>?@[\\]^|%".toList.contains c

/-- A name in its normal form; none if it is no name. If a label has letters that run from right to left, every label
must keep to one direction. -/
def normal? (cs : List Char) : Option (List Char) :=
  match cs.mapM fold? with
  | none => none
  | some folded =>
    let name := folded.flatten
    match (labels name).mapM letters? with
    | none => none
    | some ls =>
      let oneWay := !(ls.any fun l => l.any isRightward) || ls.all isOneWay
      if ls.all isLabel && oneWay && !name.any isForbidden then some name else none

end ElixirLint.Domain
