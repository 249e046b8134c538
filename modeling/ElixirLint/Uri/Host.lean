import ElixirLint.Uri.Address
import ElixirLint.Uri.Domain
import ElixirLint.Uri.Percent

/-!
# Hosts

The host of a URI is an address or a domain name, which may be spelled in many ways: in either case, with triplets, with
wide or raised letters, with characters in between that do not count. Here it only matters whether it is the local
host, and whether it is a host at all.
-/

namespace ElixirLint.Host

/-- The name of the host that one works on. -/
def localName : List Char := ['l', 'o', 'c', 'a', 'l', 'h', 'o', 's', 't']

/-- The domain name that a host spells, in its normal form; none if it spells none. -/
def name? (host : List Char) : Option (List Char) :=
  match Text.decodeUtf8? (Percent.decode (Text.encodeUtf8 host)) with
  | some s => Domain.normal? s.toList
  | none => none

/-- Whether a host is the local one. -/
def isLocal (host : List Char) : Bool := name? host == some localName

/-- Whether a text is a host: an address between brackets, or a name that is not empty; one that ends in a number must
be an address. -/
def isHost (host : List Char) : Bool :=
  match host with
  | '[' :: rest => rest.getLast? == some ']' && Address.isGroups rest.dropLast
  | _ =>
    match name? host with
    | none => false
    | some name =>
      let labels := Domain.labels name
      !name.isEmpty && (!Address.endsInNumber labels || Address.isBytes labels)

end ElixirLint.Host
