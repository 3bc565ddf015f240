import LintRelay.Uri.Address
import LintRelay.Uri.Domain
import LintRelay.Uri.Percent

/-!
# Authorities

What stands between the two slashes of a URI and its path: perhaps a user in front of an at sign,
the host, and perhaps a number after a colon. The host of a known scheme is a domain or an address;
that of another scheme is kept as it is written.
-/

namespace LintRelay.Uri

/-- Why a text is no URI. -/
inductive Error where
  /-- It has no scheme. -/
  | relative
  /-- The host is empty and may not be. -/
  | emptyHost
  /-- The host is no domain. -/
  | domain
  /-- A character may not stand in the host. -/
  | character
  /-- The host ends in a number and is no address. -/
  | shortAddress
  /-- The host stands in brackets and is no address. -/
  | longAddress
  /-- What follows the colon after the host is no number of 16 bits. -/
  | number
deriving DecidableEq, Repr

/-- The text of an error. -/
def Error.message : Error → String
  | .relative => "relative URL without a base"
  | .emptyHost => "empty host"
  | .domain => "invalid international domain name"
  | .character => "invalid domain character"
  | .shortAddress => "invalid IPv4 address"
  | .longAddress => "invalid IPv6 address"
  | .number => "invalid port number"

/-- The schemes of the web, and the number after the host that each takes when none is given. -/
def webSchemes : List (String × Nat) :=
  [("http", 80), ("https", 443), ("ws", 80), ("wss", 443), ("ftp", 21)]

/-! ## Hosts -/

/-- The normal form of a host in brackets. -/
def readBracketed (host : List Char) : Except Error (List Char) :=
  match if host.getLast? = some ']' then longAddress? (host.drop 1).dropLast else none with
  | some groups => .ok ('[' :: longAddressText groups ++ [']'])
  | none => .error .longAddress

/-- The normal form of a domain or address. -/
def readKnownHost (host : List Char) : Except Error (List Char) :=
  if host.head? = some '[' then readBracketed host
  else
    match Domain.ofText? (decode host) with
    | none => .error .domain
    | some [] => .error .emptyHost
    | some domain =>
      if endsInNumber domain then
        match shortAddress? domain with
        | some n => .ok (shortAddressText n)
        | none => .error .shortAddress
      else .ok domain

/-- Whether a character may not stand in the host of another scheme. -/
def isForbiddenInHost (c : Char) : Bool :=
  ['\x00', '\t', '\n', '\r', ' ', '#', '/', ':', '<', '>', '?', '@', '[', '\\', ']', '^',
    '|'].contains c

/-- The normal form of the host of another scheme. -/
def readOtherHost (host : List Char) : Except Error (List Char) :=
  if host.head? = some '[' then readBracketed host
  else if host.any isForbiddenInHost then .error .character
  else .ok (encode isControl host)

/-- A host up to the colon behind it, where colons between brackets do not count, and the rest. -/
def splitHost (inBrackets : Bool) : List Char → List Char × List Char
  | [] => ([], [])
  | c :: rest =>
    if c = ':' && !inBrackets then ([], c :: rest)
    else
      let (host, rest) := splitHost (c = '[' || (c ≠ ']' && inBrackets)) rest
      (c :: host, rest)

/-! ## User and number -/

/-- The normal form of a user, with the at sign: a name and perhaps a password after a colon. -/
def readUser (user : List Char) : List Char :=
  let name := encode inUserInfo (user.takeWhile (· ≠ ':'))
  let password := encode inUserInfo ((user.dropWhile (· ≠ ':')).drop 1)
  if name = [] && password = [] then []
  else name ++ (if password = [] then [] else ':' :: password) ++ ['@']

/-- The normal form of the number after a host, and what is left of the text. The number is left out
if the scheme takes it anyway. -/
def readNumber (scheme : String) (text : List Char) : Except Error (List Char × List Char) :=
  match text with
  | ':' :: text =>
    let digits := text.takeWhile Char.isDigit
    let rest := text.dropWhile Char.isDigit
    let number := Text.decimalValue digits
    if 65535 < number || rest.head?.any (· ≠ '\\') then .error .number
    else if digits = [] || webSchemes.contains (scheme, number) then .ok ([], rest)
    else .ok (':' :: (toString number).toList, rest)
  | _ => .ok ([], text)

/-! ## Authorities -/

/-- The text of an authority in front of the last at sign, if there is one, and behind it. -/
def splitUser (text : List Char) : Option (List Char) × List Char :=
  let place := (text.reverse.takeWhile (· ≠ '@')).reverse
  if place.length = text.length then (none, text)
  else (some (text.take (text.length - place.length - 1)), place)

/-- The normal form of an authority, and what is left of the text. `atEnd` tells whether the URI
ends here. An empty host is for other schemes only, and stands alone. -/
def readAuthority (scheme : String) (known atEnd : Bool) (text : List Char) :
    Except Error (List Char × List Char) := do
  let (user, place) := splitUser text
  let front := readUser (user.getD [])
  let (host, rest) := splitHost false place
  if user = some [] && place = [] && !atEnd then throw .emptyHost
  if host = [] && (known || rest ≠ []) then throw .emptyHost
  let host ← if known then readKnownHost host else readOtherHost host
  let (number, rest) ← readNumber scheme rest
  if host = [] && front ≠ [] then throw .emptyHost
  return (front ++ host ++ number, rest)

end LintRelay.Uri
