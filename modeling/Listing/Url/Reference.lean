import Listing.Url.Host

/-!
# The query of a URL

A reference is a URL with a scheme, or a path that begins with a slash and is taken on a host of
its own. Controls and spaces at both ends are no part of it, and neither are tabs and line ends
anywhere. The host and the number after it are checked. What stands between the first question
mark after them and the number sign is the query. A URL consists of characters of ASCII, so the
bytes of other characters, and those of controls and of some marks, are spelled by escapes in it.
-/
namespace Listing.Url

/-- How the parts of a URL are found, by its scheme. -/
inductive SchemeKind where
  /-- A scheme whose URLs always have a host. -/
  | web
  /-- The scheme of files, whose URLs may have a host. -/
  | file
  /-- Any other scheme. -/
  | other
  deriving DecidableEq, Repr

/-- The kind of a scheme. -/
def SchemeKind.ofName (name : List Char) : SchemeKind :=
  let text := String.ofList name
  if ["http", "https", "ws", "wss", "ftp"].contains text then .web
  else if text = "file" then .file
  else .other

/-- A reference without what is no part of it. -/
def cleanReference (reference : List Char) : List Char :=
  let outside (c : Char) : Bool := decide (c.toNat ≤ 0x20)
  let trimmed := ((reference.dropWhile outside).reverse.dropWhile outside).reverse
  trimmed.filter fun c => c != '\t' && c != '\n' && c != '\r'

/-- Whether a character is a slash of either kind. -/
def isSlash (c : Char) : Bool := c == '/' || c == '\\'

/-- The scheme in lower case and what follows its colon, when a reference has one. -/
def splitScheme (reference : List Char) : Option (List Char × List Char) :=
  match reference with
  | [] => none
  | first :: _ =>
    let inScheme (c : Char) : Bool := c.isAlphanum || c == '+' || c == '-' || c == '.'
    match reference.dropWhile inScheme with
    | ':' :: rest =>
      if first.isAlpha then some ((reference.takeWhile inScheme).map Char.toLower, rest) else none
    | _ => none

/-- Whether a byte of a query is spelled by an escape. The apostrophe is one of them only where the
scheme is known. -/
def isEscaped (kind : SchemeKind) (byte : UInt8) : Bool :=
  byte ≤ byteOf ' ' || 0x7F ≤ byte || byte == byteOf '\x22' || byte == byteOf '#'
    || byte == byteOf '<' || byte == byteOf '>' || (kind != .other && byte == byteOf '\x27')

/-- The bytes of a query as a URL holds them. -/
def escapeQuery (kind : SchemeKind) (query : List Char) : List UInt8 :=
  (query.flatMap String.utf8EncodeChar).flatMap fun byte =>
    if isEscaped kind byte then escape byte else [byte]

/-- The query of what follows the host of a URL, in the bytes of the URL. -/
def queryAfter (kind : SchemeKind) (rest : List Char) : List UInt8 :=
  match rest.dropWhile fun c => c != '?' && c != '#' with
  | '?' :: query => escapeQuery kind (query.takeWhile (· != '#'))
  | _ => []

/-- Whether a character ends the part of a URL that names its host. -/
def endsAuthority (kind : SchemeKind) (c : Char) : Bool :=
  c == '/' || c == '?' || c == '#' || (kind != .other && c == '\\')

/-- The part before the last at sign, when there is one, and the part after it. -/
def splitUser (authority : List Char) : Option (List Char) × List Char :=
  let reversed := authority.reverse
  match reversed.dropWhile (· != '@') with
  | [] => (none, authority)
  | _ :: user => (some user.reverse, (reversed.takeWhile (· != '@')).reverse)

/-- The host in front of a text; a colon ends it unless brackets are open. -/
def takeHost : Bool → List Char → List Char
  | _, [] => []
  | inBrackets, c :: rest =>
    if c = ':' ∧ ¬inBrackets then []
    else c :: takeHost (if c = '[' then true else if c = ']' then false else inBrackets) rest

/-- Check the number after the colon that follows a host: digits of a number of sixteen bits, up to
the end or, where the end of the host part is not final, up to a backslash. -/
def checkPort : Nat → List Char → Except UrlFault Unit
  | _, [] => .ok ()
  | number, c :: rest =>
    if c.isDigit then
      let number := number * 10 + (c.toNat - '0'.toNat)
      if number < UInt16.size then checkPort number rest else .error .invalidPort
    else if c = '\\' then .ok ()
    else .error .invalidPort

/-- Check the host of a URL and the number after it, and return its query. The text begins after
the slashes in front of the host. -/
def queryAfterSlashes (kind : SchemeKind) (cs : List Char) : Except UrlFault (List UInt8) := do
  let authority := cs.takeWhile fun c => !endsAuthority kind c
  let rest := cs.dropWhile fun c => !endsAuthority kind c
  let (user, place) := splitUser authority
  let host := takeHost false place
  let numeral := place.drop host.length
  if user = some [] ∧ place.isEmpty ∧ ¬rest.isEmpty then throw .emptyHost
  if kind = .other then checkOpaqueHost host
  else if host.isEmpty then throw .emptyHost
  else checkHost host
  if host.isEmpty ∧ ¬numeral.isEmpty then throw .emptyHost
  checkPort 0 (numeral.drop 1)
  if host.isEmpty ∧ user.isSome ∧ user ≠ some [] ∧ user ≠ some [':'] then throw .emptyHost
  return queryAfter kind rest

/-- Whether a host of the file scheme is the letter of a drive instead. -/
def isDriveLetter : List Char → Bool
  | [letter, mark] => letter.isAlpha && (mark == ':' || mark == '|')
  | _ => false

/-- Check the host of a URL of the file scheme and return its query. -/
def queryOfFile (cs : List Char) : Except UrlFault (List UInt8) := do
  match cs with
  | first :: second :: rest =>
    if isSlash first ∧ isSlash second then
      let inHost (c : Char) : Bool := !isSlash c && c != '?' && c != '#'
      let host := rest.takeWhile inHost
      if !host.isEmpty && !isDriveLetter host then checkHost host
      return queryAfter .file rest
    else return queryAfter .file cs
  | _ => return queryAfter .file cs

/-- The query of a URL, given by the kind of its scheme and what follows the colon. -/
def queryOfKind (kind : SchemeKind) (cs : List Char) : Except UrlFault (List UInt8) :=
  match kind with
  | .web => queryAfterSlashes .web (cs.dropWhile isSlash)
  | .file => queryOfFile cs
  | .other =>
    match cs with
    | '/' :: '/' :: rest => queryAfterSlashes .other rest
    | _ => .ok (queryAfter .other cs)

/-- The query of a path; two slashes in front of it are followed by a host. -/
def queryOfPath (cs : List Char) : Except UrlFault (List UInt8) :=
  match cs with
  | '/' :: '/' :: rest => queryAfterSlashes .web rest
  | _ :: second :: _ =>
    if isSlash second then queryAfterSlashes .web (cs.dropWhile isSlash)
    else .ok (queryAfter .web cs)
  | _ => .ok (queryAfter .web cs)

/-- The query of a reference; empty, when it has none. -/
def queryOf (reference : List Char) : Except UrlFault (List UInt8) :=
  let cleaned := cleanReference reference
  if reference.head? = some '/' then queryOfPath cleaned
  else
    match splitScheme cleaned with
    | none => .error .relative
    | some (scheme, rest) => queryOfKind (.ofName scheme) rest

end Listing.Url
