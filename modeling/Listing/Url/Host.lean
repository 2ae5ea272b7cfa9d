import Listing.Error
import Listing.Text.ClusterTable
import Listing.Text.LetterCase
import Listing.Text.Split
import Listing.Url.Form
import Listing.Url.Punycode

/-!
# Hosts

Which texts name a host. In brackets stands an IPv6 address. A host whose last part is a number is
an IPv4 address, and a wrong one is no host. Every other host is a domain name, in which certain
characters may not stand. Schemes that are not known here have hosts that are not interpreted.
-/
namespace Listing.Url

/-- The value of a digit in a base up to sixteen. -/
def digitIn (base : Nat) (c : Char) : Option Nat :=
  if c.toNat < 0x80 then
    match hexDigitValue (byteOf c) with
    | some digit => if digit.toNat < base then some digit.toNat else none
    | none => none
  else none

/-- The number that digits of a base spell. -/
def numberIn (base : Nat) (cs : List Char) : Option Nat :=
  cs.foldlM (fun number c => (digitIn base c).map (number * base + ·)) 0

/-- A part of an IPv4 address: a number in base sixteen after `0x`, in base eight after `0`, and in
base ten otherwise. Nothing after `0x` or `0` is zero. -/
def ipv4Part : List Char → Option Nat
  | [] => none
  | '0' :: 'x' :: digits => numberIn 16 digits
  | '0' :: 'X' :: digits => numberIn 16 digits
  | '0' :: digit :: digits => numberIn 8 (digit :: digits)
  | digits => numberIn 10 digits

/-- The parts of a name between its dots, without an empty part at the end. -/
def dottedParts (name : List Char) : List (List Char) :=
  let parts := name.splitOn '.'
  if parts.getLast? = some [] then parts.dropLast else parts

/-- Whether the last part of a name is a number. -/
def endsInNumber (name : List Char) : Bool :=
  match (dottedParts name).getLast? with
  | none => false
  | some part => (!part.isEmpty && part.all Char.isDigit) || (ipv4Part part).isSome

/-- Whether a name whose last part is a number is an IPv4 address: at most four parts, each below
256 but the last, which fills the bytes that are left. -/
def isIpv4 (name : List Char) : Bool :=
  let parts := dottedParts name
  match parts.mapM ipv4Part with
  | none => false
  | some numbers =>
    decide (numbers.length ≤ 4)
      && match numbers.getLast? with
        | none => false
        | some last =>
          decide (last < 1 <<< (8 * (5 - numbers.length)))
            && numbers.dropLast.all fun number => decide (number < 256)

/-- Whether a text is a decimal number below 256 without leading zeros. -/
def isDecimalByte (cs : List Char) : Bool :=
  match cs with
  | [] => false
  | '0' :: _ :: _ => false
  | digits => (numberIn 10 digits).any fun number => decide (number < 256)

/-- Whether the end of an IPv6 address is written as an IPv4 address. -/
def isDottedTail (cs : List Char) : Bool :=
  let parts := cs.splitOn '.'
  parts.length == 4 && parts.all isDecimalByte

/-- Read the groups of an IPv6 address after so many groups, with or without a gap before them.
The first number bounds the groups still to be read. -/
def ipv6Groups : Nat → Nat → Bool → List Char → Bool
  | 0, _, _, _ => false
  | bound + 1, groups, gap, cs =>
    match cs with
    | [] => gap || groups == 8
    | c :: rest =>
      if groups = 8 then false
      else if c = ':' then !gap && ipv6Groups bound (groups + 1) true rest
      else
        let size := ((cs.take 4).takeWhile fun d => (digitIn 16 d).isSome).length
        match cs.drop size with
        | [] => gap || groups + 1 == 8
        | '.' :: _ =>
          size != 0 && decide (groups ≤ 6) && isDottedTail cs && (gap || groups + 2 == 8)
        | ':' :: more => !more.isEmpty && ipv6Groups bound (groups + 1) gap more
        | _ => false

/-- Whether a text is an IPv6 address. -/
def isIpv6 (cs : List Char) : Bool :=
  match cs with
  | [] => false
  | [_] => false
  | ':' :: ':' :: rest => ipv6Groups 9 1 true rest
  | ':' :: _ => false
  | other => ipv6Groups 9 0 false other

/-- Whether a character may not stand in a domain name. -/
def isForbiddenInDomain (c : Char) : Bool :=
  decide (c.toNat ≤ 0x20) || c.toNat == 0x7F || "%#/:<>?@[\\]^|".toList.contains c

/-- Whether a character may not stand in a host that is not interpreted. -/
def isForbiddenInOpaqueHost (c : Char) : Bool :=
  "\x00\t\n\r #/:<>?@[\\]^|".toList.contains c

/-- Whether characters may be spelled in a part of a domain name: some are beyond ASCII, all have a
shape and are in lower case, and the first is not a mark. -/
def isSpelledLabel (spelled : List Char) : Bool :=
  (spelled.any fun c => decide (0x80 ≤ c.toNat))
    && (spelled.all fun c => !Text.isShapeless c && Text.lowerOf c == [c])
    && !(spelled.take 1).any fun c =>
      Text.within Text.combiningRanges c || Text.within Text.spacingMarkRanges c

/-- Whether a part of a domain name may stand there. A part that begins with `xn--` is the spelling
of characters beyond ASCII. -/
def isDomainLabel (label : List Char) : Bool :=
  if "xn--".toList.isPrefixOf label then (Punycode.decode (label.drop 4)).any isSpelledLabel
  else true

/-- Check a host of a scheme that is known here. -/
def checkHost (host : List Char) : Except UrlFault Unit :=
  if host.head? = some '[' then
    if host.getLast? = some ']' ∧ isIpv6 (host.drop 1).dropLast then .ok () else .error .invalidIpv6
  else
    let bytes := percentDecode (host.flatMap String.utf8EncodeChar)
    let name := (Text.repair bytes).toList.map Char.toLower
    if name.any isForbiddenInDomain || name.contains Text.replacement
        || !(name.splitOn '.').all isDomainLabel then .error .invalidHostName
    else if name.isEmpty then .error .emptyHost
    else if endsInNumber name && !isIpv4 name then .error .invalidIpv4
    else .ok ()

/-- Check a host that is not interpreted. -/
def checkOpaqueHost (host : List Char) : Except UrlFault Unit :=
  if host.head? = some '[' then
    if host.getLast? = some ']' ∧ isIpv6 (host.drop 1).dropLast then .ok () else .error .invalidIpv6
  else if host.any isForbiddenInOpaqueHost then .error .invalidHostCharacter
  else .ok ()

end Listing.Url
