import DenoBridge.Number.Digits
import DenoBridge.Text.Split

/-! # Numeric host addresses

    The texts that write an IPv4 or an IPv6 address.  An IPv4 address is four
    numbers below 256 without leading zeros.  An IPv6 address is eight groups
    of hexadecimal digits; one run of zero groups may be left out, the last
    two groups may be written as an IPv4 address, and a zone may follow.
-/

namespace DenoBridge.Url

/-! ## Section 1: IPv4 -/

/-- Is this one of the four numbers of an IPv4 address? -/
def isOctet (text : List Char) : Bool :=
  !text.isEmpty && text.all Char.isDigit && text.length ≤ 3 &&
    (text == ['0'] || text.head? != some '0') && Digits.value text ≤ 255

/-- Does the text write an IPv4 address? -/
def isIPv4 (text : List Char) : Bool :=
  let octets := Text.pieces '.' text
  octets.length == 4 && octets.all isOctet

/-! ## Section 2: IPv6 -/

/-- Is this one group of an IPv6 address? -/
def isGroup (text : List Char) : Bool :=
  !text.isEmpty && text.length ≤ 4 && text.all fun c => (Digits.hexDigit? c).isSome

/-- The groups with an IPv4 address at the end replaced by the two groups it
    stands for; `none` if the end has points but is no such address. -/
def expandIPv4? (groups : List (List Char)) : Option (List (List Char)) :=
  match groups.getLast? with
  | none => some groups
  | some last =>
    if !last.contains '.' then some groups
    else if isIPv4 last then some (groups.dropLast ++ [['0'], ['0']])
    else none

/-- The groups between colons, in an address in which none is left out. -/
def isFullAddress (groups : List (List Char)) : Bool :=
  groups.length == 8 && groups.all isGroup

/-- An address with a gap: the groups before and after the empty one.  A gap
    at an end shows as two empty groups there. -/
def isGappedAddress (before after : List (List Char)) : Bool :=
  let before := if before == [[]] then [] else before
  let after := if after == [[]] then [] else after
  before.length + after.length < 8 && before.all isGroup && after.all isGroup

/-- The places, counted from `place`, of the empty groups that are not the
    last one. -/
def gapsFrom (place : Nat) : List (List Char) → List Nat
  | group :: next :: more =>
    if group.isEmpty then place :: gapsFrom (place + 1) (next :: more)
    else gapsFrom (place + 1) (next :: more)
  | _ => []

/-- Does the text, without a zone, write an IPv6 address? -/
def isIPv6Groups (text : List Char) : Bool :=
  let written := Text.pieces ':' text
  match expandIPv4? written with
  | none => false
  | some groups =>
    if written.length < 3 || groups.length > 9 then false
    else
      match gapsFrom 1 groups.tail with
      | [] => isFullAddress groups
      | [gap] => isGappedAddress (groups.take gap) (groups.drop (gap + 1))
      | _ => false

/-- Does the text write an IPv6 address, perhaps with a zone? -/
def isIPv6 (text : List Char) : Bool :=
  match Text.cutAt (· == '%') text with
  | (groups, none) => isIPv6Groups groups
  | (groups, some zone) => !zone.isEmpty && !zone.contains '%' && isIPv6Groups groups

/-! ## Section 3: Addresses of the future -/

/-- Does the text write an address of a later version: a `v`, hexadecimal
    digits, a point and anything more? -/
def isFutureAddress (text : List Char) : Bool :=
  match text with
  | 'v' :: rest =>
    let version := rest.takeWhile fun c => (Digits.hexDigit? c).isSome
    match rest.drop version.length with
    | '.' :: address => !version.isEmpty && !address.isEmpty && !address.contains '\n'
    | _ => false
  | _ => false

end DenoBridge.Url
