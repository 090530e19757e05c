import PluginBuild.Decimal.Numeral
import PluginBuild.Failure
import PluginBuild.Text.Hex
import PluginBuild.Text.Pieces

/-!
What stands in the place of a host in a location. Brackets come in pairs and hold an address of the sixth
version of the protocol or of a later one, and no character turns into a delimiter when the host is
normalized.
-/

namespace PluginBuild

open PluginBuild.Text

def isOctet (s : List Char) : Bool :=
  !s.isEmpty && s.length ≤ 3 && s.all Char.isDigit && (s == ['0'] || s.head? != some '0') &&
    Decimal.natOfDigits s ≤ 255

def isDottedAddress (s : List Char) : Bool :=
  let parts := pieces '.' s
  parts.length == 4 && parts.all isOctet

def isGroup (s : List Char) : Bool :=
  !s.isEmpty && s.length ≤ 4 && s.all fun c => (hexDigit? c).isSome

/-- What stands between the colons of an address. A dotted address at the end counts as two groups. -/
def addressGroups (s : List Char) : List (List Char) :=
  let groups := pieces ':' s
  if groups.getLast?.any isDottedAddress then groups.dropLast ++ [['0'], ['0']] else groups

def areGroups (groups : List (List Char)) : Bool :=
  let first := groups.take 1 ++ (groups.drop 1).takeWhile (!·.isEmpty)
  let behind := groups.drop (first.length + 1)
  if behind.isEmpty then groups.length == 8 && groups.all isGroup
  else
    let shown (part : List (List Char)) := if part = [[]] then [] else part
    (shown first).all isGroup && (shown behind).all isGroup &&
      (shown first).length + (shown behind).length ≤ 7

def isColonAddress (s : List Char) : Bool :=
  let address := s.takeWhile (· != '%')
  let zone := s.drop address.length
  areGroups (addressGroups address) && (zone.isEmpty || (zone.length != 1 && !(zone.drop 1).contains '%'))

def isFutureAddress (s : List Char) : Bool :=
  let version := (s.drop 1).takeWhile fun c => (hexDigit? c).isSome
  let rest := s.drop (version.length + 1)
  !version.isEmpty && rest.head? == some '.' && rest.length != 1

def addressFault? (s : List Char) : Option ClasspathError :=
  if s.head? = some 'v' then
    if isFutureAddress s then none else some .futureAddress
  else if isDottedAddress s then some .dottedAddress
  else if isColonAddress s then none
  else some (.notAnAddress (String.ofList s))

/-- What is wrong with a host that has brackets, which begin right behind the name of a user and are
followed by a port at most. That they do is asked for since release 3.11.12. -/
def bracketFault? (host : List Char) : Option ClasspathError :=
  let machine := (host.reverse.takeWhile (· != '@')).reverse
  if machine.contains '[' then
    let name := (machine.drop 1).takeWhile (· != ']')
    let port := machine.drop (name.length + 2)
    if machine.head? = some '[' ∧ (port = [] ∨ port.head? = some ':') then addressFault? name
    else some .unbalancedHost
  else addressFault? (machine.takeWhile (· != ':'))

/-- The characters that hold a delimiter when they are normalized. -/
def disguisedDelimiters : List Nat := [
  0x2047, 0x2048, 0x2049, 0x2100, 0x2101, 0x2105, 0x2106, 0x2A74, 0xFE13, 0xFE16,
  0xFE55, 0xFE56, 0xFE5F, 0xFE6B, 0xFF03, 0xFF0F, 0xFF1A, 0xFF1F, 0xFF20]

def hostFault? (host : List Char) : Option ClasspathError :=
  if host.contains '[' != host.contains ']' then some .unbalancedHost
  else
    (if host.contains '[' then bracketFault? host else none).orElse fun _ =>
      if host.any fun c => disguisedDelimiters.contains c.toNat then
        some (.disguisedHost (String.ofList host))
      else none

end PluginBuild
