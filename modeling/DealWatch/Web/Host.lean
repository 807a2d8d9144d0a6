import DealWatch.Number.Numeral
import DealWatch.Text.Hexadecimal
import DealWatch.Text.Quoted
import DealWatch.Text.Split

/-!
# Hosts of addresses

The host of an address may be a numeric address of version 6 or of a later version, which stands
in brackets. A user and the number of a socket may stand around it.

* `Host.Fault` lists what can be wrong with a host, `Host.Fault.message` in words;
* `Host.fault?` finds what is wrong with one.
-/

namespace DealWatch

namespace Host

/-- What can be wrong with a host. -/
inductive Fault where
  /-- Brackets do not belong together, or other text stands beside them. -/
  | brackets
  /-- An address of a later version is malformed. -/
  | futureVersion
  /-- An address of version 4 stands in brackets. -/
  | versionFour
  /-- Brackets hold no numeric address. -/
  | noAddress (text : List Char)
  /-- A character stands for one of the signs that separate the parts of an address. -/
  | hiddenSign (host : List Char)
  deriving DecidableEq, Repr, Inhabited

/-- The words for a fault. -/
def Fault.message : Fault → String
  | .brackets => "Invalid IPv6 URL"
  | .futureVersion => "IPvFuture address is invalid"
  | .versionFour => "An IPv4 address cannot be in brackets"
  | .noAddress text =>
    quoted (String.ofList text) ++ " does not appear to be an IPv4 or IPv6 address"
  | .hiddenSign host =>
    "netloc '" ++ String.ofList host ++ "' contains invalid characters under NFKC normalization"

/-! ### Numeric addresses -/

/-- Whether a text is a number below 256 in ASCII digits without a zero in front. -/
def isOctet (cs : List Char) : Bool :=
  !cs.isEmpty && cs.length ≤ 3 && cs.all isAsciiDigit && (cs.length == 1 || cs.head? != some '0') &&
    asciiNumber cs < 256

/-- Whether a text is a numeric address of version 4. -/
def isVersionFour (cs : List Char) : Bool :=
  let parts := splitAt '.' cs
  parts.length == 4 && parts.all isOctet

/-- Whether a text is a group of an address of version 6. -/
def isGroup (cs : List Char) : Bool :=
  !cs.isEmpty && cs.length ≤ 4 && cs.all fun c => (hexValue? c).isSome

/-- The groups without a single empty one, which two colons at the end of an address leave. -/
def withoutLone (groups : List (List Char)) : List (List Char) :=
  if groups == [[]] then [] else groups

/-- Whether some groups make up an address of version 6: eight, or fewer around one place with two
colons. -/
def areGroups (groups : List (List Char)) : Bool :=
  match ((groups.drop 1).dropLast.zipIdx.filter fun (g, _) => g.isEmpty).map (·.2) with
  | [] => groups.length == 8 && groups.all isGroup
  | [i] =>
    let before := withoutLone (groups.take (i + 1))
    let after := withoutLone (groups.drop (i + 2))
    before.all isGroup && after.all isGroup && before.length + after.length < 8
  | _ => false

/-- The groups of an address of version 6. The last two may be written as one of version 4. -/
def groupsOf? (cs : List Char) : Option (List (List Char)) :=
  let groups := splitAt ':' cs
  match groups.getLast? with
  | some last =>
    if groups.length < 3 then none
    else if last.contains '.' then
      if isVersionFour last then some (groups.dropLast ++ [['0'], ['0']]) else none
    else some groups
  | none => none

/-- Whether a text is a numeric address of version 6, with the name of a zone after a percent sign
or without one. -/
def isVersionSix (cs : List Char) : Bool :=
  let (address, zone) := cutBefore '%' cs
  let zoneFits := match zone with
    | some name => !name.isEmpty && !name.contains '%'
    | none => true
  zoneFits && (groupsOf? address).any areGroups

/-- Whether a text that starts with a `v` is an address of a later version: a number, a point and
something after it. -/
def isFutureVersion (cs : List Char) : Bool :=
  let digits := (cs.drop 1).takeWhile fun c => (hexValue? c).isSome
  match cs.drop (digits.length + 1) with
  | '.' :: rest => !digits.isEmpty && !rest.isEmpty
  | _ => false

/-! ### Hosts -/

/-- What stands behind the last place of a sign; the whole text if there is none. -/
def afterLast (sign : Char) (cs : List Char) : List Char :=
  (cs.reverse.takeWhile (· != sign)).reverse

/-- What is wrong with an address in brackets. -/
def addressFault? (cs : List Char) : Option Fault :=
  if cs.head? == some 'v' then if isFutureVersion cs then none else some .futureVersion
  else if isVersionFour cs then some .versionFour
  else if isVersionSix cs then none
  else some (.noAddress cs)

/-- What is wrong with a host that has brackets. -/
def bracketFault? (host : List Char) : Option Fault :=
  match cutBefore '[' (afterLast '@' host) with
  | (before, some rest) =>
    let (address, after) := cutBefore ']' rest
    let after := after.getD []
    if !before.isEmpty || !(after.isEmpty || after.head? == some ':') then some .brackets
    else addressFault? address
  | (rest, none) => addressFault? (cutBefore ':' rest).1

/-- The characters that stand for a sign between the parts of an address, for text that holds one,
or for such a sign in another form. -/
def hiddenSigns : List Char := "⁇⁈⁉℀℁℅℆⩴︓︖﹕﹖﹟﹫＃／：？＠".toList

/-- What is wrong with a host, if anything. -/
def fault? (host : List Char) : Option Fault :=
  if host.contains '[' != host.contains ']' then some .brackets
  else
    let fault := if host.contains '[' then bracketFault? host else none
    fault.or (if host.any hiddenSigns.contains then some (.hiddenSign host) else none)

end Host

end DealWatch
