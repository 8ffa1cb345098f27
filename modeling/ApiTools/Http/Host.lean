import ApiTools.Http.Url.Flaw
import ApiTools.Text.Case
import ApiTools.Text.Percent
import ApiTools.Text.Punycode
import ApiTools.Text.Search

/-!
# Hosts

The host of an address in its normal form: an IPv4 address, an IPv6 address in brackets, or a name.
Names are in lower case and ASCII; labels beyond ASCII are written in Punycode.
-/

namespace ApiTools.Http.Host

open ApiTools.Text
open ApiTools.Http.Url (Flaw)

/-! ## Numeric addresses -/

/-- How a text can have been cut into runs of digits: the number of characters between runs, and
whether the last character was in a run. -/
abbrev Cutting := Nat × Bool

/-- The cuttings with one more character. -/
def extend (cuttings : List Cutting) (c : Char) : List Cutting :=
  (cuttings.flatMap fun (marks, inRun) =>
    (if c.isDigit then [(marks, true)] else []) ++
      (if inRun && marks < 3 then [(marks + 1, false)] else [])).eraseDups

/-- The text is made of four runs of digits with single characters, which may be any, between
them. -/
def isFourNumbers (text : List Char) : Bool :=
  (text.foldl extend [(0, false)]).contains (3, true)

/-- A number up to 255 without leading zeros. -/
def isOctet (text : List Char) : Bool :=
  !text.isEmpty && text.all Char.isDigit && text.length ≤ 3 &&
    (text.length = 1 || text.head? != some '0') && Nat.ofDigitChars 10 text 0 ≤ 255

/-- Four numbers with points between them. -/
def isIpv4 (text : List Char) : Bool :=
  let octets := text.splitOn '.'
  octets.length = 4 && octets.all isOctet

/-- Up to four hexadecimal digits. -/
def isGroup (text : List Char) : Bool :=
  !text.isEmpty && text.length ≤ 4 && text.all fun c => (hexValue? c).isSome

/-- The parts of an IPv6 address between its colons; an IPv4 address at the end counts as two
groups. -/
def ipv6Parts? (text : List Char) : Option (List (List Char)) :=
  let parts := text.splitOn ':'
  match parts.getLast? with
  | some last =>
    if last.contains '.' then
      if 3 ≤ parts.length ∧ isIpv4 last then some (parts.dropLast ++ [['0'], ['0']]) else none
    else if 3 ≤ parts.length then some parts
    else none
  | none => none

/-- The groups on one side of two colons; a single empty part is none. -/
def groupsOf (parts : List (List Char)) : List (List Char) :=
  if parts = [[]] then [] else parts

/-- Eight groups of hexadecimal digits, or fewer of them with two colons in place of the others. -/
def isIpv6Number (text : List Char) : Bool :=
  match ipv6Parts? text with
  | none => false
  | some parts =>
    let inner := (parts.drop 1).dropLast
    match inner.findIdx? List.isEmpty with
    | none => parts.length = 8 && parts.all isGroup
    | some place =>
      let high := groupsOf (parts.take (place + 1))
      let low := groupsOf (parts.drop (place + 2))
      high.length + low.length ≤ 7 && high.all isGroup && low.all isGroup

/-- An IPv6 address, perhaps with the name of a zone after a percent sign. -/
def isIpv6 (text : List Char) : Bool :=
  isIpv6Number (before '%' text) &&
    match after? '%' text with
    | some zone => !zone.isEmpty && !zone.contains '%'
    | none => true

/-! ## Names -/

/-- The text in lower case, as far as it is ASCII. -/
def lowerAscii (text : List Char) : List Char :=
  text.map Char.toLower

/-- All characters are ASCII. -/
def isAscii (text : List Char) : Bool :=
  text.all fun c => c.toNat < 0x80

/-- A character that stays as it is in a name. -/
def stays (c : Char) : Bool :=
  Percent.isUnreserved c || "!$&'()*+,;=\"`\x7b\x7d%|\\".toList.contains c

/-- A character that may stand in a label; those beyond ASCII all may. -/
def mayStand (c : Char) : Bool :=
  0x80 ≤ c.toNat || c.isLower || c.isDigit || c == '-'

/-- The label is well-formed: no hyphen at its ends or at both its third and fourth place. -/
def isLabel (label : List Char) : Bool :=
  label.all mayStand && label.head? != some '-' && label.getLast? != some '-' &&
    (label.drop 2).take 2 != ['-', '-']

/-- A label in ASCII; one has from 1 to 63 characters. -/
def asciiLabel? (label : List Char) : Option (List Char) :=
  let written := if isAscii label then label else "xn--".toList ++ Punycode.encode label
  if label.isEmpty || !isLabel label || 63 < written.length then none else some written

/-- The labels of a name between its points, of which four kinds count. -/
def labels (name : List Char) : List (List Char) :=
  name.splitOnP fun c => c = '.' || c = '。' || c = '．' || c = '｡'

/-- A name in ASCII. A point at its end stays. -/
def asciiName? (name : List Char) : Option (List Char) :=
  let parts := labels name
  let isRooted := 1 < parts.length && parts.getLast? = some []
  let parts := if isRooted then parts.dropLast else parts
  (parts.mapM asciiLabel?).bind fun parts =>
    let written := ['.'].intercalate parts ++ if isRooted then ['.'] else []
    if (if isRooted then 254 else 253) < written.length then none else some written

/-! ## All hosts -/

/-- The host that a text names, in its normal form. -/
def normal (text : List Char) : Except Flaw (List Char) :=
  if isFourNumbers text then
    if isIpv4 text then .ok text else .error (.badIpv4 (String.ofList text))
  else if text.head? = some '[' && text.getLast? = some ']' then
    if isIpv6 ((text.drop 1).dropLast) then .ok text else .error (.badIpv6 (String.ofList text))
  else if isAscii text then .ok (Percent.encode stays (lowerAscii text))
  else
    match asciiName? (lower text) with
    | some name => .ok name
    | none => .error (.badName (String.ofList text))

end ApiTools.Http.Host
