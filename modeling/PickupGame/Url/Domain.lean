import PickupGame.Text.Blank
import PickupGame.Text.LowerCase
import PickupGame.Text.Printable
import PickupGame.Text.Utf8
import PickupGame.Text.WidthTable
import PickupGame.Url.Punycode

/-!
# Domains

The form of domains for machines as this machine finds it. ASCII letters are put into lower case. For
other characters it makes do with the plainest rules: letters are put into lower case and wide forms
of ASCII into plain ones, the full stops of other scripts count as dots, and characters without a
shape of their own vanish; a label that still holds characters beyond ASCII is written in Punycode.
Compatibility mappings, composition and the rules on joiners and directions are left out.
-/

namespace PickupGame.Url.Domain

/-- ASCII characters that no domain contains. -/
def isForbidden (c : Char) : Bool :=
  c.toNat ≤ 0x20 || c.toNat = 0x7F || "%#/:<>?@[\\]^`\x7b|\x7d".toList.contains c

/-- Characters that count as dots. -/
def isFullStop (c : Char) : Bool :=
  c = '\u3002' || c = '\uFF0E' || c = '\uFF61'

/-- Characters that do not count: hyphens and joiners without a shape, and selectors of variants. -/
def isVanishing (c : Char) : Bool :=
  let n := c.toNat
  n = 0xAD || n = 0x34F || (0x180B ≤ n && n ≤ 0x180F) || n = 0x200B || n = 0x2060 || n = 0x2064
    || (0xFE00 ≤ n && n ≤ 0xFE0F) || n = 0xFEFF || (0xE0100 ≤ n && n ≤ 0xE01EF)

/-- Characters that show on the one before them. -/
def isMark (c : Char) : Bool :=
  Text.inCodeSet Text.WidthTable.zeroWidth c && !(0x2000 ≤ c.toNat && c.toNat ≤ 0x206F)

/-- Characters beyond ASCII that a label may hold: those that show. -/
def isLabelChar (c : Char) : Bool :=
  Text.isPrintable c || isMark c

/-- What stands for a character, if it may stand in a domain. -/
def normalChar? (c : Char) : Option (List Char) :=
  if c.toNat < 0x80 then if isForbidden c then none else some [c.toLower]
  else if isFullStop c then some ['.']
  else if isVanishing c then some []
  else if 0xFF01 ≤ c.toNat && c.toNat ≤ 0xFF5E then
    let plain := Char.ofNat (c.toNat - 0xFEE0)
    if isForbidden plain then none else some [plain.toLower]
  else if isLabelChar c then some [Text.lower c]
  else none

def normal? (cs : List Char) : Option (List Char) :=
  (cs.mapM normalChar?).map List.flatten

/-- What a label in Punycode begins with. -/
def punycodeSign : List Char := ['x', 'n', '-', '-']

def startsWithMark (label : List Char) : Bool :=
  label.head?.any isMark

/-- Whether a label may be written in Punycode: it has characters beyond ASCII, all of them normal,
and does not start with a mark. -/
def isProper (label : List Char) : Bool :=
  label.any (0x80 ≤ ·.toNat) && normal? label = some label && !startsWithMark label

/-- A label in ASCII. -/
def asciiLabel? (label : List Char) : Option (List Char) :=
  if punycodeSign.isPrefixOf label then
    if (Punycode.decode? (label.drop 4)).any isProper then some label else none
  else if label.any (0x80 ≤ ·.toNat) then
    if startsWithMark label then none else some (punycodeSign ++ Punycode.encode label)
  else some label

def labels? (cs : List Char) : Option (List (List Char)) :=
  (normal? cs).bind fun cs => (cs.splitOn '.').mapM asciiLabel?

/-- A domain in ASCII from its bytes. -/
def toAscii? (bs : List UInt8) : Option (List Char) :=
  ((Text.ofUtf8? bs).bind labels?).map (['.'].intercalate ·)

end PickupGame.Url.Domain
