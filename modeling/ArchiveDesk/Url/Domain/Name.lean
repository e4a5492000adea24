import ArchiveDesk.Text.Composition
import ArchiveDesk.Url.Domain.Direction
import ArchiveDesk.Url.Domain.Joining
import ArchiveDesk.Url.Domain.Mapping
import ArchiveDesk.Url.Domain.Punycode

/-!
# Domain names in ASCII

A domain name is mapped and composed, its labels are checked, and labels beyond
ASCII are written in their ASCII form. A label that is already in this form must
stand for a label that would be written so.
-/

namespace ArchiveDesk.Url.Domain

/-- The mark of a label in its ASCII form. -/
def asciiMark : List Char := ['x', 'n', '-', '-']

/-- The ASCII characters that a domain name must not hold. -/
def isForbidden (c : Char) : Bool :=
  c.toNat ≤ 0x20 || c.toNat == 0x7F ||
    ['#', '%', '/', ':', '<', '>', '?', '@', '[', '\\', ']', '^', '|'].contains c

/-- Whether a text is ASCII. -/
def isAscii (cs : List Char) : Bool := cs.all (·.toNat < 0x80)

/-- A label as it is read: the characters that it stands for, and whether it was
already in its ASCII form. -/
private structure Label where
  written : List Char
  meaning : List Char

/-- Whether a label may stand in a domain name. -/
private def isAllowed (cs : List Char) : Bool :=
  cs.all (fun c => !isForbidden c) && !startsWithMark cs && hasJoinersInPlace cs

/-- Reads a label. -/
private def label? (cs : List Char) : Option Label := do
  if asciiMark.isPrefixOf cs then
    let meaning ← Punycode.decode? (cs.drop asciiMark.length)
    guard (isAscii cs && !isAscii meaning && meaning.all isKept)
    guard (Text.compose meaning == meaning && isAllowed meaning)
    return ⟨cs, meaning⟩
  else
    guard (isAllowed cs)
    return ⟨if isAscii cs then cs else asciiMark ++ Punycode.encode cs, cs⟩

/-- Whether a domain name is already in the form that it is mapped to: lower-case
letters, digits and hyphens, and no label that stands for another one. -/
def isPlain (cs : List Char) : Bool :=
  cs.all (fun c => c.isLower || c.isDigit || c == '-' || c == '.') &&
    (Text.pieces (· == '.') cs).all fun label => !asciiMark.isPrefixOf label

/-- The ASCII form of a domain name that is not plain, if it has one. -/
private def mappedToAscii? (cs : List Char) : Option (List Char) := do
  let mapped ← cs.mapM mapChar?
  let labels ← (Text.pieces (· == '.') (Text.compose mapped.flatten)).mapM label?
  if labels.any (isBidi ·.meaning) then
    guard (labels.all (hasOneDirection ·.meaning))
  return List.intercalate ['.'] (labels.map (·.written))

/-- The ASCII form of a domain name, if it has one. -/
def toAscii? (cs : List Char) : Option (List Char) :=
  if isPlain cs then some cs else mappedToAscii? cs

end ArchiveDesk.Url.Domain
