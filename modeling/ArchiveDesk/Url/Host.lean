import ArchiveDesk.Url.Basic
import ArchiveDesk.Url.Domain.Name

/-!
# Reading hosts

The host of a special URL is decoded, mapped to an ASCII domain name, and read as
a 32-bit address if its last part is a number. Other hosts are kept as they are.
An address of 128 bits stands in brackets in both.
-/

namespace ArchiveDesk.Url.Host

/-- An address in brackets, without the first of them. -/
private def bracketed (cs : List Char) : Except UrlFault Host :=
  if cs.getLast? = some ']' then
    match Ipv6.parse? cs.dropLast with
    | some groups => .ok (.ipv6 groups)
    | none => .error .badIpv6
  else .error .badIpv6

/-- Reads the host of a special URL. -/
def parseDomain (cs : List Char) : Except UrlFault Host :=
  match cs with
  | '[' :: rest => bracketed rest
  | _ =>
    match decode? cs >>= Domain.toAscii? with
    | none => .error .badDomain
    | some [] => .error .emptyHost
    | some domain =>
      if Ipv4.endsInNumber domain then
        match Ipv4.parse? domain with
        | some address => .ok (.ipv4 address)
        | none => .error .badIpv4
      else .ok (.name domain)

/-- The characters that a host must not hold. -/
def isForbidden (c : Char) : Bool :=
  ['\x00', '\t', '\n', '\r', ' ', '#', '/', ':', '<', '>', '?', '@', '[', '\\', ']', '^',
    '|'].contains c

/-- Reads the host of a URL that is not special. -/
def parseName (cs : List Char) : Except UrlFault Host :=
  match cs with
  | [] => .ok .empty
  | '[' :: rest => bracketed rest
  | _ =>
    if cs.any isForbidden then .error .badHostCharacter
    else .ok (.name (encode EncodeSet.control cs))

end ArchiveDesk.Url.Host
