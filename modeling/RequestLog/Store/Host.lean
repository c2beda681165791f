import RequestLog.Fault
import RequestLog.Text.Cut
import RequestLog.Text.CharTable

/-!
# Hosts in connection addresses

A host in brackets must be an address of the newer kind, or of a kind still to come; an address of
four numbers does not belong in brackets. No host may contain a character that stands for one of the
separators of an address.
-/

namespace RequestLog.Store.Host

/-- A number of an address of the older kind: at most 255, without leading zeros. -/
def isByte (cs : List Char) : Bool :=
  !cs.isEmpty && cs.all Char.isDigit && decide (cs.length ≤ 3) &&
    (cs == ['0'] || cs.head? != some '0') &&
    decide (cs.foldl (fun n c => 10 * n + (c.toNat - 48)) 0 ≤ 255)

/-- An address of the older kind: four numbers between points. -/
def isOlder (cs : List Char) : Bool :=
  let parts := cs.splitOn '.'
  parts.length == 4 && parts.all isByte

/-- A digit of base sixteen. -/
def isHexDigit (c : Char) : Bool :=
  c.isDigit || (decide ('a' ≤ c) && decide (c ≤ 'f')) || (decide ('A' ≤ c) && decide (c ≤ 'F'))

/-- A group of an address of the newer kind. -/
def isGroup (cs : List Char) : Bool :=
  !cs.isEmpty && cs.all isHexDigit && decide (cs.length ≤ 4)

/-- The groups of an address, of which an address of the older kind at the end counts as two. -/
def groups? (cs : List Char) : Option (List (List Char)) :=
  let parts := cs.splitOn ':'
  if parts.length < 3 then none
  else
    match parts.getLast? with
    | some last =>
      if last.contains '.' then
        if isOlder last then some (parts.dropLast ++ [['0'], ['0']]) else none
      else some parts
    | none => none

/-- The groups make an address: eight of them, or fewer with one gap. The gap is an empty group
inside; an empty group at an end stands beside it only. -/
def isComplete (parts : List (List Char)) : Bool :=
  let inner := parts.tail.dropLast
  let gaps := inner.countP List.isEmpty
  if 9 < parts.length then false
  else if gaps = 0 then parts.length == 8 && parts.all isGroup
  else if gaps = 1 then
    let before := parts.take (1 + inner.findIdx List.isEmpty)
    let after := parts.drop (2 + inner.findIdx List.isEmpty)
    let before := if before = [[]] then [] else before
    let after := if after = [[]] then [] else after
    before.all isGroup && after.all isGroup && decide (before.length + after.length ≤ 7)
  else false

/-- An address of the newer kind, perhaps with the name of a zone behind a percent sign. -/
def isNewer (cs : List Char) : Bool :=
  match Text.cutAt '%' cs with
  | some (_, []) => false
  | some (address, zone) => !zone.contains '%' && (groups? address).any isComplete
  | none => (groups? cs).any isComplete

/-- An address of a kind still to come: its version in base sixteen, a point, and more. -/
def isFuture (cs : List Char) : Bool :=
  match cs with
  | 'v' :: rest =>
    let version := rest.takeWhile isHexDigit
    match rest.dropWhile isHexDigit with
    | '.' :: tail => !version.isEmpty && !tail.isEmpty && !tail.contains '\n'
    | _ => false
  | _ => false

/-- Refuses a host in brackets that does not belong there. -/
def checkBracketed (cs : List Char) : Except Fault Unit :=
  if cs.head? = some 'v' then
    if isFuture cs then .ok () else .error .futureAddressInvalid
  else if isOlder cs then .error .olderAddressBracketed
  else if isNewer cs then .ok ()
  else .error (.notAddress (String.ofList cs))

/-- The characters that stand for a separator of an address, or for a text with one, beyond the
separators themselves. -/
def separatorTable : Text.CharTable :=
  [(0x2047, 0x2049), (0x2100, 0x2101), (0x2105, 0x2106), (0x2a74, 0x2a74), (0xfe13, 0xfe13),
    (0xfe16, 0xfe16), (0xfe55, 0xfe56), (0xfe5f, 0xfe5f), (0xfe6b, 0xfe6b), (0xff03, 0xff03),
    (0xff0f, 0xff0f), (0xff1a, 0xff1a), (0xff1f, 0xff20)]

/-- What follows the last at sign of a host: the host itself, without a user before it. -/
def withoutUser (host : List Char) : List Char :=
  (host.reverse.takeWhile (· != '@')).reverse

/-- What a host with brackets in it has in them. Nothing may stand before them, and nothing but a
port behind a colon after them. Brackets that belong to the user only leave the host up to its
first colon, which then stands for what they hold. -/
def bracketed (host : List Char) : Except Fault (List Char) :=
  let own := withoutUser host
  match Text.cutAt '[' own with
  | none => .ok ((Text.cutAt ':' own).elim own (·.1))
  | some (_ :: _, _) => .error .bracketUnpaired
  | some ([], tail) =>
    match Text.cutAt ']' tail with
    | none | some (_, []) | some (_, ':' :: _) => .ok ((Text.cutAt ']' tail).elim tail (·.1))
    | some _ => .error .bracketUnpaired

/-- Refuses the brackets of a host if one kind of them is missing, if they stand at a wrong place,
or if what they hold is no address. -/
def checkBrackets (host : List Char) : Except Fault Unit :=
  match host.contains '[', host.contains ']' with
  | false, false => .ok ()
  | true, true => do checkBracketed (← bracketed host)
  | _, _ => .error .bracketUnpaired

/-- Refuses a host with a character that stands for a separator. -/
def checkSeparators (host : List Char) : Except Fault Unit :=
  if host.any separatorTable.contains then .error (.separatorInHost (String.ofList host))
  else .ok ()

end RequestLog.Store.Host
