import RequestLog.Store.Host
import RequestLog.Text.Cut

/-!
# Host names

A request names the host that it is meant for, with a port or without one. The name counts only if
it is well formed: letters, digits and some signs, or an address in brackets.
-/

namespace RequestLog.Service.HostName

/-- A sign that may stand in a name. -/
def isSign (c : Char) : Bool := "-._~!$&'()*+,;=".toList.contains c

/-- A name: letters, digits, signs and percent signs, whatever follows them. -/
def isName (cs : List Char) : Bool :=
  !cs.isEmpty && cs.all fun c => c.isAlphanum || isSign c || c == '%'

/-- An address of a kind still to come: a small `v`, its version in base sixteen, a point, and a
name in which colons may stand. -/
def isFuture : List Char → Bool
  | 'v' :: rest =>
    match rest.takeWhile Store.Host.isHexDigit, rest.dropWhile Store.Host.isHexDigit with
    | _ :: _, '.' :: c :: tail => (c :: tail).all fun d => d.isAlphanum || isSign d || d == ':'
    | _, _ => false
  | _ => false

/-- What may stand in brackets: an address without a zone. -/
def isBracketed (cs : List Char) : Bool :=
  (Store.Host.groups? cs).any Store.Host.isComplete || isFuture cs

/-- The largest port. -/
def largestPort : Nat := 65535

/-- What may stand behind a host: nothing, or a colon and a port, of which zeros in front do not
count. -/
def isPort : List Char → Bool
  | [] => true
  | c :: digits => c == ':' && !digits.isEmpty && digits.all Char.isDigit &&
      decide (digits.foldl (fun n d => 10 * n + (d.toNat - 48)) 0 ≤ largestPort)

/-- The name is well formed. -/
def isValid (cs : List Char) : Bool :=
  match cs with
  | '[' :: tail =>
    match Text.cutAt ']' tail with
    | some (address, port) => isBracketed address && isPort port
    | none => false
  | cs => isName (cs.takeWhile (· != ':')) && isPort (cs.dropWhile (· != ':'))

end RequestLog.Service.HostName
