import RequestLog.Store.Host
import RequestLog.Text.LetterCase
import RequestLog.Text.Percent

/-!
# Connection addresses

The address of a store is a scheme, a host and perhaps a path and a query of options. Whether a
connection is encrypted is decided by the options first and by the scheme otherwise
(`isEncrypted`).
-/

namespace RequestLog.Store.Address

/-- Controls and spaces before an address do not belong to it. -/
def isControl (c : Char) : Bool := decide (c.toNat ≤ 0x20)

/-- A character that is left out of an address wherever it stands. -/
def isIgnored (c : Char) : Bool := c == '\t' || c == '\r' || c == '\n'

/-- The characters of an address that count. -/
def cleaned (url : String) : List Char :=
  (url.toList.dropWhile isControl).filter fun c => !isIgnored c

/-- A character of a scheme. -/
def isSchemeChar (c : Char) : Bool := c.isAlphanum || c == '+' || c == '-' || c == '.'

/-- An address without its scheme and the colon after it. -/
def withoutScheme (cs : List Char) : List Char :=
  match Text.cutAt ':' cs with
  | some (c :: scheme, rest) => if c.isAlpha && scheme.all isSchemeChar then rest else cs
  | _ => cs

/-- A character that ends a host. -/
def endsHost (c : Char) : Bool := c == '/' || c == '?' || c == '#'

/-- The host of an address without scheme, and what follows it. -/
def splitHost (cs : List Char) : List Char × List Char :=
  match cs with
  | '/' :: '/' :: rest => (rest.takeWhile (!endsHost ·), rest.dropWhile (!endsHost ·))
  | _ => ([], cs)

/-- The query of an address. -/
def query (url : String) : Except Fault (List Char) := do
  let (host, rest) := splitHost (withoutScheme (cleaned url))
  Host.checkBrackets host
  let rest := (Text.cutAt '#' rest).elim rest (·.1)
  Host.checkSeparators host
  return (Text.cutAt '?' rest).elim [] (·.2)

/-- The options of an address, names and values in lower case. -/
def options (url : String) : Except Fault (List (String × String)) := do
  let fields := Text.Percent.fields .dropped (← query url)
  return fields.map fun f => (Text.lower f.1, Text.lower f.2)

/-- A name or a value in a query of bytes, which has to be ASCII. -/
def checkAscii (s : String) : Except Fault Unit :=
  match Text.Ascii.firstUnencodable? s with
  | none => .ok ()
  | some stretch => .error (.queryUnencodable stretch)

/-- The options of an address in bytes, which have to be ASCII as they are and as they are
spelled. -/
def asciiOptions (url : Bytes) : Except Fault (List (String × String)) := do
  let text ← (Text.Ascii.decode url).mapError Fault.addressUndecodable
  let fields := Text.Percent.fields .dropped (← query text)
  fields.forM fun f => do checkAscii f.1; checkAscii f.2
  return fields.map fun f => (Text.lower f.1, Text.lower f.2)

/-- The scheme that stands for an encrypted connection. -/
def encryptedScheme : String := "mongodb+srv://"

/-- The connection is encrypted: as the last option of the one name says, else as the last of the
other name, else as the scheme says. -/
def isEncrypted (url : String) : Except Fault Bool := do
  let found ← options url
  match (Text.Percent.last? "tls" found).or (Text.Percent.last? "ssl" found) with
  | some value => return value == "true"
  | none => return encryptedScheme.toList.isPrefixOf url.toList

end RequestLog.Store.Address
