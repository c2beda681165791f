import RequestLog.Fault
import RequestLog.Text.LetterCase

/-!
# Headers

The headers of a message in the order in which they came, as bytes. They are looked up by a name
in any letter case, which is lowered first; the stored names are taken to be in lower case. A name
that has no bytes cannot be looked up.
-/

namespace RequestLog

/-- Header names and values as they came. -/
structure Headers where
  entries : List (Bytes × Bytes)
  deriving DecidableEq, Repr

namespace Headers

/-- No headers. -/
def empty : Headers := ⟨[]⟩

instance : Inhabited Headers := ⟨empty⟩

/-- The bytes that a name is looked up by. -/
def lookupKey (name : String) : Except Fault Bytes :=
  match Text.Latin.encode (Text.lower name) with
  | .ok bytes => .ok bytes
  | .error stretch => .error (.headerUnencodable stretch)

/-- The values of the entries with the given name. -/
def valuesAt (h : Headers) (key : Bytes) : List String :=
  (h.entries.filter fun e => e.1 == key).map fun e => Text.Latin.decode e.2

/-- All values of a header in their order. -/
def getAll (h : Headers) (name : String) : Except Fault (List String) :=
  (lookupKey name).map h.valuesAt

/-- The first value of a header. -/
def get? (h : Headers) (name : String) : Except Fault (Option String) :=
  (h.getAll name).map List.head?

end Headers

end RequestLog
