import RequestLog.Misfit
import RequestLog.Text.Ascii
import RequestLog.Text.Quoted
import RequestLog.Text.Utf8

/-!
# Faults

What can go wrong, by cause. `Fault.message` is the one place where a cause gets its wording, and
`Fault.kind` sorts the causes into kinds; those of the store's own kinds are store faults. A fault
that a component outside the library reports comes with its kind and its wording. It may also be
one that nobody can word: whoever asks for its wording is met with another fault.
-/

namespace RequestLog

/-- The kinds of fault. -/
inductive FaultKind where
  /-- a value of a wrong kind -/
  | type
  /-- a value that is not acceptable -/
  | value
  /-- a key that is not there -/
  | key
  /-- an operation that the value does not have -/
  | operation
  /-- an operation at the wrong time -/
  | state
  /-- a number out of range -/
  | range
  /-- a division by zero -/
  | division
  /-- a connection that failed, other than the store's -/
  | connection
  /-- a text that has no bytes -/
  | encoding
  /-- bytes that have no text -/
  | decoding
  /-- a document that cannot be written -/
  | writing
  /-- values that do not fit a form -/
  | misfit
  /-- a store that is set up wrongly -/
  | storeConfiguration
  /-- a store that cannot be reached -/
  | storeConnection
  /-- a store that does not answer in time -/
  | storeTimeout
  deriving DecidableEq, Repr

/-- The fault is one of the store's own. -/
def FaultKind.isStore : FaultKind → Bool
  | storeConfiguration | storeConnection | storeTimeout => true
  | _ => false

/-- What went wrong. -/
inductive Fault where
  /-- a template that is no text -/
  | templateNotText
  /-- a template without characters -/
  | templateEmpty
  /-- a token registered under an empty name or no text -/
  | tokenNameInvalid
  /-- a token registered with something that cannot be called -/
  | resolverNotCallable (name : String)
  /-- a format defined as neither a template nor a builder -/
  | formatUnusable (name : String)
  /-- a format asked for by neither a name nor a builder -/
  | selectorUnusable
  /-- a default format that no definition has -/
  | defaultUndefined (name : String)
  /-- a key that may change -/
  | unhashable (typeName : String)
  /-- a key that is not there -/
  | missingKey (key : String)
  /-- a change to a record -/
  | recordReadOnly
  /-- a header name beyond the first 256 characters -/
  | headerUnencodable (stretch : Text.Latin.Unencodable)
  /-- a part of a query in bytes that spells more than ASCII -/
  | queryUnencodable (stretch : Text.Latin.Unencodable)
  /-- an address in bytes that are no ASCII -/
  | addressUndecodable (found : Text.Ascii.Undecodable)
  /-- bytes that should be a text and are none -/
  | undecodable (defect : Text.Utf8.Defect)
  /-- bytes in a document that are no text -/
  | bytesUnwritable (defect : Text.Utf8.Defect)
  /-- a document of too many levels -/
  | tooDeep
  /-- an object in a document that is known by its presentation only -/
  | unwritable (typeName : String)
  /-- values that do not fit a form -/
  | misfits (form : String) (found : List Misfit)
  /-- a text that is no integer -/
  | integerMalformed (text : String)
  /-- an integer with too many digits -/
  | integerTooLong (digits : Nat)
  /-- an integer that has too many digits to be written -/
  | integerUnwritable
  /-- a text that is no fractional value -/
  | fractionMalformed (text : String)
  /-- a value where an integer should be -/
  | integerExpected (typeName : String)
  /-- an integer beyond all fractional values -/
  | integerTooLarge
  /-- a rounding that leads beyond all fractional values -/
  | roundedTooLarge
  /-- an operation that the value does not have -/
  | noOperation (typeName operation : String)
  /-- a text where bytes should be -/
  | bytesExpected
  /-- a text where an integer should be, in a sequence of bytes -/
  | bytesElement (typeName : String)
  /-- a value that is no sequence -/
  | notIterable (typeName : String)
  /-- a value that is called and cannot be -/
  | notCallable (typeName : String)
  /-- a pair of a mapping that is no sequence -/
  | pairNotSequence (index : Nat)
  /-- a pair of a mapping that has another length -/
  | pairLength (index length : Nat)
  /-- a computed setting that is set -/
  | settingComputed (name : String)
  /-- a setting that does not exist -/
  | settingUnknown (name : String)
  /-- a name that stands for the settings themselves -/
  | settingsTwice (name : String)
  /-- a part of the settings that cannot be set -/
  | settingFixed (name : String)
  /-- a value of a kind that an operation does not take, in the operation's own words -/
  | unsuitable (wording : String)
  /-- a debug channel that does not exist -/
  | channelUnknown (name : String)
  /-- a level name that does not exist -/
  | levelUnknown (name : String)
  /-- a level that is neither a number nor a name -/
  | levelNotNamed (literal : String)
  /-- a line format without a proper placeholder -/
  | lineFormatInvalid (format : String)
  /-- a target of which some parts are missing -/
  | targetIncomplete (missing : List String)
  /-- an insert submitted where nothing runs it -/
  | nothingRuns
  /-- an address with a bracket that has no partner -/
  | bracketUnpaired
  /-- a bracketed host of a later kind, malformed -/
  | futureAddressInvalid
  /-- a bracketed host that is no address -/
  | notAddress (host : String)
  /-- a bracketed host that is an address of the older kind -/
  | olderAddressBracketed
  /-- a host with a character that stands for a separator -/
  | separatorInHost (host : String)
  /-- a fault reported from outside the library -/
  | reported (kind : FaultKind) (wording : String)
  /-- a fault reported from outside the library without a wording: asking for it is another fault -/
  | wordless (kind : FaultKind) (instead : Fault)
  deriving DecidableEq, Repr

namespace Fault

/-- The kind of a fault. -/
def kind : Fault → FaultKind
  | templateNotText | resolverNotCallable _ | formatUnusable _ | selectorUnusable | unhashable _
  | recordReadOnly | integerExpected _ | bytesExpected | bytesElement _ | notIterable _
  | notCallable _ | pairNotSequence _ | settingUnknown _ | settingsTwice _ | unsuitable _
  | levelNotNamed _ => .type
  | templateEmpty | tokenNameInvalid | defaultUndefined _ | integerMalformed _ | integerTooLong _
  | integerUnwritable | fractionMalformed _ | pairLength .. | channelUnknown _ | levelUnknown _
  | lineFormatInvalid _ | bracketUnpaired | futureAddressInvalid | notAddress _
  | olderAddressBracketed | separatorInHost _ => .value
  | missingKey _ => .key
  | noOperation .. | settingComputed _ | settingFixed _ => .operation
  | nothingRuns => .state
  | integerTooLarge | roundedTooLarge => .range
  | headerUnencodable _ | queryUnencodable _ => .encoding
  | addressUndecodable _ | undecodable _ => .decoding
  | bytesUnwritable _ | tooDeep | unwritable _ => .writing
  | misfits .. => .misfit
  | targetIncomplete _ => .storeConfiguration
  | reported k _ | wordless k _ => k

/-- The fault is one of the store's own. -/
def isStoreFault (f : Fault) : Bool := f.kind.isStore

/-- A stretch of characters without bytes, in an encoding of so many characters. -/
def unencodableMessage (encoding : String) (size : Nat) (u : Text.Latin.Unencodable) : String :=
  "'" ++ encoding ++ "' codec can't encode " ++
    (if u.length = 1 then
      "character '" ++ String.ofList (Text.Quoted.byCode u.char) ++ "' in position " ++
        toString u.start
    else
      "characters in position " ++ toString u.start ++ "-" ++ toString (u.start + u.length - 1)) ++
    ": ordinal not in range(" ++ toString size ++ ")"

/-- A stretch of bytes without a text: its first byte if it is the only one, and its place. -/
def undecodableMessage (encoding : String) (first : UInt8) (position length : Nat)
    (reason : String) : String :=
  "'" ++ encoding ++ "' codec can't decode " ++
    (if length = 1 then
      "byte 0x" ++ String.ofList (Text.Quoted.hexDigits 2 first.toNat) ++ " in position " ++
        toString position
    else "bytes in position " ++ toString position ++ "-" ++ toString (position + length - 1)) ++
    ": " ++ reason

/-- What is wrong with bytes that are no text. -/
def flawMessage : Text.Utf8.Flaw → String
  | .noStart => "invalid start byte"
  | .noContinuation => "invalid continuation byte"
  | .cutShort => "unexpected end of data"

/-- What keeps a document from being written. -/
def writingMessage (reason : String) : String := "Error serializing to JSON: " ++ reason

/-- A stretch of bytes that is no text, as whoever writes documents reports it. -/
def defectMessage (d : Text.Utf8.Defect) : String :=
  (match d.flaw with
    | .cutShort => "incomplete utf-8 byte sequence"
    | _ => "invalid utf-8 sequence of " ++ toString d.length ++ " bytes") ++
    " from index " ++ toString d.position

/-- The wording of a fault, or the fault that asking for it is. -/
def message : Fault → Except Fault String
  | templateNotText => .ok "argument format must be a string"
  | templateEmpty => .ok "argument format must not be empty"
  | tokenNameInvalid => .ok "token name must be a non-empty string"
  | resolverNotCallable name => .ok ("resolver for token '" ++ name ++ "' must be callable")
  | formatUnusable name => .ok ("format '" ++ name ++ "' must be a template string or a callable")
  | selectorUnusable => .ok "argument format must be a string or a callable"
  | defaultUndefined name => .ok ("default format '" ++ name ++ "' is not defined")
  | unhashable typeName => .ok ("unhashable type: '" ++ typeName ++ "'")
  | missingKey key => .ok (Text.Quoted.quote key)
  | recordReadOnly => .ok "'Record' object does not support item assignment"
  | headerUnencodable stretch => .ok (unencodableMessage "latin-1" 256 stretch)
  | queryUnencodable stretch => .ok (unencodableMessage "ascii" 128 stretch)
  | addressUndecodable u =>
    .ok (undecodableMessage "ascii" u.byte u.position 1 "ordinal not in range(128)")
  | undecodable d =>
    .ok (undecodableMessage "utf-8" d.first d.position d.length (flawMessage d.flaw))
  | bytesUnwritable d => .ok (writingMessage (defectMessage d))
  | tooDeep => .ok (writingMessage "ValueError: Maximum serialization depth exceeded")
  | unwritable typeName =>
    .ok (writingMessage ("PydanticSerializationError: Unable to serialize unknown type: <class '" ++
      typeName ++ "'>"))
  | misfits form found => .ok (Misfit.report form found)
  | integerMalformed text =>
    .ok ("invalid literal for int() with base 10: " ++
      String.ofList ((Text.Quoted.quote text).toList.take 200))
  | integerTooLong digits =>
    .ok ("Exceeds the limit (4300 digits) for integer string conversion: value has " ++
      toString digits ++ " digits; use sys.set_int_max_str_digits() to increase the limit")
  | fractionMalformed text => .ok ("could not convert string to float: " ++ Text.Quoted.quote text)
  | integerUnwritable =>
    .ok ("Exceeds the limit (4300 digits) for integer string conversion; " ++
      "use sys.set_int_max_str_digits() to increase the limit")
  | integerExpected typeName | bytesElement typeName =>
    .ok ("'" ++ typeName ++ "' object cannot be interpreted as an integer")
  | integerTooLarge => .ok "int too large to convert to float"
  | roundedTooLarge => .ok "rounded value too large to represent"
  | noOperation typeName operation =>
    .ok ("'" ++ typeName ++ "' object has no attribute '" ++ operation ++ "'")
  | bytesExpected => .ok "a bytes-like object is required, not 'str'"
  | notIterable typeName => .ok ("'" ++ typeName ++ "' object is not iterable")
  | notCallable typeName => .ok ("'" ++ typeName ++ "' object is not callable")
  | pairNotSequence index =>
    .ok ("cannot convert dictionary update sequence element #" ++ toString index ++
      " to a sequence")
  | pairLength index length =>
    .ok ("dictionary update sequence element #" ++ toString index ++ " has length " ++
      toString length ++ "; 2 is required")
  | settingComputed name =>
    .ok ("property '" ++ name ++ "' of 'Settings' object has no setter")
  | settingUnknown name =>
    .ok ("Settings.__init__() got an unexpected keyword argument '" ++ name ++ "'")
  | settingsTwice name =>
    .ok ("Settings.__init__() got multiple values for argument '" ++ name ++ "'")
  | settingFixed name => .ok ("attribute '" ++ name ++ "' of 'Settings' objects is not writable")
  | unsuitable wording => .ok wording
  | channelUnknown name =>
    .ok ("unknown debug channel '" ++ name ++
      "', expected one of ['core', 'database', 'middleware']")
  | levelUnknown name => .ok ("Unknown level: " ++ Text.Quoted.quote name)
  | levelNotNamed literal => .ok ("Level not an integer or a valid string: " ++ literal)
  | lineFormatInvalid format => .ok ("Invalid format '" ++ format ++ "' for '%' style")
  | targetIncomplete missing =>
    .ok ("persistence target is incomplete, missing: " ++ ", ".intercalate missing)
  | nothingRuns => .ok "no running event loop"
  | bracketUnpaired => .ok "Invalid IPv6 URL"
  | futureAddressInvalid => .ok "IPvFuture address is invalid"
  | notAddress host =>
    .ok (Text.Quoted.quote host ++ " does not appear to be an IPv4 or IPv6 address")
  | olderAddressBracketed => .ok "An IPv4 address cannot be in brackets"
  | separatorInHost host =>
    .ok ("netloc '" ++ host ++ "' contains invalid characters under NFKC normalization")
  | reported kind wording => .ok (if kind = .key then Text.Quoted.quote wording else wording)
  | wordless _ instead => .error instead

end Fault

end RequestLog
