import RequestLog.Act
import RequestLog.LogLine
import RequestLog.Number.Numeral
import RequestLog.Table
import RequestLog.Text.Blank
import RequestLog.Text.LetterCase
import RequestLog.Value.Literal

/-!
# Settings

Settings say where records go, how they are made and how the log is written. Each has a default;
what is given when they are made comes before the default, and a variable of the environment
before both. One set of settings is in force at a time. It is made when it is first asked for and
stays until it is dropped; `configure` changes its fields.
-/

namespace RequestLog

/-- The settings. Any value can be given for a setting; it counts as it is used. -/
structure Settings where
  address : Value := .text ""
  database : Value := .text ""
  collection : Value := .text ""
  selectionTimeout : Value := .int 5000
  format : Value := .text "default"
  immediate : Value := .bool false
  queryLimit : Value := .int 1000
  logLevel : Value := .text "INFO"
  lineFormat : Value := .text "%(asctime)s - %(name)s - %(levelname)s - %(message)s"
  debugChannels : Value := .text ""
  /-- A value that was put in the place of the summary, if there is one. -/
  summaryHidden : Option Value := none
  deriving Inhabited

namespace Settings

/-- The settings by name. -/
inductive Field where
  | address
  | database
  | collection
  | selectionTimeout
  | format
  | immediate
  | queryLimit
  | logLevel
  | lineFormat
  | debugChannels
  deriving DecidableEq, Repr

namespace Field

/-- All settings in order. -/
def all : List Field :=
  [address, database, collection, selectionTimeout, format, immediate, queryLimit, logLevel,
    lineFormat, debugChannels]

/-- The name under which a setting is given. -/
def name : Field → String
  | address => "mongodb_uri"
  | database => "db_name"
  | collection => "collection"
  | selectionTimeout => "server_selection_timeout_ms"
  | format => "log_format"
  | immediate => "immediate"
  | queryLimit => "query_limit"
  | logLevel => "log_level"
  | lineFormat => "log_line_format"
  | debugChannels => "debug_channels"

/-- The setting with a name. -/
def ofName? (name : String) : Option Field := all.find? fun f => f.name == name

/-- The setting is part of the target, which is only replaced by something. -/
def isTarget : Field → Bool
  | address | database | collection => true
  | _ => false

end Field

/-- The value of a setting. -/
def get (s : Settings) : Field → Value
  | .address => s.address
  | .database => s.database
  | .collection => s.collection
  | .selectionTimeout => s.selectionTimeout
  | .format => s.format
  | .immediate => s.immediate
  | .queryLimit => s.queryLimit
  | .logLevel => s.logLevel
  | .lineFormat => s.lineFormat
  | .debugChannels => s.debugChannels

/-- The settings with another value for one. -/
def set (s : Settings) (f : Field) (v : Value) : Settings :=
  match f with
  | .address => { s with address := v }
  | .database => { s with database := v }
  | .collection => { s with collection := v }
  | .selectionTimeout => { s with selectionTimeout := v }
  | .format => { s with format := v }
  | .immediate => { s with immediate := v }
  | .queryLimit => { s with queryLimit := v }
  | .logLevel => { s with logLevel := v }
  | .lineFormat => { s with lineFormat := v }
  | .debugChannels => { s with debugChannels := v }

/-- Address, database and collection are all given. -/
def hasTarget (s : Settings) : Bool :=
  s.address.truth && s.database.truth && s.collection.truth

/-- The settings that a summary shows, in order. The address may hold a password and is not
shown. -/
def summary (s : Settings) : Except Fault Fields :=
  match s.summaryHidden with
  | some v => .error (.notCallable v.typeName)
  | none => .ok
    [(Field.name .address, .text (if s.address.truth then "***" else "")),
      (Field.name .database, s.database), (Field.name .collection, s.collection),
      (Field.name .selectionTimeout, s.selectionTimeout), (Field.name .format, s.format),
      (Field.name .immediate, s.immediate), (Field.name .queryLimit, s.queryLimit),
      (Field.name .logLevel, s.logLevel), (Field.name .debugChannels, s.debugChannels)]

/-- The variables of the environment. -/
abbrev Environment := Table String

/-- The words that switch something on. -/
def onWords : List String := ["1", "true", "yes", "on"]

/-- The words that switch something off. -/
def offWords : List String := ["0", "false", "no", "off"]

/-- The line that reports a switch with another word. -/
def ignoredLine (name text : String) : LogLine :=
  ⟨.warning, .settings, "Ignoring " ++ name ++ "=" ++ Text.Quoted.quote text ++
    ": expected one of " ++
    "(" ++ ", ".intercalate ((onWords ++ offWords).map Text.Quoted.quote) ++ ")"⟩

/-- What a variable that is a switch says; the default if it says nothing, or nothing known. -/
def switch {σ : Type} (env : Environment) (name : String) (default : Value) :
    Act LogLine σ Value :=
  match env.get? name with
  | none => pure default
  | some text =>
    let word := Text.trim text
    if word = "" then pure default
    else if Text.lower word ∈ onWords then pure (.bool true)
    else if Text.lower word ∈ offWords then pure (.bool false)
    else do
      Act.note (ignoredLine name text)
      return default

/-- What a variable that is a text says, the empty text included. -/
def textVariable (env : Environment) (name : String) (default : Value) : Value :=
  (env.get? name).elim default .text

/-- What a variable that is a number says, unless it is empty. -/
def numberVariable (env : Environment) (name : String) (default : Value) :
    Except Fault Value :=
  match env.get? name with
  | none | some "" => .ok default
  | some text =>
    match Numeral.readInt text with
    | .ok n => .ok (.int n)
    | .error .malformed => .error (.integerMalformed text)
    | .error (.tooLong digits) => .error (.integerTooLong digits)

/-- The variable that a text setting is read from. -/
def textVariables : List (Field × String) :=
  [(.address, "MONGODB_URI"), (.database, "LOGMONGO_DB_NAME"), (.collection, "LOGMONGO_COLLECTION"),
    (.format, "LOGMONGO_FORMAT"), (.logLevel, "LOG_LEVEL"), (.debugChannels, "LOGMONGO_DEBUG")]

/-- The settings with what the environment says. -/
def overlay {σ : Type} (env : Environment) (s : Settings) : Act LogLine σ Settings := do
  let s := textVariables.foldl (fun s p => s.set p.1 (textVariable env p.2 (s.get p.1))) s
  let immediate ← switch env "LOGMONGO_IMMEDIATE" s.immediate
  let limit ← Act.ofExcept (numberVariable env "LOGMONGO_QUERY_LIMIT" s.queryLimit)
  let timeout ← Act.ofExcept
    (numberVariable env "LOGMONGO_SERVER_SELECTION_TIMEOUT_MS" s.selectionTimeout)
  return { s with immediate := immediate, queryLimit := limit, selectionTimeout := timeout }

/-- The name that stands for the settings themselves while they are made. -/
def ownName : String := "self"

/-- The settings with the given values in place of the defaults. Every name must be a setting's. -/
def given : List (String × Value) → Settings → Except Fault Settings
  | [], s => .ok s
  | (name, v) :: rest, s =>
    match Field.ofName? name with
    | some f => given rest (s.set f v)
    | none => .error (if name = ownName then .settingsTwice name else .settingUnknown name)

/-- Makes settings of given values and the environment. -/
def make {σ : Type} (env : Environment) (values : List (String × Value)) :
    Act LogLine σ Settings := do overlay env (← Act.ofExcept (given values {}))

/-- The settings with a value under any name, as it is. -/
def putEntry (s : Settings) (name : String) (v : Value) : Settings :=
  match Field.ofName? name with
  | some f => s.set f v
  | none => if name = "to_dict" then { s with summaryHidden := some v } else s

/-- The settings with nothing but the given entries: everything else is as it is by default. -/
def ofEntries (entries : Fields) : Settings :=
  entries.foldl (fun s e => s.putEntry e.1 e.2) {}

/-- The settings with another value under any name. What is computed from the fields cannot be set;
all entries can be replaced at once by a mapping; a name that is no setting's is ignored. -/
def replace (s : Settings) (name : String) (v : Value) : Except Fault Settings :=
  match name with
  | "target_configured" => .error (.settingComputed name)
  | "__weakref__" => .error (.settingFixed name)
  | "__dict__" =>
    match v with
    | .mapping entries => .ok (ofEntries entries)
    | v => .error (.unsuitable ("__dict__ must be set to a dictionary, not a '" ++ v.typeName ++
        "'"))
  | "__class__" =>
    .error (.unsuitable ("__class__ must be set to a class, not '" ++ v.typeName ++
      "' object"))
  | _ => .ok (s.putEntry name v)

/-- The settings with other values under some names, one after another. -/
def replaceAll (values : Fields) (s : Settings) : Except Fault Settings :=
  values.foldlM (fun s e => s.replace e.1 e.2) s

/-- The value is given for a part of the target. -/
def isTargetName (name : String) : Bool := (Field.ofName? name).any Field.isTarget

/-- The settings after one value is given under any name. A part of the target is only replaced by
something. -/
def assign (s : Settings) (name : String) (v : Value) : Except Fault Settings :=
  if isTargetName name && !v.truth then .ok s else s.replace name v

/-- The settings as far as the values can be given one after another, and the fault that stopped
it. The target comes first. -/
def assignAll : List (String × Value) → Settings → Except Fault Unit × Settings
  | [], s => (.ok (), s)
  | (name, v) :: rest, s =>
    match s.assign name v with
    | .ok s => assignAll rest s
    | .error f => (.error f, s)

end Settings

/-- The environment, the settings in force if there are any, and how often they were made. -/
structure Configuration where
  environment : Settings.Environment := Table.empty
  current : Option (Nat × Settings) := none
  made : Nat := 0

namespace Configuration

/-- The settings in force, with the number under which they were made; they are made now if there
are none. -/
def settings : Act LogLine Configuration (Nat × Settings) := do
  let c ← Act.get
  match c.current with
  | some found => return found
  | none => do
    let s ← Settings.make c.environment []
    Act.modify fun c => { c with current := some (c.made, s), made := c.made + 1 }
    return (c.made, s)

/-- Changes the settings in force. -/
def configure (values : List (String × Value)) : Act LogLine Configuration (Nat × Settings) := do
  let (number, s) ← settings
  let (target, others) := values.partition fun p => Settings.isTargetName p.1
  let (result, s) := Settings.assignAll (target ++ others) s
  Act.modify fun c => { c with current := some (number, s) }
  Act.ofExcept result
  return (number, s)

/-- Drops the settings in force, so that they are made anew when they are next asked for. -/
def reset (c : Configuration) : Configuration := { c with current := none }

end Configuration

end RequestLog
