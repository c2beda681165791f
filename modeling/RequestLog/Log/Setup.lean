import RequestLog.Log.LineFormat
import RequestLog.LogLine
import RequestLog.Text.Blank
import RequestLog.Text.LetterCase
import RequestLog.Value.Elements
import RequestLog.Value.Literal

/-!
# Setting up the log

The library writes its log through one logger with handlers, under a level. Three channels can be
opened for debugging without lowering the level of everything else. Setting up forgets what was
set up before; an entry is written once to each handler if the level of its logger lets it
through.
-/

namespace RequestLog.Log

/-- The channels that can be opened for debugging. -/
inductive DebugChannel where
  | middleware
  | database
  | core
  deriving DecidableEq, Repr

namespace DebugChannel

/-- All channels in order. -/
def all : List DebugChannel := [middleware, database, core]

/-- The name that a channel is opened by. -/
def name : DebugChannel → String
  | middleware => "middleware"
  | database => "database"
  | core => "core"

/-- The channel with a name. -/
def ofName? (name : String) : Option DebugChannel := all.find? fun c => c.name == name

end DebugChannel

/-- The name of the logger of the whole library. -/
def packageName : String := "logmongo"

/-- Where entries are written to. -/
inductive Handler where
  | console
  | file
  deriving DecidableEq, Repr

/-- The levels of the library's logger and of its channels, and the handlers with the format that
they write by. A level of zero is no level of its own. -/
structure Setup where
  package : Int := 0
  middleware : Int := 0
  database : Int := 0
  core : Int := 0
  handlers : List Handler := []
  format : String := LineFormat.plain

namespace Setup

/-- The level of a channel. -/
def channel (s : Setup) : DebugChannel → Int
  | .middleware => s.middleware
  | .database => s.database
  | .core => s.core

/-- Gives a channel a level. -/
def setChannel (s : Setup) (c : DebugChannel) (level : Int) : Setup :=
  match c with
  | .middleware => { s with middleware := level }
  | .database => { s with database := level }
  | .core => { s with core := level }

/-- The level of everything that has none. -/
def rootLevel : Int := 30

/-- The level at which debugging is logged. -/
def debugLevel : Int := 10

/-- The logger is the one of that name or below it. -/
def isUnder (name logger : String) : Bool :=
  logger == name || (name ++ ".").toList.isPrefixOf logger.toList

/-- The level from which on a logger of the library lets entries through: that of its channel, or
of the library, or of everything. -/
def effective (s : Setup) (logger : String) : Int :=
  let own := DebugChannel.all.find? fun c => isUnder (packageName ++ "." ++ c.name) logger
  let level := own.elim 0 s.channel
  if !isUnder packageName logger then rootLevel
  else if level ≠ 0 then level
  else if s.package ≠ 0 then s.package
  else rootLevel

/-- The logger lets an entry of that level through. -/
def lets (s : Setup) (logger : String) (level : Int) : Bool :=
  decide (0 < level) && decide (s.effective logger ≤ level)

/-- The entry is one of the library, and its logger lets it through. -/
def admits (s : Setup) (e : Entry) : Bool :=
  isUnder packageName e.logger && s.lets e.logger e.level

/-- The lines that an entry writes to a handler: one for each time that the handler is there. -/
def lines (s : Setup) (handler : Handler) (e : Entry) : List String :=
  if s.admits e then
    (s.handlers.filter (· = handler)).filterMap fun _ => LineFormat.write? s.format e
  else []

/-- What an entry writes to a handler. -/
def written (s : Setup) (handler : Handler) (e : Entry) : String :=
  String.join ((s.lines handler e).map (· ++ "\n"))

/-- How the table of line styles presents itself. -/
def stylesLiteral : String :=
  "\x7b'%': (<class 'logging.PercentStyle'>, '%(levelname)s:%(name)s:%(message)s'), " ++
    "'\x7b': (<class 'logging.StrFormatStyle'>, " ++
    "'\x7blevelname\x7d:\x7bname\x7d:\x7bmessage\x7d'), " ++
    "'$': (<class 'logging.StringTemplateStyle'>, " ++
    "'$\x7blevelname\x7d:$\x7bname\x7d:$\x7bmessage\x7d')\x7d"

/-- The level names that a setup can be given, in capitals. Two names stand for things that are no
level; any other text stands for the level of information. -/
def levelOf (name : String) : Except Fault Int :=
  match Text.upper name with
  | "CRITICAL" | "FATAL" => .ok 50
  | "ERROR" => .ok 40
  | "WARN" | "WARNING" => .ok 30
  | "DEBUG" => .ok 10
  | "NOTSET" => .ok 0
  | "BASIC_FORMAT" => .error (.levelUnknown "%(levelname)s:%(name)s:%(message)s")
  | "_STYLES" => .error (.levelNotNamed stylesLiteral)
  | _ => .ok 20

/-- The level that a value stands for. -/
def levelOfValue (v : Value) : Except Fault Int :=
  match v with
  | .text name => levelOf name
  | .bytes _ | .buffer _ =>
    .error (.unsuitable ("attribute name must be string, not '" ++ v.typeName ++ "'"))
  | v => .error (.noOperation v.typeName "upper")

/-- The line format that a value stands for; whatever is empty stands for the plain one. -/
def formatOf (v : Value) : Except Fault String :=
  if !v.truth then .ok LineFormat.plain
  else do
    let s ← v.searched
    if LineFormat.isAcceptable s.toList then return s else .error (.lineFormatInvalid s)

/-- The channel that an element of a list of channels names, whatever its case and the blanks
around it. -/
def channelOf (v : Value) : Except Fault DebugChannel :=
  match v with
  | .text name =>
    match DebugChannel.ofName? (Text.lower (Text.trim name)) with
    | some c => .ok c
    | none => .error (.channelUnknown name)
  | .bytes b => .error (.channelUnknown (Text.Quoted.quoteBytes b))
  | .buffer _ => .error (.unhashable v.typeName)
  | v => .error (.noOperation v.typeName "strip")

/-- Opens channels one after another, up to the first name that no channel has. -/
def openAll : List Value → Setup → Except Fault Unit × Setup
  | [], s => (.ok (), s)
  | v :: rest, s =>
    match channelOf v with
    | .ok c => openAll rest (s.setChannel c debugLevel)
    | .error f => (.error f, s)

/-- Opens the channels that a value names. -/
def enable (channels : Value) (s : Setup) : Except Fault Unit × Setup :=
  match channels.elements with
  | .ok names => openAll names s
  | .error f => (.error f, s)

/-- What a setup is asked for. -/
structure Wanted where
  level : Value := .text "INFO"
  format : Value := .absent
  file : Bool := false
  channels : Value := .tuple []

/-- The line format of a setup that does not give one. -/
def usualFormat : String := "%(asctime)s - %(name)s - %(levelname)s - %(message)s"

/-- Sets up the log. A level that does not exist changes nothing; a format that is not acceptable
leaves the log without handlers; and a channel that does not exist stops the opening of
channels. -/
def install (wanted : Wanted) (s : Setup) : Except Fault Unit × Setup :=
  match levelOfValue wanted.level with
  | .error f => (.error f, s)
  | .ok level =>
    let s := { s with package := level, handlers := [] }
    match formatOf (if wanted.format.isAbsent then .text usualFormat else wanted.format) with
    | .error f => (.error f, s)
    | .ok format =>
      let handlers := .console :: (if wanted.file then [.file] else [])
      enable wanted.channels
        { s with handlers := handlers, format := format, middleware := 0, database := 0, core := 0 }

/-- The line of the library passes the levels of the setup. -/
def letsLine (s : Setup) (l : LogLine) : Bool := s.lets l.channel.name l.level.number

end Setup

/-- The names in a list of channels between commas. -/
def channelNames (v : Value) : Except Fault (List String) :=
  if !v.truth then .ok []
  else
    match v with
    | .text s =>
      .ok (((s.toList.splitOn ',').map fun p => Text.trim (String.ofList p)).filter (· ≠ ""))
    | .bytes _ | .buffer _ => .error .bytesExpected
    | v => .error (.noOperation v.typeName "split")

end RequestLog.Log
