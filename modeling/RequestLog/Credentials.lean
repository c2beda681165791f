import RequestLog.Text.Base64
import RequestLog.Text.Cut
import RequestLog.Text.Utf8
import RequestLog.Value.Basic

/-!
# Credentials

A request may give a user name and a password in its authorization header: the word basic, and
the base64 form of both with a colon between them. They are only read here, not checked. `read`
takes whatever stands for the header and keeps the failures that it does not provide for;
`ofHeader?` is what it comes to for a text.
-/

namespace RequestLog

/-- A user name and a password. -/
structure Credentials where
  name : String
  password : String
  deriving DecidableEq, Repr

namespace Credentials

/-- A character of a token other than the padding. -/
def isTokenChar (c : Char) : Bool :=
  c.isAlphanum || c == '.' || c == '_' || c == '~' || c == '+' || c == '/' || c == '-'

/-- Removes one line end at the end of a text. -/
def dropFinalNewline (cs : List Char) : List Char :=
  if cs.getLast? = some '\n' then cs.dropLast else cs

/-- The word that names the scheme, in any letter case, and what follows it. -/
def afterScheme? : List Char → Option (List Char)
  | b :: a :: s :: i :: c :: rest =>
    if [b, a, s, i, c].map Char.toLower = ['b', 'a', 's', 'i', 'c'] then some rest else none
  | _ => none

/-- The token of an authorization header: its characters before the padding, and how many padding
signs follow. -/
def token? (header : List Char) : Option (List Char × Nat) := do
  let rest ← afterScheme? (header.dropWhile (· = ' '))
  let blanks := rest.takeWhile (· = ' ')
  guard (blanks ≠ [])
  let rest := rest.dropWhile (· = ' ')
  let body := rest.takeWhile isTokenChar
  guard (body ≠ [])
  let rest := rest.dropWhile isTokenChar
  let pads := rest.takeWhile (· = '=')
  let rest := rest.dropWhile (· = '=')
  guard (dropFinalNewline (rest.dropWhile (· = ' ')) = [])
  return (body, pads.length)

/-- The two sides of the first colon of a text; the second side must be one line. -/
def ofPair? (cs : List Char) : Option Credentials := do
  let (name, password) ← Text.cutAt ':' cs
  let password := dropFinalNewline password
  guard ('\n' ∉ password)
  return ⟨String.ofList name, String.ofList password⟩

/-- Why a token stands for no text. -/
inductive Flaw where
  /-- it gives no bytes -/
  | base64 (flaw : Text.Base64.Flaw)
  /-- its bytes are not well formed -/
  | utf8
  deriving DecidableEq, Repr

/-- The flaw is one that a reader of headers provides for. It does not expect a token with
characters beyond the first 128. -/
def Flaw.isProvidedFor : Flaw → Bool
  | base64 .notAscii => false
  | base64 .loneDigit | base64 .unpadded | utf8 => true

/-- The text that a token stands for. -/
def decoded (token : List Char) : Except Flaw String := do
  let bytes ← (Text.Base64.read token).mapError .base64
  match Text.Utf8.decode? bytes with
  | some pair => return pair
  | none => .error .utf8

/-- Reads the value of an authorization header. A value that is no text, a text that is no such
header, a token with a flaw that is provided for and a text without a colon give nothing. -/
def read (header : Value) : Except Flaw (Option Credentials) :=
  match header with
  | .text h =>
    match token? h.toList with
    | none => .ok none
    | some (body, pads) =>
      match decoded (body ++ List.replicate pads '=') with
      | .ok pair => .ok (ofPair? pair.toList)
      | .error flaw => if flaw.isProvidedFor then .ok none else .error flaw
  | _ => .ok none

/-- The credentials that an authorization header gives. -/
def ofHeader? (header : String) : Option Credentials := do
  let (body, pads) ← token? header.toList
  let bytes ← Text.Base64.decode? body pads
  let pair ← Text.Utf8.decode? bytes
  ofPair? pair.toList

end Credentials

end RequestLog
