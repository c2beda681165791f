import RequestLog.Text.CaseTable

/-!
# Letter case

Full case mapping of texts: a character may become several, and a capital sigma becomes the final
form at the end of a word. Header names, flags, option names and channel names are compared after
`lower`; a method and a level name are taken after `upper`.
-/

namespace RequestLog.Text

/-- The mapping of one character by a list of runs; a character in no run stays. -/
def shiftBy (runs : List CaseRun) (c : Char) : Char :=
  match runs.find? (·.covers c.toNat) with
  | some r => Char.ofNat (c.toNat + r.shift).toNat
  | none => c

/-- The mapping of one character by runs and expansions. -/
def mapChar (runs : List CaseRun) (expansions : List (Nat × List Nat)) (c : Char) : List Char :=
  match expansions.lookup c.toNat with
  | some codes => codes.map Char.ofNat
  | none => [shiftBy runs c]

/-- The lower-case form of a character other than a capital sigma. -/
def lowerChar (c : Char) : List Char :=
  if c.toNat < 128 then [c.toLower] else mapChar lowerRuns lowerExpansions c

/-- The upper-case form of a character. -/
def upperChar (c : Char) : List Char :=
  if c.toNat < 128 then [c.toUpper] else mapChar upperRuns upperExpansions c

/-- The first character that is not looked through has letter case. -/
def startsCased (cs : List Char) : Bool :=
  match cs.find? fun c => !caseIgnorableTable.contains c with
  | some c => casedTable.contains c
  | none => false

/--
The lower-case form of `cs` after the characters `before`, nearest first. A capital sigma has its
final form after a letter and not before one.
-/
def lowerAfter : List Char → List Char → List Char
  | _, [] => []
  | before, c :: rest =>
    if c.toNat = 0x3a3 then
      Char.ofNat (if startsCased before && !startsCased rest then 0x3c2 else 0x3c3) ::
        lowerAfter (c :: before) rest
    else lowerChar c ++ lowerAfter (c :: before) rest

/-- The lower-case form of a text. -/
def lower (s : String) : String := String.ofList (lowerAfter [] s.toList)

/-- The upper-case form of a text. -/
def upper (s : String) : String := String.ofList (s.toList.flatMap upperChar)

end RequestLog.Text
