import Conform.Error
import Conform.Message
import Conform.Json.Read
import Conform.Json.Shape
/-!
Compiler configuration: the mode a schema compiles to when its root declares none, and
message templates that replace the built-in ones kind by kind.

A configuration is read from JSON text as one object with the optional members
`default_mode` (`"sync"` or `"async"`) and `messages` (an object of strings), other members
skipped; an array gives the two members by position. A failure names its place in the text.
Read leniently from a JSON value, any malformed configuration gives the defaults.
-/
namespace Conform

/-- Compiler configuration. -/
structure Config where
  defaultMode : Mode := .sync
  /-- Template overrides by kind; a later setting of a kind replaces an earlier one. -/
  messages : List (String × String) := []
  deriving Inhabited

namespace Config

def withDefaultMode (c : Config) (m : Mode) : Config := { c with defaultMode := m }

def withMessage (c : Config) (kind template : String) : Config :=
  { c with messages := Members.insert c.messages kind template }

/-- The catalogue a compiler uses: the built-in templates with the overrides applied. -/
def buildMessages (c : Config) : Messages :=
  c.messages.foldl (fun m (k, t) => m.set k t) Messages.defaults

def sortedPairs (ps : List (String × String)) : List (String × String) :=
  ps.mergeSort (fun a b => decide (a.1 ≤ b.1))

/-- The configuration as JSON, template kinds in sorted order. -/
def toJson (c : Config) : Json :=
  .obj [("default_mode", .str c.defaultMode.name),
    ("messages", .obj ((sortedPairs c.messages).map fun (k, t) => (k, .str t)))]

end Config

namespace ConfigText

open Json Json.Reader

/-- How the configuration is named when the text has the wrong shape. -/
def configName : String := "struct ZiCompilerConfig"

/-- Fails with the shape of the value about to be read, where `expected` was wanted; the value
is read first when it is a scalar, so the failure stands after it. -/
def invalidAhead {α : Type} (expected : String) (fuel : Nat) : Reader α := do
  let found ← match ← peek? with
    | some 'n' => do bump; readIdent ['u', 'l', 'l']; pure (some Json.null)
    | some 't' => do bump; readIdent ['r', 'u', 'e']; pure (some (Json.bool true))
    | some 'f' => do bump; readIdent ['a', 'l', 's', 'e']; pure (some (Json.bool false))
    | some '-' => do bump; pure (some (Json.num (← readNumber false fuel)))
    | some '"' => do bump; pure (some (Json.str (← readString fuel)))
    | some '[' => pure (some (Json.arr []))
    | some '{' => pure (some (Json.obj []))
    | some c =>
      if isDigit c then do pure (some (Json.num (← readNumber true fuel))) else pure none
    | none => pure none
  match found with
  | some v => fail (.shape (invalidType (shapeText v) expected))
  | none => failAhead .expectedValue

def readColon : Reader Unit := do
  match ← peekPastBlank with
  | some ':' => bump
  | some _ => failAhead .expectedColon
  | none => failAhead .eofObject

/-- Reads a mode: a string naming it, or an object whose one key names it with a null value. -/
def readMode (fuel : Nat) : Reader Mode := do
  let name (s : String) : Reader Mode :=
    match Mode.ofName? s with
    | some m => pure m
    | none => fail (.shape s!"unknown variant `{s}`, expected `sync` or `async`")
  match ← peekPastBlank with
  | none => failAhead .eofValue
  | some '"' => do bump; name (← readString fuel)
  | some '{' =>
    bump
    let m ← match ← peekPastBlank with
      | none => failAhead .eofValue
      | some '"' => do bump; name (← readString fuel)
      | some _ => invalidAhead "variant identifier" fuel
    readColon
    match ← peekPastBlank with
    | none => failAhead .eofValue
    | some 'n' => do bump; readIdent ['u', 'l', 'l']
    | some _ => invalidAhead "unit" fuel
    match ← peekPastBlank with
    | some '}' => do bump; pure m
    | some _ => fail .expectedValue
    | none => fail .eofObject
  | some _ => failAhead .expectedValue

def readText (fuel : Nat) : Reader String := do
  match ← peekPastBlank with
  | none => failAhead .eofValue
  | some '"' => do bump; readString fuel
  | some _ => invalidAhead "a string" fuel

/-- Reads the members of an object after its brace, up to and including the closing brace,
handing each key to `entry`, which reads the colon and the value. -/
def readEntries {σ : Type} (entry : String → σ → Reader σ) (fuel : Nat) (init : σ) : Reader σ :=
  go true init fuel
where
  go (first : Bool) (acc : σ) : Nat → Reader σ
    | 0 => failAhead .eofObject
    | n + 1 => do
      match ← peekPastBlank with
      | some '}' => do bump; pure acc
      | some ',' =>
        if first then failAhead .keyMustBeString
        else do
          bump
          match ← peekPastBlank with
          | some '"' => do bump; let k ← readString fuel; go false (← entry k acc) n
          | some '}' => failAhead .trailingComma
          | some _ => failAhead .keyMustBeString
          | none => failAhead .eofValue
      | some '"' =>
        if first then do bump; let k ← readString fuel; go false (← entry k acc) n
        else failAhead .expectedObjectEnd
      | some _ => if first then failAhead .keyMustBeString else failAhead .expectedObjectEnd
      | none => failAhead .eofObject

/-- Reads an object of strings. -/
def readTextMap (fuel : Nat) : Reader (List (String × String)) := do
  match ← peekPastBlank with
  | none => failAhead .eofValue
  | some '{' =>
    bump
    readEntries (fun k acc => do readColon; pure (Members.insert acc k (← readText fuel))) fuel []
  | some _ => invalidAhead "a map" fuel

/-- Fails on a member given twice; the reader first passes blanks and a closing brace. -/
def duplicate {α : Type} (key : String) : Reader α := do
  match ← peekPastBlank with
  | some '}' => bump
  | _ => pure ()
  fail (.shape s!"duplicate field `{key}`")

/-- Reads the members of a configuration object. -/
def configEntry (fuel : Nat) (key : String)
    (acc : Option Mode × Option (List (String × String))) :
    Reader (Option Mode × Option (List (String × String))) :=
  match key with
  | "default_mode" =>
    if acc.1.isSome then duplicate key
    else do readColon; pure (some (← readMode fuel), acc.2)
  | "messages" =>
    if acc.2.isSome then duplicate key
    else do readColon; pure (acc.1, some (← readTextMap fuel))
  | _ => do readColon; skipValue fuel; pure acc

/-- Reads the next element of an array after its bracket, or none at its end. -/
def nextElement {α : Type} (first : Bool) (element : Reader α) : Reader (Option α) := do
  match ← peekPastBlank with
  | some ']' => pure none
  | some ',' =>
    if first then some <$> element
    else do
      bump
      match ← peekPastBlank with
      | some ']' => failAhead .trailingComma
      | some _ => some <$> element
      | none => failAhead .eofValue
  | some _ => if first then some <$> element else failAhead .expectedListEnd
  | none => failAhead .eofList

/-- Reads the end of an array whose elements were all taken. -/
def endItems : Reader Unit := do
  match ← peekPastBlank with
  | some ']' => bump
  | some ',' =>
    bump
    match ← peekPastBlank with
    | some ']' => failAhead .trailingComma
    | _ => failAhead .trailingCharacters
  | some _ => failAhead .trailingCharacters
  | none => failAhead .eofList

/-- Reads a configuration: an object of members, or an array of them by position. -/
def readConfig (fuel : Nat) : Reader Config := do
  match ← peekPastBlank with
  | none => failAhead .eofValue
  | some '{' =>
    bump
    let (mode, messages) ← readEntries (configEntry fuel) fuel (none, none)
    pure { defaultMode := mode.getD .sync, messages := messages.getD [] }
  | some '[' =>
    bump
    let mode ← nextElement true (readMode fuel)
    let messages ← nextElement mode.isNone (readTextMap fuel)
    endItems
    pure { defaultMode := mode.getD .sync, messages := messages.getD [] }
  | some _ => invalidAhead configName fuel

end ConfigText

namespace Config

/-- Reads a configuration from JSON text. -/
def ofJsonText (s : String) : Except Error Config :=
  let fuel := s.length + 1
  match (ConfigText.readConfig fuel).run (Json.Cursor.ofString s) with
  | .error e => .error (.serialization e.message)
  | .ok (c, cur) =>
    let cur := cur.skipBlank
    match cur.rest with
    | [] => .ok c
    | _ => .error (.serialization (cur.failAhead .trailingCharacters).message)

/-- A mode given as a JSON value: a name, or an object whose one key names it with a null
value; null gives none. -/
def modeOfJson? : Json → Option (Option Mode)
  | .null => some none
  | .str s => (Mode.ofName? s).map some
  | .obj [(k, .null)] => (Mode.ofName? k).map some
  | _ => none

/-- Templates given as a JSON object of strings; null gives none. -/
def messagesOfJson? : Json → Option (Option (List (String × String)))
  | .null => some none
  | .obj ms =>
    (ms.mapM fun (p : String × Json) => match p.2 with
      | .str t => some (p.1, t)
      | _ => none).map some
  | _ => none

/-- Reads the two optional parts of a configuration from a JSON value. -/
def partsOfJson? : Json → Option (Option Mode × Option (List (String × String)))
  | .obj ms => do
    let mode ← match ms.lookup "default_mode" with
      | some v => modeOfJson? v
      | none => pure none
    let messages ← match ms.lookup "messages" with
      | some v => messagesOfJson? v
      | none => pure none
    pure (mode, messages)
  | .arr [] => some (none, none)
  | .arr [m] => do pure (← modeOfJson? m, none)
  | .arr [m, t] => do pure (← modeOfJson? m, ← messagesOfJson? t)
  | _ => none

/-- Reads a configuration from a JSON value, falling back to the defaults when it is malformed. -/
def ofJsonLenient (v : Json) : Config :=
  match partsOfJson? v with
  | some (mode, messages) => { defaultMode := mode.getD .sync, messages := messages.getD [] }
  | none => {}

end Config

end Conform
