import ExtensionProbe.Data.Item
import ExtensionProbe.Json.Writer
import ExtensionProbe.Log.Clock
import ExtensionProbe.Log.Record
import ExtensionProbe.Text.Alphanumeric
import ExtensionProbe.Text.Digit

/-!
# Lines of a log

A record is written as text, by a template that names its attributes, or as one JSON object, with the
attributes that are not its own in a context.
-/

namespace ExtensionProbe.Log

/-- How a record is written. A structured line may tell of the place in a program that the record was
made at. -/
inductive Layout where
  | plain (template : Text)
  | structured (tellsSite : Bool)
deriving DecidableEq, Repr

/-- Why a record has no line. -/
inductive LineError where
  /-- The message or the template is not filled. -/
  | fill (e : Template.Fault)
  /-- A template asks for an attribute that the record does not have. -/
  | attribute (name : Text)
  /-- A value has no form in JSON. -/
  | json (e : Json.WriteError)
  /-- The time is not shown. -/
  | clock (e : ClockError)
  /-- What is told as a failure lacks one of its three parts. -/
  | noPart (e : Data.ItemError)
  /-- A part of what is told as a failure is another value than such a part. -/
  | otherPart
deriving DecidableEq, Repr

/-- The wording of an error, as far as it has one of its own. -/
def LineError.message : LineError → Text
  | .fill e => e.message
  | .attribute name => "Formatting field not found in record: " ++ Text.quote name
  | .json e => e.message
  | .clock e => e.message
  | .noPart e => e.message
  | _ => ""

namespace Layout

/-- The attributes that do not count as further ones. -/
def standardNames : List Text :=
  "message" :: "taskName" :: Record.ownNames

/-- Whether a name is private: it starts with an underscore. -/
def isPrivate (name : Text) : Bool := name.head? == some (.char '_')

/-- The attributes of a record that a context shows: those that are not standard or private. -/
def extras (r : Record) : List (Text × Data) :=
  r.attributes.filter fun a => !standardNames.contains a.1 && !isPrivate a.1

/-- The place in a program that a record was made at. -/
def siteEntries (r : Record) : List (Text × Data) :=
  [("module", r.get "module"), ("function", r.get "funcName"), ("line", r.get "lineno")]

/-- A part of what is told as a failure, by its place. -/
def partOf (d : Data) (index : Nat) : Except LineError Data :=
  (d.item index).mapError .noPart

/-- The wording of a value. -/
def wording (d : Data) : Except LineError Data := do
  pure (.text (← d.display.mapError fun e => .fill (.shown e)))

/-- The three entries for a failure. -/
def failureEntries (kind said trace : Data) : List (Text × Data) :=
  [("error_type", kind), ("error_message", said), ("stack_trace", trace)]

/-- The entries for what is told as a failure of no known kind: no kind comes first, then something that
may be shown, and then no way to it. The trace of nothing is known; one that is at hand is taken. -/
def looseEntries (d cached : Data) : Except LineError (List (Text × Data)) := do
  if !(← partOf d 0).isNothing then .error .otherPart
  let said ← partOf d 1
  let shown ← if said.isNothing then pure .null else wording said
  if !cached.isNothing then pure (failureEntries .null shown cached)
  else
    match ← partOf d 2, said with
    | .null, .null => pure (failureEntries .null shown (.text "NoneType: None"))
    | _, _ => .error .otherPart

/-- The entries for the failure that a record tells of, unless an attribute was set in its place. A trace
that is at hand is not made again. -/
def troubleEntries (r : Record) : Except LineError (List (Text × Data)) := do
  let cached := r.get "exc_text"
  match r.get? "exc_info", r.trouble with
  | some d, _ => if d.isNothing then pure [] else looseEntries d cached
  | none, .none => pure []
  | none, .unknown => looseEntries (Trouble.value .unknown) cached
  | none, .known f =>
    let said ← f.message.mapError fun e => .fill (.shown e)
    pure (failureEntries (.text f.kind) (.text said) (if cached.isNothing then .text f.trace else cached))

/-- What a context has of its own: its source, its place and its failure. -/
def ownEntries (r : Record) (trouble : List (Text × Data)) : List (Text × Data) :=
  ("logger_name", r.get "name") :: (siteEntries r ++ trouble)

/-- The context of a record: what it has of its own, and its further attributes. One of those under a
name that is there replaces the value. -/
def contextEntries (r : Record) : Except LineError (List (Text × Data)) := do
  let own := ownEntries r (← troubleEntries r)
  pure ((extras r).foldl (fun es a => Record.put a.1 a.2 es) own)

/-- Whether an entry of a context tells of the place in a program. -/
def isSiteName (name : Text) : Bool :=
  name == "module" || name == "function" || name == "line"

/-- A record as one JSON object with at most so many levels of nesting. -/
def structuredLine (limit : Nat) (tellsSite : Bool) (r : Record) : Except LineError Text := do
  let context ← contextEntries r
  let message ← r.message.mapError .fill
  let time ← (Clock.timestamp (r.get "created")).mapError .clock
  let shown := if tellsSite then context else context.filter fun e => !isSiteName e.1
  let s ← (Json.write limit .line (.record
    [("level", r.get "levelname"), ("message", .text message), ("timestamp", .text (time.textWith "T")),
      ("context", .mapping shown)])).mapError .json
  pure s

/-- The text of a time in a line: the day, the time, and the milliseconds after a comma. -/
def timeText (r : Record) : Except LineError Text := do
  let time ← (Clock.text (r.get "created")).mapError .clock
  (Template.fill "%s,%03d" (.tuple [.text time, r.get "msecs"])).mapError .fill

/-- A record as text, its failure on lines of its own after it. -/
def plainLine (template : Text) (r : Record) : Except LineError Text := do
  let message ← r.message.mapError .fill
  let r := (r.set "exc_info" r.trouble.value).set "message" (.text message)
  let r ←
    if Text.occursIn "%(asctime)" template then
      (fun t => r.set "asctime" (.text t)) <$> timeText r
    else pure r
  let s ← (Template.fill template (.mapping r.attributes)).mapError fun e =>
    match e with
    | .missing name => .attribute name
    | e => .fill e
  match r.trouble.trace? with
  | none => pure s
  | some trace => pure (if s.getLast? = some '\n' then s ++ trace else s ++ "\n" ++ trace)

/-- The line of a record; JSON has room for so many levels of nesting. -/
def line (limit : Nat) (layout : Layout) (r : Record) : Except LineError Text :=
  match layout with
  | .plain template => plainLine template r
  | .structured tellsSite => structuredLine limit tellsSite r

/-- Whether a character stands for a way to write a value, in small or capital letters. -/
def isConversion (c : Char) : Bool :=
  "diouxefgcrsa%".toList.contains c.toLower || c = '\u0130' || c = '\u0131' || c = '\u017f'

/-- The text after a star or digits at its start. -/
def dropCount : Text → Text
  | .char '*' :: rest => rest
  | s => s.dropWhile (Code.is Text.isDecimal)

/-- Whether a text starts with a field that has a name. -/
def startsWithField : Text → Bool
  | .char '%' :: .char '(' :: rest =>
    match rest.takeWhile (Code.is Text.isWordChar), rest.dropWhile (Code.is Text.isWordChar) with
    | _ :: _, .char ')' :: rest =>
      let afterWidth := dropCount (rest.dropWhile Template.isFlag)
      let afterPlaces :=
        match afterWidth with
        | .char '.' :: rest =>
          let after := dropCount rest
          if after.length < rest.length then after else afterWidth
        | s => s
      match afterPlaces with
      | c :: _ => c.is isConversion
      | [] => false
    | _, _ => false
  | _ => false

/-- Whether a text is a template of lines: it has a field that names an attribute. -/
def isTemplate : Text → Bool
  | [] => false
  | c :: rest => startsWithField (c :: rest) || isTemplate rest

end Layout

end ExtensionProbe.Log
