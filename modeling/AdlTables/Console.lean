import AdlTables.Layout
import AdlTables.Narration
import AdlTables.Text.Blank

/-! # The console

How journal entries are shown. On a terminal the whole text of an entry is coloured. Warnings and
errors have the colour of their level and all else that of the sign at its front; the rules around
the title of a phase stand out as well.
-/

namespace AdlTables

/-- How entries are shown. -/
structure Console where
  layout : Layout
  isColored : Bool
  /-- The lines that follow a message on a failure. -/
  trace : List String

namespace Console

/-- What starts a colour or a weight. -/
def paint (code : String) : String :=
  "\x1b[" ++ code ++ "m"

/-- What ends all colours. -/
def plain : String := paint "0"

/-- Heavy letters. -/
def bold : String := paint "1"

def markerColor : Marker → String
  | .success => paint "92" ++ bold
  | .progress => paint "94"
  | .highlight => paint "96"

/-- Whether a message, blanks in front removed, belongs to the head of a phase. -/
def isPhaseHead (message : String) : Bool :=
  Text.trim message == rule || ("  ".isPrefixOf message && Text.isUpper message)

/-- The colour of a message by its sign, blanks in front removed. -/
def signColor? (message : String) : Option String :=
  match [Marker.success, .progress, .highlight].find? fun m => m.sign.isPrefixOf message with
  | some m => some (markerColor m)
  | none => if isPhaseHead message then some (bold ++ markerColor .highlight) else none

/-- The colour of an entry, none for plain messages. -/
def color? (level : Level) (message : String) : Option String :=
  match level with
  | .warning => some (paint "33")
  | .error => some (paint "31")
  | .critical => some (paint "35")
  | .info => signColor? (Text.trimStart message)
  | .debug => some ((signColor? (Text.trimStart message)).getD (paint "36"))

/-- The text of a message and of the trace behind it, none if the layout does not fit. -/
def format (c : Console) (level : Level) (message : String) (isTraced : Bool) : Option String := do
  let text ← c.layout.apply level message
  let text := "\n".intercalate (text :: if isTraced then c.trace else [])
  match if c.isColored then color? level message else none with
  | some color => return color ++ text ++ plain
  | none => return text

/-- An entry as it is written, with the end of its line. -/
def write (c : Console) : Entry → String
  | .message level text isTraced => ((c.format level text isTraced).map (· ++ "\n")).getD ""
  | .line text => text ++ "\n"

/-- Entries as they are written, those below a level left out. -/
def writeAll (c : Console) (least : Level) (entries : List Entry) : String :=
  String.join ((entries.filter (·.isShownAt least)).map c.write)

end Console

end AdlTables
