import AdlTables.Dialect
import AdlTables.Text.Numeral

/-! # Options

The command line of the tool, read as argparse reads it in the first releases of 3.11. A long flag
may be cut short as long as one flag alone is meant, and short flags may be written in one argument.
The files stand together in one place; behind the end mark everything is a file. A request for help
counts where it comes, but not in front of an argument that could mean several flags.

Later releases, such as 3.11.10, differ where the value of a flag is the end mark (`-I--`), where an
equals sign stands among short flags (`-v=Ix`, `-vI=x`) and where letters behind a request for help
are no flags (`-vhx`).
-/

namespace AdlTables

/-- Why a command line gives no options. -/
inductive Refusal where
  | help
  | usage
deriving DecidableEq, Repr

/-- What a flag asks for. -/
inductive Flag where
  | help
  | searchDir
  | outfile
  | outputDir
  | dialect (d : Dialect)
  | config
  | verbose
  | noColor
deriving DecidableEq, Repr

/-- What a command line says. -/
structure Options where
  adlFiles : List String
  /-- The directories to search; one that was lost is none. -/
  searchDirs : List (Option String)
  outfile : Option String
  outputDir : Option String
  dialect : Option Dialect
  config : Option String
  verbose : Bool
  noColor : Bool
deriving DecidableEq, Repr

namespace Flag

def all : List (String × Flag) := [
  ("-h", help), ("--help", help), ("-I", searchDir), ("--searchdir", searchDir),
  ("--outfile", outfile), ("--outputdir", outputDir),
  ("--postgres", dialect .postgres), ("--postgres-v2", dialect .postgresV2),
  ("--mssql", dialect .mssql), ("-c", config), ("--config", config),
  ("-v", verbose), ("--verbose", verbose), ("--no-color", noColor)]

def hasValue : Flag → Bool
  | searchDir => true
  | outfile => true
  | outputDir => true
  | config => true
  | _ => false

end Flag

/-- What is written behind a flag in the same argument. -/
inductive Attached where
  | nothing
  /-- The value behind a long flag and an equals sign. -/
  | value (s : String)
  /-- The letters behind a short flag, with or without an equals sign: its value, or further short
  flags. -/
  | letters (chars : List Char)
deriving DecidableEq, Repr

/-- What an argument is taken for. -/
inductive Argument where
  /-- A value or a file. -/
  | word (s : String)
  /-- The mark behind which all arguments are files. -/
  | endMark
  | flag (f : Flag) (attached : Attached)
  /-- A flag that there is not. -/
  | unknown
deriving DecidableEq, Repr

namespace Argument

def endText : String := "--"

/-- Whether characters are a negative number, which is no flag. -/
def isNegative : List Char → Bool
  | '-' :: rest =>
    let whole := rest.takeWhile Text.isScriptDigit
    match rest.drop whole.length with
    | [] => !whole.isEmpty
    | '.' :: fraction => !fraction.isEmpty && fraction.all Text.isScriptDigit
    | _ => false
  | _ => false

/-- An argument that starts like a flag but names none; a line feed at the end of a number counts
for nothing. -/
def unnamed (chars : List Char) : Argument :=
  if isNegative (Text.dropLineEnd chars) || chars.contains ' ' then .word (String.ofList chars)
  else .unknown

/-- The flag that a long argument means by the start of its name. -/
def abbreviated (chars name : List Char) (attached : Attached) : Except Refusal Argument :=
  match Flag.all.filter fun entry => name.isPrefixOf entry.1.toList with
  | [] => .ok (unnamed chars)
  | [(_, f)] => .ok (.flag f attached)
  | _ => .error .usage

/-- The flag that a short argument means, with what is written behind its letter. -/
def short (chars : List Char) : Argument :=
  match Flag.all.lookup (String.ofList (chars.take 2)) with
  | some f => .flag f (.letters (chars.drop 2))
  | none => unnamed chars

/-- What an argument in front of the end mark is taken for. -/
def ofString (s : String) : Except Refusal Argument :=
  let chars := s.toList
  let name := chars.takeWhile (· != '=')
  let behind := chars.drop (name.length + 1)
  match chars with
  | '-' :: second :: _ =>
    let attached : Attached :=
      if name.length = chars.length then .nothing
      else if second = '-' then .value (String.ofList behind) else .letters behind
    match Flag.all.lookup s, Flag.all.lookup (String.ofList name) with
    | some f, _ => .ok (.flag f .nothing)
    | none, some f => .ok (.flag f attached)
    | none, none => if second = '-' then abbreviated chars name attached else .ok (short chars)
  | _ => .ok (.word s)

def ofStrings : List String → Except Refusal (List Argument)
  | [] => .ok []
  | s :: rest =>
    if s = endText then .ok (.endMark :: rest.map .word)
    else do
      let first ← ofString s
      return first :: (← ofStrings rest)

/-- Whether an argument is a file or the end mark. -/
def isLoose : Argument → Bool
  | word _ => true
  | endMark => true
  | _ => false

/-- The text of an argument that is a file or the end mark. -/
def text : Argument → String
  | word s => s
  | _ => endText

end Argument

namespace Options

def empty : Options := ⟨[], [], none, none, none, none, false, false⟩

/-- What an argument that starts with a flag says. -/
structure Step where
  /-- Flags with their values, which are empty for flags without. -/
  settings : List (Flag × String)
  /-- The arguments that follow. -/
  rest : List Argument

/-- What a flag and the letters behind it say; the last flag may take the next argument. -/
def bundle (f : Flag) : List Char → List Argument → Except Refusal Step
  | [], rest =>
    if f.hasValue then match rest with
      | .word s :: rest => .ok ⟨[(f, s)], rest⟩
      | _ => .error .usage
    else .ok ⟨[(f, "")], rest⟩
  | letter :: letters, rest =>
    if f.hasValue then .ok ⟨[(f, String.ofList (letter :: letters))], rest⟩
    else match Flag.all.lookup (String.ofList ['-', letter]) with
      | none => .error .usage
      | some next => do
        let others ← bundle next letters rest
        return { others with settings := (f, "") :: others.settings }

/-- What a flag says with what is written behind it. -/
def stepOf (f : Flag) (rest : List Argument) : Attached → Except Refusal Step
  | .nothing => bundle f [] rest
  | .letters [] => if f.hasValue then .ok ⟨[(f, "")], rest⟩ else .error .usage
  | .letters chars => bundle f chars rest
  | .value s => if f.hasValue then .ok ⟨[(f, s)], rest⟩ else .error .usage

/-- Options with a flag's setting; there is no more than one dialect, and a value that is the end
mark is lost. -/
def apply (o : Options) (setting : Flag × String) : Except Refusal Options :=
  let (f, text) := setting
  let value := if text = Argument.endText then none else some text
  match f with
  | .help => .error .help
  | .searchDir => .ok { o with searchDirs := o.searchDirs ++ [value] }
  | .outfile => .ok { o with outfile := value }
  | .outputDir => .ok { o with outputDir := value }
  | .dialect d => if o.dialect.all (· == d) then .ok { o with dialect := some d } else .error .usage
  | .config => .ok { o with config := value }
  | .verbose => .ok { o with verbose := true }
  | .noColor => .ok { o with noColor := true }

/-- What the reading of a command line has come to. -/
structure Progress where
  options : Options
  /-- Whether the files were given. -/
  hasFiles : Bool
  /-- Whether something was left over. -/
  hasMore : Bool

/-- Takes loose arguments that stand together for the files, without the first end mark. -/
def Progress.take (p : Progress) (loose : List Argument) : Progress :=
  if loose.isEmpty then p
  else if p.hasFiles then { p with hasMore := true }
  else
    let files := (loose.map Argument.text).erase Argument.endText
    { p with options := { p.options with adlFiles := files }, hasFiles := true }

/-- Reads arguments; `fuel` is at least their number. -/
def read : Nat → Progress → List Argument → Except Refusal Progress
  | 0, p, _ => .ok p
  | fuel + 1, p, arguments =>
    let loose := arguments.takeWhile Argument.isLoose
    let p := p.take loose
    match arguments.drop loose.length with
    | [] => .ok p
    | .flag f attached :: rest => do
      let step ← stepOf f rest attached
      let options ← step.settings.foldlM apply p.options
      read fuel { p with options := options } step.rest
    | _ :: rest => read fuel { p with hasMore := true } rest

/-- The options that a command line gives. -/
def parse (arguments : List String) : Except Refusal Options := do
  let arguments ← Argument.ofStrings arguments
  let p ← read (arguments.length + 1) ⟨empty, false, false⟩ arguments
  if p.hasMore then .error .usage else return p.options

/-- The settings that options give, by their names. -/
def given (o : Options) : List (String × Value) :=
  let text (s : Option String) : Value := (s.map Value.text).getD .null
  let dir (s : Option String) : Value := (s.map Value.text).getD (.list [])
  [("adl_files", .texts o.adlFiles), ("search_dirs", .list (o.searchDirs.map dir)),
    ("outfile", text o.outfile), ("output_dir", text o.outputDir),
    ("dialect", text (o.dialect.map Dialect.name))]

end Options

end AdlTables
