/-
# Files of variables

A file of variables sets those variables of the environment that are not set
yet. Each statement has a name, an equals sign and a value, and ends with its
line, unless the line leaves a quote open. Between single quotes every
character stands for itself. Elsewhere a dollar sign stands in front of a
variable whose value is put in, a backslash takes the meaning from a character,
and outside of quotes a blank ends the value. A statement that makes no sense
ends the file.

Key definitions: `Cli.VariableFile.statements`, `Cli.VariableFile.readValue`,
`Cli.VariableFile.readStatement`, `Cli.VariableFile.extend`.
-/
import StageRuns.Text.Blank

namespace StageRuns
namespace Cli
namespace VariableFile

/-- The name of the file of variables. -/
def fileName : String := ".env"

/-- Variables with their values. -/
abbrev Environment := List (String × String)

/-! ### Statements -/

/-- What a statement would leave open if it ended here. -/
inductive Openness where
  | nothing
  /-- Nothing, but there was a blank, after which a comment may start. -/
  | blank
  /-- A backslash. -/
  | escape
  | quote (mark : Char)
  /-- A backslash between quotes. -/
  | quoteEscape (mark : Char)
deriving Repr, DecidableEq

/-- What is open after one more character. -/
def Openness.next (s : Openness) (c : Char) : Openness :=
  match s with
  | quote mark => if c = '\\' then quoteEscape mark else if c = mark then nothing else quote mark
  | quoteEscape mark => quote mark
  | escape => nothing
  | s =>
    if c = '\\' then escape
    else if c = '"' || c = '\'' then quote c
    else if s = nothing && Text.isBlank c && c != '\n' && c != '\r' then blank
    else nothing

/-- The characters of a line up to a comment, and what is open at its end if there
is no comment. -/
def scanLine (s : Openness) : List Char → List Char × Option Openness
  | [] => ([], some s)
  | c :: cs =>
    if s = .blank && c = '#' then ([], none)
    else
      let (kept, last) := scanLine (s.next c) cs
      (c :: kept, last)

/-- The lines of a text, with their line feeds. -/
def linesOf : List Char → List (List Char)
  | [] => []
  | c :: cs =>
    if c = '\n' then ['\n'] :: linesOf cs
    else
      match linesOf cs with
      | [] => [[c]]
      | line :: lines => (c :: line) :: lines

/-- Is there nothing but a comment? -/
def isVoid (cs : List Char) : Bool := cs.head?.all (· == '#')

/-- The statements that lines write, of which `start` has been read. A statement
that something leaves open at the end of the file is none. -/
def joinLines (start : List Char) (s : Openness) : List (List Char) → List (List Char)
  | [] => []
  | line :: lines =>
    let whole := start ++ line
    if (Text.trimStart whole).head? == some '#' then joinLines [] .nothing lines
    else
      match scanLine s line with
      | (kept, none) => (start ++ kept) :: joinLines [] .nothing lines
      | (_, some .nothing) => whole :: joinLines [] .nothing lines
      | (_, some s) => joinLines whole s lines

/-- The statements of a file, which a byte order mark may start. -/
def statements (text : String) : List (List Char) :=
  joinLines [] .nothing (linesOf (match text.toList with
    | '\ufeff' :: cs => cs
    | cs => cs))

/-! ### Values -/

/-- Where in a value the next character stands. -/
inductive Spot where
  /-- Outside of single quotes. -/
  | outside (inDouble : Bool)
  /-- After a backslash. -/
  | escape (inDouble : Bool)
  /-- Between single quotes. -/
  | single
  /-- In the name of a variable after a dollar sign. -/
  | name (inDouble : Bool) (name : List Char)
  /-- In the name of a variable between braces. -/
  | braces (inDouble : Bool) (name : List Char)
  /-- After the value. -/
  | after
deriving Repr, DecidableEq

/-- The value of a variable, if it is set. -/
def valueOf (environment : Environment) (name : List Char) : List Char :=
  ((environment.lookup (String.ofList name)).getD "").toList

/-- The value that characters write. The character that ends the name of a variable
stands for itself. -/
def readValue (environment : Environment) : Spot → List Char → Option (List Char)
  | .outside inDouble, [] => if inDouble then none else some []
  | .escape inDouble, [] => if inDouble then none else some []
  | .single, [] => none
  | .name inDouble name, [] => if inDouble then none else some (valueOf environment name)
  | .braces _ _, [] => none
  | .after, [] => some []
  | .outside inDouble, c :: cs =>
    if c = '$' then readValue environment (.name inDouble []) cs
    else if c = '\\' then readValue environment (.escape inDouble) cs
    else if c = '"' then readValue environment (.outside !inDouble) cs
    else if inDouble then (readValue environment (.outside true) cs).map (c :: ·)
    else if c = '\'' then readValue environment .single cs
    else if c = ' ' || c = '\t' then readValue environment .after cs
    else (readValue environment (.outside false) cs).map (c :: ·)
  | .escape inDouble, c :: cs =>
    if ['\\', '\'', '"', '$', ' '].contains c then
      (readValue environment (.outside inDouble) cs).map (c :: ·)
    else if c = 'n' then (readValue environment (.outside inDouble) cs).map ('\n' :: ·)
    else none
  | .single, c :: cs =>
    if c = '\'' then readValue environment (.outside false) cs
    else (readValue environment .single cs).map (c :: ·)
  | .name inDouble name, c :: cs =>
    if c.isAlphanum then readValue environment (.name inDouble (name ++ [c])) cs
    else if c = '\x7b' && name.isEmpty then readValue environment (.braces inDouble []) cs
    else
      let value := valueOf environment name
      if c = '$' then (readValue environment (.name inDouble []) cs).map (value ++ ·)
      else (readValue environment (.outside inDouble) cs).map (value ++ c :: ·)
  | .braces inDouble name, c :: cs =>
    if c = '\x7d' then
      (readValue environment (.outside inDouble) cs).map (valueOf environment name ++ ·)
    else readValue environment (.braces inDouble (name ++ [c])) cs
  | .after, c :: cs =>
    if c = ' ' || c = '\t' then readValue environment .after cs
    else if c = '#' then some []
    else none

/-! ### Assignments -/

/-- The name that starts the characters, and the rest after blanks. -/
def readName (cs : List Char) : Option (String × List Char) :=
  let name := cs.takeWhile fun c => c.isAlphanum || c = '_' || c = '.'
  if cs.head?.any fun c => c.isAlpha || c = '_' then
    some (String.ofList name, Text.trimStart (cs.drop name.length))
  else none

/-- The name of a statement, and what follows its equals sign after blanks. The
word `export` may stand in front of the name. -/
def readTarget (cs : List Char) : Option (String × List Char) := do
  match ← readName cs with
  | (name, '=' :: rest) => return (name, Text.trimStart rest)
  | ("export", rest) =>
    match ← readName rest with
    | (name, '=' :: rest) => return (name, Text.trimStart rest)
    | _ => none
  | _ => none

/-- The variable that a statement sets, if it sets one. -/
def readStatement (environment : Environment) (statement : List Char) :
    Option (Option (String × String)) := do
  let cs := Text.trimChars statement
  if isVoid cs then return none
  else
    let (name, rest) ← readTarget cs
    let value ← if isVoid rest then some [] else readValue environment (.outside false) rest
    return some (name, String.ofList value)

/-- The environment with one more variable, unless it is set. -/
def setNew (environment : Environment) (name value : String) : Environment :=
  if (environment.lookup name).isSome then environment else environment ++ [(name, value)]

/-- The environment after statements, up to one that makes no sense. -/
def run (environment : Environment) : List (List Char) → Environment
  | [] => environment
  | statement :: rest =>
    match readStatement environment statement with
    | none => environment
    | some none => run environment rest
    | some (some (name, value)) => run (setNew environment name value) rest

/-- The environment with the variables of the file, if there is one. -/
def extend (environment : Environment) : Option String → Environment
  | some text => run environment (statements text)
  | none => environment

end VariableFile
end Cli
end StageRuns
