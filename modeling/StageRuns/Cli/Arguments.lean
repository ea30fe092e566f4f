/-
# Command lines

A command line is one of four requests. Flags take a value, which follows as
the next argument or stands in the same one, and may be mixed with the words
of the request; after two dashes alone there are only words. A flag is given
at most once, but for the names of jobs. The format of the output may be asked
for before the request or in it, and the latter counts.

Key definitions: `Cli.Format`, `Cli.Flag`, `Cli.Argument`, `Cli.Request`,
`Cli.Invocation`, `Cli.Invocation.parse`.
-/
namespace StageRuns
namespace Cli

/-- How a result is written. -/
inductive Format where
  | json
  | yaml
deriving Repr, DecidableEq

namespace Format

/-- The name of a format. -/
def text : Format → String
  | json => "json"
  | yaml => "yaml"

/-- All formats. -/
def all : List Format := [json, yaml]

/-- The format of a name. -/
def ofText? (s : String) : Option Format := all.find? fun f => f.text == s

end Format

/-- A flag, which takes a value. -/
inductive Flag where
  | format
  | agents
  | stage
  | user
  | cause
  | job
deriving Repr, DecidableEq

namespace Flag

/-- The name after two dashes. -/
def name : Flag → String
  | format => "format"
  | agents => "agents"
  | stage => "stage"
  | user => "user"
  | cause => "cause"
  | job => "job"

/-- The letter after one dash. -/
def letter? : Flag → Option Char
  | format => some 'f'
  | agents => some 'a'
  | stage => some 's'
  | user => some 'u'
  | cause => none
  | job => some 'j'

/-- May the flag be given more than once? -/
def isRepeatable : Flag → Bool
  | job => true
  | _ => false

/-- May the flag have this value? A path is not empty. -/
def allows : Flag → String → Bool
  | format, value => (Format.ofText? value).isSome
  | agents, value => !value.isEmpty
  | cause, value => !value.isEmpty
  | _, _ => true

end Flag

/-! ### Arguments -/

/-- One argument by its form. -/
inductive Argument where
  | word (text : String)
  /-- Two dashes alone: only words follow. -/
  | onlyWords
  | long (name : String) (value : Option String)
  | short (letter : Char) (rest : List Char)
deriving Repr, DecidableEq

/-- The argument that a text is. One dash alone is a word. -/
def Argument.ofText (s : String) : Argument :=
  match s.toList with
  | ['-', '-'] => .onlyWords
  | '-' :: '-' :: cs =>
    let name := cs.takeWhile (· != '=')
    match cs.drop name.length with
    | _ :: value => .long (String.ofList name) (some (String.ofList value))
    | [] => .long (String.ofList name) none
  | '-' :: c :: cs => .short c cs
  | _ => .word s

/-- Why there is no request to carry out. -/
inductive Stop where
  | help
  | version
  | misuse
deriving Repr, DecidableEq

/-- What may stand in a part of the command line. -/
structure Level where
  flags : List Flag
  /-- The most words that may stand in it. -/
  words : Nat
  /-- Does the first word start a request? -/
  isOuter : Bool
deriving Repr

namespace Level

/-- What an argument says about a flag of the level: the flag, and its value if
that stands in the same argument. -/
def flag (level : Level) : Argument → Except Stop (Flag × Option String)
  | .long "help" none => .error .help
  | .short 'h' _ => .error .help
  | .long "version" none => .error (if level.isOuter then .version else .misuse)
  | .short 'V' _ => .error (if level.isOuter then .version else .misuse)
  | .long name value =>
    match level.flags.find? fun f => f.name == name with
    | some f => .ok (f, value)
    | none => .error .misuse
  | .short letter rest =>
    match level.flags.find? fun f => f.letter? == some letter with
    | some f =>
      match rest with
      | [] => .ok (f, none)
      | '=' :: value => .ok (f, some (String.ofList value))
      | value => .ok (f, some (String.ofList value))
    | none => .error .misuse
  | _ => .error .misuse

end Level

/-- What was given in a part of the command line. -/
structure Given where
  flags : List (Flag × String) := []
  words : List String := []
deriving Repr

namespace Given

/-- With the value of a flag. -/
def withFlag (g : Given) (flag : Flag) (value : String) : Except Stop Given :=
  if flag.allows value && (flag.isRepeatable || !g.flags.any (·.1 == flag)) then
    .ok { g with flags := g.flags ++ [(flag, value)] }
  else .error .misuse

/-- With a word, which is the path of a file. -/
def withWord (most : Nat) (g : Given) (word : String) : Except Stop Given :=
  if !word.isEmpty && g.words.length < most then .ok { g with words := g.words ++ [word] }
  else .error .misuse

/-- The value of a flag. -/
def value? (g : Given) (flag : Flag) : Option String := g.flags.lookup flag

/-- The values of a flag. -/
def values (g : Given) (flag : Flag) : List String :=
  (g.flags.filter (·.1 == flag)).map (·.2)

/-- The arguments of a level, and those that are left at the start of a
request. -/
def read (level : Level) : Given → List String → Except Stop (Given × List String)
  | g, [] => .ok (g, [])
  | g, a :: rest =>
    match Argument.ofText a with
    | .onlyWords => (rest.foldlM (withWord level.words) g).map fun g => (g, [])
    | .word w =>
      if level.isOuter then .ok (g, w :: rest)
      else do read level (← g.withWord level.words w) rest
    | argument => do
      match ← level.flag argument, rest with
      | (flag, some value), rest => read level (← g.withFlag flag value) rest
      | (flag, none), value :: rest =>
        match Argument.ofText value with
        | .word _ => read level (← g.withFlag flag value) rest
        | _ => .error .misuse
      | (_, none), [] => .error .misuse

end Given

/-! ### Requests -/

/-- What is asked for. -/
inductive Request where
  /-- A run of a pipeline, or of one of its stages. -/
  | plan (pipeline : String) (agents stage user cause : Option String)
  /-- A rerun of jobs of a stage. -/
  | rerun (stageFile pipeline : String) (jobs : List String) (agents stage user : Option String)
  /-- The fingerprint of a pipeline. -/
  | fingerprint (pipeline : String)
  /-- The schema of pipelines. -/
  | schema
deriving Repr, DecidableEq

/-- The pipeline that is read if no other is named. -/
def defaultPipeline : String := "pipeline.yaml"

namespace Request

/-- What may stand before a request. -/
def outer : Level := ⟨[.format], 0, true⟩

/-- What may stand in the request of a name. -/
def level? : String → Option Level
  | "plan" => some ⟨[.format, .agents, .stage, .user, .cause], 1, false⟩
  | "rerun" => some ⟨[.format, .agents, .stage, .user, .job], 2, false⟩
  | "fingerprint" => some ⟨[.format], 1, false⟩
  | "schema" => some ⟨[.format], 0, false⟩
  | _ => none

/-- Can help be asked for with these words: on everything, or on one request? -/
def isTopic : List String → Bool
  | [] => true
  | [name] => name == "help" || (level? name).isSome
  | _ => false

/-- The request of a name from what was given in it. -/
def make (name : String) (g : Given) : Except Stop Request :=
  match name, g.words with
  | "plan", words =>
    .ok (.plan (words.headD defaultPipeline) (g.value? .agents) (g.value? .stage) (g.value? .user)
      (g.value? .cause))
  | "rerun", [stageFile, pipeline] =>
    match g.values .job with
    | [] => .error .misuse
    | jobs =>
      .ok (.rerun stageFile pipeline jobs (g.value? .agents) (g.value? .stage) (g.value? .user))
  | "fingerprint", words => .ok (.fingerprint (words.headD defaultPipeline))
  | "schema", _ => .ok .schema
  | _, _ => .error .misuse

end Request

/-- A request and the format that its result is asked for in. -/
structure Invocation where
  format : Option Format
  request : Request
deriving Repr, DecidableEq

/-- The invocation that the arguments are. -/
def Invocation.parse (args : List String) : Except Stop Invocation := do
  let (before, rest) ← Given.read Request.outer {} args
  match rest with
  | [] => .error .misuse
  | "help" :: words => .error (if Request.isTopic words then .help else .misuse)
  | name :: rest =>
    match Request.level? name with
    | none => .error .misuse
    | some level =>
      let (inside, _) ← Given.read level {} rest
      let request ← Request.make name inside
      let format := (inside.value? .format).or (before.value? .format)
      return ⟨format.bind Format.ofText?, request⟩

end Cli
end StageRuns
