/-
# Reading JSON

A document is built from tokens by a builder that keeps the open brackets on a
stack and knows what may come next. Brackets may nest as deep as the text
likes, but a value more than 127 brackets deep is unreadable. Where a token
does not fit, the builder closes all open brackets around a broken place and
takes in no more: what came before is still there to be read.

Key definitions: `Json.Builder`, `Json.Builder.feed`, `Json.Reading`,
`Json.read`.
-/
import StageRuns.Json.Token

namespace StageRuns
namespace Json

/-- An open bracket with what was read inside it, the latest first, around the
value that is being read. -/
inductive Frame where
  | items (done : List Document)
  | members (done : List (Document × Document)) (key : Document)
deriving Repr

/-- What was read so far and what may come next. -/
inductive Builder where
  /-- A value comes next, or the end of the list if it has no items yet. -/
  | atValue (stack : List Frame) (mayClose : Bool)
  /-- A key comes next, or the end of the object if it has no members yet. -/
  | atKey (stack : List Frame) (done : List (Document × Document)) (mayClose : Bool)
  /-- A colon comes next. -/
  | atColon (stack : List Frame) (done : List (Document × Document)) (key : Document)
  /-- A comma or the end of the list comes next. -/
  | afterItem (stack : List Frame) (done : List Document)
  /-- A comma or the end of the object comes next. -/
  | afterMember (stack : List Frame) (done : List (Document × Document))
  /-- The value is complete; nothing comes next. -/
  | complete (document : Document)
  /-- Something did not fit. -/
  | failed (document : Document)
deriving Repr

namespace Builder

/-- The builder before the first token. -/
def start : Builder := atValue [] false

/-- The deepest nesting that can be read. -/
def maxDepth : Nat := 127

/-- A quoted text as a value or a key. -/
def quotedText : Option String → Document
  | some s => .text s
  | none => .unreadable

/-- A value read inside the open brackets. -/
def place (v : Document) : List Frame → Builder
  | [] => complete v
  | .items done :: stack => afterItem stack (v :: done)
  | .members done key :: stack => afterMember stack ((key, v) :: done)

/-- A list or object closed inside the open brackets. -/
def close (v : Document) (stack : List Frame) : Builder :=
  place (if stack.length < maxDepth then v else .unreadable) stack

/-- The document of the open brackets when the reading stops inside them at a
value. -/
def abandon (v : Document) : List Frame → Document
  | [] => v
  | .items done :: stack => abandon (.array (done.reverse ++ [v, .broken])) stack
  | .members done key :: stack =>
    abandon (.object (done.reverse ++ [(key, v), (.broken, .broken)])) stack

/-- The document when the reading stops inside an object where no value is
being read. -/
def abandonMembers (done : List (Document × Document)) (stack : List Frame) : Document :=
  abandon (.object (done.reverse ++ [(.broken, .broken)])) stack

/-- The document of all that was read when nothing more comes. -/
def stop : Builder → Builder
  | atValue stack _ => failed (abandon .broken stack)
  | atKey stack done _ => failed (abandonMembers done stack)
  | atColon stack done _ => failed (abandonMembers done stack)
  | afterItem stack done => failed (abandon (.array (done.reverse ++ [.broken])) stack)
  | afterMember stack done => failed (abandonMembers done stack)
  | complete v => complete v
  | failed v => failed v

/-- One token. -/
def feed : Builder → Token → Builder
  | atValue stack _, .openArray => atValue (.items [] :: stack) true
  | atValue stack _, .openObject => atKey stack [] true
  | atValue stack _, .scalar v => place v stack
  | atValue stack _, .text s => place (quotedText s) stack
  | atValue (.items [] :: stack) true, .closeArray => close (.array []) stack
  | atKey stack [] true, .closeObject => close (.object []) stack
  | atKey stack done _, .text s => atColon stack done (quotedText s)
  | atColon stack done k, .colon => atValue (.members done k :: stack) false
  | afterItem stack done, .comma => atValue (.items done :: stack) false
  | afterItem stack done, .closeArray => close (.array done.reverse) stack
  | afterMember stack done, .comma => atKey stack done false
  | afterMember stack done, .closeObject => close (.object done.reverse) stack
  | complete v, _ => failed v
  | failed v, _ => failed v
  | builder, _ => stop builder

/-- All tokens in order. -/
def feedAll (builder : Builder) (tokens : List Token) : Builder := tokens.foldl feed builder

end Builder

/-- The outcome of reading a text: its document, and whether all of the text is
one value. -/
structure Reading where
  document : Document
  isWhole : Bool
deriving Repr

/-- The reading of a text. -/
def read (s : String) : Reading :=
  match (Builder.start.feedAll (tokens s.toList)).stop with
  | .complete v => ⟨v, true⟩
  | .failed v => ⟨v, false⟩
  | _ => ⟨.broken, false⟩

end Json
end StageRuns
