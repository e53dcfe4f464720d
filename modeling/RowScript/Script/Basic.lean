import RowScript.Script.Error
import RowScript.Text.Reader
import RowScript.Token.Lexer

/-!
Scripts and their statements. A line holds statements between semicolons, and a
semicolon inside quotes separates nothing. Quotes never reach beyond their line,
and a quote left open runs to the end of it, for the lexer to report. A
statement keeps its line and the byte offset of its arguments in that line, so
that an error in the arguments can be told in places of the line.
-/

namespace RowScript

/-- One invocation of a directive. -/
structure Statement where
  /-- Number of the line, counted from one. -/
  line : Nat
  name : String
  /-- The text behind the name, without the white space around it. -/
  arguments : String
  /-- Byte offset of the arguments in the line. -/
  offset : Nat
deriving DecidableEq

namespace Statement

def tokens (s : Statement) : Except ScriptError (List Token) :=
  match tokenize s.arguments with
  | .error e => .error (.token s.line (e.shift s.offset))
  | .ok found => .ok found

end Statement

namespace Script

open Text

/-- A piece of what stands inside quotes: a backslash with the character behind it, or the text in
front of a backslash or the closing quote. -/
def quotedPiece (quote : Char) : Reader (List Char) :=
  Reader.either
    (Reader.recognize (Reader.pair (Reader.exactly '\\') (Reader.character fun _ => true)))
    (Reader.isNot [quote, '\\'])

/-- A quoted run with its quotes. One that is left open runs to the end of the line, or up to a
backslash that ends the line. -/
def quotedSpan : Reader (List Char) := fun text =>
  match Reader.character Lexer.isQuote text with
  | none => none
  | some (quote, body) =>
    match Reader.many (quotedPiece quote) body with
    | none => none
    | some (_, closing) =>
      match Reader.optional (Reader.exactly quote) closing with
      | none => none
      | some (_, rest) => some (Reader.inFront text rest, rest)

def segmentPiece : Reader (List Char) :=
  Reader.either quotedSpan (Reader.isNot [';', '\'', '"'])

/-- The text up to a semicolon outside quotes. It may be empty. -/
def segment : Reader (List Char) :=
  Reader.recognize (Reader.many segmentPiece)

/-- The segments of a line, without what may be left of the line behind them. A line that cannot
be read is one piece. -/
def pieces (line : List Char) : List (List Char) :=
  match Reader.separated (Reader.exactly ';') segment line with
  | some (found, _) => found
  | none => [line]

/-- Each part with its byte offset, the first one starting at `offset` and one
semicolon standing between two parts. -/
def withOffsets (offset : Nat) : List (List Char) → List (Nat × List Char)
  | [] => []
  | part :: parts => (offset, part) :: withOffsets (offset + byteLength part + 1) parts

/-- The parts of a line with their byte offsets. -/
def parts (line : List Char) : List (Nat × List Char) :=
  withOffsets 0 (pieces line)

/-- The statement that a part of a line holds, if it holds anything. -/
def statement? (line offset : Nat) (part : List Char) : Except ScriptError (Option Statement) :=
  let start := offset + (byteLength part - byteLength (trimStart part))
  match trim part with
  | [] => .ok none
  | text =>
    let name := firstWord text
    let arguments := trimStart (text.drop name.length)
    if Lexer.isIdentifier name then
      .ok (some ⟨line, String.ofList name, String.ofList arguments,
        start + (byteLength text - byteLength arguments)⟩)
    else .error (.token line (.unrecognized (String.ofList name) start))

def isComment (line : List Char) : Bool :=
  match trimStart line with
  | '#' :: _ | '/' :: '/' :: _ => true
  | _ => false

/-- The statements in the given parts of a line, up to the first that is none. -/
def statementsOf (line : Nat) : List (Nat × List Char) → Except ScriptError (List Statement)
  | [] => .ok []
  | (offset, part) :: rest =>
    match statement? line offset part with
    | .error e => .error e
    | .ok found =>
      match statementsOf line rest with
      | .error e => .error e
      | .ok more => .ok (found.toList ++ more)

def lineStatements (number : Nat) (line : List Char) : Except ScriptError (List Statement) :=
  if isComment line then .ok [] else statementsOf number (parts line)

/-- The statements of consecutive lines, the first of which has the given
number. -/
def statementsFrom (number : Nat) : List (List Char) → Except ScriptError (List Statement)
  | [] => .ok []
  | line :: lines =>
    match lineStatements number line with
    | .error e => .error e
    | .ok found =>
      match statementsFrom (number + 1) lines with
      | .error e => .error e
      | .ok more => .ok (found ++ more)

/-- The statements of a script, or the first part of it that is none. -/
def parse (script : String) : Except ScriptError (List Statement) :=
  statementsFrom 1 (lines script.toList)

end Script

end RowScript
