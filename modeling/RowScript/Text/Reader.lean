/-!
Readers of text. A reader takes something off the start of a text or finds that the text does
not start with it, and larger readers are put together from smaller ones. A repetition ends where
its reader finds nothing. A reader that finds something without taking a character would be
repeated forever, so a repetition of it reads nothing.
-/

namespace RowScript.Text

/-- What is found at the start of a text, with the text behind it. -/
abbrev Reader (α : Type) := List Char → Option (α × List Char)

namespace Reader

variable {α β : Type}

/-- A character that passes the test. -/
def character (test : Char → Bool) : Reader Char
  | [] => none
  | c :: rest => if test c then some (c, rest) else none

def exactly (c : Char) : Reader Char :=
  character (· == c)

/-- The text up to the first of the given characters, unless that is no text. -/
def isNot (stops : List Char) : Reader (List Char) := fun text =>
  let found := text.takeWhile fun c => !stops.contains c
  if found = [] then none else some (found, text.drop found.length)

/-- The first reader, or the second where the first finds nothing. -/
def either (first second : Reader α) : Reader α := fun text =>
  first text <|> second text

/-- The first reader and the second behind it. -/
def pair (first : Reader α) (second : Reader β) : Reader (α × β) := fun text =>
  match first text with
  | none => none
  | some (a, middle) =>
    match second middle with
    | none => none
    | some (b, rest) => some ((a, b), rest)

/-- The reader, or nothing taken where it finds nothing. -/
def optional (read : Reader α) : Reader (Option α) := fun text =>
  match read text with
  | none => some (none, text)
  | some (a, rest) => some (some a, rest)

/-- The part of a text in front of the rest of it. -/
def inFront (text rest : List Char) : List Char :=
  text.take (text.length - rest.length)

/-- The text that a reader takes. -/
def recognize (read : Reader α) : Reader (List Char) := fun text =>
  match read text with
  | none => none
  | some (_, rest) => some (inFront text rest, rest)

/-- All that the reader finds, one behind the other. -/
def many (read : Reader α) (text : List Char) : Option (List α × List Char) :=
  match read text with
  | none => some ([], text)
  | some (a, rest) =>
    if rest.length < text.length then
      match many read rest with
      | none => none
      | some (found, behind) => some (a :: found, behind)
    else none
termination_by text.length

/-- The items of a list behind its first, each with a separator in front. A separator with no item
behind it is left where it is, and one that takes nothing is an error. A reader gives back no more
than its text, so the second test is always passed. -/
def furtherItems (separator : Reader β) (item : Reader α) (text : List Char) :
    Option (List α × List Char) :=
  match separator text with
  | none => some ([], text)
  | some (_, middle) =>
    if middle.length < text.length then
      match item middle with
      | none => some ([], text)
      | some (a, rest) =>
        if rest.length ≤ middle.length then
          match furtherItems separator item rest with
          | none => none
          | some (found, behind) => some (a :: found, behind)
        else none
    else none
termination_by text.length

/-- A list of items with separators between them, which may be empty. -/
def separated (separator : Reader β) (item : Reader α) : Reader (List α) := fun text =>
  match item text with
  | none => some ([], text)
  | some (a, rest) =>
    match furtherItems separator item rest with
    | none => none
    | some (found, behind) => some (a :: found, behind)

end Reader

end RowScript.Text
