import RowScript.Json.Number

/-!
Reading JSON by what is asked for. A reader takes a value of one shape from the
front of a text and leaves the rest; the first thing in reading order that is
not JSON, or not of that shape, is the error. Arrays and objects are read item
by item, with a reader for the items; the number of characters bounds the number
of items, and a depth bounds the nesting.
-/

namespace RowScript.Json

/-- The value read from the front of a text, and what follows it. -/
abbrev Reader (α : Type) := List Char → Except Error (α × List Char)

def isBlank (c : Char) : Bool :=
  c == ' ' || c == '\n' || c == '\t' || c == '\r'

def skipBlank (text : List Char) : List Char :=
  text.dropWhile isBlank

/-- What follows the given characters. -/
def expectWord : List Char → List Char → Except Error (List Char)
  | [], text => .ok text
  | _ :: _, [] => .error .unfinished
  | c :: word, head :: rest => if head = c then expectWord word rest else .error .malformed

/-- The number that four hexadecimal digits give. A text of less than four bytes
ends too early, whatever its characters are. -/
def hexEscape (text : List Char) : Except Error (Nat × List Char) :=
  match text with
  | a :: b :: c :: d :: rest =>
    match Text.hexValue? a, Text.hexValue? b, Text.hexValue? c, Text.hexValue? d with
    | some a, some b, some c, some d => .ok (((a * 16 + b) * 16 + c) * 16 + d, rest)
    | _, _, _, _ => .error .malformed
  | text => .error (if Text.byteLength text < 4 then .unfinished else .malformed)

/-- The character of an escape by number, the text starting behind its `u`. A
character beyond the basic plane is written as two surrogates. -/
def unicodeEscape (text : List Char) : Except Error (Char × List Char) :=
  match hexEscape text with
  | .error e => .error e
  | .ok (high, rest) =>
    if 0xdc00 ≤ high ∧ high ≤ 0xdfff then .error .malformed
    else if 0xd800 ≤ high ∧ high ≤ 0xdbff then
      match expectWord ['\\', 'u'] rest with
      | .error e => .error e
      | .ok rest =>
        match hexEscape rest with
        | .error e => .error e
        | .ok (low, rest) =>
          if 0xdc00 ≤ low ∧ low ≤ 0xdfff then
            .ok (Char.ofNat ((high - 0xd800) * 0x400 + (low - 0xdc00) + 0x10000), rest)
          else .error .malformed
    else .ok (Char.ofNat high, rest)

/-- The character of an escape, the text starting behind its backslash. -/
def escape : List Char → Except Error (Char × List Char)
  | [] => .error .unfinished
  | '"' :: rest => .ok ('"', rest)
  | '\\' :: rest => .ok ('\\', rest)
  | '/' :: rest => .ok ('/', rest)
  | 'b' :: rest => .ok ('\x08', rest)
  | 'f' :: rest => .ok ('\x0c', rest)
  | 'n' :: rest => .ok ('\n', rest)
  | 'r' :: rest => .ok ('\r', rest)
  | 't' :: rest => .ok ('\t', rest)
  | 'u' :: rest => unicodeEscape rest
  | _ :: _ => .error .malformed

/-- The content of a string of less than `fuel` characters and what follows its
closing quote. -/
def stringBody : Nat → List Char → Except Error (List Char × List Char)
  | 0, _ => .error .unfinished
  | _ + 1, [] => .error .unfinished
  | _ + 1, '"' :: rest => .ok ([], rest)
  | fuel + 1, '\\' :: rest =>
    match escape rest with
    | .error e => .error e
    | .ok (c, rest) =>
      match stringBody fuel rest with
      | .error e => .error e
      | .ok (content, behind) => .ok (c :: content, behind)
  | fuel + 1, c :: rest =>
    if c.toNat < 0x20 then .error .malformed
    else
      match stringBody fuel rest with
      | .error e => .error e
      | .ok (content, behind) => .ok (c :: content, behind)

/-- A string, the text starting behind the opening quote. -/
def string : Reader String := fun text =>
  match stringBody (text.length + 1) text with
  | .error e => .error e
  | .ok (content, rest) => .ok (String.ofList content, rest)

/-- A value that is neither an array nor an object. -/
inductive Scalar where
  | null
  | bool (b : Bool)
  | number (n : Number)
  | text (content : String)
deriving DecidableEq

def Scalar.found : Scalar → Found
  | null => .null
  | bool b => .bool b
  | number n => n.found
  | text content => .text content

def wordScalar (word : List Char) (x : Scalar) (text : List Char) :
    Except Error (Scalar × List Char) :=
  match expectWord word text with
  | .error e => .error e
  | .ok rest => .ok (x, rest)

/-- A scalar, the text starting with its first character. -/
def scalar : Reader Scalar
  | [] => .error .unfinished
  | 'n' :: rest => wordScalar ['u', 'l', 'l'] .null rest
  | 't' :: rest => wordScalar ['r', 'u', 'e'] (.bool true) rest
  | 'f' :: rest => wordScalar ['a', 'l', 's', 'e'] (.bool false) rest
  | '"' :: rest =>
    match string rest with
    | .error e => .error e
    | .ok (content, rest) => .ok (.text content, rest)
  | c :: rest =>
    if c = '-' ∨ c.isDigit then
      match number (c :: rest) with
      | .error e => .error e
      | .ok (n, rest) => .ok (.number n, rest)
    else .error .malformed

/-- The error where `expected` does not stand. What does stand there is read as
far as the message needs it. -/
def wrongType (expected : String) (text : List Char) : Error :=
  match text with
  | '[' :: _ => .mismatch (.wrongType .sequence expected) text.length
  | '\x7b' :: _ => .mismatch (.wrongType .map expected) text.length
  | text =>
    match scalar text with
    | .error e => e
    | .ok (x, rest) => .mismatch (.wrongType x.found expected) rest.length

/-- What comes next in an array or object. -/
inductive Next where
  /-- It has ended, and this follows. -/
  | closed (rest : List Char)
  /-- Here starts the next item or member. -/
  | more (text : List Char)

/-- Look for the next item or member in front of the bracket `close`. `first`
tells that none stands before the text. -/
def next (close : Char) (first : Bool) (text : List Char) : Except Error Next :=
  match skipBlank text with
  | [] => .error .unfinished
  | c :: rest =>
    if c = close then .ok (.closed rest)
    else if first then .ok (.more (c :: rest))
    else if c = ',' then
      match skipBlank rest with
      | [] => .error .unfinished
      | d :: rest => if d = close then .error .malformed else .ok (.more (d :: rest))
    else .error .malformed

/-- The items of an array up to the closing bracket. -/
def items {α : Type} (item : Reader α) : Nat → Bool → Reader (List α)
  | 0, _, _ => .error .unfinished
  | fuel + 1, first, text =>
    match next ']' first text with
    | .error e => .error e
    | .ok (.closed rest) => .ok ([], rest)
    | .ok (.more text) =>
      match item text with
      | .error e => .error e
      | .ok (x, rest) =>
        match items item fuel false rest with
        | .error e => .error e
        | .ok (more, rest) => .ok (x :: more, rest)

/-- An array, the text starting behind the opening bracket. -/
def array {α : Type} (item : Reader α) : Reader (List α) := fun text =>
  items item (text.length + 1) true text

/-- What follows the colon behind a key. -/
def expectColon (text : List Char) : Except Error (List Char) :=
  match skipBlank text with
  | [] => .error .unfinished
  | ':' :: rest => .ok rest
  | _ :: _ => .error .malformed

/-- The members of an object up to the closing brace, taken into a state one by
one. `member` reads from the colon behind the key. -/
def members {σ : Type} (member : σ → String → Reader σ) : Nat → Bool → σ → Reader σ
  | 0, _, _, _ => .error .unfinished
  | fuel + 1, first, state, text =>
    match next '\x7d' first text with
    | .error e => .error e
    | .ok (.closed rest) => .ok (state, rest)
    | .ok (.more ('"' :: text)) =>
      match string text with
      | .error e => .error e
      | .ok (key, rest) =>
        match member state key rest with
        | .error e => .error e
        | .ok (state, rest) => members member fuel false state rest
    | .ok (.more _) => .error .malformed

/-- An object, the text starting behind the opening brace. -/
def object {σ : Type} (member : σ → String → Reader σ) (state : σ) : Reader σ := fun text =>
  members member (text.length + 1) true state text

/-- The value behind the colon of a member. -/
def memberValue {α : Type} (value : Reader α) : Reader α := fun text =>
  match expectColon text with
  | .error e => .error e
  | .ok rest => value rest

/-- What follows the closing bracket of an array that should have no more items. -/
def closeArray (text : List Char) : Except Error (List Char) :=
  match skipBlank text with
  | [] => .error .unfinished
  | ']' :: rest => .ok rest
  | _ :: _ => .error .malformed

/-- What follows the closing brace of an object that should have no more members. -/
def closeObject (text : List Char) : Except Error (List Char) :=
  match skipBlank text with
  | [] => .error .unfinished
  | '\x7d' :: rest => .ok rest
  | _ :: _ => .error .malformed

/-- Any value of at most `depth` levels, for those that nobody asks for. The size
of its numbers does not matter. -/
def skip : Nat → Reader Unit
  | depth, text =>
    match skipBlank text with
    | '[' :: rest =>
      match depth with
      | 0 => .error .malformed
      | depth + 1 =>
        match array (skip depth) rest with
        | .error e => .error e
        | .ok (_, rest) => .ok ((), rest)
    | '\x7b' :: rest =>
      match depth with
      | 0 => .error .malformed
      | depth + 1 => object (fun _ _ => memberValue (skip depth)) () rest
    | text =>
      match text with
      | c :: _ =>
        if c = '-' ∨ c.isDigit then
          match numeral text with
          | .error e => .error e
          | .ok (_, rest) => .ok ((), rest)
        else
          match scalar text with
          | .error e => .error e
          | .ok (_, rest) => .ok ((), rest)
      | [] => .error .unfinished

/-- A string, where a string is asked for. -/
def textValue (expected : String) : Reader String := fun source =>
  match skipBlank source with
  | [] => .error .unfinished
  | '"' :: rest => string rest
  | source => .error (wrongType expected source)

/-- A truth value, where one is asked for. -/
def boolValue : Reader Bool := fun source =>
  match skipBlank source with
  | [] => .error .unfinished
  | 't' :: rest =>
    match expectWord ['r', 'u', 'e'] rest with
    | .error e => .error e
    | .ok rest => .ok (true, rest)
  | 'f' :: rest =>
    match expectWord ['a', 'l', 's', 'e'] rest with
    | .error e => .error e
    | .ok rest => .ok (false, rest)
  | source => .error (wrongType "a boolean" source)

/-- An array, where one is asked for. -/
def arrayValue {α : Type} (item : Reader α) : Reader (List α) := fun source =>
  match skipBlank source with
  | [] => .error .unfinished
  | '[' :: rest => array item rest
  | source => .error (wrongType "a sequence" source)

/-- Levels of arrays and objects that a text may nest. -/
def maxDepth : Nat := 127

/-- The value that a whole text holds. -/
def readAll {α : Type} (value : Reader α) (text : List Char) : Except Error α :=
  match value text with
  | .error e => .error e
  | .ok (x, rest) => if skipBlank rest = [] then .ok x else .error .malformed

end RowScript.Json
