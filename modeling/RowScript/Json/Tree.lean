import RowScript.Decimal.Layout

/-!
JSON documents and their two written forms: the compact one has no white space,
the wide one puts every element on a line of its own. Object members keep the
order in which they are given.
-/

namespace RowScript.Json

inductive Tree where
  | null
  | bool (b : Bool)
  | int (n : Int64)
  | float (x : Binary64)
  | text (content : String)
  | array (items : List Tree)
  | object (members : List (String × Tree))

/-- A character inside a JSON string: quotes, backslashes and control characters
are escaped, all else is written as it is. -/
def escapeChar (c : Char) : List Char :=
  match c with
  | '"' => ['\\', '"']
  | '\\' => ['\\', '\\']
  | '\x08' => ['\\', 'b']
  | '\x0c' => ['\\', 'f']
  | '\n' => ['\\', 'n']
  | '\r' => ['\\', 'r']
  | '\t' => ['\\', 't']
  | c =>
    if c.toNat < 0x20 then
      ['\\', 'u', '0', '0', Nat.digitChar (c.toNat / 16), Nat.digitChar (c.toNat % 16)]
    else [c]

def stringText (content : String) : List Char :=
  '"' :: content.toList.flatMap escapeChar ++ ['"']

def intText (n : Int64) : List Char :=
  if n.toInt < 0 then '-' :: Nat.toDigits 10 n.toInt.natAbs
  else Nat.toDigits 10 n.toInt.natAbs

/-- A number that is not finite has no JSON form and is written as null. -/
def floatText (x : Binary64) : List Char :=
  if x.isFinite then x.jsonNumber else ['n', 'u', 'l', 'l']

def boolText (b : Bool) : List Char :=
  if b then ['t', 'r', 'u', 'e'] else ['f', 'a', 'l', 's', 'e']

namespace Tree

mutual

/-- The compact form. -/
def compact : Tree → List Char
  | null => ['n', 'u', 'l', 'l']
  | bool b => boolText b
  | int n => intText n
  | float x => floatText x
  | text content => stringText content
  | array items => '[' :: compactItems items ++ [']']
  | object members => '\x7b' :: compactMembers members ++ ['\x7d']

/-- The items of an array, with commas between them. -/
def compactItems : List Tree → List Char
  | [] => []
  | [item] => item.compact
  | item :: items => item.compact ++ ',' :: compactItems items

/-- The members of an object, with commas between them. -/
def compactMembers : List (String × Tree) → List Char
  | [] => []
  | [(key, value)] => stringText key ++ ':' :: value.compact
  | (key, value) :: members =>
    stringText key ++ ':' :: value.compact ++ ',' :: compactMembers members

end

/-- The start of a line at the given depth, two spaces a level. -/
def lineStart (depth : Nat) : List Char :=
  '\n' :: List.replicate (2 * depth) ' '

mutual

/-- The wide form, with the lines after the first at the given depth. -/
def wide (depth : Nat) : Tree → List Char
  | array [] => ['[', ']']
  | array items => '[' :: wideItems (depth + 1) items ++ lineStart depth ++ [']']
  | object [] => ['\x7b', '\x7d']
  | object members => '\x7b' :: wideMembers (depth + 1) members ++ lineStart depth ++ ['\x7d']
  | null => ['n', 'u', 'l', 'l']
  | bool b => boolText b
  | int n => intText n
  | float x => floatText x
  | text content => stringText content

def wideItems (depth : Nat) : List Tree → List Char
  | [] => []
  | [item] => lineStart depth ++ item.wide depth
  | item :: items => lineStart depth ++ item.wide depth ++ ',' :: wideItems depth items

def wideMembers (depth : Nat) : List (String × Tree) → List Char
  | [] => []
  | [(key, value)] => lineStart depth ++ stringText key ++ ':' :: ' ' :: value.wide depth
  | (key, value) :: members =>
    lineStart depth ++ stringText key ++ ':' :: ' ' :: value.wide depth ++
      ',' :: wideMembers depth members

end

/-- The compact form as a string. -/
def toCompact (t : Tree) : String := String.ofList t.compact

/-- The wide form as a string. -/
def toWide (t : Tree) : String := String.ofList (t.wide 0)

end Tree

end RowScript.Json
