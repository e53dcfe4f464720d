import Mathlib.Algebra.Group.Int.Defs
import Mathlib.Data.List.Forall2
import RowScript.Token.Lexer

/-!
The grammar of argument text, stated apart from the lexer: the forms of a lexeme,
the token that each of them stands for, and the ways to put lexemes and separators
together. That the lexer reads exactly this grammar is a theorem about it; nothing
here says how a text is read.
-/

namespace RowScript.Grammar

def Separator (c : Char) : Prop := c = ' ' ∨ c = '\t' ∨ c = '\r' ∨ c = '\n'

def Digit (c : Char) : Prop := '0' ≤ c ∧ c ≤ '9'

def Letter (c : Char) : Prop := ('A' ≤ c ∧ c ≤ 'Z') ∨ ('a' ≤ c ∧ c ≤ 'z')

def WordStart (c : Char) : Prop := Letter c ∨ c = '_'

def WordChar (c : Char) : Prop := Letter c ∨ Digit c ∨ c = '_' ∨ c = '.' ∨ c = '-'

def ColumnChar (c : Char) : Prop :=
  Text.isAlphanumeric c = true ∨ c = '_' ∨ c = '.' ∨ c = '-' ∨ c = '$'

/-- The five escapes: what stands behind the backslash, and what it means. -/
inductive Escape : Char → Char → Prop
  | backslash : Escape '\\' '\\'
  | single : Escape '\'' '\''
  | double : Escape '"' '"'
  | lineFeed : Escape 'n' '\n'
  | tab : Escape 't' '\t'

/-- What may stand between two quotes, and the content that it stands for. -/
inductive Body (quote : Char) : List Char → List Char → Prop
  | nil : Body quote [] []
  | plain {c : Char} {body content : List Char} (hq : c ≠ quote) (hb : c ≠ '\\')
      (h : Body quote body content) : Body quote (c :: body) (c :: content)
  | escaped {c meant : Char} {body content : List Char} (he : Escape c meant)
      (h : Body quote body content) : Body quote ('\\' :: c :: body) (meant :: content)

def ColumnName (name : List Char) : Prop := name ≠ [] ∧ ∀ c ∈ name, ColumnChar c

/-- The names of a list behind the first, each with its comma and colon. -/
def moreColumns (names : List (List Char)) : List Char :=
  names.flatMap fun name => ',' :: ':' :: name

/-- Column names as they are written. -/
def columnText : List (List Char) → List Char
  | [] => []
  | name :: names => ':' :: (name ++ moreColumns names)

def Digits (digits : List Char) : Prop := digits ≠ [] ∧ ∀ c ∈ digits, Digit c

/-- A sign that may be missing; the flag tells a minus. -/
inductive Sign : List Char → Bool → Prop
  | absent : Sign [] false
  | plus : Sign ['+'] false
  | minus : Sign ['-'] true

/-- The digits of a number with its point, and the digits on the two sides of it. -/
inductive Mantissa : List Char → List Char → Option (List Char) → Prop
  | whole {digits : List Char} (h : Digits digits) : Mantissa digits digits none
  | point {digits fraction : List Char} (h : Digits digits) (hf : ∀ c ∈ fraction, Digit c) :
      Mantissa (digits ++ '.' :: fraction) digits (some fraction)
  | fraction {fraction : List Char} (h : Digits fraction) :
      Mantissa ('.' :: fraction) [] (some fraction)

inductive Exponent : List Char → Option Int → Prop
  | absent : Exponent [] none
  | present {e : Char} {sign digits : List Char} {negative : Bool} (he : e = 'e' ∨ e = 'E')
      (hs : Sign sign negative) (hd : Digits digits) :
      Exponent (e :: (sign ++ digits)) (some (Numeral.signed negative (Numeral.natOf digits)))

/-- A number as text and its parts. -/
inductive Written : List Char → Numeral → Prop
  | intro {sign mantissa exponent whole : List Char} {fraction : Option (List Char)}
      {power : Option Int} {negative : Bool} (hs : Sign sign negative)
      (hm : Mantissa mantissa whole fraction) (he : Exponent exponent power) :
      Written (sign ++ (mantissa ++ exponent)) ⟨negative, whole, fraction, power⟩

/-- The integer that the sign and the whole digits of a number make. -/
def integerPart (n : Numeral) : Int := Numeral.signed n.negative (Numeral.natOf n.whole)

/-- Whether a number is written as an integer that a word can hold. -/
def Fits (n : Numeral) : Prop :=
  n.fraction = none ∧ n.exponent = none ∧ -2 ^ 63 ≤ integerPart n ∧ integerPart n < 2 ^ 63

def Word : List Char → Prop
  | [] => False
  | c :: rest => WordStart c ∧ ∀ d ∈ rest, WordChar d

/-- Whether a word is the one for a truth value, in any case of letters. -/
def Truth (word : List Char) (b : Bool) : Prop :=
  word.map Char.toLower = (if b then ['t', 'r', 'u', 'e'] else ['f', 'a', 'l', 's', 'e'])

/-- The lexemes and the tokens that they stand for. -/
inductive Lexeme : List Char → Token → Prop
  | quoted {quote : Char} {body content : List Char} (hq : quote = '\'' ∨ quote = '"')
      (h : Body quote body content) :
      Lexeme (quote :: (body ++ [quote])) (.text (String.ofList content))
  | column {name : List Char} (h : ColumnName name) :
      Lexeme (':' :: name) (.column (String.ofList name))
  | columnList {names : List (List Char)} (h : ∀ name ∈ names, ColumnName name)
      (hn : 2 ≤ names.length) :
      Lexeme (columnText names) (.columnList (names.map String.ofList))
  | integer {text : List Char} {n : Numeral} {value : Int64} (h : Written text n) (hf : Fits n)
      (hv : value.toInt = integerPart n) : Lexeme text (.numeric (.int value))
  | double {text : List Char} {n : Numeral} {value : Binary64} (h : Written text n)
      (hf : ¬Fits n) (hv : Binary64.ofText? text = some value) :
      Lexeme text (.numeric (.float value))
  | boolean {word : List Char} {b : Bool} (h : Word word) (ht : Truth word b) :
      Lexeme word (.boolean b)
  | identifier {word : List Char} (h : Word word) (ht : ∀ b, ¬Truth word b) :
      Lexeme word (.identifier (String.ofList word))

/-- A text cut into lexemes, each with what stands in front of it, and the rest. -/
structure Layout where
  items : List (List Char × List Char)
  trail : List Char

namespace Layout

def text (layout : Layout) : List Char :=
  layout.items.flatMap (fun (gap, lexeme) => gap ++ lexeme) ++ layout.trail

/-- A layout is one of the text and tokens if all that stands outside its lexemes is
separators, two lexemes never touch, and the lexemes stand for the tokens. -/
structure Reads (layout : Layout) (text : List Char) (tokens : List Token) : Prop where
  spells : layout.text = text
  gaps : ∀ item ∈ layout.items, ∀ c ∈ item.1, Separator c
  trail : ∀ c ∈ layout.trail, Separator c
  apart : ∀ item ∈ layout.items.tail, item.1 ≠ []
  values : List.Forall₂ (fun item token => Lexeme item.2 token) layout.items tokens

end Layout

end RowScript.Grammar
