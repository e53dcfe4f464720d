import RowScript.Text.Basic

/-!
Scalars of YAML: plain, single-quoted and double-quoted ones. A scalar may go over
several lines: between two visible characters a single line end counts as a
space, and of several line ends the first counts for nothing. Inside brackets a
plain scalar also ends at the marks of a collection; outside it ends in front of
a line that is not indented enough.
-/

namespace RowScript.Yaml

def isBlank (c : Char) : Bool := c == ' ' || c == '\t'

/-- The characters that end a line. -/
def isBreak (c : Char) : Bool :=
  c == '\n' || c == '\r' || c == '\u0085' || c == '\u2028' || c == '\u2029'

/-- A line end as it counts in a scalar: only the separators of lines and of
paragraphs stay what they are. -/
def lineEnd (c : Char) : Char :=
  if c == '\u2028' || c == '\u2029' then c else '\n'

/-- White space and line ends in front of a visible character of a scalar. -/
inductive Gap where
  | inLine (blanks : List Char)
  | lines (first : Char) (more : List Char)
  /-- Behind a line end that a backslash takes out. -/
  | joined (more : List Char)

namespace Gap

def none : Gap := inLine []

def isNone : Gap → Bool
  | inLine [] => true
  | _ => false

def isInLine : Gap → Bool
  | inLine _ => true
  | _ => false

/-- The white space around a line end counts for nothing. -/
def addBlank (c : Char) : Gap → Gap
  | inLine blanks => inLine (blanks ++ [c])
  | gap => gap

def addBreak (c : Char) : Gap → Gap
  | inLine _ => lines (lineEnd c) []
  | lines first more => lines first (more ++ [lineEnd c])
  | joined more => joined (more ++ [lineEnd c])

/-- What the gap leaves in the scalar. -/
def text : Gap → List Char
  | inLine blanks => blanks
  | lines '\n' [] => [' ']
  | lines '\n' more => more
  | lines first more => first :: more
  | joined more => more

end Gap

/-- What follows a scalar. -/
structure Tail where
  /-- The column of the text, if it stands on a later line than the end of the
  scalar. -/
  column : Option Nat
  text : List Char

/-- Whether a mark in front of this text stands alone. -/
def isApart : List Char → Bool
  | [] => true
  | c :: _ => isBlank c || isBreak c

/-- The marks of collections inside brackets. -/
def isFlowMark (c : Char) : Bool :=
  c == ',' || c == '[' || c == ']' || c == '\x7b' || c == '\x7d'

/-- Characters that mean something at the start of a value. -/
def isIndicator (c : Char) : Bool :=
  isFlowMark c || c == '#' || c == '&' || c == '*' || c == '!' || c == '|' || c == '>' ||
    c == '\'' || c == '"' || c == '%' || c == '@' || c == '\x60'

/-- Whether a plain scalar can start with this text. A dash, a question mark and a
colon can start one if they do not stand alone. -/
def startsPlain (inFlow : Bool) : List Char → Bool
  | [] => false
  | c :: rest =>
    if c = '-' then !isApart rest
    else if c = '?' ∨ c = ':' then !inFlow && !isApart rest
    else !isIndicator c && !isBlank c && !isBreak c

/-- The content of a plain scalar and what follows it. `gap` stands in front of the
given text, and the text at `column` of its line if the gap goes over a line end. A
number sign starts a comment only behind a gap, and tabs do not indent. -/
def plainBody (inFlow : Bool) (indent : Nat) (gap : Gap) (column : Nat) :
    List Char → Option (List Char × Tail)
  | [] => some ([], ⟨if gap.isInLine then none else some column, []⟩)
  | '\r' :: '\n' :: rest => plainBody inFlow indent (gap.addBreak '\n') 0 rest
  | c :: rest =>
    if isBreak c then plainBody inFlow indent (gap.addBreak c) 0 rest
    else if isBlank c then
      if c = '\t' ∧ !gap.isInLine ∧ column < indent then none
      else plainBody inFlow indent (gap.addBlank c) (column + 1) rest
    else if !inFlow ∧ !gap.isInLine ∧ column < indent ∨ c = '#' ∧ !gap.isNone ∨
        c = ':' ∧ isApart rest ∨ inFlow ∧ isFlowMark c then
      some ([], ⟨if gap.isInLine then none else some column, c :: rest⟩)
    else if inFlow ∧ c = ':' ∧ rest.head?.any (fun d => isFlowMark d || d == '?') then none
    else
      match plainBody inFlow indent .none (column + 1) rest with
      | none => none
      | some (body, tail) => some (gap.text ++ c :: body, tail)

/-- The content of a single-quoted scalar, behind its quote and a gap, and what
follows it. -/
def singleQuoted (gap : Gap) : List Char → Option (List Char × List Char)
  | [] => none
  | '\'' :: '\'' :: rest =>
    match singleQuoted .none rest with
    | none => none
    | some (content, behind) => some (gap.text ++ '\'' :: content, behind)
  | '\'' :: rest => some (gap.text, rest)
  | '\r' :: '\n' :: rest => singleQuoted (gap.addBreak '\n') rest
  | c :: rest =>
    if isBreak c then singleQuoted (gap.addBreak c) rest
    else if isBlank c then singleQuoted (gap.addBlank c) rest
    else
      match singleQuoted .none rest with
      | none => none
      | some (content, behind) => some (gap.text ++ c :: content, behind)

/-- The character that a backslash and a letter stand for. -/
def escaped? : Char → Option Char
  | '0' => some '\x00'
  | 'a' => some '\x07'
  | 'b' => some '\x08'
  | 't' => some '\t'
  | '\t' => some '\t'
  | 'n' => some '\n'
  | 'v' => some '\x0b'
  | 'f' => some '\x0c'
  | 'r' => some '\r'
  | 'e' => some '\x1b'
  | ' ' => some ' '
  | '"' => some '"'
  | '/' => some '/'
  | '\\' => some '\\'
  | 'N' => some '\u0085'
  | '_' => some '\u00a0'
  | 'L' => some '\u2028'
  | 'P' => some '\u2029'
  | _ => none

/-- Number of digits behind the letter of an escape by code point. -/
def escapeWidth? : Char → Option Nat
  | 'x' => some 2
  | 'u' => some 4
  | 'U' => some 8
  | _ => none

/-- The character with the code point that hexadecimal digits give. -/
def codePoint? (digits : List Char) : Option Char :=
  match digits.mapM Text.hexValue? with
  | none => none
  | some values =>
    let n := values.foldl (fun n d => n * 16 + d) 0
    if h : n.isValidChar then some (Char.ofNatAux n h) else none

/-- The content of a double-quoted scalar, behind its quote and a gap, and what
follows it. A backslash at the end of a line joins the lines. -/
def doubleQuoted (gap : Gap) : List Char → Option (List Char × List Char)
  | [] => none
  | '"' :: rest => some (gap.text, rest)
  | ['\\'] => none
  | '\\' :: '\r' :: '\n' :: rest =>
    match doubleQuoted (.joined []) rest with
    | none => none
    | some (content, behind) => some (gap.text ++ content, behind)
  | '\\' :: c :: rest =>
    if isBreak c then
      match doubleQuoted (.joined []) rest with
      | none => none
      | some (content, behind) => some (gap.text ++ content, behind)
    else
      let width := (escapeWidth? c).getD 0
      let found := if width = 0 then escaped? c
        else if rest.length < width then none
        else codePoint? (rest.take width)
      match found, doubleQuoted .none (rest.drop width) with
      | some found, some (content, behind) => some (gap.text ++ found :: content, behind)
      | _, _ => none
  | '\r' :: '\n' :: rest => doubleQuoted (gap.addBreak '\n') rest
  | c :: rest =>
    if isBreak c then doubleQuoted (gap.addBreak c) rest
    else if isBlank c then doubleQuoted (gap.addBlank c) rest
    else
      match doubleQuoted .none rest with
      | none => none
      | some (content, behind) => some (gap.text ++ c :: content, behind)
termination_by text => text.length

/-- A scalar that is not missing: its content, whether it is plain, and what
follows it. Lines of a plain scalar behind the first have at least `indent`
characters of white space in front, unless brackets are open. -/
def scalar? (inFlow : Bool) (indent : Nat) (text : List Char) :
    Option ((List Char × Bool) × Tail) :=
  match text with
  | '\'' :: rest => (singleQuoted .none rest).map fun (content, behind) =>
      ((content, false), ⟨none, behind⟩)
  | '"' :: rest => (doubleQuoted .none rest).map fun (content, behind) =>
      ((content, false), ⟨none, behind⟩)
  | text =>
    if startsPlain inFlow text then
      (plainBody inFlow indent .none 0 text).map fun (body, tail) => ((body, true), tail)
    else none

end RowScript.Yaml
