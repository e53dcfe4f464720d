import RowScript.Yaml.Node
import RowScript.Yaml.Scalar

/-!
Reading YAML documents of block and flow collections, comments and scalars. What a
line belongs to is told by its column alone, so the reader goes from one place with
content to the next and compares columns. Directives, anchors, tags and block scalars
are not read.
-/

namespace RowScript.Yaml

/-- What follows a comment. -/
def skipComment (text : List Char) : List Char :=
  text.dropWhile (!isBreak ·)

/-- The text of a line without a byte order mark at its start. Such a mark stands
for nothing in front of a value. -/
def skipOrderMark : List Char → List Char
  | '\ufeff' :: rest => rest
  | text => text

/-- Number of characters that a key may have, with the white space up to its colon. -/
def keyWidth : Nat := 1024

/-- Whether a node is a key, given the text from its start and the rest of it from
the colon on: both stand on one line and not too far apart. -/
def isKey (text fromColon : List Char) : Bool :=
  let key := text.take (text.length - fromColon.length)
  key.length ≤ keyWidth && key.all (!isBreak ·)

/-! Flow collections -/

/-- Skip white space, line ends and comments. -/
def skipFlow : Nat → List Char → List Char
  | 0, text => text
  | fuel + 1, text =>
    match text with
    | [] => []
    | c :: rest =>
      if isBreak c then skipFlow fuel (skipOrderMark rest)
      else if isBlank c then skipFlow fuel rest
      else if c = '#' then skipFlow fuel (skipComment rest)
      else c :: rest

mutual

/-- A node at the start of a text, and what follows it. `indent` is for plain
scalars. -/
def flowNode (indent : Nat) : Nat → List Char → Option (Node × List Char)
  | 0, _ => none
  | fuel + 1, text =>
    match text with
    | '[' :: rest => (flowItems indent fuel rest).map fun (items, rest) => (.sequence items, rest)
    | '\x7b' :: rest =>
      (flowEntries indent fuel rest).map fun (entries, rest) => (.mapping entries, rest)
    | text =>
      (scalar? true indent text).map fun ((content, plain), tail) =>
        (.scalar (String.ofList content) plain, tail.text)

/-- A value in front of a comma or the bracket `close`, and what follows it. A value
that is not there is missing. -/
def flowValue (indent : Nat) (close : Char) : Nat → List Char → Option (Node × List Char)
  | 0, _ => none
  | fuel + 1, text =>
    let text := skipFlow text.length text
    if text.head? = some ',' ∨ text.head? = some close then some (.missing, text)
    else flowNode indent fuel text

/-- A key behind a question mark, and what follows it. If it is not there it is
missing, and in a sequence it takes the place of the mark that stands there. -/
def flowKey (indent : Nat) (close : Char) : Nat → List Char → Option (Node × List Char)
  | 0, _ => none
  | fuel + 1, text =>
    match skipFlow text.length text with
    | ',' :: rest => some (.missing, if close = ']' then rest else ',' :: rest)
    | ':' :: rest => some (.missing, if close = ']' then rest else ':' :: rest)
    | '\x7d' :: rest => if close = ']' then none else some (.missing, '\x7d' :: rest)
    | text => flowNode indent fuel text

/-- A node and the value behind its colon, if there is one, and what follows them. A
question mark makes the node a key. -/
def flowPair (indent : Nat) (close : Char) : Nat → List Char →
    Option ((Node × Option Node) × List Char)
  | 0, _ => none
  | fuel + 1, text =>
    match text with
    | '?' :: rest =>
      match flowKey indent close fuel rest with
      | none => none
      | some (key, rest) =>
        match skipFlow rest.length rest with
        | ':' :: behind =>
          (flowValue indent close fuel behind).map fun (value, rest) =>
            ((key, some value), rest)
        | rest => some ((key, some .missing), rest)
    | text =>
      match flowNode indent fuel text with
      | none => none
      | some (node, rest) =>
        match skipFlow rest.length rest with
        | ':' :: behind =>
          if isKey text (':' :: behind) then
            (flowValue indent close fuel behind).map fun (value, rest) =>
              ((node, some value), rest)
          else none
        | rest => some ((node, none), rest)

/-- The items up to the closing bracket, and what follows it. An item with a colon
is a mapping of one entry. -/
def flowItems (indent : Nat) : Nat → List Char → Option (List Node × List Char)
  | 0, _ => none
  | fuel + 1, text =>
    match skipFlow text.length text with
    | ']' :: rest => some ([], rest)
    | text =>
      match flowPair indent ']' fuel text with
      | none => none
      | some ((node, value), rest) =>
        let item := match value with
          | none => node
          | some value => .mapping [(node, value)]
        match skipFlow rest.length rest with
        | ',' :: rest => (flowItems indent fuel rest).map fun (items, rest) => (item :: items, rest)
        | ']' :: rest => some ([item], rest)
        | _ => none

/-- The entries up to the closing brace, and what follows it. -/
def flowEntries (indent : Nat) : Nat → List Char → Option (List (Node × Node) × List Char)
  | 0, _ => none
  | fuel + 1, text =>
    match skipFlow text.length text with
    | '\x7d' :: rest => some ([], rest)
    | text =>
      match flowPair indent '\x7d' fuel text with
      | none => none
      | some ((node, value), rest) =>
        let entry := (node, value.getD .missing)
        match skipFlow rest.length rest with
        | ',' :: rest =>
          (flowEntries indent fuel rest).map fun (entries, rest) => (entry :: entries, rest)
        | '\x7d' :: rest => some ([entry], rest)
        | _ => none

end

/-- A collection in brackets or a scalar outside of brackets, and what follows it. -/
def inlineNode? (indent : Nat) (text : List Char) : Option (Node × Tail) :=
  match text with
  | '[' :: _ | '\x7b' :: _ =>
    (flowNode indent (4 * text.length + 1) text).map fun (node, rest) => (node, ⟨none, rest⟩)
  | text =>
    (scalar? false indent text).map fun ((content, plain), tail) =>
      (.scalar (String.ofList content) plain, tail)

/-- A key of a block mapping and what follows its colon, which stands alone. -/
def key? (text : List Char) : Option (Node × List Char) :=
  let line := (text.take (keyWidth + 2)).takeWhile (!isBreak ·)
  match inlineNode? 0 line with
  | none => none
  | some (key, tail) =>
    match tail.text.dropWhile isBlank with
    | ':' :: behind =>
      if isApart behind && isKey line (':' :: behind) then
        some (key, text.drop (line.length - behind.length))
      else none
    | _ => none

/-! Block collections -/

/-- A place with content: its column and the text from there on, or the end of
the document. -/
structure Place where
  column : Nat
  text : List Char

namespace Place

def isEnd (p : Place) : Bool := p.text.isEmpty

/-- What follows a mark that stands here, alone. -/
def behind? (mark : Char) (p : Place) : Option (List Char) :=
  match p.text with
  | c :: rest => if c = mark ∧ isApart rest then some rest else none
  | [] => none

/-- Whether an item of a block sequence starts here. -/
def isItem (p : Place) : Bool := (p.behind? '-').isSome

/-- Whether an entry of a block mapping starts here, with a question mark or with a
key in front of a colon. -/
def isEntry (p : Place) : Bool := (p.behind? '?').isSome || (key? p.text).isSome

end Place

/-- The next place with content, from the given column of a line with nothing but
spaces before it. Tabs do not indent, and a byte order mark at the start of a line
does like a space. -/
def nextPlace : Nat → Nat → List Char → Option Place
  | 0, _, _ => none
  | fuel + 1, column, text =>
    match text with
    | [] => some ⟨0, []⟩
    | c :: rest =>
      if c = ' ' ∨ c = '\ufeff' ∧ column = 0 then nextPlace fuel (column + 1) rest
      else if c = '\t' then none
      else if isBreak c then nextPlace fuel 0 rest
      else if c = '#' then nextPlace fuel column (skipComment rest)
      else some ⟨column, c :: rest⟩

/-- The next place with content behind a value that ends its line. -/
def finishLine (text : List Char) : Option Place :=
  match text.dropWhile isBlank with
  | [] => some ⟨0, []⟩
  | c :: rest =>
    if isBreak c then nextPlace (rest.length + 1) 0 rest
    else if c = '#' then nextPlace (rest.length + 1) 0 (skipComment rest)
    else none

/-- The next place with content behind a scalar. -/
def Tail.place? (tail : Tail) : Option Place :=
  match tail.column with
  | none => finishLine tail.text
  | some column => nextPlace (tail.text.length + 1) column tail.text

/-- A scalar or a collection in brackets, and the next place with content. -/
def inlineValue (indent : Nat) (text : List Char) : Option (Node × Place) :=
  match inlineNode? indent text with
  | none => none
  | some (node, tail) => tail.place?.map fun place => (node, place)

/-- Whether nothing but a comment follows on the line. -/
def endsLine (text : List Char) : Bool :=
  match text.dropWhile isBlank with
  | [] => true
  | c :: _ => isBreak c || c = '#'

mutual

/-- The node at a place, and the next place that does not belong to it. `indent` is
one more than the column of the collection around it. -/
def blockNode (indent : Nat) : Nat → Place → Option (Node × Place)
  | 0, _ => none
  | fuel + 1, p =>
    if p.isItem then
      (blockItems fuel p.column p).map fun (items, next) => (.sequence items, next)
    else if p.isEntry then
      (blockEntries fuel p.column p).map fun (entries, next) => (.mapping entries, next)
    else inlineValue indent p.text
termination_by structural fuel => fuel

/-- The node on the lines below a mark at a column that ends its own line, and the
next place. A sequence at the same column counts if `level` holds. -/
def nodeBelow (level : Bool) (column : Nat) : Nat → List Char → Option (Node × Place)
  | 0, _ => none
  | fuel + 1, behind =>
    match finishLine behind with
    | none => none
    | some next =>
      if next.isEnd then some (.missing, next)
      else if column < next.column then blockNode (column + 1) fuel next
      else if level ∧ next.column = column ∧ next.isItem then
        (blockItems fuel column next).map fun (items, next) => (.sequence items, next)
      else some (.missing, next)
termination_by structural fuel => fuel

/-- The node behind a mark at a column, and the next place. It may start on the line
of the mark, but behind no tab. -/
def nodeBehind (level : Bool) (column : Nat) : Nat → List Char → Option (Node × Place)
  | 0, _ => none
  | fuel + 1, behind =>
    let spaces := (behind.takeWhile (· == ' ')).length
    if (behind.drop spaces).head? = some '\t' then none
    else if endsLine behind then nodeBelow level column fuel behind
    else blockNode (column + 1) fuel ⟨column + 1 + spaces, behind.drop spaces⟩
termination_by structural fuel => fuel

/-- The items of a block sequence at a column. -/
def blockItems : Nat → Nat → Place → Option (List Node × Place)
  | 0, _, _ => none
  | fuel + 1, column, p =>
    if p.isEnd ∨ p.column < column then some ([], p)
    else if p.column = column then
      match p.behind? '-' with
      | none => some ([], p)
      | some behind =>
        match nodeBehind false column fuel behind with
        | none => none
        | some (item, next) =>
          (blockItems fuel column next).map fun (items, next) => (item :: items, next)
    else none
termination_by structural fuel => fuel

/-- The entry of a block mapping at a place, and the next place. A sequence in it may
start at the column of the mapping. -/
def blockEntry (p : Place) : Nat → Option ((Node × Node) × Place)
  | 0 => none
  | fuel + 1 =>
    match p.behind? '?' with
    | some behind =>
      match nodeBehind true p.column fuel behind with
      | none => none
      | some (key, next) =>
        let colon := if next.column = p.column then next.behind? ':' else none
        match colon with
        | none => some ((key, .missing), next)
        | some behind =>
          (nodeBehind true p.column fuel behind).map fun (value, next) => ((key, value), next)
    | none =>
      match key? p.text with
      | none => none
      | some (key, behind) =>
        let value :=
          if endsLine behind then nodeBelow true p.column fuel behind
          else inlineValue (p.column + 1) (behind.dropWhile isBlank)
        value.map fun (value, next) => ((key, value), next)
termination_by structural fuel => fuel

/-- The entries of a block mapping at a column. -/
def blockEntries : Nat → Nat → Place → Option (List (Node × Node) × Place)
  | 0, _, _ => none
  | fuel + 1, column, p =>
    if p.isEnd ∨ p.column < column then some ([], p)
    else if p.column = column ∧ !p.isItem then
      match blockEntry p fuel with
      | none => none
      | some (entry, next) =>
        (blockEntries fuel column next).map fun (entries, next) => (entry :: entries, next)
    else none
termination_by structural fuel => fuel

end

/-! Documents -/

/-- The characters that a document may have. -/
def isAllowed (c : Char) : Bool :=
  let n := c.toNat
  c == '\t' || c == '\n' || c == '\r' || (0x20 ≤ n && n ≤ 0x7e) || n == 0x85 ||
    (0xa0 ≤ n && n ≤ 0xfffd) || 0x10000 ≤ n

/-- The lines of a text, each with its end. -/
def lineSpans : List Char → List (List Char)
  | [] => []
  | '\r' :: '\n' :: rest => ['\r', '\n'] :: lineSpans rest
  | c :: rest =>
    if isBreak c then [c] :: lineSpans rest
    else
      match lineSpans rest with
      | [] => [[c]]
      | line :: lines => (c :: line) :: lines

/-- Whether a line is a mark between documents. -/
def isMark (mark : List Char) (line : List Char) : Bool :=
  mark.isPrefixOf line && isApart (line.drop mark.length)

def isStart (line : List Char) : Bool := isMark ['-', '-', '-'] line

def isStop (line : List Char) : Bool := isMark ['.', '.', '.'] line

/-- Whether a line is the mark at the end of a document and holds nothing else. -/
def isBareStop (line : List Char) : Bool := isStop line && endsLine (line.drop 3)

/-- Whether a line holds nothing. -/
def isVoid (line : List Char) : Bool :=
  match (skipOrderMark line).dropWhile (· == ' ') with
  | [] => true
  | c :: _ => isBreak c || c = '#'

/-- The lines of the only document, without a mark at its end. -/
def onlyDocument? (lines : List (List Char)) : Option (List (List Char)) :=
  let body := lines.takeWhile fun line => !isStart line && !isStop line
  match lines.drop body.length with
  | [] => some body
  | stop :: rest =>
    if isBareStop stop ∧ rest.all (fun line => isVoid line || isBareStop line) then some body
    else none

/-- The node of a block, which must be all there is. -/
def wholeNode (text : List Char) : Option Node :=
  match nextPlace (text.length + 1) 0 text with
  | none => none
  | some place =>
    if place.isEnd then some .missing
    else
      match blockNode 0 (4 * text.length + 4) place with
      | some (node, next) => if next.isEnd then some node else none
      | none => none

/-- The document that a text holds. A start mark may stand in front of it, and
behind the mark, on its line, a scalar or a collection in brackets. A document that
only has an end mark is none. -/
def read? (text : String) : Option Node :=
  let text := text.toList
  if !text.all isAllowed then none
  else
    let lines := (lineSpans text).dropWhile isVoid
    match lines with
    | [] => some .missing
    | first :: rest =>
      if isStart first then
        match onlyDocument? rest with
        | none => none
        | some body =>
          if endsLine (first.drop 3) then wholeNode body.flatten
          else
            match inlineValue 0 ((first.drop 3 ++ body.flatten).dropWhile isBlank) with
            | some (node, next) => if next.isEnd then some node else none
            | none => none
      else if isStop first then none
      else (onlyDocument? lines).bind fun body => wholeNode body.flatten

end RowScript.Yaml
