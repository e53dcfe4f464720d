import RowScript.Text.Alphanumeric
import RowScript.Token.Basic
import RowScript.Token.Error

/-!
From argument text to tokens. Tokens stand apart by spaces, tabs and line ends.
A token is taken as long as it goes, and the first character tells its kind, so
there is nothing to go back on; what stops a token short of a separator spoils
the whole word. Errors count bytes from the start of the text that the reading
function was given.
-/

namespace RowScript.Lexer

open Text

/-- The characters that separate tokens. -/
def isSeparator (c : Char) : Bool :=
  c == ' ' || c == '\t' || c == '\r' || c == '\n'

def isColumnChar (c : Char) : Bool :=
  isAlphanumeric c || c == '_' || c == '.' || c == '-' || c == '$'

def isIdentifierStart (c : Char) : Bool :=
  c.isAlpha || c == '_'

def isIdentifierChar (c : Char) : Bool :=
  c.isAlphanum || c == '_' || c == '.' || c == '-'

def isQuote (c : Char) : Bool :=
  c == '\'' || c == '"'

/-- Whether the whole text is an identifier. -/
def isIdentifier : List Char → Bool
  | [] => false
  | c :: rest => isIdentifierStart c && rest.all isIdentifierChar

/-- The character that a backslash and a letter stand for. -/
def unescape? : Char → Option Char
  | '\\' => some '\\'
  | '\'' => some '\''
  | '"' => some '"'
  | 'n' => some '\n'
  | 't' => some '\t'
  | _ => none

/-- The content of a quoted text and what follows the closing quote. `offset` is
the place of the given text, counted from the opening quote. -/
def quotedBody (quote : Char) (offset : Nat) :
    List Char → Except TokenError (List Char × List Char)
  | [] => .error (.unterminatedQuote 0)
  | ['\\'] => .error (.unterminatedQuote 0)
  | '\\' :: c :: rest =>
    match unescape? c with
    | none => .error (.invalidEscape c offset)
    | some plain =>
      match quotedBody quote (offset + 1 + c.utf8Size) rest with
      | .error e => .error e
      | .ok (content, behind) => .ok (plain :: content, behind)
  | c :: rest =>
    if c = quote then .ok ([], rest)
    else
      match quotedBody quote (offset + c.utf8Size) rest with
      | .error e => .error e
      | .ok (content, behind) => .ok (c :: content, behind)

theorem length_lt_of_quotedBody {quote : Char} {offset : Nat} {text content behind : List Char}
    (h : quotedBody quote offset text = .ok (content, behind)) :
    behind.length < text.length := by
  fun_induction quotedBody quote offset text generalizing content behind <;> simp_all
  case case5 ih => omega
  case case8 ih => omega

theorem length_dropWhile_le (p : Char → Bool) (text : List Char) :
    (text.dropWhile p).length ≤ text.length :=
  (List.dropWhile_sublist p).length_le

/-- The names of a list of columns and what follows it, the text starting behind
the colon of the first name. A comma goes on with the list only in front of
another colon. `offset` is one more than the place of the colon. -/
def columnNames (offset : Nat) (text : List Char) :
    Except TokenError (List String × List Char) :=
  let name := text.takeWhile isColumnChar
  if name = [] then .error (.emptyColumnName (offset - 1))
  else match h : text.dropWhile isColumnChar with
    | ',' :: ':' :: more =>
      have : more.length < text.length := by
        have := length_dropWhile_le isColumnChar text
        simp only [h, List.length_cons] at this
        omega
      match columnNames (offset + byteLength name + 2) more with
      | .error e => .error e
      | .ok (names, behind) => .ok (String.ofList name :: names, behind)
    | behind => .ok ([String.ofList name], behind)
termination_by text.length

theorem length_le_of_columnNames {offset : Nat} {text behind : List Char} {names : List String}
    (h : columnNames offset text = .ok (names, behind)) : behind.length ≤ text.length := by
  fun_induction columnNames offset text generalizing names behind with
  | case1 | case2 => simp at h
  | case3 offset text name _ more _ hlt _ _ hrec =>
    rename_i ih
    simp only [Except.ok.injEq, Prod.mk.injEq] at h
    obtain ⟨_, rfl⟩ := h
    exact Nat.le_of_lt (Nat.lt_of_le_of_lt (ih hrec) hlt)
  | case4 offset text _ _ =>
    simp only [Except.ok.injEq, Prod.mk.injEq] at h
    obtain ⟨_, rfl⟩ := h
    exact length_dropWhile_le isColumnChar text

def columnToken : List String → Token
  | [name] => .column name
  | names => .columnList names

/-- An identifier, or a boolean if it is the word for one in any case of
letters. -/
def wordToken (word : List Char) : Token :=
  let lowered := String.ofList (word.map Char.toLower)
  if lowered = "true" then .boolean true
  else if lowered = "false" then .boolean false
  else .identifier (String.ofList word)

/-- The longest token at the start of a text and what follows it, if the text
starts with a token. -/
def longest? : List Char → Except TokenError (Option (Token × List Char))
  | [] => .ok none
  | c :: rest =>
    if isQuote c then
      match quotedBody c 1 rest with
      | .error e => .error e
      | .ok (content, behind) => .ok (some (.text (String.ofList content), behind))
    else if c = ':' then
      match columnNames 1 rest with
      | .error e => .error e
      | .ok (names, behind) => .ok (some (columnToken names, behind))
    else if isIdentifierStart c then
      let word := c :: rest.takeWhile isIdentifierChar
      .ok (some (wordToken word, rest.dropWhile isIdentifierChar))
    else .ok ((Numeral.read? (c :: rest)).map fun (n, behind) =>
      (.numeric (.ofNumeral n), behind))

theorem length_lt_of_longest? {text behind : List Char} {found : Token}
    (h : longest? text = .ok (some (found, behind))) : behind.length < text.length := by
  cases text with
  | nil => simp [longest?] at h
  | cons c rest =>
    simp only [longest?] at h
    split at h
    · split at h
      · simp at h
      · rename_i hq
        simp only [Except.ok.injEq, Option.some.injEq, Prod.mk.injEq] at h
        obtain ⟨_, rfl⟩ := h
        exact Nat.lt_succ_of_lt (length_lt_of_quotedBody hq)
    · split at h
      · split at h
        · simp at h
        · rename_i hn
          simp only [Except.ok.injEq, Option.some.injEq, Prod.mk.injEq] at h
          obtain ⟨_, rfl⟩ := h
          exact Nat.lt_succ_of_le (length_le_of_columnNames hn)
      · split at h
        · simp only [Except.ok.injEq, Option.some.injEq, Prod.mk.injEq] at h
          obtain ⟨_, rfl⟩ := h
          exact Nat.lt_succ_of_le (length_dropWhile_le _ _)
        · simp only [Except.ok.injEq, Option.map_eq_some_iff, Prod.mk.injEq] at h
          obtain ⟨⟨n, tail⟩, hn, _, rfl⟩ := h
          exact Numeral.length_lt_of_read? hn

/-- What was taken from the front of `text` to leave `rest`. -/
def taken (text rest : List Char) : List Char :=
  text.take (text.length - rest.length)

/-- Whether a token may end in front of this text. -/
def isBoundary : List Char → Bool
  | [] => true
  | c :: _ => isSeparator c

/-- The token at the start of a text and what follows it. A token that does not
end at a separator is reported together with the rest of its word. -/
def token (text : List Char) : Except TokenError (Token × List Char) :=
  match longest? text with
  | .error e => .error e
  | .ok none => .error (.unrecognized (String.ofList (firstWord text)) 0)
  | .ok (some (found, rest)) =>
    if isBoundary rest then .ok (found, rest)
    else .error (.unrecognized (String.ofList (taken text rest ++ firstWord rest)) 0)

theorem length_lt_of_token {text rest : List Char} {found : Token}
    (h : token text = .ok (found, rest)) : rest.length < text.length := by
  unfold token at h
  split at h
  · simp at h
  · simp at h
  · rename_i hl
    split at h
    · simp only [Except.ok.injEq, Prod.mk.injEq] at h
      obtain ⟨_, rfl⟩ := h
      exact length_lt_of_longest? hl
    · simp at h

/-- All tokens of a text. -/
def tokens (text : List Char) : Except TokenError (List Token) :=
  match hstart : text.dropWhile isSeparator with
  | [] => .ok []
  | c :: behind =>
    match htoken : token (c :: behind) with
    | .error e => .error (e.shift (byteLength text - byteLength (c :: behind)))
    | .ok (found, rest) =>
      have : rest.length < text.length := by
        have := length_lt_of_token htoken
        have := length_dropWhile_le isSeparator text
        rw [hstart] at this
        omega
      match tokens rest with
      | .error e => .error (e.shift (byteLength text - byteLength rest))
      | .ok more => .ok (found :: more)
termination_by text.length

end RowScript.Lexer

namespace RowScript

/-- The tokens of an argument text. -/
def tokenize (text : String) : Except TokenError (List Token) :=
  Lexer.tokens text.toList

/-- Whether a word can name a directive or be an identifier. -/
def isIdentifier (word : String) : Bool :=
  Lexer.isIdentifier word.toList

end RowScript
