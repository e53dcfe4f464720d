/-!
What can be wrong with the argument text of a directive, and where. Positions
are byte offsets into the text that was read, so an error moves along when that
text turns out to be part of a longer one.
-/

namespace RowScript

inductive TokenError where
  | unterminatedQuote (position : Nat)
  | invalidEscape (escape : Char) (position : Nat)
  | emptyColumnName (position : Nat)
  | unrecognized (lexeme : String) (position : Nat)
deriving DecidableEq

namespace TokenError

def position : TokenError → Nat
  | unterminatedQuote position => position
  | invalidEscape _ position => position
  | emptyColumnName position => position
  | unrecognized _ position => position

/-- The error as seen from `bytes` bytes further to the front. -/
def shift (bytes : Nat) : TokenError → TokenError
  | unterminatedQuote position => unterminatedQuote (position + bytes)
  | invalidEscape escape position => invalidEscape escape (position + bytes)
  | emptyColumnName position => emptyColumnName (position + bytes)
  | unrecognized lexeme position => unrecognized lexeme (position + bytes)

@[simp] theorem position_shift (bytes : Nat) (e : TokenError) :
    (e.shift bytes).position = e.position + bytes := by
  cases e <;> rfl

@[simp] theorem shift_zero (e : TokenError) : e.shift 0 = e := by
  cases e <;> rfl

theorem shift_shift (a b : Nat) (e : TokenError) :
    (e.shift a).shift b = e.shift (a + b) := by
  cases e <;> simp only [shift, Nat.add_assoc]

def message : TokenError → String
  | unterminatedQuote position =>
    "Unterminated quote starting at offset " ++ position.repr
  | invalidEscape escape position =>
    "Invalid escape '\\" ++ String.ofList [escape] ++ "' at offset " ++ position.repr
  | emptyColumnName position =>
    "Empty column name at offset " ++ position.repr
  | unrecognized lexeme position =>
    "Unrecognized token '" ++ lexeme ++ "' at offset " ++ position.repr

end TokenError

end RowScript
