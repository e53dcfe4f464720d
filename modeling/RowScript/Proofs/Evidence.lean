import RowScript.Proofs.Positions

/-!
What a token error proves. Everything in front of the token that it is about has tokens, so the
error is about the leftmost one that cannot be read. An open quote, an escape that is none and a
colon without a name are there in the text where the error says, and they are blamed before anything
else is; any other word is blamed if no lexeme can be cut off in front of a boundary.
-/

namespace RowScript

namespace Grammar

open Lexer Text

/-- What an error tells about the text that it was found in, where a token should start. -/
inductive Evidence : List Char → TokenError → Prop
  | broken {text : List Char} {e : TokenError} (h : Broken text e) : Evidence text e
  | unrecognized {lexeme behind : List Char} (hforms : ∀ e, ¬Broken (lexeme ++ behind) e)
      (hnone : ∀ other token rest, Lexeme other token → lexeme ++ behind = other ++ rest →
        ¬Boundary rest) :
      Evidence (lexeme ++ behind) (.unrecognized (String.ofList lexeme) 0)

/-- Where a token cannot be read, the error comes with its evidence. -/
theorem evidence_of_token {text : List Char} {e : TokenError} (h : token text = .error e) :
    Evidence text e := by
  have hunrecognized {lexeme : List Char} (hstarts : lexeme <+: text)
      (hsound : ∀ cause, longest? text ≠ .error cause) :
      Evidence text (.unrecognized (String.ofList lexeme) 0) := by
    obtain ⟨behind, rfl⟩ := hstarts
    refine .unrecognized ?_ ?_
    · exact fun cause hbroken => hsound cause (longest?_eq_error_iff.mpr hbroken)
    · intro other found rest hother htext hrest
      rw [htext, token_append hother hrest] at h
      cases h
  have hread := h
  rw [token] at hread
  split at hread
  next cause hlongest =>
      cases hread
      exact .broken (longest?_eq_error_iff.mp hlongest)
  next hlongest =>
      cases hread
      exact hunrecognized (List.takeWhile_prefix _) (by simp [hlongest])
  next found rest hlongest =>
      split at hread
      next => cases hread
      next =>
          cases hread
          have hstarts := prefix_of_taken (suffix_of_longest? hlongest)
          exact hunrecognized hstarts (by simp [hlongest])

end Grammar

open Grammar Text

/-- What an error tells about a whole text: the text has tokens up to a place where a token may
start, and there is the evidence. -/
structure Blames (text : List Char) (e : TokenError) (front rest : List Char) : Prop where
  spells : text = front ++ rest
  start : ∀ c ∈ front.getLast?, Separator c
  read : ∃ tokens, tokenize (String.ofList front) = .ok tokens
  head : ¬Boundary rest
  behind : byteLength front ≤ e.position
  points : e.PointsInto text
  evidence : ∃ cause, e = cause.shift (byteLength front) ∧ Evidence rest cause

/-- An error is about the leftmost token that cannot be read, and what it says is there. -/
theorem leftmost_of_tokenize {text : String} {e : TokenError} (h : tokenize text = .error e) :
    ∃ front rest, Blames text.toList e front rest := by
  obtain ⟨front, rest, cause, hstops, rfl⟩ := exists_stopsAt h
  obtain ⟨found, hfound⟩ := hstops.read
  refine ⟨front, rest, ?_⟩
  constructor
  case spells => exact hstops.spells
  case start => exact hstops.start
  case read => exact ⟨found, by rw [tokenize, String.toList_ofList, hfound]⟩
  case head => exact hstops.head
  case behind =>
    rw [TokenError.position_shift]
    exact Nat.le_add_left _ _
  case points => exact tokenize_error h
  case evidence => exact ⟨cause, rfl, evidence_of_token hstops.fails⟩

/-- Behind a column and an escape that can be read, an escape that cannot. -/
theorem leftmost_of_tokenize_of_escape :
    tokenize ":é 'ß\\n\\q' 7" = .error (.invalidEscape 'q' 9) ∧
      ∃ front rest, Blames ":é 'ß\\n\\q' 7".toList (.invalidEscape 'q' 9) front rest := by
  have h : tokenize ":é 'ß\\n\\q' 7" = .error (.invalidEscape 'q' 9) := by decide +kernel
  exact ⟨h, leftmost_of_tokenize h⟩

end RowScript
