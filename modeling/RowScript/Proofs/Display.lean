import RowScript.Proofs.Tokenization

/-!
Tokens written back. What is displayed for a token is a lexeme that stands for the token,
in whatever way its own lexeme was written: a text comes between single quotes, an integer
without a plus sign and zeros, a truth value in small letters. Tokens displayed with
spaces between them are therefore read as what they were. Doubles are left out, as what is
displayed for a whole one is the lexeme of an integer.
-/

namespace RowScript.Grammar

open Text

/-- Neither replacement undoes the other, so one pass puts a backslash before a backslash and
before a single quote. -/
theorem escape_eq (content : List Char) :
    Token.escape content =
      content.flatMap fun c => if c = '\\' ∨ c = '\'' then ['\\', c] else [c] := by
  rw [Token.escape, Text.replace, Text.replace, List.flatMap_assoc]
  congr 1
  funext c
  by_cases hslash : c = '\\'
  · subst hslash
    rfl
  · by_cases hquote : c = '\''
    · subst hquote
      rfl
    · simp [hslash, hquote]

theorem body_escape (content : List Char) : Body '\'' (Token.escape content) content := by
  rw [escape_eq]
  induction content with
  | nil => exact .nil
  | cons c content ih =>
      rw [List.flatMap_cons]
      by_cases hc : c = '\\' ∨ c = '\''
      · rw [if_pos hc]
        refine .escaped ?_ ih
        obtain rfl | rfl := hc
        · exact .backslash
        · exact .single
      · rw [if_neg hc]
        obtain ⟨hslash, hquote⟩ := not_or.mp hc
        exact .plain hquote hslash ih

theorem intercalate_columns (names : List (List Char)) :
    [','].intercalate (names.map (':' :: ·)) = columnText names := by
  cases names with
  | nil => rfl
  | cons name names =>
      induction names generalizing name with
      | nil => simp [columnText, moreColumns]
      | cons other names ih =>
          rw [List.map_cons, List.map_cons, List.intercalate_cons_cons, ← List.map_cons, ih]
          simp [columnText, moreColumns]

theorem digits_toDigits (n : Nat) : Digits (Nat.toDigits 10 n) :=
  ⟨Nat.toDigits_ne_nil,
    fun _ hc => isDigit_iff.mp (Nat.isDigit_of_mem_toDigits (by omega) (by omega) hc)⟩

/-- An integer is displayed as a number with a sign where it is negative, and digits. -/
theorem written_repr (n : Int) :
    ∃ negative whole, Written n.repr.toList ⟨negative, whole, none, none⟩ ∧
      Numeral.signed negative (Numeral.natOf whole) = n := by
  have hdigits (m : Nat) : Numeral.natOf (Nat.toDigits 10 m) = m :=
    Nat.ofDigitChars_ten_toDigits
  have hwritten {sign : List Char} {negative : Bool} (hs : Sign sign negative) (m : Nat) :
      Written (sign ++ Nat.toDigits 10 m) ⟨negative, Nat.toDigits 10 m, none, none⟩ := by
    have h := Written.intro hs (.whole (digits_toDigits m)) .absent
    rwa [List.append_nil] at h
  cases n with
  | ofNat m =>
      refine ⟨false, Nat.toDigits 10 m, ?_, ?_⟩
      · rw [Int.repr, Nat.toList_repr]
        exact hwritten .absent m
      · rw [hdigits]
        rfl
  | negSucc m =>
      refine ⟨true, Nat.toDigits 10 m.succ, ?_, ?_⟩
      · rw [Int.repr, String.toList_append, Nat.toList_repr]
        exact hwritten .minus m.succ
      · rw [hdigits]
        rfl

theorem lexeme_display_int (value : Int64) :
    Lexeme value.toInt.repr.toList (.numeric (.int value)) := by
  obtain ⟨negative, whole, hwritten, hvalue⟩ := written_repr value.toInt
  have hlow := value.le_toInt
  have hhigh := value.toInt_lt
  refine .integer hwritten ⟨rfl, rfl, ?_, ?_⟩ hvalue.symm
  · rw [integerPart, hvalue]
    exact hlow
  · rw [integerPart, hvalue]
    exact hhigh

theorem lexeme_display_boolean (b : Bool) :
    Lexeme (Token.booleanText b).toList (.boolean b) := by
  have hword : Word (Token.booleanText b).toList := by
    cases b <;> simp [Token.booleanText, Word, WordStart, WordChar, Letter]
  refine .boolean hword ?_
  cases b <;> rfl

/-- A lexeme may be written otherwise than its token is displayed, but what is displayed
is a lexeme of the token too. -/
theorem Lexeme.display {lexeme : List Char} {token : Token} (h : Lexeme lexeme token)
    (hfloat : ∀ x, token ≠ .numeric (.float x)) : Lexeme token.display.toList token := by
  cases h with
  | @quoted _ _ content hq h =>
      have hquoted := Lexeme.quoted (.inl rfl) (body_escape content)
      simpa [Token.display] using hquoted
  | column h => simpa [Token.display] using Lexeme.column h
  | @columnList names h hn =>
      have htext : (Token.columnList (names.map String.ofList)).display.toList =
          columnText names := by
        rw [← intercalate_columns, Token.display, String.toList_intercalate, List.map_map,
          List.map_map]
        simp [Function.comp_def]
      rw [htext]
      exact .columnList h hn
  | integer => exact lexeme_display_int _
  | double => exact absurd rfl (hfloat _)
  | boolean => exact lexeme_display_boolean _
  | identifier h ht => simpa [Token.display] using Lexeme.identifier h ht

/-- A space is a boundary, and what stands behind it is read on its own, so the displayed
tokens are read one by one. What stands in front of them may be any separators. -/
theorem tokens_intercalate_display {tokens : List Token}
    (h : ∀ token ∈ tokens, Lexeme token.display.toList token) {gap : List Char}
    (hg : ∀ c ∈ gap, Separator c) :
    Lexer.tokens (gap ++ [' '].intercalate (tokens.map (·.display.toList))) = .ok tokens := by
  induction tokens generalizing gap with
  | nil => exact tokens_of_separators (by simpa using hg)
  | cons token tokens ih =>
      obtain ⟨htoken, htokens⟩ := List.forall_mem_cons.mp h
      cases tokens with
      | nil =>
          have hend : Boundary [] := by simp [Boundary]
          have hlast := tokens_append hg htoken hend (tokens_of_separators (by simp))
          simpa using hlast
      | cons next tokens =>
          have hspace : ∀ c ∈ [' '], Separator c := List.forall_mem_singleton.mpr (.inl rfl)
          have hboundary (rest : List Char) : Boundary ([' '] ++ rest) := by
            simp [Boundary, Separator]
          have hrest := ih htokens hspace
          rw [List.map_cons] at hrest ⊢
          rw [List.map_cons, List.intercalate_cons_cons, List.append_assoc]
          exact tokens_append hg htoken (hboundary _) hrest

theorem Layout.Reads.exists_lexeme {layout : Layout} {text : List Char} {tokens : List Token}
    (h : layout.Reads text tokens) : ∀ token ∈ tokens, ∃ lexeme, Lexeme lexeme token := by
  obtain ⟨-, -, -, -, hvalues⟩ := h
  generalize layout.items = items at hvalues
  induction hvalues with
  | nil => exact List.forall_mem_nil _
  | cons hlexeme _ ih => exact List.forall_mem_cons.mpr ⟨⟨_, hlexeme⟩, ih⟩

end RowScript.Grammar

namespace RowScript

open Grammar

/-- Tokens survive being displayed: what is read from a text, doubles aside, is read again
from its tokens as they are displayed, with spaces between them. -/
theorem tokenize_display {text : String} {tokens : List Token}
    (h : tokenize text = .ok tokens) (hfloat : ∀ x, .numeric (.float x) ∉ tokens) :
    tokenize (" ".intercalate (tokens.map Token.display)) = .ok tokens := by
  obtain ⟨layout, hreads⟩ := reads_of_tokens h
  have hlexemes : ∀ token ∈ tokens, Lexeme token.display.toList token := by
    intro token htoken
    obtain ⟨lexeme, hlexeme⟩ := hreads.exists_lexeme token htoken
    exact hlexeme.display fun x heq => hfloat x (heq ▸ htoken)
  have htokens := tokens_intercalate_display hlexemes (List.forall_mem_nil Separator)
  rw [tokenize, String.toList_intercalate, List.map_map]
  exact htokens

/-- Quotes, a backslash, a line feed and a tab in texts, the least integer, and words in
other letters than they are displayed in. -/
theorem tokenize_display_escapes :
    ∃ tokens, tokenize "\"it's \\\\\\n\" 'a\\tb' :é,:b.$ +007 -9223372036854775808 TRUE x-1" =
        .ok tokens ∧
      (∀ x, .numeric (.float x) ∉ tokens) ∧
      " ".intercalate (tokens.map Token.display) =
        "'it\\'s \\\\\n' 'a\tb' :é,:b.$ 7 -9223372036854775808 true x-1" ∧
      tokenize (" ".intercalate (tokens.map Token.display)) = .ok tokens := by
  have hread : tokenize "\"it's \\\\\\n\" 'a\\tb' :é,:b.$ +007 -9223372036854775808 TRUE x-1" =
      .ok [.text "it's \\\n", .text "a\tb", .columnList ["é", "b.$"], .numeric (.int 7),
        .numeric (.int Int64.minValue), .boolean true, .identifier "x-1"] := by decide +kernel
  exact ⟨_, hread, by simp, by decide +kernel, tokenize_display hread (by simp)⟩

end RowScript
