import RowScript.Proofs.Lines
import RowScript.Proofs.Tokenization

/-!
Where the splitter and the lexer see the same quotes. The splitter knows nothing of
tokens, but whatever the lexer accepts closes every quote that it opens and has no
semicolon outside quotes, so the splitter goes over it as one piece. White space around
an accepted text falls off with the statement's own, and the tokens stay.
-/

namespace RowScript.Script

open Text Grammar

/-- A piece of a line that is in one part whatever stands behind it, and leaves no
quote open. -/
def Closed (piece : List Char) : Prop :=
  ∀ rest, split none (piece ++ rest) = piece.foldr extendFirst (split none rest)

theorem Closed.append {a b : List Char} (ha : Closed a) (hb : Closed b) : Closed (a ++ b) := by
  intro rest
  rw [List.append_assoc, ha, hb, List.foldr_append]

theorem closed_of_plain {piece : List Char}
    (h : ∀ c ∈ piece, Lexer.isQuote c = false ∧ c ≠ ';') : Closed piece :=
  split_append_of_forall fun c hc => split_outside (h c hc).1 (h c hc).2

theorem Closed.split_eq {piece : List Char} (h : Closed piece) : split none piece = [piece] := by
  have hsplit := h []
  rwa [List.append_nil, split, foldr_extendFirst, List.append_nil] at hsplit

theorem Closed.split_semicolon {piece : List Char} (h : Closed piece) (rest : List Char) :
    split none (piece ++ ';' :: rest) = piece :: split none rest := by
  rw [h, split, if_pos rfl, foldr_extendFirst, List.append_nil]

theorem split_body {quote : Char} {body content : List Char} (hq : quote ≠ '\\')
    (h : Body quote body content) (rest : List Char) :
    split (some quote) (body ++ quote :: rest) =
      body.foldr extendFirst (extendFirst quote (split none rest)) := by
  induction h with
  | nil =>
      rw [List.nil_append, split, if_pos rfl]
      · rfl
      · exact fun _ _ hslash => absurd hslash hq
  | plain hc hslash h ih =>
      rw [List.cons_append, split, if_neg hc, ih]
      · rfl
      · exact fun _ _ hc => absurd hc hslash
  | escaped he h ih =>
      rw [List.cons_append, List.cons_append, split, ih]
      rfl

theorem closed_of_body {quote : Char} {body content : List Char}
    (hq : quote = '\'' ∨ quote = '"') (h : Body quote body content) :
    Closed (quote :: (body ++ [quote])) := by
  intro rest
  obtain ⟨hslash, hsemicolon, _⟩ := quote_apart hq
  rw [List.cons_append, List.append_assoc, split, if_neg hsemicolon, isQuote_iff.mpr hq,
    if_pos rfl, List.singleton_append, split_body hslash h, List.foldr_cons,
    List.foldr_append]
  rfl

theorem closed_of_blank {piece : List Char} (h : ∀ c ∈ piece, isBlank c = true) :
    Closed piece := by
  apply closed_of_plain
  intro c hc
  constructor
  · rw [Bool.eq_false_iff]
    intro hquote
    exact absurd (h c hc) (by rw [(quote_apart (isQuote_iff.mp hquote)).2.2]; decide)
  · intro hsemicolon
    subst hsemicolon
    exact absurd (h _ hc) (by decide)

theorem closed_of_lexeme {lexeme : List Char} {token : Token} (h : Lexeme lexeme token) :
    Closed lexeme := by
  cases h.quoted_or_bare with
  | inl hquoted =>
      obtain ⟨quote, body, content, hq, hbody, rfl⟩ := hquoted
      exact closed_of_body hq hbody
  | inr hbare => exact closed_of_plain fun c hc => (hbare.2 c hc).2

theorem closed_of_tokens {text : List Char} {tokens : List Token}
    (h : Lexer.tokens text = .ok tokens) : Closed text := by
  obtain ⟨⟨items, trail⟩, hreads⟩ := reads_of_tokens h
  clear h
  induction items generalizing text tokens with
  | nil =>
      obtain ⟨rfl, _, htrail, _, _⟩ := hreads
      exact closed_of_blank fun c hc => (htrail c hc).isBlank
  | cons item items ih =>
      obtain ⟨token, more, rest, _, rfl, hgap, hlexeme, _, hrest⟩ := hreads.uncons
      have hblank : Closed item.1 := closed_of_blank fun c hc => (hgap c hc).isBlank
      exact hblank.append ((closed_of_lexeme hlexeme).append (ih hrest))

end RowScript.Script

namespace RowScript.Grammar

open Text

/-- A text whose last character is not white space. -/
def EndsNonblank (text : List Char) : Prop := ∃ front c, text = front ++ [c] ∧ isBlank c = false

theorem EndsNonblank.append {text : List Char} (h : EndsNonblank text) (front : List Char) :
    EndsNonblank (front ++ text) := by
  obtain ⟨middle, c, rfl, hc⟩ := h
  exact ⟨front ++ middle, c, (List.append_assoc ..).symm, hc⟩

theorem EndsNonblank.trimEnd_eq {text : List Char} (h : EndsNonblank text) :
    trimEnd text = text := by
  obtain ⟨front, c, rfl, hc⟩ := h
  rw [trimEnd, List.reverse_append, List.reverse_singleton, List.singleton_append,
    List.dropWhile_cons_of_neg (by simp [hc]), List.reverse_cons, List.reverse_reverse]

/-- Trimming takes off what surrounds a text with no white space at its ends, and nothing of
the text. -/
theorem EndsNonblank.trim_surrounded {lead text trail : List Char} (h : EndsNonblank text)
    (hhead : ∀ c ∈ text.head?, isBlank c = false) (hlead : ∀ c ∈ lead, isBlank c = true)
    (htrail : ∀ c ∈ trail, isBlank c = true) : trim (lead ++ (text ++ trail)) = text := by
  have hstart : trimStart text = text := by
    cases text with
    | nil => rfl
    | cons c more => exact List.dropWhile_cons_of_neg (by simp [hhead c rfl])
  exact Text.trim_surrounded hlead htrail hstart h.trimEnd_eq

theorem endsNonblank_of_bare {text : List Char} (hne : text ≠ []) (h : ∀ c ∈ text, Bare c) :
    EndsNonblank text := by
  obtain ⟨front, c, rfl⟩ := (List.eq_nil_or_concat text).resolve_left hne
  rw [List.concat_eq_append] at h ⊢
  exact ⟨front, c, rfl, (h c (by simp)).1⟩

theorem Lexeme.endsNonblank {lexeme : List Char} {token : Token} (h : Lexeme lexeme token) :
    EndsNonblank lexeme := by
  cases h.quoted_or_bare with
  | inl hquoted =>
      obtain ⟨quote, body, _, hq, _, rfl⟩ := hquoted
      exact ⟨quote :: body, quote, rfl, (quote_apart hq).2.2⟩
  | inr hbare => exact endsNonblank_of_bare hbare.1 hbare.2

theorem Lexeme.append_endsNonblank {lexeme body : List Char} {token : Token}
    (h : Lexeme lexeme token) (hb : body = [] ∨ EndsNonblank body) :
    EndsNonblank (lexeme ++ body) := by
  cases hb with
  | inl hempty =>
      rw [hempty, List.append_nil]
      exact h.endsNonblank
  | inr hb => exact hb.append lexeme

/-- Without the white space behind its last lexeme a text has the tokens it had. -/
theorem Layout.Reads.drop_trail {items : List (List Char × List Char)} {trail text : List Char}
    {tokens : List Token} (h : Reads ⟨items, trail⟩ text tokens) :
    ∃ body, text = body ++ trail ∧ (body = [] ∨ EndsNonblank body) ∧
      Lexer.tokens body = .ok tokens := by
  induction items generalizing text tokens with
  | nil =>
      obtain ⟨rfl, _, _, _, hvalues⟩ := h
      rw [List.forall₂_nil_left_iff.mp hvalues]
      exact ⟨[], rfl, .inl rfl, tokens_of_separators (by simp)⟩
  | cons item items ih =>
      obtain ⟨token, more, rest, rfl, rfl, hgap, hlexeme, hboundary, hrest⟩ := h.uncons
      obtain ⟨body, rfl, hends, htokens⟩ := ih hrest
      exact ⟨item.1 ++ (item.2 ++ body), by simp only [List.append_assoc],
        .inr ((hlexeme.append_endsNonblank hends).append item.1),
        tokens_append hgap hlexeme hboundary.of_append htokens⟩

/-- A text with tokens is white space around a text with the same tokens that has none
at its ends. -/
theorem exists_core {text : List Char} {tokens : List Token}
    (h : Lexer.tokens text = .ok tokens) :
    ∃ lead core trail, text = lead ++ (core ++ trail) ∧ (∀ c ∈ lead, isBlank c = true) ∧
      (∀ c ∈ trail, isBlank c = true) ∧ trimStart core = core ∧ trimEnd core = core ∧
      Lexer.tokens core = .ok tokens := by
  obtain ⟨⟨items, trail⟩, hreads⟩ := reads_of_tokens h
  have htrail : ∀ c ∈ trail, isBlank c = true := fun c hc => (hreads.trail c hc).isBlank
  cases items with
  | nil =>
      obtain ⟨rfl, _, _, _, hvalues⟩ := hreads
      rw [List.forall₂_nil_left_iff.mp hvalues]
      exact ⟨[], [], trail, rfl, by simp, htrail, rfl, rfl, tokens_of_separators (by simp)⟩
  | cons item items =>
      obtain ⟨token, more, rest, rfl, htext, hgap, hlexeme, hboundary, hrest⟩ := hreads.uncons
      obtain ⟨body, rfl, hends, htokens⟩ := hrest.drop_trail
      have hcore := tokens_append (List.forall_mem_nil Separator) hlexeme
        hboundary.of_append htokens
      refine ⟨item.1, item.2 ++ body, trail, by rw [htext, List.append_assoc],
        fun c hc => (hgap c hc).isBlank, htrail, ?_, (hlexeme.append_endsNonblank hends).trimEnd_eq,
        hcore⟩
      obtain ⟨c, chars, hchars, hc⟩ := hlexeme.head
      rw [hchars, List.cons_append, trimStart, List.dropWhile_cons_of_neg (by simp [hc])]

end RowScript.Grammar
