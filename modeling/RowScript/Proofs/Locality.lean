import RowScript.Proofs.Positions

/-!
Argument text in parts. What is found in a text does not depend on what stands behind it,
as long as a separator comes first: nothing that is found, and nothing that is refused,
reaches over a boundary. Only a quote that was left open can be closed by what follows. So
a text in front of separators is read first, and what stands behind them is read as if it
stood alone.
-/

namespace RowScript.Grammar

open Lexer Numeral Text

section

variable {rest : List Char}

/-- What was found at the start of a text, with more text behind it. -/
def extend {α : Type} (rest : List Char) (found : α × List Char) : α × List Char :=
  (found.1, found.2 ++ rest)

variable (hr : WordEnd rest)
include hr

theorem takeDigits_extend (text : List Char) :
    takeDigits (text ++ rest) = extend rest (takeDigits text) := by
  have hstop : Stops (Char.isDigit · = true) rest :=
    hr.stops fun _ hc => (isDigit_iff.mp hc).wordChar.bare
  rw [takeDigits, takeWhile_extend hstop, dropWhile_extend hstop]
  rfl

theorem takeSign_extend (text : List Char) :
    takeSign (text ++ rest) = extend rest (takeSign text) := by
  cases text with
  | nil =>
      refine takeSign_append .absent (hr.stops fun c hc => ?_)
      obtain rfl | rfl := hc <;> decide
  | cons c text =>
      by_cases hminus : c = '-'
      · subst hminus
        rfl
      · by_cases hplus : c = '+'
        · subst hplus
          rfl
        · simp [takeSign, hminus, hplus, extend]

theorem takeFraction_extend (text : List Char) :
    takeFraction (text ++ rest) = extend rest (takeFraction text) := by
  cases text with
  | nil =>
      refine takeFraction_of_stops (hr.stops fun c hc => ?_)
      subst hc
      decide
  | cons c text =>
      by_cases hpoint : c = '.'
      · subst hpoint
        simp only [List.cons_append, takeFraction, takeDigits_extend hr]
        rfl
      · simp [takeFraction, hpoint, extend]

theorem takeExponent_extend (text : List Char) :
    takeExponent (text ++ rest) = extend rest (takeExponent text) := by
  cases text with
  | nil =>
      refine takeExponent_of_stops (hr.stops fun c hc => ?_)
      obtain rfl | rfl := hc <;> decide
  | cons c text =>
      simp only [List.cons_append, takeExponent, takeSign_extend hr, extend,
        takeDigits_extend hr]
      split
      next =>
          cases takeDigits (takeSign text).2 with
          | mk digits behind => cases digits <;> rfl
      next => rfl

theorem read?_extend (text : List Char) :
    read? (text ++ rest) = (read? text).map (extend rest) := by
  simp only [read?, takeSign_extend hr, takeDigits_extend hr, takeFraction_extend hr,
    takeExponent_extend hr, extend]
  split <;> rfl

/-- White space does not go on with a list of columns either. -/
theorem not_comma_colon {behind : List Char} (h : ∀ more, behind ≠ ',' :: ':' :: more)
    (more : List Char) : behind ++ rest ≠ ',' :: ':' :: more := by
  have hmark {c : Char} (hc : c = ',' ∨ c = ':') {more : List Char} : rest ≠ c :: more := by
    intro hrest
    have hblank : isBlank c = true := hr c (hrest ▸ rfl)
    obtain rfl | rfl := hc <;> exact absurd hblank (by decide)
  intro heq
  cases behind with
  | nil => exact hmark (.inl rfl) heq
  | cons c behind =>
      obtain ⟨rfl, htail⟩ := List.cons.inj heq
      cases behind with
      | nil => exact hmark (.inr rfl) htail
      | cons d behind =>
          obtain ⟨rfl, -⟩ := List.cons.inj htail
          exact h behind rfl

theorem columnNames_extend (offset : Nat) (text : List Char) :
    columnNames offset (text ++ rest) = (columnNames offset text).map (extend rest) := by
  have hstop : Stops (isColumnChar · = true) rest :=
    hr.stops fun _ hc => (isColumnChar_iff.mp hc).bare
  have htake := takeWhile_extend hstop
  have hdrop := dropWhile_extend hstop
  fun_induction columnNames offset text with
  | case1 offset text name hname =>
      rw [columnNames_eq, htake, if_pos hname]
      rfl
  | case2 offset text name hname more hmore hlt e hrec ih =>
      rw [columnNames_eq, htake, hdrop, if_neg hname, hmore]
      simp only [List.cons_append]
      rw [ih, hrec]
      rfl
  | case3 offset text name hname more hmore hlt names behind hrec ih =>
      rw [columnNames_eq, htake, hdrop, if_neg hname, hmore]
      simp only [List.cons_append]
      rw [ih, hrec]
      rfl
  | case4 offset text name hname hend =>
      rw [columnNames_eq, htake, hdrop, if_neg hname]
      split
      next more hmore => exact absurd hmore (not_comma_colon hr hend more)
      next => rfl

omit hr

theorem quotedBody_cons {quote c : Char} (hc : c ≠ '\\') (offset : Nat) (text : List Char) :
    quotedBody quote offset (c :: text) =
      if c = quote then .ok ([], text)
      else (quotedBody quote (offset + c.utf8Size) text).map fun (content, behind) =>
        (c :: content, behind) := by
  rw [quotedBody]
  · split
    next => rfl
    next => cases quotedBody quote (offset + c.utf8Size) text <;> rfl
  · exact fun hslash => absurd hslash hc
  · exact fun _ _ hslash => absurd hslash hc

/-- Whatever stands behind a quoted text, it is the same up to its closing quote. -/
theorem quotedBody_extend {quote : Char} {offset : Nat} {text : List Char}
    (h : quotedBody quote offset text ≠ .error (.unterminatedQuote 0)) :
    quotedBody quote offset (text ++ rest) =
      (quotedBody quote offset text).map (extend rest) := by
  fun_induction quotedBody quote offset text with
  | case1 | case2 => exact absurd rfl h
  | case3 offset c text hc =>
      rw [List.cons_append, List.cons_append, quotedBody]
      simp only [hc]
      rfl
  | case4 offset c text plain hc e hrec ih =>
      rw [List.cons_append, List.cons_append, quotedBody]
      simp only [hc, ih (hrec ▸ h), hrec]
      rfl
  | case5 offset c text plain hc content behind hrec ih =>
      rw [List.cons_append, List.cons_append, quotedBody]
      simp only [hc, ih (by simp [hrec]), hrec]
      rfl
  | case6 offset text hslash hpair =>
      rw [List.cons_append, quotedBody_cons (ne_backslash hslash hpair), if_pos rfl]
      rfl
  | case7 offset c text hslash hpair hquote e hrec ih =>
      rw [List.cons_append, quotedBody_cons (ne_backslash hslash hpair), if_neg hquote,
        ih (hrec ▸ h), hrec]
      rfl
  | case8 offset c text hslash hpair hquote content behind hrec ih =>
      rw [List.cons_append, quotedBody_cons (ne_backslash hslash hpair), if_neg hquote,
        ih (by simp [hrec]), hrec]
      rfl

end

/-- Whether more text cannot change a result, which it can where a quote is left open. -/
def Settled {α : Type} (result : Except TokenError α) : Prop :=
  ∀ position, result ≠ .error (.unterminatedQuote position)

theorem settled_ok {α : Type} (found : α) : Settled (.ok found) := fun _ => nofun

theorem Settled.of_shift {α β : Type} {e : TokenError} {bytes : Nat}
    (h : Settled (.error (e.shift bytes) : Except TokenError α)) :
    Settled (.error e : Except TokenError β) := by
  intro position he
  cases he
  exact h _ rfl

section

variable {text rest : List Char}

theorem longest?_extend (hr : WordEnd rest) (hne : text ≠ []) (h : Settled (longest? text)) :
    longest? (text ++ rest) = (longest? text).map (Option.map (extend rest)) := by
  obtain ⟨c, text, rfl⟩ := List.exists_cons_of_ne_nil hne
  rw [List.cons_append]
  simp only [longest?] at h ⊢
  split
  next hquote =>
      rw [if_pos hquote] at h
      have hbody : quotedBody c 1 text ≠ .error (.unterminatedQuote 0) :=
        fun hopen => h 0 (by rw [hopen])
      rw [quotedBody_extend hbody]
      cases quotedBody c 1 text <;> rfl
  next =>
      split
      next =>
          rw [columnNames_extend hr]
          cases columnNames 1 text <;> rfl
      next =>
          split
          next =>
              have hstop : Stops (isIdentifierChar · = true) rest :=
                hr.stops fun _ hc => (isIdentifierChar_iff.mp hc).bare
              rw [takeWhile_extend hstop, dropWhile_extend hstop]
              rfl
          next =>
              rw [← List.cons_append, read?_extend hr]
              cases read? (c :: text) <;> rfl

theorem firstWord_extend (hr : WordEnd rest) (text : List Char) :
    firstWord (text ++ rest) = firstWord text :=
  takeWhile_extend (fun c hc => by simp [hr c hc]) text

theorem isBoundary_extend (hr : Boundary rest) (text : List Char) :
    isBoundary (text ++ rest) = isBoundary text := by
  cases text with
  | nil => exact isBoundary_iff.mpr hr
  | cons c text => rfl

theorem taken_append (text behind : List Char) :
    taken (text ++ rest) (behind ++ rest) = taken text behind := by
  rw [taken, taken, List.length_append, List.length_append, Nat.add_sub_add_right,
    List.take_append_of_le_length (Nat.sub_le _ _)]

theorem token_extend (hr : Boundary rest) (hne : text ≠ []) (h : Settled (token text)) :
    token (text ++ rest) = (token text).map (extend rest) := by
  have hlongest : Settled (longest? text) := fun position hopen =>
    h position (by rw [token, hopen])
  rw [token, token, longest?_extend hr.wordEnd hne hlongest]
  cases longest? text with
  | error e => rfl
  | ok lexeme =>
      cases lexeme with
      | none => simp only [Except.map, Option.map, firstWord_extend hr.wordEnd]
      | some found =>
          simp only [Except.map, Option.map, extend, isBoundary_extend hr, taken_append,
            firstWord_extend hr.wordEnd]
          split <;> rfl

end

theorem tokens_eq (text : List Char) :
    tokens text =
      match text.dropWhile isSeparator with
      | [] => .ok []
      | c :: behind =>
        match token (c :: behind) with
        | .error e => .error (e.shift (byteLength text - byteLength (c :: behind)))
        | .ok (found, rest) =>
          ((tokens rest).map (found :: ·)).mapError
            (TokenError.shift (byteLength text - byteLength rest)) := by
  rw [tokens]
  split
  next hnone => rw [hnone]
  next c behind hstart =>
      split
      next e htoken => simp only [hstart, htoken]
      next found rest htoken =>
          simp only [hstart, htoken]
          cases tokens rest <;> rfl

theorem byteLength_le_of_suffix {part text : List Char} (h : part <:+ text) :
    byteLength part ≤ byteLength text := by
  obtain ⟨front, rfl⟩ := h
  rw [byteLength_append]
  omega

theorem mapError_mapError {α ε ε' ε'' : Type} (f : ε → ε') (g : ε' → ε'') (result : Except ε α) :
    (result.mapError f).mapError g = result.mapError (g ∘ f) := by
  cases result <;> rfl

theorem shift_shift_fun (a b : Nat) :
    TokenError.shift b ∘ TokenError.shift a = TokenError.shift (a + b) := by
  funext e
  exact TokenError.shift_shift a b e

theorem tokens_gap {gap : List Char} (hg : ∀ c ∈ gap, Separator c) (text : List Char) :
    tokens (gap ++ text) = (tokens text).mapError (TokenError.shift (byteLength gap)) := by
  have hgap : ∀ c ∈ gap, isSeparator c = true := fun c hc => isSeparator_iff.mpr (hg c hc)
  have hbytes {part : List Char} (hpart : part <:+ text) :
      byteLength (gap ++ text) - byteLength part =
        byteLength text - byteLength part + byteLength gap := by
    have hle := byteLength_le_of_suffix hpart
    rw [byteLength_append]
    omega
  rw [tokens_eq, tokens_eq text, List.dropWhile_append_of_pos hgap]
  have hsuffix : text.dropWhile isSeparator <:+ text := List.dropWhile_suffix _
  match hstart : text.dropWhile isSeparator with
  | [] => rfl
  | c :: behind =>
      rw [hstart] at hsuffix
      simp only
      match htoken : token (c :: behind) with
      | .error e =>
          simp only [Except.mapError, TokenError.shift_shift, hbytes hsuffix]
      | .ok (found, rest) =>
          have hrest := (suffix_of_token htoken).trans hsuffix
          simp only [mapError_mapError, shift_shift_fun, hbytes hrest]

/-- The first token of a text that goes on behind a boundary, and what is read behind it. -/
theorem tokens_append_of_token {text start rest : List Char} (hr : Boundary rest)
    (hstart : text.dropWhile isSeparator = start) (hne : start ≠ [])
    (h : Settled (token start)) :
    tokens (text ++ rest) =
      match token start with
      | .error e => .error (e.shift (byteLength text - byteLength start))
      | .ok (found, behind) =>
        ((tokens (behind ++ rest)).map (found :: ·)).mapError
          (TokenError.shift (byteLength text - byteLength behind)) := by
  have hbytes (part : List Char) : byteLength (text ++ rest) - byteLength (part ++ rest) =
      byteLength text - byteLength part := by
    rw [byteLength_append, byteLength_append, Nat.add_sub_add_right]
  have hdrop : (text ++ rest).dropWhile isSeparator = start ++ rest := by
    have hsome : (text.dropWhile isSeparator).isEmpty = false :=
      List.isEmpty_eq_false_iff.mpr (hstart ▸ hne)
    rw [List.dropWhile_append, hsome, hstart]
    rfl
  have htoken := token_extend hr hne h
  obtain ⟨c, start, rfl⟩ := List.exists_cons_of_ne_nil hne
  rw [List.cons_append] at htoken
  rw [tokens_eq, hdrop, List.cons_append]
  simp only [htoken]
  match token (c :: start) with
  | .error e => simp only [Except.map, ← List.cons_append, hbytes]
  | .ok (found, behind) => simp only [Except.map, extend, hbytes]

/-- A text in front of a boundary is read to its end first, and then what is behind it. -/
theorem tokens_boundary {text rest : List Char} (hr : Boundary rest)
    (h : Settled (tokens text)) :
    tokens (text ++ rest) = (tokens text).bind fun found =>
      ((tokens rest).map (found ++ ·)).mapError (TokenError.shift (byteLength text)) := by
  fun_induction tokens text with
  | case1 text hnone =>
      have hgap := List.dropWhile_eq_nil_iff.mp hnone
      rw [tokens_gap fun c hc => isSeparator_iff.mp (hgap c hc)]
      cases tokens rest <;> rfl
  | case2 text c start hstart e htoken =>
      rw [tokens_append_of_token hr hstart (List.cons_ne_nil c start) (htoken ▸ h.of_shift), htoken]
      rfl
  | case3 text c start hstart found behind htoken hlt e hbehind ih =>
      rw [tokens_append_of_token hr hstart (List.cons_ne_nil c start) (htoken ▸ settled_ok _),
        htoken]
      simp only
      rw [ih (hbehind ▸ h.of_shift), hbehind]
      rfl
  | case4 text c start hstart found behind htoken hlt more hbehind ih =>
      have hsuffix : behind <:+ text :=
        (suffix_of_token htoken).trans (hstart ▸ List.dropWhile_suffix _)
      have hle := byteLength_le_of_suffix hsuffix
      rw [tokens_append_of_token hr hstart (List.cons_ne_nil c start) (htoken ▸ settled_ok _),
        htoken]
      simp only
      rw [ih (hbehind ▸ settled_ok _), hbehind]
      cases tokens rest with
      | error e =>
          simp only [Except.bind, Except.map, Except.mapError, TokenError.shift_shift,
            Nat.add_sub_of_le hle]
      | ok last => rfl

/-- Behind separators a text is read as if it stood alone. -/
theorem tokens_join {text gap : List Char} (hne : gap ≠ []) (hg : ∀ c ∈ gap, Separator c)
    (more : List Char) (h : Settled (tokens text)) :
    tokens (text ++ (gap ++ more)) = (tokens text).bind fun found =>
      ((tokens more).map (found ++ ·)).mapError
        (TokenError.shift (byteLength text + byteLength gap)) := by
  have hr : Boundary (gap ++ more) := by
    obtain ⟨c, gap, rfl⟩ := List.exists_cons_of_ne_nil hne
    intro d hd
    obtain rfl : c = d := by simpa using hd
    exact hg c List.mem_cons_self
  rw [tokens_boundary hr h, tokens_gap hg]
  congr 1
  funext found
  cases tokens more with
  | error e => simp only [Except.mapError, Except.map, TokenError.shift_shift, Nat.add_comm]
  | ok last => rfl

end RowScript.Grammar

namespace RowScript

open Grammar Text

theorem byteLength_toList (text : String) : byteLength text.toList = text.utf8ByteSize := by
  rw [← size_utf8Encode, String.utf8Encode_toList]
  rfl

/-- Tokenizing goes along with putting texts together: behind a text with tokens and some
separators, another text has the tokens or the error that it has alone, the error that
much further on. What is wrong with the first text stays wrong, but for a quote that is
left open in it. -/
theorem tokenize_append (a gap b : String) (hne : gap ≠ "")
    (hgap : ∀ c ∈ gap.toList, Separator c) :
    (∀ found, tokenize a = .ok found →
      (∀ more, tokenize b = .ok more → tokenize (a ++ gap ++ b) = .ok (found ++ more)) ∧
      ∀ e, tokenize b = .error e →
        tokenize (a ++ gap ++ b) = .error (e.shift (a.utf8ByteSize + gap.utf8ByteSize))) ∧
    ∀ e, tokenize a = .error e → (∀ position, e ≠ .unterminatedQuote position) →
      tokenize (a ++ gap ++ b) = .error e := by
  have hjoin (h : Settled (tokenize a)) : tokenize (a ++ gap ++ b) =
      (tokenize a).bind fun found => ((tokenize b).map (found ++ ·)).mapError
        (TokenError.shift (a.utf8ByteSize + gap.utf8ByteSize)) := by
    have htext : (a ++ gap ++ b).toList = a.toList ++ (gap.toList ++ b.toList) := by simp
    rw [← byteLength_toList, ← byteLength_toList, tokenize, htext]
    exact tokens_join (by simpa using hne) hgap b.toList h
  refine ⟨fun found ha => ⟨fun more hb => ?_, fun e hb => ?_⟩, fun e ha he => ?_⟩
  · rw [hjoin (ha ▸ settled_ok found), ha, hb]
    rfl
  · rw [hjoin (ha ▸ settled_ok found), ha, hb]
    rfl
  · rw [hjoin (ha ▸ fun position h => he position (Except.error.inj h)), ha]
    rfl

/-- Behind a letter of two bytes and two separators, an escape that is none; and behind a
colon without a name, a quote that is left open. -/
theorem tokenize_append_escape :
    (tokenize ":é 'it\\'s'" = .ok [.column "é", .text "it's"] ∧
      tokenize "7 'a\\q'" = .error (.invalidEscape 'q' 4) ∧
      tokenize (":é 'it\\'s'" ++ "\t " ++ "7 'a\\q'") = .error (.invalidEscape 'q' 17)) ∧
    tokenize ":é :" = .error (.emptyColumnName 4) ∧
      tokenize (":é :" ++ "\t " ++ "'") = .error (.emptyColumnName 4) := by
  have ha : tokenize ":é 'it\\'s'" = .ok [.column "é", .text "it's"] := by decide +kernel
  have hb : tokenize "7 'a\\q'" = .error (.invalidEscape 'q' 4) := by decide +kernel
  have hgap : ∀ c ∈ "\t ".toList, Separator c := by simp [Separator]
  have hc : tokenize ":é :" = .error (.emptyColumnName 4) := by decide +kernel
  have hescape := tokenize_append ":é 'it\\'s'" "\t " "7 'a\\q'" (by decide) hgap
  have hcolon := tokenize_append ":é :" "\t " "'" (by decide) hgap
  exact ⟨⟨ha, hb, (hescape.1 _ ha).2 _ hb⟩, hc, hcolon.2 _ hc nofun⟩

end RowScript
