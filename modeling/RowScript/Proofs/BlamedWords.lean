import RowScript.Proofs.Locality

/-!
The words that errors blame. A word that is not recognized in a text is not recognized alone, as
long as the text goes on behind it at a boundary or ends. Words end at any white space, though, and
tokens at separators only: in front of white space that is no separator a lexeme is blamed that
would be a token alone, or nothing at all is blamed.
-/

namespace RowScript

namespace Grammar

open Lexer Text

variable {text rest : List Char}

theorem not_blank_of_mem_firstWord {c : Char} (h : c ∈ firstWord text) : isBlank c = false := by
  have hc : (!isBlank c) = true := List.mem_takeWhile_imp (p := (!isBlank ·)) h
  simpa using hc

theorem exists_behind_firstWord (text : List Char) :
    ∃ behind, text = firstWord text ++ behind ∧ WordEnd behind := by
  refine ⟨text.dropWhile (!isBlank ·), List.takeWhile_append_dropWhile.symm, fun c hc => ?_⟩
  have hhead := List.head?_dropWhile_not (!isBlank ·) text
  rw [Option.mem_def.mp hc] at hhead
  simpa using hhead

theorem firstWord_eq_self (h : ∀ c ∈ text, isBlank c = false) : firstWord text = text :=
  List.takeWhile_eq_self_iff.mpr fun c hc => by rw [h c hc]; rfl

theorem isBoundary_of_not_blank (hne : text ≠ []) (h : ∀ c ∈ text, isBlank c = false) :
    isBoundary text = false := by
  obtain ⟨c, more, rfl⟩ := List.exists_cons_of_ne_nil hne
  refine Bool.eq_false_iff.mpr fun hsep => ?_
  have hblank := (isSeparator_iff.mp hsep).isBlank
  exact Bool.noConfusion ((h c List.mem_cons_self).symm.trans hblank)

/-- Only a quote can be left open. -/
theorem settled_longest? {c : Char} (h : ¬isQuote c = true) (text : List Char) :
    Settled (longest? (c :: text)) := by
  intro position hopen
  have hbroken := longest?_eq_error_iff.mp hopen
  generalize hstart : c :: text = start at hbroken
  cases hbroken with
  | quote hq _ _ => exact h (isQuote_iff.mpr ((List.cons.inj hstart).1 ▸ hq))

theorem extend_injective {α : Type} (rest : List Char) : Function.Injective (@extend α rest) := by
  intro a b h
  obtain ⟨hfound, hbehind⟩ := Prod.mk.inj h
  exact Prod.ext hfound (List.append_cancel_right hbehind)

/-- What is found in front of the end of a word is found without what follows the word. -/
theorem longest?_of_extend (hr : WordEnd rest) (hne : text ≠ [])
    {found : Option (Token × List Char)}
    (h : longest? (text ++ rest) = .ok (found.map (extend rest))) :
    longest? text = .ok found := by
  obtain ⟨c, text, rfl⟩ := List.exists_cons_of_ne_nil hne
  have hsettled : Settled (longest? (c :: text)) := by
    by_cases hquote : isQuote c = true
    case neg => exact settled_longest? hquote text
    rw [List.cons_append, longest?, if_pos hquote] at h
    split at h
    next => cases h
    next content behind hbody =>
        obtain ⟨body, hcontent, htext⟩ := body_of_quotedBody hbody
        obtain ⟨found, -, hbehind⟩ := Option.map_eq_some_iff.mp (Except.ok.inj h).symm
        have hcloses : text = body ++ c :: found.2 := by
          rw [← (Prod.mk.inj hbehind).2, ← List.cons_append, ← List.append_assoc] at htext
          exact List.append_cancel_right htext
        have hslash := (quote_apart (isQuote_iff.mp hquote)).1
        rw [longest?, if_pos hquote, hcloses, quotedBody_append hcontent hslash]
        exact settled_ok _
  rw [longest?_extend hr hne hsettled] at h
  obtain ⟨other, hother, hsame⟩ : ∃ other, longest? (c :: text) = .ok other ∧
      other.map (extend rest) = found.map (extend rest) := by
    cases hlongest : longest? (c :: text) with
    | error e => rw [hlongest] at h; cases h
    | ok other => exact ⟨other, rfl, by rw [hlongest] at h; exact Except.ok.inj h⟩
  rw [hother, Option.map_injective (extend_injective rest) hsame]

/-- What is blamed, where a token should start, goes up to the end of a word. Either it is blamed
alone as well, or the word does not end at a boundary and what is blamed is a lexeme or nothing. -/
theorem token_unrecognized {lexeme : List Char} {position : Nat} (hstart : ¬Boundary text)
    (h : token text = .error (.unrecognized (String.ofList lexeme) position)) :
    position = 0 ∧ ∃ behind, text = lexeme ++ behind ∧ WordEnd behind ∧
      (lexeme ≠ [] ∧ token lexeme = .error (.unrecognized (String.ofList lexeme) 0) ∨
        ¬Boundary behind ∧ (lexeme = [] ∨ ∃ token, Lexeme lexeme token)) := by
  rw [token] at h
  split at h
  next cause hlongest =>
      cases h
      exact absurd (longest?_eq_error_iff.mp hlongest) not_broken_unrecognized
  next hlongest =>
      obtain ⟨hword, rfl⟩ := TokenError.unrecognized.inj (Except.error.inj h)
      obtain rfl := String.ofList_injective hword
      obtain ⟨behind, htext, hend⟩ := exists_behind_firstWord text
      refine ⟨rfl, behind, htext, hend, ?_⟩
      by_cases hempty : firstWord text = []
      · rw [hempty, List.nil_append] at htext
        exact .inr ⟨htext ▸ hstart, .inl hempty⟩
      · have halone : longest? (firstWord text) = .ok none :=
          longest?_of_extend hend hempty (htext ▸ hlongest)
        refine .inl ⟨hempty, ?_⟩
        rw [token, halone, firstWord_eq_self fun _ => not_blank_of_mem_firstWord]
  next found rest hlongest =>
      split at h
      next => cases h
      next hrest =>
          obtain ⟨hword, rfl⟩ := TokenError.unrecognized.inj (Except.error.inj h)
          obtain rfl := String.ofList_injective hword
          obtain ⟨front, hfront, rfl⟩ := lexeme_of_longest? hlongest
          obtain ⟨behind, hbehind, hend⟩ := exists_behind_firstWord rest
          rw [taken_eq]
          refine ⟨rfl, behind, by rw [List.append_assoc, ← hbehind], hend, ?_⟩
          by_cases hempty : firstWord rest = []
          · rw [hempty, List.nil_append] at hbehind
            rw [hempty, List.append_nil]
            exact .inr ⟨hbehind ▸ mt isBoundary_iff.mpr hrest, .inr ⟨found, hfront⟩⟩
          · have hword : ∀ c ∈ firstWord rest, isBlank c = false :=
              fun _ => not_blank_of_mem_firstWord
            have hne := List.append_ne_nil_of_right_ne_nil front hempty
            have halone : longest? (front ++ firstWord rest) =
                .ok (some (found, firstWord rest)) := by
              refine longest?_of_extend hend hne ?_
              rw [List.append_assoc, ← hbehind, hlongest, Option.map_some, extend, ← hbehind]
            refine .inl ⟨hne, ?_⟩
            simp only [token, halone, isBoundary_of_not_blank hempty hword, taken_eq,
              firstWord_eq_self hword]
            rfl

theorem tokens_of_token_error {e : TokenError} (hstart : ¬Boundary text)
    (h : token text = .error e) : tokens text = .error e := by
  obtain ⟨c, more, rfl, hc⟩ := not_boundary_iff.mp hstart
  have hdrop : (c :: more).dropWhile isSeparator = c :: more :=
    List.dropWhile_cons_of_neg (mt isSeparator_iff.mp hc)
  rw [tokens_eq, hdrop]
  simp only [h, Nat.sub_self, TokenError.shift_zero]

theorem tokens_lexeme {lexeme : List Char} {token : Token} (h : Lexeme lexeme token) :
    tokens lexeme = .ok [token] := by
  have hend : Boundary [] := nofun
  have hread := tokens_append (List.forall_mem_nil _) h hend
    (tokens_of_separators (List.forall_mem_nil _))
  rwa [List.nil_append, List.append_nil] at hread

end Grammar

open Grammar Text

/-- What stands at the position ends in front of white space that is no separator, and it is
nothing or a lexeme. -/
def CutShort (text lexeme : List Char) (position : Nat) : Prop :=
  ∃ front c behind, text = front ++ (lexeme ++ c :: behind) ∧ position = byteLength front ∧
    isBlank c = true ∧ ¬Separator c ∧ (lexeme = [] ∨ ∃ token, Lexeme lexeme token)

/-- A word that is not recognized in a text is not recognized alone, unless white space that is no
separator cuts it short. -/
theorem unrecognized_alone_iff {text lexeme : String} {position : Nat}
    (h : tokenize text = .error (.unrecognized lexeme position)) :
    (lexeme ≠ "" ∧ tokenize lexeme = .error (.unrecognized lexeme 0)) ↔
      ¬CutShort text.toList lexeme.toList position := by
  constructor
  · rintro ⟨hne, halone⟩ ⟨front, c, behind, -, -, -, -, hempty | ⟨token, hlexeme⟩⟩
    · exact hne (String.toList_eq_nil_iff.mp hempty)
    · rw [tokenize, tokens_lexeme hlexeme] at halone
      cases halone
  · intro hwhole
    obtain ⟨front, rest, cause, hstops, hcause⟩ := exists_stopsAt h
    cases cause with
    | unterminatedQuote | invalidEscape | emptyColumnName => cases hcause
    | unrecognized word place =>
        obtain ⟨rfl, rfl⟩ := TokenError.unrecognized.inj hcause
        have hfails := hstops.fails
        rw [← String.ofList_toList (s := lexeme)] at hfails
        obtain ⟨rfl, behind, rfl, hend, ⟨hne, halone⟩ | ⟨hcut, hlexeme⟩⟩ :=
          token_unrecognized hstops.head hfails
        · rw [String.ofList_toList] at halone
          refine ⟨fun hempty => hne (String.toList_eq_nil_iff.mpr hempty), ?_⟩
          have hstart := mt (fun hboundary : Boundary _ => hboundary.append hne behind) hstops.head
          exact tokens_of_token_error hstart halone
        · obtain ⟨c, more, rfl, hc⟩ := not_boundary_iff.mp hcut
          refine absurd ⟨front, c, more, hstops.spells, Nat.zero_add _, hend c rfl, hc, ?_⟩ hwhole
          exact hlexeme

/-- A quoted text that a letter touches. -/
theorem unrecognized_alone_iff_of_quote :
    tokenize ":a 'b'c" = .error (.unrecognized "'b'c" 3) ∧
      (("'b'c" ≠ "" ∧ tokenize "'b'c" = .error (.unrecognized "'b'c" 0)) ↔
        ¬CutShort ":a 'b'c".toList "'b'c".toList 3) := by
  have h : tokenize ":a 'b'c" = .error (.unrecognized "'b'c" 3) := by decide +kernel
  exact ⟨h, unrecognized_alone_iff h⟩

/-- A no-break space is white space and no separator: what it cuts short is an identifier, or
nothing. -/
theorem exists_recognized_lexeme :
    tokenize "a\u00a0" = .error (.unrecognized "a" 0) ∧ tokenize "a" = .ok [.identifier "a"] ∧
      tokenize "\u00a0" = .error (.unrecognized "" 0) ∧ tokenize "" = .ok [] := by
  decide +kernel

end RowScript
