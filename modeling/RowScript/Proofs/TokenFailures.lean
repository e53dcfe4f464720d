import RowScript.Proofs.Tokenization

/-!
What stops the lexer. A quoted text can be left open or have an escape that is none, and a column
can lack its name: a text that begins like this is broken, and the lexer finds out what is wrong
with it and where. It reads a text from token to token and stops at the first one that fails, so
all that stands in front of that one has tokens.
-/

namespace RowScript.Grammar

open Lexer Text

/-- Column names with their colons, and a comma behind each of them. -/
def columnItems (names : List (List Char)) : List Char :=
  names.flatMap fun name => ':' :: (name ++ [','])

/-- A text that begins like a lexeme which cannot be read to its end, and why not. -/
inductive Broken : List Char → TokenError → Prop
  /-- A quoted text goes on to the end, with a last backslash or without. -/
  | quote {quote : Char} {body content tail : List Char} (hq : quote = '\'' ∨ quote = '"')
      (h : Body quote body content) (ht : tail = [] ∨ tail = ['\\']) :
      Broken (quote :: (body ++ tail)) (.unterminatedQuote 0)
  | escape {quote c : Char} {body content behind : List Char} (hq : quote = '\'' ∨ quote = '"')
      (h : Body quote body content) (hc : ∀ meant, ¬Escape c meant) :
      Broken (quote :: (body ++ '\\' :: c :: behind))
        (.invalidEscape c (byteLength (quote :: body)))
  | column {names : List (List Char)} {behind : List Char} (h : ∀ name ∈ names, ColumnName name)
      (hb : Stops ColumnChar behind) :
      Broken (columnItems names ++ ':' :: behind) (.emptyColumnName (byteLength (columnItems names)))

theorem ne_backslash {c : Char} {text : List Char} (hlone : c = '\\' → text ≠ [])
    (hpair : ∀ d more, c = '\\' → text ≠ d :: more) : c ≠ '\\' := by
  intro hc
  cases text with
  | nil => exact hlone hc rfl
  | cons d more => exact hpair d more hc rfl

section

variable {quote c : Char} {body content tail behind text : List Char} {offset : Nat}
  {e : TokenError}

theorem unescape?_eq_none_iff : unescape? c = none ↔ ∀ meant, ¬Escape c meant := by
  simp only [Option.eq_none_iff_forall_ne_some, ne_eq, unescape?_eq_some_iff]

theorem quotedBody_unterminated (h : Body quote body content) (ht : tail = [] ∨ tail = ['\\'])
    (offset : Nat) : quotedBody quote offset (body ++ tail) = .error (.unterminatedQuote 0) := by
  induction h generalizing offset with
  | nil => obtain rfl | rfl := ht <;> simp [quotedBody]
  | plain hne hb _ ih => simp [quotedBody, hne, hb, ih]
  | escaped he _ ih => simp [quotedBody, unescape?_eq_some_iff.mpr he, ih]

theorem quotedBody_invalid (h : Body quote body content) (hc : ∀ meant, ¬Escape c meant)
    (offset : Nat) (behind : List Char) :
    quotedBody quote offset (body ++ '\\' :: c :: behind) =
      .error (.invalidEscape c (offset + byteLength body)) := by
  induction h generalizing offset with
  | nil => simp [quotedBody, unescape?_eq_none_iff.mpr hc]
  | plain hne hb _ ih => simp [quotedBody, hne, hb, ih, Nat.add_assoc]
  | escaped he _ ih =>
      have hslash : Char.utf8Size '\\' = 1 := rfl
      simp [quotedBody, unescape?_eq_some_iff.mpr he, ih, hslash, Nat.add_assoc]

theorem broken_of_quotedBody (h : quotedBody quote offset text = .error e) :
    ∃ body content, Body quote body content ∧
      ((∃ tail, (tail = [] ∨ tail = ['\\']) ∧ text = body ++ tail ∧ e = .unterminatedQuote 0) ∨
        ∃ c behind, (∀ meant, ¬Escape c meant) ∧ text = body ++ '\\' :: c :: behind ∧
          e = .invalidEscape c (offset + byteLength body)) := by
  fun_induction quotedBody quote offset text with
  | case1 =>
      cases h
      exact ⟨[], [], .nil, .inl ⟨[], .inl rfl, rfl, rfl⟩⟩
  | case2 =>
      cases h
      exact ⟨[], [], .nil, .inl ⟨['\\'], .inr rfl, rfl, rfl⟩⟩
  | case3 offset c rest hc =>
      cases h
      exact ⟨[], [], .nil, .inr ⟨c, rest, unescape?_eq_none_iff.mp hc, rfl, rfl⟩⟩
  | case4 offset c rest plain hc cause hrest ih =>
      cases h
      obtain ⟨body, content, hbody, hcause⟩ := ih hrest
      refine ⟨'\\' :: c :: body, plain :: content, .escaped (unescape?_eq_some_iff.mp hc) hbody, ?_⟩
      obtain ⟨tail, ht, rfl, rfl⟩ | ⟨d, behind, hd, rfl, rfl⟩ := hcause
      · exact .inl ⟨tail, ht, rfl, rfl⟩
      · refine .inr ⟨d, behind, hd, rfl, ?_⟩
        simp only [byteLength_cons, Nat.add_assoc]
        rfl
  | case5 | case6 => cases h
  | case7 offset c rest hslash hpair hquote cause hrest ih =>
      cases h
      obtain ⟨body, content, hbody, hcause⟩ := ih hrest
      refine ⟨c :: body, c :: content, .plain hquote (ne_backslash hslash hpair) hbody, ?_⟩
      obtain ⟨tail, ht, rfl, rfl⟩ | ⟨d, behind, hd, rfl, rfl⟩ := hcause
      · exact .inl ⟨tail, ht, rfl, rfl⟩
      · exact .inr ⟨d, behind, hd, rfl, by rw [byteLength_cons, Nat.add_assoc]⟩
  | case8 => cases h

end

section

variable {names : List (List Char)} {name text behind : List Char} {offset : Nat}
  {e : TokenError}

theorem columnItems_cons (name : List Char) (names : List (List Char)) (rest : List Char) :
    columnItems (name :: names) ++ rest = ':' :: (name ++ ',' :: (columnItems names ++ rest)) := by
  simp [columnItems]

theorem byteLength_columnItems_cons (name : List Char) (names : List (List Char)) :
    byteLength (columnItems (name :: names)) =
      byteLength name + 2 + byteLength (columnItems names) := by
  have hcolon : Char.utf8Size ':' = 1 := rfl
  have hcomma : Char.utf8Size ',' = 1 := rfl
  simp only [columnItems, List.flatMap_cons, byteLength_append, byteLength_cons, byteLength_nil,
    hcolon, hcomma]
  omega

theorem takeWhile_isColumnChar_eq_nil_iff {text : List Char} :
    text.takeWhile isColumnChar = [] ↔ Stops ColumnChar text := by
  cases text with
  | nil => simp [Stops]
  | cons c text => simp [stops_cons, List.takeWhile_cons, ← isColumnChar_iff]

/-- What follows the comma behind a column is the next colon. -/
theorem exists_colon (names : List (List Char)) (behind : List Char) :
    ∃ text, columnItems names ++ ':' :: behind = ':' :: text := by
  cases names with
  | nil => exact ⟨behind, rfl⟩
  | cons name names => exact ⟨_, columnItems_cons name names _⟩

theorem columnNames_of_items (h : ∀ name ∈ names, ColumnName name) (hb : Stops ColumnChar behind)
    (htext : ':' :: text = columnItems names ++ ':' :: behind) (hpos : 0 < offset) :
    columnNames offset text =
      .error (.emptyColumnName (offset - 1 + byteLength (columnItems names))) := by
  induction names generalizing text offset with
  | nil =>
      obtain rfl : text = behind := (List.cons.inj htext).2
      rw [columnNames_eq, if_pos (takeWhile_isColumnChar_eq_nil_iff.mpr hb)]
      rfl
  | cons name names ih =>
      obtain ⟨hname, hnames⟩ := List.forall_mem_cons.mp h
      obtain ⟨more, hmore⟩ := exists_colon names behind
      rw [columnItems_cons, hmore] at htext
      obtain rfl : text = name ++ ',' :: ':' :: more := (List.cons.inj htext).2
      rw [columnNames_cons hname, ih hnames hmore.symm (by omega), byteLength_columnItems_cons]
      simp only [Except.map]
      congr 2
      omega

theorem items_of_columnNames (h : columnNames offset text = .error e) (hpos : 0 < offset) :
    ∃ names behind, (∀ name ∈ names, ColumnName name) ∧ Stops ColumnChar behind ∧
      ':' :: text = columnItems names ++ ':' :: behind ∧
      e = .emptyColumnName (offset - 1 + byteLength (columnItems names)) := by
  fun_induction columnNames offset text with
  | case1 offset text name hname =>
      cases h
      exact ⟨[], text, List.forall_mem_nil _, takeWhile_isColumnChar_eq_nil_iff.mp hname, rfl, rfl⟩
  | case2 offset text name hname more hdrop hlt cause hmore ih =>
      cases h
      obtain ⟨names, behind, hnames, hbehind, htext, hcause⟩ := ih hmore (by omega)
      have hisName : ColumnName name :=
        ⟨hname, fun _ hc => isColumnChar_iff.mp (List.mem_takeWhile_imp hc)⟩
      refine ⟨name :: names, behind, List.forall_mem_cons.mpr ⟨hisName, hnames⟩, hbehind, ?_, ?_⟩
      · rw [columnItems_cons, ← htext, ← hdrop, List.takeWhile_append_dropWhile]
      · rw [hcause, byteLength_columnItems_cons]
        congr 1
        omega
  | case3 | case4 => cases h

end

theorem not_broken_unrecognized {text : List Char} {lexeme : String} {position : Nat} :
    ¬Broken text (.unrecognized lexeme position) :=
  nofun

theorem longest?_of_broken {text : List Char} {e : TokenError} (h : Broken text e) :
    longest? text = .error e := by
  cases h with
  | quote hq h ht =>
      simp only [longest?, isQuote_iff.mpr hq, if_true, quotedBody_unterminated h ht]
  | @escape quote c body content behind hq h hc =>
      have hquote : quote.utf8Size = 1 := by obtain rfl | rfl := hq <;> rfl
      simp only [longest?, isQuote_iff.mpr hq, if_true, quotedBody_invalid h hc,
        byteLength_cons, hquote]
  | @column names behind h hb =>
      obtain ⟨text, htext⟩ := exists_colon names behind
      have hcolumns := columnNames_of_items h hb htext.symm Nat.one_pos
      rw [Nat.sub_self, Nat.zero_add] at hcolumns
      simp [htext, longest?, isQuote, hcolumns]

theorem broken_of_longest? {text : List Char} {e : TokenError} (h : longest? text = .error e) :
    Broken text e := by
  cases text with
  | nil => cases h
  | cons c rest =>
      rw [longest?] at h
      split at h
      next hquote =>
          have hq := isQuote_iff.mp hquote
          have hone : c.utf8Size = 1 := by obtain rfl | rfl := hq <;> rfl
          split at h
          next cause hread =>
              cases h
              obtain ⟨body, content, hbody, hcause⟩ := broken_of_quotedBody hread
              obtain ⟨tail, ht, rfl, rfl⟩ | ⟨d, behind, hd, rfl, rfl⟩ := hcause
              · exact .quote hq hbody ht
              · rw [← hone]
                exact .escape hq hbody hd
          next => cases h
      next =>
          split at h
          next hcolon =>
              split at h
              next cause hread =>
                  cases h
                  obtain ⟨names, behind, hnames, hbehind, htext, rfl⟩ :=
                    items_of_columnNames hread Nat.one_pos
                  rw [hcolon, htext, Nat.sub_self, Nat.zero_add]
                  exact .column hnames hbehind
              next => cases h
          next => split at h <;> cases h

/-- The lexer fails on the broken texts and on no others, each with its own error. -/
theorem longest?_eq_error_iff {text : List Char} {e : TokenError} :
    longest? text = .error e ↔ Broken text e :=
  ⟨broken_of_longest?, longest?_of_broken⟩

/-- The lexer reads a text up to a place where a token should start, and no further. -/
structure StopsAt (text front rest : List Char) (cause : TokenError) : Prop where
  spells : text = front ++ rest
  start : ∀ c ∈ front.getLast?, Separator c
  read : ∃ found, Lexer.tokens front = .ok found
  head : ¬Boundary rest
  fails : token rest = .error cause

/-- In front of the token that fails stands another one, with its gap. -/
theorem StopsAt.behind {gap lexeme text front rest : List Char} {found : Token}
    {cause : TokenError} (h : StopsAt text front rest cause) (hg : ∀ c ∈ gap, Separator c)
    (hl : Lexeme lexeme found) (ht : Boundary text) :
    StopsAt (gap ++ (lexeme ++ text)) (gap ++ (lexeme ++ front)) rest cause := by
  obtain ⟨rfl, hstart, ⟨more, hmore⟩, hhead, hfails⟩ := h
  have hfront : front ≠ [] := by
    rintro rfl
    exact hhead ht
  constructor
  case spells => simp only [List.append_assoc]
  case start =>
    rwa [List.getLast?_append_of_ne_nil _ (List.append_ne_nil_of_right_ne_nil _ hfront),
      List.getLast?_append_of_ne_nil _ hfront]
  case read =>
    exact ⟨_, tokens_append hg hl ht.of_append hmore⟩
  case head => exact hhead
  case fails => exact hfails

theorem exists_stopsAt {text : List Char} {e : TokenError} (h : Lexer.tokens text = .error e) :
    ∃ front rest cause, StopsAt text front rest cause ∧ e = cause.shift (byteLength front) := by
  have hbytes (front rest : List Char) :
      byteLength (front ++ rest) - byteLength rest = byteLength front := by
    rw [byteLength_append, Nat.add_sub_cancel]
  have hgap {text start : List Char} (hstart : text.dropWhile isSeparator = start) :
      ∃ gap, (∀ c ∈ gap, Separator c) ∧ text = gap ++ start := by
    refine ⟨text.takeWhile isSeparator, fun c hc => ?_, ?_⟩
    · exact isSeparator_iff.mp (List.mem_takeWhile_imp hc)
    · rw [← hstart, List.takeWhile_append_dropWhile]
  fun_induction Lexer.tokens text generalizing e with
  | case1 => cases h
  | case2 text c behind hstart cause htoken =>
      cases h
      have hhead := List.head?_dropWhile_not isSeparator text
      rw [hstart] at hhead
      have hc : ¬Separator c := mt isSeparator_iff.mpr (by simpa using hhead)
      obtain ⟨gap, hg, rfl⟩ := hgap hstart
      refine ⟨gap, c :: behind, cause, ?_, by rw [hbytes]⟩
      exact {
        spells := rfl
        start := fun d hd => hg d (List.mem_of_getLast? hd)
        read := ⟨[], tokens_of_separators hg⟩
        head := not_boundary_iff.mpr ⟨c, behind, rfl, hc⟩
        fails := htoken }
  | case3 text c behind hstart found rest htoken hlt e hrest ih =>
      cases h
      obtain ⟨front, last, cause, hstops, rfl⟩ := ih hrest
      obtain ⟨lexeme, hlexeme, htext, hboundary⟩ := lexeme_of_token htoken
      obtain ⟨gap, hg, rfl⟩ := hgap (hstart.trans htext)
      refine ⟨_, last, cause, hstops.behind hg hlexeme hboundary, ?_⟩
      rw [TokenError.shift_shift, ← List.append_assoc gap lexeme rest, hbytes,
        ← List.append_assoc gap lexeme front, byteLength_append _ front, Nat.add_comm]
  | case4 => cases h

end RowScript.Grammar
