import RowScript.Proofs.Numerals

/-!
One lexeme at the start of a text. Where a lexeme stands in front of a boundary the
lexer takes that lexeme and no other, and whatever it takes is a lexeme: the first
character tells the form, and no form can go on over a separator.
-/

namespace RowScript.Grammar

open Lexer Text

theorem quotedBody_append {quote : Char} {body content : List Char} (h : Body quote body content)
    (hq : quote ≠ '\\') (offset : Nat) (rest : List Char) :
    quotedBody quote offset (body ++ quote :: rest) = .ok (content, rest) := by
  induction h generalizing offset with
  | nil => simp [quotedBody, hq]
  | plain hne hb _ ih => simp [quotedBody, hne, hb, ih]
  | escaped he _ ih => simp [quotedBody, unescape?_eq_some_iff.mpr he, ih]

theorem body_of_quotedBody {quote : Char} {offset : Nat} {text content rest : List Char}
    (h : quotedBody quote offset text = .ok (content, rest)) :
    ∃ body, Body quote body content ∧ text = body ++ quote :: rest := by
  fun_induction quotedBody quote offset text generalizing content rest with
  | case1 | case2 | case3 | case4 | case7 => simp at h
  | case5 offset c more meant he content' behind hrec ih =>
      simp only [Except.ok.injEq, Prod.mk.injEq] at h
      obtain ⟨rfl, rfl⟩ := h
      obtain ⟨body, hbody, rfl⟩ := ih hrec
      exact ⟨'\\' :: c :: body, .escaped (unescape?_eq_some_iff.mp he) hbody, rfl⟩
  | case6 offset more hlone hpair =>
      simp only [Except.ok.injEq, Prod.mk.injEq] at h
      obtain ⟨rfl, rfl⟩ := h
      exact ⟨[], .nil, rfl⟩
  | case8 offset c more hlone hpair hq content' behind hrec ih =>
      simp only [Except.ok.injEq, Prod.mk.injEq] at h
      obtain ⟨rfl, rfl⟩ := h
      obtain ⟨body, hbody, rfl⟩ := ih hrec
      have hb : c ≠ '\\' := by
        intro hslash
        subst hslash
        cases body <;> exact hpair _ _ rfl rfl
      exact ⟨c :: body, .plain hq hb hbody, rfl⟩

theorem moreColumns_cons (name : List Char) (names : List (List Char)) (rest : List Char) :
    moreColumns (name :: names) ++ rest = ',' :: ':' :: (name ++ (moreColumns names ++ rest)) := by
  simp only [moreColumns, List.flatMap_cons, List.cons_append, List.append_assoc]

theorem columnNames_eq (offset : Nat) (text : List Char) :
    columnNames offset text =
      if text.takeWhile isColumnChar = [] then .error (.emptyColumnName (offset - 1))
      else
        let name := text.takeWhile isColumnChar
        match text.dropWhile isColumnChar with
        | ',' :: ':' :: more =>
          (columnNames (offset + byteLength name + 2) more).map fun (names, behind) =>
            (String.ofList name :: names, behind)
        | behind => .ok ([String.ofList name], behind) := by
  rw [columnNames]
  split
  next => rfl
  next =>
      simp only
      split
      next more hmore =>
          rw [hmore]
          simp only
          cases columnNames (offset + byteLength (text.takeWhile isColumnChar) + 2) more <;> rfl
      next hend =>
          split
          next more hmore => exact absurd hmore (hend more)
          next => rfl

/-- The last name of a list is taken whole, and no comma goes on with the list. -/
theorem columnNames_last {name rest : List Char} (hn : ColumnName name) (hr : Boundary rest)
    (offset : Nat) : columnNames offset (name ++ rest) = .ok ([String.ofList name], rest) := by
  have inside : ∀ c ∈ name, isColumnChar c = true := fun c hc => isColumnChar_iff.mpr (hn.2 c hc)
  have behind : Stops (isColumnChar · = true) rest :=
    hr.stops fun _ hc => mt isColumnChar_iff.mp hc.not_columnChar
  rw [columnNames_eq, takeWhile_append_of_stops inside behind,
    dropWhile_append_of_stops inside behind, if_neg hn.1]
  split
  · exact absurd (hr ',' rfl) (by simp [Separator])
  · rfl

/-- A comma and a colon go on with the list. -/
theorem columnNames_cons {name : List Char} (hn : ColumnName name) (offset : Nat)
    (more : List Char) :
    columnNames offset (name ++ ',' :: ':' :: more) =
      (columnNames (offset + byteLength name + 2) more).map fun (names, rest) =>
        (String.ofList name :: names, rest) := by
  have inside : ∀ c ∈ name, isColumnChar c = true := fun c hc => isColumnChar_iff.mpr (hn.2 c hc)
  have behind : Stops (isColumnChar · = true) (',' :: ':' :: more) :=
    stops_cons.mpr (mt isColumnChar_iff.mp not_columnChar_comma)
  rw [columnNames_eq, takeWhile_append_of_stops inside behind,
    dropWhile_append_of_stops inside behind, if_neg hn.1]
  rfl

theorem columnNames_moreColumns {name : List Char} {names : List (List Char)}
    (hn : ColumnName name) (hns : ∀ other ∈ names, ColumnName other) {rest : List Char}
    (hr : Boundary rest) (offset : Nat) :
    columnNames offset (name ++ (moreColumns names ++ rest)) =
      .ok ((name :: names).map String.ofList, rest) := by
  induction names generalizing name offset with
  | nil => exact columnNames_last hn hr offset
  | cons other names ih =>
      obtain ⟨hother, hnames⟩ := List.forall_mem_cons.mp hns
      rw [moreColumns_cons, columnNames_cons hn, ih hother hnames]
      rfl

theorem columns_of_columnNames {offset : Nat} {text rest : List Char} {found : List String}
    (h : columnNames offset text = .ok (found, rest)) :
    ∃ name names, ColumnName name ∧ (∀ other ∈ names, ColumnName other) ∧
      found = (name :: names).map String.ofList ∧ text = name ++ (moreColumns names ++ rest) := by
  have isName {text : List Char} (hne : text.takeWhile isColumnChar ≠ []) :
      ColumnName (text.takeWhile isColumnChar) :=
    ⟨hne, fun _ hc => isColumnChar_iff.mp (List.mem_takeWhile_imp hc)⟩
  fun_induction columnNames offset text generalizing found rest with
  | case1 | case2 => simp at h
  | case3 offset text name hne more hdrop hlt names behind hrec =>
      rename_i ih
      simp only [Except.ok.injEq, Prod.mk.injEq] at h
      obtain ⟨rfl, rfl⟩ := h
      obtain ⟨other, others, hother, hothers, rfl, rfl⟩ := ih hrec
      refine ⟨name, other :: others, isName hne, List.forall_mem_cons.mpr ⟨hother, hothers⟩, rfl, ?_⟩
      rw [moreColumns_cons, ← hdrop]
      exact List.takeWhile_append_dropWhile.symm
  | case4 offset text name hne =>
      simp only [Except.ok.injEq, Prod.mk.injEq] at h
      obtain ⟨rfl, rfl⟩ := h
      exact ⟨_, [], isName hne, by simp, rfl, List.takeWhile_append_dropWhile.symm⟩

theorem truth_iff {word : List Char} {b : Bool} :
    Truth word b ↔ String.ofList (word.map Char.toLower) = if b then "true" else "false" := by
  cases b with
  | true => exact String.ofList_inj.symm
  | false => exact String.ofList_inj.symm

theorem wordToken_of_truth {word : List Char} {b : Bool} (h : Truth word b) :
    wordToken word = .boolean b := by
  have hlower := truth_iff.mp h
  cases b <;> simp_all [wordToken]

theorem wordToken_of_not_truth {word : List Char} (h : ∀ b, ¬Truth word b) :
    wordToken word = .identifier (String.ofList word) := by
  have htrue := mt truth_iff.mpr (h true)
  have hfalse := mt truth_iff.mpr (h false)
  simp_all [wordToken]

theorem Digit.not_wordStart {c : Char} (h : Digit c) : ¬WordStart c := by
  intro hstart
  cases hstart with
  | inl hletter =>
      cases hletter with
      | inl hupper => exact absurd (Char.le_trans hupper.1 h.2) (by decide)
      | inr hlower => exact absurd (Char.le_trans hlower.1 h.2) (by decide)
  | inr hunderscore =>
      subst hunderscore
      exact absurd h.2 (by decide)

/-- Neither a quoted text nor a list of columns starts like a word or a number. -/
theorem WordChar.not_marker {c : Char} (h : WordChar c) : ¬isQuote c = true ∧ c ≠ ':' := by
  refine ⟨Bool.eq_false_iff.mp h.bare.2.1, ?_⟩
  intro hcolon
  subst hcolon
  exact absurd (isIdentifierChar_iff.mpr h) (by decide)

theorem longest?_word {word rest : List Char} (h : Word word) (hr : Boundary rest) :
    longest? (word ++ rest) = .ok (some (wordToken word, rest)) := by
  cases word with
  | nil => exact h.elim
  | cons c more =>
      obtain ⟨hstart, hmore⟩ := h
      obtain ⟨hquote, hcolon⟩ := hstart.wordChar.not_marker
      have inside : ∀ d ∈ more, isIdentifierChar d = true :=
        fun d hd => isIdentifierChar_iff.mpr (hmore d hd)
      have behind : Stops (isIdentifierChar · = true) rest :=
        hr.stops fun _ hd => mt isIdentifierChar_iff.mp hd.not_wordChar
      simp only [List.cons_append, longest?, if_neg hquote, if_neg hcolon,
        if_pos (isIdentifierStart_iff.mpr hstart), takeWhile_append_of_stops inside behind,
        dropWhile_append_of_stops inside behind]

theorem longest?_written {text rest : List Char} {n : Numeral} (h : Written text n)
    (hr : Boundary rest) :
    longest? (text ++ rest) = .ok (some (.numeric (.ofNumeral n), rest)) := by
  have hread := read?_append h hr
  obtain ⟨c, more, rfl, hc⟩ := h.head
  have hforms : (¬isQuote c = true ∧ c ≠ ':') ∧ ¬isIdentifierStart c = true := by
    obtain hd | rfl | rfl | rfl := hc
    · exact ⟨hd.wordChar.not_marker, mt isIdentifierStart_iff.mp hd.not_wordStart⟩
    all_goals decide
  obtain ⟨⟨hquote, hcolon⟩, hstart⟩ := hforms
  rw [List.cons_append] at hread ⊢
  simp only [longest?, if_neg hquote, if_neg hcolon, if_neg hstart, hread, Option.map_some]

theorem longest?_append {lexeme rest : List Char} {token : Token} (h : Lexeme lexeme token)
    (hr : Boundary rest) : longest? (lexeme ++ rest) = .ok (some (token, rest)) := by
  cases h with
  | @quoted quote body content hq h =>
      have hbody := quotedBody_append h (quote_apart hq).1 1 rest
      simp [longest?, isQuote_iff.mpr hq, hbody]
  | @column name h =>
      have hnames := columnNames_last h hr 1
      simp [longest?, isQuote, hnames, columnToken]
  | @columnList names h hn =>
      cases names with
      | nil => simp at hn
      | cons name names =>
          cases names with
          | nil => simp at hn
          | cons other names =>
              obtain ⟨hname, hnames⟩ := List.forall_mem_cons.mp h
              have hread := columnNames_moreColumns hname hnames hr 1
              simp [columnText, longest?, isQuote, hread, columnToken]
  | @integer _ n value h hf hv =>
      obtain ⟨value', hv', hread⟩ := ofNumeral_of_fits hf
      rw [longest?_written h hr, hread, Int64.toInt_inj.mp (hv.trans hv'.symm)]
  | double h hf hv =>
      rw [ofText?_of_written h] at hv
      rw [longest?_written h hr, ofNumeral_of_not_fits hf, Option.some.inj hv]
  | boolean h ht => rw [longest?_word h hr, wordToken_of_truth ht]
  | identifier h ht => rw [longest?_word h hr, wordToken_of_not_truth ht]

theorem lexeme_of_word {word : List Char} (h : Word word) : Lexeme word (wordToken word) := by
  by_cases ht : ∃ b, Truth word b
  · obtain ⟨b, ht⟩ := ht
    rw [wordToken_of_truth ht]
    exact .boolean h ht
  · have ht := not_exists.mp ht
    rw [wordToken_of_not_truth ht]
    exact .identifier h ht

theorem lexeme_of_written {text : List Char} {n : Numeral} (h : Written text n) :
    Lexeme text (.numeric (.ofNumeral n)) := by
  by_cases hf : Fits n
  · obtain ⟨value, hv, hread⟩ := ofNumeral_of_fits hf
    rw [hread]
    exact .integer h hf hv
  · rw [ofNumeral_of_not_fits hf]
    exact .double h hf (ofText?_of_written h)

theorem lexeme_of_columns {name : List Char} {names : List (List Char)} (hn : ColumnName name)
    (hns : ∀ other ∈ names, ColumnName other) :
    Lexeme (columnText (name :: names)) (columnToken ((name :: names).map String.ofList)) := by
  cases names with
  | nil => simpa [columnText, moreColumns, columnToken] using Lexeme.column hn
  | cons other names =>
      exact .columnList (List.forall_mem_cons.mpr ⟨hn, hns⟩) (by simp)

theorem lexeme_of_longest? {text rest : List Char} {token : Token}
    (h : longest? text = .ok (some (token, rest))) :
    ∃ lexeme, Lexeme lexeme token ∧ text = lexeme ++ rest := by
  cases text with
  | nil => simp [longest?] at h
  | cons c more =>
      simp only [longest?] at h
      split at h
      · rename_i hq
        split at h
        · exact absurd h (by simp)
        · rename_i hread
          simp only [Except.ok.injEq, Option.some.injEq, Prod.mk.injEq] at h
          obtain ⟨rfl, rfl⟩ := h
          obtain ⟨body, hbody, rfl⟩ := body_of_quotedBody hread
          exact ⟨_, .quoted (isQuote_iff.mp hq) hbody, by simp⟩
      · split at h
        · rename_i hcolon
          split at h
          · exact absurd h (by simp)
          · rename_i hread
            simp only [Except.ok.injEq, Option.some.injEq, Prod.mk.injEq] at h
            obtain ⟨rfl, rfl⟩ := h
            obtain ⟨name, names, hname, hnames, rfl, rfl⟩ := columns_of_columnNames hread
            exact ⟨_, lexeme_of_columns hname hnames, by simp [columnText, hcolon]⟩
        · split at h
          · rename_i hstart
            simp only [Except.ok.injEq, Option.some.injEq, Prod.mk.injEq] at h
            obtain ⟨rfl, rfl⟩ := h
            have hword : Word (c :: more.takeWhile isIdentifierChar) :=
              ⟨isIdentifierStart_iff.mp hstart,
                fun _ hd => isIdentifierChar_iff.mp (List.mem_takeWhile_imp hd)⟩
            exact ⟨_, lexeme_of_word hword, by simp⟩
          · simp only [Except.ok.injEq, Option.map_eq_some_iff, Prod.mk.injEq] at h
            obtain ⟨⟨n, behind⟩, hread, rfl, rfl⟩ := h
            obtain ⟨written, hwritten, htext⟩ := written_of_read? hread
            exact ⟨written, lexeme_of_written hwritten, htext⟩

theorem Written.bare {text : List Char} {n : Numeral} (h : Written text n) :
    ∀ c ∈ text, Bare c := by
  have digits {digits : List Char} (hd : ∀ c ∈ digits, Digit c) : ∀ c ∈ digits, Bare c :=
    fun c hc => (hd c hc).wordChar.bare
  have signs {sign : List Char} {negative : Bool} (hs : Sign sign negative) :
      ∀ c ∈ sign, Bare c := by
    cases hs <;> simp [Bare] <;> decide
  have point : Bare '.' := WordChar.bare (by simp [WordChar])
  obtain ⟨hs, hm, he⟩ := h
  refine List.forall_mem_append.mpr ⟨signs hs, List.forall_mem_append.mpr ⟨?_, ?_⟩⟩
  · cases hm with
    | whole hd => exact digits hd.2
    | point hd hf =>
        exact List.forall_mem_append.mpr
          ⟨digits hd.2, List.forall_mem_cons.mpr ⟨point, digits hf⟩⟩
    | fraction hf => exact List.forall_mem_cons.mpr ⟨point, digits hf.2⟩
  · cases he with
    | absent => simp
    | present he hs hd =>
        refine List.forall_mem_cons.mpr ⟨?_, List.forall_mem_append.mpr ⟨signs hs, digits hd.2⟩⟩
        obtain rfl | rfl := he <;> exact WordChar.bare (by simp [WordChar, Letter])

theorem bare_columnText {names : List (List Char)} (h : ∀ name ∈ names, ColumnName name) :
    ∀ c ∈ columnText names, Bare c := by
  have name {name : List Char} (hn : ColumnName name) : ∀ c ∈ name, Bare c :=
    fun c hc => (hn.2 c hc).bare
  have colon : Bare ':' := by decide
  have comma : Bare ',' := by decide
  cases names with
  | nil => simp [columnText]
  | cons first names =>
      obtain ⟨hfirst, hnames⟩ := List.forall_mem_cons.mp h
      refine List.forall_mem_cons.mpr
        ⟨colon, List.forall_mem_append.mpr ⟨name hfirst, fun c hc => ?_⟩⟩
      obtain ⟨other, hother, hc⟩ := List.mem_flatMap.mp hc
      exact List.forall_mem_cons.mpr
        ⟨comma, List.forall_mem_cons.mpr ⟨colon, name (hnames other hother)⟩⟩ c hc

/-- A lexeme is a quoted text or has no white space, quote or semicolon in it. -/
theorem Lexeme.quoted_or_bare {lexeme : List Char} {token : Token} (h : Lexeme lexeme token) :
    (∃ quote body content, (quote = '\'' ∨ quote = '"') ∧ Body quote body content ∧
      lexeme = quote :: (body ++ [quote])) ∨ (lexeme ≠ [] ∧ ∀ c ∈ lexeme, Bare c) := by
  have word {word : List Char} (hw : Word word) : word ≠ [] ∧ ∀ c ∈ word, Bare c := by
    cases word with
    | nil => exact hw.elim
    | cons c rest =>
        exact ⟨List.cons_ne_nil _ _, List.forall_mem_cons.mpr
          ⟨hw.1.wordChar.bare, fun d hd => (hw.2 d hd).bare⟩⟩
  have number {text : List Char} {n : Numeral} (hw : Written text n) :
      text ≠ [] ∧ ∀ c ∈ text, Bare c := by
    obtain ⟨c, rest, htext, _⟩ := hw.head
    exact ⟨htext ▸ List.cons_ne_nil _ _, hw.bare⟩
  cases h with
  | quoted hq h => exact .inl ⟨_, _, _, hq, h, rfl⟩
  | @column name h =>
      have hbare : ∀ c ∈ columnText [name], Bare c := bare_columnText (by simpa using h)
      exact .inr ⟨List.cons_ne_nil _ _, by simpa [columnText, moreColumns] using hbare⟩
  | @columnList names h hn =>
      refine .inr ⟨?_, bare_columnText h⟩
      cases names with
      | nil => simp at hn
      | cons name names => exact List.cons_ne_nil _ _
  | integer h _ _ | double h _ _ => exact .inr (number h)
  | boolean h _ | identifier h _ => exact .inr (word h)

end RowScript.Grammar
