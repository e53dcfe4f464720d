import RowScript.Proofs.Lexemes

/-!
A text has tokens exactly if it can be laid out in lexemes and separators, it can be
laid out in one way only, and the tokens are those that the lexemes stand for. Both
directions go lexeme by lexeme: a lexeme starts with no separator and ends at a
boundary, so what stands in front of it and what stands behind it are settled by the
text alone.
-/

namespace RowScript.Grammar

open Text

theorem token_append {lexeme rest : List Char} {token : Token} (h : Lexeme lexeme token)
    (hr : Boundary rest) : Lexer.token (lexeme ++ rest) = .ok (token, rest) := by
  simp only [Lexer.token, longest?_append h hr, if_pos (isBoundary_iff.mpr hr)]

theorem lexeme_of_token {text rest : List Char} {token : Token}
    (h : Lexer.token text = .ok (token, rest)) :
    ∃ lexeme, Lexeme lexeme token ∧ text = lexeme ++ rest ∧ Boundary rest := by
  unfold Lexer.token at h
  split at h
  · exact absurd h (by simp)
  · exact absurd h (by simp)
  · rename_i hlongest
    split at h
    · rename_i hboundary
      simp only [Except.ok.injEq, Prod.mk.injEq] at h
      obtain ⟨rfl, rfl⟩ := h
      obtain ⟨lexeme, hlexeme, htext⟩ := lexeme_of_longest? hlongest
      exact ⟨lexeme, hlexeme, htext, isBoundary_iff.mp hboundary⟩
    · exact absurd h (by simp)

theorem Lexeme.head {lexeme : List Char} {token : Token} (h : Lexeme lexeme token) :
    ∃ c more, lexeme = c :: more ∧ isBlank c = false := by
  cases h.quoted_or_bare with
  | inl hquoted =>
      obtain ⟨quote, body, _, hq, _, rfl⟩ := hquoted
      exact ⟨quote, _, rfl, (quote_apart hq).2.2⟩
  | inr hbare =>
      obtain ⟨c, more, rfl⟩ := List.exists_cons_of_ne_nil hbare.1
      exact ⟨c, more, rfl, (hbare.2 c List.mem_cons_self).1⟩

theorem Lexeme.stops {lexeme : List Char} {token : Token} (h : Lexeme lexeme token)
    (rest : List Char) : Stops Separator (lexeme ++ rest) := by
  obtain ⟨c, more, rfl, hc⟩ := h.head
  exact stops_cons.mpr fun hs => Bool.noConfusion (hc.symm.trans hs.isBlank)

/-- The separators in front of a lexeme end where the lexeme starts. -/
theorem Lexeme.split_gap {gap lexeme : List Char} {token : Token} (h : Lexeme lexeme token)
    (hg : ∀ c ∈ gap, Separator c) (rest : List Char) :
    (gap ++ (lexeme ++ rest)).takeWhile Lexer.isSeparator = gap ∧
      (gap ++ (lexeme ++ rest)).dropWhile Lexer.isSeparator = lexeme ++ rest := by
  have inside : ∀ c ∈ gap, Lexer.isSeparator c = true := fun c hc => isSeparator_iff.mpr (hg c hc)
  have behind : Stops (Lexer.isSeparator · = true) (lexeme ++ rest) :=
    fun c hc => mt isSeparator_iff.mp (h.stops rest c hc)
  exact ⟨takeWhile_append_of_stops inside behind, dropWhile_append_of_stops inside behind⟩

theorem tokens_of_separators {text : List Char} (h : ∀ c ∈ text, Separator c) :
    Lexer.tokens text = .ok [] := by
  have hnil : text.dropWhile Lexer.isSeparator = [] :=
    List.dropWhile_eq_nil_iff.mpr fun c hc => isSeparator_iff.mpr (h c hc)
  rw [Lexer.tokens]
  split
  · rfl
  · rename_i hcons
    exact absurd (hnil.symm.trans hcons) (by simp)

theorem tokens_append {gap lexeme rest : List Char} {token : Token} {more : List Token}
    (hg : ∀ c ∈ gap, Separator c) (h : Lexeme lexeme token) (hr : Boundary rest)
    (hmore : Lexer.tokens rest = .ok more) :
    Lexer.tokens (gap ++ (lexeme ++ rest)) = .ok (token :: more) := by
  have hdrop := (h.split_gap hg rest).2
  have htoken := token_append h hr
  obtain ⟨c, chars, hlexeme, _⟩ := h.head
  rw [Lexer.tokens]
  split
  · rename_i hnil
    exact absurd (hdrop.symm.trans hnil) (by simp [hlexeme])
  · rename_i c' behind hcons
    rw [hdrop] at hcons
    rw [hcons] at htoken
    split
    · rename_i hother
      exact absurd (htoken.symm.trans hother) (by simp)
    · rename_i hother
      obtain ⟨rfl, rfl⟩ : token = _ ∧ rest = _ := by simpa using htoken.symm.trans hother
      rw [hmore]

namespace Layout

theorem text_cons (gap lexeme : List Char) (items : List (List Char × List Char))
    (trail : List Char) :
    text ⟨(gap, lexeme) :: items, trail⟩ = gap ++ (lexeme ++ text ⟨items, trail⟩) := by
  simp only [text, List.flatMap_cons, List.append_assoc]

/-- What a layout of a text tells about its first lexeme and about the text behind it. -/
theorem Reads.uncons {gap lexeme text : List Char} {items : List (List Char × List Char)}
    {trail : List Char} {tokens : List Token}
    (h : Reads ⟨(gap, lexeme) :: items, trail⟩ text tokens) :
    ∃ token more rest, tokens = token :: more ∧ text = gap ++ (lexeme ++ rest) ∧
      (∀ c ∈ gap, Separator c) ∧ Lexeme lexeme token ∧ Boundary rest ∧
      Reads ⟨items, trail⟩ rest more := by
  obtain ⟨hspells, hgaps, htrail, hapart, hvalues⟩ := h
  obtain ⟨token, more, hlexeme, hmore, rfl⟩ := List.forall₂_cons_left_iff.mp hvalues
  obtain ⟨hgap, hgaps⟩ := List.forall_mem_cons.mp hgaps
  refine ⟨token, more, _, rfl, hspells.symm.trans (text_cons ..), hgap, hlexeme, ?_,
    rfl, hgaps, htrail, fun item hitem => hapart item (List.mem_of_mem_tail hitem), hmore⟩
  cases items with
  | nil => exact fun c hc => htrail c (List.mem_of_mem_head? hc)
  | cons item items =>
      obtain ⟨d, gap', hgap'⟩ :=
        List.exists_cons_of_ne_nil (hapart item List.mem_cons_self)
      have hd := hgaps item List.mem_cons_self d (hgap' ▸ List.mem_cons_self)
      intro c hc
      simp only [Layout.text, List.flatMap_cons, hgap', List.cons_append, List.head?_cons,
        Option.mem_def, Option.some.injEq] at hc
      exact hc ▸ hd

theorem Reads.cons {gap lexeme rest : List Char} {layout : Layout} {token : Token}
    {more : List Token} (hg : ∀ c ∈ gap, Separator c) (hl : Lexeme lexeme token)
    (hr : Boundary rest) (h : layout.Reads rest more) :
    Reads ⟨(gap, lexeme) :: layout.items, layout.trail⟩ (gap ++ (lexeme ++ rest))
      (token :: more) := by
  obtain ⟨hspells, hgaps, htrail, hapart, hvalues⟩ := h
  refine ⟨by rw [text_cons, ← hspells], List.forall_mem_cons.mpr ⟨hg, hgaps⟩, htrail, ?_,
    .cons hl hvalues⟩
  obtain ⟨items, trail⟩ := layout
  cases items with
  | nil => simp
  | cons item items =>
      refine List.forall_mem_cons.mpr ⟨fun hnil => ?_, hapart⟩
      obtain ⟨token', more', hlexeme, _, _⟩ := List.forall₂_cons_left_iff.mp hvalues
      obtain ⟨c, chars, hchars, hc⟩ := hlexeme.head
      have hhead : c ∈ rest.head? := by
        rw [← hspells]
        simp [Layout.text, hnil, hchars]
      exact Bool.noConfusion (hc.symm.trans (hr c hhead).isBlank)

end Layout

theorem tokens_of_reads {layout : Layout} {text : List Char} {tokens : List Token}
    (h : layout.Reads text tokens) : Lexer.tokens text = .ok tokens := by
  obtain ⟨items, trail⟩ := layout
  induction items generalizing text tokens with
  | nil =>
      obtain ⟨hspells, _, htrail, _, hvalues⟩ := h
      rw [List.forall₂_nil_left_iff.mp hvalues]
      exact tokens_of_separators (hspells ▸ htrail)
  | cons item items ih =>
      obtain ⟨token, more, rest, rfl, rfl, hgap, hlexeme, hboundary, hrest⟩ := h.uncons
      exact tokens_append hgap hlexeme hboundary (ih hrest)

theorem reads_of_tokens {text : List Char} {tokens : List Token}
    (h : Lexer.tokens text = .ok tokens) : ∃ layout : Layout, layout.Reads text tokens := by
  have gap (text : List Char) : ∀ c ∈ text.takeWhile Lexer.isSeparator, Separator c :=
    fun _ hc => isSeparator_iff.mp (List.mem_takeWhile_imp hc)
  fun_induction Lexer.tokens text generalizing tokens with
  | case1 text hnil =>
      obtain rfl : [] = tokens := Except.ok.inj h
      have hall := List.dropWhile_eq_nil_iff.mp hnil
      exact ⟨⟨[], text⟩, by simp [Layout.text], by simp,
        fun c hc => isSeparator_iff.mp (hall c hc), by simp, .nil⟩
  | case2 | case3 => exact absurd h (by simp)
  | case4 text c behind hdrop token rest htoken hlt more hmore ih =>
      obtain rfl : token :: more = tokens := Except.ok.inj h
      obtain ⟨layout, hlayout⟩ := ih hmore
      obtain ⟨lexeme, hlexeme, htext, hboundary⟩ := lexeme_of_token htoken
      rw [← List.takeWhile_append_dropWhile (p := Lexer.isSeparator) (l := text), hdrop, htext]
      exact ⟨_, hlayout.cons (gap text) hlexeme hboundary⟩

theorem Layout.Reads.tokens_eq {a b : Layout} {text : List Char} {tokens others : List Token}
    (ha : a.Reads text tokens) (hb : b.Reads text others) : tokens = others :=
  Except.ok.inj ((tokens_of_reads ha).symm.trans (tokens_of_reads hb))

/-- The separators in front of the first lexeme, the lexeme and the rest are each
settled by the text, so two layouts agree from front to back. -/
theorem Layout.Reads.unique {a b : Layout} {text : List Char} {tokens others : List Token}
    (ha : a.Reads text tokens) (hb : b.Reads text others) : a = b := by
  obtain rfl := ha.tokens_eq hb
  obtain ⟨items, trail⟩ := a
  obtain ⟨items', trail'⟩ := b
  induction items generalizing items' text tokens with
  | nil =>
      have htokens : tokens = [] := List.forall₂_nil_left_iff.mp ha.values
      have hitems : items' = [] := List.forall₂_nil_right_iff.mp (htokens ▸ hb.values)
      have htrail := ha.spells.trans hb.spells.symm
      simp only [Layout.text, hitems, List.flatMap_nil, List.nil_append] at htrail
      rw [hitems, htrail]
  | cons item items ih =>
      obtain ⟨token, more, rest, rfl, rfl, hgap, hlexeme, hboundary, hrest⟩ := ha.uncons
      obtain ⟨item', items', _, _, rfl⟩ := List.forall₂_cons_right_iff.mp hb.values
      obtain ⟨_, _, rest', htokens, htext, hgap', hlexeme', hboundary', hrest'⟩ := hb.uncons
      obtain ⟨rfl, rfl⟩ := List.cons.inj htokens
      have hgaps := (hlexeme.split_gap hgap rest).1
      have hrests := (hlexeme.split_gap hgap rest).2
      rw [htext] at hgaps hrests
      rw [(hlexeme'.split_gap hgap' rest').1] at hgaps
      rw [(hlexeme'.split_gap hgap' rest').2] at hrests
      have hread := (token_append hlexeme hboundary).symm.trans
        ((congrArg Lexer.token hrests.symm).trans (token_append hlexeme' hboundary'))
      obtain ⟨_, rfl⟩ : token = token ∧ rest = rest' := by simpa using hread
      have hlexemes := List.append_cancel_right hrests
      obtain ⟨rfl, rfl⟩ := Layout.mk.inj (ih hrest items' hrest')
      rw [Prod.ext hgaps hlexemes]

/-- The lexer reads exactly the grammar: a text has the given tokens if and only if it
has a layout that stands for them, and it has at most one layout. -/
theorem tokenize_eq_ok_iff (text : String) :
    (∀ tokens, tokenize text = .ok tokens ↔
      ∃ layout : Layout, layout.Reads text.toList tokens) ∧
      Subsingleton {layout : Layout // ∃ tokens, layout.Reads text.toList tokens} := by
  refine ⟨fun tokens => ⟨reads_of_tokens, fun ⟨_, h⟩ => tokens_of_reads h⟩, ⟨?_⟩⟩
  intro ⟨a, tokens, ha⟩ ⟨b, others, hb⟩
  exact Subtype.ext (ha.unique hb)

end RowScript.Grammar
