import Mathlib.Data.List.TakeWhile
import RowScript.Script.Basic

/-!
How the readers of a line go through it. Each of them takes a piece off the line, and a scan of the
same piece, character by character, knows which quote is open and puts the piece into one part. The
two meet at every place where a reader stops, up to the end of the line: the reading never fails,
nothing is left over, and the segments are the parts of the scan.
-/

namespace RowScript.Text

variable {α β : Type}

theorem character_cons {test : Char → Bool} {c : Char} (h : test c = true) (rest : List Char) :
    Reader.character test (c :: rest) = some (c, rest) := if_pos h

theorem character_eq_some {test : Char → Bool} {text rest : List Char} {c : Char}
    (h : Reader.character test text = some (c, rest)) : text = c :: rest ∧ test c = true := by
  cases text with
  | nil => cases h
  | cons d text =>
      obtain ⟨htest, hsame⟩ := Option.ite_none_right_eq_some.mp h
      cases hsame
      exact ⟨rfl, htest⟩

theorem exactly_cons (c : Char) (rest : List Char) :
    Reader.exactly c (c :: rest) = some (c, rest) := character_cons (beq_self_eq_true c) rest

theorem exactly_cons_of_ne {c d : Char} (h : d ≠ c) (rest : List Char) :
    Reader.exactly c (d :: rest) = none := if_neg (by simpa using h)

theorem exactly_eq_some {c d : Char} {text rest : List Char}
    (h : Reader.exactly c text = some (d, rest)) : text = c :: rest := by
  obtain ⟨rfl, hsame⟩ := character_eq_some h
  rw [beq_iff_eq.mp hsame]

theorem inFront_append (taken rest : List Char) : Reader.inFront (taken ++ rest) rest = taken := by
  rw [Reader.inFront, List.length_append, Nat.add_sub_cancel, List.take_left]

theorem exists_of_isNot {stops text found rest : List Char}
    (h : Reader.isNot stops text = some (found, rest)) :
    text = found ++ rest ∧ found ≠ [] ∧ ∀ c ∈ found, c ∉ stops := by
  rw [Reader.isNot, Option.ite_none_left_eq_some, Option.some_inj, Prod.mk.injEq] at h
  obtain ⟨hne, rfl, rfl⟩ := h
  exact ⟨List.prefix_iff_eq_append.mp (List.takeWhile_prefix _) |>.symm, hne,
    fun c hc => by simpa using List.mem_takeWhile_imp hc⟩

theorem isNot_eq_none {stops text : List Char} (h : Reader.isNot stops text = none) :
    ∀ c ∈ text.head?, c ∈ stops := by
  cases text with
  | nil => simp
  | cons d text =>
      rw [Reader.isNot, ite_eq_left_iff] at h
      by_contra hstop
      have hd : stops.contains d = false := by simpa using hstop
      refine absurd (h ?_) (Option.some_ne_none _)
      rw [List.takeWhile_cons_of_pos (by rw [hd]; rfl)]
      exact List.cons_ne_nil _ _

theorem either_eq_none_iff {first second : Reader α} {text : List Char} :
    Reader.either first second text = none ↔ first text = none ∧ second text = none := by
  rw [Reader.either]
  cases hfirst : first text <;> simp

theorem either_eq_some {first second : Reader α} {text rest : List Char} {a : α}
    (h : Reader.either first second text = some (a, rest)) :
    first text = some (a, rest) ∨ second text = some (a, rest) := by
  rw [Reader.either] at h
  cases hfirst : first text with
  | none => exact .inr (by rwa [hfirst] at h)
  | some found => exact .inl (by rwa [hfirst] at h)

theorem pair_eq_some {first : Reader α} {second : Reader β} {text rest : List Char} {ab : α × β}
    (h : Reader.pair first second text = some (ab, rest)) :
    ∃ middle, first text = some (ab.1, middle) ∧ second middle = some (ab.2, rest) := by
  rw [Reader.pair] at h
  cases hfirst : first text with
  | none => simp [hfirst] at h
  | some found =>
      cases hsecond : second found.2 with
      | none => simp [hfirst, hsecond] at h
      | some found' =>
          simp only [hfirst, hsecond] at h
          cases h
          exact ⟨found.2, rfl, hsecond⟩

theorem recognize_eq_some {read : Reader α} {text found rest : List Char}
    (h : Reader.recognize read text = some (found, rest)) : ∃ a, read text = some (a, rest) := by
  rw [Reader.recognize] at h
  cases hread : read text with
  | none => simp [hread] at h
  | some taken =>
      simp only [hread] at h
      cases h
      exact ⟨taken.1, rfl⟩

/-- A reader that always takes something is repeated up to a place where it finds nothing. What
holds of each of its steps, and goes on from step to step, holds from the start to that place. -/
theorem exists_many {read : Reader α} {relation : List Char → List Char → Prop}
    (hrefl : ∀ text, relation text text)
    (htrans : ∀ {text middle rest}, relation text middle → relation middle rest →
      relation text rest)
    (hread : ∀ {text a rest}, read text = some (a, rest) →
      rest.length < text.length ∧ relation text rest) (text : List Char) :
    ∃ found rest, Reader.many read text = some (found, rest) ∧ relation text rest ∧
      read rest = none := by
  fun_induction Reader.many read text with
  | case1 text hnone => exact ⟨[], text, rfl, hrefl text, hnone⟩
  | case2 text a rest hsome hshorter hmany ih =>
      obtain ⟨found, behind, hsame, -⟩ := ih
      rw [hmany] at hsame
      cases hsame
  | case3 text a rest hsome hshorter found behind hmany ih =>
      obtain ⟨found', behind', hsame, hrelation, hend⟩ := ih
      rw [hmany] at hsame
      cases hsame
      exact ⟨a :: found, behind, rfl, htrans (hread hsome).2 hrelation, hend⟩
  | case4 text a rest hsome hlonger => exact absurd (hread hsome).1 hlonger

end RowScript.Text

namespace RowScript.Script

open Text

/-- Put a character in front of the first part. -/
def extendFirst (c : Char) : List (List Char) → List (List Char)
  | [] => [[c]]
  | part :: parts => (c :: part) :: parts

/-- The parts of a line between the semicolons outside quotes. `quote` is the
quote that is open. Inside quotes a backslash takes the next character with it. -/
def split : Option Char → List Char → List (List Char)
  | _, [] => [[]]
  | none, c :: rest =>
    if c = ';' then [] :: split none rest
    else extendFirst c (split (if Lexer.isQuote c then some c else none) rest)
  | some quote, '\\' :: c :: rest =>
    extendFirst '\\' (extendFirst c (split (some quote) rest))
  | some quote, c :: rest =>
    extendFirst c (split (if c = quote then none else some quote) rest)

theorem foldr_extendFirst (piece part : List Char) (parts : List (List Char)) :
    piece.foldr extendFirst (part :: parts) = (piece ++ part) :: parts := by
  induction piece with
  | nil => rfl
  | cons c piece ih => rw [List.foldr_cons, ih]; rfl

theorem split_outside {c : Char} (hquote : Lexer.isQuote c = false) (hsemicolon : c ≠ ';')
    (rest : List Char) : split none (c :: rest) = extendFirst c (split none rest) := by
  rw [split, if_neg hsemicolon, hquote]
  rfl

theorem split_inside {quote c : Char} (hquote : c ≠ quote) (hslash : c ≠ '\\')
    (rest : List Char) :
    split (some quote) (c :: rest) = extendFirst c (split (some quote) rest) := by
  rw [split, if_neg hquote]
  exact fun _ _ h => absurd h hslash

theorem split_opening {quote : Char} (h : Lexer.isQuote quote = true) (rest : List Char) :
    split none (quote :: rest) = extendFirst quote (split (some quote) rest) := by
  have hsemicolon : quote ≠ ';' := by
    rintro rfl
    exact absurd h (by decide)
  rw [split, if_neg hsemicolon, if_pos h]

theorem split_closing {quote : Char} (h : Lexer.isQuote quote = true) (rest : List Char) :
    split (some quote) (quote :: rest) = extendFirst quote (split none rest) := by
  have hslash : quote ≠ '\\' := by
    rintro rfl
    exact absurd h (by decide)
  rw [split, if_pos rfl]
  exact fun _ _ hquote => absurd hquote hslash

/-- Characters that leave the quotes as they are go into one part. -/
theorem split_append_of_forall {quote : Option Char} {piece : List Char}
    (h : ∀ c ∈ piece, ∀ rest, split quote (c :: rest) = extendFirst c (split quote rest))
    (rest : List Char) :
    split quote (piece ++ rest) = piece.foldr extendFirst (split quote rest) := by
  induction piece with
  | nil => rfl
  | cons c piece ih =>
      obtain ⟨hc, hpiece⟩ := List.forall_mem_cons.mp h
      rw [List.cons_append, hc, ih hpiece, List.foldr_cons]

/-- From one place of a line to another a scan goes on in one part, with the one quote open at the
first place and the other at the second. -/
def Passes (before after : Option Char) (text rest : List Char) : Prop :=
  ∃ taken, text = taken ++ rest ∧
    split before text = taken.foldr extendFirst (split after rest)

theorem Passes.refl (quote : Option Char) (text : List Char) : Passes quote quote text text :=
  ⟨[], rfl, rfl⟩

theorem Passes.trans {first second third : Option Char} {text middle rest : List Char}
    (h : Passes first second text middle) (hmore : Passes second third middle rest) :
    Passes first third text rest := by
  obtain ⟨taken, rfl, hsplit⟩ := h
  obtain ⟨more, rfl, hsplit'⟩ := hmore
  exact ⟨taken ++ more, (List.append_assoc ..).symm, by rw [hsplit, hsplit', List.foldr_append]⟩

theorem Passes.length_le {before after : Option Char} {text rest : List Char}
    (h : Passes before after text rest) : rest.length ≤ text.length := by
  obtain ⟨taken, rfl, -⟩ := h
  rw [List.length_append]
  exact Nat.le_add_left _ _

theorem passes_cons {before after : Option Char} {c : Char} {rest : List Char}
    (h : split before (c :: rest) = extendFirst c (split after rest)) :
    Passes before after (c :: rest) rest :=
  ⟨[c], rfl, h⟩

theorem passes_isNot {quote : Option Char} {stops text found rest : List Char}
    (hstops : ∀ c ∉ stops, ∀ rest, split quote (c :: rest) = extendFirst c (split quote rest))
    (h : Reader.isNot stops text = some (found, rest)) :
    rest.length < text.length ∧ Passes quote quote text rest := by
  obtain ⟨rfl, hne, hfound⟩ := exists_of_isNot h
  have hpos : 0 < found.length := List.length_pos_iff.mpr hne
  refine ⟨by rw [List.length_append]; omega, found, rfl, ?_⟩
  exact split_append_of_forall (fun c hc => hstops c (hfound c hc)) rest

theorem passes_quotedPiece {quote : Char} {text found rest : List Char}
    (h : quotedPiece quote text = some (found, rest)) :
    rest.length < text.length ∧ Passes (some quote) (some quote) text rest := by
  obtain hescape | hplain := either_eq_some h
  · obtain ⟨pair, hpair⟩ := recognize_eq_some hescape
    obtain ⟨middle, hslash, hany⟩ := pair_eq_some hpair
    obtain rfl := exactly_eq_some hslash
    obtain ⟨rfl, -⟩ := character_eq_some hany
    refine ⟨by simp only [List.length_cons]; omega, ['\\', pair.2], rfl, ?_⟩
    rw [split]
    rfl
  · refine passes_isNot (fun c hc => ?_) hplain
    obtain ⟨hquote, hslash⟩ : c ≠ quote ∧ c ≠ '\\' := by simpa using hc
    exact split_inside hquote hslash

/-- Inside quotes the reading stops at the closing quote, at the end of the line, or at a backslash
that ends the line. -/
theorem eq_of_quotedPiece_eq_none {quote : Char} {text : List Char}
    (h : quotedPiece quote text = none) :
    text = [] ∨ text = ['\\'] ∨ ∃ rest, text = quote :: rest := by
  obtain ⟨hescape, hplain⟩ := either_eq_none_iff.mp h
  cases text with
  | nil => exact .inl rfl
  | cons c rest =>
      obtain rfl | hc : c = quote ∨ c = '\\' := by simpa using isNot_eq_none hplain
      · exact .inr (.inr ⟨rest, rfl⟩)
      · subst hc
        cases rest with
        | nil => exact .inr (.inl rfl)
        | cons d rest => cases hescape

/-- Where the reading inside quotes stops, the closing quote is taken if there is one, and the scan
goes on outside quotes. At the end of the line, and in front of a backslash that ends it, the scan
goes on alike inside and outside. -/
theorem passes_closing {quote : Char} (h : Lexer.isQuote quote = true) {closing : List Char}
    (hend : quotedPiece quote closing = none) :
    ∃ found rest, Reader.optional (Reader.exactly quote) closing = some (found, rest) ∧
      Passes (some quote) none closing rest := by
  obtain rfl | rfl | ⟨rest, rfl⟩ := eq_of_quotedPiece_eq_none hend
  · exact ⟨none, [], rfl, [], rfl, rfl⟩
  · have hslash : '\\' ≠ quote := by
      rintro rfl
      exact absurd h (by decide)
    refine ⟨none, ['\\'], ?_, [], rfl, ?_⟩
    · rw [Reader.optional, exactly_cons_of_ne hslash]
    · simp [split, extendFirst]
  · refine ⟨some quote, rest, ?_, passes_cons (split_closing h rest)⟩
    rw [Reader.optional, exactly_cons]

/-- A quote outside quotes is read up to a place where the scan is outside quotes again. -/
theorem exists_quotedSpan {quote : Char} (h : Lexer.isQuote quote = true) (body : List Char) :
    ∃ found rest, quotedSpan (quote :: body) = some (found, rest) ∧
      rest.length < (quote :: body).length ∧ Passes none none (quote :: body) rest := by
  obtain ⟨pieces, closing, hmany, hinside, hend⟩ :=
    exists_many (Passes.refl (some quote)) Passes.trans passes_quotedPiece body
  obtain ⟨closed, rest, hoptional, hclosing⟩ := passes_closing h hend
  have hbody := hinside.trans hclosing
  refine ⟨Reader.inFront (quote :: body) rest, rest, ?_, Nat.lt_succ_of_le hbody.length_le,
    (passes_cons (split_opening h body)).trans hbody⟩
  simp only [quotedSpan, character_cons h, hmany, hoptional]

theorem passes_quotedSpan {text found rest : List Char}
    (h : quotedSpan text = some (found, rest)) :
    rest.length < text.length ∧ Passes none none text rest := by
  cases text with
  | nil => cases h
  | cons quote body =>
      by_cases hquote : Lexer.isQuote quote = true
      · obtain ⟨found', rest', hspan, hpasses⟩ := exists_quotedSpan hquote body
        rw [hspan] at h
        cases h
        exact hpasses
      · simp [quotedSpan, Reader.character, hquote] at h

theorem passes_segmentPiece {text found rest : List Char}
    (h : segmentPiece text = some (found, rest)) :
    rest.length < text.length ∧ Passes none none text rest := by
  obtain hspan | hplain := either_eq_some h
  · exact passes_quotedSpan hspan
  · refine passes_isNot (fun c hc => ?_) hplain
    obtain ⟨hsemicolon, hsingle, hdouble⟩ : c ≠ ';' ∧ c ≠ '\'' ∧ c ≠ '"' := by simpa using hc
    exact split_outside (by simp [Lexer.isQuote, hsingle, hdouble]) hsemicolon

/-- Outside quotes the reading stops at a semicolon, or at the end of the line. -/
theorem head_of_segmentPiece_eq_none {text : List Char} (h : segmentPiece text = none) :
    ∀ c ∈ text.head?, c = ';' := by
  obtain ⟨hspan, hplain⟩ := either_eq_none_iff.mp h
  cases text with
  | nil => simp
  | cons c rest =>
      obtain hsemicolon | hquote : c = ';' ∨ c = '\'' ∨ c = '"' := by
        simpa using isNot_eq_none hplain
      · simpa using hsemicolon
      · have hopening : Lexer.isQuote c = true := by simpa [Lexer.isQuote] using hquote
        obtain ⟨_, _, hsome, -⟩ := exists_quotedSpan hopening rest
        rw [hspan] at hsome
        cases hsome

/-- A segment reaches to the next semicolon outside quotes, or to the end of the line. -/
theorem exists_segment (text : List Char) :
    ∃ taken rest, segment text = some (taken, rest) ∧ (∀ c ∈ rest.head?, c = ';') ∧
      text = taken ++ rest ∧ split none text = taken.foldr extendFirst (split none rest) := by
  obtain ⟨found, rest, hmany, ⟨taken, rfl, hsplit⟩, hend⟩ :=
    exists_many (Passes.refl none) Passes.trans passes_segmentPiece text
  refine ⟨taken, rest, ?_, head_of_segmentPiece_eq_none hend, rfl, hsplit⟩
  rw [segment, Reader.recognize, hmany]
  simp only [inFront_append]

/-- Behind a segment the line is read to its end, and the segments are the parts that the scan
makes behind the one it is in. -/
theorem exists_furtherItems (rest : List Char) (h : ∀ c ∈ rest.head?, c = ';') :
    ∃ found, Reader.furtherItems (Reader.exactly ';') segment rest = some (found, []) ∧
      ∀ taken : List Char, taken.foldr extendFirst (split none rest) = taken :: found := by
  match rest with
  | [] =>
    refine ⟨[], by rw [Reader.furtherItems]; rfl, fun taken => ?_⟩
    rw [split, foldr_extendFirst, List.append_nil]
  | c :: more =>
    obtain rfl : c = ';' := h c rfl
    obtain ⟨taken, rest, hsegment, hhead, htext, hsplit⟩ := exists_segment more
    have hlength : rest.length ≤ more.length := by
      rw [htext, List.length_append]
      exact Nat.le_add_left _ _
    obtain ⟨found, hfound, hparts⟩ := exists_furtherItems rest hhead
    refine ⟨taken :: found, ?_, fun first => ?_⟩
    · rw [Reader.furtherItems]
      simp only [exactly_cons, List.length_cons, Nat.lt_add_one, if_true, hsegment, hlength,
        hfound]
    · rw [split, if_pos rfl, foldr_extendFirst, List.append_nil, hsplit, hparts]
termination_by rest.length

/-- A line is read to its end, and its segments are the parts that the scan makes. -/
theorem separated_segment (line : List Char) :
    Reader.separated (Reader.exactly ';') segment line = some (split none line, []) := by
  obtain ⟨taken, rest, hsegment, hhead, -, hsplit⟩ := exists_segment line
  obtain ⟨found, hfound, hparts⟩ := exists_furtherItems rest hhead
  simp only [Reader.separated, hsegment, hfound, hsplit, hparts]

theorem pieces_eq (line : List Char) : pieces line = split none line := by
  rw [pieces, separated_segment]

theorem parts_eq (line : List Char) : parts line = withOffsets 0 (split none line) := by
  rw [parts, pieces_eq]

end RowScript.Script
