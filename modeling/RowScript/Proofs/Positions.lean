import RowScript.Proofs.TokenFailures

/-!
Where errors in argument text point. A text stands in a longer one at a byte offset, in
front of a whole character. What the lexer complains about stands at the position that it
reports, and it stands there still when the error is moved along with its text.
-/

namespace RowScript

namespace Text

/-- The part begins at the byte offset, and no character is cut. -/
def Stands (part : List Char) (offset : Nat) (text : List Char) : Prop :=
  ∃ front behind, text = front ++ (part ++ behind) ∧ offset = byteLength front

variable {part text : List Char} {offset : Nat}

theorem stands_front (h : part <+: text) : Stands part 0 text := by
  obtain ⟨behind, rfl⟩ := h
  exact ⟨[], behind, rfl, rfl⟩

theorem stands_of_suffix (h : part <:+ text) :
    Stands part (byteLength text - byteLength part) text := by
  obtain ⟨front, rfl⟩ := h
  refine ⟨front, [], by rw [List.append_nil], ?_⟩
  rw [byteLength_append, Nat.add_sub_cancel]

theorem Stands.append_left (h : Stands part offset text) (front : List Char) :
    Stands part (byteLength front + offset) (front ++ text) := by
  obtain ⟨before, behind, rfl, rfl⟩ := h
  exact ⟨front ++ before, behind, by rw [List.append_assoc], (byteLength_append _ _).symm⟩

theorem Stands.append_right (h : Stands part offset text) (behind : List Char) :
    Stands part offset (text ++ behind) := by
  obtain ⟨front, rest, rfl, rfl⟩ := h
  exact ⟨front, rest ++ behind, by simp only [List.append_assoc], rfl⟩

theorem Stands.trans {whole : List Char} {base : Nat} (h : Stands part offset text)
    (hwhole : Stands text base whole) : Stands part (base + offset) whole := by
  obtain ⟨front, behind, rfl, rfl⟩ := hwhole
  exact (h.append_right behind).append_left front

theorem Stands.le (h : Stands part offset text) : offset + byteLength part ≤ byteLength text := by
  obtain ⟨front, behind, rfl, rfl⟩ := h
  simp only [byteLength_append]
  omega

theorem Stands.lt (h : Stands part offset text) (hne : part ≠ []) : offset < byteLength text := by
  obtain ⟨c, more, rfl⟩ := List.exists_cons_of_ne_nil hne
  have hle := h.le
  have hpos := c.utf8Size_pos
  rw [byteLength_cons] at hle
  omega

theorem size_utf8Encode (text : List Char) : text.utf8Encode.size = byteLength text := by
  induction text with
  | nil => rfl
  | cons c text ih =>
      rw [List.utf8Encode_cons, ByteArray.size_append, ih, byteLength_cons,
        List.utf8Encode_singleton]
      simp

/-- The bytes behind the offset are those of the part. -/
theorem Stands.extract (h : Stands part offset text) :
    text.utf8Encode.extract offset (offset + byteLength part) = part.utf8Encode := by
  obtain ⟨front, behind, rfl, rfl⟩ := h
  rw [List.utf8Encode_append, List.utf8Encode_append, ← size_utf8Encode front,
    ← size_utf8Encode part]
  have hfront := @ByteArray.extract_append_size_add front.utf8Encode
    (part.utf8Encode ++ behind.utf8Encode) 0 part.utf8Encode.size
  rw [Nat.add_zero] at hfront
  rw [hfront]
  exact ByteArray.extract_append_eq_left rfl

end Text

open Text

namespace TokenError

/-- What an error finds at its position. -/
inductive Finds : TokenError → List Char → Prop
  | quote {position : Nat} {quote : Char} (h : quote = '\'' ∨ quote = '"') :
      Finds (.unterminatedQuote position) [quote]
  | escape {position : Nat} {c : Char} : Finds (.invalidEscape c position) ['\\', c]
  | colon {position : Nat} : Finds (.emptyColumnName position) [':']
  | lexeme {position : Nat} {lexeme : List Char} :
      Finds (.unrecognized (String.ofList lexeme) position) lexeme

/-- The position lies inside the text, and what the error is about stands there. -/
structure PointsInto (e : TokenError) (text : List Char) : Prop where
  inside : e.position < byteLength text
  finds : ∃ found, e.Finds found ∧ Stands found e.position text

variable {e : TokenError} {text found : List Char}

theorem Finds.pointsInto (h : e.Finds found) (hne : found ≠ [])
    (hstands : Stands found e.position text) : e.PointsInto text :=
  ⟨hstands.lt hne, found, h, hstands⟩

theorem Finds.shift (h : e.Finds found) (bytes : Nat) : (e.shift bytes).Finds found := by
  cases h with
  | quote h => exact .quote h
  | escape => exact .escape
  | colon => exact .colon
  | lexeme => exact .lexeme

/-- An error that is moved along with its text points at the same. -/
theorem PointsInto.shift {part : List Char} {offset : Nat} (h : e.PointsInto part)
    (hpart : Stands part offset text) : (e.shift offset).PointsInto text := by
  obtain ⟨hinside, found, hfinds, hfound⟩ := h
  have hle := hpart.le
  constructor
  · rw [position_shift]
    omega
  · refine ⟨found, hfinds.shift offset, ?_⟩
    rw [position_shift, Nat.add_comm]
    exact hfound.trans hpart

end TokenError

namespace Lexer

variable {text : List Char} {e : TokenError}

theorem pointsInto_of_broken (h : Grammar.Broken text e) : e.PointsInto text := by
  cases h with
  | quote hq _ _ =>
      exact (TokenError.Finds.quote hq).pointsInto (List.cons_ne_nil _ _)
        (stands_front ⟨_, rfl⟩)
  | @escape quote c body content behind hq _ _ =>
      exact TokenError.Finds.escape.pointsInto (List.cons_ne_nil _ _)
        ⟨quote :: body, behind, rfl, rfl⟩
  | @column names behind _ _ =>
      exact TokenError.Finds.colon.pointsInto (List.cons_ne_nil _ _)
        ⟨Grammar.columnItems names, behind, rfl, rfl⟩

theorem suffix_of_longest? {rest : List Char} {found : Token}
    (h : longest? text = .ok (some (found, rest))) : rest <:+ text := by
  obtain ⟨lexeme, -, rfl⟩ := Grammar.lexeme_of_longest? h
  exact List.suffix_append lexeme rest

theorem suffix_of_token {rest : List Char} {found : Token}
    (h : token text = .ok (found, rest)) : rest <:+ text := by
  obtain ⟨lexeme, -, rfl, -⟩ := Grammar.lexeme_of_token h
  exact List.suffix_append lexeme rest

theorem taken_eq (front rest : List Char) : taken (front ++ rest) rest = front := by
  rw [taken, List.length_append, Nat.add_sub_cancel, List.take_left]

/-- The word behind a token that goes on too long is a lexeme with it. -/
theorem prefix_of_taken {rest : List Char} (h : rest <:+ text) :
    taken text rest ++ firstWord rest <+: text := by
  obtain ⟨front, rfl⟩ := h
  rw [taken_eq, List.prefix_append_right_inj]
  exact List.takeWhile_prefix _

/-- Where a token should start, an error points into what is there. -/
theorem token_error (h : token text = .error e) (hne : text ≠ []) : e.PointsInto text := by
  have hinside : 0 < byteLength text := (stands_front (List.prefix_refl text)).lt hne
  rw [token] at h
  split at h
  next cause hlongest =>
      cases h
      exact pointsInto_of_broken (Grammar.longest?_eq_error_iff.mp hlongest)
  next =>
      cases h
      exact ⟨hinside, _, .lexeme, stands_front (List.takeWhile_prefix _)⟩
  next found rest hlongest =>
      split at h
      next => cases h
      next =>
          cases h
          exact ⟨hinside, _, .lexeme, stands_front (prefix_of_taken (suffix_of_longest? hlongest))⟩

theorem tokens_error (h : tokens text = .error e) : e.PointsInto text := by
  obtain ⟨front, rest, cause, hstops, rfl⟩ := Grammar.exists_stopsAt h
  obtain ⟨c, behind, hrest, -⟩ := Grammar.not_boundary_iff.mp hstops.head
  have hpoints := token_error hstops.fails (hrest ▸ List.cons_ne_nil c behind)
  exact hpoints.shift ⟨front, [], by rw [List.append_nil, hstops.spells], rfl⟩

end Lexer

theorem tokenize_error {text : String} {e : TokenError} (h : tokenize text = .error e) :
    e.PointsInto text.toList :=
  Lexer.tokens_error h

end RowScript
