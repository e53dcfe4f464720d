import RowScript.Proofs.Locations

/-!
Where a line comes apart. A scan of the line, character by character, knows which quote is open
and whether a backslash in front takes the character as it is. The semicolons that it meets
outside quotes are those between the parts, no more and no fewer, and nothing of the line is lost
with them. So the parts of a line are settled by the scan alone.
-/

namespace RowScript.Script

open Text

theorem append_inj_of_byteLength {a b rest rest' : List Char} (h : a ++ rest = b ++ rest')
    (hbytes : byteLength a = byteLength b) : a = b ∧ rest = rest' := by
  induction a generalizing b with
  | nil =>
      cases b with
      | nil => exact ⟨rfl, h⟩
      | cons c b =>
          have hpos := c.utf8Size_pos
          rw [byteLength_nil, byteLength_cons] at hbytes
          omega
  | cons c a ih =>
      cases b with
      | nil =>
          have hpos := c.utf8Size_pos
          rw [byteLength_nil, byteLength_cons] at hbytes
          omega
      | cons d b =>
          obtain ⟨rfl, htail⟩ := List.cons.inj h
          rw [byteLength_cons, byteLength_cons] at hbytes
          obtain ⟨rfl, hrest⟩ := ih htail (Nat.add_left_cancel hbytes)
          exact ⟨rfl, hrest⟩

/-- What a scan of a line knows about quotes: that none is open, which one is open, or that it is
open behind a backslash. -/
inductive Quoting where
  | outside
  | inside (quote : Char)
  | escaped (quote : Char)
deriving DecidableEq

namespace Quoting

/-- The state behind one more character. A backslash outside quotes is a character like others. -/
def step : Quoting → Char → Quoting
  | outside, c => if c = '\'' ∨ c = '"' then inside c else outside
  | inside quote, c =>
    if c = quote then outside else if c = '\\' then escaped quote else inside quote
  | escaped quote, _ => inside quote

/-- The byte offsets of the semicolons outside quotes in a text, the first character of which has
the given offset. -/
def semicolons (state : Quoting) (offset : Nat) : List Char → List Nat
  | [] => []
  | c :: rest =>
    let behind := semicolons (state.step c) (offset + c.utf8Size) rest
    if state = outside ∧ c = ';' then offset :: behind else behind

/-- The state with a quote that may be open. -/
def ofQuote : Option Char → Quoting
  | none => outside
  | some quote => inside quote

theorem semicolons_cons_of_not {state : Quoting} {c : Char} (h : ¬(state = outside ∧ c = ';'))
    (offset : Nat) (rest : List Char) :
    state.semicolons offset (c :: rest) =
      (state.step c).semicolons (offset + c.utf8Size) rest := if_neg h

theorem step_outside (c : Char) :
    outside.step c = ofQuote (if Lexer.isQuote c then some c else none) := by
  by_cases hc : Lexer.isQuote c = true
  · rw [step, if_pos (Grammar.isQuote_iff.mp hc), if_pos hc, ofQuote]
  · rw [step, if_neg (mt Grammar.isQuote_iff.mpr hc), if_neg hc, ofQuote]

theorem step_slash {quote : Char} (h : quote ≠ '\\') :
    (inside quote).step '\\' = escaped quote := by
  rw [step, if_neg h.symm, if_pos rfl]

theorem step_inside {quote c : Char} (h : c ≠ '\\') :
    (inside quote).step c = ofQuote (if c = quote then none else some quote) := by
  by_cases hc : c = quote
  · rw [step, if_pos hc, if_pos hc, ofQuote]
  · rw [step, if_neg hc, if_neg hc, if_neg h, ofQuote]

end Quoting

/-- The byte offsets of the ends of all parts but the last. -/
def ends (found : List (Nat × List Char)) : List Nat :=
  found.dropLast.map fun piece => piece.1 + byteLength piece.2

/-- The text of parts with a semicolon behind each. -/
def terminated (found : List (Nat × List Char)) : List Char :=
  found.flatMap fun piece => piece.2 ++ [';']

/-- The parts of a line with their offsets: joined by semicolons they are the line, the bytes of
each stand at its offset, behind those of the parts in front with their semicolons, and they end
at the semicolons that a scan finds outside quotes. -/
structure Divides (line : List Char) (found : List (Nat × List Char)) : Prop where
  ne_nil : found ≠ []
  joined : [';'].intercalate (found.map Prod.snd) = line
  placed : ∀ before piece behind, found = before ++ piece :: behind →
    piece.1 = byteLength (terminated before) ∧
      line.utf8Encode.extract piece.1 (piece.1 + byteLength piece.2) = piece.2.utf8Encode
  separators : ends found = Quoting.outside.semicolons 0 line

theorem map_snd_withOffsets (offset : Nat) (found : List (List Char)) :
    (withOffsets offset found).map Prod.snd = found := by
  induction found generalizing offset with
  | nil => rfl
  | cons part found ih => rw [withOffsets, List.map_cons, ih]

theorem ends_withOffsets_cons (offset : Nat) (part : List Char) {found : List (List Char)}
    (h : found ≠ []) :
    ends (withOffsets offset (part :: found)) =
      (offset + byteLength part) :: ends (withOffsets (offset + byteLength part + 1) found) := by
  obtain ⟨next, found, rfl⟩ := List.exists_cons_of_ne_nil h
  rfl

theorem extendFirst_ne_nil (c : Char) (found : List (List Char)) : extendFirst c found ≠ [] := by
  cases found <;> exact List.cons_ne_nil _ _

theorem ends_extendFirst (offset : Nat) (c : Char) {found : List (List Char)} (h : found ≠ []) :
    ends (withOffsets offset (extendFirst c found)) =
      ends (withOffsets (offset + c.utf8Size) found) := by
  obtain ⟨part, found, rfl⟩ := List.exists_cons_of_ne_nil h
  rw [extendFirst]
  by_cases hfound : found = []
  · subst hfound
    rfl
  · rw [ends_withOffsets_cons _ _ hfound, ends_withOffsets_cons _ _ hfound, byteLength_cons,
      ← Nat.add_assoc]

/-- The parts end where the scan finds semicolons, in whatever state of the quotes both begin. -/
theorem ends_split {quote : Option Char} (text : List Char) (offset : Nat)
    (h : ∀ q ∈ quote, q = '\'' ∨ q = '"') :
    ends (withOffsets offset (split quote text)) =
      (Quoting.ofQuote quote).semicolons offset text := by
  fun_induction split quote text generalizing offset with
  | case1 => rfl
  | case2 rest ih =>
      rw [ends_withOffsets_cons _ _ (split_ne_nil _ _), ih _ h]
      rfl
  | case3 c rest hc ih =>
      have hopened : ∀ q ∈ if Lexer.isQuote c then some c else none, q = '\'' ∨ q = '"' := by
        intro q hq
        obtain ⟨hquote, hsame⟩ := Option.mem_ite_none_right.mp hq
        exact Option.mem_some.mp hsame ▸ Grammar.isQuote_iff.mp hquote
      rw [ends_extendFirst _ _ (split_ne_nil _ _), ih _ hopened, ← Quoting.step_outside]
      exact (Quoting.semicolons_cons_of_not (fun hfound => hc hfound.2) _ _).symm
  | case4 quote c rest ih =>
      obtain ⟨hslash, -, -⟩ := Grammar.quote_apart (h quote rfl)
      rw [ends_extendFirst _ _ (extendFirst_ne_nil _ _), ends_extendFirst _ _ (split_ne_nil _ _),
        ih _ h, Quoting.ofQuote, Quoting.semicolons_cons_of_not (by simp),
        Quoting.step_slash hslash, Quoting.semicolons_cons_of_not (by simp), Quoting.step]
  | case5 quote c rest hc ih =>
      by_cases hslash : c = '\\'
      · obtain rfl : rest = [] := by
          cases rest with
          | nil => rfl
          | cons d rest => exact absurd rfl (hc d rest hslash)
        rw [split]
        rfl
      · have hstill : ∀ q ∈ if c = quote then none else some quote, q = '\'' ∨ q = '"' :=
          fun q hq => h q (Option.mem_ite_none_left.mp hq).2
        rw [ends_extendFirst _ _ (split_ne_nil _ _), ih _ hstill, ← Quoting.step_inside hslash]
        exact (Quoting.semicolons_cons_of_not (by simp) _ _).symm

/-- Parts are known by their ends and by the text that they make with semicolons. -/
theorem eq_of_ends_eq {offset : Nat} {found other : List (List Char)} (hfound : found ≠ [])
    (hother : other ≠ []) (hjoined : [';'].intercalate found = [';'].intercalate other)
    (hends : ends (withOffsets offset found) = ends (withOffsets offset other)) :
    found = other := by
  induction found generalizing offset other with
  | nil => exact absurd rfl hfound
  | cons part found ih =>
      obtain ⟨first, other, rfl⟩ := List.exists_cons_of_ne_nil hother
      by_cases hmore : found = []
      · by_cases hmore' : other = []
        · subst hmore hmore'
          rw [List.intercalate_singleton, List.intercalate_singleton] at hjoined
          rw [hjoined]
        · rw [hmore, ends_withOffsets_cons _ first hmore'] at hends
          cases hends
      · by_cases hmore' : other = []
        · rw [hmore', ends_withOffsets_cons _ part hmore] at hends
          cases hends
        · rw [ends_withOffsets_cons _ _ hmore, ends_withOffsets_cons _ _ hmore'] at hends
          obtain ⟨hend, hends⟩ := List.cons.inj hends
          rw [List.intercalate_cons_of_ne_nil hmore, List.intercalate_cons_of_ne_nil hmore',
            List.append_assoc, List.append_assoc] at hjoined
          obtain ⟨rfl, hrest⟩ := append_inj_of_byteLength hjoined (Nat.add_left_cancel hend)
          rw [ih hmore hmore' (List.cons.inj hrest).2 hends]

theorem byteLength_terminated_cons (piece : Nat × List Char) (found : List (Nat × List Char)) :
    byteLength (terminated (piece :: found)) =
      byteLength piece.2 + 1 + byteLength (terminated found) := by
  rw [terminated, List.flatMap_cons, byteLength_append, byteLength_append]
  rfl

theorem fst_of_withOffsets {offset : Nat} {found : List (List Char)} {piece : Nat × List Char}
    {before behind : List (Nat × List Char)}
    (h : withOffsets offset found = before ++ piece :: behind) :
    piece.1 = offset + byteLength (terminated before) := by
  induction found generalizing offset before with
  | nil => cases before <;> cases h
  | cons part found ih =>
      cases before with
      | nil =>
          obtain ⟨rfl, -⟩ := List.cons.inj h
          rfl
      | cons first before =>
          obtain ⟨rfl, hrest⟩ := List.cons.inj h
          rw [ih hrest, byteLength_terminated_cons, Nat.add_assoc, Nat.add_assoc, Nat.add_assoc]

/-- The parts in front of a part settle its offset. -/
theorem eq_withOffsets {offset : Nat} {found : List (Nat × List Char)}
    (h : ∀ before piece behind, found = before ++ piece :: behind →
      piece.1 = offset + byteLength (terminated before)) :
    found = withOffsets offset (found.map Prod.snd) := by
  induction found generalizing offset with
  | nil => rfl
  | cons piece found ih =>
      have hfirst : piece.1 = offset := h [] piece found rfl
      have hfound : found = withOffsets (offset + byteLength piece.2 + 1) (found.map Prod.snd) := by
        apply ih
        intro before next behind hsplit
        rw [h (piece :: before) next behind (congrArg (piece :: ·) hsplit),
          byteLength_terminated_cons, Nat.add_assoc, Nat.add_assoc, Nat.add_assoc]
      rw [List.map_cons, withOffsets, ← hfound, ← hfirst]

theorem divides_parts (line : List Char) : Divides line (parts line) := by
  constructor
  case ne_nil =>
    refine mt (fun hnil => ?_) (split_ne_nil none line)
    rw [← map_snd_withOffsets 0 (split none line), ← parts_eq, hnil, List.map_nil]
  case joined => rw [parts_eq, map_snd_withOffsets, intercalate_split]
  case placed =>
    intro before piece behind h
    have hmem : piece ∈ parts line := h ▸ List.mem_append_right before List.mem_cons_self
    refine ⟨?_, (stands_of_mem_parts hmem).extract⟩
    rw [parts_eq] at h
    rw [fst_of_withOffsets h, Nat.zero_add]
  case separators =>
    rw [parts_eq]
    exact ends_split line 0 fun _ hq => absurd hq (Option.not_mem_none _)

/-- A line is read as segments to its end. The segments with their offsets are what a scan for
semicolons outside quotes makes of the line, and nothing else is. -/
theorem divides_iff (line : List Char) :
    Reader.separated (Reader.exactly ';') segment line = some (pieces line, []) ∧
      ∀ found, Divides line found ↔ found = parts line := by
  refine ⟨by rw [separated_segment, pieces_eq], fun found => ?_⟩
  constructor
  · intro h
    have hfound : found = withOffsets 0 (found.map Prod.snd) :=
      eq_withOffsets fun before piece behind hsplit => by
        rw [Nat.zero_add]
        exact (h.placed before piece behind hsplit).1
    have hsame : found.map Prod.snd = split none line := by
      have hne : found.map Prod.snd ≠ [] := mt List.map_eq_nil_iff.mp h.ne_nil
      refine @eq_of_ends_eq 0 _ _ hne (split_ne_nil none line) ?_ ?_
      · rw [h.joined, intercalate_split]
      · rw [← hfound, h.separators]
        rw [← parts_eq]
        exact (divides_parts line).separators.symm
    rw [hfound, hsame, parts_eq]
  · rintro rfl
    exact divides_parts line

example : parts "x 'it\\'s; ok'; y;\"é;".toList =
    [(0, "x 'it\\'s; ok'".toList), (14, " y".toList), (17, "\"é;".toList)] := by
  decide +kernel

end RowScript.Script
