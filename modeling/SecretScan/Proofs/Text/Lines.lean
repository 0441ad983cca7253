import SecretScan.Text.Lines
import Mathlib.Data.List.Basic

/-!
# Where lines stand

`Text.lines` cuts a text and drops carriage returns. `LineAt` says what a line of a text is without
cutting it: where it starts, how it ends, and that its number comes from the line feeds before it.

## Key results

- `lines_of_not_mem`: a text without line feeds is its only line
- `not_mem_of_mem_cutAt`: a piece between separators has none in it
- `exists_lineAt_of_mem_lines`: the lines of a text, with their numbers, stand in it
- `lines_joinLines`: a text that is put together from lines has these lines, however they end
-/

namespace SecretScan.Text

/-- Is `line` the line with this number, from one, that starts at a position of a text? -/
structure LineAt (text : List Char) (number start : Nat) (line : List Char) : Prop where
  /-- Each line before it ends with a line feed. -/
  number_eq : number = (text.take start).count '\n' + 1
  /-- It starts with the text or right after a line feed. -/
  start_eq : start = 0 ∨ (text.take start).getLast? = some '\n'
  not_mem : '\n' ∉ line
  /-- It goes up to a line feed, or a carriage return and a line feed, or the end of the text. -/
  ending : text.drop start = line ∨
    (∃ rest, text.drop start = line ++ '\r' :: '\n' :: rest) ∨
    ∃ rest, text.drop start = line ++ '\n' :: rest ∧ line.getLast? ≠ some '\r'

/-- A line of a text is one of the text after another line, too. -/
theorem LineAt.append {text line first : List Char} {number start : Nat}
    (h : LineAt text number start line) (hfirst : '\n' ∉ first) :
    LineAt (first ++ '\n' :: text) (number + 1) (first.length + 1 + start) line := by
  have htake : (first ++ '\n' :: text).take (first.length + 1 + start) =
      first ++ '\n' :: text.take start := by
    rw [Nat.add_assoc, List.take_length_add_append, Nat.add_comm 1 start, List.take_succ_cons]
  have hdrop : (first ++ '\n' :: text).drop (first.length + 1 + start) = text.drop start := by
    rw [Nat.add_assoc, List.drop_length_add_append, Nat.add_comm 1 start, List.drop_succ_cons]
  refine ⟨?_, .inr ?_, h.not_mem, by rw [hdrop]; exact h.ending⟩
  · rw [htake, List.count_append, List.count_cons_self, List.count_eq_zero_of_not_mem hfirst,
      h.number_eq]
    omega
  · -- the line begins after the line end that was put before it, or after its own
    rw [htake]
    obtain rfl | hlast := h.start_eq
    · simp
    · rw [List.getLast?_append, List.getLast?_cons, hlast]
      rfl

/-- A separator starts an empty piece, any other character joins the first one. -/
theorem cutAt_cons {sep c : Char} {cs l : List Char} {ls : List (List Char)}
    (h : cutAt sep cs = l :: ls) :
    cutAt sep (c :: cs) = if c == sep then [] :: l :: ls else (c :: l) :: ls := by
  unfold cutAt at h ⊢
  rw [List.foldr_cons, h]

/-- Text without a separator joins the first piece of what it stands before. -/
theorem cutAt_append {sep : Char} {first t l : List Char} {ls : List (List Char)}
    (h : cutAt sep t = l :: ls) (hfirst : sep ∉ first) :
    cutAt sep (first ++ t) = (first ++ l) :: ls := by
  induction first with
  | nil => exact h
  | cons c first ih =>
    -- a character that does not cut joins the first piece
    obtain ⟨hne, hrest⟩ := List.ne_and_not_mem_of_not_mem_cons hfirst
    rw [List.cons_append, cutAt_cons (ih hrest), if_neg (by simpa using Ne.symm hne)]
    rfl

/-- A text without the character is one piece. -/
theorem cutAt_of_not_mem {sep : Char} {text : List Char} (h : sep ∉ text) :
    cutAt sep text = [text] := by
  induction text with
  | nil => rfl
  | cons c cs ih =>
    obtain ⟨hne, hrest⟩ := List.ne_and_not_mem_of_not_mem_cons h
    rw [cutAt_cons (ih hrest), if_neg (by simpa using Ne.symm hne)]

/-- A text without line feeds is its only line. -/
theorem lines_of_not_mem {text : List Char} (h : '\n' ∉ text) : lines text = [text] := by
  unfold lines
  rw [cutAt_of_not_mem h]
  rfl

/-- A piece between separators has none in it. -/
theorem not_mem_of_mem_cutAt {sep : Char} {text piece : List Char} (h : piece ∈ cutAt sep text) :
    sep ∉ piece := by
  induction text generalizing piece with
  | nil =>
    obtain rfl := List.mem_singleton.1 h
    exact List.not_mem_nil
  | cons c cs ih =>
    -- the first piece of the rest takes the character, unless the character cuts
    obtain ⟨l, ls, hcut⟩ := List.exists_cons_of_ne_nil (cutAt_ne_nil sep cs)
    rw [hcut] at ih
    rw [cutAt_cons hcut] at h
    split at h
    · obtain rfl | h := List.mem_cons.1 h
      · exact List.not_mem_nil
      · exact ih h
    · next hc =>
      obtain rfl | h := List.mem_cons.1 h
      · have hne : sep ≠ c := fun heq => hc (by simp [heq])
        exact List.not_mem_cons_of_ne_of_not_mem hne (ih List.mem_cons_self)
      · exact ih (List.mem_cons_of_mem l h)

/-- A line loses the carriage return at its end, and nothing else. -/
private theorem eq_dropReturn_append_or (line : List Char) :
    line = dropReturn line ++ ['\r'] ∨ dropReturn line = line ∧ line.getLast? ≠ some '\r' := by
  unfold dropReturn
  -- a carriage return at the end is dropped, and nothing else is
  split
  · next h =>
    left
    obtain ⟨before, rfl⟩ := List.getLast?_eq_some_iff.1 h
    rw [List.dropLast_concat]
  · next h => exact .inr ⟨rfl, h⟩

/-- Every piece is a line of the text that the pieces make. -/
private theorem exists_lineAt_of_getElem?_dropReturns {pieces : List (List Char)}
    (h : ∀ piece ∈ pieces, '\n' ∉ piece) {i : Nat} {line : List Char}
    (hline : (dropReturns pieces)[i]? = some line) :
    ∃ start, LineAt (['\n'].intercalate pieces) (i + 1) start line := by
  -- by induction on the pieces, all but the last of which are followed by a line feed
  fun_induction dropReturns pieces generalizing i with
  | case1 => exact nomatch hline
  | case2 last =>
    cases i with
    | zero =>
      obtain rfl := Option.some.inj hline
      have hlast : ['\n'].intercalate [last] = last := by simp [List.intercalate]
      rw [hlast]
      exact ⟨0, by simp, .inl rfl, h last List.mem_cons_self, .inl rfl⟩
    | succ i => exact nomatch hline
  | case3 first next rest ih =>
    have hfirst := h first List.mem_cons_self
    have htext : ['\n'].intercalate (first :: next :: rest) =
        first ++ '\n' :: ['\n'].intercalate (next :: rest) := rfl
    rw [htext]
    cases i with
    | zero =>
      obtain rfl := Option.some.inj hline
      generalize hrest : ['\n'].intercalate (next :: rest) = text
      obtain heq | ⟨heq, hlast⟩ := eq_dropReturn_append_or first
      · -- the line feed has a carriage return before it, which goes as well
        refine ⟨0, by simp, .inl rfl, fun hmem => hfirst ?_, .inr (.inl ⟨text, ?_⟩)⟩
        · rw [heq]
          exact List.mem_append_left _ hmem
        · rw [List.drop_zero]
          nth_rewrite 1 [heq]
          simp
      · rw [heq]
        exact ⟨0, by simp, .inl rfl, hfirst, .inr (.inr ⟨text, rfl, hlast⟩)⟩
    | succ i =>
      obtain ⟨start, hstart⟩ := ih (fun piece hp => h piece (List.mem_cons_of_mem first hp)) hline
      exact ⟨_, hstart.append hfirst⟩

/-- The lines of a text, with their numbers, stand in it. -/
theorem exists_lineAt_of_mem_lines {text line : List Char} {number : Nat}
    (h : (line, number) ∈ (lines text).zipIdx 1) : ∃ start, LineAt text number start line := by
  obtain ⟨hle, hline⟩ := List.mk_mem_zipIdx_iff_le_and_getElem?_sub.1 h
  obtain ⟨start, hstart⟩ := exists_lineAt_of_getElem?_dropReturns
    (fun _ => not_mem_of_mem_cutAt) hline
  rw [intercalate_cutAt, Nat.sub_add_cancel hle] at hstart
  exact ⟨start, hstart⟩

/-! ## Texts put together from lines -/

/-- Can these characters be a line, whatever ends it? -/
structure IsLine (line : List Char) : Prop where
  not_mem : '\n' ∉ line
  /-- A carriage return at the end would be taken for part of what ends the line. -/
  getLast?_ne : line.getLast? ≠ some '\r'

/-- What ends a line of a text. -/
inductive LineEnd where
  | lineFeed
  | returnLineFeed

def LineEnd.chars : LineEnd → List Char
  | .lineFeed => ['\n']
  | .returnLineFeed => ['\r', '\n']

/-- The text of some lines, each with an end of its own; that of the last line is left out. -/
def joinLines : List (List Char × LineEnd) → List Char
  | [] => []
  | [(last, _)] => last
  | (line, lineEnd) :: next :: rest => line ++ lineEnd.chars ++ joinLines (next :: rest)

/-- A separator ends the first piece. -/
theorem cutAt_append_cons {sep : Char} {first : List Char} (h : sep ∉ first)
    (rest : List Char) : cutAt sep (first ++ sep :: rest) = first :: cutAt sep rest := by
  obtain ⟨l, ls, hcut⟩ := List.exists_cons_of_ne_nil (cutAt_ne_nil sep rest)
  have hsep : cutAt sep (sep :: rest) = [] :: l :: ls := by
    rw [cutAt_cons hcut, if_pos (beq_self_eq_true sep)]
  rw [cutAt_append hsep h, hcut, List.append_nil]

/-- Pieces that were put together with separators between them are cut apart again. -/
theorem cutAt_intercalate {sep : Char} {pieces : List (List Char)} (hne : pieces ≠ [])
    (h : ∀ piece ∈ pieces, sep ∉ piece) : cutAt sep ([sep].intercalate pieces) = pieces := by
  induction pieces with
  | nil => exact absurd rfl hne
  | cons first rest ih =>
    obtain ⟨hfirst, hrest⟩ := List.forall_mem_cons.1 h
    -- the separator after the first piece cuts it off, and it holds none itself
    cases rest with
    | nil => rw [List.intercalate_singleton, cutAt_of_not_mem hfirst]
    | cons second rest =>
      rw [List.intercalate_cons_cons, List.append_assoc, List.singleton_append,
        cutAt_append_cons hfirst, ih (List.cons_ne_nil _ _) hrest]

/-- A line and its end are cut off a text. -/
private theorem lines_append {line : List Char} (h : IsLine line) (lineEnd : LineEnd)
    (rest : List Char) :
    lines (line ++ lineEnd.chars ++ rest) = line :: lines rest := by
  obtain ⟨l, ls, hcut⟩ := List.exists_cons_of_ne_nil (cutAt_ne_nil '\n' rest)
  unfold lines
  cases lineEnd with
  | lineFeed =>
    have hkept : dropReturn line = line := if_neg h.getLast?_ne
    rw [LineEnd.chars, List.append_assoc, List.singleton_append, cutAt_append_cons h.not_mem, hcut,
      dropReturns, hkept]
  | returnLineFeed =>
    -- the carriage return is part of the piece, and is dropped from it
    have hnot : '\n' ∉ line ++ ['\r'] := by simp [h.not_mem]
    have hdropped : dropReturn (line ++ ['\r']) = line := by simp [dropReturn]
    have hsplit : line ++ ['\r', '\n'] ++ rest = line ++ ['\r'] ++ '\n' :: rest := by simp
    rw [LineEnd.chars, hsplit, cutAt_append_cons hnot, hcut, dropReturns, hdropped]

/-- A text that is put together from lines has these lines, however each of them ends. -/
theorem lines_joinLines {parts : List (List Char × LineEnd)} (h : ∀ part ∈ parts, IsLine part.1)
    (hne : parts ≠ []) : lines (joinLines parts) = parts.map (·.1) := by
  fun_induction joinLines parts with
  | case1 => exact absurd rfl hne
  | case2 last lineEnd =>
    exact lines_of_not_mem (h (last, lineEnd) List.mem_cons_self).not_mem
  | case3 line lineEnd next rest ih =>
    -- each line ends at its own line end, and the rest is cut by itself
    have hrest : ∀ part ∈ next :: rest, IsLine part.1 :=
      fun part hpart => h part (List.mem_cons_of_mem _ hpart)
    rw [lines_append (h (line, lineEnd) List.mem_cons_self), ih hrest (List.cons_ne_nil _ _)]
    rfl

end SecretScan.Text
