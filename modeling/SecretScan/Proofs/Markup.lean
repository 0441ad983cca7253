import Mathlib
import SecretScan.Markup
import SecretScan.Proofs.Text.Replacement

/-!
# Texts that markup leaves alone

A text is shown as it is if no tag begins in it, no bracket follows a backslash, and nothing between
its colons is the name of an emoji.

## Key results

- `plain_of_isLiteral`: such a text is well-formed markup, and is its own plain text
- `isLiteral_of_noBracket`: a text without brackets and with one colon at most is such a text
- `plain_closingTag`: a text that begins with a closing tag is ill-formed
-/

namespace SecretScan.Markup

variable {reads : List Char → Bool}

/-- Is nothing in the text markup? -/
structure IsLiteral (text : List Char) : Prop where
  /-- No bracket opens a tag. -/
  noTag : ∀ before after, text = before ++ '[' :: after → tagBody? after = none
  /-- No bracket stands after a backslash. -/
  noEscape : ¬ ['\\', '['] <:+: text
  /-- Nothing between colons is the name of an emoji. -/
  noEmoji : withEmoji text = text

/-- Without tags there is a single piece, unless the text is empty. -/
private theorem piecesFrom_of_noTag {cs : List Char}
    (h : ∀ before after, cs = before ++ '[' :: after → tagBody? after = none)
    (before : List Char) (slashes : Nat) :
    piecesFrom before slashes cs = textPiece (before.reverse ++ backslashes slashes ++ cs) := by
  induction cs generalizing before slashes with
  | nil => rw [piecesFrom, List.append_nil]
  | cons c rest ih =>
    have hrest : ∀ before after, rest = before ++ '[' :: after → tagBody? after = none :=
      fun before after heq => h (c :: before) after (by rw [heq]; rfl)
    -- what is read is text, whatever the character is
    have hread : piecesFrom (c :: backslashes slashes ++ before) 0 rest =
        textPiece (before.reverse ++ backslashes slashes ++ c :: rest) := by
      rw [ih hrest]
      simp [backslashes]
    rw [piecesFrom]
    by_cases hslash : c = '\\'
    · subst hslash
      rw [if_pos rfl, ih hrest]
      simp [backslashes, List.replicate_succ']
    by_cases hbracket : c = '['
    · subst hbracket
      have hbody : tagBody? rest = none := h [] rest rfl
      rw [if_neg hslash, if_pos rfl]
      split
      · next body after heq => cases hbody.symm.trans heq
      · exact hread
    · rw [if_neg hslash, if_neg hbracket]
      exact hread

/-- What is printed of a text without control characters is the text. -/
private theorem printed_of_noControl {text : List Char} (h : ∀ c ∈ text, isDropped c = false) :
    printed text = text :=
  List.filter_eq_self.2 fun c hc => by rw [h c hc]; rfl

/-- A text that is no markup is its own plain text. -/
theorem plain_of_isLiteral {text : List Char} (h : IsLiteral text)
    (hcontrol : ∀ c ∈ text, isDropped c = false) : plain text reads = .ok text := by
  -- without a tag there is a single piece of text, in which nothing stands for something else
  have hpieces : pieces text = textPiece text := piecesFrom_of_noTag h.noTag [] 0
  have htext : pieceText text = text := by
    rw [pieceText, Text.replace_of_absent _ h.noEscape, h.noEmoji, printed_of_noControl hcontrol]
  rw [plain, hpieces, textPiece]
  split_ifs with hempty
  · rw [List.isEmpty_iff.1 hempty]
    rfl
  · simp [Printing.step, htext, pure, Except.pure, bind, Except.bind, Functor.map, Except.map]

/-- What stands after a colon stays as it is if no other colon follows. -/
private theorem withEmojiFrom_some_of_noColon {text : List Char} (h : ':' ∉ text)
    (body : List Char) :
    withEmojiFrom (some body) text = ':' :: body ++ text := by
  induction text generalizing body with
  | nil => simp [withEmojiFrom]
  | cons c rest ih =>
    obtain ⟨hc, hrest⟩ := not_or.1 (mt List.mem_cons.2 h)
    rw [withEmojiFrom, if_neg (Ne.symm hc)]
    -- a blank ends what could have been a name
    split_ifs
    · rw [show withEmojiFrom none rest = rest from withEmoji_of_noColon hrest]
    · rw [ih hrest]
      simp

/-- A text with one colon at most stays as it is. -/
private theorem withEmoji_of_count_le_one {text : List Char} (h : text.count ':' ≤ 1) :
    withEmoji text = text := by
  induction text with
  | nil => rfl
  | cons c rest ih =>
    by_cases hc : c = ':'
    · -- no other colon follows, so what comes after it cannot be a name
      subst hc
      have hrest : ':' ∉ rest := by
        rw [← List.count_eq_zero]
        simpa using h
      rw [withEmoji, withEmojiFrom, if_pos rfl]
      exact withEmojiFrom_some_of_noColon hrest []
    · rw [List.count_cons_of_ne hc] at h
      rw [withEmoji, withEmojiFrom, if_neg hc]
      exact congrArg (c :: ·) (ih h)

/-- A text without brackets and with one colon at most is no markup. -/
theorem isLiteral_of_noBracket {text : List Char} (h : '[' ∉ text) (hcolon : text.count ':' ≤ 1) :
    IsLiteral text where
  noTag := by
    rintro before after rfl
    simp at h
  noEscape := fun hinside => h (hinside.subset (by simp))
  noEmoji := withEmoji_of_count_le_one hcolon

/-- A number is no markup. -/
theorem plain_toString (n : Int) :
    plain (toString n).toList reads = .ok (toString n).toList := by
  have hdigits : ∀ n : Nat, ∀ c ∈ n.repr.toList, c.isDigit = true := by
    intro n c hc
    rw [Nat.toList_repr] at hc
    exact Nat.isDigit_of_mem_toDigits (by omega) (by omega) hc
  -- a numeral has digits and perhaps a sign, none of which means anything to markup
  have hchars : ∀ c ∈ (toString n).toList, c = '-' ∨ c.isDigit = true := by
    intro c hc
    rcases n with n | n
    · exact .inr (hdigits n c hc)
    · rw [show toString (Int.negSucc n) = "-" ++ n.succ.repr from rfl, String.toList_append,
        List.mem_append] at hc
      rcases hc with hc | hc
      · exact .inl (List.mem_singleton.1 hc)
      · exact .inr (hdigits _ c hc)
  have habsent : ∀ c, c ≠ '-' → c.isDigit = false → c ∉ (toString n).toList := by
    intro c hne hdigit hmem
    rcases hchars c hmem with h | h
    · exact hne h
    · exact Bool.false_ne_true (hdigit.symm.trans h)
  refine plain_of_isLiteral (isLiteral_of_noBracket ?_ ?_) ?_
  · exact habsent '[' (by decide) (by decide)
  · rw [List.count_eq_zero.2 (habsent ':' (by decide) (by decide))]
    exact Nat.zero_le 1
  · intro c hc
    rcases hchars c hc with rfl | hdigit
    · decide
    · have hcode : 48 ≤ c.toNat := by
        simp only [Char.isDigit, Bool.and_eq_true, decide_eq_true_eq] at hdigit
        exact UInt32.le_iff_toNat_le.1 hdigit.1
      simp [isDropped]
      omega

/-- A text that begins with a closing tag is no markup: nothing is open yet. -/
theorem plain_closingTag {name after : List Char} (hplain : ∀ c ∈ name, isPlain c = true)
    (hvalue : '=' ∉ name) (hname : Style.trimmed name ≠ []) :
    plain ('[' :: '/' :: (name ++ ']' :: after)) reads =
      .error (.notOpen (Style.trimmed name)) := by
  -- the tag ends at the first closing bracket
  have hbody : tagBody? ('/' :: (name ++ ']' :: after)) = some ('/' :: name, after) := by
    have hstart : startsTag '/' = true := by decide
    have hstop : isPlain ']' = false := by decide
    simp [tagBody?, hstart, hstop, List.dropWhile_append_of_pos hplain,
      List.takeWhile_append_of_pos hplain]
  have hpieces : pieces ('[' :: '/' :: (name ++ ']' :: after)) =
      .tag (Tag.ofBody ('/' :: name)) :: piecesFrom [] 0 after := by
    rw [pieces, piecesFrom, if_neg (by decide), if_pos rfl]
    split
    · next body rest heq =>
      obtain ⟨rfl, rfl⟩ := Prod.mk.inj (Option.some.inj (heq.symm.trans hbody))
      rfl
    · next heq => cases heq.symm.trans hbody
  -- without an equals sign the whole of it is the name
  have htag : ∃ value, Tag.ofBody ('/' :: name) = ⟨'/' :: name, value⟩ := by
    have hname : ('/' :: name).takeWhile (· != '=') = '/' :: name := by
      rw [List.takeWhile_eq_self_iff]
      simp only [List.forall_mem_cons, bne_iff_ne]
      exact ⟨by decide, fun c hc heq => hvalue (heq ▸ hc)⟩
    exact ⟨_, congrArg (Tag.mk · _) hname⟩
  obtain ⟨value, htag⟩ := htag
  -- the tag is the first piece, and nothing is open yet
  rw [plain, hpieces, htag, List.foldlM_cons]
  have hempty : (Style.trimmed name).isEmpty = false := List.isEmpty_eq_false_iff.2 hname
  simp [Printing.step, hempty, bind, Except.bind, Functor.map, Except.map]

end SecretScan.Markup
