import SecretScan.Proofs.Detection.Coverage
import SecretScan.Proofs.Text.LetterCase

/-!
# Assigned values

One rule looks for values that are assigned to telling names. Its pattern has parts that can be
matched in several ways: white space twice, a quote that may be missing, a run of characters that
may be shorter, and a back reference. `Assignment` says what the pattern is meant for, with one way
to read it: the value goes on as long as it can, and a quote that opens it closes it.

## Key results

- `exists_place_of_matchAt`: a match of the pattern is an assignment
- `Place.isSome_matchAt`: where an assignment stands, the pattern matches
- `assignments_of_detect`: the values that are reported are those of assignments, and no assignment
  is clear of all of them
-/

namespace SecretScan

open Text Pattern

/-! ## Assignments -/

/-- The names that something secret is assigned to. -/
def secretNames : List String :=
  ["password", "secret", "token", "api_key"]

/-- Has a text the same letters as a word, when case is ignored? -/
def SameLetters (word text : List Char) : Prop :=
  List.Forall₂ (fun c d => c.toNat ∈ relatives d) word text

/-- Is this a quote? -/
def isQuote (c : Char) : Bool :=
  c == '"' || c == '\''

/-- Is this neither a quote nor white space? -/
def isBare (c : Char) : Bool :=
  !(isQuote c || isBlank c)

/-- A value that is assigned to a telling name. -/
structure Assignment where
  name : List Char
  /-- The white space between the name and the sign. -/
  before : List Char
  sign : Char
  /-- The white space between the sign and the value. -/
  after : List Char
  /-- The quote around the value, if there is one. -/
  quote : Option Char
  value : List Char
  isName : ∃ word ∈ secretNames, SameLetters word.toList name
  isBlank_before : ∀ c ∈ before, isBlank c = true
  isSign : sign = ':' ∨ sign = '='
  isBlank_after : ∀ c ∈ after, isBlank c = true
  isQuote_quote : ∀ c ∈ quote, isQuote c = true
  isBare_value : ∀ c ∈ value, isBare c = true
  four_le_length : 4 ≤ value.length

namespace Assignment

/-- What stands before the value. -/
def head (a : Assignment) : List Char :=
  a.name ++ (a.before ++ (a.sign :: (a.after ++ a.quote.toList)))

/-- The whole of the assignment; a quote that opens the value closes it. -/
def text (a : Assignment) : List Char :=
  a.head ++ (a.value ++ a.quote.toList)

/-- The value of an assignment is not empty. -/
theorem value_ne_nil (a : Assignment) : a.value ≠ [] :=
  List.ne_nil_of_length_pos (Nat.lt_of_lt_of_le (by decide) a.four_le_length)

/-- The text of an assignment is not empty. -/
private theorem text_ne_nil (a : Assignment) : a.text ≠ [] := by
  have hvalue := a.value_ne_nil
  simp [text, hvalue]

/-- Does the assignment stand at a position of a text, with all that belongs to its value? -/
structure StandsIn (a : Assignment) (chars : List Char) (i : Nat) : Prop where
  stands : StandsAt a.text chars i
  /-- What comes after the value does not go on with it. -/
  ending : ∀ c, chars[i + a.head.length + a.value.length]? = some c → isBare c = false

end Assignment

/-- A place of a line where an assignment stands. -/
structure Place (line : List Char) where
  start : Nat
  assignment : Assignment
  standsIn : assignment.StandsIn line start

namespace Place

variable {line : List Char}

/-- From the start of the name to the end of the value, or to the quote that closes it. -/
def span (p : Place line) : Span :=
  ⟨p.start, p.start + p.assignment.text.length⟩

/-- Where the value starts. -/
def valueStart (p : Place line) : Nat :=
  p.start + p.assignment.head.length

/-- From the start of the value to its end. -/
def valueSpan (p : Place line) : Span :=
  ⟨p.valueStart, p.valueStart + p.assignment.value.length⟩

/-- Where an assignment stands, its text is cut out. -/
private theorem text_span (p : Place line) : p.span.text line.toArray = p.assignment.text :=
  text_of_standsAt p.standsIn.stands

/-- The value of an assignment stands where the place says. -/
private theorem standsAt_value (p : Place line) : StandsAt p.assignment.value line p.valueStart :=
  (standsAt_append_iff.1 (standsAt_append_iff.1 p.standsIn.stands).2).1

/-- Where the value of an assignment stands, it is cut out. -/
private theorem text_valueSpan (p : Place line) :
    p.valueSpan.text line.toArray = p.assignment.value :=
  text_of_standsAt p.standsAt_value

end Place

/-! ## Sets of characters without case -/

/-- Quotes and signs have no case. -/
private theorem isCaseless_mark : ∀ c ∈ ['"', '\'', ':', '='], IsCaseless c.toNat := by
  have hall : ∀ n ∈ ['"', '\'', ':', '='].map Char.toNat, IsCaseless n := by decide +kernel
  exact List.forall_mem_map.1 hall

/-- White space is listed by the character alone. -/
private theorem lists_blank (comparison : Comparison) (c : Char) :
    (SetItem.property .blank false).lists comparison c = isBlank c := by
  simp [SetItem.lists, Property.holds]

/-- A quote or a sign is listed by itself only. -/
theorem lists_mark {d : Char} (hd : d ∈ ['"', '\'', ':', '=']) (c : Char) :
    (SetItem.range d.toNat d.toNat).lists .ignoringCase c = (c == d) :=
  SetItem.lists_of_isCaseless (isCaseless_mark d hd) c

/-- The set of blanks of the catalog is that of the grammar. -/
private theorem contains_blank (c : Char) :
    ({ items := [.property .blank false], comparison := .ignoringCase } : CharSet).contains c =
      isBlank c := by
  simp [CharSet.contains, CharSet.lists, lists_blank]

/-- The set of quotes of the catalog is that of the grammar. -/
private theorem contains_quotes (c : Char) : Catalog.quotes.contains c = isQuote c := by
  show (((SetItem.range '"'.toNat '"'.toNat).lists .ignoringCase c ||
    ((SetItem.range '\''.toNat '\''.toNat).lists .ignoringCase c || false)) != false) = isQuote c
  rw [lists_mark (by simp), lists_mark (by simp), Bool.or_false, Bool.bne_false, isQuote]

/-- The signs of an assignment are the colon and the equals sign. -/
private theorem contains_signs (c : Char) :
    (Catalog.ranges [(':', ':'), ('=', '=')] .ignoringCase).contains c =
      (c == ':' || c == '=') := by
  show (((SetItem.range ':'.toNat ':'.toNat).lists .ignoringCase c ||
    ((SetItem.range '='.toNat '='.toNat).lists .ignoringCase c || false)) != false) = _
  rw [lists_mark (by simp), lists_mark (by simp), Bool.or_false, Bool.bne_false]

/-- The set of bare characters of the catalog is that of the grammar. -/
private theorem contains_bare (c : Char) : Catalog.bare.contains c = isBare c := by
  show (((SetItem.range '"'.toNat '"'.toNat).lists .ignoringCase c ||
    ((SetItem.range '\''.toNat '\''.toNat).lists .ignoringCase c ||
      ((SetItem.property .blank false).lists .ignoringCase c || false))) != true) = isBare c
  rw [lists_mark (by simp), lists_mark (by simp), lists_blank, Bool.or_false, Bool.bne_true,
    isBare, isQuote, Bool.or_assoc]

/-! ## The parts of the pattern -/

/-- A letter, whatever its case, matches its relatives. -/
private theorem contains_letter_iff {c d : Char} :
    (Catalog.ranges [(c, c)] .ignoringCase).contains d = true ↔ c.toNat ∈ relatives d := by
  -- under `ignoringCase` a set with one character is asked for each relative of the other
  show ((((relatives d).any fun n => c.toNat ≤ n && n ≤ c.toNat) || false) != false) = true ↔ _
  simp only [Bool.bne_false, Bool.or_false, List.any_eq_true, Bool.and_eq_true,
    decide_eq_true_eq]
  constructor
  · rintro ⟨n, hn, hle, hge⟩
    rwa [Nat.le_antisymm hle hge]
  · exact fun h => ⟨c.toNat, h, Nat.le_refl _, Nat.le_refl _⟩

/-- A word of the pattern is matched by the words with the same letters. -/
private theorem mem_language_word_iff {word : String} {w : List Char} :
    w ∈ (Node.ofList (Catalog.chars word .ignoringCase)).language ↔
      SameLetters word.toList w := by
  -- a word is its characters one after the other, each in a set of its own
  have hchars : Catalog.chars word .ignoringCase =
      (word.toList.map fun c => Catalog.ranges [(c, c)] .ignoringCase).map .one := by
    rw [List.map_map]
    rfl
  rw [hchars, mem_language_ofList_iff, List.forall₂_map_left_iff]
  simp only [contains_letter_iff]
  rfl

/-- The names of assignments are the texts of the first group. -/
private theorem mem_language_names_iff {w : List Char} :
    w ∈ (Catalog.choice 1 secretNames .ignoringCase).language ↔
      ∃ word ∈ secretNames, SameLetters word.toList w := by
  show w ∈ (Node.firstOf (secretNames.map fun word =>
    Node.ofList (Catalog.chars word .ignoringCase))).language ↔ _
  rw [mem_language_firstOf_iff (by decide)]
  simp only [List.mem_map, exists_exists_and_eq_and, mem_language_word_iff]

/-- A run is matched by as many characters of its set, or more. -/
private theorem mem_language_atLeast_iff {min : Nat} {set : CharSet} {w : List Char} :
    w ∈ (Catalog.atLeast min set).language ↔
      min ≤ w.length ∧ ∀ c ∈ w, set.contains c = true := by
  constructor
  · rintro ⟨hmin, _, hset⟩
    exact ⟨hmin, hset⟩
  · rintro ⟨hmin, hset⟩
    exact ⟨hmin, fun _ hm => absurd hm (Option.some_ne_none _).symm, hset⟩

/-- Blanks are matched by blanks, and by nothing at all. -/
theorem mem_language_blanks_iff {w : List Char} :
    w ∈ Catalog.blanks.language ↔ ∀ c ∈ w, isBlank c = true := by
  unfold Catalog.blanks
  simp only [mem_language_atLeast_iff, contains_blank]
  exact and_iff_right (Nat.zero_le _)

/-- The sign is one of two characters. -/
private theorem mem_language_sign_iff {w : List Char} :
    w ∈ (Node.one (Catalog.ranges [(':', ':'), ('=', '=')] .ignoringCase)).language ↔
      ∃ c, (c = ':' ∨ c = '=') ∧ w = [c] := by
  show (∃ c, _ = true ∧ w = [c]) ↔ _
  simp only [contains_signs, Bool.or_eq_true, beq_iff_eq]

/-- The second group is a quote or nothing. -/
private theorem mem_language_quote_iff {w : List Char} :
    w ∈ (Node.span Catalog.quotes 0 (some 1) .greedy).language ↔
      ∃ quote : Option Char, w = quote.toList ∧ ∀ c ∈ quote, isQuote c = true := by
  show 0 ≤ w.length ∧ (∀ m, some 1 = some m → w.length ≤ m) ∧ (∀ c ∈ w, _) ↔ _
  simp only [contains_quotes]
  constructor
  · -- at most one quote means none or one
    rintro ⟨_, hlength, hquotes⟩
    have hle := hlength 1 rfl
    refine ⟨w.head?, ?_, fun c hc => hquotes c (List.mem_of_mem_head? hc)⟩
    match w, hle with
    | [], _ => rfl
    | [c], _ => rfl
  · rintro ⟨quote, rfl, hquotes⟩
    refine ⟨Nat.zero_le _, fun m hm => ?_, fun c hc => hquotes c (Option.mem_toList.1 hc)⟩
    obtain rfl := Option.some.inj hm
    cases quote with
    | none => exact Nat.zero_le 1
    | some c => exact Nat.le_refl 1

/-- A value is four bare characters or more. -/
private theorem mem_language_value_iff {w : List Char} :
    w ∈ (Catalog.atLeast 4 Catalog.bare).language ↔ 4 ≤ w.length ∧ ∀ c ∈ w, isBare c = true := by
  simp only [mem_language_atLeast_iff, contains_bare]

/-! ## Values and closing quotes -/

/-- A quote is repeated by the same quote only. -/
private theorem standsAt_quote_iff {s : Subject} {pos : Nat} {quote : Char}
    (hquote : isQuote quote = true) :
    standsAt s .ignoringCase pos [quote] = true ↔ s[pos]? = some quote := by
  -- a quote has no case, so it is compared as it is
  have hcaseless : IsCaseless quote.toNat := by
    refine isCaseless_mark quote ?_
    simp only [isQuote, Bool.or_eq_true, beq_iff_eq] at hquote
    simp only [List.mem_cons]
    tauto
  -- so no other character is taken for it
  have hkey : ∀ d, (lowerChar quote == lowerChar d) = true ↔ d = quote := by
    intro d
    have hlow : lowerChar quote = quote :=
      Char.toNat_inj.1 ((toNat_lowerChar_eq_iff hcaseless).2 rfl)
    rw [beq_iff_eq, hlow, eq_comm, ← Char.toNat_inj, toNat_lowerChar_eq_iff hcaseless,
      Char.toNat_inj]
  cases hd : s[pos]? with
  | none => simp [standsAt, hd]
  | some d =>
    have hstands : standsAt s .ignoringCase pos [quote] = (lowerChar quote == lowerChar d) := by
      simp [standsAt, hd, Comparison.key]
    rw [hstands, hkey, Option.some.injEq]

/-- The end of the pattern: the value, and the quote once more. -/
def valueNode : Node :=
  .seq (.group 3 (Catalog.atLeast 4 Catalog.bare)) (.again 2 .ignoringCase)

section

variable {s : Subject} {pos : Nat} {groups : Groups} {part : Span} {e : End}

/-- Without a quote the preferred value goes on as long as it can. -/
private theorem not_bare_of_unquoted (hpart : groups.lookup 2 = some part)
    (htext : part.text s = [])
    (hlength : part.stop - part.start = 0)
    (he : (valueNode.ends s pos groups).head? = some e) {c : Char} (hc : s[e.1]? = some c) :
    isBare c = false := by
  -- nothing has to be repeated, so every end of the value is an end of both
  have hagain : ∀ n, (Node.again 2 .ignoringCase).ends s (pos + n)
      ((3, ⟨pos, pos + n⟩) :: groups) = [(pos + n, (3, ⟨pos, pos + n⟩) :: groups)] := by
    intro n
    have hlookup : List.lookup 2 ((3, (⟨pos, pos + n⟩ : Span)) :: groups) = some part := hpart
    simp only [Node.ends, hlookup, htext, standsAt, hlength, if_true, Nat.add_zero]
  have hends : valueNode.ends s pos groups =
      ((Catalog.atLeast 4 Catalog.bare).ends s pos groups).map fun e' =>
        (e'.1, (3, ⟨pos, e'.1⟩) :: e'.2) := by
    show (((Catalog.atLeast 4 Catalog.bare).ends s pos groups).map _).flatMap _ = _
    rw [List.flatMap_map, List.map_eq_flatMap]
    refine List.flatMap_congr fun e' he' => ?_
    obtain ⟨n, _, _, rfl⟩ := mem_spanEnds he'
    exact hagain n
  rw [hends, List.head?_map] at he
  obtain ⟨e', he', rfl⟩ := Option.map_eq_some_iff.1 he
  rw [← contains_bare]
  exact not_contains_of_head?_ends rfl pos groups e' he' c hc

/-- The preferred value and what is known of it, for any quote or none before it. -/
private theorem exists_value_of_head?_ends {quote : Option Char}
    (hpart : groups.lookup 2 = some part)
    (htext : part.text s = quote.toList) (hlength : part.stop - part.start = quote.toList.length)
    (hquote : ∀ c ∈ quote, isQuote c = true) (hpos : pos ≤ s.size) (hgroups : groups.Within s)
    (he : (valueNode.ends s pos groups).head? = some e) :
    ∃ value, StandsAt (value ++ quote.toList) s.toList pos ∧ 4 ≤ value.length ∧
      (∀ c ∈ value, isBare c = true) ∧
      (∀ c, s[pos + value.length]? = some c → isBare c = false) ∧
      e = (pos + (value ++ quote.toList).length, (3, ⟨pos, pos + value.length⟩) :: groups) := by
  obtain ⟨e', he', hlast⟩ := exists_of_head?_ends_seq he
  obtain ⟨e'', he'', rfl⟩ := List.mem_map.1 he'
  obtain ⟨n, _, _, rfl⟩ := mem_spanEnds he''
  obtain ⟨value, hreads⟩ := exists_reads rfl hpos hgroups he''
  obtain rfl : n = value.length := Nat.add_left_cancel hreads.stop_eq
  obtain ⟨hfour, hbare⟩ := mem_language_value_iff.1 hreads.mem_language
  obtain ⟨part', hpart', hstands, heq⟩ := mem_ends_again (List.mem_of_mem_head? hlast)
  obtain rfl : part' = part := Option.some.inj (hpart'.symm.trans hpart)
  rw [hlength] at heq
  have hend : e = (pos + (value ++ quote.toList).length,
      (3, ⟨pos, pos + value.length⟩) :: groups) := by
    rw [heq, List.length_append, Nat.add_assoc]
  cases quote with
  | none =>
    refine ⟨value, ?_, hfour, hbare, fun c hc => ?_, hend⟩
    · rw [Option.toList_none, List.append_nil]
      exact hreads.stands
    · apply not_bare_of_unquoted hpart htext hlength he
      rwa [heq]
  | some q =>
    -- the quote that closes the value is not part of a value
    have hclosing : s[pos + value.length]? = some q := by
      rw [htext] at hstands
      exact (standsAt_quote_iff (hquote q rfl)).1 hstands
    have hclosed : StandsAt [q] s.toList (pos + value.length) := by
      show [q] <+: s.toList.drop (pos + value.length)
      rwa [List.singleton_prefix_iff_head?_eq_some, List.head?_drop, Array.getElem?_toList]
    refine ⟨value, standsAt_append_iff.2 ⟨hreads.stands, hclosed⟩, hfour, hbare, fun c hc => ?_,
      hend⟩
    obtain rfl : c = q := Option.some.inj (hc.symm.trans hclosing)
    have hq : isQuote c = true := hquote c rfl
    rw [isBare, hq, Bool.true_or, Bool.not_true]

end

/-! ## Matches are assignments -/

/-- Is `m` the match of the pattern at this place? -/
structure Place.MatchedBy {line : List Char} (p : Place line) (m : Match) : Prop where
  span_eq : m.span = p.span
  group_eq : m.group? 3 = some p.valueSpan

/-- A match of the pattern is an assignment, and the third group is its value. -/
theorem exists_place_of_matchAt {line : List Char} {i : Nat} (hle : i ≤ line.length) {m : Match}
    (h : Catalog.genericSecret.pattern.matchAt line.toArray false i = some m) :
    ∃ p : Place line, p.MatchedBy m := by
  rw [matchAt_eq_head?] at h
  obtain ⟨e, he, rfl⟩ := Option.map_eq_some_iff.1 h
  -- part by part, up to the value
  obtain ⟨e₁, h₁, he⟩ := exists_of_head?_ends_seq he
  obtain ⟨e₂, h₂, he⟩ := exists_of_head?_ends_seq he
  obtain ⟨e₃, h₃, he⟩ := exists_of_head?_ends_seq he
  obtain ⟨e₄, h₄, he⟩ := exists_of_head?_ends_seq he
  obtain ⟨e₅, h₅, he⟩ := exists_of_head?_ends_seq he
  have hnone : Groups.Within line.toArray [] := fun _ hg => nomatch hg
  obtain ⟨name, hname⟩ := exists_reads rfl hle hnone h₁
  obtain ⟨before, hbefore⟩ := exists_reads rfl hname.le_size hname.within h₂
  obtain ⟨mark, hmark⟩ := exists_reads rfl hbefore.le_size hbefore.within h₃
  obtain ⟨after, hafter⟩ := exists_reads rfl hmark.le_size hmark.within h₄
  obtain ⟨opening, hopening⟩ := exists_reads rfl hafter.le_size hafter.within h₅
  obtain ⟨sign, hsign, rfl⟩ := mem_language_sign_iff.1 hmark.mem_language
  obtain ⟨quote, rfl, hquote⟩ := mem_language_quote_iff.1 hopening.mem_language
  -- the second group is the quote
  have hlength : e₅.1 - e₄.1 = quote.toList.length := by
    have hstop := hopening.stop_eq
    omega
  obtain ⟨value, hvalue, hfour, hbare, hending, rfl⟩ :=
    exists_value_of_head?_ends (lookup_of_mem_ends_group h₅) hopening.text_eq hlength hquote
      hopening.le_size hopening.within he
  -- all that is before the value is read as one
  have hhead := hname.append (hbefore.append (hmark.append (hafter.append hopening)))
  let a : Assignment :=
    { name, before, sign, after, quote, value
      isName := mem_language_names_iff.1 hname.mem_language
      isBlank_before := mem_language_blanks_iff.1 hbefore.mem_language
      isSign := hsign
      isBlank_after := mem_language_blanks_iff.1 hafter.mem_language
      isQuote_quote := hquote
      isBare_value := hbare
      four_le_length := hfour }
  have hstop : e₅.1 = i + a.head.length := hhead.stop_eq
  rw [hstop] at hvalue hending ⊢
  have hstands : StandsAt a.text line i := standsAt_append_iff.2 ⟨hhead.stands, hvalue⟩
  refine ⟨⟨i, a, hstands, fun c hc => hending c (by rwa [List.getElem?_toArray])⟩, ?_, rfl⟩
  have htext : a.text.length = a.head.length + (value ++ quote.toList).length := List.length_append
  show (⟨i, _⟩ : Span) = ⟨i, i + a.text.length⟩
  rw [htext, Nat.add_assoc]

/-! ## Assignments are matched -/

/-- The quote once more, where it stands. -/
private theorem mem_ends_closing {s : Subject} {pos : Nat} {groups : Groups} {part : Span}
    {quote : Option Char} (hpart : groups.lookup 2 = some part) (htext : part.text s = quote.toList)
    (hquote : ∀ c ∈ quote, isQuote c = true) (hstands : StandsAt quote.toList s.toList pos) :
    (pos + (part.stop - part.start), groups) ∈ (Node.again 2 .ignoringCase).ends s pos groups := by
  -- no quote stands anywhere, and one quote has to be the one that opened the value
  have hat : standsAt s .ignoringCase pos quote.toList = true := by
    cases quote with
    | none => rfl
    | some q =>
      have hq := hstands.getElem? Nat.one_pos
      rw [Nat.add_zero, Array.getElem?_toList] at hq
      exact (standsAt_quote_iff (hquote q rfl)).2 hq
  simp only [Node.ends, hpart, htext, hat, if_true]
  exact List.mem_singleton_self _

/-- A value leads to an end, if the quote before it closes it. -/
private theorem exists_mem_ends_valueNode {s : Subject} {pos : Nat} {groups : Groups} {part : Span}
    {quote : Option Char} {value : List Char} (hpart : groups.lookup 2 = some part)
    (htext : part.text s = quote.toList) (hquote : ∀ c ∈ quote, isQuote c = true)
    (hfour : 4 ≤ value.length) (hbare : ∀ c ∈ value, isBare c = true)
    (hstands : StandsAt (value ++ quote.toList) s.toList pos) :
    ∃ e, e ∈ valueNode.ends s pos groups := by
  -- the value takes all its characters, and the closing quote follows them
  obtain ⟨hvalue, hclosing⟩ := standsAt_append_iff.1 hstands
  have hspan := mem_ends_span (mem_language_value_iff.2 ⟨hfour, hbare⟩) hvalue groups
  have hlookup : List.lookup 2 ((3, ⟨pos, pos + value.length⟩) :: groups) = some part := hpart
  exact ⟨_, List.mem_flatMap.2 ⟨_, List.mem_map_of_mem hspan,
    mem_ends_closing hlookup htext hquote hclosing⟩⟩

/-- Where an assignment stands the pattern matches. -/
theorem Place.isSome_matchAt {line : List Char} (p : Place line) :
    (Catalog.genericSecret.pattern.matchAt line.toArray false p.start).isSome := by
  obtain ⟨i, a, hstands, _⟩ := p
  obtain ⟨hhead, hvalue⟩ := standsAt_append_iff.1 hstands
  obtain ⟨hname, hmore⟩ := standsAt_append_iff.1 hhead
  obtain ⟨hbefore, hmore⟩ := standsAt_append_iff.1 hmore
  obtain ⟨hsign, hmore⟩ := (standsAt_append_iff (u := [a.sign])).1 hmore
  obtain ⟨hafter, hopening⟩ := standsAt_append_iff.1 hmore
  -- each part leads to an end, at which the next one stands
  obtain ⟨groups₁, h₁⟩ := exists_mem_ends_of_mem_language line.toArray rfl a.name
    (mem_language_names_iff.2 a.isName) i [] hname
  have h₂ := mem_ends_span (mem_language_blanks_iff.2 a.isBlank_before) hbefore groups₁
  obtain ⟨groups₃, h₃⟩ := exists_mem_ends_of_mem_language line.toArray rfl [a.sign]
    (mem_language_sign_iff.2 ⟨a.sign, a.isSign, rfl⟩) _ groups₁ hsign
  have h₄ := mem_ends_span (mem_language_blanks_iff.2 a.isBlank_after) hafter groups₃
  have hquote := mem_ends_span (mem_language_quote_iff.2 ⟨a.quote, rfl, a.isQuote_quote⟩) hopening
    groups₃
  have h₅ : _ ∈ (Node.group 2 (.span Catalog.quotes 0 (some 1) .greedy)).ends line.toArray _
      groups₃ := List.mem_map_of_mem hquote
  have hlength : i + a.head.length = i + a.name.length + a.before.length + [a.sign].length +
      a.after.length + a.quote.toList.length := by
    simp only [Assignment.head, List.length_append, List.length_cons, List.length_nil]
    omega
  rw [hlength] at hvalue
  obtain ⟨e, h₆⟩ := exists_mem_ends_valueNode (lookup_of_mem_ends_group h₅)
    (text_of_standsAt hopening) a.isQuote_quote a.four_le_length a.isBare_value hvalue
  apply isSome_matchAt_of_mem_ends (e := e)
  exact List.mem_flatMap.2 ⟨_, h₁, List.mem_flatMap.2 ⟨_, h₂, List.mem_flatMap.2 ⟨_, h₃,
    List.mem_flatMap.2 ⟨_, h₄, List.mem_flatMap.2 ⟨_, h₅, h₆⟩⟩⟩⟩⟩

/-! ## What is found on a line -/

namespace Place

variable {line : List Char}

/-- What the rule finds at a place: the value, and where its text first stands in the match. -/
def occurrence (p : Place line) (number : Nat) : Occurrence where
  rule := Catalog.genericSecret
  lineNumber := number
  line := line
  secret := p.assignment.value
  offset := p.start + (find? p.assignment.value p.assignment.text).getD 0

/-- The secret of a match is the value of the assignment, found where its first copy stands. -/
theorem MatchedBy.secretOf_eq {p : Place line} {m : Match} (h : p.MatchedBy m) :
    Catalog.genericSecret.secretOf line.toArray m =
      (p.assignment.value, (find? p.assignment.value p.assignment.text).getD 0) := by
  have hgroup : Catalog.genericSecret.secretGroup.bind m.group? = some p.valueSpan := h.group_eq
  have hvalue := p.assignment.value_ne_nil
  unfold Rule.secretOf
  simp only [hgroup, h.span_eq, p.text_span, p.text_valueSpan]
  rw [if_neg (by rwa [List.isEmpty_iff])]

end Place

section

variable {line : List Char}

/-- Every match of the rule is an assignment. -/
theorem exists_place_of_mem_findAll {m : Match}
    (hm : m ∈ Catalog.genericSecret.pattern.findAll line.toArray) :
    ∃ p : Place line, p.MatchedBy m := by
  have hat := matchAt_eq_of_mem_findAll (by decide) hm
  have hreach := reaches_of_mem_findAll hm
  exact exists_place_of_matchAt (Nat.le_trans hreach.le hreach.le_size) hat

/-- There are places for all the matches on a line. -/
private theorem exists_places (line : List Char) :
    ∃ places : List (Place line),
      List.Forall₂ Place.MatchedBy places (Catalog.genericSecret.pattern.findAll line.toArray) := by
  -- each match has a place; the places are then gathered in the order of the matches
  have hplace : ∀ m ∈ Catalog.genericSecret.pattern.findAll line.toArray,
      ∃ p : Place line, p.MatchedBy m := fun m hm => exists_place_of_mem_findAll hm
  generalize Catalog.genericSecret.pattern.findAll line.toArray = ms at hplace
  induction ms with
  | nil => exact ⟨[], .nil⟩
  | cons m ms ih =>
    obtain ⟨p, hp⟩ := hplace m List.mem_cons_self
    obtain ⟨places, hplaces⟩ := ih fun m' hm' => hplace m' (List.mem_cons_of_mem m hm')
    exact ⟨p :: places, .cons hp hplaces⟩

variable {places : List (Place line)}
  (h : List.Forall₂ Place.MatchedBy places (Catalog.genericSecret.pattern.findAll line.toArray))

include h

/-- The places of the assignments found are the matches of the rule. -/
theorem map_span_places :
    places.map (·.span) = (Catalog.genericSecret.pattern.findAll line.toArray).map (·.span) := by
  generalize Catalog.genericSecret.pattern.findAll line.toArray = ms at h
  induction h with
  | nil => rfl
  | cons hp _ ih => rw [List.map_cons, List.map_cons, hp.span_eq, ih]

/-- What is found are the values of the assignments at these places. -/
private theorem occurrences_eq_map_places (number : Nat) :
    Catalog.genericSecret.occurrences number line = places.map (·.occurrence number) := by
  unfold Rule.occurrences
  simp only
  -- the induction is on the matches and the places that belong to them
  generalize Catalog.genericSecret.pattern.findAll line.toArray = ms at h
  induction h with
  | nil => rfl
  | @cons p m places ms hp _ ih =>
    -- no value is empty, so no match is dropped
    have hvalue : p.assignment.value.isEmpty = false :=
      List.isEmpty_eq_false_iff.2 p.assignment.value_ne_nil
    rw [List.filterMap_cons, hp.secretOf_eq]
    simp only [hvalue, Bool.false_eq_true, if_false, List.map_cons]
    rw [ih, hp.span_eq]
    rfl

/-- The places do not overlap, and every other place overlaps one of them. -/
private theorem pairwise_places : places.Pairwise fun p p' => p.span.stop ≤ p'.span.start := by
  have hspans : (places.map (·.span)).Pairwise fun a b => a.stop ≤ b.start := by
    rw [map_span_places h, List.pairwise_map]
    exact pairwise_findAll (by decide) line.toArray
  exact List.pairwise_map.1 hspans

/-- Every assignment of the line overlaps one that is found. -/
private theorem exists_mem_places (q : Place line) :
    ∃ p ∈ places, p.span.start ≤ q.span.start ∧ q.span.start < p.span.stop := by
  have hle := q.standsIn.stands.length_le q.assignment.text_ne_nil
  -- the place matches where it starts, so that some match that is found reaches over its start
  obtain ⟨m, hm, hstart, hstop⟩ := exists_mem_findAll_of_matchAt (by decide)
    (by rw [List.size_toArray]; omega) q.isSome_matchAt
  have hspan : m.span ∈ places.map (·.span) := by
    rw [map_span_places h]
    exact List.mem_map_of_mem hm
  obtain ⟨p, hp, heq⟩ := List.mem_map.1 hspan
  rw [← heq] at hstart hstop
  exact ⟨p, hp, hstart, hstop⟩

end

/-- On a line, if all that the rule finds has enough entropy, the rule reports values that are
assigned to telling names, with one place for each match; the places follow each other, and every
place of the line where such a value is assigned overlaps one of them. -/
theorem assignments_of_detect {line : List Char} (hline : '\n' ∉ line) (path : String)
    {entropyThreshold : Float}
    (hthreshold : ∀ o ∈ Catalog.genericSecret.occurrences 1 line,
      ¬ entropy o.secret < entropyThreshold) :
    ∃ places : List (Place line),
      (detect line { path, entropyThreshold, suppressions := [] }).filter
          (·.ruleId == Catalog.genericSecret.id) =
        places.map (fun p => (p.occurrence 1).toFinding path) ∧
      places.map (·.span) = (Catalog.genericSecret.pattern.findAll line.toArray).map (·.span) ∧
      (places.Pairwise fun p p' => p.span.stop ≤ p'.span.start) ∧
      ∀ q : Place line, ∃ p ∈ places, p.span.start ≤ q.span.start ∧ q.span.start < p.span.stop := by
  obtain ⟨places, hplaces⟩ := exists_places line
  refine ⟨places, ?_, map_span_places hplaces, pairwise_places hplaces, exists_mem_places hplaces⟩
  have hrule : Catalog.genericSecret ∈ Catalog.rules := by simp [Catalog.rules]
  have hpasses : ∀ o ∈ Catalog.genericSecret.occurrences 1 line,
      o.passes { path, entropyThreshold, suppressions := [] } = true :=
    fun o ho => passes_of_entropy (hthreshold o ho) rfl
  -- the findings of the rule are its occurrences, none of which is filtered out
  rw [filter_detect Catalog.nodup_ids hrule hline, List.filter_eq_self.2 hpasses,
    occurrences_eq_map_places hplaces, List.map_map]
  rfl

/-- A line with three values. The first is closed by another quote than the one that opens it, the
last by a quote that nothing opens. -/
def quotedValues : List Char :=
  "password='abcd\" TOKEN = \"p4ss\" secret:wxyz'".toList

/-- Two assignments on one line, in quotes. -/
theorem assignments_of_detect_quotedValues :
    (∀ o ∈ Catalog.genericSecret.occurrences 1 quotedValues, ¬ entropy o.secret < 1) ∧
    ∃ places : List (Place quotedValues),
      (detect quotedValues { path := "a.py", entropyThreshold := 1, suppressions := [] }).filter
          (·.ruleId == Catalog.genericSecret.id) =
        places.map (fun p => (p.occurrence 1).toFinding "a.py") ∧
      places.map (·.span) = [⟨16, 30⟩, ⟨31, 42⟩] ∧
      ∀ q : Place quotedValues, 16 ≤ q.start := by
  have hspans : (Catalog.genericSecret.pattern.findAll quotedValues.toArray).map (·.span) =
      [⟨16, 30⟩, ⟨31, 42⟩] := by
    decide +kernel
  have hthreshold : ∀ o ∈ Catalog.genericSecret.occurrences 1 quotedValues,
      ¬ entropy o.secret < 1 := by
    decide +kernel
  have hline : '\n' ∉ quotedValues := by decide
  obtain ⟨places, hfindings, hplaces, _, hothers⟩ :=
    assignments_of_detect hline "a.py" hthreshold
  rw [hspans] at hplaces
  refine ⟨hthreshold, places, hfindings, hplaces, fun q => ?_⟩
  -- a place that overlaps one of them starts no further left
  obtain ⟨p, hp, hstart, _⟩ := hothers q
  have hspan : p.span ∈ places.map (·.span) := List.mem_map_of_mem hp
  rw [hplaces] at hspan
  simp only [List.mem_cons, List.not_mem_nil, or_false] at hspan
  simp only [Place.span] at hspan hstart
  grind

end SecretScan
