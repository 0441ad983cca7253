import SecretScan.Proofs.Text.Lines

/-!
# Texts with the same ASCII

A byte sequence can be read as a text in several ways, all of which agree on bytes below 128. What
else there is may be one character in one reading and several in another, but no reading has nothing
there, so what is apart in one is apart in the others. `SameAscii` is this relation of two texts. It
is kept by cutting texts into lines, as the ends of lines are ASCII.

## Key results

- `takeWhile_eq`: ASCII at the start of one text is at the start of the other
- `forall₂_lines`: the lines of two such texts are such texts, one by one
-/

namespace SecretScan.Text

/-- Is this a text of characters outside of ASCII, and not empty? -/
structure IsForeign (x : List Char) : Prop where
  ne_nil : x ≠ []
  le_toNat : ∀ c ∈ x, 128 ≤ c.toNat

/-- Do two texts have the same ASCII, with foreign text in between at the same places? -/
inductive SameAscii : List Char → List Char → Prop
  | nil : SameAscii [] []
  | ascii {c : Char} {t u : List Char} (hc : c.toNat < 128) (h : SameAscii t u) :
    SameAscii (c :: t) (c :: u)
  | foreign {x y t u : List Char} (hx : IsForeign x) (hy : IsForeign y) (h : SameAscii t u) :
    SameAscii (x ++ t) (y ++ u)

/-- A character beyond ASCII is foreign. -/
theorem IsForeign.singleton {c : Char} (h : 128 ≤ c.toNat) : IsForeign [c] :=
  ⟨List.cons_ne_nil c [], fun d hd => by rwa [List.mem_singleton.1 hd]⟩

/-- Foreign texts in a row are foreign. -/
theorem IsForeign.append {x y : List Char} (hx : IsForeign x) (hy : IsForeign y) :
    IsForeign (x ++ y) := by
  refine ⟨List.append_ne_nil_of_left_ne_nil hx.ne_nil y, fun c hc => ?_⟩
  obtain hc | hc := List.mem_append.1 hc
  · exact hx.le_toNat c hc
  · exact hy.le_toNat c hc

/-- No ASCII character occurs in a foreign text. -/
theorem IsForeign.not_mem {x : List Char} (h : IsForeign x) {c : Char} (hc : c.toNat < 128) :
    c ∉ x := by
  intro hmem
  have hle := h.le_toNat c hmem
  omega

namespace SameAscii

variable {t u : List Char}

/-- Texts that agree in ASCII are both empty or neither. -/
private theorem eq_nil_iff (h : SameAscii t u) : t = [] ↔ u = [] := by
  cases h with
  | nil => exact Iff.rfl
  | ascii => exact iff_of_false (List.cons_ne_nil _ _) (List.cons_ne_nil _ _)
  | foreign hx hy =>
    exact iff_of_false (List.append_ne_nil_of_left_ne_nil hx.ne_nil _)
      (List.append_ne_nil_of_left_ne_nil hy.ne_nil _)

/-! ## ASCII at the start -/

/-- ASCII at the start of one text is at the start of the other, and they agree on the rest. -/
theorem takeWhile_eq {p : Char → Bool} (hp : ∀ c, p c = true → c.toNat < 128)
    (h : SameAscii t u) :
    t.takeWhile p = u.takeWhile p ∧
      ∀ n ≤ (t.takeWhile p).length, t.take n = u.take n ∧ SameAscii (t.drop n) (u.drop n) := by
  induction h with
  | nil => exact ⟨rfl, fun n _ => by simpa using SameAscii.nil⟩
  | @ascii c t u hc h ih =>
    obtain ⟨heq, hparts⟩ := ih
    rw [List.takeWhile_cons, List.takeWhile_cons]
    cases p c with
    | false =>
      refine ⟨rfl, fun n hn => ?_⟩
      obtain rfl : n = 0 := Nat.le_zero.1 hn
      exact ⟨rfl, .ascii hc h⟩
    | true =>
      refine ⟨by simp only [if_true, heq], fun n hn => ?_⟩
      cases n with
      | zero => exact ⟨rfl, .ascii hc h⟩
      | succ n =>
        obtain ⟨htake, hdrop⟩ := hparts n (Nat.le_of_succ_le_succ hn)
        exact ⟨by rw [List.take_succ_cons, List.take_succ_cons, htake], hdrop⟩
  | @foreign x y t u hx hy h =>
    -- neither of the two starts with ASCII
    have hnone : ∀ z v : List Char, IsForeign z → (z ++ v).takeWhile p = [] := by
      intro z v hz
      obtain ⟨c, z, rfl⟩ := List.exists_cons_of_ne_nil hz.ne_nil
      have hle := hz.le_toNat c List.mem_cons_self
      have hc : ¬ p c = true := fun hpc => by
        have hlt := hp c hpc
        omega
      rw [List.cons_append, List.takeWhile_cons, if_neg hc]
    rw [hnone x t hx, hnone y u hy]
    refine ⟨rfl, fun n hn => ?_⟩
    obtain rfl : n = 0 := Nat.le_zero.1 hn
    exact ⟨rfl, .foreign hx hy h⟩

end SameAscii

/-! ## Lines -/

namespace SameAscii

variable {t u : List Char}

/-- Cut at an ASCII character, they have pieces that agree. -/
private theorem forall₂_cutAt {sep : Char} (hsep : sep.toNat < 128) (h : SameAscii t u) :
    List.Forall₂ SameAscii (cutAt sep t) (cutAt sep u) := by
  induction h with
  | nil => exact .cons .nil .nil
  | @ascii c t u hc _ ih =>
    -- a character both texts share cuts both of them, or neither
    obtain ⟨l, ls, ht⟩ := List.exists_cons_of_ne_nil (cutAt_ne_nil sep t)
    obtain ⟨l', ls', hu⟩ := List.exists_cons_of_ne_nil (cutAt_ne_nil sep u)
    rw [ht, hu] at ih
    obtain ⟨hl, hls⟩ := List.forall₂_cons.1 ih
    rw [cutAt_cons ht, cutAt_cons hu]
    split
    · exact .cons .nil ih
    · exact .cons (.ascii hc hl) hls
  | @foreign x y t u hx hy _ ih =>
    -- what differs holds no character that cuts
    obtain ⟨l, ls, ht⟩ := List.exists_cons_of_ne_nil (cutAt_ne_nil sep t)
    obtain ⟨l', ls', hu⟩ := List.exists_cons_of_ne_nil (cutAt_ne_nil sep u)
    rw [ht, hu] at ih
    obtain ⟨hl, hls⟩ := List.forall₂_cons.1 ih
    rw [cutAt_append ht (hx.not_mem hsep), cutAt_append hu (hy.not_mem hsep)]
    exact .cons (.foreign hx hy hl) hls

/-- Both texts end with a carriage return, and agree on what is before it, or none of them does. -/
private theorem getLast?_cases (h : SameAscii t u) :
    (∃ t' u', t = t' ++ ['\r'] ∧ u = u' ++ ['\r'] ∧ SameAscii t' u') ∨
      (t.getLast? ≠ some '\r' ∧ u.getLast? ≠ some '\r') := by
  induction h with
  | nil => exact .inr ⟨nofun, nofun⟩
  | @ascii c t u hc h ih =>
    -- the last character is that of the rest, unless the rest is empty
    obtain ⟨t', u', rfl, rfl, h'⟩ | ⟨ht, hu⟩ := ih
    · exact .inl ⟨c :: t', c :: u', rfl, rfl, .ascii hc h'⟩
    · by_cases hreturn : c = '\r' ∧ t = []
      · obtain ⟨rfl, rfl⟩ := hreturn
        obtain rfl := h.eq_nil_iff.1 rfl
        exact .inl ⟨[], [], rfl, rfl, .nil⟩
      · -- what ends the rest ends the whole
        have hlast : ∀ v : List Char, (v = [] → c ≠ '\r') → v.getLast? ≠ some '\r' →
            (c :: v).getLast? ≠ some '\r' := by
          intro v hempty hv heq
          cases v with
          | nil => exact hempty rfl (Option.some.inj heq)
          | cons d v => exact hv ((List.getLast?_cons_cons).symm.trans heq)
        have hne : t = [] → c ≠ '\r' := fun hnil heq => hreturn ⟨heq, hnil⟩
        exact .inr ⟨hlast t hne ht, hlast u (fun hnil => hne (h.eq_nil_iff.2 hnil)) hu⟩
  | @foreign x y t u hx hy h ih =>
    obtain ⟨t', u', rfl, rfl, h'⟩ | ⟨ht, hu⟩ := ih
    · exact .inl ⟨x ++ t', y ++ u', (List.append_assoc x t' _).symm,
        (List.append_assoc y u' _).symm, .foreign hx hy h'⟩
    · -- the last character is foreign or that of the rest
      have hlast : ∀ z v : List Char, IsForeign z → v.getLast? ≠ some '\r' →
          (z ++ v).getLast? ≠ some '\r' := by
        intro z v hz hv heq
        rw [List.getLast?_append, Option.or_eq_some_iff] at heq
        obtain heq | ⟨_, heq⟩ := heq
        · exact hv heq
        · exact hz.not_mem (by decide) (List.mem_of_getLast? heq)
      exact .inr ⟨hlast x t hx ht, hlast y u hy hu⟩

/-- Without the carriage return at the end, they agree. -/
theorem dropReturn (h : SameAscii t u) : SameAscii (dropReturn t) (dropReturn u) := by
  unfold Text.dropReturn
  obtain ⟨t', u', rfl, rfl, h'⟩ | ⟨ht, hu⟩ := h.getLast?_cases
  · rw [if_pos (by simp), if_pos (by simp), List.dropLast_concat, List.dropLast_concat]
    exact h'
  · rw [if_neg ht, if_neg hu]
    exact h

/-- The lines of two texts with the same ASCII, one by one. -/
theorem forall₂_lines (h : SameAscii t u) : List.Forall₂ SameAscii (lines t) (lines u) := by
  have hpieces : List.Forall₂ SameAscii (cutAt '\n' t) (cutAt '\n' u) :=
    h.forall₂_cutAt (by decide)
  unfold lines
  generalize cutAt '\n' t = pieces at hpieces
  generalize cutAt '\n' u = pieces' at hpieces
  induction hpieces with
  | nil => exact .nil
  | @cons l l' ls ls' hl hls ih =>
    -- the last line keeps its carriage return
    cases hls with
    | nil => exact .cons hl .nil
    | cons => exact .cons hl.dropReturn ih

end SameAscii

end SecretScan.Text
