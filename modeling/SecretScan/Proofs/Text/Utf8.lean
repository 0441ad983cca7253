import SecretScan.Proofs.Text.SameAscii
import SecretScan.Text.Utf8

/-!
# Decoding and ASCII

A byte below 128 is never part of a longer character: a reader that waits for more bytes gives up on
such a byte and reads it as a character of its own. And no longer character, and no ill-formed
piece, is shown as ASCII. So what is decoded has the same ASCII as the bytes themselves.

## Key results

- `Pending.Sound.step`: what is known of an unfinished character is known after one more byte
- `sameAscii_decodeLossy`: a decoded text has the ASCII of its bytes, and no more
-/

namespace SecretScan.Text.Utf8

/-- The text that has one character for each byte, of the same number. -/
def bytewise (bytes : List UInt8) : List Char :=
  bytes.map fun b => Char.ofNat b.toNat

/-- A code point that is one belongs to its character. -/
private theorem toNat_ofNat_of_isValidChar {n : Nat} (h : n.isValidChar) :
    (Char.ofNat n).toNat = n := by
  unfold Char.ofNat
  rw [dif_pos h]
  rfl

/-- Every byte is a code point. -/
theorem toNat_ofNat_toNat (b : UInt8) : (Char.ofNat b.toNat).toNat = b.toNat := by
  have hlt := b.toNat_lt
  exact toNat_ofNat_of_isValidChar (.inl (by omega))

/-- A part of the bytewise text is that of the bytes. -/
theorem slice_bytewise (bytes : List UInt8) (offset length : Nat) :
    ((bytewise bytes).drop offset).take length = bytewise ((bytes.drop offset).take length) := by
  unfold bytewise
  rw [List.map_take, List.map_drop]

/-- The line feeds of the bytewise text are those of the bytes. -/
theorem count_bytewise (bytes : List UInt8) : (bytewise bytes).count '\n' = bytes.count 0x0A := by
  -- a byte is a line feed as a character if it is one as a byte
  have hbyte : ∀ b : UInt8, (Char.ofNat b.toNat == '\n') = (b == 0x0A) := by
    intro b
    rw [Bool.eq_iff_iff, beq_iff_eq, beq_iff_eq, ← Char.toNat_inj, toNat_ofNat_toNat,
      ← UInt8.toNat_inj]
    rfl
  unfold bytewise
  rw [List.count, List.countP_map, List.count]
  exact List.countP_congr fun b _ => by rw [Function.comp_apply, hbyte]

/-! ## Reading on -/

/-- The pieces that are read from here on. -/
def piecesFrom : Option Pending → List UInt8 → List Piece
  | none, [] => []
  | some _, [] => [.illFormed]
  | pending, b :: bytes =>
    let (pieces, next) := step pending b
    pieces ++ piecesFrom next bytes

/-- The first byte adds its pieces before those of the others. -/
theorem piecesFrom_cons {pending next : Option Pending} {b : UInt8} {ps : List Piece}
    (h : step pending b = (ps, next)) (bytes : List UInt8) :
    piecesFrom pending (b :: bytes) = ps ++ piecesFrom next bytes := by
  cases pending <;> simp only [piecesFrom, h]

private theorem run_eq (found : List Piece) (pending : Option Pending) (bytes : List UInt8) :
    (match run (found, pending) bytes with
      | (found, none) => found.reverse
      | (found, some _) => (Piece.illFormed :: found).reverse) =
      found.reverse ++ piecesFrom pending bytes := by
  induction bytes generalizing found pending with
  | nil => cases pending <;> simp [run, piecesFrom]
  | cons b bytes ih =>
    -- what is found so far is the same with and without the next byte
    have hrest := ih ((step pending b).1.reverse ++ found) (step pending b).2
    rw [List.reverse_append, List.reverse_reverse, List.append_assoc] at hrest
    cases pending <;> exact hrest

/-- The pieces of a byte sequence are those that are read from its start on. -/
private theorem pieces_eq (bytes : List UInt8) : pieces bytes = piecesFrom none bytes :=
  run_eq [] none bytes

/-! ## Unfinished characters -/

namespace Pending

/-- The least code point that the character can still have. -/
def least (p : Pending) : Nat :=
  (64 * p.code + (p.lowest.toNat - 128)) * Nat.pow 64 p.more

/-- The code point after the greatest that the character can still have. -/
def beyond (p : Pending) : Nat :=
  (64 * p.code + (p.highest.toNat - 128) + 1) * Nat.pow 64 p.more

/-- Can nothing come of it but a character outside of ASCII? -/
structure Sound (p : Pending) : Prop where
  lowest_ge : 128 ≤ p.lowest.toNat
  highest_le : p.highest.toNat ≤ 191
  least_ge : 128 ≤ p.least
  isChar : p.beyond ≤ 0xD800 ∨ 0xE000 ≤ p.least ∧ p.beyond ≤ 0x110000

instance (p : Pending) : Decidable p.Sound :=
  decidable_of_iff (128 ≤ p.lowest.toNat ∧ p.highest.toNat ≤ 191 ∧ 128 ≤ p.least ∧
      (p.beyond ≤ 0xD800 ∨ 0xE000 ≤ p.least ∧ p.beyond ≤ 0x110000))
    ⟨fun ⟨hlowest, hhighest, hleast, hchar⟩ => ⟨hlowest, hhighest, hleast, hchar⟩,
      fun h => ⟨h.lowest_ge, h.highest_le, h.least_ge, h.isChar⟩⟩

end Pending

/-- A first byte outside of ASCII is ill-formed, or starts a character outside of ASCII. -/
private theorem step_none_cases {b : UInt8} (hb : 128 ≤ b.toNat) :
    step none b = ([.illFormed], none) ∨
      ∃ p : Pending, p.Sound ∧ step none b = ([], some p) := by
  -- all bytes are tried
  have hall : ∀ n < 256, 128 ≤ n →
      (start (UInt8.ofNat n)).1 = [.illFormed] ∧ (start (UInt8.ofNat n)).2.isNone ∨
      (start (UInt8.ofNat n)).1 = [] ∧ ∃ p ∈ (start (UInt8.ofNat n)).2, p.Sound := by
    decide +kernel
  have hstart := hall b.toNat b.toNat_lt hb
  rw [UInt8.ofNat_toNat] at hstart
  obtain ⟨hpieces, hnone⟩ | ⟨hpieces, p, hp, hsound⟩ := hstart
  · exact .inl (Prod.ext hpieces (Option.isNone_iff_eq_none.1 hnone))
  · exact .inr ⟨p, hsound, Prod.ext hpieces hp⟩

/-- One more byte leaves at most the characters that were possible before. -/
private theorem Pending.narrows (more code : Nat) {lowest highest b : UInt8} (hlow : lowest ≤ b)
    (hhigh : b ≤ highest) :
    (⟨more + 1, lowest, highest, code⟩ : Pending).least ≤
        (⟨more, 0x80, 0xBF, 64 * code + (b.toNat - 0x80)⟩ : Pending).least ∧
      (⟨more, 0x80, 0xBF, 64 * code + (b.toNat - 0x80)⟩ : Pending).beyond ≤
        (⟨more + 1, lowest, highest, code⟩ : Pending).beyond := by
  have hlow' := UInt8.le_iff_toNat_le.1 hlow
  have hhigh' := UInt8.le_iff_toNat_le.1 hhigh
  -- six bits come from the next byte
  have hsplit : ∀ n, (64 * n) * Nat.pow 64 more = n * Nat.pow 64 (more + 1) := by
    intro n
    have hpow : Nat.pow 64 (more + 1) = Nat.pow 64 more * 64 := rfl
    rw [hpow, Nat.mul_comm 64 n, Nat.mul_assoc, Nat.mul_comm 64]
  have hfirst : ∀ n, 64 * n + (128 - 128) = 64 * n := by omega
  have hlast : ∀ n, 64 * n + (191 - 128) + 1 = 64 * (n + 1) := by omega
  have h80 : (0x80 : UInt8).toNat = 128 := rfl
  have hBF : (0xBF : UInt8).toNat = 191 := rfl
  simp only [least, beyond, h80, hBF]
  rw [hfirst, hlast, hsplit, hsplit]
  exact ⟨Nat.mul_le_mul_right _ (by omega), Nat.mul_le_mul_right _ (by omega)⟩

namespace Pending.Sound

/-- With its last byte a character is complete, and it is not ASCII. -/
theorem complete {lowest highest b : UInt8} {code : Nat}
    (h : (⟨0, lowest, highest, code⟩ : Pending).Sound) (hlow : lowest ≤ b) (hhigh : b ≤ highest) :
    128 ≤ (Char.ofNat (64 * code + (b.toNat - 0x80))).toNat := by
  obtain ⟨hlowest, hhighest, hleast, hchar⟩ := h
  have hlow' := UInt8.le_iff_toNat_le.1 hlow
  have hhigh' := UInt8.le_iff_toNat_le.1 hhigh
  simp only at hlowest hhighest
  -- no bits are left open
  have hfirst : (⟨0, lowest, highest, code⟩ : Pending).least ≤ 64 * code + (b.toNat - 0x80) := by
    simp only [least, Nat.pow_eq]
    omega
  have hlast : 64 * code + (b.toNat - 0x80) < (⟨0, lowest, highest, code⟩ : Pending).beyond := by
    simp only [beyond, Nat.pow_eq]
    omega
  have hvalid : (64 * code + (b.toNat - 0x80)).isValidChar := by
    unfold Nat.isValidChar
    omega
  rw [toNat_ofNat_of_isValidChar hvalid]
  omega

/-- With any other byte it goes on, and still nothing can come of it but such a character. -/
theorem next {more : Nat} {lowest highest b : UInt8} {code : Nat}
    (h : (⟨more + 1, lowest, highest, code⟩ : Pending).Sound) (hlow : lowest ≤ b)
    (hhigh : b ≤ highest) :
    (⟨more, 0x80, 0xBF, 64 * code + (b.toNat - 0x80)⟩ : Pending).Sound := by
  -- another byte is taken, so that the number grows within its bounds
  obtain ⟨_, _, hleast, hchar⟩ := h
  obtain ⟨hfirst, hlast⟩ := narrows more code hlow hhigh
  refine ⟨?_, ?_, by omega, by omega⟩
  · show 128 ≤ (0x80 : UInt8).toNat
    decide
  · show (0xBF : UInt8).toNat ≤ 191
    decide

/-- A byte that the character waits for completes it, and it is not ASCII, or it goes on. Any other
byte is read as a first byte, after an ill-formed piece. -/
theorem step {p : Pending} (h : p.Sound) (b : UInt8) :
    (128 ≤ b.toNat ∧ ∃ c : Char, 128 ≤ c.toNat ∧ Utf8.step (some p) b = ([.char c], none)) ∨
    (128 ≤ b.toNat ∧ ∃ p' : Pending, p'.Sound ∧ Utf8.step (some p) b = ([], some p')) ∨
    Utf8.step (some p) b = (.illFormed :: (Utf8.step none b).1, (Utf8.step none b).2) := by
  -- a byte in range goes on or completes the character; any other ends it as ill-formed
  by_cases hrange : p.lowest ≤ b ∧ b ≤ p.highest
  · have hb : 128 ≤ b.toNat := Nat.le_trans h.lowest_ge (UInt8.le_iff_toNat_le.1 hrange.1)
    obtain ⟨more, lowest, highest, code⟩ := p
    cases more with
    | zero => exact .inl ⟨hb, _, h.complete hrange.1 hrange.2, if_pos hrange⟩
    | succ more => exact .inr (.inl ⟨hb, _, h.next hrange.1 hrange.2, if_pos hrange⟩)
  · exact .inr (.inr (if_neg hrange))

end Pending.Sound

/-! ## The decoded text -/

/-- The sign for what cannot be decoded is foreign. -/
theorem isForeign_replacement : IsForeign [replacement] :=
  .singleton (by decide)

/-- A byte beyond ASCII is foreign in the bytewise text. -/
theorem isForeign_byte {b : UInt8} (h : 128 ≤ b.toNat) : IsForeign [Char.ofNat b.toNat] :=
  .singleton (by rwa [toNat_ofNat_toNat])

/-- What is read from here on has the ASCII of the bytes. Bytes of an unfinished character have been
read before, and are foreign. -/
private theorem sameAscii_piecesFrom (bytes : List UInt8) :
    SameAscii ((piecesFrom none bytes).map Piece.shown) (bytewise bytes) ∧
    ∀ p : Pending, p.Sound → ∀ y, IsForeign y →
      SameAscii ((piecesFrom (some p) bytes).map Piece.shown) (y ++ bytewise bytes) := by
  -- by induction on the bytes, with and without an unfinished character
  induction bytes with
  | nil => exact ⟨.nil, fun p _ y hy => .foreign isForeign_replacement hy .nil⟩
  | cons b bytes ih =>
    obtain ⟨hnone, hsome⟩ := ih
    have hfirst : SameAscii ((piecesFrom none (b :: bytes)).map Piece.shown)
        (bytewise (b :: bytes)) := by
      by_cases hb : 128 ≤ b.toNat
      · obtain hstart | ⟨p, hp, hstart⟩ := step_none_cases hb
        · rw [piecesFrom_cons hstart]
          exact .foreign isForeign_replacement (isForeign_byte hb) hnone
        · rw [piecesFrom_cons hstart]
          exact hsome p hp _ (isForeign_byte hb)
      · have hascii : b < 0x80 := UInt8.lt_iff_toNat_lt.2 (Nat.lt_of_not_le hb)
        have hlt : (Char.ofNat b.toNat).toNat < 128 := by
          rw [toNat_ofNat_toNat]
          omega
        rw [piecesFrom_cons (step_of_ascii hascii)]
        exact .ascii hlt hnone
    refine ⟨hfirst, fun p hp y hy => ?_⟩
    -- the byte joins those that were read before it
    have hjoin : y ++ bytewise (b :: bytes) = y ++ [Char.ofNat b.toNat] ++ bytewise bytes :=
      List.append_cons y _ _
    obtain ⟨hb, c, hc, hstep⟩ | ⟨hb, p', hp', hstep⟩ | hstep := hp.step b
    · rw [piecesFrom_cons hstep, hjoin]
      exact .foreign (.singleton hc) (hy.append (isForeign_byte hb)) hnone
    · rw [piecesFrom_cons hstep, hjoin]
      exact hsome p' hp' _ (hy.append (isForeign_byte hb))
    · -- the unfinished character is given up, and the byte is read anew
      have hanew : piecesFrom none (b :: bytes) =
          (step none b).1 ++ piecesFrom (step none b).2 bytes := piecesFrom_cons rfl bytes
      rw [piecesFrom_cons hstep, List.cons_append, ← hanew]
      exact .foreign isForeign_replacement hy hfirst

/-- A decoded text has the ASCII of its bytes, and no more. -/
theorem sameAscii_decodeLossy (bytes : List UInt8) :
    SameAscii (decodeLossy bytes) (bytewise bytes) := by
  unfold decodeLossy
  rw [pieces_eq]
  exact (sameAscii_piecesFrom bytes).1

example : decodeLossy [0xE2, 0x82, 0x41, 0xFF, 0x0A] = [replacement, 'A', replacement, '\n'] := by
  decide

end SecretScan.Text.Utf8
