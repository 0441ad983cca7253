import SecretScan.Text.Quoted

/-!
# UTF-8

Decoding of byte sequences. A reader walks over the bytes and keeps what it needs to know of an
unfinished character: how many bytes it still wants and in which range the next one must lie.
A byte out of range ends the unfinished character, which counts as one ill-formed piece, and is
then read as a first byte itself. So every maximal ill-formed stretch gives one piece.

`Utf8.decodeLossy` shows each ill-formed piece as U+FFFD, `Utf8.decode?` refuses them all.
Main statement: bytes below 128 stand for themselves (`decodeLossy_of_ascii`,
`decodeLossy_map_ofNat`).
-/

namespace SecretScan.Text.Utf8

/-- A character whose first bytes have been read. -/
structure Pending where
  /-- How many bytes are still wanted, less one. -/
  more : Nat
  /-- The range in which the next byte must lie. -/
  lowest : UInt8
  highest : UInt8
  /-- The bits collected so far. -/
  code : Nat

/-- What decoding yields. -/
inductive Piece where
  | char (c : Char)
  | illFormed
  deriving DecidableEq

/-- Reads a byte at the start of a character. -/
def start (b : UInt8) : List Piece × Option Pending :=
  if b < 0x80 then ([.char (Char.ofNat b.toNat)], none)
  else if b < 0xC2 then ([.illFormed], none)
  else if b < 0xE0 then ([], some ⟨0, 0x80, 0xBF, b.toNat - 0xC0⟩)
  else if b < 0xF0 then
    let lowest := if b == 0xE0 then 0xA0 else 0x80
    let highest := if b == 0xED then 0x9F else 0xBF
    ([], some ⟨1, lowest, highest, b.toNat - 0xE0⟩)
  else if b < 0xF5 then
    let lowest := if b == 0xF0 then 0x90 else 0x80
    let highest := if b == 0xF4 then 0x8F else 0xBF
    ([], some ⟨2, lowest, highest, b.toNat - 0xF0⟩)
  else ([.illFormed], none)

/-- Reads one byte. -/
def step : Option Pending → UInt8 → List Piece × Option Pending
  | none, b => start b
  | some p, b =>
    if p.lowest ≤ b ∧ b ≤ p.highest then
      let code := 64 * p.code + (b.toNat - 0x80)
      match p.more with
      | 0 => ([.char (Char.ofNat code)], none)
      | more + 1 => ([], some ⟨more, 0x80, 0xBF, code⟩)
    else
      let (pieces, state) := start b
      (.illFormed :: pieces, state)

/-- The state of the reader after some bytes: the pieces, last one first, and what is pending. -/
def run (state : List Piece × Option Pending) (bytes : List UInt8) :
    List Piece × Option Pending :=
  bytes.foldl (fun (found, pending) b =>
    let (pieces, pending) := step pending b
    (pieces.reverse ++ found, pending)) state

/-- The pieces of a byte sequence. A character that the end cuts off is ill-formed. -/
def pieces (bytes : List UInt8) : List Piece :=
  match run ([], none) bytes with
  | (found, none) => found.reverse
  | (found, some _) => (.illFormed :: found).reverse

/-- The replacement character. -/
def replacement : Char := Char.ofNat 0xFFFD

/-- The character that shows a piece. -/
def Piece.shown : Piece → Char
  | .char c => c
  | .illFormed => replacement

/-- Decodes every byte sequence; ill-formed pieces become replacement characters. -/
def decodeLossy (bytes : List UInt8) : List Char :=
  (pieces bytes).map Piece.shown

/-- Decodes a well-formed byte sequence. -/
def decode? (bytes : List UInt8) : Option (List Char) :=
  (pieces bytes).mapM fun
    | .char c => some c
    | .illFormed => none

/-- Why a byte sequence is ill-formed. -/
inductive FaultReason where
  | start
  | continuation
  | cutOff
  deriving DecidableEq, Repr

/-- The first ill-formed piece of a byte sequence: where it starts, its first byte, how many bytes
it has. -/
structure Fault where
  position : Nat
  byte : UInt8
  length : Nat
  reason : FaultReason
  deriving DecidableEq, Repr

/-- Looks for the first ill-formed piece. `taken` are the bytes of the character being read, the
last one first; `position` is that of the next byte. -/
def faultFrom (position : Nat) (taken : List UInt8) (pending : Option Pending) :
    List UInt8 → Option Fault
  | [] => taken.getLast?.map fun b => ⟨position - taken.length, b, taken.length, .cutOff⟩
  | b :: rest =>
    match step pending b with
    | ([], next) => faultFrom (position + 1) (b :: taken) next rest
    | (.char _ :: _, next) => faultFrom (position + 1) [] next rest
    | (.illFormed :: _, _) =>
      match taken.getLast? with
      | none => some ⟨position, b, 1, .start⟩
      | some first => some ⟨position - taken.length, first, taken.length, .continuation⟩

/-- The first ill-formed piece of a byte sequence, if there is one. -/
def fault? (bytes : List UInt8) : Option Fault :=
  faultFrom 0 [] none bytes

/-- The wording of a reason. -/
def FaultReason.message : FaultReason → String
  | .start => "invalid start byte"
  | .continuation => "invalid continuation byte"
  | .cutOff => "unexpected end of data"

/-- The message for an ill-formed piece. -/
def Fault.message (f : Fault) : String :=
  let place :=
    if f.length == 1 then
      "byte 0x" ++ String.ofList (Text.hexDigits 2 f.byte.toNat) ++ " in position " ++ toString f.position
    else
      "bytes in position " ++ toString f.position ++ "-" ++ toString (f.position + f.length - 1)
  "'utf-8' codec can't decode " ++ place ++ ": " ++ f.reason.message

/-- The bytes of a text. -/
def encode (s : String) : List UInt8 :=
  s.toUTF8.data.toList

theorem step_of_ascii {b : UInt8} (h : b < 0x80) :
    step none b = ([.char (Char.ofNat b.toNat)], none) := by
  simp [step, start, h]

theorem run_of_ascii (found : List Piece) {bytes : List UInt8} (h : ∀ b ∈ bytes, b < 0x80) :
    run (found, none) bytes =
      ((bytes.map fun b => Piece.char (Char.ofNat b.toNat)).reverse ++ found, none) := by
  induction bytes generalizing found with
  | nil => rfl
  | cons b bs ih =>
    have hb := h b (List.mem_cons_self ..)
    have hbs : ∀ b ∈ bs, b < 0x80 := fun x hx => h x (List.mem_cons_of_mem _ hx)
    have := ih (Piece.char (Char.ofNat b.toNat) :: found) hbs
    simp only [run, List.foldl_cons, step_of_ascii hb] at this ⊢
    simpa using this

/-- Bytes below 128 stand for the characters of the same numbers. -/
theorem decodeLossy_of_ascii {bytes : List UInt8} (h : ∀ b ∈ bytes, b < 0x80) :
    decodeLossy bytes = bytes.map fun b => Char.ofNat b.toNat := by
  have hp : pieces bytes = bytes.map fun b => Piece.char (Char.ofNat b.toNat) := by
    simp [pieces, run_of_ascii [] h]
  simp [decodeLossy, hp, Function.comp_def, Piece.shown]

/-- A text of ASCII is read back from its bytes. -/
theorem decodeLossy_map_ofNat {cs : List Char} (h : ∀ c ∈ cs, c.toNat < 0x80) :
    decodeLossy (cs.map fun c => UInt8.ofNat c.toNat) = cs := by
  have hbyte : ∀ c ∈ cs, (UInt8.ofNat c.toNat).toNat = c.toNat := fun c hc =>
    UInt8.toNat_ofNat_of_lt' (Nat.lt_trans (h c hc) (by decide))
  rw [decodeLossy_of_ascii, List.map_map]
  · refine (List.map_congr_left fun c hc => ?_).trans cs.map_id
    rw [Function.comp_apply, hbyte c hc, Char.ofNat_toNat, id]
  · intro b hb
    obtain ⟨c, hc, rfl⟩ := List.mem_map.1 hb
    rw [UInt8.lt_iff_toNat_lt, hbyte c hc]
    exact h c hc

end SecretScan.Text.Utf8
