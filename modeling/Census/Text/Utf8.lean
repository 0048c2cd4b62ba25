/-
Bytes read as UTF-8, faults and all.

* `decodeLossy`: the characters that bytes encode, one replacement character for each stretch of
  bytes that starts a character but does not complete it, and for each byte that starts none.
-/

namespace Census.Text

/-- Stands for bytes that encode nothing. -/
def replacement : Char :=
  '\uFFFD'

/-- The range that the second byte of a character has to be in, and how many bytes follow the
first; nothing for a byte that starts no character of several bytes. -/
def leadByte? (b : Nat) : Option (Nat × Nat × Nat) :=
  if 0xC2 ≤ b ∧ b ≤ 0xDF then some (0x80, 0xBF, 1)
  else if b = 0xE0 then some (0xA0, 0xBF, 2)
  else if b = 0xED then some (0x80, 0x9F, 2)
  else if 0xE1 ≤ b ∧ b ≤ 0xEF then some (0x80, 0xBF, 2)
  else if b = 0xF0 then some (0x90, 0xBF, 3)
  else if 0xF1 ≤ b ∧ b ≤ 0xF3 then some (0x80, 0xBF, 3)
  else if b = 0xF4 then some (0x80, 0x8F, 3)
  else none

/-- The bits that the first byte of a character contributes. -/
def leadBits (b following : Nat) : Nat :=
  b % Nat.pow 2 (6 - following)

/-- Reads the following bytes of a character.  Gives the code point, or nothing where a byte is out
of range, and how many bytes were read. -/
def following (low high : Nat) : Nat → Nat → List UInt8 → Option Nat × Nat
  | 0, code, _ => (some code, 0)
  | _ + 1, _, [] => (none, 0)
  | n + 1, code, b :: bs =>
    if low ≤ b.toNat ∧ b.toNat ≤ high then
      let (code, read) := following 0x80 0xBF n (code * 64 + b.toNat % 64) bs
      (code, read + 1)
    else (none, 0)

/-- The characters of at most `fuel` bytes. -/
def decodeLossyFrom : Nat → List UInt8 → List Char
  | 0, _ => []
  | _, [] => []
  | fuel + 1, b :: bs =>
    if b.toNat < 0x80 then Char.ofNat b.toNat :: decodeLossyFrom fuel bs
    else match leadByte? b.toNat with
      | none => replacement :: decodeLossyFrom fuel bs
      | some (low, high, count) =>
        let (code, read) := following low high count (leadBits b.toNat count) bs
        ((code.map Char.ofNat).getD replacement) :: decodeLossyFrom fuel (bs.drop read)

/-- The characters that bytes encode, replacements standing for what encodes nothing. -/
def decodeLossy (bs : List UInt8) : List Char :=
  decodeLossyFrom bs.length bs

end Census.Text
