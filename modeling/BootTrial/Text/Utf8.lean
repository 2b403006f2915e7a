/-!
# UTF-8

The encoding of text in octets. `decode` refuses what is not the encoding of a text, and says how
many octets in front of the fault are well formed. `encode` is its inverse.
-/

namespace BootTrial.Text

/-- The octets of a file or of a line. -/
abbrev Bytes := List UInt8

/-- The octets of a text. -/
def encode (s : String) : Bytes :=
  s.toList.flatMap String.utf8EncodeChar

/-- The six bits that an octet carries behind the first of a character; its high bits are `10`. -/
def payload? (b : UInt8) : Option Nat :=
  if 0x80 ≤ b.toNat ∧ b.toNat < 0xC0 then some (b.toNat - 0x80) else none

/-- The character that two octets encode. -/
def pair? (b0 b1 : UInt8) : Option Char :=
  if 0xC2 ≤ b0.toNat ∧ b0.toNat < 0xE0 then
    (payload? b1).map fun t1 => Char.ofNat ((b0.toNat - 0xC0) * 64 + t1)
  else none

/-- The character that three octets encode. Surrogates and what two octets can encode have no such
encoding. -/
def triple? (b0 b1 b2 : UInt8) : Option Char :=
  if 0xE0 ≤ b0.toNat ∧ b0.toNat < 0xF0 then
    (payload? b1).bind fun t1 => (payload? b2).bind fun t2 =>
      let n := ((b0.toNat - 0xE0) * 64 + t1) * 64 + t2
      if 0x800 ≤ n ∧ ¬(0xD800 ≤ n ∧ n < 0xE000) then some (Char.ofNat n) else none
  else none

/-- The character that four octets encode. What three octets can encode and what lies beyond the
last code point have no such encoding. -/
def quadruple? (b0 b1 b2 b3 : UInt8) : Option Char :=
  if 0xF0 ≤ b0.toNat ∧ b0.toNat < 0xF5 then
    (payload? b1).bind fun t1 => (payload? b2).bind fun t2 => (payload? b3).bind fun t3 =>
      let n := (((b0.toNat - 0xF0) * 64 + t1) * 64 + t2) * 64 + t3
      if 0x10000 ≤ n ∧ n < 0x110000 then some (Char.ofNat n) else none
  else none

/-- The characters of a row of octets that follows `start` well-formed octets, or the number of
well-formed octets in front of the first fault. -/
def decodeFrom (start : Nat) : Bytes → Except Nat (List Char)
  | [] => .ok []
  | b0 :: rest =>
    if b0.toNat < 0x80 then (decodeFrom (start + 1) rest).map (Char.ofNat b0.toNat :: ·)
    else
      match rest with
      | [] => .error start
      | b1 :: rest =>
        match pair? b0 b1 with
        | some c => (decodeFrom (start + 2) rest).map (c :: ·)
        | none =>
          match rest with
          | [] => .error start
          | b2 :: rest =>
            match triple? b0 b1 b2 with
            | some c => (decodeFrom (start + 3) rest).map (c :: ·)
            | none =>
              match rest with
              | [] => .error start
              | b3 :: rest =>
                match quadruple? b0 b1 b2 b3 with
                | some c => (decodeFrom (start + 4) rest).map (c :: ·)
                | none => .error start

/-- The text that the octets encode, or the number of octets in front of the first fault. -/
def decode (bs : Bytes) : Except Nat String :=
  (decodeFrom 0 bs).map String.ofList

/-- The text that the octets encode. -/
def decode? (bs : Bytes) : Option String :=
  (decode bs).toOption

end BootTrial.Text
