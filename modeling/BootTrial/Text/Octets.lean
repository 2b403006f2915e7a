import BootTrial.Text.Utf8

/-!
# Octets as text

A script is read octet by octet, whatever text the octets encode, if they encode one at all. To
write about such octets as about text, each is kept as the character with its number.
`octetsOf_spelled` says that nothing is lost.
-/

namespace BootTrial.Text

/-- The text with one character for each octet, the one with its number. -/
def spelled (bs : Bytes) : String :=
  String.ofList (bs.map fun b => Char.ofNat b.toNat)

/-- The octets that the characters of a text stand for. -/
def octetsOf (s : String) : Bytes :=
  s.toList.map fun c => UInt8.ofNat c.toNat

/-- The octet that a character stands for is the one that it was made for. -/
theorem ofNat_toNat_octet (b : UInt8) : UInt8.ofNat (Char.ofNat b.toNat).toNat = b := by
  have hb : b.toNat.isValidChar := .inl (by have := b.toNat_lt; omega)
  have h : (Char.ofNat b.toNat).toNat = b.toNat := by
    rw [Char.ofNat, dif_pos hb]
    rfl
  simp [h]

/-- The octets of the text that was made from some octets are these. -/
theorem octetsOf_spelled (bs : Bytes) : octetsOf (spelled bs) = bs := by
  simp only [octetsOf, spelled, String.toList_ofList, List.map_map]
  exact List.map_id'' ofNat_toNat_octet bs

/-- A text as a script sees it: one character for each octet of its encoding. -/
def inOctets (s : String) : String :=
  spelled (encode s)

/-- The text that a script has spelled octet by octet, if it is one. -/
def fromOctets? (s : String) : Option String :=
  decode? (octetsOf s)

end BootTrial.Text
