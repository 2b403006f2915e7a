import BootTrial.Text.Blank

/-!
# Boot ids

The identifier of one boot of the machine under test, without hyphens.
-/

namespace BootTrial

/-- Whether a character may stand in a boot id: an ASCII letter or digit. -/
def isBootIdChar (c : Char) : Bool :=
  ('0' ≤ c && c ≤ '9') || ('A' ≤ c && c ≤ 'Z') || ('a' ≤ c && c ≤ 'z')

/-- The identifier of one boot. -/
structure BootId where
  /-- The identifier as it is written, without hyphens. -/
  text : String
  /-- It is one ASCII letter or digit or more. -/
  isId : text.toList ≠ [] ∧ text.toList.all isBootIdChar
  deriving DecidableEq, Repr

namespace BootId

/-- The boot id in a raw text, with the white space at its ends and every hyphen dropped. What is
left must be one ASCII letter or digit or more. -/
def parse? (raw : String) : Option BootId :=
  let kept := (Text.trim raw).toList.filter (· ≠ '-')
  if h : kept ≠ [] ∧ kept.all isBootIdChar then
    some ⟨String.ofList kept, by rwa [String.toList_ofList]⟩
  else none

end BootId

end BootTrial
