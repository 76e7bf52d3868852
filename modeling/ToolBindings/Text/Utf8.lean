/-!
# UTF-8

Octets and characters. `encode` is the octet form of a text; `decode?` reads exactly the valid
sequences; `decodeLossy` reads every sequence, with one U+FFFD for each maximal piece that cannot be
part of a character.
-/

namespace ToolBindings.Text.Utf8

/-- Octets of a text. -/
def encode (s : String) : List UInt8 := s.toUTF8.toList

/-- The text whose octets these are, if there is one. -/
def decode? (octets : List UInt8) : Option String :=
  String.fromUTF8? ⟨octets.toArray⟩

/-- An octet that continues a character. -/
def isTail (b : UInt8) : Bool := 0x80 ≤ b && b ≤ 0xBF

/-- What a first octet opens: the number of octets that follow, the bits it carries, and the range
of the octet after it. -/
structure Lead where
  tails : Nat
  bits : Nat
  low : UInt8
  high : UInt8

/-- The character length and second-octet range that a first octet announces. -/
def lead? (b : UInt8) : Option Lead :=
  if b < 0x80 then some ⟨0, b.toNat, 0x80, 0xBF⟩
  else if b < 0xC2 then none
  else if b < 0xE0 then some ⟨1, b.toNat % 32, 0x80, 0xBF⟩
  else if b = 0xE0 then some ⟨2, 0, 0xA0, 0xBF⟩
  else if b = 0xED then some ⟨2, 13, 0x80, 0x9F⟩
  else if b < 0xF0 then some ⟨2, b.toNat % 16, 0x80, 0xBF⟩
  else if b = 0xF0 then some ⟨3, 0, 0x90, 0xBF⟩
  else if b = 0xF4 then some ⟨3, 4, 0x80, 0x8F⟩
  else if b < 0xF4 then some ⟨3, b.toNat % 8, 0x80, 0xBF⟩
  else none

/-- Where a lossy reader stands: between characters, or inside one with `owed + 1` octets to come,
the next of them between `low` and `high`. -/
inductive Standing where
  | between
  | inside (owed : Nat) (bits : Nat) (low high : UInt8)

/-- The replacement character. -/
def replacement : Char := Char.ofNat 0xFFFD

/-- One octet between characters. -/
def opening (b : UInt8) : List Char × Standing :=
  match lead? b with
  | none => ([replacement], .between)
  | some ⟨0, bits, _, _⟩ => ([Char.ofNat bits], .between)
  | some ⟨owed + 1, bits, low, high⟩ => ([], .inside owed bits low high)

/-- One octet of a lossy reading: the characters it completes or gives up, and the new standing. -/
def advance : Standing → UInt8 → List Char × Standing
  | .between, b => opening b
  | .inside owed bits low high, b =>
    if low ≤ b && b ≤ high then
      let bits := bits * 64 + b.toNat % 64
      match owed with
      | 0 => ([Char.ofNat bits], .between)
      | owed + 1 => ([], .inside owed bits 0x80 0xBF)
    else
      let (cs, standing) := opening b
      (replacement :: cs, standing)

/-- Reads on from a standing; a character cut off by the end is given up as one U+FFFD. -/
def decodeLossyFrom : Standing → List UInt8 → List Char
  | .between, [] => []
  | .inside .., [] => [replacement]
  | standing, b :: rest =>
    let (cs, next) := advance standing b
    cs ++ decodeLossyFrom next rest

/-- The text of any octets. -/
def decodeLossy (octets : List UInt8) : String :=
  String.ofList (decodeLossyFrom .between octets)

end ToolBindings.Text.Utf8
