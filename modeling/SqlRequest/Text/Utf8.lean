/-!
Reading octets as UTF-8 text. The longest part of a sequence that begins as a
character but cannot be finished is replaced by one replacement character, and so
is every octet that begins none; reading goes on with the octet that did not fit.
-/

namespace SqlRequest.Text.Utf8

/-- A character that has begun: the bits read so far, how many octets it still
lacks, and the bounds of the next one. -/
structure Begun where
  bits : Nat
  lacks : Nat
  least : Nat
  greatest : Nat

/-- Stands for what could not be read. -/
def replacement : Char := '\ufffd'

/-- The first octet of a character: what it adds to the text at once, and the
character that it begins. -/
def first (b : Nat) : List Char × Option Begun :=
  if b ≤ 0x7f then ([Char.ofNat b], none)
  else if 0xc2 ≤ b ∧ b ≤ 0xdf then ([], some ⟨b - 0xc0, 1, 0x80, 0xbf⟩)
  else if b = 0xe0 then ([], some ⟨0, 2, 0xa0, 0xbf⟩)
  else if b = 0xed then ([], some ⟨0xd, 2, 0x80, 0x9f⟩)
  else if 0xe1 ≤ b ∧ b ≤ 0xef then ([], some ⟨b - 0xe0, 2, 0x80, 0xbf⟩)
  else if b = 0xf0 then ([], some ⟨0, 3, 0x90, 0xbf⟩)
  else if 0xf1 ≤ b ∧ b ≤ 0xf3 then ([], some ⟨b - 0xf0, 3, 0x80, 0xbf⟩)
  else if b = 0xf4 then ([], some ⟨4, 3, 0x80, 0x8f⟩)
  else ([replacement], none)

/-- An octet after the ones read: what it adds to the text, and the character
that is then open. -/
def next : Option Begun → Nat → List Char × Option Begun
  | none, b => first b
  | some p, b =>
    if p.least ≤ b ∧ b ≤ p.greatest then
      let bits := p.bits * 64 + (b - 0x80)
      if p.lacks ≤ 1 then ([Char.ofNat bits], none)
      else ([], some ⟨bits, p.lacks - 1, 0x80, 0xbf⟩)
    else
      let (out, open?) := first b
      (replacement :: out, open?)

/-- The text of the octets that follow, given the character that is open. -/
def readFrom : Option Begun → List UInt8 → List Char
  | none, [] => []
  | some _, [] => [replacement]
  | p, b :: bs => (next p b.toNat).1 ++ readFrom (next p b.toNat).2 bs

/-- The text that octets stand for. -/
def read (bs : List UInt8) : String := String.ofList (readFrom none bs)

example : read [226, 130, 226, 130, 172] = "\ufffd€" := by decide

example : read [237, 160, 128] = "\ufffd\ufffd\ufffd" := by decide

end SqlRequest.Text.Utf8
