namespace PuzzlePrep.Text

def continuation (b : Nat) : Option (Nat × Nat × Nat) :=
  if 0xC2 ≤ b && b ≤ 0xDF then some (1, 0x80, 0xBF)
  else if b = 0xE0 then some (2, 0xA0, 0xBF)
  else if b = 0xED then some (2, 0x80, 0x9F)
  else if 0xE1 ≤ b && b ≤ 0xEF then some (2, 0x80, 0xBF)
  else if b = 0xF0 then some (3, 0x90, 0xBF)
  else if 0xF1 ≤ b && b ≤ 0xF3 then some (3, 0x80, 0xBF)
  else if b = 0xF4 then some (3, 0x80, 0x8F)
  else none

def leading (length b : Nat) : Nat :=
  if length = 1 then b % 0x20 else if length = 2 then b % 0x10 else b % 8

inductive ByteState
  | ready
  | within (value missing low high : Nat)

def decodeLossy : ByteState → List UInt8 → List Char
  | .ready, [] => []
  | .within .., [] => ['\uFFFD']
  | .ready, b :: rest =>
    if b.toNat < 0x80 then Char.ofNat b.toNat :: decodeLossy .ready rest
    else match continuation b.toNat with
      | some (missing, low, high) =>
        decodeLossy (.within (leading missing b.toNat) missing low high) rest
      | none => '\uFFFD' :: decodeLossy .ready rest
  | .within value missing low high, b :: rest =>
    if low ≤ b.toNat && b.toNat ≤ high then
      let value := value * 64 + b.toNat % 64
      if missing ≤ 1 then Char.ofNat value :: decodeLossy .ready rest
      else decodeLossy (.within value (missing - 1) 0x80 0xBF) rest
    else if b.toNat < 0x80 then '\uFFFD' :: Char.ofNat b.toNat :: decodeLossy .ready rest
    else match continuation b.toNat with
      | some (missing, low, high) =>
        '\uFFFD' :: decodeLossy (.within (leading missing b.toNat) missing low high) rest
      | none => '\uFFFD' :: '\uFFFD' :: decodeLossy .ready rest

def lossy (bytes : ByteArray) : String := String.ofList (decodeLossy .ready bytes.toList)

end PuzzlePrep.Text
