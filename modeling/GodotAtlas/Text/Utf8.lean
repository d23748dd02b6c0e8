namespace GodotAtlas.Text

def encodeUtf8 (cs : List Char) : List UInt8 :=
  cs.flatMap String.utf8EncodeChar

def replacement : Char :=
  '\ufffd'

-- A byte that continues a sequence, within bounds that depend on the byte before it.
def continues (lo hi : UInt8) : List UInt8 → Bool
  | b :: _ => lo ≤ b && b ≤ hi
  | [] => false

-- The least and greatest second byte behind a first byte that starts a sequence of three or four:
-- they leave out longer spellings, surrogates and numbers past the last character.
def secondBounds (b : UInt8) : UInt8 × UInt8 :=
  if b == 0xe0 then (0xa0, 0xbf)
  else if b == 0xed then (0x80, 0x9f)
  else if b == 0xf0 then (0x90, 0xbf)
  else if b == 0xf4 then (0x80, 0x8f)
  else (0x80, 0xbf)

def lowBits (bs : List UInt8) (i : Nat) : Nat :=
  (bs.getD i 0).toNat % 64

-- Read the sequence that starts with `b`: its character, or none if it is broken, and how many of
-- the following bytes belong to it.
def readSequence (b : UInt8) (bs : List UInt8) : Option Char × Nat :=
  if b < 0x80 then (some (Char.ofNat b.toNat), 0)
  else if b < 0xc2 || 0xf4 < b then (none, 0)
  else if b < 0xe0 then
    if continues 0x80 0xbf bs then (some (Char.ofNat (b.toNat % 32 * 64 + lowBits bs 0)), 1)
    else (none, 0)
  else
    let (lo, hi) := secondBounds b
    if !continues lo hi bs then (none, 0)
    else if !continues 0x80 0xbf (bs.drop 1) then (none, 1)
    else if b < 0xf0 then
      (some (Char.ofNat ((b.toNat % 16 * 64 + lowBits bs 0) * 64 + lowBits bs 1)), 2)
    else if !continues 0x80 0xbf (bs.drop 2) then (none, 2)
    else
      (some (Char.ofNat (((b.toNat % 8 * 64 + lowBits bs 0) * 64 + lowBits bs 1) * 64
        + lowBits bs 2)), 3)

def decodeFrom : Nat → List UInt8 → List (Option Char)
  | _, [] => []
  | n + 1, _ :: bs => decodeFrom n bs
  | 0, b :: bs =>
    let (c, n) := readSequence b bs
    c :: decodeFrom n bs

def decodeLossy (bs : List UInt8) : List Char :=
  (decodeFrom 0 bs).map (·.getD replacement)

def decodeStrict? (bs : List UInt8) : Option (List Char) :=
  (decodeFrom 0 bs).mapM id

end GodotAtlas.Text
