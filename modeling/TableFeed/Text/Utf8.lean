/-!
# UTF-8 between bytes and text

`Utf8.encode` writes characters as bytes. Reading goes through `Utf8.chunks`, which cuts any byte
sequence into characters and malformed pieces: a malformed piece is the longest start of a
character that no byte after it can complete. `Utf8.decode` refuses the first malformed piece and
names it; `Utf8.decodeLossy` writes U+FFFD for each.
-/

namespace TableFeed.Utf8

/-- The bytes of a text. -/
def encode (cs : List Char) : List UInt8 :=
  cs.flatMap String.utf8EncodeChar

/-- The bytes of a string. -/
def bytes (s : String) : List UInt8 :=
  encode s.toList

/-- A byte that continues a character, `0x80` to `0xBF`. -/
def isTail (b : UInt8) : Bool :=
  0x80 ≤ b && b ≤ 0xBF

/-- The payload of a tail byte. -/
def tailBits (b : UInt8) : Nat :=
  b.toNat % 64

/-- The second byte that may follow the first byte `a` of a three-byte character: overlong forms
and surrogates have none. -/
def opensThree (a b : UInt8) : Bool :=
  if a == 0xE0 then 0xA0 ≤ b && b ≤ 0xBF
  else if a == 0xED then 0x80 ≤ b && b ≤ 0x9F
  else isTail b

/-- The second byte that may follow the first byte `a` of a four-byte character: overlong forms
and numbers above U+10FFFF have none. -/
def opensFour (a b : UInt8) : Bool :=
  if a == 0xF0 then 0x90 ≤ b && b ≤ 0xBF
  else if a == 0xF4 then 0x80 ≤ b && b ≤ 0x8F
  else isTail b

/-- A piece of a byte sequence read as UTF-8. -/
inductive Chunk where
  /-- A complete character. -/
  | char (c : Char)
  /-- `size` bytes that the byte after them rules out. -/
  | broken (size : Nat)
  /-- The sequence ends inside a character that is well formed so far. -/
  | cut
  deriving DecidableEq, Repr

/-- A byte sequence as characters and malformed pieces, in order. -/
def chunks : List UInt8 → List Chunk
  | [] => []
  | a :: rest =>
    if a < 0x80 then .char (Char.ofNat a.toNat) :: chunks rest
    else if 0xC2 ≤ a && a ≤ 0xDF then
      match rest with
      | [] => [.cut]
      | b :: rest' =>
        if isTail b then
          .char (Char.ofNat (a.toNat % 32 * 64 + tailBits b)) :: chunks rest'
        else .broken 1 :: chunks (b :: rest')
    else if 0xE0 ≤ a && a ≤ 0xEF then
      match rest with
      | [] => [.cut]
      | b :: rest' =>
        if opensThree a b then
          match rest' with
          | [] => [.cut]
          | c :: rest'' =>
            if isTail c then
              .char (Char.ofNat ((a.toNat % 16 * 64 + tailBits b) * 64 + tailBits c))
                :: chunks rest''
            else .broken 2 :: chunks (c :: rest'')
        else .broken 1 :: chunks (b :: rest')
    else if 0xF0 ≤ a && a ≤ 0xF4 then
      match rest with
      | [] => [.cut]
      | b :: rest' =>
        if opensFour a b then
          match rest' with
          | [] => [.cut]
          | c :: rest'' =>
            if isTail c then
              match rest'' with
              | [] => [.cut]
              | d :: rest''' =>
                if isTail d then
                  .char (Char.ofNat
                    (((a.toNat % 8 * 64 + tailBits b) * 64 + tailBits c) * 64 + tailBits d))
                    :: chunks rest'''
                else .broken 3 :: chunks (d :: rest''')
            else .broken 2 :: chunks (c :: rest'')
        else .broken 1 :: chunks (b :: rest')
    else .broken 1 :: chunks rest

/-- Why a byte sequence is no text, with the index of the first malformed byte. -/
inductive Malformed where
  | invalid (size index : Nat)
  | incomplete (index : Nat)
  deriving DecidableEq, Repr

/-- The message of a malformed byte sequence. -/
def Malformed.message : Malformed → String
  | .invalid size index => s!"invalid utf-8 sequence of {size} bytes from index {index}"
  | .incomplete index => s!"incomplete utf-8 byte sequence from index {index}"

/-- The characters of chunks that start at byte `index`, up to the first malformed one. -/
def ofChunks : List Chunk → Nat → Except Malformed (List Char)
  | [], _ => .ok []
  | .char c :: rest, index => (ofChunks rest (index + c.utf8Size)).map (c :: ·)
  | .broken size :: _, index => .error (.invalid size index)
  | .cut :: _, index => .error (.incomplete index)

/-- The text of a byte sequence, or its first malformed piece. -/
def decode (bs : List UInt8) : Except Malformed String :=
  (ofChunks (chunks bs) 0).map String.ofList

/-- The text of a byte sequence, when it is one. -/
def decode? (bs : List UInt8) : Option String :=
  (decode bs).toOption

/-- The text of a byte sequence with U+FFFD for each malformed piece. -/
def decodeLossy (bs : List UInt8) : String :=
  String.ofList <| (chunks bs).map fun
    | .char c => c
    | .broken _ | .cut => '\uFFFD'

end TableFeed.Utf8
