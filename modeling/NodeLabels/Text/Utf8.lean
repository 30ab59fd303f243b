/-!
# UTF-8

Texts as bytes and back. `decode?` accepts exactly the well-formed sequences; `decodeWith` reads any
bytes, with a mark for each maximal ill-formed part, and `decodeLossy` takes U+FFFD for that.
-/

namespace NodeLabels.Text

def encodeChar (c : Char) : List UInt8 :=
  let n := c.toNat
  if n < 0x80 then [UInt8.ofNat n]
  else if n < 0x800 then [UInt8.ofNat (0xC0 + n / 64), UInt8.ofNat (0x80 + n % 64)]
  else if n < 0x10000 then
    [UInt8.ofNat (0xE0 + n / 4096), UInt8.ofNat (0x80 + n / 64 % 64), UInt8.ofNat (0x80 + n % 64)]
  else
    [UInt8.ofNat (0xF0 + n / 262144), UInt8.ofNat (0x80 + n / 4096 % 64),
      UInt8.ofNat (0x80 + n / 64 % 64), UInt8.ofNat (0x80 + n % 64)]

def encode (cs : List Char) : List UInt8 := cs.flatMap encodeChar

/-- What the bytes at the front of a text are. -/
inductive Lead
  /-- A character that takes `width` bytes. -/
  | char (c : Char) (width : Nat)
  /-- An ill-formed part of `width` bytes, the longest that a character could begin with. -/
  | broken (width : Nat)

def isTail (b : UInt8) : Bool := 0x80 ≤ b && b ≤ 0xBF

/-- The second bytes that can follow the lead byte `b`: over-long forms, surrogates and code points
past U+10FFFF are ruled out here. -/
def secondByteOk (b b₁ : UInt8) : Bool :=
  if b = 0xE0 then 0xA0 ≤ b₁ && b₁ ≤ 0xBF
  else if b = 0xED then 0x80 ≤ b₁ && b₁ ≤ 0x9F
  else if b = 0xF0 then 0x90 ≤ b₁ && b₁ ≤ 0xBF
  else if b = 0xF4 then 0x80 ≤ b₁ && b₁ ≤ 0x8F
  else isTail b₁

def lead (b : UInt8) (rest : List UInt8) : Lead :=
  if b < 0x80 then .char (Char.ofNat b.toNat) 1
  else if b < 0xC2 || 0xF4 < b then .broken 1
  else match rest with
    | [] => .broken 1
    | b₁ :: rest =>
      if ! secondByteOk b b₁ then .broken 1
      else if b < 0xE0 then
        .char (Char.ofNat ((b.toNat - 0xC0) * 64 + (b₁.toNat - 0x80))) 2
      else match rest with
        | [] => .broken 2
        | b₂ :: rest =>
          if ! isTail b₂ then .broken 2
          else if b < 0xF0 then
            .char (Char.ofNat ((b.toNat - 0xE0) * 4096 + (b₁.toNat - 0x80) * 64 +
              (b₂.toNat - 0x80))) 3
          else match rest with
            | [] => .broken 3
            | b₃ :: _ =>
              if ! isTail b₃ then .broken 3
              else .char (Char.ofNat ((b.toNat - 0xF0) * 262144 + (b₁.toNat - 0x80) * 4096 +
                (b₂.toNat - 0x80) * 64 + (b₃.toNat - 0x80))) 4

def decode? : List UInt8 → Option (List Char)
  | [] => some []
  | b :: rest =>
    match lead b rest with
    | .char c width => (decode? (rest.drop (width - 1))).map (c :: ·)
    | .broken _ => none
termination_by bytes => bytes.length
decreasing_by simp only [List.length_drop, List.length_cons]; omega

def decodeWith (mark : List Char) : List UInt8 → List Char
  | [] => []
  | b :: rest =>
    match lead b rest with
    | .char c width => c :: decodeWith mark (rest.drop (width - 1))
    | .broken width => mark ++ decodeWith mark (rest.drop (width - 1))
termination_by bytes => bytes.length
decreasing_by all_goals simp only [List.length_drop, List.length_cons]; omega

def decodeLossy (bytes : List UInt8) : List Char := decodeWith ['\ufffd'] bytes

end NodeLabels.Text
