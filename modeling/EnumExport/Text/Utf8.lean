import EnumExport.Text.Quoted

namespace EnumExport

namespace Utf8

def tailByte (n : Nat) : UInt8 := UInt8.ofNat (0x80 + n % 0x40)

def encodeChar (c : Char) : List UInt8 :=
  let n := c.toNat
  if n < 0x80 then [UInt8.ofNat n]
  else if n < 0x800 then [UInt8.ofNat (0xC0 + n / 0x40), tailByte n]
  else if n < 0x10000 then [UInt8.ofNat (0xE0 + n / 0x1000), tailByte (n / 0x40), tailByte n]
  else
    [UInt8.ofNat (0xF0 + n / 0x40000), tailByte (n / 0x1000), tailByte (n / 0x40), tailByte n]

def encode (text : List Char) : List UInt8 := text.flatMap encodeChar

inductive Reason where
  | invalidStart
  | invalidContinuation
  | unexpectedEnd
deriving DecidableEq, Repr

structure DecodeError where
  position : Nat
  first : UInt8
  count : Nat
  reason : Reason
deriving DecidableEq, Repr

def isTail (b : UInt8) : Bool := 0x80 ≤ b.toNat && b.toNat < 0xC0

/-- Whether `b` can be the second byte after `a`. Longer forms than needed, surrogates and numbers
above the last code point are refused here. -/
def isSecond (a b : UInt8) : Bool :=
  isTail b &&
    if a.toNat = 0xE0 then 0xA0 ≤ b.toNat
    else if a.toNat = 0xED then b.toNat < 0xA0
    else if a.toNat = 0xF0 then 0x90 ≤ b.toNat
    else if a.toNat = 0xF4 then b.toNat < 0x90
    else true

def size? (a : UInt8) : Option Nat :=
  let n := a.toNat
  if n < 0x80 then some 1
  else if n < 0xC2 then none
  else if n < 0xE0 then some 2
  else if n < 0xF0 then some 3
  else if n < 0xF5 then some 4
  else none

def tailBits (b : UInt8) : Nat := b.toNat % 0x40

def next (a : UInt8) (rest : List UInt8) : Except (Nat × Reason) (Char × Nat) :=
  match size? a with
  | none => .error (1, .invalidStart)
  | some 1 => .ok (Char.ofNat a.toNat, 1)
  | some 2 =>
    match rest with
    | b :: _ =>
      if isSecond a b then .ok (Char.ofNat (a.toNat % 0x20 * 0x40 + tailBits b), 2)
      else .error (1, .invalidContinuation)
    | [] => .error (1, .unexpectedEnd)
  | some 3 =>
    match rest with
    | b :: rest =>
      if !isSecond a b then .error (1, .invalidContinuation)
      else match rest with
        | c :: _ =>
          if isTail c then
            .ok (Char.ofNat (a.toNat % 0x10 * 0x1000 + tailBits b * 0x40 + tailBits c), 3)
          else .error (2, .invalidContinuation)
        | [] => .error (2, .unexpectedEnd)
    | [] => .error (1, .unexpectedEnd)
  | some _ =>
    match rest with
    | b :: rest =>
      if !isSecond a b then .error (1, .invalidContinuation)
      else match rest with
        | c :: rest =>
          if !isTail c then .error (2, .invalidContinuation)
          else match rest with
            | d :: _ =>
              if isTail d then
                .ok (Char.ofNat (a.toNat % 8 * 0x40000 + tailBits b * 0x1000 + tailBits c * 0x40 +
                  tailBits d), 4)
              else .error (3, .invalidContinuation)
            | [] => .error (3, .unexpectedEnd)
        | [] => .error (2, .unexpectedEnd)
    | [] => .error (1, .unexpectedEnd)

def decodeFrom (position : Nat) : List UInt8 → Except DecodeError (List Char)
  | [] => .ok []
  | a :: rest =>
    match next a rest with
    | .error (count, reason) => .error ⟨position, a, count, reason⟩
    | .ok (c, size) => (decodeFrom (position + size) (rest.drop (size - 1))).map (c :: ·)
termination_by bytes => bytes.length
decreasing_by
  simp only [List.length_drop, List.length_cons]
  omega

def decode (bytes : List UInt8) : Except DecodeError (List Char) := decodeFrom 0 bytes

def Reason.text : Reason → List Char
  | invalidStart => "invalid start byte".toList
  | invalidContinuation => "invalid continuation byte".toList
  | unexpectedEnd => "unexpected end of data".toList

def DecodeError.message (error : DecodeError) : List Char :=
  "'utf-8' codec can't decode ".toList ++
    (if error.count = 1 then
      "byte 0x".toList ++ hexDigits 2 error.first.toNat ++ " in position ".toList ++
        Nat.toDigits 10 error.position
    else
      "bytes in position ".toList ++ Nat.toDigits 10 error.position ++ "-".toList ++
        Nat.toDigits 10 (error.position + error.count - 1)) ++
    ": ".toList ++ error.reason.text

end Utf8

def unifyLineEnds : List Char → List Char
  | '\r' :: '\n' :: text => '\n' :: unifyLineEnds text
  | '\r' :: text => '\n' :: unifyLineEnds text
  | c :: text => c :: unifyLineEnds text
  | [] => []

end EnumExport
