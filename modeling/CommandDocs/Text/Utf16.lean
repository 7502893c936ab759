/-!
# UTF-16

The byte order is known from the mark that opens the document. Positions in a refusal count
from the start of the document, the mark included.
-/

namespace CommandDocs.Text.Utf16

abbrev Bytes := List UInt8

inductive ByteOrder where
  | little
  | big
  deriving DecidableEq, Repr

def ByteOrder.mark : ByteOrder → Bytes
  | .little => [0xFF, 0xFE]
  | .big => [0xFE, 0xFF]

def ByteOrder.unit : ByteOrder → UInt8 → UInt8 → Nat
  | .little, a, b => a.toNat + 256 * b.toNat
  | .big, a, b => 256 * a.toNat + b.toNat

/-- The two bytes of a code unit. -/
def ByteOrder.bytes : ByteOrder → Nat → Bytes
  | .little, n => [(n % 256).toUInt8, (n / 256).toUInt8]
  | .big, n => [(n / 256).toUInt8, (n % 256).toUInt8]

def encodeChar (order : ByteOrder) (c : Char) : Bytes :=
  let n := c.toNat
  if n < 0x10000 then order.bytes n
  else order.bytes (0xD800 + (n - 0x10000) / 1024) ++ order.bytes (0xDC00 + (n - 0x10000) % 1024)

def encode (order : ByteOrder) (s : List Char) : Bytes :=
  s.flatMap (encodeChar order)

/-- Why a byte sequence is no text. -/
inductive Reason where
  | truncated
  | unexpectedEnd
  | illegalSurrogate
  | illegalEncoding
  deriving DecidableEq, Repr

/-- The first ill-formed part: the position of its first byte, the bytes, and the reason. -/
structure Fault where
  position : Nat
  bytes : Bytes
  reason : Reason
  deriving DecidableEq, Repr

/-- The first half of a pair of code units. -/
def isHigh (n : Nat) : Bool :=
  0xD800 ≤ n && n < 0xDC00

/-- The second half of a pair of code units. -/
def isLow (n : Nat) : Bool :=
  0xDC00 ≤ n && n < 0xE000

/-- Decodes a byte sequence whose first byte stands at `position`. -/
def decodeFrom (order : ByteOrder) (position : Nat) : Bytes → Except Fault (List Char)
  | [] => .ok []
  | [a] => .error ⟨position, [a], .truncated⟩
  | a :: b :: rest =>
      let n := order.unit a b
      if isHigh n then
        match rest with
        | c :: d :: more =>
            if isLow (order.unit c d) then
              (decodeFrom order (position + 4) more).map
                (Char.ofNat (0x10000 + (n - 0xD800) * 1024 + (order.unit c d - 0xDC00)) :: ·)
            else .error ⟨position, [a, b], .illegalSurrogate⟩
        | short => .error ⟨position, a :: b :: short, .unexpectedEnd⟩
      else if isLow n then .error ⟨position, [a, b], .illegalEncoding⟩
      else (decodeFrom order (position + 2) rest).map (Char.ofNat n :: ·)

/-- The byte order that the first two bytes announce. -/
def order? : Bytes → Option ByteOrder
  | 0xFF :: 0xFE :: _ => some .little
  | 0xFE :: 0xFF :: _ => some .big
  | _ => none

def decodeDocument (order : ByteOrder) (bytes : Bytes) : Except Fault (List Char) :=
  decodeFrom order 2 (bytes.drop 2)

end CommandDocs.Text.Utf16
