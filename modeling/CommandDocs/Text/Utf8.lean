/-!
# UTF-8

The encoding is the strict one: shortest forms only, no surrogates, nothing above U+10FFFF.
A refusal names the offending bytes by position and gives the reason.
-/

namespace CommandDocs.Text.Utf8

abbrev Bytes := List UInt8

def encodeChar (c : Char) : Bytes :=
  let n := c.toNat
  if n < 0x80 then [n.toUInt8]
  else if n < 0x800 then [(0xC0 + n / 64).toUInt8, (0x80 + n % 64).toUInt8]
  else if n < 0x10000 then
    [(0xE0 + n / 4096).toUInt8, (0x80 + n / 64 % 64).toUInt8, (0x80 + n % 64).toUInt8]
  else
    [(0xF0 + n / 262144).toUInt8, (0x80 + n / 4096 % 64).toUInt8, (0x80 + n / 64 % 64).toUInt8,
      (0x80 + n % 64).toUInt8]

def encode (s : List Char) : Bytes :=
  s.flatMap encodeChar

/-- Why a byte sequence is no text. -/
inductive Reason where
  | invalidStart
  | invalidContinuation
  | unexpectedEnd
  deriving DecidableEq, Repr

/-- The first ill-formed part: the position of its first byte, the bytes, and the reason. -/
structure Fault where
  position : Nat
  bytes : Bytes
  reason : Reason
  deriving DecidableEq, Repr

/-- A continuation byte. -/
def isTail (b : UInt8) : Bool :=
  0x80 ≤ b && b ≤ 0xBF

/-- The bytes allowed after a given first byte; the first one excludes long forms, surrogates
and values that are too large. -/
def isSecond (first b : UInt8) : Bool :=
  if first == 0xE0 then 0xA0 ≤ b && b ≤ 0xBF
  else if first == 0xED then 0x80 ≤ b && b ≤ 0x9F
  else if first == 0xF0 then 0x90 ≤ b && b ≤ 0xBF
  else if first == 0xF4 then 0x80 ≤ b && b ≤ 0x8F
  else isTail b

/-- The number of bytes that a first byte announces after itself. -/
def tailCount? (first : UInt8) : Option Nat :=
  if first < 0x80 then some 0
  else if 0xC2 ≤ first && first ≤ 0xDF then some 1
  else if 0xE0 ≤ first && first ≤ 0xEF then some 2
  else if 0xF0 ≤ first && first ≤ 0xF4 then some 3
  else none

/-- The payload bits of a first byte. -/
def leadValue (first : UInt8) : Nat :=
  if first < 0x80 then first.toNat
  else if first < 0xE0 then first.toNat % 32
  else if first < 0xF0 then first.toNat % 16
  else first.toNat % 8

def addTail (value : Nat) (b : UInt8) : Nat :=
  value * 64 + b.toNat % 64

/-- One character and the bytes after it, or the reason and the bytes to blame. -/
def next (first : UInt8) (rest : Bytes) : Except (Bytes × Reason) (Char × Bytes) :=
  match tailCount? first, rest with
  | none, _ => .error ([first], .invalidStart)
  | some 0, _ => .ok (Char.ofNat (leadValue first), rest)
  | some _, [] => .error ([first], .unexpectedEnd)
  | some 1, b :: more =>
      if isTail b then .ok (Char.ofNat (addTail (leadValue first) b), more)
      else .error ([first], .invalidContinuation)
  | some 2, b :: more =>
      if !isSecond first b then .error ([first], .invalidContinuation)
      else match more with
        | [] => .error ([first, b], .unexpectedEnd)
        | c :: more =>
            if isTail c then .ok (Char.ofNat (addTail (addTail (leadValue first) b) c), more)
            else .error ([first, b], .invalidContinuation)
  | some _, b :: more =>
      if !isSecond first b then .error ([first], .invalidContinuation)
      else match more with
        | [] => .error ([first, b], .unexpectedEnd)
        | c :: more =>
            if !isTail c then .error ([first, b], .invalidContinuation)
            else match more with
              | [] => .error ([first, b, c], .unexpectedEnd)
              | d :: more =>
                  if isTail d then
                    .ok (Char.ofNat (addTail (addTail (addTail (leadValue first) b) c) d), more)
                  else .error ([first, b, c], .invalidContinuation)

theorem next_shorter {first : UInt8} {rest : Bytes} {c : Char} {more : Bytes}
    (h : next first rest = .ok (c, more)) : more.length ≤ rest.length := by
  unfold next at h
  split at h
  · simp at h
  · simp only [Except.ok.injEq, Prod.mk.injEq] at h
    exact Nat.le_of_eq (congrArg List.length h.2.symm)
  · simp at h
  · split at h
    · simp only [Except.ok.injEq, Prod.mk.injEq] at h
      simp [← h.2]
    · simp at h
  · split at h
    · simp at h
    · split at h
      · simp at h
      · split at h
        · simp only [Except.ok.injEq, Prod.mk.injEq] at h
          simp only [← h.2, List.length_cons]
          omega
        · simp at h
  · split at h
    · simp at h
    · split at h
      · simp at h
      · split at h
        · simp at h
        · split at h
          · simp at h
          · split at h
            · simp only [Except.ok.injEq, Prod.mk.injEq] at h
              simp only [← h.2, List.length_cons]
              omega
            · simp at h

/-- Decodes a byte sequence whose first byte stands at `position`. -/
def decodeFrom (position : Nat) : Bytes → Except Fault (List Char)
  | [] => .ok []
  | first :: rest =>
      match h : next first rest with
      | .error (bytes, reason) => .error ⟨position, bytes, reason⟩
      | .ok (c, more) =>
          have := next_shorter h
          (decodeFrom (position + (encodeChar c).length) more).map (c :: ·)
termination_by bytes => bytes.length
decreasing_by simp; omega

def decode (bytes : Bytes) : Except Fault (List Char) :=
  decodeFrom 0 bytes

/-- The byte order mark that may open a document. -/
def mark : Bytes := [0xEF, 0xBB, 0xBF]

/-- A byte sequence without one leading byte order mark. -/
def dropMark : Bytes → Bytes
  | 0xEF :: 0xBB :: 0xBF :: rest => rest
  | bytes => bytes

/-- Decodes a document: one leading byte order mark is no part of the text, and positions
count from after it. -/
def decodeDocument (bytes : Bytes) : Except Fault (List Char) :=
  decode (dropMark bytes)

end CommandDocs.Text.Utf8
