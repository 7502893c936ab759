import CommandDocs.Text.Quoted
import CommandDocs.Text.Utf8
import CommandDocs.Text.Utf16

/-!
# Decoding documents

A document is UTF-16 when it opens with the mark of a byte order, and UTF-8 otherwise.
-/

namespace CommandDocs.Text

/-- Why bytes are no text in the encoding that they are read in. -/
inductive DecodeFault where
  | utf8 (fault : Utf8.Fault)
  | utf16 (order : Utf16.ByteOrder) (fault : Utf16.Fault)
  deriving DecidableEq, Repr

namespace DecodeFault

def utf8Words : Utf8.Reason → String
  | .invalidStart => "invalid start byte"
  | .invalidContinuation => "invalid continuation byte"
  | .unexpectedEnd => "unexpected end of data"

def utf16Words : Utf16.Reason → String
  | .truncated => "truncated data"
  | .unexpectedEnd => "unexpected end of data"
  | .illegalSurrogate => "illegal UTF-16 surrogate"
  | .illegalEncoding => "illegal encoding"

/-- The text of a refusal: one byte is shown, several are given by their positions. -/
def report (encoding : String) (position : Nat) (bytes : List UInt8) (words : String) : String :=
  let blamed := match bytes with
    | [b] =>
        "byte 0x" ++ String.ofList (Quoted.hex 2 b.toNat) ++ " in position " ++ toString position
    | _ =>
        "bytes in position " ++ toString position ++ "-" ++
          toString (position + bytes.length - 1)
  "'" ++ encoding ++ "' codec can't decode " ++ blamed ++ ": " ++ words

/-- The text of a refusal. -/
def message : DecodeFault → String
  | .utf8 f => report "utf-8" f.position f.bytes (utf8Words f.reason)
  | .utf16 .little f => report "utf-16-le" f.position f.bytes (utf16Words f.reason)
  | .utf16 .big f => report "utf-16-be" f.position f.bytes (utf16Words f.reason)

end DecodeFault

/-- Decodes UTF-8 text; a byte order mark counts as a character. -/
def decodeText (bytes : List UInt8) : Except DecodeFault String :=
  match Utf8.decode bytes with
  | .ok s => .ok (String.ofList s)
  | .error fault => .error (.utf8 fault)

def decodeMarked (bytes : List UInt8) : Except DecodeFault String :=
  decodeText (Utf8.dropMark bytes)

def decodeDocument (bytes : List UInt8) : Except DecodeFault String :=
  match Utf16.order? bytes with
  | none => decodeMarked bytes
  | some order =>
      match Utf16.decodeDocument order bytes with
      | .ok s => .ok (String.ofList s)
      | .error fault => .error (.utf16 order fault)

/-- The bytes of a text in UTF-8. -/
def encodeText (s : String) : List UInt8 :=
  Utf8.encode s.toList

end CommandDocs.Text
