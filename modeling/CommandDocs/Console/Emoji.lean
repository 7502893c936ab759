import CommandDocs.Console.EmojiNames
import CommandDocs.Text.Lower

/-!
# Emoji codes

A name between two colons, in capital or small letters, stands for an emoji. After the name a
variant can be asked for: the coloured form or the form as text. A code without a meaning is shown
as it is written, and its second colon opens no other code.
-/

namespace CommandDocs.Console.Emoji

/-- A text up to its first colon, with no blank before it. -/
def upToColon? : List Char → Option (List Char)
  | [] => none
  | c :: rest =>
      if c == ':' then some []
      else if Text.isBlank c then none
      else (upToColon? rest).map (c :: ·)

def variants : List (List Char × List Char) :=
  [("-emoji".toList, ['\uFE0F']), ("-text".toList, ['\uFE0E'])]

/-- A code without its variant, and the character that asks for that. -/
def splitVariant (code : List Char) : List Char × List Char :=
  match variants.find? fun (ending, _) => ending.isSuffixOf code with
  | some (ending, mark) => (code.take (code.length - ending.length), mark)
  | none => (code, [])

def ofCode? (code : List Char) : Option (List Char) :=
  let (name, mark) := splitVariant code
  (emojiNames.lookup (Text.lower name)).map (· ++ mark)

def shownCode (code : List Char) : List Char :=
  (ofCode? code).getD (':' :: code ++ [':'])

/-- A text with emoji in place of their codes. The first characters can be skipped, since they
belong to the code before them. -/
def replaceFrom : (skipped : Nat) → List Char → List Char
  | _, [] => []
  | skipped + 1, _ :: rest => replaceFrom skipped rest
  | 0, c :: rest =>
      match if c == ':' then upToColon? rest else none with
      | some code => shownCode code ++ replaceFrom (code.length + 1) rest
      | none => c :: replaceFrom 0 rest

def replace (s : List Char) : List Char :=
  replaceFrom 0 s

end CommandDocs.Console.Emoji
