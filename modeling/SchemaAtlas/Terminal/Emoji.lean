import SchemaAtlas.Terminal.EmojiTable
import SchemaAtlas.Text.Blank
import SchemaAtlas.Text.Case
import SchemaAtlas.Text.Cursor
import SchemaAtlas.Text.Pieces

/-! # Emoji codes

A name between colons stands for an emoji. The name may ask for the emoji form or the text
form of the character. Names that the table does not have are left as they are.
-/
namespace SchemaAtlas.Terminal

def emojiEntries : List (List (List Char)) :=
  ((Text.pieces '\n' emojiTable.toList).flatMap (Text.pieces ' ')).map (Text.pieces ':')

def emoji? (name : List Char) : Option (List Char) :=
  emojiEntries.findSome? fun entry => match entry with
    | codes :: names =>
      if names.contains name then
        some ((Text.pieces '-' codes).map fun ds => Char.ofNat (Text.ofDigits 16 ds))
      else none
    | [] => none

/-- A code: its name, the selector of a form if it asks for one, and how many characters it
takes after the opening colon. -/
structure EmojiCode where
  name : List Char
  selector : List Char
  size : Nat

def emojiCode? (read : List Char) : List Char → Option EmojiCode
  | [] => none
  | c :: rest =>
    let s := c :: rest
    if c = ':' then some ⟨read.reverse, [], read.length + 1⟩
    else if "-emoji:".toList.isPrefixOf s then some ⟨read.reverse, ['\ufe0f'], read.length + 7⟩
    else if "-text:".toList.isPrefixOf s then some ⟨read.reverse, ['\ufe0e'], read.length + 6⟩
    else if Text.isBlank c then none
    else emojiCode? (c :: read) rest

/-- The rest of a text with emoji for codes, after some characters that are passed over. -/
def emojiFrom : (passed : Nat) → List Char → List Char
  | _, [] => []
  | passed + 1, _ :: rest => emojiFrom passed rest
  | 0, c :: rest =>
    if c ≠ ':' then c :: emojiFrom 0 rest
    else match emojiCode? [] rest with
      | none => c :: emojiFrom 0 rest
      | some code =>
        let shown := match emoji? (Text.lower code.name) with
          | some e => e ++ code.selector
          | none => c :: rest.take code.size
        shown ++ emojiFrom code.size rest

def withEmoji (s : List Char) : List Char :=
  emojiFrom 0 s

end SchemaAtlas.Terminal
