import PipeAssist.Text.WordTable

/-!
# Texts of the definition language

A text is a list of characters, so that scanning it is recursion on the list. This module holds the
character classes of the language (blanks, word starts and word parts), the size of a text in UTF-8
bytes, cuts at a byte offset, and the trimming and comparison of texts.
-/

set_option autoImplicit false

namespace PipeAssist

/-- Text of the definition language: names, option ids, values and whole lines. -/
abbrev Text := List Char

namespace Text

/-- The `White_Space` characters. -/
def isBlank (c : Char) : Bool :=
  let n := c.toNat
  (0x9 ≤ n && n ≤ 0xD) || n = 0x20 || n = 0x85 || n = 0xA0 || n = 0x1680 ||
    (0x2000 ≤ n && n ≤ 0x200A) || n = 0x2028 || n = 0x2029 || n = 0x202F || n = 0x205F ||
    n = 0x3000

/-- Characters that begin a word: letters, numbers, `_` and `$`. -/
def isWordStart (c : Char) : Bool :=
  let n := c.toNat
  if n < 0x80 then
    (0x61 ≤ n && n ≤ 0x7A) || (0x41 ≤ n && n ≤ 0x5A) || (0x30 ≤ n && n ≤ 0x39) || n = 0x5F || n = 0x24
  else WordTable.isLetterOrNumber n

/-- Characters that continue a word: those that begin one, and `-`. -/
def isWordPart (c : Char) : Bool := isWordStart c || c = '-'

/-- Number of UTF-8 bytes of a text. -/
def byteSize : Text → Nat
  | [] => 0
  | c :: cs => c.utf8Size + byteSize cs

/-- The longest leading part of a text that fits into `n` bytes. -/
def takeBytes : Nat → Text → Text
  | _, [] => []
  | n, c :: cs => if c.utf8Size ≤ n then c :: takeBytes (n - c.utf8Size) cs else []

/-- The part of a text before byte `n`, if `n` falls between two characters. -/
def upToByte? (n : Nat) (text : Text) : Option Text :=
  let part := takeBytes n text
  if byteSize part = n then some part else none

/-- The text without its trailing blanks. -/
def trimEnd : Text → Text
  | [] => []
  | c :: cs =>
    match trimEnd cs with
    | [] => if isBlank c then [] else [c]
    | rest => c :: rest

/-- The text without its leading blanks. -/
def trimStart (text : Text) : Text := text.dropWhile isBlank

/-- The text without its leading and trailing blanks. -/
def trim (text : Text) : Text := trimEnd (trimStart text)

/-- Texts of blanks only, the empty text among them. -/
def isAllBlank (text : Text) : Bool := text.all isBlank

/-- Whether `text` begins with `part`. -/
def startsWith (text part : Text) : Bool := part.isPrefixOf text

/-- Whether the last character is a blank. -/
def endsInBlank (text : Text) : Bool := text.getLast?.any isBlank

/-- Length of the run of `c` at the end of the text. -/
def trailingRun (c : Char) (text : Text) : Nat := (text.reverse.takeWhile (· = c)).length

/-- Whether `a` comes strictly before `b` in the order by code points, which is also the order of
the UTF-8 bytes. -/
def precedes : Text → Text → Bool
  | _, [] => false
  | [], _ :: _ => true
  | c :: cs, d :: ds => c.toNat < d.toNat || (c = d && precedes cs ds)

/-- The parts of a text between its dots. -/
def segments : Text → List Text
  | [] => [[]]
  | c :: cs =>
    if c = '.' then [] :: segments cs
    else
      match segments cs with
      | [] => [[c]]
      | first :: rest => (c :: first) :: rest

/-- Whether a text is one word: a word start followed by word parts. -/
def isWord : Text → Bool
  | [] => false
  | c :: cs => isWordStart c && cs.all isWordPart

/-- Whether a text is words joined by single dots. -/
def isDottedWord (text : Text) : Bool := (segments text).all isWord

/-- The text as a string. -/
def str (text : Text) : String := String.ofList text

end Text

/-- The elements whose key occurs for the first time. -/
def distinctBy {α κ : Type} [DecidableEq κ] (key : α → κ) : List α → List α
  | [] => []
  | a :: rest => a :: (distinctBy key rest).filter fun b => key b ≠ key a

/-- The first `level` elements, or all of them at level zero. -/
def capped {α : Type} (level : Nat) (items : List α) : List α :=
  if level = 0 then items else items.take level

end PipeAssist
