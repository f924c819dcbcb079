import TenantConsole.Text.Composition
import TenantConsole.Text.Joining
import TenantConsole.Url.Folding
import TenantConsole.Url.Punycode

/-!
# Labels

A domain name is a row of labels between points. A label with characters beyond ASCII has a coded
form, in which it stands in a host name and may be given as well. Whether a label may stand in a
name depends on the characters it says: no mark comes first, invisible joiners stand only where they
change the shape of a word, and next to words written from right to left every label keeps to one
direction.
-/

namespace TenantConsole

/-- A label: what it says, and its form in a host name. -/
structure Label where
  text : List Char
  written : List Char
  deriving DecidableEq

namespace Label

open Text (Direction)

/-! ### Joiners -/

/-- The invisible character that parts two letters which otherwise link. -/
def nonJoiner : Char := '\u200c'

/-- Whether the nearest letters on both sides would link; `before` starts with the nearest. -/
def wouldLink (before after : List Char) : Bool :=
  (before.find? fun c => !Text.isTransparent c).any Text.linksForward
    && (after.find? fun c => !Text.isTransparent c).any Text.linksBackward

/-- Whether a joiner changes the shape of what it stands between. -/
def changesShape (joiner : Char) (before after : List Char) : Bool :=
  before.head?.any (fun c => Text.combiningClass c = Text.silencer)
    || joiner = nonJoiner && before ≠ [] && wouldLink before after

/-- Whether every joiner in the text after `before` changes a shape. -/
def joinersFit (before : List Char) : List Char → Bool
  | [] => true
  | c :: rest =>
    (!Text.isJoiner c || changesShape c before rest) && joinersFit (c :: before) rest

/-! ### Directions -/

/-- Whether a character makes the labels of a name keep to one direction each. -/
def isRightToLeft (c : Char) : Bool :=
  [Direction.rightToLeft, .arabicLetter, .arabicNumber].contains (Text.direction c)

/-- What may stand inside labels of either direction. -/
def anywhere : List Direction :=
  [.europeanNumber, .separator, .commonSeparator, .terminator, .neutral, .joiner, .nonspacing]

/-- Whether what follows the first character fits a label written from left to right; `rest` starts
with the last character. -/
def fitsLeftToRight (rest : List Direction) : Bool :=
  match rest with
  | [] => true
  | last :: inner =>
    [Direction.leftToRight, .europeanNumber].contains last
      && inner.all fun d => d = .leftToRight || anywhere.contains d

/-- Whether what follows the first character fits a label written from right to left, where digits
of only one kind may stand; `rest` starts with the last character. -/
def fitsRightToLeft (rest : List Direction) : Bool :=
  match rest with
  | [] => true
  | last :: inner =>
    let letters := [Direction.rightToLeft, .arabicLetter]
    (letters ++ [Direction.europeanNumber, .arabicNumber]).contains last
      && inner.all (fun d => (letters ++ .arabicNumber :: anywhere).contains d)
      && !(rest.contains .europeanNumber && rest.contains .arabicNumber)

/-- Whether a label keeps to the direction of its first character, a letter. Marks at the end go
with what they lie on. -/
def keepsDirection (text : List Char) : Bool :=
  match text.map Text.direction with
  | [] => true
  | first :: rest =>
    let rest := rest.reverse.dropWhile (· = .nonspacing)
    match first with
    | .leftToRight => fitsLeftToRight rest
    | .rightToLeft | .arabicLetter => fitsRightToLeft rest
    | _ => false

/-! ### Coded labels -/

/-- The characters that no domain name may hold. -/
def isForbidden (c : Char) : Bool :=
  c.toNat ≤ 32 || c.toNat = 127 || "#%/:<>?@[\\]^|".toList.contains c

/-- Whether a character may be said by a coded label: it stands for itself. -/
def isPlain (c : Char) : Bool := Domain.fold? c = some [c] && !isForbidden c

def isAscii (text : List Char) : Bool := text.all fun c => c.toNat < 128

/-- The lengths up to which labels are coded and read. -/
def longestPlain : Nat := 1000

def longestCoded : Nat := 2000

/-- What a coded label says, without the four characters that mark it as one. Only the coded form of
a text in normal form is read. -/
def decode? (coded : List Char) : Option (List Char) :=
  if coded ≠ [] ∧ coded.getLast? ≠ some '-' ∧ isAscii coded ∧ coded.length ≤ longestCoded then
    (Punycode.decode? coded).filter fun text => text.all isPlain && Text.normalize text = text
  else none

/-- A label whose characters stand for themselves. -/
def ofText? (text : List Char) : Option Label :=
  match text with
  | 'x' :: 'n' :: '-' :: '-' :: coded => (decode? coded).map fun said => ⟨said, text⟩
  | _ =>
    if isAscii text then some ⟨text, text⟩
    else if text.length ≤ longestPlain then
      some ⟨text, 'x' :: 'n' :: '-' :: '-' :: Punycode.encode text⟩
    else none

/-- Whether a label may stand in a name, whatever the other labels are. -/
def isSound (label : Label) : Bool :=
  !label.text.head?.any Text.isMark && joinersFit [] label.text

end Label

end TenantConsole
