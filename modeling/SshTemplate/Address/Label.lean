import SshTemplate.Address.Label.Repertoire
import SshTemplate.Address.Label.Direction
import SshTemplate.Address.Label.Joining
import SshTemplate.Address.Punycode
import SshTemplate.Text.Blank

/-!
# `Address.Label` — the labels of a name

A name is a list of labels between dots. A label that begins with `xn--` shows other characters than
it is written with, and it is a label only if what it shows could have been written: characters of
the repertoire, in their composed form, not too many, and with no more said than is needed. What a
label shows is also what the rules on marks, joiners and directions are about.
-/

set_option autoImplicit false

namespace SshTemplate
namespace Address

open Text

/-- An encoded label that is longer is not decoded. -/
def encodedLimit : Nat := 2000

/-- Whether a label may show the character. Of ASCII all characters that a name may hold. -/
def isShowable (c : Char) : Bool := c.toNat < 0x80 || repertoire.contains c

def isMark (c : Char) : Bool := nonspacingMarks.contains c || spacingMarks.contains c

/-- Reads what a label shows from its form in ASCII, without the beginning that marks it as such a
    form. A form that ends in a hyphen would show what can be written without it. -/
def readEncoded? (form : List Char) : Option (List Char) :=
  if form.isEmpty || form.getLast? == some '-' || encodedLimit < form.length then none
  else
    match Punycode.decode? form with
    | some shown => if composed shown = shown then some shown else none
    | none => none

/-- What a label shows. -/
def readLabel? (label : List Char) : Option (List Char) :=
  let shown? :=
    match label with
    | 'x' :: 'n' :: '-' :: '-' :: form => readEncoded? form
    | _ => some label
  match shown? with
  | some shown =>
    if shown.all isShowable && !shown.head?.any isMark && joinersFit shown then some shown
    else none
  | none => none

/-- Whether a text in composed form is a name. -/
def isName (name : List Char) : Bool :=
  match (splitOn '.' name).mapM readLabel? with
  | some shown => directionsAgree shown
  | none => false

end Address
end SshTemplate
