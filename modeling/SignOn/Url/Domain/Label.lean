import SignOn.Url.Domain.Direction
import SignOn.Url.Domain.Joining
import SignOn.Url.Domain.Punycode

/-! # Labels of a domain name

A domain name is a row of labels. A label that starts with a mark of its own stands for a text with
characters outside ASCII. That text has to be the one way of writing the name, and where one label
of a name is written from right to left every label has to keep its look. -/

namespace SignOn.Url.Domain

/-- Is the text of an encoded label written as names are? It is composed of allowed characters, does
not start with a mark, and its joiners have a meaning. -/
def isWellWritten (text : List Char) : Bool :=
  text.all isAllowed && isComposed text && !text.head?.any isMark && joinersFit [] text

/-- The text that a label shows: its own, or the one it is the code of. No code ends in a hyphen,
has more than 2000 characters, or stands for more than 1000. -/
def shown? : List Char → Option (List Char)
  | 'x' :: 'n' :: '-' :: '-' :: code => do
    if code.isEmpty || code.getLast? = some '-' || 2000 < code.length then none
    let text ← Punycode.decode? code
    if isWellWritten text && text.length ≤ 1000 then some text else none
  | label => some label

/-- Are these the labels, in small letters, of a domain name? -/
def isName (labels : List (List Char)) : Bool :=
  match labels.mapM shown? with
  | none => false
  | some texts => !texts.any Direction.turns || texts.all Direction.isSettled

end SignOn.Url.Domain
