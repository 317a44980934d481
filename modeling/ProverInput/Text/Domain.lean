import ProverInput.Text.Domain.Label
import ProverInput.Text.Domain.Mapping
import ProverInput.Text.Punycode

set_option autoImplicit false

/-! # Domain names

A domain name is labels with points between them. `labels?` spells a name out: every character
becomes what it stands for, the text is composed, and each label must be ASCII or fit. A label that
starts with `xn--` is Punycode for one that is fit and is not ASCII, and it must be spelled out
already.
-/

namespace ProverInput.Domain

def isAscii (text : List Char) : Bool := text.all fun c => c.toNat < 0x80

/-- Whether a text is what its characters stand for, in composed form. -/
def isSpelledOut (text : List Char) : Bool :=
  spelled? text = some text && Composed.compose text = text

/-- The text behind the mark of Punycode. -/
def code? : List Char → Option (List Char)
  | 'x' :: 'n' :: '-' :: '-' :: code => some code
  | _ => none

/-- Whether Punycode stands for a label that needs it. -/
def isCode (text : List Char) : Bool :=
  (code? text).isNone && (Punycode.decode text).any fun label =>
    !isAscii label && isSpelledOut label && isLabel label

/-- Whether a label that is spelled out is ASCII or fit. -/
def isFit (label : List Char) : Bool :=
  match code? label with
  | some code => isCode code
  | none => isAscii label || isLabel label

/-- The labels of a domain name. -/
def labels? (name : List Char) : Option (List (List Char)) :=
  (spelled? name).bind fun text =>
    let labels := (Composed.compose text).splitOn '.'
    if labels.all isFit then some labels else none

end ProverInput.Domain
