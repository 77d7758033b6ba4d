import ApiReference.Text.Blank
import ApiReference.Url.Domain.Label
import ApiReference.Url.Domain.Spelling
import ApiReference.Url.Punycode

/-!
Names of domains: labels between dots. A label with characters outside ASCII is written in
Punycode after xn--, and a label that starts so stands for what its Punycode stands for.
-/

namespace ApiReference.Url.Domain

open ApiReference.Text

def isForbidden (c : Char) : Bool :=
  c.toNat ≤ 0x20 || c == '\x7f' || "%#/:<>?@[\\]^|".contains c

def codedMark : List Char := "xn--".toList

/-- The most characters of a label that are coded. -/
def encodeLimit : Nat := 1000

def decodeLimit : Nat := 2000

def isSpelled (c : Char) : Bool := spelling? c == some [c]

/-- A label as ASCII characters, and the text that it stands for. -/
def readLabel? (label : List Char) : Option (List Char × List Char) :=
  if codedMark.isPrefixOf label then do
    let coded := label.drop codedMark.length
    if coded.length > decodeLimit then none
    let meant ← Punycode.decode? coded
    if meant.all (·.toNat < 0x80) || !meant.all isSpelled || composed meant != meant ||
        codedMark.isPrefixOf meant || !isLabel meant then none
    return (label, meant)
  else if label.all (·.toNat < 0x80) then some (label, label)
  else if isLabel label && label.length ≤ encodeLimit then
    some (codedMark ++ Punycode.encode label, label)
  else none

def ofText? (text : String) : Option String := do
  let spelled := composed (← text.toList.mapM spelling?).flatten
  if spelled.any isForbidden then none
  let labels ← (split (· == '.') spelled).mapM readLabel?
  let meant := labels.map (·.2)
  if meant.any turnsAround && !meant.all isDirected then none
  return String.ofList (['.'].intercalate (labels.map (·.1)))

end ApiReference.Url.Domain
