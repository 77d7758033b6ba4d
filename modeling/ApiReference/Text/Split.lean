import ApiReference.Text.Blank

/-!
Texts cut at the occurrences of a separator, and texts put together with one.
-/

namespace ApiReference.Text

/-- The pieces of a text between the occurrences of `sep`, after `skip` characters that belong to
the occurrence found last. -/
def splitOnFrom (sep : List Char) : Nat → List Char → List (List Char)
  | _, [] => [[]]
  | skip + 1, _ :: cs => splitOnFrom sep skip cs
  | 0, c :: cs =>
    if sep.isPrefixOf (c :: cs) then [] :: splitOnFrom sep (sep.length - 1) cs
    else match splitOnFrom sep 0 cs with
      | [] => [[c]]
      | piece :: rest => (c :: piece) :: rest

/-- The pieces of a text between the occurrences of `sep`, each occurrence found leftmost and
after the end of the one before. -/
def splitOn (sep : List Char) (cs : List Char) : List (List Char) := splitOnFrom sep 0 cs

def dropSuffix? (suffix cs : List Char) : Option (List Char) :=
  if suffix.isSuffixOf cs then some (cs.take (cs.length - suffix.length)) else none

def dropPrefix? (start cs : List Char) : Option (List Char) :=
  if start.isPrefixOf cs then some (cs.drop start.length) else none

def occursIn (part : List Char) : List Char → Bool
  | [] => part.isEmpty
  | c :: cs => part.isPrefixOf (c :: cs) || occursIn part cs

end ApiReference.Text
