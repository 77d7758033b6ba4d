import ApiReference.Page.Fault

/-!
The type of an operation's result, found in its description. The usual phrases are tried in a
fixed order, each at its leftmost place in the text, and the first that occurs decides. A phrase
is a list of pieces; a piece that may match in several ways prefers the first of them that lets
the rest of the phrase match.
-/

namespace ApiReference.Page

inductive Piece where
  /-- One character of a class. -/
  | one (p : Char → Bool)
  /-- One character of a class, or none if that does not do. -/
  | atMostOne (p : Char → Bool)
  /-- One or more characters of a class, as few as will do. -/
  | fewest (p : Char → Bool)
  /-- One or more characters of a class, as many as will do. -/
  | most (p : Char → Bool)
  /-- Words that announce an array. -/
  | announce (words : List Piece)
  /-- The same, or nothing if that does not do. -/
  | perhapsAnnounce (words : List Piece)
  /-- The word that names the type. -/
  | word (letters : List Piece)
  /-- The end of the word that names the type. -/
  | wordEnd

/-- What a phrase found: whether an array is announced, and where the word for the type starts
and ends. -/
structure Found where
  array : Bool := false
  start : Nat := 0
  stop : Nat := 0
  deriving DecidableEq, Inhabited

mutual

/-- A bound on the steps that a piece takes without reading. -/
def Piece.size : Piece → Nat
  | .one _ | .atMostOne _ | .fewest _ | .most _ | .wordEnd => 1
  | .announce words | .perhapsAnnounce words => effort words + 1
  | .word letters => effort letters + 2

def effort : List Piece → Nat
  | [] => 0
  | p :: rest => p.size + effort rest

end

theorem effort_append (ps qs : List Piece) : effort (ps ++ qs) = effort ps + effort qs := by
  induction ps with
  | nil => simp [effort]
  | cons p ps ih => simp [effort, ih]; omega

/-- Matches pieces at the start of a text, which is `position` characters into the description,
and adds to what was found. -/
def matchAt (ps : List Piece) (position : Nat) (found : Found) (cs : List Char) : Option Found :=
  match ps with
  | [] => some found
  | .one p :: rest =>
    match cs with
    | c :: cs => if p c then matchAt rest (position + 1) found cs else none
    | [] => none
  | .atMostOne p :: rest =>
    match cs with
    | c :: later =>
      (if p c then matchAt rest (position + 1) found later else none).orElse
        fun _ => matchAt rest position found (c :: later)
    | [] => matchAt rest position found []
  | .fewest p :: rest =>
    match cs with
    | c :: cs =>
      if p c then
        (matchAt rest (position + 1) found cs).orElse
          fun _ => matchAt (.fewest p :: rest) (position + 1) found cs
      else none
    | [] => none
  | .most p :: rest =>
    match cs with
    | c :: cs =>
      if p c then
        (matchAt (.most p :: rest) (position + 1) found cs).orElse
          fun _ => matchAt rest (position + 1) found cs
      else none
    | [] => none
  | .announce words :: rest => matchAt (words ++ rest) position { found with array := true } cs
  | .perhapsAnnounce words :: rest =>
    (matchAt (words ++ rest) position { found with array := true } cs).orElse
      fun _ => matchAt rest position found cs
  | .word letters :: rest =>
    matchAt (letters ++ .wordEnd :: rest) position { found with start := position } cs
  | .wordEnd :: rest => matchAt rest position { found with stop := position } cs
termination_by (effort ps, cs.length)
decreasing_by
  all_goals simp only [effort, effort_append, Piece.size, List.length_cons, Prod.lex_def, true_and]
  all_goals omega

/-- The leftmost match of pieces in a text. -/
def search (ps : List Piece) (position : Nat) : List Char → Option Found
  | [] => matchAt ps position {} []
  | c :: cs => (matchAt ps position {} (c :: cs)).orElse fun _ => search ps (position + 1) cs

def exactly (text : String) : List Piece := text.toList.map fun c => .one (· == c)

def eitherCase (small : Char) : Piece := .one fun c => c == small || c == small.toUpper

def inLine (c : Char) : Bool := c != '\n'

def notCapital (c : Char) : Bool := !c.isUpper

def letterOrStar (c : Char) : Bool := c.isAlpha || c == '*'

/-- A word that starts with a capital, followed by at least one character of a class. -/
def capitalWord (p : Char → Bool) : Piece := .word [.one Char.isUpper, .most p]

/-- The word `array`, with or without stars around it, and `of`. -/
def starredArrayOf : List Piece :=
  let star : Piece := .atMostOne (· == '*')
  star :: eitherCase 'a' :: exactly "rray" ++ star :: exactly " of "

/-- `An array of …` with a capital word after it, and then `is returned`. -/
def arrayIsReturned : List Piece :=
  .announce (eitherCase 'a' :: exactly "n " ++ eitherCase 'a' :: exactly "rray of") ::
    .fewest inLine :: capitalWord Char.isAlpha :: .fewest inLine :: exactly "is returned"

/-- `Returns` and a single word, or an array of it, and then `on success`. -/
def returnsOnSuccess : List Piece :=
  eitherCase 'r' :: exactly "eturns " ++
    .perhapsAnnounce (eitherCase 'a' :: exactly "rray of ") ::
    .word [.most letterOrStar] :: exactly " on success"

/-- `On success, returns` with a capital word after it, or an array of it. -/
def onSuccessReturns : List Piece :=
  eitherCase 'o' :: exactly "n success, returns" ++
    .fewest notCapital :: .perhapsAnnounce starredArrayOf :: [capitalWord Char.isAlpha]

/-- `On success,` with a capital word after it, or an array of it, and then `is returned`. -/
def onSuccessIsReturned : List Piece :=
  eitherCase 'o' :: exactly "n success," ++
    .fewest notCapital :: .perhapsAnnounce starredArrayOf :: capitalWord letterOrStar ::
    .fewest inLine :: exactly "is returned"

def returnsCapital : List Piece :=
  eitherCase 'r' :: exactly "eturns" ++ [.fewest inLine, capitalWord Char.isAlpha]

/-- The phrases that name the type of a result, in the order in which they are tried. -/
def returnPhrases : List (List Piece) :=
  [arrayIsReturned, returnsOnSuccess, onSuccessReturns, onSuccessIsReturned, returnsCapital]

/-- Which phrase names the type of a result, and what it found. -/
structure ReturnMatch where
  phrase : Nat
  found : Found
  deriving DecidableEq

/-- The first of some phrases that occurs in a text, where `index` phrases were tried before. -/
def firstPhrase (index : Nat) (cs : List Char) : List (List Piece) → Option ReturnMatch
  | [] => none
  | phrase :: rest =>
    match search phrase 0 cs with
    | some found => some ⟨index, found⟩
    | none => firstPhrase (index + 1) cs rest

def returnMatch? (description : String) : Option ReturnMatch :=
  firstPhrase 0 description.toList returnPhrases

def Found.word (f : Found) (description : String) : List Char :=
  (description.toList.drop f.start).take (f.stop - f.start)

def returnType (description : String) : Except PageFault WireType :=
  match returnMatch? description with
  | none => .error (.noReturnType description)
  | some m => do
    let base ← (WireType.ofPageWord none (m.found.word description)).mapError .type
    return WireType.arrays (if m.found.array then 1 else 0) base

end ApiReference.Page
