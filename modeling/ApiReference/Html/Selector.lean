import ApiReference.Error
import ApiReference.Html.Node
import ApiReference.Text.Quoted

/-!
Selectors: a tag name, and after it any number of `#id`, `.class`, `[attribute]` and
`[attribute=value]`. A selector is read from its end. Of several conditions on one attribute the
leftmost counts; a condition without a value holds of every element.
-/

namespace ApiReference.Html

inductive AttributeTest where
  | equals (value : String)
  | any
  deriving DecidableEq, Inhabited

structure Selector where
  source : String
  tag : Option String
  /-- Last first. -/
  classes : List String
  /-- By name, each name once. -/
  attributes : List (String × AttributeTest)
  deriving DecidableEq, Inhabited

inductive SelectorFault where
  | unmatchedBracket (source : String)
  | emptyAttribute (source : String)
  | openBracket (source : String)
  | emptyName (mark : Char) (source : String)
  deriving DecidableEq

def SelectorFault.message : SelectorFault → String
  | .unmatchedBracket source => "unmatched ']' in selector \"" ++ source ++ "\""
  | .emptyAttribute source => "empty attribute name in selector \"" ++ source ++ "\""
  | .openBracket source => "unterminated '[' in selector \"" ++ source ++ "\""
  | .emptyName mark source =>
    "empty name after '" ++ mark.toString ++ "' in selector \"" ++ source ++ "\""

def SelectorFault.toError (f : SelectorFault) : Error := .selector f.message

namespace Selector

/-- A text cut at its last character that satisfies `p`: what is before, the character, and what
is after. -/
def splitLast? (p : Char → Bool) (cs : List Char) : Option (List Char × Char × List Char) :=
  let after := cs.reverse.takeWhile fun c => !p c
  match cs.reverse.drop after.length with
  | [] => none
  | c :: before => some (before.reverse, c, after.reverse)

theorem length_lt_of_splitLast? {p : Char → Bool} {cs before after : List Char} {c : Char}
    (h : splitLast? p cs = some (before, c, after)) : before.length < cs.length := by
  unfold splitLast? at h
  dsimp only at h
  split at h
  · cases h
  · rename_i d front hd
    injection h with h
    injection h with h₁ h₂
    subst h₁
    have := congrArg List.length hd
    simp only [List.length_drop, List.length_reverse, List.length_cons] at this
    rw [List.length_reverse]
    omega

/-- A value without white space around it and without one pair of quotes around it. -/
def unquote (cs : List Char) : List Char :=
  let value := Text.trim cs
  let inside (q : Char) : Option (List Char) :=
    match value with
    | c :: rest => if c == q && rest.getLast? == some q then some rest.dropLast else none
    | [] => none
  (inside '"').getD ((inside '\'').getD value)

/-- Conditions on attributes with one more, which counts instead of any on the same name. -/
def setTest (name : String) (test : AttributeTest) :
    List (String × AttributeTest) → List (String × AttributeTest)
  | [] => [(name, test)]
  | (n, t) :: rest =>
    if name == n then (name, test) :: rest
    else if name < n then (name, test) :: (n, t) :: rest
    else (n, t) :: setTest name test rest

/-- The name and the condition that stand between square brackets. -/
def readTest (cs : List Char) : List Char × AttributeTest :=
  let name := cs.takeWhile (· != '=')
  match cs.drop name.length with
  | [] => (Text.trim name, .any)
  | _ :: value => (Text.trim name, .equals (String.ofList (unquote value)))

/-- The last part of a selector's text, if it ends in one, with the text before it. -/
inductive LastPart where
  | attribute (before name : List Char) (test : AttributeTest)
  | named (before : List Char) (mark : Char) (name : List Char)
  | none

def lastPart (source : String) (cs : List Char) : Except SelectorFault LastPart :=
  if cs.getLast? == some ']' then
    match splitLast? (· == '[') cs with
    | .none => .error (.unmatchedBracket source)
    | some (before, _, inside) =>
      let (name, test) := readTest inside.dropLast
      if name.isEmpty then .error (.emptyAttribute source)
      else .ok (.attribute before name test)
  else
    match splitLast? (fun c => c == '#' || c == '.' || c == '[') cs with
    | .none => .ok .none
    | some (before, mark, name) =>
      if mark == '[' then .error (.openBracket source)
      else if name.isEmpty then .error (.emptyName mark source)
      else .ok (.named before mark name)

theorem length_lt_of_lastPart_attribute {source : String} {cs before name : List Char}
    {test : AttributeTest} (h : lastPart source cs = .ok (.attribute before name test)) :
    before.length < cs.length := by
  unfold lastPart at h
  split at h
  · split at h
    · cases h
    · rename_i hs
      dsimp only at h
      split at h
      · cases h
      · injection h with h
        injection h with h₁
        subst h₁
        exact length_lt_of_splitLast? hs
  · split at h
    · injection h with h
      cases h
    · split at h
      · cases h
      · split at h
        · cases h
        · injection h with h
          cases h

theorem length_lt_of_lastPart_named {source : String} {cs before name : List Char} {mark : Char}
    (h : lastPart source cs = .ok (.named before mark name)) : before.length < cs.length := by
  unfold lastPart at h
  split at h
  · split at h
    · cases h
    · dsimp only at h
      split at h
      · cases h
      · injection h with h
        cases h
  · split at h
    · injection h with h
      cases h
    · rename_i hs
      split at h
      · cases h
      · split at h
        · cases h
        · injection h with h
          injection h with h₁
          subst h₁
          exact length_lt_of_splitLast? hs

/-- Reads the parts of a selector from the end of its text on. `sofar` holds the parts read. -/
def parseParts (sofar : Selector) (cs : List Char) : Except SelectorFault Selector :=
  match _h : lastPart sofar.source cs with
  | .error fault => .error fault
  | .ok .none =>
    .ok { sofar with tag := if cs.isEmpty then none else some (Text.asciiLower (String.ofList cs)) }
  | .ok (.attribute before name test) =>
    let key := Text.asciiLower (String.ofList name)
    -- Parts further left are set later and so count.
    parseParts { sofar with attributes := setTest key test sofar.attributes } before
  | .ok (.named before mark name) =>
    let name := String.ofList name
    if mark == '#' then
      parseParts { sofar with attributes := setTest "id" (.equals name) sofar.attributes } before
    else parseParts { sofar with classes := sofar.classes ++ [name] } before
termination_by cs.length
decreasing_by
  · exact length_lt_of_lastPart_attribute _h
  · exact length_lt_of_lastPart_named _h
  · exact length_lt_of_lastPart_named _h

def parse (source : String) : Except SelectorFault Selector :=
  parseParts ⟨source, none, [], []⟩ (Text.trim source.toList)

def parseChain (first : String) (nested : List String) : Except SelectorFault (List Selector) :=
  (first :: nested).mapM parse

def ofTag (name : String) : Selector := ⟨name, some name, [], []⟩

def matchesClasses (s : Selector) (e : Element) : Bool :=
  s.classes.isEmpty ||
    match e.attribute? "class" with
    | none => false
    | some value =>
      let present := (Text.words value.toList).map String.ofList
      s.classes.all fun c => present.contains c

def passes (e : Element) (name : String) : AttributeTest → Bool
  | .any => true
  | .equals value => e.attribute? name == some value

def matchesElement (s : Selector) (e : Element) : Bool :=
  (s.tag.all fun t => Text.equalIgnoringCase e.name t) && s.matchesClasses e &&
    s.attributes.all fun (name, test) => passes e name test

/-- Whether a selector matches a node. Only elements are ever matched. -/
def matchesNode (s : Selector) (n : Node) : Bool :=
  match n.label with
  | .element e => s.matchesElement e
  | _ => false

def describe (s : Selector) : String :=
  let tag := match s.tag with
    | none => "None"
    | some t => "Some(" ++ Text.quoted t ++ ")"
  let classes := ", ".intercalate (s.classes.map Text.quoted)
  let test : AttributeTest → String
    | .any => "Any"
    | .equals v => "Equals(" ++ Text.quoted v ++ ")"
  let attributes := ", ".intercalate (s.attributes.map fun (n, t) => Text.quoted n ++ ": " ++ test t)
  "Selector \x7b source: " ++ Text.quoted s.source ++ ", tag: " ++ tag ++ ", classes: [" ++
    classes ++ "], attributes: \x7b" ++ attributes ++ "\x7d \x7d"

end Selector

end ApiReference.Html
