import ApiReference.Url.Host

/-!
Addresses of web pages: `WebAddress.ofText` reads one and `WebAddress.text` writes it in its usual
form. Texts of other schemes are read as far as something can be wrong with them.
-/

namespace ApiReference

namespace Url

/-- Whether a scheme has addresses as the web has them. -/
def isWebLike (scheme : String) : Bool := ["http", "https", "ws", "wss", "ftp"].contains scheme

/-- A scheme and what comes after its colon. The scheme is given in small letters. -/
def scheme? (cs : List Char) : Option (String × List Char) :=
  match cs with
  | c :: _ =>
    let isPart (c : Char) : Bool := c.isAlphanum || "+-.".contains c
    match cs.dropWhile isPart with
    | ':' :: rest =>
      if c.isAlpha then some ((String.ofList (cs.takeWhile isPart)).toLower, rest) else none
    | _ => none
  | [] => none

def endsAuthority (web : Bool) (c : Char) : Bool := "/?#".contains c || (web && c == '\\')

def atLast? (c : Char) (cs : List Char) : Option (List Char × List Char) :=
  match cs.reverse.dropWhile (· != c) with
  | [] => none
  | _ :: before => some (before.reverse, cs.drop (before.length + 1))

/-- A text up to the first colon outside brackets, and the text from there on. -/
def atColon (inside : Bool) : List Char → List Char × List Char
  | [] => ([], [])
  | c :: cs =>
    if c == ':' && !inside then ([], c :: cs)
    else
      let (before, after) := atColon (c == '[' || (inside && c != ']')) cs
      (c :: before, after)

structure Authority where
  user : String
  password : String
  host : Host
  service : Option Nat
  deriving DecidableEq, Inhabited

def readUser (cs : List Char) : String × String :=
  (String.ofList (percentEncode codedInUser (cs.takeWhile (· != ':'))),
    String.ofList (percentEncode codedInUser ((cs.dropWhile (· != ':')).drop 1)))

/-- Reads the number of a service after a colon. There may be nothing. -/
def readService (cs : List Char) : Except UrlFault (Option Nat) :=
  let ds := cs.takeWhile Char.isDigit
  match (cs.dropWhile Char.isDigit).head? with
  | some c => if c == '\\' then finish ds else .error .service
  | none => finish ds
where
  finish (ds : List Char) : Except UrlFault (Option Nat) :=
    match Ipv4.digits? 10 ds with
    | some n => if n < 65536 then .ok (if ds.isEmpty then none else some n) else .error .service
    | none => .error .service

def readHost (web : Bool) (cs : List Char) : Except UrlFault (Host × Option Nat) := do
  let (name, rest) := atColon false cs
  if name.isEmpty && (web || !rest.isEmpty) then throw .emptyHost
  let host ← if web then Host.ofText name else Host.ofTextOutside name
  match rest with
  | [] => return (host, none)
  | _ :: digits => return (host, ← readService digits)

/-- Reads who asks, whom, and for which service. `more` tells whether anything comes after that. -/
def Authority.ofText (web more : Bool) (cs : List Char) : Except UrlFault Authority := do
  match atLast? '@' cs with
  | none =>
    let (host, service) ← readHost web cs
    return ⟨"", "", host, service⟩
  | some (who, whom) =>
    if who.isEmpty && whom.isEmpty && more then throw .emptyHost
    let (user, password) := readUser who
    let (host, service) ← readHost web whom
    if host == .domain "" && !(user.isEmpty && password.isEmpty) then throw .emptyHost
    return ⟨user, password, host, service⟩

/-- Whether a part of a path leads to the directory itself. -/
def isStill (cs : List Char) : Bool := [".", "%2e"].contains (String.ofList cs).toLower

/-- Whether a part of a path leads to the directory around. -/
def isUp (cs : List Char) : Bool :=
  ["..", "%2e.", ".%2e", "%2e%2e"].contains (String.ofList cs).toLower

def isDrive (cs : List Char) : Bool :=
  match cs with
  | [c, d] => c.isAlpha && (d == ':' || d == '|')
  | _ => false

/-- The parts of a path without the last, unless that is a drive. -/
def dropPart (done : List (List Char)) : List (List Char) :=
  if done.getLast?.any isDrive then done else done.dropLast

/-- Follows the parts of a path, where `done` are those that came before. -/
def followParts (done : List (List Char)) : List (List Char) → List (List Char)
  | [] => done
  | [last] =>
    if isUp last then dropPart done ++ [[]]
    else if isStill last then done ++ [[]]
    else done ++ [last]
  | part :: rest =>
    if isUp part then followParts (dropPart done) rest
    else if isStill part then followParts done rest
    else followParts (done ++ [part]) rest

def readPath (cs : List Char) : List String :=
  let isSlash (c : Char) : Bool := c == '/' || c == '\\'
  let inner := if cs.head?.any isSlash then cs.drop 1 else cs
  (followParts [] ((Text.split isSlash inner).map (percentEncode codedInPath))).map String.ofList

end Url

structure WebAddress where
  isSecure : Bool
  authority : Url.Authority
  /-- The parts of the path, at least one. -/
  path : List String
  query : Option String
  fragment : Option String
  deriving DecidableEq, Inhabited

namespace WebAddress

open Url

def scheme (a : WebAddress) : String := if a.isSecure then "https" else "http"

def usualService (a : WebAddress) : Nat := if a.isSecure then 443 else 80

def userText (a : Authority) : String :=
  if a.user.isEmpty && a.password.isEmpty then ""
  else a.user ++ (if a.password.isEmpty then "" else ":" ++ a.password) ++ "@"

/-- The number of the service as a text, if it is not the usual one. -/
def serviceText (a : WebAddress) : String :=
  match a.authority.service with
  | some n => if n == a.usualService then "" else s!":{n}"
  | none => ""

def text (a : WebAddress) : String :=
  a.scheme ++ "://" ++ userText a.authority ++ a.authority.host.text ++ a.serviceText ++
    String.join (a.path.map ("/" ++ ·)) ++
    (match a.query with
      | some q => "?" ++ q
      | none => "") ++
    (match a.fragment with
      | some f => "#" ++ f
      | none => "")

def afterFirst? (c : Char) (cs : List Char) : Option (List Char) :=
  match cs.dropWhile (· != c) with
  | [] => none
  | _ :: rest => some rest

def ofRest (isSecure : Bool) (cs : List Char) : Except UrlFault WebAddress := do
  let inner := cs.dropWhile fun c => c == '/' || c == '\\'
  let whom := inner.takeWhile fun c => !endsAuthority true c
  let rest := inner.drop whom.length
  let authority ← Authority.ofText true (!rest.isEmpty) whom
  let main := rest.takeWhile (· != '#')
  return ⟨isSecure, authority, readPath (main.takeWhile (· != '?')),
    (afterFirst? '?' main).map fun q => String.ofList (percentEncode codedInQuery q),
    (afterFirst? '#' rest).map fun f => String.ofList (percentEncode codedInFragment f)⟩

/-- Checks what comes after a scheme that is none of the web's. -/
def checkRest (scheme : String) (cs : List Char) : Except UrlFault Unit := do
  let web := isWebLike scheme
  let isSlash (c : Char) : Bool := c == '/' || c == '\\'
  if scheme == "file" then
    if (cs.take 2).length == 2 && (cs.take 2).all isSlash then
      let name := (cs.drop 2).takeWhile fun c => !endsAuthority true c
      if name.isEmpty || isDrive name then return
      let _ ← Host.ofText name
  else if web || cs.take 2 == ['/', '/'] then
    let inner := if web then cs.dropWhile isSlash else cs.drop 2
    let whom := inner.takeWhile fun c => !endsAuthority web c
    let _ ← Authority.ofText web (whom.length < inner.length) whom

/-- A text without tabs and line breaks, and without blanks and controls around it. -/
def stripped (text : String) : List Char :=
  let isOuter (c : Char) : Bool := c.toNat ≤ 0x20
  let cs := ((text.toList.dropWhile isOuter).reverse.dropWhile isOuter).reverse
  cs.filter fun c => !"\t\n\r".contains c

def ofText (text : String) : Except UrlFault WebAddress := do
  match scheme? (stripped text) with
  | none => throw .noScheme
  | some ("http", rest) => ofRest false rest
  | some ("https", rest) => ofRest true rest
  | some (scheme, rest) =>
    checkRest scheme rest
    throw (.otherScheme scheme)

end WebAddress

end ApiReference
