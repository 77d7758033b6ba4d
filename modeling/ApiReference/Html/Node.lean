import ApiReference.Text.Blank

/-!
HTML documents as trees. A node has a label, which says what kind of node it is, and children;
only documents, fragments and elements ever have any. A `template` element has one child, a
fragment that holds its contents.
-/

namespace ApiReference.Html

/-- The vocabulary that an element's name is taken from. -/
inductive Space where
  | html
  | svg
  | mathml
  deriving DecidableEq, Inhabited

/-- The vocabulary that an attribute's name is taken from: for nearly all, none. -/
inductive AttributeSpace where
  | plain
  | declaration
  | link
  | general
  | prefixed
  deriving DecidableEq, Inhabited

def AttributeSpace.rank : AttributeSpace → Nat
  | .plain => 0
  | .declaration => 1
  | .link => 2
  | .general => 3
  | .prefixed => 4

/-- What is written before the names of a vocabulary. -/
def AttributeSpace.mark : AttributeSpace → String
  | .plain | .declaration => ""
  | .link => "xlink:"
  | .general => "xml:"
  | .prefixed => "xmlns:"

structure Attribute where
  space : AttributeSpace
  name : String
  value : String
  deriving DecidableEq, Inhabited

def Attribute.sameName (a b : Attribute) : Bool := a.space == b.space && a.name == b.name

def Attribute.before (a b : Attribute) : Bool :=
  a.space.rank < b.space.rank || (a.space.rank == b.space.rank && a.name < b.name)

/-- Attributes with one more in its place, unless its name is there already. -/
def Attribute.insertMissing (a : Attribute) : List Attribute → List Attribute
  | [] => [a]
  | b :: rest =>
    if a.sameName b then b :: rest
    else if a.before b then a :: b :: rest
    else b :: a.insertMissing rest

/-- Attributes with those of a list that they lack, each in its place. -/
def Attribute.merge (present new : List Attribute) : List Attribute :=
  new.foldl (fun attributes a => a.insertMissing attributes) present

/-- What an element is apart from its children. Attributes are ordered by name. -/
structure Element where
  space : Space
  name : String
  attributes : List Attribute
  deriving DecidableEq, Inhabited

/-- The value of the first attribute with a name, in any ASCII letter case. -/
def Element.attribute? (e : Element) (name : String) : Option String :=
  (e.attributes.find? fun a => Text.equalIgnoringCase a.name name).map Attribute.value

/-- What kind of node a node is. -/
inductive Label where
  | document
  | fragment
  | doctype (name : String)
  | comment (text : String)
  | text (content : String)
  | element (head : Element)
  deriving DecidableEq, Inhabited

/-- A node with everything below it. -/
inductive Node where
  | mk (label : Label) (children : List Node)
  deriving Inhabited

mutual

def Node.decEq : (a b : Node) → Decidable (a = b)
  | .mk k as, .mk l bs =>
    if h : k = l then
      match Node.decEqAll as bs with
      | isTrue hs => isTrue (h ▸ hs ▸ rfl)
      | isFalse hs => isFalse (fun e => hs (by injection e))
    else isFalse (fun e => h (by injection e))

def Node.decEqAll : (as bs : List Node) → Decidable (as = bs)
  | [], [] => isTrue rfl
  | [], _ :: _ => isFalse (fun e => by injection e)
  | _ :: _, [] => isFalse (fun e => by injection e)
  | a :: as, b :: bs =>
    match Node.decEq a b, Node.decEqAll as bs with
    | isTrue h, isTrue hs => isTrue (h ▸ hs ▸ rfl)
    | isFalse h, _ => isFalse (fun e => h (by injection e))
    | _, isFalse hs => isFalse (fun e => hs (by injection e))

end

instance : DecidableEq Node := Node.decEq

namespace Node

def label : Node → Label
  | mk l _ => l

def children : Node → List Node
  | mk _ cs => cs

def element? (n : Node) : Option Element :=
  match n.label with
  | .element e => some e
  | _ => none

def text? (n : Node) : Option String :=
  match n.label with
  | .text t => some t
  | _ => none

def isElement (n : Node) : Bool := n.element?.isSome

/-- The name of an element; empty for other nodes. -/
def name (n : Node) : String := (n.element?.map Element.name).getD ""

def attribute? (n : Node) (name : String) : Option String :=
  n.element?.bind fun e => e.attribute? name

/-- The text of nodes and of everything below them, in document order. Comments and doctypes
have none. -/
def textOf : List Node → String
  | [] => ""
  | mk (.text t) _ :: rest => t ++ textOf rest
  | mk (.element _) cs :: rest | mk .document cs :: rest | mk .fragment cs :: rest =>
    textOf cs ++ textOf rest
  | mk (.comment _) _ :: rest | mk (.doctype _) _ :: rest => textOf rest

def innerText (n : Node) : String := textOf n.children

end Node

end ApiReference.Html
