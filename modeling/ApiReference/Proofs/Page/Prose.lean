import ApiReference.Page.Prose
import ApiReference.Proofs.Html.Breaks

/-!
Prose against the text of the same nodes. Where nodes hold only text, comments and elements that
prose has marks for or passes through, their prose is their text with the marks added to the tree
(`proseOf_eq_textOf`), for line breaks never hold anything. So all the text is in the prose, in
its order (`prose_eq_marked`).
-/

namespace ApiReference.Page

open Html

/-- The elements that prose writes as their text with marks. -/
def proseNames : List String :=
  ["em", "i", "strong", "b", "code", "a", "p", "span", "ul", "ol", "li", "br"]

/-- Whether nodes, and all below them, are text, comments and elements of prose. -/
def IsProse : List Node → Prop
  | [] => True
  | .mk (.text _) _ :: rest | .mk (.comment _) _ :: rest => IsProse rest
  | .mk (.element e) cs :: rest => e.name ∈ proseNames ∧ IsProse cs ∧ IsProse rest
  | .mk .document _ :: _ | .mk .fragment _ :: _ | .mk (.doctype _) _ :: _ => False

/-! ## Marks as text -/

/-- A mark as a node. -/
def markNode (mark : String) : Node := .mk (.text mark) []

/-- The mark that comes first in an element. -/
def firstMark : String → List Node
  | "em" | "i" => [markNode "*"]
  | "strong" | "b" => [markNode "**"]
  | "code" => [markNode "\x60"]
  | "li" => [markNode "\n  - "]
  | "br" => [markNode "\n"]
  | _ => []

/-- The mark that comes last in an element. -/
def lastMark : String → List Node
  | "em" | "i" => [markNode "*"]
  | "strong" | "b" => [markNode "**"]
  | "code" => [markNode "\x60"]
  | _ => []

/-- Nodes with the marks of all elements among them and below them added as text. -/
def withMarks : List Node → List Node
  | [] => []
  | .mk (.element e) cs :: rest =>
    .mk (.element e) (firstMark e.name ++ withMarks cs ++ lastMark e.name) :: withMarks rest
  | .mk l cs :: rest => .mk l (withMarks cs) :: withMarks rest

/-- A node with the marks of all elements below it added as text. -/
def marked (n : Node) : Node := .mk n.label (withMarks n.children)

theorem textOf_append (a b : List Node) :
    Node.textOf (a ++ b) = Node.textOf a ++ Node.textOf b := by
  induction a using Node.textOf.induct with
  | case1 => simp [Node.textOf]
  | case2 t _ rest ih => simp only [List.cons_append, Node.textOf, ih, String.append_assoc]
  | case3 e cs rest _ ih | case4 cs rest _ ih | case5 cs rest _ ih =>
    simp only [List.cons_append, Node.textOf, ih, String.append_assoc]
  | case6 t _ rest ih | case7 name _ rest ih => simp only [List.cons_append, Node.textOf, ih]

/-- What the prose of an element of prose is: the text of its marks around the prose of what it
holds. -/
theorem proseOf_element {e : Element} (h : e.name ∈ proseNames) {cs : List Node}
    (empty : e.name = "br" → cs = []) (rest : List Node) :
    proseOf (.mk (.element e) cs :: rest) =
      Node.textOf (firstMark e.name) ++ proseOf cs ++ Node.textOf (lastMark e.name) ++
        proseOf rest := by
  simp only [proseNames, List.mem_cons, List.not_mem_nil, or_false] at h
  rcases h with h | h | h | h | h | h | h | h | h | h | h | h <;>
    simp [proseOf, proseMark?, transparentNames, firstMark, lastMark, markNode, Node.textOf, h]
  rw [empty h]
  simp [proseOf]

/-- The prose of nodes is their text with the marks. -/
theorem proseOf_eq_textOf {nodes : List Node} (prose : IsProse nodes) (empty : BreaksEmpty nodes) :
    proseOf nodes = Node.textOf (withMarks nodes) := by
  induction nodes using IsProse.induct with
  | case1 => simp [proseOf, withMarks, Node.textOf]
  | case2 t _ rest ih | case3 t _ rest ih =>
    rw [IsProse] at prose
    rw [BreaksEmpty] at empty
    simp only [proseOf, withMarks, Node.textOf, ih prose empty.2.2]
  | case4 e cs rest inside ih =>
    rw [IsProse] at prose
    rw [BreaksEmpty] at empty
    obtain ⟨named, proseInside, proseRest⟩ := prose
    obtain ⟨here, emptyInside, emptyRest⟩ := empty
    have bare : e.name = "br" → cs = [] := fun is => here fun may => may e rfl is
    rw [proseOf_element named bare, inside proseInside emptyInside, ih proseRest emptyRest]
    simp only [withMarks, Node.textOf, textOf_append]
  | case5 | case6 | case7 =>
    rw [IsProse] at prose
    exact prose.elim

/-- Marks leave the text of nodes as it is, in its order. -/
theorem textOf_sublist_withMarks (nodes : List Node) :
    (Node.textOf nodes).toList.Sublist (Node.textOf (withMarks nodes)).toList := by
  induction nodes using Node.textOf.induct with
  | case1 => simp [Node.textOf, withMarks]
  | case2 t _ rest ih =>
    simp only [Node.textOf, withMarks, String.toList_append]
    exact ih.append_left _
  | case3 e cs rest inside ih =>
    simp only [Node.textOf, withMarks, textOf_append, String.toList_append]
    refine List.Sublist.append ?_ ih
    exact (inside.trans (List.sublist_append_right _ _)).trans (List.sublist_append_left _ _)
  | case4 cs rest inside ih | case5 cs rest inside ih =>
    simp only [Node.textOf, withMarks, String.toList_append]
    exact inside.append ih
  | case6 t _ rest ih | case7 name _ rest ih => simpa only [Node.textOf, withMarks] using ih

/-- Where a node of a document holds only text, comments and elements of prose, its prose is the
text of the tree with the marks added, with straight quotes. So all its text is in the prose, in
its order. -/
theorem prose_eq_marked {markup : String} (p : Position (Document.parse markup).root)
    (h : IsProse p.node.children) :
    prose p.node = straightenQuotes (marked p.node).innerText ∧
      (straightenQuotes p.node.innerText).toList.Sublist (prose p.node).toList := by
  have same : prose p.node = straightenQuotes (marked p.node).innerText :=
    congrArg straightenQuotes (proseOf_eq_textOf h (breaksEmpty_of_position p))
  refine ⟨same, ?_⟩
  rw [same]
  simp only [straightenQuotes, String.toList_ofList]
  exact (textOf_sublist_withMarks p.node.children).map _

/-- The body of a page that is one emphasized quote. -/
def quoteBody : Node :=
  .mk (.element ⟨.html, "body", []⟩) [.mk (.element ⟨.html, "i", []⟩) [.mk (.text "\u201C") []]]

theorem prose_eq_marked_quoteBody :
    ∃ p : Position (Document.parse "<i>\u201C").root,
      IsProse p.node.children ∧ prose p.node = "*\"*" ∧
      prose p.node = straightenQuotes (marked p.node).innerText ∧
      (straightenQuotes p.node.innerText).toList.Sublist (prose p.node).toList := by
  have found : (Document.parse "<i>\u201C").root.get? [0, 1] = some quoteBody := by
    decide +kernel
  have only : IsProse quoteBody.children := by
    simp [quoteBody, Node.children, IsProse, proseNames]
  have written : prose quoteBody = "*\"*" := by cbv
  exact ⟨⟨[0, 1], quoteBody, found⟩, only, written, prose_eq_marked ⟨[0, 1], quoteBody, found⟩ only⟩

end ApiReference.Page
