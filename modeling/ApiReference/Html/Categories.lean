import ApiReference.Html.Token

/-!
Sets of element names that the rules for reading markup refer to, the names that foreign
elements spell with capitals, and the doctypes that ask for the habits of older browsers.
-/

namespace ApiReference.Html

/-- Elements that misplaced end tags never close past. -/
def specialNames : List String := [
  "address", "applet", "area", "article", "aside", "base", "basefont", "bgsound", "blockquote",
  "body", "br", "button", "caption", "center", "col", "colgroup", "dd", "details", "dir", "div",
  "dl", "dt", "embed", "fieldset", "figcaption", "figure", "footer", "form", "frame", "frameset",
  "h1", "h2", "h3", "h4", "h5", "h6", "head", "header", "hgroup", "hr", "html", "iframe", "img",
  "input", "isindex", "li", "link", "listing", "main", "marquee", "menu", "meta", "nav",
  "noembed", "noframes", "noscript", "object", "ol", "p", "param", "plaintext", "pre", "script",
  "section", "select", "source", "style", "summary", "table", "tbody", "td", "template",
  "textarea", "tfoot", "th", "thead", "title", "tr", "track", "ul", "wbr", "xmp"]

/-- Elements that an end tag further out closes on the way. -/
def impliedEndNames : List String :=
  ["dd", "dt", "li", "option", "optgroup", "p", "rb", "rp", "rt", "rtc"]

/-- Elements that the end of a template closes on the way. -/
def thoroughEndNames : List String :=
  impliedEndNames ++ ["caption", "colgroup", "tbody", "td", "tfoot", "th", "thead", "tr"]

def headingNames : List String := ["h1", "h2", "h3", "h4", "h5", "h6"]

/-- Elements that make up the block structure of text; their start tags close a paragraph. -/
def blockNames : List String := [
  "address", "article", "aside", "blockquote", "center", "details", "dialog", "dir", "div", "dl",
  "fieldset", "figcaption", "figure", "footer", "header", "hgroup", "main", "menu", "nav", "ol",
  "p", "search", "section", "summary", "ul"]

/-- Elements whose end tags close what they left open. -/
def closableNames : List String := [
  "address", "article", "aside", "blockquote", "button", "center", "details", "dialog", "dir",
  "div", "dl", "fieldset", "figcaption", "figure", "footer", "header", "hgroup", "listing",
  "main", "menu", "nav", "ol", "pre", "search", "section", "summary", "ul"]

/-- Elements that mark up runs of text and go on after a block ends. -/
def formattingNames : List String := [
  "a", "b", "big", "code", "em", "font", "i", "nobr", "s", "small", "strike", "strong", "tt",
  "u"]

/-- Elements that text put straight into them is moved out of. -/
def tablePartNames : List String := ["table", "tbody", "tfoot", "thead", "tr"]

/-- HTML start tags that end foreign content. -/
def breakoutNames : List String := [
  "b", "big", "blockquote", "body", "br", "center", "code", "dd", "div", "dl", "dt", "em",
  "embed", "h1", "h2", "h3", "h4", "h5", "h6", "head", "hr", "i", "img", "li", "listing", "menu",
  "meta", "nobr", "ol", "p", "pre", "ruby", "s", "small", "span", "strong", "strike", "sub",
  "sup", "table", "tt", "u", "ul", "var"]

/-- A name's spelling in a list of names, found in any ASCII letter case. -/
def respell (names : List String) (name : String) : String :=
  (names.find? fun n => Text.asciiLower n == name).getD name

def svgElementNames : List String := [
  "altGlyph", "altGlyphDef", "altGlyphItem", "animateColor", "animateMotion",
  "animateTransform", "clipPath", "feBlend", "feColorMatrix", "feComponentTransfer",
  "feComposite", "feConvolveMatrix", "feDiffuseLighting", "feDisplacementMap",
  "feDistantLight", "feDropShadow", "feFlood", "feFuncA", "feFuncB", "feFuncG", "feFuncR",
  "feGaussianBlur", "feImage", "feMerge", "feMergeNode", "feMorphology", "feOffset",
  "fePointLight", "feSpecularLighting", "feSpotLight", "feTile", "feTurbulence",
  "foreignObject", "glyphRef", "linearGradient", "radialGradient", "textPath"]

def svgAttributeNames : List String := [
  "attributeName", "attributeType", "baseFrequency", "baseProfile", "calcMode",
  "clipPathUnits", "diffuseConstant", "edgeMode", "filterUnits", "glyphRef",
  "gradientTransform", "gradientUnits", "kernelMatrix", "kernelUnitLength", "keyPoints",
  "keySplines", "keyTimes", "lengthAdjust", "limitingConeAngle", "markerHeight", "markerUnits",
  "markerWidth", "maskContentUnits", "maskUnits", "numOctaves", "pathLength",
  "patternContentUnits", "patternTransform", "patternUnits", "pointsAtX", "pointsAtY",
  "pointsAtZ", "preserveAlpha", "preserveAspectRatio", "primitiveUnits", "refX", "refY",
  "repeatCount", "repeatDur", "requiredExtensions", "requiredFeatures", "specularConstant",
  "specularExponent", "spreadMethod", "startOffset", "stdDeviation", "stitchTiles",
  "surfaceScale", "systemLanguage", "tableValues", "targetX", "targetY", "textLength",
  "viewBox", "viewTarget", "xChannelSelector", "yChannelSelector", "zoomAndPan"]

def plainAttributes (attributes : List (String × String)) : List Attribute :=
  attributes.map fun (name, value) => ⟨.plain, name, value⟩

/-- An attribute of a foreign element, whose name may come from a vocabulary of its own. -/
def foreignAttribute (a : Attribute) : Attribute :=
  match a.name with
  | "xlink:actuate" => { a with space := .link, name := "actuate" }
  | "xlink:arcrole" => { a with space := .link, name := "arcrole" }
  | "xlink:href" => { a with space := .link, name := "href" }
  | "xlink:role" => { a with space := .link, name := "role" }
  | "xlink:show" => { a with space := .link, name := "show" }
  | "xlink:title" => { a with space := .link, name := "title" }
  | "xlink:type" => { a with space := .link, name := "type" }
  | "xml:lang" => { a with space := .general, name := "lang" }
  | "xml:space" => { a with space := .general, name := "space" }
  | "xmlns" => { a with space := .declaration }
  | "xmlns:xlink" => { a with space := .prefixed, name := "xlink" }
  | _ => a

def attributesIn (space : Space) (attributes : List (String × String)) : List Attribute :=
  let respelled := match space with
    | .html => attributes
    | .svg => attributes.map fun (name, value) => (respell svgAttributeNames name, value)
    | .mathml => attributes.map fun (name, value) => (respell ["definitionURL"] name, value)
  match space with
  | .html => plainAttributes respelled
  | _ => (plainAttributes respelled).map foreignAttribute

/-! ### Doctypes -/

/-- Public identifiers that stand for the habits of older browsers, in small letters. -/
def quirkyPublicIds : List String := [
  "-//w3o//dtd w3 html strict 3.0//en//", "-/w3c/dtd html 4.0 transitional/en", "html"]

def quirkyPublicStarts : List String := [
  "+//silmaril//dtd html pro v0r11 19970101//", "-//as//dtd html 3.0 aswedit + extensions//",
  "-//advasoft ltd//dtd html 3.0 aswedit + extensions//", "-//ietf//dtd html 2.0 level 1//",
  "-//ietf//dtd html 2.0 level 2//", "-//ietf//dtd html 2.0 strict level 1//",
  "-//ietf//dtd html 2.0 strict level 2//", "-//ietf//dtd html 2.0 strict//",
  "-//ietf//dtd html 2.0//", "-//ietf//dtd html 2.1e//", "-//ietf//dtd html 3.0//",
  "-//ietf//dtd html 3.2 final//", "-//ietf//dtd html 3.2//", "-//ietf//dtd html 3//",
  "-//ietf//dtd html level 0//", "-//ietf//dtd html level 1//", "-//ietf//dtd html level 2//",
  "-//ietf//dtd html level 3//", "-//ietf//dtd html strict level 0//",
  "-//ietf//dtd html strict level 1//", "-//ietf//dtd html strict level 2//",
  "-//ietf//dtd html strict level 3//", "-//ietf//dtd html strict//", "-//ietf//dtd html//",
  "-//metrius//dtd metrius presentational//",
  "-//microsoft//dtd internet explorer 2.0 html strict//",
  "-//microsoft//dtd internet explorer 2.0 html//",
  "-//microsoft//dtd internet explorer 2.0 tables//",
  "-//microsoft//dtd internet explorer 3.0 html strict//",
  "-//microsoft//dtd internet explorer 3.0 html//",
  "-//microsoft//dtd internet explorer 3.0 tables//",
  "-//netscape comm. corp.//dtd html//", "-//netscape comm. corp.//dtd strict html//",
  "-//o'reilly and associates//dtd html 2.0//",
  "-//o'reilly and associates//dtd html extended 1.0//",
  "-//o'reilly and associates//dtd html extended relaxed 1.0//",
  "-//spyglass//dtd html 2.0 extended//", "-//sq//dtd html 2.0 hotmetal + extensions//",
  "-//softquad software//dtd hotmetal pro 6.0::19990601::extensions to html 4.0//",
  "-//softquad//dtd hotmetal pro 4.0::19971010::extensions to html 4.0//",
  "-//sun microsystems corp.//dtd hotjava html//",
  "-//sun microsystems corp.//dtd hotjava strict html//", "-//w3c//dtd html 3 1995-03-24//",
  "-//w3c//dtd html 3.2 draft//", "-//w3c//dtd html 3.2 final//", "-//w3c//dtd html 3.2//",
  "-//w3c//dtd html 3.2s draft//", "-//w3c//dtd html 4.0 frameset//",
  "-//w3c//dtd html 4.0 transitional//", "-//w3c//dtd html experimental 19960712//",
  "-//w3c//dtd html experimental 970421//", "-//w3c//dtd w3 html//",
  "-//w3o//dtd w3 html 3.0//", "-//webtechs//dtd mozilla html 2.0//",
  "-//webtechs//dtd mozilla html//"]

/-- Starts of public identifiers that stand for the habits of older browsers where no system
identifier is given, in small letters. -/
def looseStarts : List String := [
  "-//w3c//dtd html 4.01 frameset//", "-//w3c//dtd html 4.01 transitional//"]

/-- The system identifier, without its scheme, that stands for the habits of older browsers. -/
def quirkySystemId : String := "www.ibm.com/data/dtd/v11/ibmxhtml1-transitional.dtd"

/-- Whether a document with this doctype is read by the habits of older browsers, where a table
does not end a paragraph. -/
def Doctype.quirky (d : Doctype) : Bool :=
  let startsWithAny (starts : List String) (id : String) : Bool :=
    starts.any fun s => s.toList.isPrefixOf id.toList
  let publicId := d.publicId.map Text.asciiLower
  let systemId := d.systemId.map Text.asciiLower
  d.forceQuirks || d.name != some "html" ||
    publicId.any (fun id => quirkyPublicIds.contains id || startsWithAny quirkyPublicStarts id) ||
    systemId == some ("http://" ++ quirkySystemId) ||
    (publicId.any (startsWithAny looseStarts) && systemId.isNone)

end ApiReference.Html
