import Ebms.Text.Trim

/-! # Elements as read

An element keeps its qualified name, its attributes, its child elements and the
text that stands directly inside it, all pieces joined.  Look-ups go by local
name: the part of a name after its last colon. -/

set_option autoImplicit false

namespace Ebms

structure Element where
  name : String
  attributes : List (String × String)
  children : List Element
  text : String
  deriving Inhabited

namespace Element

/-- The part of a qualified name after its last colon. -/
def localPart (name : String) : String :=
  String.ofList ((name.toList.reverse.takeWhile (· != ':')).reverse)

def localName (e : Element) : String := localPart e.name

/-- The part of the element's name before its first colon. -/
def namespaceLabel? (e : Element) : Option String :=
  (Text.splitOnce ':' e.name).map (·.1)

def isDeclaration (name : String) : Bool :=
  name == "xmlns" || Text.startsWith name "xmlns:"

/-- The value of the first attribute with a local name, namespace declarations
left aside. -/
def attribute? (e : Element) (localName : String) : Option String :=
  (e.attributes.find? fun a => !isDeclaration a.1 && localPart a.1 == localName).map (·.2)

/-- The namespace that the element itself binds to a label, or without a label
the default one. -/
def declaredNamespace? (e : Element) (label : Option String) : Option String :=
  let name := match label with
    | some label => "xmlns:" ++ label
    | none => "xmlns"
  (e.attributes.find? (·.1 == name)).map (·.2)

def child? (e : Element) (localName : String) : Option Element :=
  e.children.find? (·.localName == localName)

def childrenNamed (e : Element) (localName : String) : List Element :=
  e.children.filter (·.localName == localName)

def childText? (e : Element) (localName : String) : Option String :=
  (e.child? localName).map (·.text)

end Element

end Ebms
