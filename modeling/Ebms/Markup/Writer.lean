import Ebms.Markup.Escape

/-! # Written markup

A message is written as compact markup: no blanks between elements, attributes
in double quotes, and a form of element for each use.  The same value always
has the same bytes, which is what makes digests of parts possible. -/

set_option autoImplicit false

namespace Ebms

/-- An element to be written: with children, with text, or with neither. -/
inductive Markup where
  | node (name : String) (attributes : List (String × String)) (children : List Markup)
  | leaf (name : String) (attributes : List (String × String)) (text : String)
  | empty (name : String) (attributes : List (String × String))
  deriving Inhabited

namespace Markup

def renderAttribute (pair : String × String) : Bytes :=
  0x20 :: (Bytes.ofText pair.1 ++ [0x3D, 0x22]
    ++ escape (Bytes.ofText pair.2) ++ [0x22])

def renderTag (name : String) (attributes : List (String × String)) : Bytes :=
  0x3C :: (Bytes.ofText name ++ attributes.flatMap renderAttribute)

def renderEnd (name : String) : Bytes := 0x3C :: 0x2F :: (Bytes.ofText name ++ [0x3E])

mutual

def render : Markup → Bytes
  | .node name attributes children =>
    renderTag name attributes ++ [0x3E] ++ renderAll children ++ renderEnd name
  | .leaf name attributes text =>
    renderTag name attributes ++ [0x3E] ++ escape (Bytes.ofText text) ++ renderEnd name
  | .empty name attributes => renderTag name attributes ++ [0x2F, 0x3E]

def renderAll : List Markup → Bytes
  | [] => []
  | first :: rest => render first ++ renderAll rest

end

def declaration : Bytes := Bytes.ofText "<?xml version=\"1.0\" encoding=\"UTF-8\"?>"

def document (root : Markup) : Bytes := declaration ++ root.render

end Markup

end Ebms
