import Ebms.Proofs.Markup.Tokens

/-! # Documents are read as they were written

A written element has a value as a read one.  Reading a document gives exactly
that value, for every tree of elements whose names are plain and whose attribute
names do not repeat; so elements with the same bytes have the same value. -/

set_option autoImplicit false

namespace Ebms.Markup

mutual

def toElement : Markup → Element
  | .node name attributes children =>
    { name, attributes, children := toElements children, text := "" }
  | .leaf name attributes text => { name, attributes, children := [], text }
  | .empty name attributes => { name, attributes, children := [], text := "" }

def toElements : List Markup → List Element
  | [] => []
  | first :: rest => toElement first :: toElements rest

end

theorem toElements_eq_map (children : List Markup) :
    toElements children = children.map toElement := by
  induction children with
  | nil => rfl
  | cons first rest inductionHypothesis =>
      rw [toElements, inductionHypothesis, List.map_cons]

/-- A tag with a plain name and plain names of attributes, none of them twice. -/
def isTag (name : String) (attributes : List (String × String)) : Bool :=
  isName name && attributes.all (fun pair => isName pair.1)
    && decide (attributes.map (·.1)).Nodup

mutual

def isWellFormed : Markup → Bool
  | .node name attributes children => isTag name attributes && areWellFormed children
  | .leaf name attributes _ => isTag name attributes
  | .empty name attributes => isTag name attributes

def areWellFormed : List Markup → Bool
  | [] => true
  | first :: rest => isWellFormed first && areWellFormed rest

end

theorem areWellFormed_eq_all (children : List Markup) :
    areWellFormed children = children.all isWellFormed := by
  induction children with
  | nil => rfl
  | cons first rest inductionHypothesis =>
      rw [areWellFormed, inductionHypothesis, List.all_cons]

theorem isTag_iff {name : String} {attributes : List (String × String)} :
    isTag name attributes = true ↔
      isName name = true ∧ (∀ pair ∈ attributes, isName pair.1 = true) ∧
        (attributes.map (·.1)).Nodup := by
  simp [isTag, and_assoc]

/-! ## Steps of reading -/

variable {name : String} {attributes : List (String × String)}

theorem feed_opening (valid : isTag name attributes = true) (state : Reading) :
    state.feed (.opening (Bytes.ofText name ++ renderAttributes attributes)) =
      .ok { state with
        openElements :=
          { name, attributes, children := [], text := "" } :: state.openElements } := by
  obtain ⟨validName, validAttributes, distinct⟩ := isTag_iff.mp valid
  rw [Reading.feed, elementOfTag_tag validName validAttributes distinct]
  rfl

theorem feed_closing {top : Element} {outer : List Element} {root : Option Element}
    {after : Reading}
    (attached : Reading.attach { openElements := outer, root } top = .ok after) :
    Reading.feed { openElements := top :: outer, root } (.closing (Bytes.ofText top.name)) =
      .ok after := by
  simp only [Reading.feed, if_true]
  exact attached

theorem read_opening (valid : isTag name attributes = true) (state : Reading) (rest : Bytes) :
    read state (renderTag name attributes ++ 0x3E :: rest) =
      read { state with
        openElements :=
          { name, attributes, children := [], text := "" } :: state.openElements } rest := by
  obtain ⟨validName, validAttributes, -⟩ := isTag_iff.mp valid
  exact read_token (by simp [renderTag]) (nextToken_opening validName validAttributes rest)
    (feed_opening valid state)

theorem read_closing {top : Element} (valid : isName top.name = true)
    {outer : List Element} {root : Option Element} {after : Reading}
    (attached : Reading.attach { openElements := outer, root } top = .ok after)
    (rest : Bytes) :
    read { openElements := top :: outer, root } (renderEnd top.name ++ rest) =
      read after rest :=
  read_token (by simp [renderEnd]) (nextToken_closing valid rest) (feed_closing attached)

theorem read_text {top : Element} (outer : List Element) (root : Option Element)
    (text : String) (rest : Bytes) :
    read { openElements := top :: outer, root }
        (escape (Bytes.ofText text) ++ 0x3C :: rest) =
      read { openElements := { top with text := top.text ++ text } :: outer, root }
        (0x3C :: rest) := by
  by_cases empty : text = ""
  · rw [empty, Bytes.ofText_empty, String.append_empty]
    cases top
    rfl
  · have written : Bytes.ofText text ≠ [] := by
      intro none
      exact empty (Bytes.ofText_injective none)
    apply read_token (by simp) (nextToken_text written rest)
    simp only [Reading.feed, Reading.addText, text?_escape_ofText]

/-! ## Whole elements -/

mutual

/-- A written element is read as its value, wherever it may stand. -/
theorem read_render (m : Markup) (valid : m.isWellFormed = true) {state after : Reading}
    (attached : state.attach m.toElement = .ok after) (rest : Bytes) :
    read state (m.render ++ rest) = read after rest := by
  cases m with
  | node name attributes children =>
      rw [isWellFormed, Bool.and_eq_true] at valid
      obtain ⟨validTag, validChildren⟩ := valid
      have shape : (Markup.node name attributes children).render ++ rest =
          renderTag name attributes ++ 0x3E :: (renderAll children ++ (renderEnd name ++ rest)) := by
        simp [render]
      rw [shape, read_opening validTag, read_renderAll children validChildren]
      let closed : Element := { name, attributes, children := toElements children, text := "" }
      have validName : isName closed.name = true := (isTag_iff.mp validTag).1
      exact read_closing validName attached rest
  | leaf name attributes text =>
      rw [isWellFormed] at valid
      have shape : (Markup.leaf name attributes text).render ++ rest =
          renderTag name attributes ++ 0x3E :: (escape (Bytes.ofText text) ++
            0x3C :: (0x2F :: (Bytes.ofText name ++ [0x3E]) ++ rest)) := by
        simp [render, renderEnd]
      rw [shape, read_opening valid, read_text, String.empty_append]
      let closed : Element := { name, attributes, children := [], text }
      have validName : isName closed.name = true := (isTag_iff.mp valid).1
      exact read_closing validName attached rest
  | empty name attributes =>
      rw [isWellFormed] at valid
      obtain ⟨validName, validAttributes, distinct⟩ := isTag_iff.mp valid
      have shape : (Markup.empty name attributes).render ++ rest =
          renderTag name attributes ++ 0x2F :: 0x3E :: rest := by
        simp [render]
      rw [shape]
      apply read_token (by simp [renderTag]) (nextToken_standalone validName validAttributes rest)
      rw [Reading.feed, elementOfTag_tag validName validAttributes distinct]
      exact attached

/-- Written elements in a row become the last children of the open element. -/
theorem read_renderAll (children : List Markup) (valid : areWellFormed children = true)
    {top : Element} {outer : List Element} {root : Option Element} (rest : Bytes) :
    read { openElements := top :: outer, root } (renderAll children ++ rest) =
      read
        { openElements := { top with children := top.children ++ toElements children } :: outer
          root } rest := by
  cases children with
  | nil =>
      rw [renderAll, toElements, List.nil_append, List.append_nil]
      cases top
      rfl
  | cons first others =>
      rw [areWellFormed, Bool.and_eq_true] at valid
      rw [renderAll, List.append_assoc, read_render first valid.1 rfl,
        read_renderAll others valid.2, toElements, List.append_assoc, List.singleton_append]

end

theorem declaration_ne_nil : declaration ≠ [] := by decide

theorem nextToken_declaration (rest : Bytes) :
    nextToken (declaration ++ rest) = .ok (none, rest) := by
  rfl

theorem readDocument_of_read {input : Bytes} {root : Option Element}
    (noMark : dropByteOrderMark input = input)
    (whole : read Reading.start input = .ok { openElements := [], root }) :
    readDocument input = .ok root := by
  rw [readDocument, noMark]
  rw [read] at whole
  simp only [whole, List.isEmpty_nil, if_true]

theorem read_start_render (m : Markup) (valid : m.isWellFormed = true) :
    read Reading.start m.render = .ok { openElements := [], root := some m.toElement } := by
  have element : read Reading.start (m.render ++ []) =
      read { openElements := [], root := some m.toElement } [] := read_render m valid rfl []
  rwa [List.append_nil, read_nil] at element

theorem dropByteOrderMark_render (m : Markup) : dropByteOrderMark m.render = m.render := by
  cases m <;> rfl

/-- Reading undoes writing. -/
theorem readDocument_render (m : Markup) (valid : m.isWellFormed = true) :
    readDocument m.render = .ok (some m.toElement) :=
  readDocument_of_read (dropByteOrderMark_render m) (read_start_render m valid)

theorem readDocument_document (m : Markup) (valid : m.isWellFormed = true) :
    readDocument m.document = .ok (some m.toElement) := by
  refine readDocument_of_read rfl ?_
  have nonempty : declaration ++ m.render ≠ [] := by simp [declaration_ne_nil]
  rw [document, read_passed nonempty (nextToken_declaration m.render), read_start_render m valid]

theorem toElement_eq_of_render_eq {first second : Markup} (firstValid : first.isWellFormed = true)
    (secondValid : second.isWellFormed = true) (same : first.render = second.render) :
    first.toElement = second.toElement := by
  have firstRead := readDocument_render first firstValid
  rw [same, readDocument_render second secondValid] at firstRead
  exact (Option.some.inj (Except.ok.inj firstRead)).symm

end Ebms.Markup
