import Ebms.Proofs.Markup.Documents

/-! # Every tree is read back from its markup

A tree can be written when its names are plain, no element has two attributes of one name, and
only elements without children have text.  The texts and the values of attributes are free.
There is more than one way to write an element that has neither children nor text; whichever is
chosen, the markup is read as the tree. -/

set_option autoImplicit false

namespace Ebms

/-- An element that can be written.  Text stands in elements without children only. -/
inductive Element.IsWritable : Element → Prop where
  | node {name : String} {attributes : List (String × String)} {children : List Element}
      (tag : Markup.isTag name attributes = true) (each : ∀ child ∈ children, child.IsWritable) :
      IsWritable { name, attributes, children, text := "" }
  | leaf {name : String} {attributes : List (String × String)} (text : String)
      (tag : Markup.isTag name attributes = true) :
      IsWritable { name, attributes, children := [], text }

namespace Element.IsWritable

variable {e : Element}

theorem isTag (writable : e.IsWritable) : Markup.isTag e.name e.attributes = true := by
  cases writable with
  | node tag each => exact tag
  | leaf text tag => exact tag

theorem children (writable : e.IsWritable) : ∀ child ∈ e.children, child.IsWritable := by
  cases writable with
  | node tag each => exact each
  | leaf text tag => nofun

end Element.IsWritable

namespace Markup

theorem exists_toElements {children : List Element}
    (each : ∀ child ∈ children, ∃ m : Markup, m.toElement = child) :
    ∃ written : List Markup, toElements written = children := by
  induction children with
  | nil => exact ⟨[], rfl⟩
  | cons first others inductionHypothesis =>
      obtain ⟨⟨m, rfl⟩, later⟩ := List.forall_mem_cons.mp each
      obtain ⟨written, rfl⟩ := inductionHypothesis later
      exact ⟨m :: written, rfl⟩

theorem exists_toElement {e : Element} (writable : e.IsWritable) :
    ∃ m : Markup, m.toElement = e := by
  induction writable with
  | @node name attributes children tag each inductionHypothesis =>
      obtain ⟨written, rfl⟩ := exists_toElements inductionHypothesis
      exact ⟨.node name attributes written, rfl⟩
  | @leaf name attributes text tag => exact ⟨.leaf name attributes text, rfl⟩

mutual

/-- Markup is well formed exactly if its tree can be written. -/
theorem isWellFormed_iff_isWritable (m : Markup) :
    m.isWellFormed = true ↔ m.toElement.IsWritable := by
  cases m with
  | node name attributes children =>
      rw [isWellFormed, Bool.and_eq_true, areWellFormed_iff_isWritable children]
      exact ⟨fun ⟨tag, each⟩ => .node tag each, fun writable => ⟨writable.isTag, writable.children⟩⟩
  | leaf name attributes text =>
      rw [isWellFormed]
      exact ⟨fun tag => .leaf text tag, fun writable => writable.isTag⟩
  | empty name attributes =>
      rw [isWellFormed]
      exact ⟨fun tag => .leaf "" tag, fun writable => writable.isTag⟩

theorem areWellFormed_iff_isWritable (children : List Markup) :
    areWellFormed children = true ↔ ∀ child ∈ toElements children, child.IsWritable := by
  cases children with
  | nil => exact ⟨fun _ => nofun, fun _ => rfl⟩
  | cons first others =>
      rw [areWellFormed, Bool.and_eq_true, toElements, List.forall_mem_cons,
        isWellFormed_iff_isWritable first, areWellFormed_iff_isWritable others]

end

/-- Every tree that can be written has markup, and is read back from whatever markup it has. -/
theorem readDocument_of_isWritable {e : Element} (writable : e.IsWritable) :
    (∃ m : Markup, m.toElement = e) ∧
      ∀ m : Markup, m.toElement = e → readDocument m.render = .ok (some e) := by
  refine ⟨exists_toElement writable, ?_⟩
  rintro m rfl
  exact readDocument_render m ((isWellFormed_iff_isWritable m).mpr writable)

/-- A tree with elements of all forms, and with texts that look like markup. -/
def sampleTree : Markup :=
  .node "a:root" [("xmlns:a", "urn:a"), ("x-y", " \"<é>\" '&amp;'\r\n")]
    [.leaf "a:item_1" [] "\n1 < 2 &lt; &#38; ]]> ",
      .node "b.c" [] [.empty "a:flag" [("on", "")], .node "d" [] [], .leaf "d" [] ""]]

theorem readDocument_of_isWritable_sampleTree :
    sampleTree.toElement.IsWritable ∧
      readDocument sampleTree.render = .ok (some sampleTree.toElement) := by
  have writable : sampleTree.toElement.IsWritable :=
    (isWellFormed_iff_isWritable sampleTree).mp (by decide)
  exact ⟨writable, (readDocument_of_isWritable writable).2 sampleTree rfl⟩

end Markup

end Ebms
