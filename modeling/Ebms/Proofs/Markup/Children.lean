import Ebms.Markup.Element

/-! # Thinning out the children of an element

Two edits of an element, and both together: all of its children of some names go but the first
one of a name, and its first child of a name is changed.  Look-ups say what an edit leaves as it
was, and when there was nothing to edit. -/

set_option autoImplicit false

namespace Ebms.Element

/-! ## One child of some names -/

def isAmong (names : List String) (e : Element) : Bool := names.contains e.localName

def among (names : List String) (e : Element) : List Element := e.children.filter (isAmong names)

/-- Elements without those of some names, but for the first one of `name`. -/
def keepFirst (names : List String) (name : String) : List Element → List Element
  | [] => []
  | first :: rest =>
    if first.localName = name then first :: rest.filter (!isAmong names ·)
    else if isAmong names first then keepFirst names name rest
    else first :: keepFirst names name rest

/-- The element with at most one child of some names: the first one of `name`. -/
def keepOne (names : List String) (name : String) (e : Element) : Element :=
  { e with children := keepFirst names name e.children }

variable {names : List String} {name other : String} {e kept : Element}

theorem isAmong_iff : isAmong names e = true ↔ e.localName ∈ names := List.contains_iff_mem

theorem mem_among {element : Element} :
    element ∈ e.among names ↔ element ∈ e.children ∧ element.localName ∈ names := by
  rw [among, List.mem_filter, isAmong_iff]

theorem localName_of_child? (found : e.child? name = some kept) : kept.localName = name := by
  have same := List.find?_some found
  rwa [beq_iff_eq] at same

theorem find?_filter_not_isAmong (absent : other ∉ names) (elements : List Element) :
    (elements.filter (!isAmong names ·)).find? (·.localName == other) =
      elements.find? (·.localName == other) := by
  rw [List.find?_filter]
  congr 1
  funext element
  by_cases same : element.localName = other
  · simp [isAmong, same, absent]
  · simp [same]

theorem child?_keepOne_of_not_mem (absent : other ∉ names) :
    (e.keepOne names name).child? other = e.child? other := by
  unfold child? keepOne
  induction e.children with
  | nil => rfl
  | cons first rest inductionHypothesis =>
      unfold keepFirst
      split
      case isTrue =>
        rw [List.find?_cons, List.find?_cons, find?_filter_not_isAmong absent]
      case isFalse =>
        split
        case isTrue dropped =>
          have different : (first.localName == other) = false := by
            rw [beq_eq_false_iff_ne]
            rintro rfl
            exact absent (isAmong_iff.mp dropped)
          rw [List.find?_cons, different]
          exact inductionHypothesis
        case isFalse =>
          rw [List.find?_cons, List.find?_cons]
          split
          · rfl
          · exact inductionHypothesis

theorem child?_keepOne_self : (e.keepOne names name).child? name = e.child? name := by
  unfold child? keepOne
  induction e.children with
  | nil => rfl
  | cons first rest inductionHypothesis =>
      unfold keepFirst
      split
      case isTrue same => simp [same]
      case isFalse different =>
        have passed : (first.localName == name) = false := beq_eq_false_iff_ne.mpr different
        rw [List.find?_cons, passed]
        split
        case isTrue => exact inductionHypothesis
        case isFalse =>
          rw [List.find?_cons, passed]
          exact inductionHypothesis

theorem filter_keepFirst {elements : List Element} (listed : name ∈ names)
    (found : elements.find? (·.localName == name) = some kept) :
    (keepFirst names name elements).filter (isAmong names) = [kept] := by
  induction elements with
  | nil => cases found
  | cons first rest inductionHypothesis =>
      unfold keepFirst
      split
      case isTrue same =>
        have found : first = kept := by simpa [same] using found
        have none : (rest.filter (!isAmong names ·)).filter (isAmong names) = [] := by
          rw [List.filter_filter, List.filter_eq_nil_iff]
          intro element _
          simp
        rw [List.filter_cons_of_pos (isAmong_iff.mpr (same ▸ listed)), none, found]
      case isFalse different =>
        have left := inductionHypothesis (by
          simpa [List.find?_cons, beq_eq_false_iff_ne.mpr different] using found)
        split
        case isTrue => exact left
        case isFalse dropped =>
          rw [List.filter_cons_of_neg dropped]
          exact left

theorem filter_keepFirst_of_ne (different : name ≠ other) (elements : List Element) :
    (keepFirst [name] name elements).filter (isAmong [other]) =
      elements.filter (isAmong [other]) := by
  induction elements with
  | nil => rfl
  | cons first rest inductionHypothesis =>
      unfold keepFirst
      split
      case isTrue named =>
        have kept (element : Element) : (isAmong [other] element && !isAmong [name] element) =
            isAmong [other] element := by
          by_cases found : element.localName = other
          · simp [isAmong, found, Ne.symm different]
          · simp [isAmong, found]
        rw [List.filter_cons, List.filter_cons, List.filter_filter]
        simp only [kept]
      case isFalse unnamed =>
        have unlisted : ¬ isAmong [name] first = true := by simpa [isAmong] using unnamed
        rw [if_neg unlisted, List.filter_cons, List.filter_cons, inductionHypothesis]

/-- Of the names that are thinned out, nothing but the child that was kept is left. -/
theorem among_keepOne (listed : name ∈ names) (found : e.child? name = some kept) :
    (e.keepOne names name).among names = [kept] :=
  filter_keepFirst listed found

theorem mem_of_mem_keepFirst {element : Element} {elements : List Element}
    (member : element ∈ keepFirst names name elements) : element ∈ elements := by
  induction elements with
  | nil => cases member
  | cons first rest inductionHypothesis =>
      unfold keepFirst at member
      split at member
      case isTrue =>
        rcases List.mem_cons.mp member with rfl | later
        · exact List.mem_cons_self
        · exact List.mem_cons_of_mem first (List.mem_filter.mp later).1
      case isFalse =>
        split at member
        case isTrue => exact List.mem_cons_of_mem first (inductionHypothesis member)
        case isFalse =>
          rcases List.mem_cons.mp member with rfl | later
          · exact List.mem_cons_self
          · exact List.mem_cons_of_mem first (inductionHypothesis later)

theorem child?_keepOne_of_none (absent : e.child? other = none) :
    (e.keepOne names name).child? other = none := by
  rw [child?, List.find?_eq_none] at absent ⊢
  exact fun element member => absent element (mem_of_mem_keepFirst member)

theorem keepFirst_eq_self {elements : List Element} (named : kept.localName = name)
    (single : elements.filter (isAmong names) = [kept]) :
    keepFirst names name elements = elements := by
  induction elements with
  | nil => rfl
  | cons first rest inductionHypothesis =>
      unfold keepFirst
      by_cases listed : isAmong names first = true
      case pos =>
        rw [List.filter_cons_of_pos listed, List.cons.injEq] at single
        obtain ⟨rfl, none⟩ := single
        rw [if_pos named, List.filter_eq_self.mpr]
        intro element member
        have unlisted := List.filter_eq_nil_iff.mp none element member
        simpa using unlisted
      case neg =>
        rw [List.filter_cons_of_neg listed] at single
        have different : first.localName ≠ name := by
          intro same
          have member : kept ∈ rest.filter (isAmong names) := by
            rw [single]
            exact List.mem_singleton_self kept
          have kind := isAmong_iff.mp (List.mem_filter.mp member).2
          rw [named, ← same] at kind
          exact listed (isAmong_iff.mpr kind)
        rw [if_neg different, if_neg listed, inductionHypothesis single]

theorem keepOne_eq_self (named : kept.localName = name) (single : e.among names = [kept]) :
    e.keepOne names name = e := by
  cases e
  rw [keepOne, keepFirst_eq_self named single]

theorem mem_among_of_child? {found : Element} (listed : name ∈ names)
    (present : e.child? name = some found) : found ∈ e.among names :=
  mem_among.mpr ⟨List.mem_of_find?_eq_some present, localName_of_child? present ▸ listed⟩

theorem localName_ne_of_child?_eq_none {element : Element} (absent : e.child? name = none)
    (member : element ∈ e.children) : element.localName ≠ name := by
  have different := List.find?_eq_none.mp absent element member
  simpa using different

theorem child?_of_among (single : e.among names = [kept]) :
    e.child? kept.localName = some kept := by
  have listed : kept ∈ e.among names := by
    rw [single]
    exact List.mem_singleton_self kept
  obtain ⟨child, name⟩ := mem_among.mp listed
  cases present : e.child? kept.localName with
  | none => exact absurd rfl (localName_ne_of_child?_eq_none present child)
  | some found =>
      have same := mem_among_of_child? name present
      rw [single, List.mem_singleton] at same
      rw [same]

theorem keepOne_eq_self_of_length {found : Element} (listed : name ∈ names)
    (present : e.child? name = some found) (single : (e.among names).length = 1) :
    e.keepOne names name = e := by
  obtain ⟨only, all⟩ := List.length_eq_one_iff.mp single
  have same := mem_among_of_child? listed present
  rw [all, List.mem_singleton] at same
  exact keepOne_eq_self (same ▸ localName_of_child? present) all

/-! ## A changed child -/

def changeFirst (name : String) (change : Element → Element) : List Element → List Element
  | [] => []
  | first :: rest =>
    if first.localName = name then change first :: rest
    else first :: changeFirst name change rest

def changeChild (name : String) (change : Element → Element) (e : Element) : Element :=
  { e with children := changeFirst name change e.children }

variable {change : Element → Element}

theorem child?_changeChild_self (keepsName : ∀ e, (change e).localName = e.localName) :
    (e.changeChild name change).child? name = (e.child? name).map change := by
  unfold child? changeChild
  induction e.children with
  | nil => rfl
  | cons first rest inductionHypothesis =>
      unfold changeFirst
      split
      case isTrue same => simp [keepsName, same]
      case isFalse different =>
        rw [List.find?_cons, List.find?_cons, beq_eq_false_iff_ne.mpr different]
        exact inductionHypothesis

theorem child?_changeChild_of_ne (keepsName : ∀ e, (change e).localName = e.localName)
    (different : name ≠ other) :
    (e.changeChild name change).child? other = e.child? other := by
  unfold child? changeChild
  induction e.children with
  | nil => rfl
  | cons first rest inductionHypothesis =>
      unfold changeFirst
      split
      case isTrue same => simp [keepsName, same, different]
      case isFalse =>
        rw [List.find?_cons, List.find?_cons]
        split
        · rfl
        · exact inductionHypothesis

theorem changeFirst_eq_self {elements : List Element} (unchanged : change kept = kept)
    (found : elements.find? (·.localName == name) = some kept) :
    changeFirst name change elements = elements := by
  induction elements with
  | nil => rfl
  | cons first rest inductionHypothesis =>
      unfold changeFirst
      rw [List.find?_cons] at found
      split
      case isTrue named =>
        have found : first = kept := by simpa [named] using found
        rw [found, unchanged]
      case isFalse different =>
        rw [beq_eq_false_iff_ne.mpr different] at found
        rw [inductionHypothesis found]

theorem changeChild_eq_self (unchanged : change kept = kept) (found : e.child? name = some kept) :
    e.changeChild name change = e := by
  cases e
  rw [changeChild, changeFirst_eq_self unchanged found]

theorem filter_changeFirst (keepsName : ∀ e, (change e).localName = e.localName)
    (listed : name ∈ names) (elements : List Element) :
    (changeFirst name change elements).filter (isAmong names) =
      changeFirst name change (elements.filter (isAmong names)) := by
  induction elements with
  | nil => rfl
  | cons first rest inductionHypothesis =>
      by_cases named : first.localName = name
      · have before : isAmong names first = true := isAmong_iff.mpr (named ▸ listed)
        have after : isAmong names (change first) = true := by
          rw [isAmong, keepsName]
          exact before
        rw [changeFirst, if_pos named, List.filter_cons_of_pos before,
          List.filter_cons_of_pos after, changeFirst, if_pos named]
      · rw [changeFirst, if_neg named, List.filter_cons, List.filter_cons, inductionHypothesis]
        split
        · rw [changeFirst, if_neg named]
        · rfl

theorem filter_changeFirst_of_ne (keepsName : ∀ e, (change e).localName = e.localName)
    (different : name ≠ other) (elements : List Element) :
    (changeFirst name change elements).filter (isAmong [other]) =
      elements.filter (isAmong [other]) := by
  induction elements with
  | nil => rfl
  | cons first rest inductionHypothesis =>
      unfold changeFirst
      split
      case isTrue named =>
        have before : ¬ isAmong [other] first = true := by simp [isAmong, named, different]
        have after : ¬ isAmong [other] (change first) = true := by
          rw [isAmong, keepsName]
          exact before
        rw [List.filter_cons_of_neg before, List.filter_cons_of_neg after]
      case isFalse => rw [List.filter_cons, List.filter_cons, inductionHypothesis]

theorem among_changeChild_keepOne (keepsName : ∀ e, (change e).localName = e.localName)
    (listed : name ∈ names) (found : e.child? name = some kept) :
    ((e.keepOne names name).changeChild name change).among names = [change kept] := by
  have single := among_keepOne listed found
  unfold among at single
  rw [among, changeChild, filter_changeFirst keepsName listed, single, changeFirst,
    if_pos (localName_of_child? found)]

/-! ## The only child of a name -/

/-- The element with its first child of a name changed, and without the others. -/
def soleChild (name : String) (change : Element → Element) (e : Element) : Element :=
  (e.keepOne [name] name).changeChild name change

theorem child?_soleChild_self (keepsName : ∀ e, (change e).localName = e.localName) :
    (e.soleChild name change).child? name = (e.child? name).map change := by
  rw [soleChild, child?_changeChild_self keepsName, child?_keepOne_self]

theorem child?_soleChild_of_ne (keepsName : ∀ e, (change e).localName = e.localName)
    (different : name ≠ other) : (e.soleChild name change).child? other = e.child? other := by
  rw [soleChild, child?_changeChild_of_ne keepsName different,
    child?_keepOne_of_not_mem (by simpa using different.symm)]

theorem among_soleChild_self (keepsName : ∀ e, (change e).localName = e.localName)
    (found : e.child? name = some kept) :
    (e.soleChild name change).among [name] = [change kept] :=
  among_changeChild_keepOne keepsName (List.mem_singleton_self name) found

theorem among_soleChild_of_ne (keepsName : ∀ e, (change e).localName = e.localName)
    (different : name ≠ other) :
    (e.soleChild name change).among [other] = e.among [other] := by
  unfold among soleChild changeChild keepOne
  rw [filter_changeFirst_of_ne keepsName different, filter_keepFirst_of_ne different]

theorem soleChild_of_cons {first : Element} {rest : List Element}
    (children : e.children = first :: rest) (named : first.localName = name) :
    e.soleChild name change =
      { e with children := change first :: rest.filter (!isAmong [name] ·) } := by
  simp only [soleChild, keepOne, children, keepFirst, changeChild, changeFirst, if_pos named]

theorem soleChild_of_cons_cons {first second : Element} {rest : List Element}
    (children : e.children = first :: second :: rest) (unnamed : first.localName ≠ name)
    (named : second.localName = name) :
    e.soleChild name change =
      { e with children := first :: change second :: rest.filter (!isAmong [name] ·) } := by
  have unlisted : ¬ isAmong [name] first = true := by simpa [isAmong] using unnamed
  simp only [soleChild, keepOne, children, keepFirst, changeChild, changeFirst, if_neg unnamed,
    if_neg unlisted, if_pos named]

theorem filter_not_isAmong_of_named {elements : List Element}
    (named : ∀ element ∈ elements, element.localName = name) :
    elements.filter (!isAmong [name] ·) = [] := by
  rw [List.filter_eq_nil_iff]
  intro element member
  simp [isAmong, named element member]

theorem filter_not_isAmong_of_unnamed {elements : List Element}
    (unnamed : ∀ element ∈ elements, element.localName ≠ name) :
    elements.filter (!isAmong [name] ·) = elements := by
  rw [List.filter_eq_self]
  intro element member
  simpa [isAmong] using unnamed element member

theorem localName_of_among (single : e.among [name] = [kept]) : kept.localName = name := by
  have listed : kept ∈ e.among [name] := by
    rw [single]
    exact List.mem_singleton_self kept
  exact List.mem_singleton.mp (mem_among.mp listed).2

theorem soleChild_eq_self (single : e.among [name] = [kept]) (unchanged : change kept = kept) :
    e.soleChild name change = e := by
  have named := localName_of_among single
  have found := child?_of_among single
  rw [named] at found
  rw [soleChild, keepOne_eq_self named single, changeChild_eq_self unchanged found]

end Ebms.Element
