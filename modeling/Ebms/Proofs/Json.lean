import Ebms.Json
import Ebms.Proofs.Text.Digits

/-! # JSON that is written reads back

What is written for a text is read as that text, whatever characters it has, and what is
written for an integer as the same literal.  Arrays and objects of values that read back
read back themselves, so that the reader takes from a written document the value that it
was written for. -/

set_option autoImplicit false

namespace Ebms.Json

/-! ## Texts -/

theorem hexFour?_append (a b c d : Char) (rest : List Char) :
    hexFour? (a :: b :: c :: d :: rest) =
      (hexFour? [a, b, c, d]).map fun (value, _) => (value, rest) := by
  simp only [hexFour?, Option.map_bind, Function.comp_def, Option.bind_eq_bind, Option.map_some]

theorem hexFour?_low : ∀ value : Fin 32,
    hexFour? ['0', '0', Nat.digitChar (value.val / 16), Nat.digitChar (value.val % 16)] =
      some (value.val, []) := by decide

theorem unicodeEscape?_low {c : Char} (low : c.toNat < 32) (rest : List Char) :
    unicodeEscape? ('0' :: '0' :: Nat.digitChar (c.toNat / 16) :: Nat.digitChar (c.toNat % 16) ::
      rest) = some (c, rest) := by
  have digits := hexFour?_low ⟨c.toNat, low⟩
  rw [unicodeEscape?, hexFour?_append, digits]
  have plain : ¬ (0xD800 ≤ c.toNat ∧ c.toNat < 0xDC00) := by omega
  have whole : ¬ (0xDC00 ≤ c.toNat ∧ c.toNat < 0xE000) := by omega
  simp [plain, whole, Char.ofNat_toNat]

theorem stringFrom_writtenChar (read : List Char) (fuel : Nat) (c : Char) (rest : List Char) :
    stringFrom read (fuel + 1) (writtenChar c ++ rest) = stringFrom (c :: read) fuel rest := by
  have back (code : Nat) (same : c.toNat = code) : c = Char.ofNat code := by
    rw [← same, Char.ofNat_toNat]
  unfold writtenChar
  split
  case isTrue quote => subst quote; rfl
  split
  case isTrue slash => subst slash; rfl
  split
  case isTrue code => rw [back 8 code]; rfl
  split
  case isTrue code => rw [back 12 code]; rfl
  split
  case isTrue newline => subst newline; rfl
  split
  case isTrue carriage => subst carriage; rfl
  split
  case isTrue tab => subst tab; rfl
  split
  case isTrue low =>
    simp [stringFrom, unicodeEscape?_low low]
  case isFalse quote slash _ _ _ _ _ high =>
    simp [stringFrom, quote, slash, high]

theorem stringFrom_written (chars read rest : List Char) (fuel : Nat)
    (enough : chars.length < fuel) :
    stringFrom read fuel (chars.flatMap writtenChar ++ '"' :: rest) =
      some (String.ofList (read.reverse ++ chars), rest) := by
  induction chars generalizing read fuel with
  | nil =>
      obtain ⟨fuel, rfl⟩ := Nat.exists_eq_succ_of_ne_zero (Nat.ne_of_gt enough)
      simp [stringFrom]
  | cons c chars inductionHypothesis =>
      obtain ⟨fuel, rfl⟩ := Nat.exists_eq_succ_of_ne_zero (Nat.ne_zero_of_lt enough)
      rw [List.flatMap_cons, List.append_assoc, stringFrom_writtenChar,
        inductionHypothesis _ _ (Nat.lt_of_succ_lt_succ enough)]
      simp

theorem length_le_flatMap_writtenChar (chars : List Char) :
    chars.length ≤ (chars.flatMap writtenChar).length := by
  induction chars with
  | nil => exact Nat.le_refl _
  | cons c chars inductionHypothesis =>
      have one : 1 ≤ (writtenChar c).length := by
        unfold writtenChar
        (repeat' split) <;> simp
      simp only [List.flatMap_cons, List.length_append, List.length_cons]
      omega

theorem toList_writtenString (text : String) (rest : List Char) :
    (writtenString text).toList ++ rest =
      '"' :: (text.toList.flatMap writtenChar ++ '"' :: rest) := by
  simp [writtenString]

theorem stringFrom_text (text : String) (rest : List Char) :
    stringFrom [] ((text.toList.flatMap writtenChar ++ '"' :: rest).length + 1)
      (text.toList.flatMap writtenChar ++ '"' :: rest) = some (text, rest) := by
  have enough : text.toList.length <
      (text.toList.flatMap writtenChar ++ '"' :: rest).length + 1 := by
    have fewer := length_le_flatMap_writtenChar text.toList
    rw [List.length_append]
    omega
  rw [stringFrom_written text.toList [] rest _ enough]
  simp

/-! ## Integers -/

/-- What may follow a number: nothing that would belong to it. -/
def EndsNumber (rest : List Char) : Prop :=
  ∀ c ∈ rest.head?, c.isDigit = false ∧ c ≠ '.' ∧ c ≠ 'e' ∧ c ≠ 'E'

theorem EndsNumber.takeWhile {rest : List Char} (ends : EndsNumber rest) :
    rest.takeWhile Char.isDigit = [] := by
  cases rest with
  | nil => rfl
  | cons c rest => simp [(ends c rfl).1]

theorem EndsNumber.dropWhile {rest : List Char} (ends : EndsNumber rest) :
    rest.dropWhile Char.isDigit = rest := by
  cases rest with
  | nil => rfl
  | cons c rest => simp [(ends c rfl).1]

theorem digits?_toDigits (value : Nat) {rest : List Char} (ends : EndsNumber rest) :
    digits? (Nat.toDigits 10 value ++ rest) = some (Nat.toDigits 10 value, rest) := by
  have digits : ∀ c ∈ Nat.toDigits 10 value, c.isDigit = true := fun c member =>
    Text.isDigit_of_mem_toDigits member
  rw [digits?, List.takeWhile_append_of_pos digits, List.dropWhile_append_of_pos digits,
    ends.takeWhile, ends.dropWhile, List.append_nil]
  split
  case h_1 none => exact absurd none Nat.toDigits_ne_nil
  case h_2 => rfl

theorem fraction?_of_ends {rest : List Char} (ends : EndsNumber rest) :
    fraction? rest = some ([], rest) := by
  cases rest with
  | nil => rfl
  | cons c rest =>
      unfold fraction?
      split
      case h_1 point => exact absurd (List.cons.inj point).1 (ends c rfl).2.1
      case h_2 => rfl

theorem exponent?_of_ends {rest : List Char} (ends : EndsNumber rest) :
    exponent? rest = some ([], rest) := by
  cases rest with
  | nil => rfl
  | cons c rest => simp [exponent?, (ends c rfl).2.2]

theorem toList_ofInt (value : Int) :
    (Text.ofInt value).toList =
      if value < 0 then '-' :: Nat.toDigits 10 value.natAbs
      else Nat.toDigits 10 value.natAbs := by
  by_cases negative : value < 0 <;> simp [Text.ofInt, negative]

theorem toDigits_append_ne (value : Nat) (rest more : List Char) :
    Nat.toDigits 10 value ++ rest ≠ '-' :: more := by
  intro same
  cases digits : Nat.toDigits 10 value with
  | nil => exact Nat.toDigits_ne_nil digits
  | cons first others =>
      have digit : first.isDigit = true :=
        Text.isDigit_of_mem_toDigits (digits ▸ List.mem_cons_self)
      rw [digits, List.cons_append] at same
      rw [(List.cons.inj same).1] at digit
      cases digit

theorem number?_ofInt (value : Int) {rest : List Char} (ends : EndsNumber rest) :
    number? ((Text.ofInt value).toList ++ rest) = some (Text.ofInt value, rest) := by
  have noZero : ¬ ((Nat.toDigits 10 value.natAbs).length > 1 ∧
      (Nat.toDigits 10 value.natAbs).head? = some '0') := by
    rintro ⟨long, zero⟩
    by_cases positive : 0 < value.natAbs
    · exact Text.head?_toDigits_ne_zero positive zero
    · rw [Nat.eq_zero_of_not_pos positive] at long
      exact absurd long (by decide)
  have literal : String.ofList (Text.ofInt value).toList = Text.ofInt value := String.ofList_toList
  rw [← literal, String.toList_ofList, toList_ofInt]
  split
  · simp [number?, digits?_toDigits _ ends, noZero, fraction?_of_ends ends, exponent?_of_ends ends]
  · rw [number?]
    · simp [digits?_toDigits _ ends, noZero, fraction?_of_ends ends, exponent?_of_ends ends]
    · exact toDigits_append_ne _ rest

theorem integer?_ofInt (value : Int) : (ofInt value).integer? = some value := by
  have digits := Text.decimal?_ofNat value.natAbs
  rw [Text.toList_ofNat] at digits
  have written := toList_ofInt value
  rw [ofInt, integer?, written]
  by_cases negative : value < 0
  · have magnitude : value.natAbs ≠ 0 := by omega
    have signed : -(value.natAbs : Int) = value := by omega
    rw [if_pos negative]
    simp only [digits, Option.bind_some, if_neg magnitude, signed]
  · have unsigned := toDigits_append_ne value.natAbs []
    have natural : (value.natAbs : Int) = value := by omega
    simp only [List.append_nil] at unsigned
    rw [if_neg negative]
    split
    case h_1 more same => exact absurd same (unsigned more)
    case h_2 => simpa [digits] using natural

/-! ## Values -/

/-- What is written for a value reads back, whatever follows it. -/
structure Reads (value : Json) : Prop where
  begins : ∃ c rest, value.render.toList = c :: rest ∧ isBlank c = false ∧ c ≠ ']'
  reads : ∀ fuel rest, value.render.toList.length ≤ fuel → EndsNumber rest →
    valueFrom fuel (value.render.toList ++ rest) = some (value, rest)

theorem dropWhile_isBlank {c : Char} (printed : isBlank c = false) (rest : List Char) :
    (c :: rest).dropWhile isBlank = c :: rest := by
  simp [printed]

theorem reads_string (text : String) : (string text).Reads where
  begins := ⟨'"', text.toList.flatMap writtenChar ++ ['"'], by simp [render, writtenString], rfl,
    by decide⟩
  reads := by
    intro fuel rest enough _
    cases fuel with
    | zero => simp [render, writtenString] at enough
    | succ fuel =>
        rw [render, toList_writtenString, valueFrom, dropWhile_isBlank rfl]
        simp only [stringFrom_text, Option.map_some]

theorem signOrDigit {c : Char} (number : c = '-' ∨ c.isDigit = true) :
    isBlank c = false ∧ c ≠ ']' := by
  rcases number with rfl | digit
  · decide
  · have different (other : Char) (noDigit : other.isDigit = false) : c ≠ other := by
      rintro rfl
      exact Bool.false_ne_true (noDigit.symm.trans digit)
    simp [isBlank, different]

/-- A sign or a digit begins a number and nothing else. -/
theorem valueFrom_number {c : Char} (number : c = '-' ∨ c.isDigit = true) (fuel : Nat)
    (rest : List Char) :
    valueFrom (fuel + 1) (c :: rest) =
      (number? (c :: rest)).map fun (literal, rest) => (.number literal, rest) := by
  have printed := (signOrDigit number).1
  rw [valueFrom, dropWhile_isBlank printed]
  split
  case h_7 => rfl
  all_goals
    rename_i same
    obtain ⟨rfl, -⟩ := List.cons.inj same
    rcases number with sign | digit
    · exact absurd sign (by decide)
    · exact absurd digit (by decide)

theorem exists_toList_ofInt (value : Int) :
    ∃ c rest, (Text.ofInt value).toList = c :: rest ∧ (c = '-' ∨ c.isDigit = true) := by
  rw [toList_ofInt]
  split
  · exact ⟨'-', _, rfl, .inl rfl⟩
  · cases digits : Nat.toDigits 10 value.natAbs with
    | nil => exact absurd digits Nat.toDigits_ne_nil
    | cons c rest =>
        exact ⟨c, rest, rfl, .inr (Text.isDigit_of_mem_toDigits (digits ▸ List.mem_cons_self))⟩

theorem reads_ofInt (value : Int) : (ofInt value).Reads where
  begins := by
    obtain ⟨c, rest, written, number⟩ := exists_toList_ofInt value
    exact ⟨c, rest, by rw [ofInt, render, written], signOrDigit number⟩
  reads := by
    intro fuel rest enough ends
    obtain ⟨c, more, written, number⟩ := exists_toList_ofInt value
    have read := number?_ofInt value ends
    rw [ofInt, render] at enough ⊢
    rw [written] at enough read ⊢
    cases fuel with
    | zero => cases enough
    | succ fuel =>
        rw [List.cons_append, valueFrom_number number, ← List.cons_append, read, Option.map_some]

/-! ### Rows -/

theorem endsNumber_cons {c : Char} (ends : c = ',' ∨ c = ']' ∨ c = '\x7d') (rest : List Char) :
    EndsNumber (c :: rest) := by
  intro first same
  cases same
  rcases ends with rfl | rfl | rfl <;> decide

theorem toList_renderItems_cons (item next : Json) (items : List Json) :
    (renderItems (item :: next :: items)).toList =
      item.render.toList ++ ',' :: (renderItems (next :: items)).toList := by
  simp [renderItems]

theorem itemsFrom_renderItems {items : List Json} (nonempty : items ≠ [])
    (each : ∀ item ∈ items, item.Reads) (read : List Json) (fuel : Nat) (rest : List Char)
    (enough : (renderItems items).toList.length < fuel) :
    itemsFrom read fuel ((renderItems items).toList ++ ']' :: rest) =
      some (.array (read.reverse ++ items), rest) := by
  induction items generalizing read fuel with
  | nil => exact absurd rfl nonempty
  | cons item items inductionHypothesis =>
      obtain ⟨fuel, rfl⟩ := Nat.exists_eq_succ_of_ne_zero (Nat.ne_zero_of_lt enough)
      have itemReads := each item List.mem_cons_self
      cases items with
      | nil =>
          -- The bracket behind the item ends a number, should the item be one.
          rw [renderItems] at enough ⊢
          rw [itemsFrom, itemReads.reads fuel _ (Nat.le_of_lt_succ enough)
            (endsNumber_cons (by simp) rest)]
          simp [dropWhile_isBlank (c := ']') rfl]
      | cons next items =>
          rw [toList_renderItems_cons, List.length_append, List.length_cons] at enough
          have later := inductionHypothesis (List.cons_ne_nil _ _)
            (fun other member => each other (List.mem_cons_of_mem _ member)) (item :: read)
            fuel (by omega)
          rw [toList_renderItems_cons, List.append_assoc, List.cons_append, itemsFrom,
            itemReads.reads fuel _ (by omega) (endsNumber_cons (by simp) _)]
          simp [dropWhile_isBlank (c := ',') rfl, later]

theorem toList_renderMembers_cons (name : String) (value : Json) (next : String × Json)
    (members : List (String × Json)) :
    (renderMembers ((name, value) :: next :: members)).toList =
      (writtenString name).toList ++
        ':' :: (value.render.toList ++ ',' :: (renderMembers (next :: members)).toList) := by
  simp [renderMembers]

theorem toList_renderMembers_singleton (name : String) (value : Json) :
    (renderMembers [(name, value)]).toList =
      (writtenString name).toList ++ ':' :: value.render.toList := by
  simp [renderMembers]

theorem membersFrom_renderMembers {members : List (String × Json)} (nonempty : members ≠ [])
    (each : ∀ member ∈ members, member.2.Reads) (read : List (String × Json)) (fuel : Nat)
    (rest : List Char) (enough : (renderMembers members).toList.length < fuel) :
    membersFrom read fuel ((renderMembers members).toList ++ '\x7d' :: rest) =
      some (.object (read.reverse ++ members), rest) := by
  induction members generalizing read fuel with
  | nil => exact absurd rfl nonempty
  | cons member members inductionHypothesis =>
      obtain ⟨name, value⟩ := member
      obtain ⟨fuel, rfl⟩ := Nat.exists_eq_succ_of_ne_zero (Nat.ne_zero_of_lt enough)
      have valueReads : value.Reads := each (name, value) List.mem_cons_self
      cases members with
      | nil =>
          rw [toList_renderMembers_singleton, List.length_append, List.length_cons] at enough
          rw [toList_renderMembers_singleton, List.append_assoc, toList_writtenString, membersFrom,
            dropWhile_isBlank rfl]
          simp only [stringFrom_text, List.cons_append, dropWhile_isBlank (c := ':') rfl]
          rw [valueReads.reads fuel _ (by omega) (endsNumber_cons (by simp) rest)]
          simp [dropWhile_isBlank (c := '\x7d') rfl]
      | cons next members =>
          rw [toList_renderMembers_cons, List.length_append, List.length_cons, List.length_append,
            List.length_cons] at enough
          have later := inductionHypothesis (List.cons_ne_nil _ _)
            (fun other member => each other (List.mem_cons_of_mem _ member))
            ((name, value) :: read) fuel (by omega)
          rw [toList_renderMembers_cons, List.append_assoc, toList_writtenString, membersFrom,
            dropWhile_isBlank rfl]
          simp only [stringFrom_text, List.cons_append, List.append_assoc,
            dropWhile_isBlank (c := ':') rfl]
          rw [valueReads.reads fuel _ (by omega) (endsNumber_cons (by simp) _)]
          simp [dropWhile_isBlank (c := ',') rfl, later]

theorem exists_toList_renderItems {items : List Json} (nonempty : items ≠ [])
    (each : ∀ item ∈ items, item.Reads) :
    ∃ c rest, (renderItems items).toList = c :: rest ∧ isBlank c = false ∧ c ≠ ']' := by
  cases items with
  | nil => exact absurd rfl nonempty
  | cons item items =>
      obtain ⟨c, rest, written, begins⟩ := (each item List.mem_cons_self).begins
      cases items with
      | nil => exact ⟨c, rest, by rw [renderItems, written], begins⟩
      | cons next items =>
          exact ⟨c, _, by rw [toList_renderItems_cons, written, List.cons_append], begins⟩

theorem reads_array {items : List Json} (each : ∀ item ∈ items, item.Reads) :
    (array items).Reads where
  begins := ⟨'[', (renderItems items).toList ++ [']'], by simp [render], rfl, by decide⟩
  reads := by
    intro fuel rest enough _
    have written : (array items).render.toList ++ rest =
        '[' :: ((renderItems items).toList ++ ']' :: rest) := by
      simp [render]
    have length : (array items).render.toList.length = (renderItems items).toList.length + 2 := by
      simp [render]
    obtain ⟨fuel, rfl⟩ := Nat.exists_eq_succ_of_ne_zero (n := fuel) (by omega)
    rw [written, valueFrom, dropWhile_isBlank rfl]
    by_cases nonempty : items = []
    · subst nonempty
      simp [renderItems, dropWhile_isBlank (c := ']') rfl]
    · have later := itemsFrom_renderItems nonempty each [] fuel rest (by omega)
      obtain ⟨c, more, front, printed, different⟩ := exists_toList_renderItems nonempty each
      rw [front, List.cons_append] at later ⊢
      simp [dropWhile_isBlank printed, different, later]

theorem exists_toList_renderMembers {members : List (String × Json)} (nonempty : members ≠ []) :
    ∃ rest, (renderMembers members).toList = '"' :: rest := by
  cases members with
  | nil => exact absurd rfl nonempty
  | cons member members =>
      obtain ⟨name, value⟩ := member
      cases members with
      | nil =>
          rw [toList_renderMembers_singleton, toList_writtenString]
          exact ⟨_, rfl⟩
      | cons next members =>
          rw [toList_renderMembers_cons, toList_writtenString]
          exact ⟨_, rfl⟩

theorem reads_object {members : List (String × Json)}
    (each : ∀ member ∈ members, member.2.Reads) : (object members).Reads where
  begins := ⟨'\x7b', (renderMembers members).toList ++ ['\x7d'], by simp [render], rfl, by decide⟩
  reads := by
    intro fuel rest enough _
    have written : (object members).render.toList ++ rest =
        '\x7b' :: ((renderMembers members).toList ++ '\x7d' :: rest) := by
      simp [render]
    have length :
        (object members).render.toList.length = (renderMembers members).toList.length + 2 := by
      simp [render]
    obtain ⟨fuel, rfl⟩ := Nat.exists_eq_succ_of_ne_zero (n := fuel) (by omega)
    rw [written, valueFrom, dropWhile_isBlank rfl]
    by_cases nonempty : members = []
    · subst nonempty
      simp [renderMembers, dropWhile_isBlank (c := '\x7d') rfl]
    · have later := membersFrom_renderMembers nonempty each [] fuel rest (by omega)
      obtain ⟨more, front⟩ := exists_toList_renderMembers nonempty
      rw [front, List.cons_append] at later ⊢
      simp [dropWhile_isBlank (c := '"') rfl, later]

theorem Reads.ofText?_render {value : Json} (reads : value.Reads) :
    ofText? value.render = some value := by
  have read := reads.reads (value.render.toList.length + 1) [] (Nat.le_succ _)
    (by simp [EndsNumber])
  rw [List.append_nil] at read
  simp [ofText?, read]

end Ebms.Json
