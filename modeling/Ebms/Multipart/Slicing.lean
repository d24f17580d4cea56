import Ebms.Multipart

/-! # Reading a multipart body by offsets

A body is taken apart at offsets: those of its delimiters, of the ends of lines and of the
end of each header.  Here every piece is cut out between two of them.  A piece that ends
before it starts or reaches beyond the end cannot be cut out: there is no result at all then,
not even a fault. -/

set_option autoImplicit false

namespace Ebms

namespace Bytes

def windows (width : Nat) (bytes : Bytes) : List Bytes :=
  (List.range (bytes.length + 1 - width)).map fun start => (bytes.drop start).take width

def windows? (width : Nat) (bytes : Bytes) : Option (List Bytes) :=
  if width = 0 then none else some (windows width bytes)

def offsetFrom? (bytes pattern : Bytes) (start : Nat) : Option (Option Nat) :=
  if bytes.length ≤ start ∨ pattern = [] then some none
  else do
    let rest ← bytes.slice? start bytes.length
    let pieces ← windows? pattern.length rest
    some ((pieces.findIdx? (· == pattern)).map (· + start))

variable {bytes pattern : Bytes} {start offset : Nat}

theorem forward_of_offsetFrom? (found : bytes.offsetFrom? pattern start = some (some offset)) :
    start < bytes.length ∧ start < offset + pattern.length := by
  unfold offsetFrom? at found
  split at found
  case isTrue => cases found
  case isFalse begun =>
    rw [not_or, Nat.not_le, ← ne_eq, ← List.length_pos_iff] at begun
    obtain ⟨rest, -, found⟩ := Option.bind_eq_some_iff.mp found
    obtain ⟨pieces, -, found⟩ := Option.bind_eq_some_iff.mp found
    obtain ⟨place, -, rfl⟩ := Option.map_eq_some_iff.mp (Option.some.inj found)
    omega

end Bytes

namespace Multipart

/-- A computation that cuts bytes.  It fails, or breaks off without a result. -/
abbrev Slicing (α : Type) := ExceptT MultipartFault Option α

namespace Slicing

/-- The offsets from one on at which a delimiter stands at the start of a line.  The search
goes on behind every delimiter that it meets. -/
def delimiterOffsetsFrom (body delimiter : Bytes) (start : Nat) : Option (List Nat) :=
  match _ : body.offsetFrom? delimiter start with
  | none => none
  | some none => some []
  | some (some offset) => do
    let before ← body.slice? 0 offset
    let later ← delimiterOffsetsFrom body delimiter (offset + delimiter.length)
    some (if offset = 0 ∨ lineBreak.isSuffixOf before then offset :: later else later)
termination_by body.length - start
decreasing_by
  have forward := Bytes.forward_of_offsetFrom? ‹_›
  omega

def skipLine (body : Bytes) (offset : Nat) : Option Nat := do
  match ← body.offsetFrom? lineBreak offset with
  | none => some body.length
  | some found => some (found + lineBreak.length)

def takePart (raw : Bytes) : Slicing Part := do
  match ← liftM (raw.offsetFrom? (lineBreak ++ lineBreak) 0) with
  | none => throw .unterminatedHeader
  | some split =>
    let header ← liftM (raw.slice? 0 split)
    match Bytes.text? header with
    | none => throw .headerNotText
    | some header =>
      let data ← liftM (raw.slice? (split + 4) raw.length)
      pure ((linesFrom [] [] header.toList).foldl Part.addHeader
        { mediaType := none, contentId := none, data })

def takeParts (body : Bytes) (width : Nat) : List Nat → Slicing (List Part × Bool)
  | [] => pure ([], false)
  | offset :: others => do
    let after := offset + width
    let rest ← liftM (body.slice? after body.length)
    if dashes.isPrefixOf rest then pure ([], true)
    else
      match others.head? with
      | none => pure ([], false)
      | some next =>
        let start ← liftM (skipLine body after)
        let stop := max (next - lineBreak.length) start
        let raw ← liftM (body.slice? start stop)
        let part ← takePart raw
        let (parts, closed) ← takeParts body width others
        pure (part :: parts, closed)

def takeOut (parts : List Part) (index : Nat) : Slicing Related := do
  let root ← liftM parts[index]?
  let attachments ← liftExcept ((parts.eraseIdx index).mapM Part.attachment)
  pure { root := root.data, attachments }

def takeRoot (start : Option String) (parts : List Part) : Slicing Related := do
  let rootIndex ← match start with
    | none => pure 0
    | some start =>
      match parts.findIdx? (·.contentId == some start) with
      | some index => pure index
      | none => throw (.missingStart start)
  if parts.isEmpty then throw .noParts else takeOut parts rootIndex

/-- Splits a multipart body into its root document and attachments. -/
def takeApart (contentType : String) (body : Bytes) : Slicing Related :=
  match parameter? contentType "boundary" with
  | none => throw .missingBoundary
  | some boundary => do
    let delimiter := dashes ++ Bytes.ofText boundary
    let offsets ← liftM (delimiterOffsetsFrom body delimiter 0)
    if offsets.isEmpty then throw .noDelimiter
    else
      let (parts, closed) ← takeParts body delimiter.length offsets
      if closed then takeRoot ((parameter? contentType "start").map stripBrackets) parts
      else throw .notClosed

end Slicing

end Multipart

end Ebms
