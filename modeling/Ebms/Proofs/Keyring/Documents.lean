import Ebms.Keyring.Sealed
import Ebms.Proofs.Json
import Ebms.Proofs.Text.Encoding

/-! # The document of a keyring

A keyring is written as a JSON document of texts, integers, lists and tables.  Each of these
reads back as the data that it was written for, and the records read their own fields again,
so that the document of a keyring is read as that keyring. -/

set_option autoImplicit false

namespace Ebms

/-! ## Data -/

namespace Datum

/-- What is written for data in JSON reads back and stands for the same data. -/
structure IsExact (d : Datum) : Prop where
  reads : d.toJson.Reads
  same : ofJson d.toJson = d

theorem jsonOfItems_eq_map (items : List Datum) : jsonOfItems items = items.map toJson := by
  induction items with
  | nil => rfl
  | cons item items inductionHypothesis => rw [jsonOfItems, inductionHypothesis, List.map_cons]

theorem jsonOfEntries_eq_map (entries : List (String × Datum)) :
    jsonOfEntries entries = entries.map fun (name, value) => (name, value.toJson) := by
  induction entries with
  | nil => rfl
  | cons entry entries inductionHypothesis =>
      rw [jsonOfEntries, inductionHypothesis, List.map_cons]

theorem isExact_text (text : String) : (Datum.text text).IsExact where
  reads := Json.reads_string text
  same := rfl

theorem isExact_integer (value : Int) : (Datum.integer value).IsExact where
  reads := Json.reads_ofInt value
  same := by
    have read := Json.integer?_ofInt value
    rw [Json.ofInt] at read
    simp only [toJson, Json.ofInt, ofJson, read]

theorem isExact_list {items : List Datum} (each : ∀ item ∈ items, item.IsExact) :
    (Datum.list items).IsExact where
  reads := by
    rw [toJson, jsonOfItems_eq_map]
    refine Json.reads_array fun value member => ?_
    obtain ⟨item, isItem, rfl⟩ := List.mem_map.mp member
    exact (each item isItem).reads
  same := by
    rw [toJson, ofJson]
    congr 1
    induction items with
    | nil => rfl
    | cons item items inductionHypothesis =>
        rw [jsonOfItems, ofJsonItems, (each item List.mem_cons_self).same,
          inductionHypothesis fun other member => each other (List.mem_cons_of_mem _ member)]

theorem isExact_table {entries : List (String × Datum)}
    (each : ∀ entry ∈ entries, entry.2.IsExact) : (Datum.table entries).IsExact where
  reads := by
    rw [toJson, jsonOfEntries_eq_map]
    refine Json.reads_object fun value member => ?_
    obtain ⟨entry, isEntry, rfl⟩ := List.mem_map.mp member
    exact (each entry isEntry).reads
  same := by
    rw [toJson, ofJson]
    congr 1
    induction entries with
    | nil => rfl
    | cons entry entries inductionHypothesis =>
        rw [jsonOfEntries, ofJsonMembers, (each entry List.mem_cons_self).same,
          inductionHypothesis fun other member => each other (List.mem_cons_of_mem _ member)]

theorem list?_map {α : Type} {read : Datum → Option α} {write : α → Datum}
    (back : ∀ value, read (write value) = some value) (values : List α) :
    (Datum.list (values.map write)).list? read = some values := by
  rw [list?]
  induction values with
  | nil => rfl
  | cons value values inductionHypothesis =>
      rw [List.map_cons, List.mapM_cons, back, inductionHypothesis]
      rfl

theorem below?_integer {value bound : Nat} (small : value < bound) :
    (Datum.integer value).below? bound = some value :=
  if_pos small

theorem fields?_table {surplus : Bool} {names : List String} {entries : List (String × Datum)}
    (known : entries.map Prod.fst = names) (distinct : names.Nodup) :
    (Datum.table entries).fields? surplus names = some entries := by
  have kept : entries.filter (fun entry => names.contains entry.1) = entries := by
    refine List.filter_eq_self.mpr fun entry member => ?_
    rw [List.contains_iff_mem, ← known]
    exact List.mem_map_of_mem member
  rw [fields?, kept]
  exact if_pos (known ▸ distinct)

end Datum

/-! ## Records -/

theorem bind_eq_of_eq_some {α β : Type} {value : Option α} {next : α → Option β} {a : α} {b : β}
    (success : value = some a) (rest : next a = some b) : (value >>= next) = some b := by
  rw [success]
  exact rest

theorem isExact_bytesToDatum (bytes : Bytes) : (bytesToDatum bytes).IsExact := by
  refine Datum.isExact_list fun item member => ?_
  obtain ⟨byte, -, rfl⟩ := List.mem_map.mp member
  exact Datum.isExact_integer _

theorem bytesOfDatum?_bytesToDatum (bytes : Bytes) :
    bytesOfDatum? (bytesToDatum bytes) = some bytes := by
  refine Datum.list?_map (fun byte => ?_) bytes
  have small : byte.toNat < 256 := byte.toNat_lt
  rw [Datum.below?_integer small, Option.map_some, UInt8.ofNat_toNat]

namespace Certificate

theorem isExact_toDatum (c : Certificate) : c.toDatum.IsExact := by
  refine Datum.isExact_table fun entry member => ?_
  simp only [List.mem_cons, List.not_mem_nil, or_false] at member
  rcases member with rfl | rfl | rfl | rfl | rfl | rfl | rfl | rfl
  · exact Datum.isExact_integer _
  · exact Datum.isExact_integer _
  · exact Datum.isExact_text _
  · exact Datum.isExact_text _
  · exact Datum.isExact_integer _
  · exact Datum.isExact_integer _
  · exact isExact_bytesToDatum _
  · exact isExact_bytesToDatum _

theorem secondsOfDatum?_toInt (seconds : Int64) :
    secondsOfDatum? (.integer seconds.toInt) = some seconds := by
  have fits : Datum.fitsInt64 seconds.toInt = true :=
    decide_eq_true ⟨seconds.minValue_le_toInt, seconds.toInt_le⟩
  rw [secondsOfDatum?, if_pos fits, Int64.ofInt_toInt]

theorem ofDatum?_toDatum (c : Certificate) : ofDatum? c.toDatum = some c := by
  have version : c.version.toNat < UInt8.size := c.version.toNat_lt
  have serial : c.serial.toNat < UInt64.size := c.serial.toNat_lt
  rw [ofDatum?, toDatum, Datum.fields?_table (by rfl) (by decide)]
  refine bind_eq_of_eq_some rfl ?_
  refine bind_eq_of_eq_some rfl (bind_eq_of_eq_some (Datum.below?_integer version) ?_)
  refine bind_eq_of_eq_some rfl (bind_eq_of_eq_some (Datum.below?_integer serial) ?_)
  refine bind_eq_of_eq_some rfl (bind_eq_of_eq_some rfl ?_)
  refine bind_eq_of_eq_some rfl (bind_eq_of_eq_some rfl ?_)
  refine bind_eq_of_eq_some rfl (bind_eq_of_eq_some (secondsOfDatum?_toInt _) ?_)
  refine bind_eq_of_eq_some rfl (bind_eq_of_eq_some (secondsOfDatum?_toInt _) ?_)
  refine bind_eq_of_eq_some rfl (bind_eq_of_eq_some (bytesOfDatum?_bytesToDatum _) ?_)
  refine bind_eq_of_eq_some rfl (bind_eq_of_eq_some (bytesOfDatum?_bytesToDatum _) ?_)
  rw [UInt8.ofNat_toNat, UInt64.ofNat_toNat]

end Certificate

namespace SealedKey

theorem isExact_toDatum (k : SealedKey) : k.toDatum.IsExact := by
  refine Datum.isExact_table fun entry member => ?_
  simp only [List.mem_cons, List.not_mem_nil, or_false] at member
  rcases member with rfl | rfl | rfl
  · exact Datum.isExact_text _
  · exact k.certificate.isExact_toDatum
  · exact isExact_bytesToDatum _

theorem ofDatum?_toDatum (k : SealedKey) : ofDatum? k.toDatum = some k := by
  rw [ofDatum?, toDatum, Datum.fields?_table (by rfl) (by decide)]
  refine bind_eq_of_eq_some rfl ?_
  refine bind_eq_of_eq_some rfl (bind_eq_of_eq_some rfl ?_)
  refine bind_eq_of_eq_some rfl (bind_eq_of_eq_some k.certificate.ofDatum?_toDatum ?_)
  exact bind_eq_of_eq_some rfl (bind_eq_of_eq_some (bytesOfDatum?_bytesToDatum _) rfl)

end SealedKey

namespace SealedKeyring

theorem isExact_toDatum (ring : SealedKeyring) : ring.toDatum.IsExact := by
  refine Datum.isExact_table fun entry member => ?_
  simp only [List.mem_cons, List.not_mem_nil, or_false] at member
  rcases member with rfl | rfl
  · refine Datum.isExact_list fun item inKeys => ?_
    obtain ⟨key, -, rfl⟩ := List.mem_map.mp inKeys
    exact key.isExact_toDatum
  · refine Datum.isExact_list fun item inTrusted => ?_
    obtain ⟨certificate, -, rfl⟩ := List.mem_map.mp inTrusted
    exact certificate.isExact_toDatum

theorem ofDatum?_toDatum (ring : SealedKeyring) : ofDatum? ring.toDatum = some ring := by
  rw [ofDatum?, toDatum, Datum.fields?_table (by rfl) (by decide)]
  have keys := Datum.list?_map SealedKey.ofDatum?_toDatum ring.keys
  have trusted := Datum.list?_map Certificate.ofDatum?_toDatum ring.trusted
  refine bind_eq_of_eq_some rfl ?_
  refine bind_eq_of_eq_some rfl (bind_eq_of_eq_some keys ?_)
  exact bind_eq_of_eq_some rfl (bind_eq_of_eq_some trusted rfl)

/-- The document of a keyring, whatever is in it, is read as that keyring. -/
theorem ofBytes_toBytes (ring : SealedKeyring) : ofBytes ring.toBytes = .ok ring := by
  have exact := ring.isExact_toDatum
  rw [ofBytes, toBytes, Bytes.text?_ofText, Option.bind_some, exact.reads.ofText?_render,
    Option.bind_some, exact.same, ofDatum?_toDatum]

end SealedKeyring

end Ebms
