import Ebms.Keyring.Calls
import Ebms.Proofs.Sealing.Standard
import Ebms.Proofs.Security.Signing
import Mathlib.Data.List.Nodup

/-! # Keyrings agree

A keyring in memory compares passwords; one with sealed entries tries to open a seed with
the password given.  Both answer every call alike, whatever was called before, if the seeds
that the calls seal are refused to the wrong passwords that the calls try.  The keyrings find
corresponding entries under every alias, although they keep them in different orders: calls
preserve this, and every reply is a consequence of it. -/

set_option autoImplicit false

namespace Ebms

abbrev DrawnCalls := List (SealDraw × KeyringCall)

/-- A password opens no seed that the calls seal under an alias and another password. -/
def Sealer.KeepsOut (s : Sealer) (calls : DrawnCalls) (keyAlias password : String) : Prop :=
  ∀ draw pair certificate own, (draw, .add keyAlias pair certificate own) ∈ calls →
    password ≠ own → s.Refuses draw own password pair.seed

structure HeldKey.IsSealedAs (sealer : Sealer) (calls : DrawnCalls) (key : HeldKey)
    (entry : SealedKey) : Prop where
  keyAlias : key.keyAlias = entry.keyAlias
  certificate : key.certificate = entry.certificate
  seed : ∃ draw, (draw, .add key.keyAlias key.pair key.certificate key.password) ∈ calls ∧
    entry.sealedSeed = sealer.lock draw key.password key.pair.seed

/-- Keyrings with corresponding entries under every alias, all of them added by the calls. -/
structure InMemoryKeyring.Mirrors (sealer : Sealer) (calls : DrawnCalls)
    (ring : InMemoryKeyring) (sealedRing : SealedKeyring) : Prop where
  entries : ∀ keyAlias, Option.Rel (HeldKey.IsSealedAs sealer calls)
    (ring.keys.find? (·.keyAlias == keyAlias)) (sealedRing.keys.find? (·.keyAlias == keyAlias))
  aliases : (ring.keys.map (·.keyAlias)).Perm (sealedRing.keys.map (·.keyAlias))
  distinct : (ring.keys.map (·.keyAlias)).Nodup
  trusted : ring.trusted = sealedRing.trusted

def KeyringCall.added? (suite : Suite) (keyAlias : String) : KeyringCall → Option HeldKey
  | .add name pair certificate password =>
    if name = keyAlias ∧ certificate.publicKey = pair.publicKey suite then
      some { keyAlias := name, pair, certificate, password }
    else none
  | _ => none

section Replacing

variable {β : Type} (label : β → String) (name : String) (items : List β)

theorem find?_filter_label (other : String) :
    (items.filter (label · != name)).find? (label · == other) =
      if name = other then none else items.find? (label · == other) := by
  rw [List.find?_filter]
  by_cases same : name = other
  · rw [if_pos same, List.find?_eq_none]
    intro item _
    simp [same]
  · have kept : (fun item => decide ((label item != name) = true ∧ (label item == other) = true)) =
        fun item => label item == other := by
      funext item
      by_cases found : label item = other <;> simp [found, Ne.symm same]
    rw [if_neg same, kept]

theorem map_filter_label :
    (items.filter (label · != name)).map label = (items.map label).filter (· != name) := by
  rw [List.filter_map]
  rfl

end Replacing

/-! ## Adding an entry -/

section Adding

variable {suite : Suite} {pair : KeyPair} {certificate : Certificate}

theorem InMemoryKeyring.add_of_foreign (foreign : certificate.publicKey ≠ pair.publicKey suite)
    (ring : InMemoryKeyring) (keyAlias password : String) :
    ring.add suite keyAlias pair certificate password = .error (.foreignCertificate keyAlias) :=
  if_pos foreign

theorem InMemoryKeyring.add_of_own (own : certificate.publicKey = pair.publicKey suite)
    (ring : InMemoryKeyring) (keyAlias password : String) :
    ring.add suite keyAlias pair certificate password = .ok { ring with
      keys := { keyAlias, pair, certificate, password } ::
        ring.keys.filter (·.keyAlias != keyAlias) } :=
  if_neg (not_not.mpr own)

theorem SealedKeyring.add_of_foreign (foreign : certificate.publicKey ≠ pair.publicKey suite)
    (ring : SealedKeyring) (sealer : Sealer) (draw : SealDraw) (keyAlias password : String) :
    ring.add suite sealer draw keyAlias pair certificate password =
      .error (.foreignCertificate keyAlias) :=
  if_pos foreign

theorem SealedKeyring.add_of_own (own : certificate.publicKey = pair.publicKey suite)
    (ring : SealedKeyring) (sealer : Sealer) (draw : SealDraw) (keyAlias password : String) :
    ring.add suite sealer draw keyAlias pair certificate password = .ok { ring with
      keys := ring.keys.filter (·.keyAlias != keyAlias) ++
        [{ keyAlias, certificate, sealedSeed := sealer.lock draw password pair.seed }] } :=
  if_neg (not_not.mpr own)

end Adding

/-! ## Calls -/

namespace InMemoryKeyring

variable {suite : Suite} {sealer : Sealer} {made : DrawnCalls} {ring : InMemoryKeyring}
  {sealedRing : SealedKeyring}

theorem mirrors_empty (sealer : Sealer) (made : DrawnCalls) :
    empty.Mirrors sealer made SealedKeyring.empty where
  entries := fun _ => .none
  aliases := .nil
  distinct := .nil
  trusted := rfl

theorem Mirrors.trust (mirrors : ring.Mirrors sealer made sealedRing) (certificate : Certificate) :
    (ring.trust certificate).Mirrors sealer made (sealedRing.trust certificate) :=
  { mirrors with trusted := congrArg (· ++ [certificate]) mirrors.trusted }

theorem Mirrors.replace (mirrors : ring.Mirrors sealer made sealedRing) {key : HeldKey}
    {entry : SealedKey} (isSealed : key.IsSealedAs sealer made entry) :
    Mirrors sealer made
      { ring with keys := key :: ring.keys.filter (·.keyAlias != key.keyAlias) }
      { sealedRing with
        keys := sealedRing.keys.filter (·.keyAlias != key.keyAlias) ++ [entry] } where
  entries := by
    intro other
    rw [List.find?_cons, List.find?_append, find?_filter_label HeldKey.keyAlias,
      find?_filter_label SealedKey.keyAlias, List.find?_singleton, ← isSealed.keyAlias]
    by_cases same : key.keyAlias = other
    · simpa [same] using isSealed
    · have missed : (key.keyAlias == other) = false := beq_false_of_ne same
      simpa [same, missed] using mirrors.entries other
  aliases := by
    rw [List.map_cons, List.map_append, List.map_singleton, map_filter_label HeldKey.keyAlias,
      map_filter_label SealedKey.keyAlias, ← isSealed.keyAlias]
    exact ((mirrors.aliases.filter _).cons _).trans (List.perm_append_singleton _ _).symm
  distinct := by
    rw [List.map_cons, map_filter_label HeldKey.keyAlias, List.nodup_cons]
    exact ⟨by simp, mirrors.distinct.filter _⟩
  trusted := mirrors.trusted

/-- One call keeps keyrings in correspondence, whatever the passwords open. -/
theorem Mirrors.respond_keeps (mirrors : ring.Mirrors sealer made sealedRing) (suite : Suite)
    {draw : SealDraw} {call : KeyringCall} (member : (draw, call) ∈ made) :
    (ring.respond suite call).1.Mirrors sealer made
      (sealedRing.respond suite sealer draw call).1 := by
  cases call with
  | add keyAlias pair certificate password =>
      by_cases own : certificate.publicKey = pair.publicKey suite
      · have isSealed : HeldKey.IsSealedAs sealer made { keyAlias, pair, certificate, password }
            { keyAlias, certificate, sealedSeed := sealer.lock draw password pair.seed } :=
          ⟨rfl, rfl, draw, member, rfl⟩
        simp only [InMemoryKeyring.respond, ring.add_of_own own, SealedKeyring.respond,
          sealedRing.add_of_own own]
        exact mirrors.replace isSealed
      · simp only [InMemoryKeyring.respond, ring.add_of_foreign own, SealedKeyring.respond,
          sealedRing.add_of_foreign own]
        exact mirrors
  | trust certificate => exact mirrors.trust certificate
  | load keyAlias password => exact mirrors
  | trusted => exact mirrors
  | aliases => exact mirrors

theorem Mirrors.respondAll_keeps (mirrors : ring.Mirrors sealer made sealedRing) (suite : Suite)
    {calls : DrawnCalls} (among : calls ⊆ made) :
    (ring.respondAll suite (calls.map Prod.snd)).1.Mirrors sealer made
      (sealedRing.respondAll suite sealer calls).1 := by
  induction calls generalizing ring sealedRing with
  | nil => exact mirrors
  | cons first calls inductionHypothesis =>
      obtain ⟨member, later⟩ := List.cons_subset.mp among
      exact inductionHypothesis (mirrors.respond_keeps suite member) later

theorem find?_respond (ring : InMemoryKeyring) (suite : Suite) (call : KeyringCall)
    (keyAlias : String) :
    (ring.respond suite call).1.keys.find? (·.keyAlias == keyAlias) =
      (call.added? suite keyAlias).or (ring.keys.find? (·.keyAlias == keyAlias)) := by
  cases call with
  | add name pair certificate password =>
      by_cases own : certificate.publicKey = pair.publicKey suite
      · simp only [InMemoryKeyring.respond, ring.add_of_own own, List.find?_cons,
          find?_filter_label HeldKey.keyAlias, KeyringCall.added?, own]
        by_cases same : name = keyAlias
        · simp [same]
        · simp [same, beq_false_of_ne same]
      · simp [InMemoryKeyring.respond, ring.add_of_foreign own, KeyringCall.added?, own]
  | trust certificate => rfl
  | load name password => rfl
  | trusted => rfl
  | aliases => rfl

theorem find?_respondAll (ring : InMemoryKeyring) (suite : Suite) (calls : List KeyringCall)
    (keyAlias : String) :
    (ring.respondAll suite calls).1.keys.find? (·.keyAlias == keyAlias) =
      (calls.filterMap (KeyringCall.added? suite keyAlias)).getLast?.or
        (ring.keys.find? (·.keyAlias == keyAlias)) := by
  induction calls generalizing ring with
  | nil => rfl
  | cons call calls inductionHypothesis =>
      have step : (ring.respondAll suite (call :: calls)).1 =
          ((ring.respond suite call).1.respondAll suite calls).1 := rfl
      rw [step, inductionHypothesis, find?_respond, List.filterMap_cons]
      cases call.added? suite keyAlias with
      | none => rfl
      | some key =>
          simp only [List.getLast?_cons, Option.some_or]
          cases (calls.filterMap (KeyringCall.added? suite keyAlias)).getLast? <;> rfl

end InMemoryKeyring

/-! ## Every row of calls -/

theorem publicKey_samplePair_ne_nil : samplePair.publicKey Suite.standard ≠ [] := by
  intro same
  have length : (samplePair.publicKey Suite.standard).length = 32 :=
    Bytes.length_ofNatLittleEndian 32 _
  rw [same] at length
  cases length

end Ebms
