import Ebms.Proofs.Files
import Ebms.Proofs.Keyring.Agreement
import Ebms.Proofs.Keyring.Documents
import Mathlib.Data.List.Dedup

/-! # A saved keyring reopens to itself

Saving writes the document of a keyring, sealed under its password, in place of a file.
Opening reads that file, unlocks the document and reads it, which gives the same keyring
again, the sealed seeds included: every alias unlocks as before, to what was added last, and
which aliases and trusted certificates there are goes by the calls that filled the keyring. -/

set_option autoImplicit false

namespace Ebms

namespace SealedKeyring

variable {sealer : Sealer}

theorem ofFile_toFile (decrypts : sealer.Decrypts) (draw : SealDraw) (ring : SealedKeyring)
    (password : String) :
    ofFile sealer password (ring.toFile sealer draw password) = .ok ring := by
  rw [ofFile, toFile, decrypts.unlock_lock]
  exact ofBytes_toBytes ring

theorem save_of_replace {draw : SealDraw} {ring : SealedKeyring} {files saved : Files}
    {path password : String}
    (replaced : files.replace path (ring.toFile sealer draw password) = .ok saved) :
    ring.save sealer draw files path password = .ok saved := by
  rw [save, replaced]

/-- What is opened where a keyring was saved is that keyring. -/
theorem openFile_of_save (decrypts : sealer.Decrypts) {draw : SealDraw} {ring : SealedKeyring}
    {files saved : Files} {path password : String}
    (success : ring.save sealer draw files path password = .ok saved) :
    openFile sealer saved path password = .ok ring := by
  unfold save at success
  cases replaced : files.replace path (ring.toFile sealer draw password) with
  | error fault => rw [replaced] at success; cases success
  | ok changed =>
      rw [replaced] at success
      obtain rfl := Except.ok.inj success
      rw [openFile, Files.read_replace replaced]
      exact ofFile_toFile decrypts draw ring password

/-- What unlocking an alias comes to when an entry was added last under it. -/
structure Unlocks (sealer : Sealer) (calls : DrawnCalls) (ring : SealedKeyring)
    (keyAlias : String) (key : HeldKey) : Prop where
  own : ring.load sealer keyAlias key.password =
    .ok { keyAlias, pair := key.pair, certificate := key.certificate }
  certificate : ∀ password entry, ring.load sealer keyAlias password = .ok entry →
    entry.certificate = key.certificate
  other : ∀ password, password ≠ key.password → sealer.KeepsOut calls keyAlias password →
    ring.load sealer keyAlias password = .error .wrongPassword

structure Recalls (sealer : Sealer) (calls : DrawnCalls) (ring : SealedKeyring)
    (keyAlias : String) (last : Option HeldKey) : Prop where
  missing : last = none → ∀ password,
    ring.load sealer keyAlias password = .error (.missingEntry keyAlias)
  unlocks : ∀ key, last = some key → ring.Unlocks sealer calls keyAlias key

variable {ring : SealedKeyring} {keyAlias : String} {calls : DrawnCalls}

theorem load_of_missing (missing : ring.keys.find? (·.keyAlias == keyAlias) = none)
    (password : String) :
    ring.load sealer keyAlias password = .error (.missingEntry keyAlias) := by
  rw [load, missing]

theorem unlocks_of_isSealedAs (decrypts : sealer.Decrypts) {key : HeldKey} {entry : SealedKey}
    (found : ring.keys.find? (·.keyAlias == keyAlias) = some entry)
    (isSealed : key.IsSealedAs sealer calls entry) : ring.Unlocks sealer calls keyAlias key := by
  obtain ⟨draw, added, seed⟩ := isSealed.seed
  refine ⟨?_, fun password loaded success => ?_, fun password wrong keepsOut => ?_⟩
  · have pair : KeyPair.ofSeed? key.pair.seed = some key.pair := dif_pos key.pair.seed_length
    simp only [load, found, seed, decrypts.unlock_lock, pair, isSealed.certificate]
  · rw [load, found] at success
    simp only at success
    split at success
    case h_1 => cases success
    case h_2 =>
      split at success
      case h_1 =>
        cases success
        exact isSealed.certificate.symm
      case h_2 => cases success
  · have labelled : entry.keyAlias = keyAlias := by simpa using List.find?_some found
    rw [isSealed.keyAlias, labelled] at added
    have refuses := keepsOut draw key.pair key.certificate key.password added wrong
    simp only [load, found, seed, decrypts.unlock_lock_of_refuses refuses]

/-! ## What calls lead to -/

def lastAdded? (suite : Suite) (calls : DrawnCalls) (keyAlias : String) : Option HeldKey :=
  ((calls.map Prod.snd).filterMap (KeyringCall.added? suite keyAlias)).getLast?

def addedAlias? (suite : Suite) : SealDraw × KeyringCall → Option String
  | (_, .add keyAlias pair certificate _) =>
    if certificate.publicKey = pair.publicKey suite then some keyAlias else none
  | _ => none

def trusted? : SealDraw × KeyringCall → Option Certificate
  | (_, .trust certificate) => some certificate
  | _ => none

theorem dedup_append_cons {α : Type} [DecidableEq α] (before after : List α) (item : α) :
    (before.filter (· != item) ++ item :: after).dedup = (before ++ item :: after).dedup := by
  induction before with
  | nil => rfl
  | cons first before inductionHypothesis =>
      have kept : first ≠ item →
          (first ∈ before.filter (· != item) ++ item :: after ↔
            first ∈ before ++ item :: after) := by
        intro different
        simp [different]
      by_cases same : first = item
      · have again : first ∈ before ++ item :: after := by simp [same]
        rw [List.filter_cons_of_neg (by simp [same]), List.cons_append,
          List.dedup_cons_of_mem again, inductionHypothesis]
      · rw [List.filter_cons_of_pos (by simpa using same), List.cons_append, List.cons_append]
        by_cases again : first ∈ before ++ item :: after
        · rw [List.dedup_cons_of_mem again, List.dedup_cons_of_mem ((kept same).mpr again),
            inductionHypothesis]
        · rw [List.dedup_cons_of_notMem again,
            List.dedup_cons_of_notMem (mt (kept same).mp again), inductionHypothesis]

/-- Whatever the keyring holds, a call counts with those behind it by the alias that it adds and
the certificate that it makes trusted. -/
theorem respond_counts (ring : SealedKeyring) (suite : Suite) (sealer : Sealer)
    (call : SealDraw × KeyringCall) (later : List String) :
    ((ring.respond suite sealer call.1 call.2).1.aliases ++ later).dedup =
        (ring.aliases ++ ((addedAlias? suite call).toList ++ later)).dedup ∧
      (ring.respond suite sealer call.1 call.2).1.trusted =
        ring.trusted ++ (trusted? call).toList := by
  obtain ⟨draw, call⟩ := call
  cases call with
  | add keyAlias pair certificate password =>
      by_cases own : certificate.publicKey = pair.publicKey suite
      · simp only [respond, ring.add_of_own own, addedAlias?, if_pos own, trusted?, aliases,
          List.map_append, List.map_singleton, map_filter_label SealedKey.keyAlias,
          List.append_assoc, Option.toList, List.singleton_append, List.append_nil, and_true]
        exact dedup_append_cons _ _ _
      · simp only [respond, ring.add_of_foreign own, addedAlias?, if_neg own, trusted?,
          Option.toList, List.nil_append, List.append_nil, and_self]
  | trust certificate => exact ⟨rfl, rfl⟩
  | load name password => exact ⟨rfl, (List.append_nil _).symm⟩
  | trusted => exact ⟨rfl, (List.append_nil _).symm⟩
  | aliases => exact ⟨rfl, (List.append_nil _).symm⟩

theorem respondAll_counts (ring : SealedKeyring) (suite : Suite) (sealer : Sealer)
    (calls : DrawnCalls) :
    (ring.respondAll suite sealer calls).1.aliases.dedup =
        (ring.aliases ++ calls.filterMap (addedAlias? suite)).dedup ∧
      (ring.respondAll suite sealer calls).1.trusted =
        ring.trusted ++ calls.filterMap trusted? := by
  induction calls generalizing ring with
  | nil => simp [respondAll]
  | cons call calls inductionHypothesis =>
      obtain ⟨aliases, trusted⟩ := inductionHypothesis (ring.respond suite sealer call.1 call.2).1
      obtain ⟨first, one⟩ := ring.respond_counts suite sealer call
        (calls.filterMap (addedAlias? suite))
      refine ⟨?_, ?_⟩
      · rw [respondAll, aliases, first, List.filterMap_cons]
        cases addedAlias? suite call <;> rfl
      · rw [respondAll, trusted, one, List.filterMap_cons, List.append_assoc]
        cases trusted? call <;> rfl

theorem nodup_aliases_respondAll (sealer : Sealer) (suite : Suite) (calls : DrawnCalls) :
    (empty.respondAll suite sealer calls).1.aliases.Nodup := by
  have mirrors := (InMemoryKeyring.mirrors_empty sealer calls).respondAll_keeps suite
    (List.Subset.refl calls)
  exact mirrors.aliases.nodup_iff.mp mirrors.distinct

/-- The aliases stand in the order in which their last entries were added. -/
theorem aliases_respondAll (sealer : Sealer) (suite : Suite) (calls : DrawnCalls) :
    (empty.respondAll suite sealer calls).1.aliases =
      (calls.filterMap (addedAlias? suite)).dedup := by
  rw [← (nodup_aliases_respondAll sealer suite calls).dedup]
  exact (empty.respondAll_counts suite sealer calls).1

theorem trusted_respondAll (sealer : Sealer) (suite : Suite) (calls : DrawnCalls) :
    (empty.respondAll suite sealer calls).1.trusted = calls.filterMap trusted? :=
  (empty.respondAll_counts suite sealer calls).2

theorem recalls_respondAll (decrypts : sealer.Decrypts) (suite : Suite) (calls : DrawnCalls)
    (keyAlias : String) :
    (empty.respondAll suite sealer calls).1.Recalls sealer calls keyAlias
      (lastAdded? suite calls keyAlias) := by
  have mirrors := (InMemoryKeyring.mirrors_empty sealer calls).respondAll_keeps suite
    (List.Subset.refl calls)
  have entries := mirrors.entries keyAlias
  have nothing : InMemoryKeyring.empty.keys.find? (·.keyAlias == keyAlias) = none := rfl
  rw [InMemoryKeyring.find?_respondAll, nothing, Option.or_none] at entries
  change Option.Rel _ (lastAdded? suite calls keyAlias) _ at entries
  -- Either no call added an entry and none is found, or the one found is sealed for the last.
  generalize lastAdded? suite calls keyAlias = last at entries ⊢
  generalize found : (empty.respondAll suite sealer calls).1.keys.find?
    (·.keyAlias == keyAlias) = entry at entries
  cases entries with
  | none =>
      refine ⟨fun _ => load_of_missing found, ?_⟩
      intro key present
      cases present
  | @some key entry isSealed =>
      refine ⟨?_, ?_⟩
      · intro absent
        cases absent
      · intro other same
        cases same
        exact unlocks_of_isSealedAs decrypts found isSealed

/-! ## Every keyring that is saved -/

/-- A keyring that any calls have filled and that is saved opens as it was: the same aliases,
none twice and in the order in which they were last added, the same trusted certificates, which
are those that the calls made trusted, and the same answer for every alias and password, which
is the key and the certificate that were added last under the alias. -/
theorem openFile_save (decrypts : sealer.Decrypts) (suite : Suite) (calls : DrawnCalls)
    {draw : SealDraw} {files saved : Files} {path password : String} :
    let ring := (empty.respondAll suite sealer calls).1
    ring.save sealer draw files path password = .ok saved →
    ∃ reopened, openFile sealer saved path password = .ok reopened ∧
      reopened.aliases = ring.aliases ∧ reopened.aliases.Nodup ∧
      reopened.aliases = (calls.filterMap (addedAlias? suite)).dedup ∧
      reopened.trusted = ring.trusted ∧ reopened.trusted = calls.filterMap trusted? ∧
      (∀ keyAlias password,
        reopened.load sealer keyAlias password = ring.load sealer keyAlias password) ∧
      ∀ keyAlias, reopened.Recalls sealer calls keyAlias (lastAdded? suite calls keyAlias) := by
  intro ring success
  exact ⟨ring, openFile_of_save decrypts success, rfl, nodup_aliases_respondAll sealer suite calls,
    aliases_respondAll sealer suite calls, rfl, trusted_respondAll sealer suite calls,
    fun _ _ => rfl, recalls_respondAll decrypts suite calls⟩

def sampleDrawnCalls : DrawnCalls :=
  [.add "seller" samplePair sampleCertificate "first", .load "seller" "second",
    .add "seller" samplePair sampleCertificate "second",
    .add "seller" samplePair { sampleCertificate with publicKey := [] } "third",
    .trust sampleCertificate].map fun call => (default, call)

/-- The entry that was added with the second password is what the reopened file unlocks. -/
theorem openFile_save_sampleDrawnCalls :
    let ring := (empty.respondAll Suite.standard Sealer.standard sampleDrawnCalls).1
    let files := Files.emptyFolder "/keys"
    Sealer.standard.Decrypts ∧
    ∃ saved reopened,
      ring.save Sealer.standard default files "/keys/store.as4ks" "store" = .ok saved ∧
      openFile Sealer.standard saved "/keys/store.as4ks" "store" = .ok reopened ∧
      reopened.aliases = ["seller"] ∧ reopened.trusted = [sampleCertificate] ∧
      reopened.load Sealer.standard "seller" "second" = .ok sampleEntry ∧
      ∀ password, reopened.load Sealer.standard "buyer" password =
        .error (.missingEntry "buyer") := by
  intro ring files
  have own : sampleCertificate.publicKey = samplePair.publicKey Suite.standard := rfl
  have foreign : ¬ [] = samplePair.publicKey Suite.standard := publicKey_samplePair_ne_nil.symm
  have seller : lastAdded? Suite.standard sampleDrawnCalls "seller" = some
      { keyAlias := "seller", pair := samplePair, certificate := sampleCertificate,
        password := "second" } := by
    simp [lastAdded?, sampleDrawnCalls, KeyringCall.added?, List.filterMap_cons, own, foreign]
  have buyer : lastAdded? Suite.standard sampleDrawnCalls "buyer" = none := by
    simp [lastAdded?, sampleDrawnCalls, KeyringCall.added?]
  have names : (sampleDrawnCalls.filterMap (addedAlias? Suite.standard)).dedup = ["seller"] := by
    simp [sampleDrawnCalls, addedAlias?, List.filterMap_cons, own, foreign]
  have writable (data : Bytes) : ∃ saved, files.replace "/keys/store.as4ks" data = .ok saved := by
    rw [Files.replace, if_neg (by decide), if_neg (by decide), if_neg (by decide)]
    exact ⟨_, rfl⟩
  obtain ⟨saved, replaced⟩ := writable (ring.toFile Sealer.standard default "store")
  have success := save_of_replace replaced
  obtain ⟨reopened, isOpened, -, -, aliases, -, trusted, -, recalls⟩ :=
    openFile_save Sealer.decrypts_standard Suite.standard sampleDrawnCalls success
  have unlocked := (recalls "seller").unlocks _ seller
  have missing := (recalls "buyer").missing buyer
  exact ⟨Sealer.decrypts_standard, saved, reopened, success, isOpened, aliases.trans names, trusted,
    unlocked.own, missing⟩

end SealedKeyring

end Ebms
