import ConfigdExtra.InterfaceOptions
import ConfigdExtra.PathConfiguration
import ConfigdExtra.PropertyLists

/-!
# Stored passwords

A password is in a keychain, or in the configuration itself. One in the configuration is a string,
or the code units of one as data.

* `storedPassword`, `copyLegacyPassword` — what `set interface` stores, and what is read from it.
  The order of the bytes is guessed from the first one.
* `readsBack_iff`, `copyLegacyPassword_defined_iff` — when the guess is right, and when there is a
  first byte; `inlinePasswords_iff` puts them together.
* `KeychainCalls` — the calls for the keychains, which are not part of the code, and what is relied
  on of them.
* `extractPassword`, `removePassword` — a password is looked up, and removed.
* `removePassword_agrees` — what is found is removed, and what is removed is not found.
-/

namespace ConfigdExtra

open DeferredEdits

/-! ## Passwords in the configuration -/

/-- The bytes of a string in UTF-8. -/
def utf8Bytes (s : String) : List UInt8 := s.toByteArray.data.toList

theorem utf8Bytes_injective : Function.Injective utf8Bytes := by
  intro s t h
  exact String.toByteArray_inj.mp (ByteArray.ext (Array.toList_inj.mp h))

/-- An access that is not one to an object. -/
inductive ReadFault where
  /-- to a byte behind the last one -/
  | beyondData
  deriving DecidableEq

/-- `*CFDataGetBytePtr(data)` -/
def firstByte : List UInt8 → Except ReadFault UInt8
  | [] => .error .beyondData
  | b :: _ => .ok b

/-- `CFStringCreateWithBytes` and `CFStringCreateExternalRepresentation`: code units in UTF-8, if
they are characters -/
def externalRepresentation (units : List ℕ) : Option (List UInt8) :=
  (decodeUtf16 units).map fun cs => utf8Bytes (String.ofList cs)

/-- `__copy_legacy_password` -/
def copyLegacyPassword : Option PropertyList → Except ReadFault (Option (List UInt8))
  | none => .ok none
  | some (.data bytes) =>
    if bytes.length % 2 = 0 then do
      let first ← firstByte bytes
      let encoding := if first = 0x00 then ByteOrder.big else ByteOrder.little
      return externalRepresentation (encoding.units bytes)
    else .ok none
  | some (.string s) => if 0 < s.length then .ok (some (utf8Bytes s)) else .ok none
  | some _ => .ok none

/-- The object that a password in the configuration is, with the bytes in the order of the host. -/
def storedPassword : CFValue → Option PropertyList
  | .data units => some (.data (ByteOrder.little.bytes units))
  | _ => none

/-- The code units of a password. -/
def passwordUnits (s : String) : List ℕ := s.toList.flatMap utf16Units

theorem storedPassword_inlinePassword (s : String) :
    storedPassword (inlinePassword s) = some (.data (ByteOrder.little.bytes (passwordUnits s))) :=
  rfl

theorem isUnit16_of_mem_passwordUnits {s : String} {u : ℕ} (h : u ∈ passwordUnits s) :
    IsUnit16 u := by
  obtain ⟨c, -, hu⟩ := List.mem_flatMap.mp h
  exact isUnit16_of_mem_utf16Units hu

/-- Code units are read as a string just if they are its units. -/
theorem externalRepresentation_eq_iff {units : List ℕ} (hunits : ∀ u ∈ units, IsUnit16 u)
    (s : String) :
    externalRepresentation units = some (utf8Bytes s) ↔ units = passwordUnits s := by
  rw [externalRepresentation, Option.map_eq_some_iff, passwordUnits]
  constructor
  · rintro ⟨cs, hcs, h⟩
    obtain rfl : String.ofList cs = s := utf8Bytes_injective h
    rw [String.toList_ofList]
    exact (decodeUtf16_eq_some hunits).mp hcs
  · intro h
    exact ⟨s.toList, (decodeUtf16_eq_some hunits).mpr h, by rw [String.ofList_toList]⟩

/-- The password is read as it was stored. -/
def ReadsBack (s : String) : Prop :=
  copyLegacyPassword (storedPassword (inlinePassword s)) = .ok (some (utf8Bytes s))

/-- The first byte of the password is not zero, or the order of the bytes does not matter. -/
def OrderGuessed (s : String) : Prop :=
  (∃ u ∈ (passwordUnits s).head?, u % 256 ≠ 0) ∨
    passwordUnits s ≠ [] ∧ ∀ u ∈ passwordUnits s, u / 256 = u % 256

theorem map_swapBytes_eq_self_iff {us : List ℕ} :
    us.map swapBytes = us ↔ ∀ u ∈ us, u / 256 = u % 256 := by
  have hswap (u : ℕ) : swapBytes u = u ↔ u / 256 = u % 256 := by
    unfold swapBytes
    omega
  induction us with
  | nil => simp
  | cons u us ih => simp only [List.map_cons, List.cons.injEq, ih, hswap, List.forall_mem_cons]

theorem readsBack_iff (s : String) : ReadsBack s ↔ OrderGuessed s := by
  unfold ReadsBack OrderGuessed
  rw [storedPassword_inlinePassword]
  have hunits : ∀ u ∈ passwordUnits s, IsUnit16 u := fun u hu => isUnit16_of_mem_passwordUnits hu
  have hlength := ByteOrder.length_bytes .little (passwordUnits s)
  cases hus : passwordUnits s with
  | nil => simp [copyLegacyPassword, ByteOrder.bytes, firstByte, bind, Except.bind]
  | cons u us =>
    have hswapped : ∀ v ∈ (passwordUnits s).map swapBytes, IsUnit16 v := by
      rw [← ByteOrder.units_bytes_other hunits]
      exact fun v hv => ByteOrder.isUnit16_of_mem_units hv
    have hfirst : firstByte (ByteOrder.little.bytes (u :: us)) = .ok (UInt8.ofNat u) := rfl
    have hzero : UInt8.ofNat u = 0x00 ↔ u % 256 = 0 := by
      rw [← UInt8.toNat_inj]
      simp
    rw [copyLegacyPassword, ← hus, if_pos (by omega)]
    simp only [hus, hfirst, bind, Except.bind, pure, Except.pure, List.head?_cons, hzero]
    by_cases hu : u % 256 = 0
    · -- the bytes are read in the other order
      rw [if_pos hu, ← hus, ByteOrder.units_bytes_other hunits, Except.ok.injEq,
        externalRepresentation_eq_iff hswapped, map_swapBytes_eq_self_iff, hus]
      simp [hu]
    · rw [if_neg hu, ← hus, ByteOrder.units_bytes .little hunits, Except.ok.injEq,
        externalRepresentation_eq_iff hunits]
      simp [hu]

theorem copyLegacyPassword_defined_iff (bytes : List UInt8) :
    (∃ password, copyLegacyPassword (some (.data bytes)) = .ok password) ↔ bytes ≠ [] := by
  rw [copyLegacyPassword]
  cases bytes with
  | nil => simp [firstByte, bind, Except.bind]
  | cons b bytes =>
    simp only [firstByte, bind, Except.bind, pure, Except.pure, ne_eq, reduceCtorEq,
      not_false_eq_true, iff_true]
    split <;> exact ⟨_, rfl⟩

/-- A password is read as it was stored just if the order of its bytes is guessed, and data is
read just if there are bytes. -/
theorem inlinePasswords_iff (s : String) (bytes : List UInt8) :
    (ReadsBack s ↔ OrderGuessed s) ∧
      ((∃ password, copyLegacyPassword (some (.data bytes)) = .ok password) ↔ bytes ≠ []) :=
  ⟨readsBack_iff s, copyLegacyPassword_defined_iff bytes⟩

/-- `Ā` is read in the wrong order, and empty data has no first byte. -/
theorem not_inlinePasswords :
    ¬ ReadsBack "Ā" ∧ ¬ ∃ password, copyLegacyPassword (some (.data [])) = .ok password := by
  refine ⟨?_, by simp [copyLegacyPassword, firstByte, bind, Except.bind]⟩
  have hread : copyLegacyPassword (storedPassword (inlinePassword "Ā")) =
      .ok (some [0x01]) := by
    decide +kernel
  have hbytes : utf8Bytes "Ā" = [0xC4, 0x80] := by decide +kernel
  rw [ReadsBack, hread, hbytes]
  decide

/-! ## Passwords in keychains -/

/-- The calls for the items of one kind of keychain, which are not part of the code: `σ` is what the
keychains hold, `ρ` how the keychain is referred to, and `κ` the identifiers of the items. -/
structure ItemCalls (σ ρ κ : Type) where
  itemCopy : σ → ρ → κ → Option (List UInt8)
  itemExists : σ → ρ → κ → Bool
  itemRemove : σ → ρ → κ → Bool × σ

/-- What is relied on of these calls: an item that exists is copied and removed, and no other is;
and an item that was removed does not exist. -/
structure ItemCalls.Lawful {σ ρ κ : Type} (calls : ItemCalls σ ρ κ) : Prop where
  copies_iff_exists : ∀ s ref uniqueId,
    (calls.itemCopy s ref uniqueId).isSome = calls.itemExists s ref uniqueId
  removes_iff_exists : ∀ s ref uniqueId,
    (calls.itemRemove s ref uniqueId).1 = calls.itemExists s ref uniqueId
  gone_of_removed : ∀ s ref uniqueId, (calls.itemRemove s ref uniqueId).1 = true →
    calls.itemExists (calls.itemRemove s ref uniqueId).2 ref uniqueId = false
  /-- a call that fails leaves the keychains as they are -/
  kept_of_failed : ∀ s ref uniqueId, (calls.itemRemove s ref uniqueId).1 = false →
    (calls.itemRemove s ref uniqueId).2 = s

/-- The calls for both kinds of keychain: `ρ` are the preferences that the system keychain is
referred to by. -/
structure KeychainCalls (σ ρ κ : Type) where
  /-- `_SCPreferencesSystemKeychainPasswordItemCopy` and its siblings -/
  system : ItemCalls σ ρ κ
  /-- `_SCSecKeychainPasswordItemCopy` and its siblings, with `NULL` for the keychain -/
  sec : ItemCalls σ Unit κ

/-- What is passed to both functions. -/
structure PasswordQuery (ρ κ : Type) where
  prefs : Option ρ
  config : Option (CFDictionary PropertyList)
  passwordKey : String
  encryptionKey : String
  encryptionKeyChainValue : String
  uniqueId : κ

/-- What a lookup returns, with what is at the caller's place for the password behind it. -/
structure Extracted where
  found : Bool
  password : Option (Option (List UInt8))
  deriving DecidableEq

/-- What a removal returns, with the keychains and the configuration that it leaves. -/
structure Removed (σ : Type) where
  ok : Bool
  keychains : σ
  newConfig : Option (CFDictionary PropertyList)

section

variable {σ ρ κ : Type} (calls : KeychainCalls σ ρ κ) (keychains : σ) (q : PasswordQuery ρ κ)

/-- `__extract_password`: the caller has a place for the password, with something at it, or none -/
def extractPassword (password : Option (Option (List UInt8))) : Except ReadFault Extracted := do
  let encryption := q.config.bind fun config => config.lookup q.encryptionKey
  let checksKeychain := match encryption with
    | none => true
    | some (.string s) => s = q.encryptionKeyChainValue
    | some _ => false
  let (found, password) :=
    if checksKeychain then
      match password with
      | some _ =>
        let copied := match q.prefs with
          | some prefs => calls.system.itemCopy keychains prefs q.uniqueId
          | none => calls.sec.itemCopy keychains () q.uniqueId
        (copied.isSome, some copied)
      | none =>
        (match q.prefs with
          | some prefs => calls.system.itemExists keychains prefs q.uniqueId
          | none => calls.sec.itemExists keychains () q.uniqueId, none)
    else (false, password)
  -- a password in the configuration counts only without an encryption
  match q.config with
  | some config =>
    if !found && encryption.isNone then
      match ← copyLegacyPassword (config.lookup q.passwordKey) with
      | some inlinePassword => return ⟨true, password.map fun _ => some inlinePassword⟩
      | none => return ⟨found, password⟩
    else return ⟨found, password⟩
  | none => return ⟨found, password⟩

/-- `__remove_password`: the caller has a place for the new configuration, or none -/
def removePassword (wantsNewConfig : Bool) : Except ReadFault (Removed σ) := do
  let encryption := q.config.bind fun config => config.lookup q.encryptionKey
  let removesItem := match encryption with
    | none => true
    | some (.string s) => s = q.encryptionKeyChainValue
    | some _ => false
  let (ok, keychains) :=
    if removesItem then
      match q.prefs with
      | some prefs => calls.system.itemRemove keychains prefs q.uniqueId
      | none => calls.sec.itemRemove keychains () q.uniqueId
    else (false, keychains)
  let ok ← match q.config with
    | some config =>
      if !ok && encryption.isNone then
        pure (← copyLegacyPassword (config.lookup q.passwordKey)).isSome
      else pure ok
    | none => pure ok
  let newConfig := match q.config with
    | some config =>
      if wantsNewConfig && ok then some ((config.erase q.passwordKey).erase q.encryptionKey)
      else none
    | none => none
  return ⟨ok, keychains, newConfig⟩

/-! What both functions look at. -/

/-- The value for the encryption. -/
def PasswordQuery.encryption : Option PropertyList :=
  q.config.bind fun config => config.lookup q.encryptionKey

/-- The keychain counts: there is no encryption, or one that names it. -/
def PasswordQuery.UsesKeychain : Prop :=
  ∀ value ∈ q.encryption, value = .string q.encryptionKeyChainValue

/-- There is an item for the password in the keychain that is asked. -/
def KeychainCalls.holds : Bool :=
  match q.prefs with
  | some prefs => calls.system.itemExists keychains prefs q.uniqueId
  | none => calls.sec.itemExists keychains () q.uniqueId

/-- The password that is read from the configuration, if there is no encryption. -/
def PasswordQuery.configPassword : Except ReadFault (Option (List UInt8)) :=
  match q.config with
  | some config =>
    if q.encryption.isNone then copyLegacyPassword (config.lookup q.passwordKey) else .ok none
  | none => .ok none

end

/-! ## What is found, and what is removed -/

/-- Both kinds of keychain do what is relied on. -/
structure KeychainCalls.Lawful {σ ρ κ : Type} (calls : KeychainCalls σ ρ κ) : Prop where
  system : calls.system.Lawful
  sec : calls.sec.Lawful

section

variable {σ ρ κ : Type} {calls : KeychainCalls σ ρ κ} {keychains : σ} {q : PasswordQuery ρ κ}

/-- The check of both functions is whether the keychain counts. -/
theorem PasswordQuery.usesKeychain_iff :
    q.UsesKeychain ↔
      (match q.config.bind fun config => config.lookup q.encryptionKey with
      | none => true
      | some (.string s) => decide (s = q.encryptionKeyChainValue)
      | some _ => false) = true := by
  rw [UsesKeychain, encryption]
  cases q.config.bind fun config => config.lookup q.encryptionKey with
  | none => simp
  | some value => cases value <;> simp

/-- Without the keychain there is an encryption, and nothing is read from the configuration. -/
theorem PasswordQuery.encryption_isSome_of_not_uses (h : ¬ q.UsesKeychain) :
    q.encryption.isNone = false := by
  cases hvalue : q.encryption with
  | none => exact absurd (fun value hmem => by simp [hvalue] at hmem) h
  | some value => rfl

theorem extractPassword_of_not_uses (h : ¬ q.UsesKeychain)
    (password : Option (Option (List UInt8))) :
    extractPassword calls keychains q password = .ok ⟨false, password⟩ := by
  have hnone := q.encryption_isSome_of_not_uses h
  rw [PasswordQuery.encryption] at hnone
  rw [PasswordQuery.usesKeychain_iff] at h
  unfold extractPassword
  simp only [h, hnone]
  cases q.config <;> rfl

theorem removePassword_of_not_uses (h : ¬ q.UsesKeychain) (wantsNewConfig : Bool) :
    removePassword calls keychains q wantsNewConfig = .ok ⟨false, keychains, none⟩ := by
  have hnone := q.encryption_isSome_of_not_uses h
  rw [PasswordQuery.encryption] at hnone
  rw [PasswordQuery.usesKeychain_iff] at h
  unfold removePassword
  simp only [h, hnone]
  cases q.config with
  | none => rfl
  | some config => cases wantsNewConfig <;> rfl

/-- What a copy returns is there just if the item is. -/
theorem KeychainCalls.Lawful.copies_iff_holds (hcalls : calls.Lawful) (keychains : σ)
    (q : PasswordQuery ρ κ) :
    (match q.prefs with
    | some prefs => calls.system.itemCopy keychains prefs q.uniqueId
    | none => calls.sec.itemCopy keychains () q.uniqueId).isSome = calls.holds keychains q := by
  unfold holds
  cases q.prefs with
  | none => exact hcalls.sec.copies_iff_exists keychains () q.uniqueId
  | some prefs => exact hcalls.system.copies_iff_exists keychains prefs q.uniqueId

/-- A lookup finds the item, or else the password of the configuration. -/
theorem extractPassword_of_uses (hcalls : calls.Lawful) (h : q.UsesKeychain)
    (password : Option (Option (List UInt8))) :
    (extractPassword calls keychains q password).map Extracted.found =
      if calls.holds keychains q then .ok true else q.configPassword.map Option.isSome := by
  have hcopies := hcalls.copies_iff_holds keychains q
  have hexists : (match q.prefs with
      | some prefs => calls.system.itemExists keychains prefs q.uniqueId
      | none => calls.sec.itemExists keychains () q.uniqueId) = calls.holds keychains q := rfl
  rw [PasswordQuery.usesKeychain_iff] at h
  unfold extractPassword PasswordQuery.configPassword PasswordQuery.encryption
  -- whether the caller wants the password makes no difference
  cases password <;> simp only [h, if_true, hcopies, hexists] <;>
    cases calls.holds keychains q <;> cases q.config with
    | none => rfl
    | some config =>
      by_cases hnone : (config.lookup q.encryptionKey).isNone = true <;>
        simp only [Option.bind_some, hnone] <;>
        first
        | rfl
        | cases copyLegacyPassword (config.lookup q.passwordKey) with
          | error fault => rfl
          | ok inlinePassword => cases inlinePassword <;> rfl

/-- Nothing is found if there is no item and nothing in the configuration. -/
theorem extractPassword_of_none (hcalls : calls.Lawful) (q : PasswordQuery ρ κ)
    (hholds : calls.holds keychains q = false) (hconfig : q.configPassword = .ok none)
    (password : Option (Option (List UInt8))) :
    ∃ out, extractPassword calls keychains q password = .ok ⟨false, out⟩ := by
  have hfound : (extractPassword calls keychains q password).map Extracted.found = .ok false := by
    by_cases h : q.UsesKeychain
    · rw [extractPassword_of_uses hcalls h, hholds, hconfig]
      rfl
    · rw [extractPassword_of_not_uses h]
      rfl
  cases hout : extractPassword calls keychains q password with
  | error fault =>
    rw [hout] at hfound
    cases hfound
  | ok out =>
    rw [hout] at hfound
    exact ⟨out.password, by rw [← Except.ok.inj hfound]⟩

/-- The keychains behind a removal. -/
def KeychainCalls.removed (calls : KeychainCalls σ ρ κ) (keychains : σ) (q : PasswordQuery ρ κ) :
    Bool × σ :=
  match q.prefs with
  | some prefs => calls.system.itemRemove keychains prefs q.uniqueId
  | none => calls.sec.itemRemove keychains () q.uniqueId

/-- A removal succeeds just if there is an item, and behind it there is none. -/
theorem KeychainCalls.Lawful.removed_spec (hcalls : calls.Lawful) :
    (calls.removed keychains q).1 = calls.holds keychains q ∧
      calls.holds (calls.removed keychains q).2 q = false := by
  have hspec (ρ' : Type) (items : ItemCalls σ ρ' κ) (hitems : items.Lawful) (ref : ρ') :
      (items.itemRemove keychains ref q.uniqueId).1 = items.itemExists keychains ref q.uniqueId ∧
        items.itemExists (items.itemRemove keychains ref q.uniqueId).2 ref q.uniqueId = false := by
    have hremoves := hitems.removes_iff_exists keychains ref q.uniqueId
    refine ⟨hremoves, ?_⟩
    cases hok : (items.itemRemove keychains ref q.uniqueId).1 with
    | true => exact hitems.gone_of_removed keychains ref q.uniqueId hok
    | false =>
      rw [hitems.kept_of_failed keychains ref q.uniqueId hok, ← hremoves, hok]
  unfold removed holds
  cases q.prefs with
  | none => exact hspec Unit calls.sec hcalls.sec ()
  | some prefs => exact hspec ρ calls.system hcalls.system prefs

/-- A removal removes the item, or else the password of the configuration. -/
theorem removePassword_of_uses (hcalls : calls.Lawful) (h : q.UsesKeychain)
    (wantsNewConfig : Bool) :
    removePassword calls keychains q wantsNewConfig =
      (if calls.holds keychains q then .ok true else q.configPassword.map Option.isSome).map
        fun ok => ⟨ok, (calls.removed keychains q).2,
          if wantsNewConfig && ok then
            q.config.map fun config => (config.erase q.passwordKey).erase q.encryptionKey
          else none⟩ := by
  have hremoved : (match q.prefs with
      | some prefs => calls.system.itemRemove keychains prefs q.uniqueId
      | none => calls.sec.itemRemove keychains () q.uniqueId) = calls.removed keychains q := rfl
  rw [← hcalls.removed_spec.1]
  rw [PasswordQuery.usesKeychain_iff] at h
  unfold removePassword PasswordQuery.configPassword PasswordQuery.encryption
  simp only [h, if_true, hremoved]
  cases (calls.removed keychains q).1 <;> cases q.config with
  | none => cases wantsNewConfig <;> rfl
  | some config =>
    by_cases hnone : (config.lookup q.encryptionKey).isNone = true <;>
      simp only [Option.bind_some, hnone] <;>
      first
      | rfl
      | cases copyLegacyPassword (config.lookup q.passwordKey) with
        | error fault => rfl
        | ok inlinePassword => cases inlinePassword <;> rfl

/-- A removal and a lookup with the same arguments agree. -/
structure RemovalAgrees (calls : KeychainCalls σ ρ κ) (keychains : σ) (q : PasswordQuery ρ κ)
    (password : Option (Option (List UInt8))) : Prop where
  /-- a password is removed just if one is found -/
  ok_eq_found : ∀ wantsNewConfig,
    (removePassword calls keychains q wantsNewConfig).map Removed.ok =
      (extractPassword calls keychains q password).map Extracted.found
  /-- no password is found behind it -/
  not_found : ∀ r, removePassword calls keychains q true = .ok r → r.ok = true →
    ∃ out, extractPassword calls r.keychains { q with config := r.newConfig } password =
      .ok ⟨false, out⟩
  /-- the new configuration is the old one without the two keys -/
  newConfig : ∀ r, removePassword calls keychains q true = .ok r → r.ok = true →
    r.newConfig.isSome = q.config.isSome ∧
      ∀ config ∈ q.config, ∀ config' ∈ r.newConfig, ∀ key : String,
        config'.lookup key =
          if key = q.passwordKey ∨ key = q.encryptionKey then none else config.lookup key

/-- What a removal that succeeds leaves: the keychain without the item, and the configuration
without the two keys. -/
theorem removePassword_ok {r : Removed σ} (hcalls : calls.Lawful)
    (h : removePassword calls keychains q true = .ok r) (hok : r.ok = true) :
    calls.holds r.keychains q = false ∧
      r.newConfig =
        q.config.map fun config => (config.erase q.passwordKey).erase q.encryptionKey := by
  by_cases huses : q.UsesKeychain
  · rw [removePassword_of_uses hcalls huses] at h
    cases hfound : (if calls.holds keychains q then (.ok true : Except ReadFault Bool)
      else q.configPassword.map Option.isSome) with
    | error fault =>
      rw [hfound] at h
      cases h
    | ok found =>
      rw [hfound] at h
      obtain rfl := Except.ok.inj h
      obtain rfl : found = true := hok
      exact ⟨hcalls.removed_spec.2, rfl⟩
  · -- without the keychain nothing is removed
    rw [removePassword_of_not_uses huses] at h
    obtain rfl := Except.ok.inj h
    cases hok

/-- What is found is removed, and what is removed is not found. -/
theorem removePassword_agrees (calls : KeychainCalls σ ρ κ) (hcalls : calls.Lawful) (keychains : σ)
    (q : PasswordQuery ρ κ) (password : Option (Option (List UInt8))) :
    RemovalAgrees calls keychains q password where
  ok_eq_found wantsNewConfig := by
    by_cases huses : q.UsesKeychain
    · rw [removePassword_of_uses hcalls huses, extractPassword_of_uses hcalls huses]
      cases calls.holds keychains q with
      | true => rfl
      | false => cases q.configPassword <;> rfl
    · rw [removePassword_of_not_uses huses, extractPassword_of_not_uses huses]
      rfl
  not_found r h hok := by
    obtain ⟨hholds, hconfig⟩ := removePassword_ok hcalls h hok
    refine extractPassword_of_none hcalls { q with config := r.newConfig } hholds ?_ password
    -- both keys are gone, and no password is read from nothing
    rw [hconfig, PasswordQuery.configPassword]
    cases q.config with
    | none => rfl
    | some config =>
      have hkey : ((config.erase q.passwordKey).erase q.encryptionKey).lookup q.passwordKey =
          none := by
        by_cases hkeys : q.passwordKey = q.encryptionKey
        · rw [hkeys, Finmap.lookup_erase]
        · rw [Finmap.lookup_erase_ne hkeys, Finmap.lookup_erase]
      simp [hkey, copyLegacyPassword]
  newConfig r h hok := by
    obtain ⟨-, hconfig⟩ := removePassword_ok hcalls h hok
    rw [hconfig]
    refine ⟨by simp, ?_⟩
    rintro config hq config' hconfig' key
    obtain rfl : (config.erase q.passwordKey).erase q.encryptionKey = config' := by
      simpa [Option.mem_def.mp hq] using hconfig'
    by_cases hencryption : key = q.encryptionKey
    · rw [hencryption, Finmap.lookup_erase, if_pos (.inr rfl)]
    rw [Finmap.lookup_erase_ne hencryption]
    by_cases hpassword : key = q.passwordKey
    · rw [hpassword, Finmap.lookup_erase, if_pos (.inl rfl)]
    · rw [Finmap.lookup_erase_ne hpassword, if_neg (by simp [hencryption, hpassword])]

end

/-- One kind of keychain in memory: `true` is the one of the system. -/
def memoryItems (ρ : Type) (kind : Bool) :
    ItemCalls (Bool → String → Option (List UInt8)) ρ String where
  itemCopy s _ uniqueId := s kind uniqueId
  itemExists s _ uniqueId := (s kind uniqueId).isSome
  itemRemove s _ uniqueId :=
    if (s kind uniqueId).isSome then
      (true, Function.update s kind (Function.update (s kind) uniqueId none))
    else (false, s)

theorem memoryItems_lawful (ρ : Type) (kind : Bool) : (memoryItems ρ kind).Lawful where
  copies_iff_exists _ _ _ := rfl
  removes_iff_exists s ref uniqueId := by
    simp only [memoryItems]
    split_ifs with h <;> simp [h]
  gone_of_removed s ref uniqueId h := by
    simp only [memoryItems] at h ⊢
    split_ifs at h ⊢
    simp
  kept_of_failed s ref uniqueId h := by
    simp only [memoryItems] at h ⊢
    split_ifs at h ⊢
    rfl

/-- Both keychains in memory. -/
def memoryCalls : KeychainCalls (Bool → String → Option (List UInt8)) Unit String :=
  ⟨memoryItems Unit true, memoryItems Unit false⟩

/-- The item is removed, and so is the name of the keychain from the configuration. -/
theorem removePassword_agrees_shared :
    let keychains : Bool → String → Option (List UInt8) := fun kind uniqueId =>
      if kind = true ∧ uniqueId = "S1.SS" then some [0x70] else none
    let q : PasswordQuery Unit String :=
      { prefs := some ()
        config := some (List.toFinmap [⟨"SharedSecretEncryption", .string "Keychain"⟩,
          ⟨"SharedSecret", .string "S1.SS"⟩, ⟨"LocalIdentifier", .string "group"⟩])
        passwordKey := "SharedSecret"
        encryptionKey := "SharedSecretEncryption"
        encryptionKeyChainValue := "Keychain"
        uniqueId := "S1.SS" }
    (∃ r, removePassword memoryCalls keychains q true = .ok r ∧ r.ok = true) ∧
      RemovalAgrees memoryCalls keychains q none :=
  ⟨⟨_, rfl, rfl⟩, removePassword_agrees memoryCalls
    ⟨memoryItems_lawful Unit true, memoryItems_lawful Unit false⟩ _ _ none⟩

end ConfigdExtra
