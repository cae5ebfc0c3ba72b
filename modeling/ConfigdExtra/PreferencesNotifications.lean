import ConfigdExtra.PrefsFile
import Mathlib

/-!
# Notifications of preferences

A process that saves or applies preferences changes a key in the dynamic store. The key is made of
the path of the file, and other processes that have the file open watch it.

* `notificationKey` — `_SCPNotificationKey`.
* `SessionKeys`, `addSessionKeys` — the keys that a session watches.
* `prefsNotify` — what a session does when keys have changed.
* `writePath_eq` — a session writes the file that its keys are made of.
* `prefsNotify_eq` — a session is told of what is done to the file that it writes, and of nothing
  else.
-/

namespace ConfigdExtra.PrefsFile

/-! ## Keys -/

/-- `kSCPreferencesKeyLock` and so on -/
inductive NotificationKind
  | lock
  | commit
  | apply
deriving DecidableEq, Repr

/-- `keyStr` -/
def NotificationKind.keyStr : NotificationKind → List Char
  | lock => "lock".toList
  | commit => "commit".toList
  | apply => "apply".toList

/-- `kSCDynamicStoreDomainPrefs` -/
def dynamicStoreDomainPrefs : List Char := "Prefs:".toList

/-- What goes wrong when a key is made. -/
inductive KeyFault
  /-- `CFRelease` of a path that is no string -/
  | releasedNull
deriving DecidableEq, Repr

section

variable (fs : FileSystem)

/-- `_SCPNotificationKey`, which may be `NULL`. The path is taken for ASCII. -/
def notificationKey (prefsID : Option String) (keyType : NotificationKind) :
    Except KeyFault (Option (List Char)) :=
  match preferencesPath fs prefsID true with
  | none => .ok none
  | some path =>
    if IsASCII path then
      .ok (some (dynamicStoreDomainPrefs ++ keyType.keyStr ++ ":".toList ++ path))
    else .error .releasedNull

/-- The keys that a session watches. -/
structure SessionKeys where
  /-- `sessionKeyCommit` -/
  commit : Option (List Char)
  /-- `sessionKeyApply` -/
  apply : Option (List Char)

/-- `__SCPreferencesAddSessionKeys` -/
def addSessionKeys (prefsID : Option String) (keys : SessionKeys) :
    Except KeyFault SessionKeys := do
  let commit ←
    if keys.commit.isNone then notificationKey fs prefsID .commit else pure keys.commit
  let apply ← if keys.apply.isNone then notificationKey fs prefsID .apply else pure keys.apply
  return ⟨commit, apply⟩

end

/-! ## Notifications -/

/-- `SCPreferencesNotification` -/
structure Notification where
  commit : Bool
  apply : Bool
deriving DecidableEq, Repr

/-- `rlsFunction` and `rlsContext`, with `void *` as `I` -/
structure NotifyClient (I : Type) where
  /-- is there a function? -/
  function : Bool
  info : I
  retain : Option (I → I)
  /-- is there a function that releases `info`? -/
  release : Bool

/-- What a notification comes to. -/
inductive NotifyAction (I : Type)
  | callout (notify : Notification) (info : I)
  | release (info : I)

/-- The loop of `prefsNotify` -/
def collectNotify (keys : SessionKeys) (changedKeys : List (List Char)) : Notification :=
  changedKeys.foldl
    (fun notify key =>
      if keys.commit = some key then { notify with commit := true }
      else if keys.apply = some key then { notify with apply := true }
      else notify)
    ⟨false, false⟩

/-- What is done about a notification, with what the context retains -/
def NotifyClient.call {I : Type} (client : NotifyClient I) (notify : Notification) :
    List (NotifyAction I) :=
  match client.retain with
  | some retain =>
    (if client.function then [.callout notify (retain client.info)] else []) ++
      if client.release then [.release (retain client.info)] else []
  | none => if client.function then [.callout notify client.info] else []

/-- `prefsNotify` -/
def prefsNotify {I : Type} (keys : SessionKeys) (client : NotifyClient I)
    (changedKeys : Option (List (List Char))) : List (NotifyAction I) :=
  let notify := collectNotify keys (changedKeys.getD [])
  if notify = ⟨false, false⟩ then [] else client.call notify

/-! ## Who is told -/

section

variable {fs : FileSystem} {O : Type} {a : CreateArguments O} {s : PreferencesSession O}
  {status : SCStatus}

/-- A session writes the file that is named for its preferences now, wherever it reads them. -/
theorem writePath_eq (h : preferencesCreate fs a = .ok (s, status)) :
    preferencesPath fs s.prefsID true = some s.writePath := by
  obtain ⟨path, hpath, rfl, -⟩ | ⟨path, old, hpath, -, -, -, -, rfl⟩ := preferencesCreate_cases h
  · exact hpath
  · exact hpath

/-- Keys are the same if the kinds and the paths are. -/
theorem key_eq_iff (k k' : NotificationKind) (p p' : List Char) :
    dynamicStoreDomainPrefs ++ k.keyStr ++ ":".toList ++ p =
      dynamicStoreDomainPrefs ++ k'.keyStr ++ ":".toList ++ p' ↔ k = k' ∧ p = p' := by
  cases k <;> cases k' <;> simp [NotificationKind.keyStr]

theorem notificationKey_of_create (h : preferencesCreate fs a = .ok (s, status))
    {k : NotificationKind} {key : Option (List Char)}
    (hkey : notificationKey fs s.prefsID k = .ok key) :
    key = some (dynamicStoreDomainPrefs ++ k.keyStr ++ ":".toList ++ s.writePath) := by
  rw [notificationKey, writePath_eq h] at hkey
  dsimp only at hkey
  split at hkey
  · cases hkey
    rfl
  · cases hkey

/-- A key that a session changes in the dynamic store. -/
structure Post (fs : FileSystem) (O : Type) where
  /-- what its process could read when the session was created -/
  access : List Char → AccessResult
  arguments : CreateArguments O
  session : PreferencesSession O
  status : SCStatus
  created : preferencesCreate { fs with access := access } arguments = .ok (session, status)
  kind : NotificationKind
  key : List Char
  key_eq : notificationKey { fs with access := access } session.prefsID kind = .ok (some key)

/-- The post is of the kind, and about the file that the session writes. -/
def Post.Reaches (p : Post fs O) (k : NotificationKind) (s : PreferencesSession O) : Prop :=
  p.kind = k ∧ p.session.writePath = s.writePath

instance (p : Post fs O) (k : NotificationKind) (s : PreferencesSession O) :
    Decidable (p.Reaches k s) :=
  inferInstanceAs (Decidable (_ ∧ _))

/-- What a session has to be told about the posts. -/
def told (posts : List (Post fs O)) (s : PreferencesSession O) : Notification :=
  ⟨posts.any fun p => p.Reaches .commit s, posts.any fun p => p.Reaches .apply s⟩

theorem addSessionKeys_of_create (h : preferencesCreate fs a = .ok (s, status))
    {keys : SessionKeys} (hkeys : addSessionKeys fs s.prefsID ⟨none, none⟩ = .ok keys) :
    keys.commit =
        some (dynamicStoreDomainPrefs ++ NotificationKind.commit.keyStr ++ ":".toList ++
          s.writePath) ∧
      keys.apply =
        some (dynamicStoreDomainPrefs ++ NotificationKind.apply.keyStr ++ ":".toList ++
          s.writePath) := by
  cases hcommit : notificationKey fs s.prefsID .commit with
  | error e =>
    simp [addSessionKeys, hcommit, bind, Except.bind] at hkeys
  | ok commit =>
    cases happly : notificationKey fs s.prefsID .apply with
    | error e => simp [addSessionKeys, hcommit, happly, bind, Except.bind] at hkeys
    | ok apply =>
      obtain rfl : (⟨commit, apply⟩ : SessionKeys) = keys := by
        simpa [addSessionKeys, hcommit, happly, bind, Except.bind, pure, Except.pure] using hkeys
      exact ⟨notificationKey_of_create h hcommit, notificationKey_of_create h happly⟩

theorem Post.key_eq_iff (p : Post fs O) (k : NotificationKind) (s : PreferencesSession O) :
    dynamicStoreDomainPrefs ++ k.keyStr ++ ":".toList ++ s.writePath = p.key ↔ p.Reaches k s := by
  have hkey := Option.some.inj (notificationKey_of_create p.created p.key_eq)
  rw [hkey, PrefsFile.key_eq_iff, Post.Reaches, eq_comm, eq_comm (a := s.writePath)]

/-- What is collected over the posts. The induction is on them, from what was collected before. -/
theorem collectNotify_posts {keys : SessionKeys}
    (hcommit : keys.commit = some (dynamicStoreDomainPrefs ++ NotificationKind.commit.keyStr ++
      ":".toList ++ s.writePath))
    (happly : keys.apply = some (dynamicStoreDomainPrefs ++ NotificationKind.apply.keyStr ++
      ":".toList ++ s.writePath))
    (posts : List (Post fs O)) : collectNotify keys (posts.map Post.key) = told posts s := by
  have hrun : ∀ n : Notification, (posts.map Post.key).foldl
      (fun notify key =>
        if keys.commit = some key then { notify with commit := true }
        else if keys.apply = some key then { notify with apply := true }
        else notify) n =
      ⟨n.commit || (told posts s).commit, n.apply || (told posts s).apply⟩ := by
    induction posts with
    | nil => intro n; simp [told]
    | cons p posts ih =>
      intro n
      have hiscommit : keys.commit = some p.key ↔ p.Reaches .commit s := by
        rw [hcommit, Option.some_inj, p.key_eq_iff]
      have hisapply : keys.apply = some p.key ↔ p.Reaches .apply s := by
        rw [happly, Option.some_inj, p.key_eq_iff]
      rw [List.map_cons, List.foldl_cons, ih]
      simp only [hiscommit, hisapply]
      by_cases hc : p.Reaches .commit s
      · have ha : ¬ p.Reaches .apply s := fun ha => by
          cases hc.1.symm.trans ha.1
        simp [told, hc, ha]
      · by_cases ha : p.Reaches .apply s
        · simp [told, hc, ha]
        · simp [told, hc, ha]
  simpa [collectNotify] using hrun ⟨false, false⟩

/-- **Who is told.** When sessions have changed their keys, whatever they were created for, whatever
their processes may read and wherever they read their preferences, a session is called once if some
of them have saved or applied the file that it writes itself, and is told exactly which of the two
was done. -/
theorem prefsNotify_eq {I : Type} (h : preferencesCreate fs a = .ok (s, status))
    {keys : SessionKeys} (hkeys : addSessionKeys fs s.prefsID ⟨none, none⟩ = .ok keys)
    (client : NotifyClient I) (posts : List (Post fs O)) :
    prefsNotify keys client (some (posts.map Post.key)) =
      if told posts s = ⟨false, false⟩ then [] else client.call (told posts s) := by
  obtain ⟨hcommit, happly⟩ := addSessionKeys_of_create h hkeys
  rw [prefsNotify, Option.getD_some, collectNotify_posts hcommit happly]

end

/-- What the default session and the one for a name are created with. -/
def argumentsFor (prefsID : Option String) : CreateArguments Unit := ⟨"scutil", prefsID, none, none⟩

/-- The default session, which reads the file from before, is told that the file it writes has been
saved through its name, by a process that can read nothing. -/
theorem prefsNotify_eq_legacy :
    ∃ (s : PreferencesSession Unit) (status : SCStatus) (keys : SessionKeys)
      (p : Post legacyOnly Unit),
      preferencesCreate legacyOnly (argumentsFor none) = .ok (s, status) ∧
        s.path = defaultFileOld ∧ p.arguments = argumentsFor (some "preferences.plist") ∧
        prefsNotify keys ⟨true, (), none, false⟩ (some [p.key]) = [.callout ⟨true, false⟩ ()] := by
  obtain ⟨keys, hkeys⟩ : ∃ keys, addSessionKeys legacyOnly none ⟨none, none⟩ = .ok keys := ⟨_, rfl⟩
  have hs : preferencesCreate legacyOnly (argumentsFor none) =
      .ok ((argumentsFor none).session defaultFileOld (some defaultFile), .ok) := rfl
  let nothing : FileSystem := { legacyOnly with access := fun _ => .enoent }
  have hp : preferencesCreate nothing (argumentsFor (some "preferences.plist")) =
      .ok ((argumentsFor (some "preferences.plist")).session defaultFile none, .noConfigFile) := rfl
  have hkey : notificationKey nothing (some "preferences.plist") .commit =
      .ok (some ("Prefs:commit:".toList ++ defaultFile)) := rfl
  refine ⟨_, _, keys, ⟨fun _ => .enoent, _, _, _, hp, .commit, _, hkey⟩, hs, rfl, rfl, ?_⟩
  have h := prefsNotify_eq hs hkeys (⟨true, (), none, false⟩ : NotifyClient Unit)
    [⟨fun _ => .enoent, _, _, _, hp, .commit, _, hkey⟩]
  exact h.trans rfl

end ConfigdExtra.PrefsFile
