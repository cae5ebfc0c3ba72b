import Mathlib.Data.Finmap

/-!
# Edits kept back and edits written through

A record that somebody stores is edited in two ways. Most edits go to a pending copy, which
is stored at the end if it differs from the record as it was found. Others are written
through: they change the stored record at once, and the pending copy is then loaded anew.

* `Record` — a finite map, `Edit` — a key and its new value, or none to remove it;
* `Action` — one of the two kinds of edit; a log of actions is kept newest first;
* `Draft` — the stored record and the pending copy, with the proof that they are what the
  log makes of the record as it was found;
* `Reflects`, `Survives` — a record has the last values asked for, and a log leaves them there;
* `throughEdits` — the edits of a log that were written through, which alone make the stored
  record;
* `Session.reflects_iff` — when the record that is left has the last value asked for at
  every key, and `Session.unchanged_iff` — when it is the record that was found.
-/

namespace DeferredEdits

variable {κ ν : Type} [DecidableEq κ]

/-- A finite map from keys to values. -/
abbrev Record (κ ν : Type) := Finmap (fun _ : κ => ν)

/-- A key with its new value; `none` removes the key. -/
structure Edit (κ ν : Type) where
  key : κ
  value : Option ν
deriving DecidableEq

/-! ## Editing a record -/

namespace Record

/-- Carry one edit out. -/
def put (d : Record κ ν) (e : Edit κ ν) : Record κ ν :=
  match e.value with
  | some v => d.insert e.key v
  | none => d.erase e.key

/-- Carry the edits of a list out, the first one first. -/
def putAll (d : Record κ ν) (es : List (Edit κ ν)) : Record κ ν :=
  es.foldl put d

@[simp] theorem putAll_nil (d : Record κ ν) : d.putAll [] = d := rfl

@[simp] theorem putAll_cons (d : Record κ ν) (e : Edit κ ν) (es : List (Edit κ ν)) :
    d.putAll (e :: es) = (d.put e).putAll es := rfl

/-- An edit changes the value of its key, and of no other. -/
theorem lookup_put (d : Record κ ν) (e : Edit κ ν) (k : κ) :
    (d.put e).lookup k = if e.key = k then e.value else d.lookup k := by
  obtain ⟨key, value⟩ := e
  by_cases h : key = k
  · subst h
    cases value <;> simp [put]
  · have h' : k ≠ key := fun hk => h hk.symm
    cases value with
    | none => simp [put, h, Finmap.lookup_erase_ne h']
    | some v => simp [put, h, Finmap.lookup_insert_of_ne d h']

end Record

/-- The value a list of edits leaves at a key, if one of them is about that key. -/
def lastEdit : List (Edit κ ν) → κ → Option (Option ν)
  | [], _ => none
  | e :: es, k => (lastEdit es k).or (if e.key = k then some e.value else none)

/-- A list of edits leaves its last value at a key, or what was there. -/
theorem Record.lookup_putAll (d : Record κ ν) (es : List (Edit κ ν)) (k : κ) :
    (d.putAll es).lookup k = (lastEdit es k).getD (d.lookup k) := by
  induction es generalizing d with
  | nil => rfl
  | cons e es ih =>
    rw [putAll_cons, ih, lookup_put, lastEdit]
    cases lastEdit es k with
    | some v => rfl
    | none => by_cases h : e.key = k <;> simp [h]

/-! ## Logs of edits -/

/-- One edit of a record under way: kept back for the end, or written through. -/
inductive Action (κ ν : Type)
  | defer (e : Edit κ ν)
  | through (es : List (Edit κ ν))

section Replay

variable (origin initial : Record κ ν) (reload : Record κ ν → Record κ ν)

/-- The stored record and the pending copy after a log, newest action first. The stored
record starts as `origin` and the pending copy as `initial`; after a write-through the
pending copy is `reload` of the stored record. -/
def replay : List (Action κ ν) → Record κ ν × Record κ ν
  | [] => (origin, initial)
  | .defer e :: log => ((replay log).1, (replay log).2.put e)
  | .through es :: log =>
    ((replay log).1.putAll es, reload ((replay log).1.putAll es))

end Replay

/-- The edits of a log that were written through, the first one first. -/
def throughEdits : List (Action κ ν) → List (Edit κ ν)
  | [] => []
  | .defer _ :: log => throughEdits log
  | .through es :: log => throughEdits log ++ es

/-- Edits in a row. -/
theorem Record.putAll_append (d : Record κ ν) (es es' : List (Edit κ ν)) :
    d.putAll (es ++ es') = (d.putAll es).putAll es' :=
  List.foldl_append

/-- The stored record is what the edits written through make of the record as it was found. -/
theorem replay_fst (origin initial : Record κ ν) (reload : Record κ ν → Record κ ν)
    (log : List (Action κ ν)) :
    (replay origin initial reload log).1 = origin.putAll (throughEdits log) := by
  induction log with
  | nil => rfl
  | cons a log ih =>
    cases a with
    | defer e => exact ih
    | through es => rw [replay, throughEdits, Record.putAll_append, ih]

/-- The last value asked for at a key. -/
def requested : List (Action κ ν) → κ → Option (Option ν)
  | [], _ => none
  | .defer e :: log, k => if e.key = k then some e.value else requested log k
  | .through es :: log, k => (lastEdit es k).or (requested log k)

/-- The last value asked for at a key by the edits kept back since the last
write-through. -/
def requestedSince : List (Action κ ν) → κ → Option (Option ν)
  | .defer e :: log, k => if e.key = k then some e.value else requestedSince log k
  | _, _ => none

/-- What has been asked for since the last reload has been asked for. -/
theorem requested_of_requestedSince {log : List (Action κ ν)} {k : κ} {v : Option ν}
    (h : requestedSince log k = some v) : requested log k = some v := by
  induction log with
  | nil => simp [requestedSince] at h
  | cons a log ih =>
    cases a with
    | through es => simp [requestedSince] at h
    | defer e =>
      by_cases he : e.key = k
      · simpa [requestedSince, requested, he] using h
      · simp only [requestedSince, he, if_false] at h
        simpa [requested, he] using ih h

/-- A key edited since the last write-through has the value of its last edit in the pending
copy. -/
theorem lookup_pending_of_since (origin initial : Record κ ν)
    (reload : Record κ ν → Record κ ν) {log : List (Action κ ν)} {k : κ} {v : Option ν}
    (h : requestedSince log k = some v) :
    (replay origin initial reload log).2.lookup k = v := by
  induction log with
  | nil => simp [requestedSince] at h
  | cons a log ih =>
    cases a with
    | through es => simp [requestedSince] at h
    | defer e =>
      rw [replay, Record.lookup_put]
      by_cases he : e.key = k
      · simpa [requestedSince, he] using h
      · simp only [requestedSince, he, if_false] at h
        simpa [he] using ih h

/-- A key asked for before the last write-through and not since has in the pending copy what
the write-through loaded. -/
theorem lookup_pending_of_before (origin initial : Record κ ν)
    (reload : Record κ ν → Record κ ν) {log : List (Action κ ν)} {k : κ} {v : Option ν}
    (hv : requested log k = some v) (h : requestedSince log k = none) :
    (replay origin initial reload log).2.lookup k =
      (reload (replay origin initial reload log).1).lookup k := by
  induction log with
  | nil => simp [requested] at hv
  | cons a log ih =>
    cases a with
    | through es => rfl
    | defer e =>
      have he : e.key ≠ k := by
        intro he
        simp [requestedSince, he] at h
      simp only [requested, requestedSince, he, if_false] at hv h
      rw [replay, Record.lookup_put, if_neg he]
      exact ih hv h

/-- The pending copy of a key asked for since the last write-through is right; the rest of
what was asked for is where the write-through left it. -/
theorem lookup_pending_iff (origin initial : Record κ ν) (reload : Record κ ν → Record κ ν)
    {log : List (Action κ ν)} {k : κ} {v : Option ν} (hv : requested log k = some v) :
    (replay origin initial reload log).2.lookup k = v ↔
      (requestedSince log k = none →
        (reload (origin.putAll (throughEdits log))).lookup k = v) := by
  rw [← replay_fst origin initial reload]
  cases h : requestedSince log k with
  | some w =>
    have hw : some w = some v := by rw [← hv, requested_of_requestedSince h]
    simp [lookup_pending_of_since origin initial reload h, Option.some.inj hw]
  | none => simp [lookup_pending_of_before origin initial reload hv h]

/-! ## Drafts and sessions -/

/-- A record under edit: the log of what was asked for, the stored record and the pending
copy it leads to. -/
structure Draft (origin initial : Record κ ν) (reload : Record κ ν → Record κ ν) where
  log : List (Action κ ν)
  stored : Record κ ν
  pending : Record κ ν
  replay_eq : replay origin initial reload log = (stored, pending)

namespace Draft

variable {origin initial : Record κ ν} {reload : Record κ ν → Record κ ν}

/-- A record nobody has edited yet. -/
def start : Draft origin initial reload := ⟨[], origin, initial, rfl⟩

/-- Edit the pending copy. -/
def put (d : Draft origin initial reload) (e : Edit κ ν) : Draft origin initial reload where
  log := .defer e :: d.log
  stored := d.stored
  pending := d.pending.put e
  replay_eq := by simp [replay, d.replay_eq]

/-- Edit the stored record and load the pending copy anew. -/
def writeThrough (d : Draft origin initial reload) (es : List (Edit κ ν)) :
    Draft origin initial reload where
  log := .through es :: d.log
  stored := d.stored.putAll es
  pending := reload (d.stored.putAll es)
  replay_eq := by simp [replay, d.replay_eq]

@[simp] theorem stored_put (d : Draft origin initial reload) (e : Edit κ ν) :
    (d.put e).stored = d.stored := rfl

/-- Edit the pending copy, the first edit first. -/
def putAll (d : Draft origin initial reload) (es : List (Edit κ ν)) :
    Draft origin initial reload :=
  es.foldl put d

/-- A log makes a draft, and there is no other with this log. -/
def ofLog (log : List (Action κ ν)) : Draft origin initial reload :=
  ⟨log, (replay origin initial reload log).1, (replay origin initial reload log).2, rfl⟩

/-- A draft is what its log makes of it. -/
theorem eq_ofLog (d : Draft origin initial reload) : d = ofLog d.log := by
  obtain ⟨log, stored, pending, h⟩ := d
  obtain ⟨rfl, rfl⟩ := Prod.mk.injEq .. ▸ h
  rfl

/-- What is stored are the edits that were written through, in their order. -/
theorem stored_eq (d : Draft origin initial reload) :
    d.stored = origin.putAll (throughEdits d.log) := by
  rw [← replay_fst origin initial reload, d.replay_eq]

/-- What is pending is what the log gives when it is played again. -/
theorem pending_eq (d : Draft origin initial reload) :
    d.pending = (replay origin initial reload d.log).2 := by rw [d.replay_eq]

@[simp] theorem stored_putAll (d : Draft origin initial reload) (es : List (Edit κ ν)) :
    (d.putAll es).stored = d.stored := by
  induction es generalizing d with
  | nil => rfl
  | cons e es ih => exact (ih (d.put e)).trans (d.stored_put e)

@[simp] theorem pending_putAll (d : Draft origin initial reload) (es : List (Edit κ ν)) :
    (d.putAll es).pending = d.pending.putAll es := by
  induction es generalizing d with
  | nil => rfl
  | cons e es ih => exact ih (d.put e)

/-- An empty log is the log of no edits. -/
theorem log_putAll_eq_nil {log : List (Action κ ν)} {es : List (Edit κ ν)}
    (h : ((ofLog log : Draft origin initial reload).putAll es).log = []) : log = [] ∧ es = [] := by
  cases es using List.reverseRecOn with
  | nil => exact ⟨h, rfl⟩
  | append_singleton es e =>
    rw [putAll, List.foldl_append] at h
    cases h

end Draft

/-- A record has the last value that a log asks for at every key. -/
def Reflects (log : List (Action κ ν)) (d : Record κ ν) : Prop :=
  ∀ k v, requested log k = some v → d.lookup k = v

/-- What a log asks for is not lost on the way, where the copy is completed by further edits
before it is stored. If the copy is stored, a key that was not asked for again after the last
write-through has the value in what that loaded, and no further edit overrides it; and if the
copy ends as the record that was found, so that it is not stored, the value is in what was
written through. -/
def Survives (origin initial : Record κ ν) (reload : Record κ ν → Record κ ν)
    (log : List (Action κ ν)) (further : List (Edit κ ν)) : Prop :=
  ∀ k v, requested log k = some v →
    ((replay origin initial reload log).2.putAll further = origin →
      (origin.putAll (throughEdits log)).lookup k = v) ∧
    ((replay origin initial reload log).2.putAll further ≠ origin →
      (lastEdit further k = none → requestedSince log k = none →
        (reload (origin.putAll (throughEdits log))).lookup k = v) ∧
      ∀ w, lastEdit further k = some w → w = v)

/-- The editing of one record from the moment it was read: whether its edits were accepted
to the end, and whether the store takes the pending copy then. -/
structure Session (κ ν : Type) [DecidableEq κ] where
  origin : Record κ ν
  initial : Record κ ν
  reload : Record κ ν → Record κ ν
  draft : Draft origin initial reload
  accepted : Bool
  stores : Bool

namespace Session

/-- Nothing was asked of this record. -/
def idle (origin : Record κ ν) : Session κ ν :=
  ⟨origin, origin, id, .start, false, false⟩

variable [DecidableEq ν]

/-- The pending copy is stored when the edits were accepted and it differs from the record
as it was found. -/
def saved (s : Session κ ν) : Bool :=
  s.accepted && decide (s.draft.pending ≠ s.origin) && s.stores

/-- The record that is left in the store. -/
def result (s : Session κ ν) : Record κ ν :=
  if s.saved then s.draft.pending else s.draft.stored

/-- A session saves what it has if it was accepted, changes something and can be stored. -/
theorem saved_iff (s : Session κ ν) :
    s.saved = true ↔ s.accepted = true ∧ s.draft.pending ≠ s.origin ∧ s.stores = true := by
  simp [saved, and_assoc]

@[simp] theorem result_idle (origin : Record κ ν) : (idle origin).result = origin := rfl

@[simp] theorem saved_idle (origin : Record κ ν) : (idle origin).saved = false := rfl

/-- Once the edits of a log were accepted and the store took them, the record reflects them
exactly when none of them was lost on the way. -/
theorem reflects_iff (s : Session κ ν) {log : List (Action κ ν)} {further : List (Edit κ ν)}
    (hdraft : s.draft = (Draft.ofLog log).putAll further) (ha : s.accepted = true)
    (hs : s.draft.pending ≠ s.origin → s.stores = true) :
    Reflects log s.result ↔ Survives s.origin s.initial s.reload log further := by
  have hstored : s.draft.stored = s.origin.putAll (throughEdits log) := by
    rw [hdraft, Draft.stored_putAll, Draft.stored_eq, Draft.ofLog]
  have hpending : s.draft.pending =
      (replay s.origin s.initial s.reload log).2.putAll further := by
    rw [hdraft, Draft.pending_putAll, Draft.ofLog]
  unfold Reflects Survives
  rw [← hpending, ← hstored]
  refine forall_congr' fun k => forall_congr' fun v => imp_congr_right fun hv => ?_
  by_cases hp : s.draft.pending = s.origin
  · have hsaved : s.saved = false := by simp [saved, hp]
    simp [result, hsaved, hp]
  · have hsaved : s.saved = true := (saved_iff s).2 ⟨ha, hp, hs hp⟩
    rw [result, if_pos hsaved]
    simp only [hp, false_imp_iff, true_and, not_false_eq_true, ne_eq, true_imp_iff]
    rw [hpending, Record.lookup_putAll]
    cases hlast : lastEdit further k with
    | some w => simp
    | none => simp [lookup_pending_iff s.origin s.initial s.reload hv, hstored]

/-- The record that is left is the one that was found exactly when nothing written through
changed it and the pending copy was not stored. -/
theorem unchanged_iff (s : Session κ ν) :
    s.result = s.origin ↔ s.draft.stored = s.origin ∧ s.saved = false := by
  cases h : s.saved with
  | false => simp [result, h]
  | true =>
    have hne := ((saved_iff s).1 h).2.1
    simp [result, h, hne]

/-- A session leaves the record as it was if it has neither written anything through nor saved
anything. -/
theorem result_eq_iff {s : Session κ ν} {d : Record κ ν} (h : s.origin = d) :
    s.result = d ↔ s.draft.stored = s.origin ∧ s.saved = false := by
  subst h
  exact s.unchanged_iff

end Session

end DeferredEdits
