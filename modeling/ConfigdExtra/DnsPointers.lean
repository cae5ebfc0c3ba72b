import ConfigdExtra.DnsHeaders

/-!
# The pointers of expanded resolvers

A resolver comes with up to four attributes that are not lists: its domain, its options, its
configuration and the name of its interface.

* `PointersDetermined` — each of the four pointers is to the last such attribute, or is `NULL`.
* `StaleFree` — `cid` and `if_name` were zero where there is no such attribute.
* `pointersDetermined_iff` — the first is the case if and only if the second is.
* `staleConfigurationId_not_determined` — it is not the case for every buffer.
-/

namespace ConfigdExtra

open Program (Reaches)

/-- The pointers of a resolver that are not lists. -/
def pointerFields : List ResolverField := [.domain, .options, .cid, .ifName]

section

variable (L : DnsLayout) (reg : Region) (dataLen : ℕ) (m mem : Memory)

/-- Each pointer of each resolver is to the data of the last attribute for it, and `NULL` when
there is none. -/
def PointersDetermined : Prop :=
  ∀ a ∈ configAttributes L reg dataLen m, HoldsResolver m a → ∀ f ∈ pointerFields,
    L.resolver.values mem (a + attributeSize) f =
      (lastFor m f (resolverAttributes L m a)).elim 0 (· + attributeSize)

/-- In each resolver without an attribute for `cid`, or for `if_name`, this field is zero. -/
def StaleFree : Prop :=
  ∀ a ∈ configAttributes L reg dataLen m, HoldsResolver m a → ∀ f ∈ [ResolverField.cid, .ifName],
    lastFor m f (resolverAttributes L m a) = none →
      L.resolver.values m (a + attributeSize) f = 0

instance : Decidable (PointersDetermined L reg dataLen m mem) :=
  inferInstanceAs (Decidable (∀ a ∈ configAttributes L reg dataLen m, HoldsResolver m a →
    ∀ f ∈ pointerFields, _ = _))

instance : Decidable (StaleFree L reg dataLen m) :=
  inferInstanceAs (Decidable (∀ a ∈ configAttributes L reg dataLen m, HoldsResolver m a →
    ∀ f ∈ [ResolverField.cid, .ifName], _ = none → _ = 0))

end

/-- The configuration that the expansion has returned. -/
def Point.result : Point → Option ℕ
  | .returned result => result
  | _ => none

theorem Point.eq_of_result {p : Point} {config : ℕ} (h : p.result = some config) :
    p = .returned (some config) := by
  cases p with
  | returned result =>
    cases h
    rfl
  | _ => exact nomatch h

/-- A field after some attributes is the data of the last one for it, if there is one. -/
theorem headerAfter_eq_lastFor {m : Memory} {g : ResolverField → ℕ} {as : List ℕ}
    {f : ResolverField} :
    headerAfter m g as f = (lastFor m f as).elim (g f) (· + attributeSize) := by
  induction as using List.reverseRecOn with
  | nil => rfl
  | append_singleton as b ih =>
    rw [headerAfter_concat, lastFor, List.filter_append]
    by_cases hb : resolverTarget m b = some (.field f)
    · rw [headerNext_field hb, Function.update_self]
      simp [hb]
    · have hrest : headerNext m (headerAfter m g as) b f = headerAfter m g as f := by
        rcases htarget : resolverTarget m b with _ | f' | l
        · rw [headerNext_other fun f => by simp [htarget]]
        · rw [headerNext_field htarget, Function.update_of_ne]
          rintro rfl
          exact hb htarget
        · rw [headerNext_other fun f => by simp [htarget]]
      rw [hrest, ih, lastFor]
      simp [hb]

section

variable {L : DnsLayout} {reg : Region} {dataLen : ℕ} {m mem : Memory} {a : ℕ}
  {claim : ResolverList → Claim}

/-- The pointers of one resolver. -/
theorem ResolverKept.pointers_iff
    (h : ResolverKept L reg dataLen m mem a (resolverAttributes L m a) claim) :
    (∀ f ∈ pointerFields, L.resolver.values mem (a + attributeSize) f =
        (lastFor m f (resolverAttributes L m a)).elim 0 (· + attributeSize)) ↔
      ∀ f ∈ [ResolverField.cid, .ifName], lastFor m f (resolverAttributes L m a) = none →
        L.resolver.values m (a + attributeSize) f = 0 := by
  have hiff : ∀ f x, ((lastFor m f (resolverAttributes L m a)).elim x (· + attributeSize) =
      (lastFor m f (resolverAttributes L m a)).elim 0 (· + attributeSize)) ↔
      (lastFor m f (resolverAttributes L m a) = none → x = 0) := by
    intro f x
    cases lastFor m f (resolverAttributes L m a) with
    | none => simp
    | some b => simp
  simp only [h.values, headerAfter_eq_lastFor, hiff, pointerFields, expandedHeader,
    List.forall_mem_cons]
  simp

end

/-- **Pointers.** When the lengths fit, the pointers of the resolvers of a configuration that is
returned are determined by their attributes if and only if `cid` and `if_name` were zero in the
resolvers that have no attribute for them. -/
theorem pointersDetermined_iff (L : DnsLayout) (data m : Memory) (dataRef dataLen : ℕ)
    (reg : Region) (haccepted : Accepted L data dataRef dataLen reg m)
    (hfit : ∀ s, Reaches (expandStep L reg) (expandStart L reg m) s →
      LengthsFit s.world.memory s.point)
    (s : ExpandState) (hs : Reaches (expandStep L reg) (expandStart L reg m) s) (config : ℕ)
    (hreturned : s.point = .returned (some config)) :
    PointersDetermined L reg dataLen m s.world.memory ↔ StaleFree L reg dataLen m := by
  have hkept := (haccepted.inv hfit hs).kept
  rw [hreturned] at hkept
  refine forall₂_congr fun a ha => forall_congr' fun hholds => ?_
  obtain ⟨claim, hresolver⟩ := hkept.2 a ha hholds
  exact hresolver.pointers_iff

/-- A configuration with one resolver, with two domains and two configuration identifiers. The
bytes of `cid` are not zero. -/
def repeatedAttributes : List UInt8 :=
  [0, 0, 0, 1] ++ List.replicate 44 0 ++ [0, 0, 0, 156, 0, 0, 0, 8] ++
    [0, 0, 0, 1, 0, 0, 0, 156] ++ List.replicate 80 0 ++ [1] ++ List.replicate 15 0 ++
    [0, 0, 0, 48] ++
    [0, 0, 0, 10, 0, 0, 0, 12, 97, 0, 0, 0] ++ [0, 0, 0, 15, 0, 0, 0, 12, 99, 0, 0, 0] ++
    [0, 0, 0, 10, 0, 0, 0, 12, 98, 0, 0, 0] ++ [0, 0, 0, 15, 0, 0, 0, 12, 100, 0, 0, 0]

/-- The pointers of its resolver are determined. -/
theorem pointersDetermined_iff_repeatedAttributes :
    PointersDetermined dnsinfoLayout ⟨4096, 220⟩ 212 (bufferOf repeatedAttributes)
      ((expandStep dnsinfoLayout ⟨4096, 220⟩)^[12]
        (expandStart dnsinfoLayout ⟨4096, 220⟩ (bufferOf repeatedAttributes))).world.memory :=
  (pointersDetermined_iff dnsinfoLayout (.ofBytes 0 repeatedAttributes)
    (bufferOf repeatedAttributes) 0 212 ⟨4096, 220⟩
    (accepted_of_size (by decide +kernel) (by decide +kernel) (by decide) (by decide) (by decide))
    (forall_reaches_of_stopped (P := fun s => LengthsFit s.world.memory s.point) (n := 12)
      (by decide +kernel) (by decide +kernel)) _ (Reaches.iterate _ _ 12) 4096
    (Point.eq_of_result (by decide +kernel))).mpr (by decide +kernel)

/-- A configuration with one resolver, whose only attribute is of no known type, and in which the
bytes of `cid` are not zero. -/
def staleConfigurationId : List UInt8 :=
  [0, 0, 0, 1] ++ List.replicate 44 0 ++ [0, 0, 0, 116, 0, 0, 0, 8] ++
    [0, 0, 0, 1, 0, 0, 0, 116] ++ List.replicate 80 0 ++ [1] ++ List.replicate 15 0 ++
    [0, 0, 0, 8] ++ [0, 0, 0, 0, 0, 0, 0, 8]

theorem staleConfigurationId_not_determined :
    ¬ ∀ (data : Memory) (dataRef dataLen : ℕ) (reg : Region) (m : Memory),
      Accepted dnsinfoLayout data dataRef dataLen reg m →
      ∀ s, Reaches (expandStep dnsinfoLayout reg) (expandStart dnsinfoLayout reg m) s →
        ∀ config, s.point = .returned (some config) →
          PointersDetermined dnsinfoLayout reg dataLen m s.world.memory := by
  intro h
  have hdetermined := h (.ofBytes 0 staleConfigurationId) 0 172 ⟨4096, 180⟩
    (bufferOf staleConfigurationId) (accepted_of_size (by decide +kernel) (by decide +kernel)
      (by decide) (by decide) (by decide)) _ (Reaches.iterate _ _ 6) 4096
    (Point.eq_of_result (by decide +kernel))
  revert hdetermined
  decide +kernel

end ConfigdExtra
