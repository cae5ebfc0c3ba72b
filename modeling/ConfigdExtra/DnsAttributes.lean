import ConfigdExtra.DnsEffects
import ConfigdExtra.DnsLoops

/-!
# The attributes of an accepted buffer

The attributes that the loops of the expansion come to, read off the buffer as it was accepted.

* `AttributeWalk`, `attributesIn` — the attributes up to some point, and all of them.
* `configAttributes`, `resolverAttributes` — those of the configuration and of a resolver.
* `headerAfter` — the fields of a resolver after some of its attributes.
-/

namespace ConfigdExtra

open Memory (pointerSize)

/-! ## Walks -/

/-- `as` are the attributes from `a` to `b`, one behind the other, and none of them reaches
beyond `stop`. -/
def AttributeWalk (m : Memory) (stop : ℕ) : ℕ → List ℕ → ℕ → Prop
  | a, [], b => b = a
  | a, x :: as, b => x = a ∧ a + attributeSize ≤ stop ∧ a + attributeLength m a ≤ stop ∧
      AttributeWalk m stop (a + attributeLength m a) as b

/-- The attributes from `a` on that begin in front of `stop`, at most `fuel` of them. -/
def attributesFrom (m : Memory) (stop : ℕ) : ℕ → ℕ → List ℕ
  | 0, _ => []
  | fuel + 1, a =>
    if a + attributeSize ≤ stop then
      a :: attributesFrom m stop fuel (a + attributeLength m a)
    else []

/-- The attributes from `a` to `stop`, none of which is empty. -/
def attributesIn (m : Memory) (a stop : ℕ) : List ℕ := attributesFrom m stop (stop - a) a

namespace AttributeWalk

variable {m : Memory} {stop a b : ℕ} {as : List ℕ}

theorem le (h : AttributeWalk m stop a as b) : a ≤ b := by
  induction as generalizing a with
  | nil => exact h.ge
  | cons x as ih => exact (Nat.le_add_right _ _).trans (ih h.2.2.2)

/-- One more attribute. -/
theorem concat (h : AttributeWalk m stop a as b) (hheader : b + attributeSize ≤ stop)
    (hlength : b + attributeLength m b ≤ stop) :
    AttributeWalk m stop a (as ++ [b]) (b + attributeLength m b) := by
  induction as generalizing a with
  | nil =>
    obtain rfl : b = a := h
    exact ⟨rfl, hheader, hlength, rfl⟩
  | cons x as ih => exact ⟨h.1, h.2.1, h.2.2.1, ih h.2.2.2⟩

theorem mem_bounds (h : AttributeWalk m stop a as b) {x : ℕ} (hx : x ∈ as) :
    a ≤ x ∧ x + attributeSize ≤ stop ∧ x + attributeLength m x ≤ b := by
  induction as generalizing a with
  | nil => simp at hx
  | cons y as ih =>
    obtain ⟨rfl, hheader, -, hrest⟩ := h
    rcases List.mem_cons.mp hx with rfl | hx
    · exact ⟨le_rfl, hheader, hrest.le⟩
    · obtain ⟨hlo, hbounds⟩ := ih hrest hx
      exact ⟨(Nat.le_add_right _ _).trans hlo, hbounds⟩

/-- An empty attribute is never left. -/
theorem eq_of_empty (h : AttributeWalk m stop a as b) (hempty : attributeLength m a = 0) :
    b = a := by
  induction as with
  | nil => exact h
  | cons x as ih =>
    refine ih ?_
    have hrest := h.2.2.2
    rwa [hempty, Nat.add_zero] at hrest

/-- A walk to the end comes to all attributes. -/
theorem complete (h : AttributeWalk m stop a as b) (hend : stop < b + attributeSize) :
    attributesIn m a stop = as := by
  suffices hfuel : ∀ fuel, stop - a ≤ fuel → attributesFrom m stop fuel a = as from
    hfuel _ le_rfl
  induction as generalizing a with
  | nil =>
    obtain rfl : b = a := h
    rintro (_ | fuel) -
    · rfl
    · exact if_neg (Nat.not_le.mpr hend)
  | cons x as ih =>
    have hempty : attributeLength m a ≠ 0 := fun hempty => by
      have hb := h.eq_of_empty hempty
      have hheader := h.2.1
      omega
    obtain ⟨rfl, hheader, -, hrest⟩ := h
    rintro (_ | fuel) hfuel
    · simp only [attributeSize] at hheader
      omega
    · rw [attributesFrom, if_pos hheader, ih hrest fuel (by omega)]

end AttributeWalk

section

variable (L : DnsLayout) (reg : Region) (dataLen : ℕ) (m : Memory)

/-- The attributes of the configuration. -/
def configAttributes : List ℕ :=
  attributesIn m (reg.start + L.configBufSize) (reg.start + dataLen)

/-- The attribute at `a` of the configuration holds a resolver. -/
def HoldsResolver (a : ℕ) : Prop := (ResolverKind.ofType (attributeType m a)).isSome = true

instance (a : ℕ) : Decidable (HoldsResolver m a) := inferInstanceAs (Decidable (_ = true))

variable {m} in
theorem holdsResolver_of {a : ℕ} {k : ResolverKind}
    (h : ResolverKind.ofType (attributeType m a) = some k) : HoldsResolver m a := by
  rw [HoldsResolver, h]
  rfl

/-- The attributes of the resolver that the attribute at `a` holds. -/
def resolverAttributes (a : ℕ) : List ℕ :=
  attributesIn m (a + attributeSize + L.resolverBufSize) (a + attributeLength m a)

end

/-- Those attributes of a configuration that hold a resolver of kind `k`. -/
def ofKind (m : Memory) (k : ResolverKind) (as : List ℕ) : List ℕ :=
  as.filter fun a => ResolverKind.ofType (attributeType m a) = some k

/-- Those attributes of a resolver that belong to the list `l`. -/
def ofList (m : Memory) (l : ResolverList) (as : List ℕ) : List ℕ :=
  as.filter fun b => resolverTarget m b = some (.list l)

/-- The last of the attributes of a resolver to which the field `f` is to point. -/
def lastFor (m : Memory) (f : ResolverField) (as : List ℕ) : Option ℕ :=
  (as.filter fun b => resolverTarget m b = some (.field f)).getLast?

section

variable {m mem : Memory} {a : ℕ} (h : m.EqOn mem a attributeSize)

include h

theorem attributeLength_eq : attributeLength mem a = attributeLength m a :=
  (h.sub (Nat.le_add_right _ _) le_rfl).loadNet_eq.symm

theorem attributeType_eq : attributeType mem a = attributeType m a :=
  (h.sub le_rfl (Nat.add_le_add_left (by decide) _)).loadNet_eq.symm

theorem resolverTarget_eq : resolverTarget mem a = resolverTarget m a := by
  rw [resolverTarget, attributeType_eq h, resolverTarget]

end

/-! ## Headers -/

/-- What an attribute with its data at `p` does to the fields of a resolver. -/
def ResolverTarget.write (g : ResolverField → ℕ) (p : ℕ) : ResolverTarget → ResolverField → ℕ
  | field f => Function.update g f p
  | list _ => g

/-- The fields of a resolver after the attribute at `b`. -/
def headerNext (m : Memory) (g : ResolverField → ℕ) (b : ℕ) : ResolverField → ℕ :=
  (resolverTarget m b).elim g (ResolverTarget.write g (b + attributeSize))

/-- The fields of a resolver after some of its attributes. -/
def headerAfter (m : Memory) (g : ResolverField → ℕ) (as : List ℕ) : ResolverField → ℕ :=
  as.foldl (headerNext m) g

section

variable {m : Memory} {g : ResolverField → ℕ} {as : List ℕ} {b : ℕ}

theorem headerNext_field {f : ResolverField} (h : resolverTarget m b = some (.field f)) :
    headerNext m g b = Function.update g f (b + attributeSize) := by
  unfold headerNext
  rw [h]
  rfl

theorem headerNext_other (h : ∀ f, resolverTarget m b ≠ some (.field f)) :
    headerNext m g b = g := by
  unfold headerNext
  rcases htarget : resolverTarget m b with _ | f | l
  · rfl
  · exact absurd htarget (h f)
  · rfl

theorem headerAfter_concat : headerAfter m g (as ++ [b]) = headerNext m (headerAfter m g as) b := by
  rw [headerAfter, List.foldl_concat]
  rfl

/-- The attributes of a resolver leave a field as it is, unless one is for it. -/
theorem headerAfter_of_forall {f : ResolverField}
    (h : ∀ b ∈ as, resolverTarget m b ≠ some (.field f)) : headerAfter m g as f = g f := by
  induction as using List.reverseRecOn with
  | nil => rfl
  | append_singleton as b ih =>
    rw [headerAfter_concat]
    have hb := h b (by simp)
    have hrest := ih fun b hb => h b (by simp [hb])
    rcases htarget : resolverTarget m b with _ | f' | l
    · rwa [headerNext_other fun f => by simp [htarget]]
    · rw [headerNext_field htarget, Function.update_of_ne, hrest]
      rintro rfl
      exact hb htarget
    · rwa [headerNext_other fun f => by simp [htarget]]

theorem ne_field_of_attribute (m : Memory) (b : ℕ) (l : ResolverList) :
    resolverTarget m b ≠ some (.field (.list l)) ∧ resolverTarget m b ≠ some (.field (.n l)) := by
  unfold resolverTarget
  rcases ResolverAttribute.ofType (attributeType m b) with _ | t
  · simp
  · cases t <;> simp [ResolverAttribute.target]

theorem headerAfter_list (l : ResolverList) : headerAfter m g as (.list l) = g (.list l) :=
  headerAfter_of_forall fun b _ => (ne_field_of_attribute m b l).1

theorem headerAfter_n (l : ResolverList) : headerAfter m g as (.n l) = g (.n l) :=
  headerAfter_of_forall fun b _ => (ne_field_of_attribute m b l).2

end

end ConfigdExtra
