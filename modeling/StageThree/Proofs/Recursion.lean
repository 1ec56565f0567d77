import StageThree.Filter.Basic
import StageThree.Native.Basic
import StageThree.Store.Predicate

/-!
Induction over the trees of the library. Filters and values hold lists of their own kind, so that
the induction they come with speaks of lists as well; here it speaks of members alone. The lemmas
on `Except` take a computation apart, in particular one that ended well.
-/

namespace Except

variable {ε α β : Type}

theorem ok_bind (a : α) (f : α → Except ε β) : (.ok a >>= f) = f a := rfl

theorem error_bind (e : ε) (f : α → Except ε β) : (.error e >>= f) = .error e := rfl

@[simp] theorem bind_eq_ok_iff {x : Except ε α} {f : α → Except ε β} {b : β} :
    (x >>= f) = .ok b ↔ ∃ a, x = .ok a ∧ f a = .ok b := by
  cases x <;> simp [bind, Except.bind]

@[simp] theorem map_eq_ok_iff {x : Except ε α} {f : α → β} {b : β} :
    x.map f = .ok b ↔ ∃ a, x = .ok a ∧ f a = b := by
  cases x <;> simp [Except.map]

@[simp] theorem fmap_eq_ok_iff {x : Except ε α} {f : α → β} {b : β} :
    f <$> x = .ok b ↔ ∃ a, x = .ok a ∧ f a = b :=
  map_eq_ok_iff

@[simp] theorem pure_eq_ok_iff {a b : α} : (pure a : Except ε α) = .ok b ↔ a = b := by
  simp [pure, Except.pure]

theorem bind_eq_error_iff {x : Except ε α} {f : α → Except ε β} {e : ε} :
    (x >>= f) = .error e ↔ x = .error e ∨ ∃ a, x = .ok a ∧ f a = .error e := by
  cases x <;> simp [bind, Except.bind]

theorem map_eq_error_iff {x : Except ε α} {f : α → β} {e : ε} :
    x.map f = .error e ↔ x = .error e := by
  cases x <;> simp [Except.map]

theorem pure_ne_error {a : α} {e : ε} : (pure a : Except ε α) ≠ .error e := nofun

theorem exists_map_eq_ok_iff {x : Except ε α} {f : α → β} :
    (∃ b, x.map f = .ok b) ↔ ∃ a, x = .ok a := by
  cases x <;> simp [Except.map]

/-- A computation whose errors are known is good where there is none. -/
theorem exists_eq_ok_iff_eq_none {x : Except ε α} {error? : Option ε}
    (h : ∀ e, x = .error e ↔ error? = some e) : (∃ a, x = .ok a) ↔ error? = none := by
  cases x with
  | ok a => simpa [Option.eq_none_iff_forall_ne_some] using h
  | error e => simp [(h e).mp rfl]

theorem exists_eq_error_iff {x : Except ε α} : (∃ e, x = .error e) ↔ ¬∃ a, x = .ok a := by
  cases x <;> simp

end Except

namespace StageThree

/-- Every filter has a property that combinations inherit from their children. -/
@[elab_as_elim]
theorem Filter.induction {motive : Filter → Prop}
    (all : ∀ children, (∀ child ∈ children, motive child) → motive (.all children))
    (any : ∀ children, (∀ child ∈ children, motive child) → motive (.any children))
    (compare : ∀ c, motive (.compare c)) (filter : Filter) : motive filter := by
  refine @Filter.rec motive (fun children => ∀ child ∈ children, motive child)
    all any compare ?_ ?_ filter
  · simp
  · intro child rest hchild hrest
    exact List.forall_mem_cons.mpr ⟨hchild, hrest⟩

/-- Every predicate has a property that combinations inherit from their children. -/
@[elab_as_elim]
theorem Predicate.induction {motive : Predicate → Prop}
    (all : ∀ children, (∀ child ∈ children, motive child) → motive (.all children))
    (any : ∀ children, (∀ child ∈ children, motive child) → motive (.any children))
    (field : ∀ path conditions, motive (.field path conditions)) (predicate : Predicate) :
    motive predicate := by
  refine @Predicate.rec motive (fun children => ∀ child ∈ children, motive child)
    all any field ?_ ?_ predicate
  · simp
  · intro child rest hchild hrest
    exact List.forall_mem_cons.mpr ⟨hchild, hrest⟩

/-- Every generic value has a property that arrays and objects inherit from their parts. -/
@[elab_as_elim]
theorem Json.induction {motive : Json → Prop} (null : motive .null)
    (bool : ∀ b, motive (.bool b)) (number : ∀ n, motive (.number n))
    (string : ∀ s, motive (.string s))
    (array : ∀ items, (∀ item ∈ items, motive item) → motive (.array items))
    (object : ∀ fields : List (String × Json), (∀ field ∈ fields, motive field.2) →
      motive (.object fields)) (value : Json) : motive value := by
  refine @Json.rec motive (fun items => ∀ item ∈ items, motive item)
    (fun fields => ∀ field ∈ fields, motive field.2) (fun field => motive field.2)
    null bool number string array object ?_ ?_ ?_ ?_ ?_ value
  · simp
  · intro item rest hitem hrest
    exact List.forall_mem_cons.mpr ⟨hitem, hrest⟩
  · simp
  · intro field rest hfield hrest
    exact List.forall_mem_cons.mpr ⟨hfield, hrest⟩
  · exact fun _ _ h => h

theorem sizeOf_snd_lt {fields : Document} {field : String × Native} (h : field ∈ fields) :
    sizeOf field.2 < sizeOf fields := by
  have hless := List.sizeOf_lt_of_mem h
  obtain ⟨name, value⟩ := field
  simp at hless ⊢
  omega

/-- Whether a native value holds others. -/
def Native.isNested : Native → Bool
  | .array _ | .document _ | .scopedCode _ _ => true
  | _ => false

/-- Every native value has a property that arrays and documents inherit from their parts. -/
@[elab_as_elim]
theorem Native.induction {motive : Native → Prop}
    (scalar : ∀ value : Native, value.isNested = false → motive value)
    (array : ∀ items, (∀ item ∈ items, motive item) → motive (.array items))
    (document : ∀ fields : Document, (∀ field ∈ fields, motive field.2) →
      motive (.document fields))
    (scopedCode : ∀ (text : String) (scope : Document), (∀ field ∈ scope, motive field.2) →
      motive (.scopedCode text scope)) (value : Native) : motive value := by
  cases value with
  | array items =>
      exact array items fun item hmem => Native.induction scalar array document scopedCode item
  | document fields =>
      exact document fields fun field hmem =>
        Native.induction scalar array document scopedCode field.2
  | scopedCode text scope =>
      exact scopedCode text scope fun field hmem =>
        Native.induction scalar array document scopedCode field.2
  | _ => exact scalar _ rfl
termination_by sizeOf value
decreasing_by
  · have hless := sizeOf_snd_lt hmem
    simp
    omega
  · have hless := List.sizeOf_lt_of_mem hmem
    simp
    omega
  · have hless := sizeOf_snd_lt hmem
    simp
    omega

end StageThree
