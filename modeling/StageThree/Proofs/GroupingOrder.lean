import Mathlib.Data.List.Pairwise
import StageThree.Proofs.Groups

/-!
Whether the order of documents matters to a group stage. It does not where equality of the keys is
an equivalence, for then a row is a class of it. The only thing that keeps it from being one is a
double that is equal to two integers: where it comes first it brings them together, and where one
of them comes first the other one starts a row of its own.
-/

namespace StageThree

namespace GroupStage

def Together (stage : GroupStage) (documents : List Document) (document other : Document) : Prop :=
  ∃ group ∈ stage.groups documents, document ∈ group.2 ∧ other ∈ group.2

variable {spec : Document} {stage : GroupStage} {key : Document → Native} {documents : List Document}
  {document other first : Document} {groups : List (Native × List Document)}

/-- One of two groups was there before the other, so that the members of the other one were compared
with its key. -/
def Apart (key : Document → Native) (group other : Native × List Document) : Prop :=
  (∀ document ∈ other.2, group.1.equal (key document) = false) ∨
    ∀ document ∈ group.2, other.1.equal (key document) = false

instance : Std.Symm (Apart key) :=
  ⟨fun _ _ => Or.symm⟩

namespace Grouped

theorem exists_group (h : Grouped key documents groups) (hmem : document ∈ documents) :
    ∃ group ∈ groups, document ∈ group.2 :=
  List.mem_flatMap.mp (h.covers.mem_iff.mpr hmem)

theorem equal_of_mem (h : Grouped key documents groups)
    (hself : ∀ document ∈ documents, (key document).equal (key document) = true)
    {group : Native × List Document} (hgroup : group ∈ groups) (hmem : document ∈ group.2) :
    ∃ first ∈ documents, group.1 = key first ∧ (key first).equal (key document) = true := by
  obtain ⟨first, rest, rfl, hrest⟩ := h.led group hgroup
  have hfirst := h.mem_of_mem hgroup (List.mem_cons_self ..)
  refine ⟨first, hfirst, rfl, ?_⟩
  rcases List.mem_cons.mp hmem with rfl | hmem
  · exact hself _ hfirst
  · exact hrest document hmem

theorem eq_or_apart (h : Grouped key documents groups) {group other : Native × List Document}
    (hgroup : group ∈ groups) (hother : other ∈ groups) : group = other ∨ Apart key group other := by
  have hapart : groups.Pairwise (Apart key) := h.passed_over.imp .inl
  by_cases heq : group = other
  · exact .inl heq
  · exact .inr (hapart.forall hgroup hother heq)

end Grouped

/-! ### Where equality is an equivalence -/

/-- Equality of the keys of some documents is an equivalence. -/
structure KeysEquivalent (key : Document → Native) (documents : List Document) : Prop where
  self : ∀ d ∈ documents, (key d).equal (key d) = true
  comm : ∀ d ∈ documents, ∀ e ∈ documents, (key d).equal (key e) = true →
    (key e).equal (key d) = true
  trans : ∀ d ∈ documents, ∀ e ∈ documents, ∀ f ∈ documents, (key d).equal (key e) = true →
    (key e).equal (key f) = true → (key d).equal (key f) = true

theorem KeysEquivalent.of_perm {others : List Document} (h : KeysEquivalent key documents)
    (hperm : others.Perm documents) : KeysEquivalent key others where
  self d hd := h.self d (hperm.subset hd)
  comm d hd e he := h.comm d (hperm.subset hd) e (hperm.subset he)
  trans d hd e he f hf := h.trans d (hperm.subset hd) e (hperm.subset he) f (hperm.subset hf)

/-- Rows are the classes of an equality that is an equivalence. -/
theorem together_iff (h : KeysEquivalent stage.keyOf documents) (hdocument : document ∈ documents)
    (hother : other ∈ documents) :
    Together stage documents document other ↔
      (stage.keyOf document).equal (stage.keyOf other) = true := by
  have hgrouped := grouped_groups stage documents
  constructor
  · rintro ⟨group, hgroup, hmem, hmem'⟩
    obtain ⟨first, hfirst, hid, hequal⟩ := hgrouped.equal_of_mem h.self hgroup hmem
    obtain ⟨second, hsecond, hid', hequal'⟩ := hgrouped.equal_of_mem h.self hgroup hmem'
    rw [← hid', hid] at hequal'
    exact h.trans _ hdocument _ hfirst _ hother (h.comm _ hfirst _ hdocument hequal) hequal'
  · intro hsame
    obtain ⟨group, hgroup, hmem⟩ := hgrouped.exists_group hdocument
    obtain ⟨group', hgroup', hmem'⟩ := hgrouped.exists_group hother
    obtain ⟨first, hfirst, hid, hequal⟩ := hgrouped.equal_of_mem h.self hgroup hmem
    obtain ⟨second, hsecond, hid', hequal'⟩ := hgrouped.equal_of_mem h.self hgroup' hmem'
    rcases hgrouped.eq_or_apart hgroup hgroup' with rfl | hpassed | hpassed
    · exact ⟨group, hgroup, hmem, hmem'⟩
    · have hreaches := h.trans _ hfirst _ hdocument _ hother hequal hsame
      rw [← hid, hpassed other hmem'] at hreaches
      cases hreaches
    · have hreaches := h.trans _ hsecond _ hother _ hdocument hequal'
        (h.comm _ hdocument _ hother hsame)
      rw [← hid', hpassed document hmem] at hreaches
      cases hreaches

/-! ### The row of the first document -/

theorem foldl_place_cons (key : Document → Native) (documents : List Document) (id : Native)
    (members : List Document) (groups : List (Native × List Document)) :
    ∃ more rest, documents.foldl (fun groups document => place (key document) document groups)
      ((id, members) :: groups) = (id, more) :: rest := by
  induction documents generalizing members groups with
  | nil => exact ⟨members, groups, rfl⟩
  | cons document documents ih =>
      rw [List.foldl_cons, place]
      split
      · exact ih ..
      · exact ih ..

theorem groups_cons (stage : GroupStage) (first : Document) (documents : List Document) :
    ∃ members rest, stage.groups (first :: documents) = (stage.keyOf first, members) :: rest :=
  foldl_place_cons stage.keyOf documents (stage.keyOf first) [first] []

/-- The first row has all documents whose keys equal that of the first document, and no others. -/
theorem together_first_iff
    (hself : ∀ d ∈ first :: documents, (stage.keyOf d).equal (stage.keyOf d) = true)
    (hdocument : document ∈ first :: documents) (hother : other ∈ first :: documents)
    (hequal : (stage.keyOf first).equal (stage.keyOf document) = true) :
    Together stage (first :: documents) document other ↔
      (stage.keyOf first).equal (stage.keyOf other) = true := by
  have hgrouped := grouped_groups stage (first :: documents)
  obtain ⟨members, rest, hgroups⟩ := groups_cons stage first documents
  have hfirst : (stage.keyOf first, members) ∈ stage.groups (first :: documents) := by
    rw [hgroups]
    exact List.mem_cons_self ..
  have honly {group : Native × List Document} (hgroup : group ∈ stage.groups (first :: documents))
      {d : Document} (hd : d ∈ group.2) (hequal : (stage.keyOf first).equal (stage.keyOf d) = true) :
      group = (stage.keyOf first, members) := by
    rw [hgroups] at hgroup
    rcases List.mem_cons.mp hgroup with rfl | hgroup
    · rfl
    · have hpassed := hgrouped.passed_over
      rw [hgroups, List.pairwise_cons] at hpassed
      rw [hpassed.1 group hgroup d hd] at hequal
      cases hequal
  constructor
  · rintro ⟨group, hgroup, hmem, hmem'⟩
    obtain rfl := honly hgroup hmem hequal
    obtain ⟨leader, -, hid, hleader⟩ := hgrouped.equal_of_mem hself hgroup hmem'
    rw [show stage.keyOf first = stage.keyOf leader from hid]
    exact hleader
  · intro hequal'
    obtain ⟨group, hgroup, hmem⟩ := hgrouped.exists_group hdocument
    obtain ⟨group', hgroup', hmem'⟩ := hgrouped.exists_group hother
    obtain rfl := honly hgroup hmem hequal
    obtain rfl := honly hgroup' hmem' hequal'
    exact ⟨_, hgroup, hmem, hmem'⟩

/-! ### Orders of the documents -/

theorem exists_perm_cons (h : document ∈ documents) :
    ∃ rest, (document :: rest).Perm documents := by
  obtain ⟨before, after, rfl⟩ := List.append_of_mem h
  exact ⟨before ++ after, List.perm_middle.symm⟩

/-- Some double among the keys is equal to two different integers among them. -/
def HasRounded (key : Document → Native) (documents : List Document) : Prop :=
  ∃ d ∈ documents, ∃ e ∈ documents, ∃ f ∈ documents, (key d).Rounded (key e) (key f)

theorem keysEquivalent (hwell : ∀ d ∈ documents, (key d).WellFormed)
    (hnan : ∀ d ∈ documents, (key d).holdsNaN = false) (h : ¬HasRounded key documents) :
    KeysEquivalent key documents where
  self d hd := Native.equal_self (hwell d hd) (hnan d hd)
  comm d hd e he hequal := (Native.equal_comm (hwell e he) (hwell d hd)).trans hequal
  trans d hd e he f hf hde hef := (Native.equal_trans_or_rounded hde hef).resolve_right
    fun hrounded => h ⟨d, hd, e, he, f, hf, hrounded⟩

/-- Without a NaN in the keys, rows do not depend on the order of the documents if and only if no
double among the keys is equal to two different integers among them. -/
theorem together_perm_iff (hwell : ∀ d ∈ documents, (stage.keyOf d).WellFormed)
    (hnan : ∀ d ∈ documents, (stage.keyOf d).holdsNaN = false) :
    (∀ others, others.Perm documents → ∀ d ∈ documents, ∀ e ∈ documents,
      (Together stage others d e ↔ Together stage documents d e)) ↔
      ¬HasRounded stage.keyOf documents := by
  constructor
  · rintro h ⟨d, hd, e, he, f, hf, hrounded⟩
    have hself (others : List Document) (hperm : others.Perm documents) :
        ∀ g ∈ others, (stage.keyOf g).equal (stage.keyOf g) = true := by
      intro g hg
      rw [hperm.mem_iff] at hg
      exact Native.equal_self (hwell g hg) (hnan g hg)
    obtain ⟨double_first, hdouble⟩ := exists_perm_cons he
    obtain ⟨integer_first, hinteger⟩ := exists_perm_cons hd
    have htogether := together_first_iff (hself _ hdouble) (hdouble.mem_iff.mpr hd)
      (hdouble.mem_iff.mpr hf) hrounded.swap.equal_right
    have happart := together_first_iff (hself _ hinteger) (hinteger.mem_iff.mpr hd)
      (hinteger.mem_iff.mpr hf) (hself documents (.refl _) d hd)
    rw [h _ hdouble d hd f hf, ← h _ hinteger d hd f hf, happart, hrounded.equal_right,
      hrounded.not_equal] at htogether
    cases htogether.mpr rfl
  · intro h others hperm d hd e he
    have hkeys := keysEquivalent hwell hnan h
    rw [together_iff hkeys hd he,
      together_iff (hkeys.of_perm hperm) (hperm.mem_iff.mpr hd) (hperm.mem_iff.mpr he)]

/-- Equality of values without a NaN is an equivalence but for a double that is equal to two
different integers, and it is because of those alone that the order of documents matters to a
compiled stage whose keys have no NaN. -/
theorem grouping_order_free_iff (hspec : (Native.document spec).WellFormed)
    (h : compile spec = .ok stage)
    (hdocuments : ∀ d ∈ documents, (Native.document d).WellFormed)
    (hnan : ∀ d ∈ documents, (stage.keyOf d).holdsNaN = false) :
    (∀ a : Native, a.WellFormed → a.holdsNaN = false → a.equal a = true) ∧
    (∀ a b : Native, a.WellFormed → b.WellFormed → a.equal b = b.equal a) ∧
    (∀ a b c : Native, a.equal b = true → b.equal c = true →
      (a.equal c = true ↔ ¬a.Rounded b c)) ∧
    (∀ a b c : Native, a.Rounded b c →
      ∃ x, b = .double x ∧ (Double.ofNat (2 ^ 53)).magnitude ≤ x.magnitude) ∧
    ((∀ others, others.Perm documents → ∀ d ∈ documents, ∀ e ∈ documents,
      (Together stage others d e ↔ Together stage documents d e)) ↔
      ¬HasRounded stage.keyOf documents) := by
  have hwell : ∀ d ∈ documents, (stage.keyOf d).WellFormed := fun d hd =>
    wellFormed_keyOf hspec h (hdocuments d hd)
  exact ⟨fun a => Native.equal_self, fun a b => Native.equal_comm,
    fun a b c => Native.equal_trans_iff, fun a b c => Native.Rounded.large,
    together_perm_iff hwell hnan⟩

def byField : Document := [("_id", .string "$k")]

def smallNumbers : List Document :=
  [[("k", .int32 1)], [("k", .double (.ofNat 1))], [("k", .int64 1)], []]

theorem grouping_order_free_smallNumbers : ∃ stage, compile byField = .ok stage ∧
    ∀ others, others.Perm smallNumbers → ∀ d ∈ smallNumbers, ∀ e ∈ smallNumbers,
      (Together stage others d e ↔ Together stage smallNumbers d e) := by
  have hcompile : compile byField = .ok ⟨.path "k", []⟩ := rfl
  have hspec : (Native.document byField).WellFormed := by
    simp [byField, Native.WellFormed, Native.WellFormedFields, Fields.WellFormed, Fields.keys]
  have hdocuments : ∀ d ∈ smallNumbers, (Native.document d).WellFormed := by
    simp [smallNumbers, Native.WellFormed, Native.WellFormedFields, Fields.WellFormed, Fields.keys]
  have hnan : ∀ d ∈ smallNumbers, (keyOf ⟨.path "k", []⟩ d).holdsNaN = false := by decide
  obtain ⟨-, -, -, hlarge, hfree⟩ := grouping_order_free_iff hspec hcompile hdocuments hnan
  refine ⟨_, hcompile, hfree.mpr ?_⟩
  rintro ⟨d, -, e, he, f, -, hrounded⟩
  obtain ⟨x, hx, hlarge⟩ := hlarge _ _ _ hrounded
  have hmem : keyOf ⟨.path "k", []⟩ e ∈ [.int32 1, .double (.ofNat 1), .int64 1, .null] :=
    List.mem_map_of_mem he
  obtain rfl : x = .ofNat 1 := by simpa [hx] using hmem
  exact absurd hlarge (by decide)

/-- Two integers next to each other, and a double that both are equal to. -/
def lower : Document := [("k", .int64 0x20000000000000)]

def upper : Document := [("k", .int64 0x20000000000001)]

def rounded : Document := [("k", .double (.ofNat (2 ^ 53)))]

/-- Two integers are in rows of their own where they come first, and in one row behind the double
that both are equal to. -/
theorem order_matters_of_rounded : ∃ stage, compile byField = .ok stage ∧
    (∀ d ∈ [lower, upper, rounded], (stage.keyOf d).holdsNaN = false) ∧
    [rounded, lower, upper].Perm [lower, upper, rounded] ∧
    Together stage [rounded, lower, upper] lower upper ∧
      ¬Together stage [lower, upper, rounded] lower upper := by
  refine ⟨⟨.path "k", []⟩, rfl, by decide, ?_, ?_, ?_⟩
  · exact (List.perm_append_comm : ([rounded] ++ [lower, upper]).Perm _)
  · exact ⟨(.double (.ofNat (2 ^ 53)), [rounded, lower, upper]), List.mem_singleton.mpr rfl,
      by simp, by simp⟩
  · have hgroups : groups ⟨.path "k", []⟩ [lower, upper, rounded] =
        [(.int64 0x20000000000000, [lower, rounded]), (.int64 0x20000000000001, [upper])] := rfl
    rw [Together, hgroups]
    simp [lower, upper, rounded]

end GroupStage

end StageThree
