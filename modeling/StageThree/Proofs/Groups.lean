import Mathlib.Algebra.GroupWithZero.Nat
import Mathlib.Data.List.Induction
import StageThree.Proofs.EqualityLaws
import StageThree.Store.Pipeline

/-!
How a group stage divides its documents. Keys are told apart by an equality that is not even
reflexive, so that what the groups are is a matter of the order in which documents come:
`GroupStage.Grouped` says what becomes of one document after the other, and what holds of the
groups in the end follows from it by induction.
-/

namespace StageThree

namespace GroupStage

/-! ### One document after the other -/

/-- The groups of documents that come one after the other. A document goes to the first group whose
key equals its own; where there is none, it starts a group behind the others. -/
inductive Grouped (key : Document → Native) : List Document → List (Native × List Document) → Prop
  | nil : Grouped key [] []
  | joins {documents : List Document} {document : Document}
      {before after : List (Native × List Document)} {id : Native} {members : List Document}
      (hgroups : Grouped key documents (before ++ (id, members) :: after))
      (hbefore : ∀ group ∈ before, group.1.equal (key document) = false)
      (hid : id.equal (key document) = true) :
      Grouped key (documents ++ [document]) (before ++ (id, members ++ [document]) :: after)
  | starts {documents : List Document} {document : Document}
      {groups : List (Native × List Document)} (hgroups : Grouped key documents groups)
      (hnone : ∀ group ∈ groups, group.1.equal (key document) = false) :
      Grouped key (documents ++ [document]) (groups ++ [(key document, [document])])

variable {key : Document → Native} {documents : List Document} {document : Document}
  {groups : List (Native × List Document)}

theorem grouped_place (h : Grouped key documents groups) (document : Document) :
    Grouped key (documents ++ [document]) (place (key document) document groups) := by
  -- the groups that were passed over stand in front of those that are still to be searched
  suffices ∀ before after, groups = before ++ after →
      (∀ group ∈ before, group.1.equal (key document) = false) →
      Grouped key (documents ++ [document]) (before ++ place (key document) document after) from
    this [] groups rfl (by simp)
  intro before after hsplit hbefore
  induction after generalizing before with
  | nil =>
      rw [List.append_nil] at hsplit
      subst hsplit
      exact .starts h hbefore
  | cons group rest ih =>
      obtain ⟨id, members⟩ := group
      rw [place]
      split
      · next hid =>
        subst hsplit
        exact .joins h hbefore hid
      · next hid =>
        rw [List.append_cons before]
        refine ih (before ++ [(id, members)]) (by rw [hsplit, ← List.append_cons]) ?_
        intro group hgroup
        rcases List.mem_append.mp hgroup with hgroup | hgroup
        · exact hbefore group hgroup
        · rw [List.mem_singleton.mp hgroup]
          exact Bool.not_eq_true _ ▸ hid

theorem grouped_groups (stage : GroupStage) (documents : List Document) :
    Grouped stage.keyOf documents (stage.groups documents) := by
  induction documents using List.reverseRecOn with
  | nil => exact .nil
  | append_singleton documents document ih =>
      rw [groups, List.foldl_append]
      exact grouped_place ih document

/-! ### The groups in the end -/

/-- A group that was started by its first document, whose key it has, and that the others joined. -/
def Led (key : Document → Native) (group : Native × List Document) : Prop :=
  ∃ first rest, group = (key first, first :: rest) ∧
    ∀ document ∈ rest, (key first).equal (key document) = true

namespace Grouped

theorem led (h : Grouped key documents groups) : ∀ group ∈ groups, Led key group := by
  induction h with
  | nil => simp
  | @joins documents document before after id members _ _ hid ih =>
      simp only [List.forall_mem_append, List.forall_mem_cons] at ih ⊢
      refine ⟨ih.1, ?_, ih.2.2⟩
      obtain ⟨first, rest, heq, hrest⟩ := ih.2.1
      cases heq
      refine ⟨first, rest ++ [document], rfl, fun other hother => ?_⟩
      rcases List.mem_append.mp hother with hother | hother
      · exact hrest other hother
      · rw [List.mem_singleton.mp hother]
        exact hid
  | @starts documents document groups _ _ ih =>
      simp only [List.forall_mem_append, List.forall_mem_singleton]
      exact ⟨ih, document, [], rfl, by simp⟩

/-- A document was compared with the groups in front of its own, and is equal to none of them. -/
theorem passed_over (h : Grouped key documents groups) : groups.Pairwise fun earlier later =>
    ∀ document ∈ later.2, earlier.1.equal (key document) = false := by
  induction h with
  | nil => exact .nil
  | @joins documents document before after id members _ hbefore _ ih =>
      simp only [List.pairwise_append, List.pairwise_cons, List.forall_mem_cons] at ih ⊢
      refine ⟨ih.1, ih.2.1, fun group hgroup => ⟨?_, (ih.2.2 group hgroup).2⟩⟩
      simp only [List.forall_mem_append, List.forall_mem_singleton]
      exact ⟨(ih.2.2 group hgroup).1, hbefore group hgroup⟩
  | @starts documents document groups _ hnone ih =>
      refine List.pairwise_append.mpr ⟨ih, List.pairwise_singleton .., ?_⟩
      simpa using hnone

theorem covers (h : Grouped key documents groups) :
    (groups.flatMap fun group => group.2).Perm documents := by
  induction h with
  | nil => exact .nil
  | @joins documents document before after id members _ _ _ ih =>
      refine List.Perm.trans ?_ (ih.append_right [document])
      simp only [List.flatMap_append, List.flatMap_cons, List.append_assoc]
      exact (List.perm_append_comm.append_left members).append_left _
  | @starts documents document groups _ _ ih =>
      simpa using ih.append_right [document]

theorem in_order (h : Grouped key documents groups) :
    ∀ group ∈ groups, group.2.Sublist documents := by
  induction h with
  | nil => simp
  | @joins documents document before after id members _ _ _ ih =>
      have hlonger {group : Native × List Document} (h : group.2.Sublist documents) :
          group.2.Sublist (documents ++ [document]) := h.trans (List.sublist_append_left ..)
      simp only [List.forall_mem_append, List.forall_mem_cons] at ih ⊢
      exact ⟨fun group hgroup => hlonger (ih.1 group hgroup), ih.2.1.append (.refl _),
        fun group hgroup => hlonger (ih.2.2 group hgroup)⟩
  | @starts documents document groups _ _ ih =>
      simp only [List.forall_mem_append, List.forall_mem_singleton]
      exact ⟨fun group hgroup => (ih group hgroup).trans (List.sublist_append_left ..),
        List.sublist_append_right ..⟩

theorem first_seen (h : Grouped key documents groups) :
    ∃ firsts : List Document, firsts.Sublist documents ∧
      groups.map (fun group => group.2.head?) = firsts.map some := by
  induction h with
  | nil => exact ⟨[], .refl _, rfl⟩
  | @joins documents document before after id members hgroups _ _ ih =>
      obtain ⟨firsts, hfirsts, hheads⟩ := ih
      refine ⟨firsts, hfirsts.trans (List.sublist_append_left ..), ?_⟩
      obtain ⟨first, rest, heq, -⟩ := hgroups.led (id, members) (by simp)
      cases heq
      simpa using hheads
  | @starts documents document groups _ _ ih =>
      obtain ⟨firsts, hfirsts, hheads⟩ := ih
      refine ⟨firsts ++ [document], hfirsts.append (.refl _), ?_⟩
      simp [hheads]

end Grouped

/-! ### Keys and rows -/

end GroupStage

theorem Fields.wellFormed_get? {name : String} {fields : Document} {value : Native}
    (h : (Native.document fields).WellFormed) (hvalue : Fields.get? name fields = some value) :
    value.WellFormed :=
  Native.wellFormedFields_iff.mp h.2 _ (Fields.mem_of_get? hvalue)

theorem Path.wellFormed_follow {names : List String} {document : Document} {value : Native}
    (h : (Native.document document).WellFormed) (hvalue : follow document names = some value) :
    value.WellFormed := by
  induction names generalizing document with
  | nil => cases hvalue
  | cons name rest ih =>
      cases rest with
      | nil => exact Fields.wellFormed_get? h hvalue
      | cons second rest =>
          rw [follow] at hvalue
          split at hvalue
          · next inner hinner => exact ih (Fields.wellFormed_get? h hinner) hvalue
          · cases hvalue
          · simp

theorem Accumulator.output_of_compile {output : String} {definition : Native}
    {accumulator : Accumulator} (h : compile output definition = .ok accumulator) :
    accumulator.output = output := by
  unfold compile at h
  split at h
  · split at h
    · cases h
      rfl
    · cases h
  · cases h
  · cases h

namespace GroupStage

variable {spec : Document} {stage : GroupStage} {key : Document → Native}
  {documents : List Document} {document : Document} {groups : List (Native × List Document)}

theorem of_compile (h : compile spec = .ok stage) : ∃ id, Fields.get? keyName spec = some id ∧
    stage.key = .ofNative id ∧ columns spec = .ok stage.accumulators := by
  unfold compile at h
  split at h
  · cases h
  · next id hid =>
    simp only [Except.bind_eq_ok_iff, Except.pure_eq_ok_iff] at h
    obtain ⟨accumulators, hcolumns, rfl⟩ := h
    exact ⟨id, hid, rfl, hcolumns⟩

theorem outputs_of_columns {accumulators : List Accumulator}
    (h : columns spec = .ok accumulators) :
    accumulators.map (·.output) = (Fields.keys spec).filter (· ≠ keyName) := by
  induction spec generalizing accumulators with
  | nil =>
      cases h
      rfl
  | cons field rest ih =>
      obtain ⟨output, definition⟩ := field
      rw [columns] at h
      split at h
      · next hname =>
        simpa [Fields.keys, hname] using ih h
      · next hname =>
        simp only [Except.bind_eq_ok_iff, Except.pure_eq_ok_iff] at h
        obtain ⟨first, hfirst, others, hothers, rfl⟩ := h
        simpa [Fields.keys, hname, Accumulator.output_of_compile hfirst] using ih hothers

/-- The key and the columns of a row have names of their own. -/
theorem nodup_outputs (hspec : Fields.WellFormed spec) (h : compile spec = .ok stage) :
    (keyName :: stage.accumulators.map (·.output)).Nodup := by
  obtain ⟨-, -, -, hcolumns⟩ := of_compile h
  rw [outputs_of_columns hcolumns, List.nodup_cons]
  exact ⟨by simp, hspec.filter _⟩

theorem row_eq (h : (keyName :: stage.accumulators.map (·.output)).Nodup)
    (group : Native × List Document) :
    stage.row group = (keyName, group.1) ::
      stage.accumulators.map fun accumulator =>
        (accumulator.output, accumulator.fold group.2) := by
  have hinsert : stage.row group = Fields.insertAll [(keyName, group.1)]
      (stage.accumulators.map fun accumulator =>
        (accumulator.output, accumulator.fold group.2)) := by
    rw [Fields.insertAll, List.foldl_map]
    rfl
  rw [hinsert, Fields.insertAll_eq_append]
  · rfl
  · simpa [Fields.WellFormed, Fields.keys, Function.comp_def] using h

theorem wellFormed_keyOf (hspec : (Native.document spec).WellFormed)
    (h : compile spec = .ok stage) (hdocument : (Native.document document).WellFormed) :
    (stage.keyOf document).WellFormed := by
  obtain ⟨id, hid, hkey, -⟩ := of_compile h
  have hvalue (value : Native) (heval : stage.key.eval document = some value) :
      value.WellFormed := by
    rw [hkey] at heval
    unfold Expression.ofNative at heval
    split at heval
    · split at heval
      · exact Path.wellFormed_follow hdocument heval
      · cases heval
        trivial
    · cases heval
      exact Fields.wellFormed_get? hspec hid
  rw [keyOf]
  cases heval : stage.key.eval document with
  | none => trivial
  | some value => exact hvalue value heval

/-! ### The partition -/

structure Divides (key : Document → Native) (documents : List Document)
    (groups : List (Native × List Document)) : Prop where
  /-- Each document is in one group, as often as it is among the documents. -/
  covers : (groups.flatMap fun group => group.2).Perm documents
  counts : (groups.map fun group => group.2.length).sum = documents.length
  in_order : ∀ group ∈ groups, group.2.Sublist documents
  led : ∀ group ∈ groups, Led key group
  /-- The groups stand in the order in which their first documents came. -/
  first_seen : ∃ firsts : List Document, firsts.Sublist documents ∧
    groups.map (fun group => group.2.head?) = firsts.map some
  distinct : groups.Pairwise fun earlier later =>
    earlier.1.equal later.1 = false ∧ later.1.equal earlier.1 = false
  /-- A document whose key is not equal to itself shares its group with none. -/
  alone : ∀ group ∈ groups, ∀ document ∈ group.2,
    (key document).equal (key document) = false → group = (key document, [document])

namespace Grouped

theorem mem_of_mem (h : Grouped key documents groups) {group : Native × List Document}
    (hgroup : group ∈ groups) (hdocument : document ∈ group.2) : document ∈ documents :=
  (h.in_order group hgroup).subset hdocument

theorem divides (h : Grouped key documents groups)
    (hwell : ∀ document ∈ documents, (key document).WellFormed) :
    Divides key documents groups := by
  refine ⟨h.covers, ?counts, h.in_order, h.led, h.first_seen, ?distinct, ?alone⟩
  case counts =>
    rw [← h.covers.length_eq, List.length_flatMap]
  case distinct =>
    refine h.passed_over.imp_of_mem fun {earlier later} hearlier hlater hpassed => ?_
    obtain ⟨first, others, rfl, -⟩ := h.led earlier hearlier
    obtain ⟨second, rest, rfl, -⟩ := h.led later hlater
    have hdiffer := hpassed second (List.mem_cons_self ..)
    have hfirst := hwell first (h.mem_of_mem hearlier (List.mem_cons_self ..))
    have hsecond := hwell second (h.mem_of_mem hlater (List.mem_cons_self ..))
    exact ⟨hdiffer, (Native.equal_comm hsecond hfirst).trans hdiffer⟩
  case alone =>
    intro group hgroup document hdocument hself
    obtain ⟨first, rest, rfl, hrest⟩ := h.led group hgroup
    have hfirst := hwell first (h.mem_of_mem hgroup (List.mem_cons_self ..))
    -- what joined, and what was joined, is equal to itself
    have hjoined (other : Document) (hother : other ∈ rest) :
        (key first).equal (key first) = true ∧ (key other).equal (key other) = true := by
      have hequal := hrest other hother
      have hwell := hwell other (h.mem_of_mem hgroup (.tail _ hother))
      exact ⟨Native.equal_self_of_equal hfirst hwell hequal,
        Native.equal_self_of_equal hwell hfirst ((Native.equal_comm hwell hfirst).trans hequal)⟩
    rcases List.mem_cons.mp hdocument with rfl | hmem
    · cases rest with
      | nil => rfl
      | cons other rest =>
          exact absurd (hjoined other (List.mem_cons_self ..)).1 (by simp [hself])
    · exact absurd (hjoined document hmem).2 (by simp [hself])

end Grouped

/-- The rows of a compiled stage, one for each group of its documents: they come about document by
document as `Grouped` says, they divide the documents, and each row holds the key of its group and
every accumulator on the documents of its group. -/
theorem run_divides (hspec : (Native.document spec).WellFormed) (h : compile spec = .ok stage)
    (hdocuments : ∀ document ∈ documents, (Native.document document).WellFormed) :
    Grouped stage.keyOf documents (stage.groups documents) ∧
      Divides stage.keyOf documents (stage.groups documents) ∧
      stage.run documents = (stage.groups documents).map fun group =>
        (keyName, group.1) :: stage.accumulators.map fun accumulator =>
          (accumulator.output, accumulator.fold group.2) := by
  have hgrouped := grouped_groups stage documents
  refine ⟨hgrouped, hgrouped.divides fun document hmem => ?_, ?_⟩
  · exact wellFormed_keyOf hspec h (hdocuments document hmem)
  · exact List.map_congr_left fun group _ => row_eq (nodup_outputs hspec.1 h) group

def countByKind : Document := [("_id", .string "$kind"), ("n", .document [("$sum", .int32 1)])]

def kinds : List Document :=
  [[("kind", .int32 1)], [("kind", .double .nan)], [("kind", .double (.ofNat 1))], [],
    [("kind", .double .nan)]]

/-- The two NaNs are in rows of their own, and the number is in one row in both widths. -/
theorem run_divides_kinds : ∃ stage, compile countByKind = .ok stage ∧
    Divides stage.keyOf kinds (stage.groups kinds) ∧
    stage.run kinds = [[("_id", .int32 1), ("n", .int32 2)],
      [("_id", .double .nan), ("n", .int32 1)], [("_id", .null), ("n", .int32 1)],
      [("_id", .double .nan), ("n", .int32 1)]] := by
  have hspec : (Native.document countByKind).WellFormed := by
    simp [countByKind, Native.WellFormed, Native.WellFormedFields, Fields.WellFormed, Fields.keys]
  have hkinds : ∀ document ∈ kinds, (Native.document document).WellFormed := by
    simp [kinds, Native.WellFormed, Native.WellFormedFields, Fields.WellFormed, Fields.keys]
  obtain ⟨-, hdivides, hrun⟩ := run_divides hspec rfl hkinds
  exact ⟨_, rfl, hdivides, hrun.trans rfl⟩

end GroupStage

end StageThree
