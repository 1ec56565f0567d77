import StageThree.Proofs.AdapterHistory
import StageThree.Proofs.Writing

/-!
What is created is found. A record that was stored is among the answers to a query for the value
that it was given under any of its attributes, and to a query for the primary key that it was
returned with, which covers the keys that the store made up.
-/

namespace StageThree

/-- What an attribute has to be to be asked for by its value: its name is a plain one for clauses
and for the store, and the value converts as it is. -/
structure Askable (schema : ModelSchema) (attr : String) (value : Json) : Prop where
  not_json : schema.attributeType? attr ≠ some .json
  not_combinator : attr ≠ "and" ∧ attr ≠ "or"
  not_operator : isOperator attr = false
  undotted : '.' ∉ attr.toList
  kind : value.isScalar = true ∨ value = .null ∧ attr ≠ schema.primaryKey
  in_range : ∀ n above, value ≠ .number (.big n above)

/-! ### The stored document -/

namespace Record.Written

variable {schema : ModelSchema} {options : TranslateOptions} {record : Record}
  {document : Document} {attr : String} {value : Json} {plain : Native}

theorem lookup_key (schema : ModelSchema) (hundotted : '.' ∉ options.nativeKey.toList)
    (fresh : ObjectId) :
    Path.lookup (Store.keyFirst options.nativeKey fresh document)
        (Filter.nativeField schema options schema.primaryKey) =
      some ((Fields.get? options.nativeKey document).getD (.objectId fresh)) := by
  rw [Filter.nativeField_primaryKey, Path.lookup_of_not_mem hundotted, Store.keyFirst,
    Fields.get?_cons, if_pos rfl]

theorem lookup_expected (h : Written schema options record document)
    (hundotted : '.' ∉ options.nativeKey.toList)
    (hnames : options.nativeKey ∈ Fields.keys record → options.nativeKey = schema.primaryKey)
    (fresh : ObjectId) (hattr : (attr, value) ∈ record) (hask : Askable schema attr value)
    (hplain : Native.ofGeneric? value = some plain) :
    Path.lookup (Store.keyFirst options.nativeKey fresh document)
      (Filter.nativeField schema options attr) = some (expected schema attr plain) := by
  by_cases hprimary : attr = schema.primaryKey
  · subst hprimary
    have hnull : value ≠ .null := by
      rintro rfl
      obtain hscalar | ⟨-, hne⟩ := hask.kind
      · cases hscalar
      · exact hne rfl
    obtain ⟨key, hconverted, hget⟩ := h.of_key value hattr hnull
    rw [identifierUnder_of_plain _ _ hplain] at hconverted
    cases hconverted
    rw [lookup_key schema hundotted, hget, expected_primaryKey]
    rfl
  · have hne : options.nativeKey ≠ attr := by
      rintro rfl
      exact hprimary (hnames (Fields.mem_keys_of_mem hattr))
    obtain ⟨converted, hconverted, hget⟩ := h.of_attribute attr value hattr hprimary
    rw [nativeValue_of_plain hprimary hask.not_json hplain] at hconverted
    cases hconverted
    rw [Filter.nativeField_of_ne hprimary, Path.lookup_of_not_mem hask.undotted, Store.keyFirst,
      Fields.get?_cons, if_neg hne, Fields.get?_erase_of_ne hne, hget]

/-- A stored key is an identifier if it can be one, whether it was given or generated. -/
theorem identifier_key (h : Written schema options record document) (fresh : ObjectId) :
    Coercion.identifier ((Fields.get? options.nativeKey document).getD (.objectId fresh)) =
      (Fields.get? options.nativeKey document).getD (.objectId fresh) := by
  cases hget : Fields.get? options.nativeKey document with
  | none => rfl
  | some key =>
      obtain ⟨given, hgiven⟩ := h.key_eq key hget
      rw [Coercion.identifierUnder, Except.map_eq_ok_iff] at hgiven
      obtain ⟨plain, -, rfl⟩ := hgiven
      exact Coercion.identifier_identifier plain

theorem get?_read_keyFirst (h : Written schema options record document) (fresh : ObjectId) :
    Fields.get? schema.primaryKey
        (read schema options (Store.keyFirst options.nativeKey fresh document)) =
      some (Coercion.generic
        ((Fields.get? options.nativeKey document).getD (.objectId fresh))) := by
  refine get?_read_primaryKey fun name hname => ?_
  have hdocument : name ∈ Fields.keys document :=
    ((Fields.erase_sublist options.nativeKey document).map _).subset hname
  have hne : name ≠ options.nativeKey := by
    rintro rfl
    exact Fields.not_mem_keys_erase h.wellFormed hname
  exact ⟨hne, h.ne_key name hdocument hne⟩

end Record.Written

/-! ### Creation -/

namespace Adapter

variable {supply : Nat → ObjectId} {models : ModelRegistry} {options : TranslateOptions}
  {state : Supplied} {query : Query} {schema : ModelSchema} {record created : Record}

def Finds (adapter : Adapter Supplied) (state : Supplied) (model attr : String) (value : Json)
    (record : Record) : Prop :=
  ∀ query : Query, query.model = model → query.clause = .object [(attr, value)] →
    ∃ found, adapter.find state query = .ok found ∧ record ∈ found

theorem create_eq_ok (hmodel : models.get? query.model = some schema)
    (hrecord : query.record? = some record)
    (hcreate : (create ⟨.store supply, models, options⟩ state query).2 = .ok created) :
    ∃ document, Record.write schema options record = .ok document ∧
      let stored := Store.keyFirst state.store.key (supply state.count) document
      created = Record.read schema options stored ∧
        (create ⟨.store supply, models, options⟩ state query).1.store.documents query.model =
          state.store.documents query.model ++ [stored] := by
  obtain ⟨cause, hanswer, -⟩ | ⟨found, document, after, stored, hfound, hplan, hinsert, heq⟩ :=
    create_cases supply models options state query
  · rw [hanswer] at hcreate
    cases hcreate
  obtain rfl : found = schema := Option.some.inj (hfound.symm.trans hmodel)
  have hwrite : Record.write found options record = .ok document := by
    simp only [Query.planRecord, hrecord] at hplan
    split at hplan
    · next hwrite => rw [hwrite, Except.ok.inj hplan]
    · cases hplan
  obtain ⟨-, rfl, rfl⟩ := Store.insert_eq_ok_iff.mp hinsert
  rw [heq] at hcreate ⊢
  refine ⟨document, hwrite, (Except.ok.inj hcreate).symm, ?_⟩
  rw [Store.documents_insert, if_pos rfl]
  rfl

theorem finds_of_equal {stored : Document} {model attr : String} {value : Json}
    {held target : Native} (hmodel : models.get? model = some schema)
    (hmem : stored ∈ state.store.documents model)
    (hcombinator : attr ≠ "and" ∧ attr ≠ "or") (hvalue : value.isScalar = true ∨ value = .null)
    (hfield : isOperator (Filter.nativeField schema options attr) = false)
    (htarget : Filter.nativeOperand schema attr value = .ok target)
    (hheld : Path.lookup stored (Filter.nativeField schema options attr) = some held)
    (hequal : held.equal target = true) :
    Finds ⟨.store supply, models, options⟩ state model attr value
      (Record.read schema options stored) := by
  intro lookup hlookup hclause
  subst hlookup
  refine ⟨_, find_equality state hmodel hclause hcombinator hvalue hfield htarget, ?_⟩
  refine List.mem_map.mpr ⟨stored, List.mem_filter.mpr ⟨hmem, ?_⟩, rfl⟩
  rw [hheld, Condition.equals.eq_def]
  simp only [hequal, Bool.true_or]

/-- Whatever create stores, find finds: by each attribute as it was given, and by the primary key
as it was returned. -/
theorem finds_created (hmodel : models.get? query.model = some schema)
    (hrecord : query.record? = some record) (hwell : Fields.WellFormed record)
    (hstore : state.store.key = options.nativeKey)
    (hkey : isOperator options.nativeKey = false) (hundotted : '.' ∉ options.nativeKey.toList)
    (hprimary : schema.primaryKey ≠ "and" ∧ schema.primaryKey ≠ "or")
    (hnames : options.nativeKey ∈ Fields.keys record → options.nativeKey = schema.primaryKey)
    (hcreate : (create ⟨.store supply, models, options⟩ state query).2 = .ok created) :
    (∀ attr value, (attr, value) ∈ record → Askable schema attr value →
      Finds ⟨.store supply, models, options⟩
        (create ⟨.store supply, models, options⟩ state query).1 query.model attr value created) ∧
    ∀ value, Fields.get? schema.primaryKey created = some value → value.isScalar = true →
      Finds ⟨.store supply, models, options⟩
        (create ⟨.store supply, models, options⟩ state query).1 query.model schema.primaryKey value
        created := by
  obtain ⟨document, hwrite, rfl, hdocuments⟩ := create_eq_ok hmodel hrecord hcreate
  have hwritten : Record.Written schema options record document :=
    Record.written_of_write hwell hnames hwrite
  rw [hstore] at hdocuments ⊢
  have hmem := hdocuments ▸ List.mem_append_right _ (List.mem_singleton_self _)
  refine ⟨fun attr value hattr hask => ?_, fun value hvalue hscalar => ?_⟩
  · have hkind : value.isScalar = true ∨ value = .null := hask.kind.imp_right (·.1)
    obtain ⟨plain, hplain, hself⟩ := Coercion.exists_ofGeneric? hkind hask.in_range
    have hheld := hwritten.lookup_expected hundotted hnames (supply state.count) hattr hask hplain
    exact finds_of_equal hmodel hmem hask.not_combinator hkind
      (Filter.isOperator_nativeField hkey (.inl hask.not_operator))
      (Record.nativeOperand_of_plain attr hplain) hheld
      (Record.equal_self_expected schema attr hself)
  · -- reading only loses the width of a number, which equality does not see
    rw [hwritten.get?_read_keyFirst] at hvalue
    obtain rfl := Option.some.inj hvalue
    obtain ⟨plain, hplain, hequal⟩ :=
      Coercion.exists_ofGeneric?_generic (hwritten.identifier_key _) hscalar
    have htarget := @Record.nativeOperand_of_plain schema _ plain schema.primaryKey hplain
    rw [Record.expected_primaryKey] at htarget
    exact finds_of_equal hmodel hmem hprimary (.inl hscalar)
      (Filter.isOperator_nativeField hkey (.inr rfl)) htarget
      (Record.Written.lookup_key schema hundotted (supply state.count)) hequal

def petModels : ModelRegistry := .register .empty "pet" (.declare .empty "owner" .ref)

def createPet : Query :=
  { Query.of .create "pet" with
    record? := some [("name", .string "Rex"), ("owner", .string "507F1F77BCF86CD799439011")] }

/-- The reference is found as it was written, in capital letters, and the generated key as it was
returned. -/
theorem finds_created_pet :
    let adapter : Adapter Supplied := ⟨.store .ofNat, petModels, .default⟩
    let after := (adapter.create ⟨.empty "_id", 7⟩ createPet).1
    ∃ created, (adapter.create ⟨.empty "_id", 7⟩ createPet).2 = .ok created ∧
      Finds adapter after "pet" "owner" (.string "507F1F77BCF86CD799439011") created ∧
      Finds adapter after "pet" "id" (.string "000000000000000000000007") created := by
  intro adapter after
  refine ⟨_, rfl, ?_⟩
  have hwell : Fields.WellFormed [("name", Json.string "Rex"),
      ("owner", .string "507F1F77BCF86CD799439011")] := by
    simp [Fields.WellFormed, Fields.keys]
  have hfinds := @finds_created .ofNat petModels .default ⟨.empty "_id", 7⟩ createPet
    (.declare .empty "owner" .ref) _ _ rfl rfl hwell rfl (by decide) (by decide) (by decide)
    (by decide) rfl
  refine ⟨hfinds.1 _ _ (by simp) ⟨?_, ?_, ?_, ?_, .inl rfl, by simp⟩, hfinds.2 _ rfl rfl⟩
  all_goals decide

end Adapter

end StageThree
