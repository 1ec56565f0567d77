import Mathlib.Data.List.DropRight
import StageThree.Config
import StageThree.Proofs.CreateFind
import StageThree.Proofs.IdentifierText

/-!
The key field that a configuration names. Any name passes that is not blank, and records can be
created under it; but they are found by their key only if the name means nothing else to the store:
it must not be that of an operator, and have no dots.
-/

namespace StageThree

/-! ### Blanks -/

namespace Text

variable {s : String}

theorem toList_trim (s : String) :
    (trim s).toList = ((s.toList.dropWhile isBlank).reverse.dropWhile isBlank).reverse := by
  rw [trim, String.toList_ofList]

theorem trim_eq_empty_iff : trim s = "" ↔ ∀ c ∈ s.toList, isBlank c = true := by
  rw [← String.toList_eq_nil_iff, toList_trim, List.reverse_eq_nil_iff, List.dropWhile_eq_nil_iff]
  simp only [List.mem_reverse]
  rw [← List.dropWhile_eq_nil_iff, List.dropWhile_idempotent, List.dropWhile_eq_nil_iff]

theorem trim_trim_ne_empty (h : trim s ≠ "") : trim (trim s) ≠ "" := by
  intro hblank
  rw [trim_eq_empty_iff, toList_trim] at hblank
  simp only [List.mem_reverse] at hblank
  rw [← List.dropWhile_eq_nil_iff, List.dropWhile_idempotent] at hblank
  apply h
  rw [← String.toList_eq_nil_iff, toList_trim, hblank, List.reverse_nil]

end Text

/-! ### Settings -/

namespace Config

/-- The configurations that a run can start from: the default one, and those in files. -/
def Loads (config : Config) : Prop :=
  config = .default ∨ ∃ format path content, ofText format path content = .ok config

variable {config : Config}

theorem isUsable_iff : config.isUsable = true ↔ Text.trim config.translate.nativeKey ≠ "" := by
  simp [isUsable]

theorem isUsable_of_loads (h : config.Loads) : config.isUsable = true := by
  obtain rfl | ⟨format, path, content, htext⟩ := h
  · decide
  · unfold ofText at htext
    split at htext
    · cases htext
    · split at htext
      · next husable =>
        obtain rfl := Except.ok.inj htext
        exact husable
      · cases htext

/-- The environment replaces a usable key only by a usable key. -/
theorem isUsable_override (lookup : String → Option String) (h : config.isUsable = true) :
    (config.override lookup).isUsable = true := by
  rw [isUsable_iff] at h ⊢
  unfold override
  cases lookup "MOORAGE_NATIVE_KEY" with
  | none => exact h
  | some key =>
      rw [Option.map_some]
      dsimp only
      split
      · exact h
      · next hkey => exact Text.trim_trim_ne_empty hkey

end Config

/-! ### Names with a meaning -/

namespace Path

theorem splitDots_of_mem {cs : List Char} (h : '.' ∈ cs) :
    ∃ first second rest, splitDots cs = first :: second :: rest ∧ '.' ∉ first := by
  induction cs with
  | nil => cases h
  | cons c others ih =>
      rw [splitDots]
      split
      · next hdot =>
        obtain ⟨part, parts, hparts⟩ : ∃ part parts, splitDots others = part :: parts := by
          by_cases hmem : '.' ∈ others
          · obtain ⟨first, second, rest, heq, -⟩ := ih hmem
            exact ⟨first, second :: rest, heq⟩
          · exact ⟨others, [], splitDots_of_not_mem hmem⟩
        rw [hparts]
        exact ⟨[], part, parts, rfl, List.not_mem_nil⟩
      · next hdot =>
        obtain ⟨first, second, rest, heq, hfirst⟩ := ih ((List.mem_cons.mp h).resolve_left
          (Ne.symm hdot))
        rw [heq]
        refine ⟨c :: first, second, rest, rfl, ?_⟩
        rw [List.mem_cons, not_or]
        exact ⟨Ne.symm hdot, hfirst⟩

/-- A name with dots does not lead to the field of that name. -/
theorem lookup_of_mem {path : String} (h : '.' ∈ path.toList) (value : Native) :
    lookup [(path, value)] path = none := by
  obtain ⟨first, second, rest, heq, hfirst⟩ := splitDots_of_mem h
  have hne : path ≠ String.ofList first := by
    intro hsame
    rw [hsame, String.toList_ofList] at h
    exact hfirst h
  rw [lookup, segments, heq, List.map_cons, List.map_cons, follow, Fields.get?_cons, if_neg hne,
    Fields.get?_nil]
  exact List.cons_ne_nil _ _

end Path

namespace Predicate

def misplaced (key : String) : Rejection :=
  if key = "$and" ∨ key = "$or" then .branchesKind key else .unknownCombinator key

theorem compile_equality_of_operator {key : String} (target : Native)
    (h : isOperator key = true) :
    compile (Filter.equality key target) = .error (misplaced key) := by
  rw [compile, Filter.equality, clauses_single, clause]
  · unfold misplaced
    split <;> rfl
  · rintro items ⟨⟩

end Predicate

/-! ### The key of one record -/

namespace Adapter

variable {supply : Nat → ObjectId} {models : ModelRegistry} {options : TranslateOptions}
  {schema : ModelSchema} {query : Query} {text : String}

def keyAlone (key text : String) : Document := [(key, Coercion.identifier (.string text))]

theorem write_keyAlone (schema : ModelSchema) (options : TranslateOptions) (text : String) :
    Record.write schema options [(schema.primaryKey, .string text)] =
      .ok (keyAlone options.nativeKey text) := by
  have hget : Fields.get? schema.primaryKey [(schema.primaryKey, Json.string text)] =
      some (.string text) := if_pos rfl
  have hrest : Fields.swapErase schema.primaryKey [(schema.primaryKey, Json.string text)] = [] :=
    if_pos rfl
  rw [Record.write, Record.keyDocument, hget, hrest]
  dsimp only
  rw [Record.identifierUnder_of_plain _ _ rfl]
  rfl

theorem read_keyAlone (schema : ModelSchema) (options : TranslateOptions) (text : String) :
    Record.read schema options (keyAlone options.nativeKey text) =
      [(schema.primaryKey, (Json.string text).asIdentifier)] := by
  have hkey : Record.attributeOf schema options options.nativeKey = schema.primaryKey :=
    if_pos rfl
  have hvalue : Coercion.generic (Coercion.identifier (.string text)) =
      (Json.string text).asIdentifier := Coercion.generic_identifier _
  rw [Record.read, keyAlone, List.map_singleton]
  dsimp only
  rw [hkey, hvalue]
  rfl

def storeAlone (model key text : String) : Store := ⟨key, [(model, [keyAlone key text])]⟩

theorem create_keyAlone (supply : Nat → ObjectId) (count : Nat)
    (hmodel : models.get? query.model = some schema)
    (hrecord : query.record? = some [(schema.primaryKey, .string text)]) :
    create ⟨.store supply, models, options⟩ ⟨.empty options.nativeKey, count⟩ query =
      (⟨storeAlone query.model options.nativeKey text, count + 1⟩,
        .ok [(schema.primaryKey, (Json.string text).asIdentifier)]) := by
  have hplan : query.planRecord schema options = .ok (keyAlone options.nativeKey text) := by
    rw [Query.planRecord, hrecord]
    dsimp only
    rw [write_keyAlone]
  have hstored : keyAlone options.nativeKey text =
      Store.keyFirst options.nativeKey (supply count) (keyAlone options.nativeKey text) := by
    simp [Store.keyFirst, keyAlone, Fields.get?_cons, Fields.erase]
  have hinsert : (Store.empty options.nativeKey).insert query.model (supply count)
      (keyAlone options.nativeKey text) =
        .ok (storeAlone query.model options.nativeKey text, keyAlone options.nativeKey text) :=
    Store.insert_eq_ok_iff.mpr ⟨rfl, hstored, rfl⟩
  simp only [create, resolve_of_get? hmodel, hplan, Executor.store, Supplied.insert, hinsert,
    relayed, Except.map, read_keyAlone]

theorem documents_storeAlone (model key text : String) :
    (storeAlone model key text).documents model = [keyAlone key text] := by
  rw [Store.documents, storeAlone, Fields.get?_cons, if_pos rfl, Option.getD_some]

/-- The record is found by its key if the name of the key field is plain. Under a name with dots
nothing is found, and under that of an operator the store rejects the filter. -/
theorem find_keyAlone (count : Nat) (hmodel : models.get? query.model = some schema)
    (hclause : query.clause = .object [(schema.primaryKey, .string text)])
    (hprimary : schema.primaryKey ≠ "and" ∧ schema.primaryKey ≠ "or") :
    find ⟨.store supply, models, options⟩
        ⟨storeAlone query.model options.nativeKey text, count⟩ query =
      if isOperator options.nativeKey then
        .error (.store (.rejected (Predicate.misplaced options.nativeKey)))
      else if '.' ∈ options.nativeKey.toList then .ok []
      else .ok [[(schema.primaryKey, (Json.string text).asIdentifier)]] := by
  have htarget := @Record.nativeOperand_of_plain schema (.string text) (.string text)
    schema.primaryKey rfl
  rw [Record.expected_primaryKey] at htarget
  split
  · next hkey =>
    have hfilter : Filter.whereToNative schema options query.clause =
        .ok (Filter.equality options.nativeKey (Coercion.identifier (.string text))) := by
      rw [hclause, Filter.whereToNative_equality hprimary (.inl rfl) htarget,
        Filter.nativeField_primaryKey]
    rw [find_eq_map_select hmodel, select_of_whereToNative hmodel hfilter, Store.find,
      Predicate.compile_equality_of_operator _ hkey]
    rfl
  · next hkey =>
    have hfield : isOperator (Filter.nativeField schema options schema.primaryKey) = false := by
      rw [Filter.nativeField_primaryKey]
      exact Bool.eq_false_iff.mpr hkey
    rw [find_equality _ hmodel hclause hprimary (.inl rfl) hfield htarget, documents_storeAlone,
      Filter.nativeField_primaryKey]
    split
    · next hdotted =>
      -- the path goes through documents that are not there, and only null equals what is absent
      have habsent : Condition.equals (Coercion.identifier (.string text)) none = false := by
        rw [Coercion.identifier_string]
        cases ObjectId.ofHex? text <;> rfl
      rw [List.filter_singleton, keyAlone, Path.lookup_of_mem hdotted, habsent]
      rfl
    · next hundotted =>
      have hequal := Coercion.equal_self_identifier (Native.equal_self_string text)
      have hpresent : Condition.equals (Coercion.identifier (.string text))
          (some (Coercion.identifier (.string text))) = true := by
        rw [Condition.equals.eq_def]
        simp only [hequal, Bool.true_or]
      have hheld : Path.lookup (keyAlone options.nativeKey text) options.nativeKey =
          some (Coercion.identifier (.string text)) := by
        rw [Path.lookup_of_not_mem hundotted, keyAlone, Fields.get?_cons, if_pos rfl]
      rw [List.filter_singleton, hheld, hpresent, cond_true, List.map_singleton,
        read_keyAlone]

/-- Under a configuration that loads, the first record can be created, whatever the key field is
called. Asking for its key finds exactly this record if the name is plain, finds nothing if the
name has dots, and is rejected if the name is that of an operator. -/
theorem find_configured {config : Config} (hloads : config.Loads)
    (lookup : String → Option String) (supply : Nat → ObjectId) (count : Nat)
    {creating asking : Query} (hmodel : models.get? creating.model = some schema)
    (hsame : asking.model = creating.model)
    (hrecord : creating.record? = some [(schema.primaryKey, .string text)])
    (hclause : asking.clause = .object [(schema.primaryKey, .string text)])
    (hprimary : schema.primaryKey ≠ "and" ∧ schema.primaryKey ≠ "or") :
    let options := (config.override lookup).translate
    let adapter : Adapter Supplied := ⟨.store supply, models, options⟩
    let created : Record := [(schema.primaryKey, (Json.string text).asIdentifier)]
    Text.trim options.nativeKey ≠ "" ∧
      ∃ after, adapter.create ⟨.empty options.nativeKey, count⟩ creating = (after, .ok created) ∧
        adapter.find after asking =
          if isOperator options.nativeKey then
            .error (.store (.rejected (Predicate.misplaced options.nativeKey)))
          else if '.' ∈ options.nativeKey.toList then .ok []
          else .ok [created] := by
  intro options adapter created
  have husable := Config.isUsable_override lookup (Config.isUsable_of_loads hloads)
  have hasked : models.get? asking.model = some schema := by rw [hsame, hmodel]
  refine ⟨Config.isUsable_iff.mp husable, _, create_keyAlone supply count hmodel hrecord, ?_⟩
  rw [← hsame]
  exact find_keyAlone (count + 1) hasked hclause hprimary

def createRex : Query := { Query.of .create "pet" with record? := some [("id", .string "rex")] }

def findRex : Query := { Query.of .find "pet" with clause := .object [("id", .string "rex")] }

/-- A key field that is named in a file is used as any other. -/
theorem find_configured_uid :
    ∃ config, Config.ofText .toml "moorage.toml" "translate.native_key = \"uid\"" = .ok config ∧
      let adapter : Adapter Supplied := ⟨.store .ofNat, .register .empty "pet" .empty,
        (config.override fun _ => none).translate⟩
      ∃ after, adapter.create ⟨.empty "uid", 0⟩ createRex =
          (after, .ok [("id", .string "rex")]) ∧
        adapter.find after findRex = .ok [[("id", .string "rex")]] := by
  have hloaded : Config.ofText .toml "moorage.toml" "translate.native_key = \"uid\"" =
      .ok ⟨⟨"uid", .permissive, true⟩, none⟩ := by decide +kernel
  refine ⟨_, hloaded, ?_⟩
  obtain ⟨-, after, hcreated, hfound⟩ := @find_configured (.register .empty "pet" .empty) .empty
    "rex" _ (.inr ⟨_, _, _, hloaded⟩) (fun _ => none) .ofNat 0 createRex findRex rfl rfl rfl rfl
    (by decide)
  exact ⟨after, hcreated, hfound⟩

/-- Two names that are accepted: under one the record is not found, under the other nothing can be
asked for. -/
theorem not_find_configured :
    (∃ config, Config.ofText .toml "moorage.toml" "translate.native_key = \"a.b\"" = .ok config ∧
      let adapter : Adapter Supplied := ⟨.store .ofNat, .register .empty "pet" .empty,
        (config.override fun _ => none).translate⟩
      ∃ after, adapter.create ⟨.empty "a.b", 0⟩ createRex =
          (after, .ok [("id", .string "rex")]) ∧
        adapter.find after findRex = .ok []) ∧
    ∃ config, Config.ofText .toml "moorage.toml" "translate.native_key = \"$key\"" = .ok config ∧
      let adapter : Adapter Supplied := ⟨.store .ofNat, .register .empty "pet" .empty,
        (config.override fun _ => none).translate⟩
      ∃ after, adapter.create ⟨.empty "$key", 0⟩ createRex =
          (after, .ok [("id", .string "rex")]) ∧
        adapter.find after findRex = .error (.store (.rejected (.unknownCombinator "$key"))) := by
  have hdotted : Config.ofText .toml "moorage.toml" "translate.native_key = \"a.b\"" =
      .ok ⟨⟨"a.b", .permissive, true⟩, none⟩ := by decide +kernel
  have hoperator : Config.ofText .toml "moorage.toml" "translate.native_key = \"$key\"" =
      .ok ⟨⟨"$key", .permissive, true⟩, none⟩ := by decide +kernel
  exact ⟨⟨_, hdotted, _, rfl, rfl⟩, ⟨_, hoperator, _, rfl, rfl⟩⟩

end Adapter

end StageThree
