import StageThree.Proofs.EqualityClause
import StageThree.Proofs.RegexLanguage

/-!
What a pattern with wildcards says about a text, read off the pattern itself: each of its characters
stands for a piece of the text, and the pieces make up the whole text in order. No wildcard stands
for a line feed. So a text has as many line feeds as the patterns that it matches, and a wildcard
that is added to a pattern extends its texts by what is free of line feeds, and by nothing else.

All of this is said of patterns that compile: a long one may be refused for the room that its
compiled expression takes, which is not modelled.
-/

namespace StageThree

namespace Text

theorem lt_of_mem_foldRuns : ∀ run ∈ foldRuns, (10 : Int) < run.first + run.offset := by
  decide +kernel

theorem foldCode_eq_ten_iff {code : Nat} : foldCode code = 10 ↔ code = 10 := by
  constructor
  · intro h
    unfold foldCode at h
    split at h
    · next run hrun =>
      have hlt := lt_of_mem_foldRuns run (List.mem_of_find?_eq_some hrun)
      have hholds := List.find?_some hrun
      simp only [FoldRun.holds, Bool.and_eq_true, decide_eq_true_eq] at hholds
      omega
    · exact h
  · rintro rfl
    decide +kernel

/-- Nothing but the line feed is a line feed up to case. -/
theorem sameFold_lineFeed_iff {c d : Char} (h : sameFold c d = true) : c = '\n' ↔ d = '\n' := by
  have hcode (e : Char) : e = '\n' ↔ foldCode e.toNat = 10 := by
    rw [foldCode_eq_ten_iff, ← Char.toNat_inj]
    rfl
  rw [hcode c, hcode d, eq_of_beq h]

end Text

namespace Like

/-- Whether a character of a pattern stands for a piece of text. -/
def StandsFor (ignoresCase : Bool) (c : Char) (piece : List Char) : Prop :=
  if c = '%' then '\n' ∉ piece
  else if c = '_' then ∃ d, d ≠ '\n' ∧ piece = [d]
  else ∃ d, (if ignoresCase then Text.sameFold d c = true else d = c) ∧ piece = [d]

/-- Whether a text splits into pieces that the characters of a pattern stand for, one for each. -/
def Splits (ignoresCase : Bool) (pattern text : List Char) : Prop :=
  ∃ pieces, List.Forall₂ (StandsFor ignoresCase) pattern pieces ∧ pieces.flatten = text

variable {ignoresCase : Bool} {c : Char} {pattern text piece : List Char}

theorem contains_wild : wild.contains c = true ↔ c ≠ '\n' := by
  rw [wild, CharSet.contains, Bool.not_eq_true', ← Bool.not_eq_true, CharSet.contains_single]

theorem takes_charRegex (ignoresCase : Bool) (c : Char) :
    Regex.Takes (charRegex ignoresCase c) (StandsFor ignoresCase c) := by
  unfold charRegex
  split
  · next hany =>
    have hlanguage : StandsFor ignoresCase c =
        fun piece => ∀ d ∈ piece, wild.contains d = true := by
      funext piece
      simp only [StandsFor, if_pos hany, contains_wild]
      grind
    rw [hlanguage]
    exact Regex.takes_repeated_one wild
  · next hany =>
    split
    · next hone =>
      have hlanguage : StandsFor ignoresCase c =
          fun piece => ∃ d, wild.contains d = true ∧ piece = [d] := by
        funext piece
        simp only [StandsFor, if_neg hany, if_pos hone, contains_wild]
      rw [hlanguage]
      exact Regex.takes_one wild
    · next hone =>
      have hlanguage : StandsFor ignoresCase c = fun piece => ∃ d,
          (if ignoresCase then CharSet.caseless c else .single c).contains d = true ∧
            piece = [d] := by
        funext piece
        simp only [StandsFor, if_neg hany, if_neg hone]
        cases ignoresCase <;> simp [CharSet.contains, CharSet.contains_single]
      rw [hlanguage]
      exact Regex.takes_one _

/-- A pattern's regular expression matches the texts that the pattern splits. -/
theorem isMatch_regex_iff (ignoresCase : Bool) (pattern text : String) :
    (regex ignoresCase pattern).isMatch text = true ↔
      Splits ignoresCase pattern.toList text.toList :=
  Regex.isMatch_anchored_iff (Regex.takes_seqAll (takes_charRegex ignoresCase) _) text

/-! ### Line feeds and longer patterns -/

theorem count_of_standsFor (h : StandsFor ignoresCase c piece) :
    piece.count '\n' = [c].count '\n' := by
  unfold StandsFor at h
  split at h
  · next hany =>
    rw [List.count_eq_zero_of_not_mem h, hany]
    rfl
  · split at h
    · next hone =>
      obtain ⟨d, hd, rfl⟩ := h
      rw [hone]
      simp [hd]
    · obtain ⟨d, hd, rfl⟩ := h
      have hfeed : d = '\n' ↔ c = '\n' := by
        split at hd
        · exact Text.sameFold_lineFeed_iff hd
        · rw [hd]
      simp [List.count_singleton, hfeed]

theorem count_of_splits (h : Splits ignoresCase pattern text) :
    text.count '\n' = pattern.count '\n' := by
  obtain ⟨pieces, hpieces, rfl⟩ := h
  induction hpieces with
  | nil => rfl
  | @cons c piece pattern pieces hpiece _ ih =>
      rw [List.flatten_cons, List.count_append, ih, count_of_standsFor hpiece,
        ← List.count_append, List.singleton_append]

theorem splits_append {added more : List Char} (h : Splits ignoresCase pattern text)
    (hmore : Splits ignoresCase added more) :
    Splits ignoresCase (pattern ++ added) (text ++ more) := by
  obtain ⟨pieces, hpieces, rfl⟩ := h
  obtain ⟨others, hothers, rfl⟩ := hmore
  exact ⟨pieces ++ others, List.rel_append hpieces hothers, List.flatten_append⟩

theorem splits_singleton (h : StandsFor ignoresCase c piece) : Splits ignoresCase [c] piece :=
  ⟨[piece], .cons h .nil, List.append_nil piece⟩

/-- What a longer pattern adds to a text has the line feeds that are added to the pattern. -/
theorem count_of_splits_append {added more : List Char} (h : Splits ignoresCase pattern text)
    (hlonger : Splits ignoresCase (pattern ++ added) (text ++ more)) :
    more.count '\n' = added.count '\n' := by
  have hcount := count_of_splits hlonger
  rw [List.count_append, List.count_append, count_of_splits h] at hcount
  exact Nat.add_left_cancel hcount

theorem splits_any_iff {more : List Char} (h : Splits ignoresCase pattern text) :
    Splits ignoresCase (pattern ++ ['%']) (text ++ more) ↔ '\n' ∉ more := by
  constructor
  · intro hlonger
    exact List.count_eq_zero.mp (count_of_splits_append h hlonger)
  · intro hmore
    exact splits_append h (splits_singleton (by simpa [StandsFor] using hmore))

theorem splits_one_iff (h : Splits ignoresCase pattern text) :
    Splits ignoresCase (pattern ++ ['_']) (text ++ [c]) ↔ c ≠ '\n' := by
  constructor
  · intro hlonger
    have hmore := List.count_eq_zero.mp (count_of_splits_append h hlonger)
    simpa [eq_comm] using hmore
  · intro hc
    exact splits_append h (splits_singleton (by simpa [StandsFor] using hc))

end Like

namespace Filter

variable {schema : ModelSchema} {options : TranslateOptions} {attr pattern text : String}
  {document : Document}

theorem compile_like (pattern : String)
    (hfield : isOperator (nativeField schema options attr) = false) :
    ∃ native, toNative schema options (.like attr pattern) = .ok native ∧
      Predicate.compile native = .ok (.all [.field (nativeField schema options attr)
        [.isMatch (Like.regex options.likeIgnoresCase pattern)]]) := by
  refine ⟨[(nativeField schema options attr, .document (likeCondition options pattern))], ?_, ?_⟩
  · exact nativeComparison_eq_ok_iff.mpr ⟨rfl, likeCondition options pattern, rfl, rfl⟩
  · rw [Predicate.compile, Predicate.clauses_path 0 hfield, Condition.ofValue_likeCondition]
    rfl

/-- The predicate of a pattern is the match of its regular expression. -/
theorem eq_of_compile_like {native : Document} {predicate : Predicate}
    (hfield : isOperator (nativeField schema options attr) = false)
    (hnative : toNative schema options (.like attr pattern) = .ok native)
    (hcompile : Predicate.compile native = .ok predicate) :
    predicate = .all [.field (nativeField schema options attr)
      [.isMatch (Like.regex options.likeIgnoresCase pattern)]] := by
  obtain ⟨_, hnative', hcompile'⟩ := compile_like pattern hfield
  obtain rfl := Except.ok.inj (hnative.symm.trans hnative')
  exact Except.ok.inj (hcompile.symm.trans hcompile')

theorem holds_like_iff (pattern : String) {field : String} (ignoresCase : Bool)
    (hfound : Path.lookup document field = some (.string text)) :
    (Predicate.all [.field field [.isMatch (Like.regex ignoresCase pattern)]]).holds document =
        true ↔ Like.Splits ignoresCase pattern.toList text.toList := by
  rw [← Like.isMatch_regex_iff]
  simp [Predicate.holds, Predicate.holdAll, Condition.holds, Condition.anyElement, hfound,
    Native.asString?]

/-- A pattern on an attribute is translated, and once it is compiled it picks the documents whose
text it splits: `%` stands for any run of characters without a line feed, `_` for one character
other than the line feed, and every other character for itself, or for what it is up to case. -/
theorem like_holds_iff_splits (schema : ModelSchema) (options : TranslateOptions) {attr : String}
    (hfield : isOperator (nativeField schema options attr) = false)
    (hdot : '.' ∉ (nativeField schema options attr).toList) (pattern text : String) :
    ∃ native, toNative schema options (.like attr pattern) = .ok native ∧
      ∀ predicate, Predicate.compile native = .ok predicate →
        (predicate.holds [(nativeField schema options attr, .string text)] = true ↔
          Like.Splits options.likeIgnoresCase pattern.toList text.toList) := by
  obtain ⟨native, hnative, -⟩ := compile_like pattern hfield
  refine ⟨native, hnative, fun predicate hcompile => ?_⟩
  rw [eq_of_compile_like hfield hnative hcompile]
  refine holds_like_iff pattern _ ?_
  rw [Path.lookup_of_not_mem hdot, Fields.get?_cons, if_pos rfl]

/-- A character that means something else in a regular expression, a run with a blank in it and a
letter beyond ASCII, up to case. -/
theorem like_holds_iff_splits_id :
    isOperator (nativeField .empty .default "id") = false ∧
      '.' ∉ (nativeField .empty .default "id").toList ∧
      Like.Splits true ['é', '.', '%', '_'] ['É', '.', 'a', ' ', 'b'] ∧
      ∃ native predicate, toNative .empty .default (.like "id" "é.%_") = .ok native ∧
        Predicate.compile native = .ok predicate ∧
        predicate.holds [("_id", .string "É.a b")] = true := by
  have hsplits : Like.Splits true ['é', '.', '%', '_'] ['É', '.', 'a', ' ', 'b'] :=
    ⟨[['É'], ['.'], ['a', ' '], ['b']],
      .cons ⟨'É', by decide +kernel, rfl⟩ (.cons ⟨'.', by decide +kernel, rfl⟩
        (.cons (show '\n' ∉ ['a', ' '] by decide) (.cons ⟨'b', by decide, rfl⟩ .nil))), rfl⟩
  have hfield : isOperator (nativeField .empty .default "id") = false := by decide
  obtain ⟨native, hnative, hholds⟩ :=
    @like_holds_iff_splits .empty .default "id" hfield (by decide) "é.%_" "É.a b"
  obtain ⟨_, hnative', hcompile⟩ := compile_like "é.%_" hfield
  obtain rfl := Except.ok.inj (hnative.symm.trans hnative')
  exact ⟨hfield, by decide, hsplits, native, _, hnative, hcompile,
    (hholds _ hcompile).mpr hsplits⟩

def Compiles (schema : ModelSchema) (options : TranslateOptions) (filter : Filter) : Prop :=
  ∃ native predicate, toNative schema options filter = .ok native ∧
    Predicate.compile native = .ok predicate

/-- Whether a filter, translated and compiled, holds of a document. -/
def Selects (schema : ModelSchema) (options : TranslateOptions) (filter : Filter)
    (document : Document) : Prop :=
  ∃ native predicate, toNative schema options filter = .ok native ∧
    Predicate.compile native = .ok predicate ∧ predicate.holds document = true

theorem Selects.compiles {filter : Filter} (h : Selects schema options filter document) :
    Compiles schema options filter := by
  obtain ⟨native, predicate, hnative, hcompile, -⟩ := h
  exact ⟨native, predicate, hnative, hcompile⟩

theorem compiles_like (pattern : String)
    (hfield : isOperator (nativeField schema options attr) = false) :
    Compiles schema options (.like attr pattern) := by
  obtain ⟨native, hnative, hcompile⟩ := compile_like pattern hfield
  exact ⟨native, _, hnative, hcompile⟩

/-- A pattern on an operator's name does not compile. -/
theorem isOperator_of_compiles_like (h : Compiles schema options (.like attr pattern)) :
    isOperator (nativeField schema options attr) = false := by
  obtain ⟨native, predicate, hnative, hcompile⟩ := h
  obtain ⟨-, condition, -, rfl⟩ := nativeComparison_eq_ok_iff.mp hnative
  obtain ⟨predicates, hclauses, -⟩ := Predicate.compile_eq_ok_iff.mp hcompile
  exact Predicate.isOperator_eq_false_of_clauses hclauses

theorem selects_like_iff (hcompiles : Compiles schema options (.like attr pattern))
    (hfound : Path.lookup document (nativeField schema options attr) = some (.string text)) :
    Selects schema options (.like attr pattern) document ↔
      Like.Splits options.likeIgnoresCase pattern.toList text.toList := by
  have hfield := isOperator_of_compiles_like hcompiles
  rw [← holds_like_iff pattern _ hfound]
  constructor
  · rintro ⟨native, predicate, hnative, hcompile, hholds⟩
    rwa [← eq_of_compile_like hfield hnative hcompile]
  · intro hholds
    obtain ⟨native, predicate, hnative, hcompile⟩ := hcompiles
    rw [← eq_of_compile_like hfield hnative hcompile] at hholds
    exact ⟨native, predicate, hnative, hcompile, hholds⟩

/-- A wildcard behind a pattern extends the texts by runs without a line feed, and by single
characters other than the line feed, whatever the pattern is, if the longer pattern compiles. -/
theorem like_append_wildcard_iff {document extended : Document} {more : String}
    (hfound : Path.lookup document (nativeField schema options attr) = some (.string text))
    (hselects : Selects schema options (.like attr pattern) document)
    (hextended : Path.lookup extended (nativeField schema options attr) =
      some (.string (text ++ more))) :
    (Compiles schema options (.like attr (pattern ++ "%")) →
      (Selects schema options (.like attr (pattern ++ "%")) extended ↔ '\n' ∉ more.toList)) ∧
    ∀ c, more = String.singleton c →
      Compiles schema options (.like attr (pattern ++ "_")) →
      (Selects schema options (.like attr (pattern ++ "_")) extended ↔ c ≠ '\n') := by
  have hsplits := (selects_like_iff hselects.compiles hfound).mp hselects
  refine ⟨fun hany => ?_, ?_⟩
  · rw [selects_like_iff hany hextended, String.toList_append, String.toList_append]
    exact Like.splits_any_iff hsplits
  · rintro c rfl hone
    rw [selects_like_iff hone hextended, String.toList_append, String.toList_append,
      String.toList_singleton]
    exact Like.splits_one_iff hsplits

theorem like_append_wildcard_iff_owner :
    let owner : String → Document := fun name => [("owner", .document [("name", .string name)])]
    Path.lookup (owner "Rex") "owner.name" = some (.string "Rex") ∧
      Selects .empty .default (.like "owner.name" "r_x") (owner "Rex") ∧
      Path.lookup (owner ("Rex" ++ "!")) "owner.name" = some (.string ("Rex" ++ "!")) ∧
      Compiles .empty .default (.like "owner.name" ("r_x" ++ "%")) ∧
      Selects .empty .default (.like "owner.name" ("r_x" ++ "%")) (owner ("Rex" ++ "!")) ∧
      Compiles .empty .default (.like "owner.name" ("r_x" ++ "_")) ∧
      Selects .empty .default (.like "owner.name" ("r_x" ++ "_")) (owner ("Rex" ++ "!")) := by
  intro owner
  have hsplits : Like.Splits true ['r', '_', 'x'] ['R', 'e', 'x'] :=
    ⟨[['R'], ['e'], ['x']], .cons ⟨'R', by decide +kernel, rfl⟩ (.cons ⟨'e', by decide, rfl⟩
      (.cons ⟨'x', by decide +kernel, rfl⟩ .nil)), rfl⟩
  have hcompiles (pattern : String) : Compiles .empty .default (.like "owner.name" pattern) :=
    compiles_like pattern (by decide)
  have hselects : Selects .empty .default (.like "owner.name" "r_x") (owner "Rex") :=
    (@selects_like_iff _ _ _ _ "Rex" _ (hcompiles _) (by rfl)).mpr hsplits
  obtain ⟨hany, hone⟩ := @like_append_wildcard_iff .empty .default "owner.name" "r_x" "Rex"
    (owner "Rex") (owner ("Rex" ++ "!")) "!" (by rfl) hselects (by rfl)
  exact ⟨by rfl, hselects, by rfl, hcompiles _, (hany (hcompiles _)).mpr (by decide),
    hcompiles _, (hone '!' rfl (hcompiles _)).mpr (by decide)⟩

/-- Behind a text that a pattern matches, a line feed is covered by neither wildcard. -/
theorem not_like_append_lineFeed :
    Selects .empty .default (.like "a" "b") [("a", .string "b")] ∧
      ¬Selects .empty .default (.like "a" ("b" ++ "%")) [("a", .string ("b" ++ "\n"))] ∧
      ¬Selects .empty .default (.like "a" ("b" ++ "_")) [("a", .string ("b" ++ "\n"))] := by
  have hsplits : Like.Splits true ['b'] ['b'] :=
    ⟨[['b']], .cons ⟨'b', by decide +kernel, rfl⟩ .nil, rfl⟩
  have hcompiles (pattern : String) : Compiles .empty .default (.like "a" pattern) :=
    compiles_like pattern (by decide)
  refine ⟨(@selects_like_iff _ _ _ _ "b" _ (hcompiles _) (by rfl)).mpr hsplits, ?_, ?_⟩
  · rw [@selects_like_iff _ _ _ _ ("b" ++ "\n") _ (hcompiles _) (by rfl)]
    exact fun h => (Like.splits_any_iff hsplits).mp h (by decide)
  · rw [@selects_like_iff _ _ _ _ ("b" ++ "\n") _ (hcompiles _) (by rfl)]
    exact fun h => (Like.splits_one_iff hsplits).mp h rfl

end Filter

end StageThree
