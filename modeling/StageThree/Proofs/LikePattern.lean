import StageThree.Filter.Native
import StageThree.Regex.Pattern

/-!
Patterns with wildcards as regular expressions. The text of a pattern's regular expression is read
back as one part for each character, between two anchors (`Like.parse?_toRegex`): whatever a
character means in a regular expression, behind its backslash it stands for itself, and no
wildcard gets a suffix that would change it. In particular every pattern can be read, and none is
nested too deeply. That it compiles is more than that: a long pattern may outgrow the room that a
compiled expression is given, which is not modelled.
-/

namespace StageThree.Like

open Regex

def flags (ignoresCase : Bool) : Flags := { Flags.default with ignoreCase := ignoresCase }

/-- What a wildcard stands for: any character that does not end a line. -/
def wild : CharSet := .negated (.single '\n')

def charRegex (ignoresCase : Bool) (c : Char) : Regex :=
  if c = '%' then .repeated (.one wild) 0 none
  else if c = '_' then .one wild
  else .one (if ignoresCase then .caseless c else .single c)

def regex (ignoresCase : Bool) (pattern : String) : Regex :=
  seqAll (.look .textStart :: pattern.toList.map (charRegex ignoresCase) ++ [.look .textEnd])

/-! ### Reading one character of a pattern -/

def part (ignoresCase : Bool) (c : Char) : Piece :=
  ⟨charRegex ignoresCase c, if c = '%' then 1 else 0⟩

/-- The state in which the parts so far, the latest in front, are all there is. -/
def reading (ignoresCase : Bool) (parts : List Piece) : PatternState :=
  ⟨flags ignoresCase, ⟨flags ignoresCase, [], parts.map .piece⟩, [], []⟩

theorem runPattern?_of_step {state next : PatternState} {c : Char} {rest after : List Char}
    (hverbose : state.flags.verbose = false)
    (hstep : patternStep? state c rest = some (next, after))
    (hlength : after.length ≤ rest.length) :
    runPattern? state (c :: rest) = runPattern? next after := by
  rw [runPattern?]
  simp only [skip, hverbose, Bool.false_eq_true, if_false, hstep, List.length_cons]
  exact if_pos (Nat.lt_succ_of_le hlength)

theorem patternStep?_plain (state : PatternState) {c : Char} (rest : List Char)
    (hc : isMeta c = false) :
    patternStep? state c rest = some (state.add (.one (charSet state.flags c)) 0, rest) := by
  unfold patternStep?
  split <;> first | rfl | simp [isMeta] at hc

theorem escape?_meta (flags : Flags) {c : Char} (rest : List Char) (hc : isMeta c = true) :
    escape? flags (c :: rest) = some (.char c, rest) := by
  simp only [isMeta, decide_eq_true_eq, List.mem_cons, List.not_mem_nil, or_false] at hc
  rcases hc with rfl | rfl | rfl | rfl | rfl | rfl | rfl | rfl | rfl | rfl | rfl | rfl | rfl | rfl |
    rfl | rfl | rfl | rfl <;> rfl

theorem patternStep?_escape (state : PatternState) {c : Char} (rest : List Char)
    (hc : isMeta c = true) :
    patternStep? state '\\' (c :: rest) =
      some (state.add (.one (charSet state.flags c)) 0, rest) := by
  simp [patternStep?, escapeStep?, escape?_meta _ _ hc]

theorem charSet_flags (ignoresCase : Bool) (c : Char) :
    charSet (flags ignoresCase) c = if ignoresCase then .caseless c else .single c := by
  cases ignoresCase <;> rfl

theorem dot?_flags (ignoresCase : Bool) : dot? (flags ignoresCase) = some wild := by
  cases ignoresCase <;> rfl

/-- A literal character takes one step if it needs no backslash, and one step with it. -/
theorem runPattern?_escape (ignoresCase : Bool) (parts : List Piece) {c : Char} (rest : List Char)
    (hany : c ≠ '%') (hone : c ≠ '_') :
    runPattern? (reading ignoresCase parts) (escape c ++ rest) =
      runPattern? (reading ignoresCase (part ignoresCase c :: parts)) rest := by
  have hnext : (reading ignoresCase parts).add (.one (charSet (flags ignoresCase) c)) 0 =
      reading ignoresCase (part ignoresCase c :: parts) := by
    simp [PatternState.add, PatternState.addItem, reading, part, charRegex, hany, hone,
      charSet_flags]
  unfold escape
  split <;> rename_i hmeta
  · rw [← hnext]
    exact runPattern?_of_step rfl (patternStep?_escape _ _ hmeta) (Nat.le_succ _)
  · rw [← hnext]
    exact runPattern?_of_step rfl (patternStep?_plain _ _ (by simpa using hmeta)) (Nat.le_refl _)

theorem runPattern?_dot (ignoresCase : Bool) (parts : List Piece) (rest : List Char) :
    runPattern? (reading ignoresCase parts) ('.' :: rest) =
      runPattern? (reading ignoresCase (⟨.one wild, 0⟩ :: parts)) rest := by
  refine runPattern?_of_step rfl ?_ (Nat.le_refl _)
  simp [patternStep?, reading, dot?_flags, PatternState.add, PatternState.addItem]

/-- A star repeats the last part; without a question mark behind it that is all it does. -/
theorem runPattern?_star (ignoresCase : Bool) (last : Piece) (parts : List Piece)
    {rest : List Char} (hrest : rest.head? ≠ some '?') :
    runPattern? (reading ignoresCase (last :: parts)) ('*' :: rest) =
      runPattern? (reading ignoresCase (last.repeated 0 none :: parts)) rest := by
  refine runPattern?_of_step rfl ?_ (Nat.le_refl _)
  simp only [patternStep?, repetition?, reading, PatternState.repeat?, List.map_cons,
    Option.map_some, Option.some.injEq]
  split
  · simp at hrest
  · rfl

theorem runPattern?_piece (ignoresCase : Bool) (parts : List Piece) (c : Char) {rest : List Char}
    (hrest : rest.head? ≠ some '?') :
    runPattern? (reading ignoresCase parts) (piece c ++ rest) =
      runPattern? (reading ignoresCase (part ignoresCase c :: parts)) rest := by
  unfold piece
  split <;> rename_i hany
  · subst hany
    -- a question mark behind the star would make it a reluctant one
    simp only [List.cons_append, List.nil_append]
    rw [runPattern?_dot, runPattern?_star _ _ _ hrest]
    rfl
  · split <;> rename_i hone
    · subst hone
      exact runPattern?_dot _ _ _
    · exact runPattern?_escape _ _ _ hany hone

/-! ### Reading a whole pattern -/

theorem head?_piece_ne (c : Char) (rest : List Char) : (piece c ++ rest).head? ≠ some '?' := by
  unfold piece escape
  split
  · simp
  · split
    · simp
    · split <;> rename_i hmeta
      · simp
      · rintro h
        obtain rfl : c = '?' := by simpa using h
        exact hmeta rfl

theorem head?_pieces_ne (cs rest : List Char) (hrest : rest.head? ≠ some '?') :
    (cs.flatMap piece ++ rest).head? ≠ some '?' := by
  cases cs with
  | nil => simpa using hrest
  | cons c cs =>
      simp only [List.flatMap_cons, List.append_assoc]
      exact head?_piece_ne c _

theorem runPattern?_pieces (ignoresCase : Bool) (cs : List Char) (parts : List Piece)
    {rest : List Char} (hrest : rest.head? ≠ some '?') :
    runPattern? (reading ignoresCase parts) (cs.flatMap piece ++ rest) =
      runPattern? (reading ignoresCase ((cs.map (part ignoresCase)).reverse ++ parts)) rest := by
  induction cs generalizing parts with
  | nil => rfl
  | cons c cs ih =>
      simp only [List.flatMap_cons, List.append_assoc]
      rw [runPattern?_piece _ _ _ (head?_pieces_ne cs rest hrest), ih]
      simp

/-- The parts of a whole pattern: its characters between the two anchors. -/
def parts (ignoresCase : Bool) (pattern : String) : List Piece :=
  ⟨.look .textStart, 0⟩ :: pattern.toList.map (part ignoresCase) ++ [⟨.look .textEnd, 0⟩]

theorem runPattern?_toRegex (ignoresCase : Bool) (pattern : String) :
    runPattern? (.start (flags ignoresCase)) (toRegex pattern).toList =
      some (reading ignoresCase (parts ignoresCase pattern).reverse) := by
  have hstart : ∀ rest, runPattern? (.start (flags ignoresCase)) ('^' :: rest) =
      runPattern? (reading ignoresCase [⟨.look .textStart, 0⟩]) rest := fun rest =>
    runPattern?_of_step rfl rfl (Nat.le_refl _)
  have hend : ∀ parts, runPattern? (reading ignoresCase parts) ['$'] =
      some (reading ignoresCase (⟨.look .textEnd, 0⟩ :: parts)) := by
    intro parts
    rw [runPattern?_of_step rfl rfl (Nat.le_refl _), runPattern?]
    rfl
  rw [toRegex, String.toList_ofList, List.cons_append, hstart,
    runPattern?_pieces _ _ _ (by simp), hend]
  simp [parts]

theorem deepest_le {n : Nat} {pieces : List Piece} (h : ∀ piece ∈ pieces, piece.depth ≤ n) :
    Piece.deepest pieces ≤ n := by
  unfold Piece.deepest
  suffices ∀ m ≤ n, pieces.foldl (fun m piece => max m piece.depth) m ≤ n from
    this 0 (Nat.zero_le n)
  induction pieces with
  | nil => exact fun _ hm => hm
  | cons piece pieces ih =>
      intro m hm
      obtain ⟨hpiece, hpieces⟩ := List.forall_mem_cons.mp h
      exact ih hpieces _ (Nat.max_le.mpr ⟨hm, hpiece⟩)

theorem sequence_of_two_le {pieces : List Piece} (h : 2 ≤ pieces.length) :
    Piece.sequence pieces = ⟨seqAll (pieces.map (·.regex)), Piece.deepest pieces + 1⟩ := by
  match pieces, h with
  | _ :: _ :: _, _ => rfl

theorem toPiece_reading (ignoresCase : Bool) (pattern : String) :
    (reading ignoresCase (parts ignoresCase pattern).reverse).current.toPiece =
      ⟨regex ignoresCase pattern, Piece.deepest (parts ignoresCase pattern) + 1⟩ := by
  have htwo : 2 ≤ (parts ignoresCase pattern).length := by simp [parts]
  have hregex : (parts ignoresCase pattern).map (·.regex) = .look .textStart ::
      pattern.toList.map (charRegex ignoresCase) ++ [.look .textEnd] := by
    simp [parts, part]
  simp [reading, Group.toPiece, Group.branch, Piece.choice, Item.toPiece, Function.comp_def,
    sequence_of_two_le htwo, hregex, regex]

theorem deepest_parts_le (ignoresCase : Bool) (pattern : String) :
    Piece.deepest (parts ignoresCase pattern) ≤ 1 := by
  apply deepest_le
  intro piece hpiece
  simp only [parts, List.cons_append, List.mem_cons, List.mem_append, List.mem_map,
    List.not_mem_nil, or_false] at hpiece
  rcases hpiece with rfl | ⟨c, -, rfl⟩ | rfl
  · exact Nat.zero_le 1
  · unfold part
    split <;> simp
  · exact Nat.zero_le 1

/-- The regular expression of a pattern reads back as what the pattern stands for. -/
theorem parse?_toRegex (ignoresCase : Bool) (pattern : String) :
    Regex.parse? (flags ignoresCase) (toRegex pattern) = some (regex ignoresCase pattern) := by
  have hfits : Piece.deepest (parts ignoresCase pattern) + 1 ≤ maxDepth :=
    Nat.le_trans (Nat.succ_le_succ (deepest_parts_le ignoresCase pattern)) (by decide)
  have houter : (reading ignoresCase (parts ignoresCase pattern).reverse).outer = [] := rfl
  simp [Regex.parse?, runPattern?_toRegex, toPiece_reading, houter, hfits]

end StageThree.Like
