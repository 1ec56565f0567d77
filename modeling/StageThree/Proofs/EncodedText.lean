import Mathlib.Data.List.Basic
import Mathlib.Data.List.TakeWhile
import StageThree.Json.Parser

/-!
What a text encodes is never that text: a string is written between quotes, so that the text of a
string is longer than the string. The decimal text of an integer encodes the integer.
-/

namespace StageThree

namespace Json

/-! ### The length of strings -/

/-- The number of characters that a token takes up at least, as far as strings go. -/
def Token.weight : Token → Nat
  | .scalar (.string text) => text.toList.length + 2
  | _ => 0

/-- The number of characters that the string at hand took up at least. -/
def LexMode.weight : LexMode → Nat
  | .between | .word _ | .number _ => 0
  | .string text => text.length + 1
  | .escape text | .unicode text _ _ _ | .paired text _ | .pairedEscape text _ => text.length + 2

def weights : List Token → Nat
  | [] => 0
  | token :: rest => token.weight + weights rest

@[simp] theorem weights_cons (token : Token) (tokens : List Token) :
    weights (token :: tokens) = token.weight + weights tokens := rfl

theorem weights_append (tokens others : List Token) :
    weights (tokens ++ others) = weights tokens + weights others := by
  induction tokens with
  | nil => exact (Nat.zero_add _).symm
  | cons token rest ih => rw [List.cons_append, weights_cons, weights_cons, ih, Nat.add_assoc]

theorem weights_reverse (tokens : List Token) : weights tokens.reverse = weights tokens := by
  induction tokens with
  | nil => rfl
  | cons token rest ih =>
      rw [List.reverse_cons, weights_append, ih, weights_cons, Nat.add_comm]
      rfl

theorem weight_le_weights {token : Token} {tokens : List Token} (h : token ∈ tokens) :
    token.weight ≤ weights tokens := by
  induction tokens with
  | nil => cases h
  | cons first rest ih =>
      rw [weights_cons]
      obtain rfl | hrest := List.mem_cons.mp h
      · omega
      · have hle := ih hrest
        omega

def LexState.weight (state : LexState) : Nat := weights state.tokens + state.mode.weight

variable {tokens result : List Token} {state next : LexState} {c : Char}

theorem weight_lexBetween (h : lexBetween tokens c = some next) :
    next.weight ≤ weights tokens + 1 := by
  unfold lexBetween at h
  split at h
  · cases h
    exact Nat.le_succ _
  · split at h
    case h_8 =>
      split_ifs at h <;> cases h <;> exact Nat.le_succ _
    all_goals
      cases h
      simp [LexState.weight, LexMode.weight, Token.weight]

theorem weights_finishScalar {mode : LexMode} (h : finishScalar tokens mode = some result) :
    weights result = weights tokens := by
  cases mode with
  | between =>
      cases h
      rfl
  | word text =>
      simp only [finishScalar, Option.map_eq_some_iff] at h
      obtain ⟨value, hvalue, rfl⟩ := h
      unfold wordValue? at hvalue
      split_ifs at hvalue <;> cases hvalue <;> simp [Token.weight]
  | number text =>
      simp only [finishScalar, Option.map_eq_some_iff] at h
      obtain ⟨value, -, rfl⟩ := h
      simp [Token.weight]
  | _ => cases h

theorem weight_afterScalar {mode : LexMode}
    (h : ((finishScalar tokens mode).bind fun tokens => lexBetween tokens c) = some next) :
    next.weight ≤ weights tokens + 1 := by
  obtain ⟨others, hothers, h⟩ := Option.bind_eq_some_iff.mp h
  rw [← weights_finishScalar hothers]
  exact weight_lexBetween h

theorem weight_lexUnicode {text : List Char} {leading : Option Nat} {unit : Nat}
    (h : lexUnicode tokens text leading unit = some next) :
    next.weight = weights tokens + (text.length + 2) := by
  unfold lexUnicode at h
  split at h <;> split_ifs at h <;> cases h <;> rfl

/-- One character makes the strings longer by one character at most. -/
theorem weight_lexStep (h : lexStep state c = some next) : next.weight ≤ state.weight + 1 := by
  obtain ⟨tokens, mode⟩ := state
  show next.weight ≤ weights tokens + mode.weight + 1
  cases mode with
  | between => exact weight_lexBetween h
  | word text | number text =>
      simp only [lexStep] at h
      split_ifs at h
      · cases h
        exact Nat.le_succ _
      · exact weight_afterScalar h
  | string text =>
      simp only [lexStep] at h
      split_ifs at h
      · cases h
        simp only [LexState.weight, LexMode.weight, weights_cons, Token.weight,
          String.toList_ofList, List.length_reverse]
        omega
      · cases h
        exact Nat.le_refl _
      · cases h
        exact Nat.le_refl _
  | escape text =>
      simp only [lexStep] at h
      split_ifs at h
      · cases h
        exact Nat.le_succ _
      · obtain ⟨d, -, rfl⟩ := Option.map_eq_some_iff.mp h
        exact Nat.le_succ _
  | unicode text leading missing value =>
      simp only [lexStep, Option.bind_eq_some_iff] at h
      obtain ⟨digit, -, h⟩ := h
      split_ifs at h
      · rw [weight_lexUnicode h]
        exact Nat.le_succ _
      · cases h
        exact Nat.le_succ _
  | paired text leading | pairedEscape text leading =>
      simp only [lexStep] at h
      split_ifs at h
      cases h
      exact Nat.le_succ _

theorem weight_foldlM_lexStep {text : List Char} (h : text.foldlM lexStep state = some next) :
    next.weight ≤ state.weight + text.length := by
  induction text generalizing state with
  | nil =>
      cases h
      exact Nat.le_refl _
  | cons c rest ih =>
      rw [List.foldlM_cons, Option.bind_eq_bind, Option.bind_eq_some_iff] at h
      obtain ⟨middle, hmiddle, h⟩ := h
      have hstep := weight_lexStep hmiddle
      have hrest := ih h
      rw [List.length_cons]
      omega

theorem weights_of_lex? {text : List Char} (h : lex? text = some tokens) :
    weights tokens ≤ text.length := by
  simp only [lex?, Option.bind_eq_bind, Option.bind_eq_some_iff, Option.pure_def,
    Option.some.injEq] at h
  obtain ⟨state, hstate, found, hfound, rfl⟩ := h
  have hweight := weight_foldlM_lexStep hstate
  have hstart : LexState.weight ⟨[], .between⟩ = 0 := rfl
  have hfinished := weights_finishScalar hfound
  have hreverse := weights_reverse found
  have hstateWeight : state.weight = weights state.tokens + state.mode.weight := rfl
  omega

/-- A string in a text is shorter than the text. -/
theorem length_of_mem_lex? {text : List Char} {string : String} (h : lex? text = some tokens)
    (hmem : .scalar (.string string) ∈ tokens) : string.toList.length + 2 ≤ text.length := by
  exact Nat.le_trans (weight_le_weights hmem) (weights_of_lex? h)

/-! ### Strings that are parsed -/

variable {stack : List Frame} {before after : ParseState} {token : Token} {value final : Json}
  {text string : String}

theorem eq_of_complete (h : complete value stack = some after) (hphase : after.phase = .finished final) :
    final = value := by
  unfold complete at h
  split at h <;> cases h <;> cases hphase
  rfl

theorem phase_of_openFrame {frame : Frame} {phase : Phase}
    (h : openFrame stack frame phase = some after) : after.phase = phase := by
  unfold openFrame at h
  split at h <;> cases h
  rfl

theorem ne_string_of_closeArray (h : closeArray stack = some after) :
    after.phase ≠ .finished (.string string) := by
  intro hphase
  unfold closeArray at h
  split at h
  · cases eq_of_complete h hphase
  · cases h

theorem ne_string_of_closeObject (h : closeObject stack = some after) :
    after.phase ≠ .finished (.string string) := by
  intro hphase
  unfold closeObject at h
  split at h
  · cases eq_of_complete h hphase
  · cases h

/-- Only the token of a string ends in a string. -/
theorem eq_scalar_of_parseStep (h : parseStep before token = some after)
    (hphase : after.phase = .finished (.string string)) : token = .scalar (.string string) := by
  unfold parseStep at h
  split at h
  · rw [eq_of_complete h hphase]
  · cases (phase_of_openFrame h).symm.trans hphase
  · cases (phase_of_openFrame h).symm.trans hphase
  · exact absurd hphase (ne_string_of_closeArray h)
  · split at h <;> cases h
    cases hphase
  · exact absurd hphase (ne_string_of_closeObject h)
  · cases h
    cases hphase
  · split at h <;> cases h <;> cases hphase
  · exact absurd hphase (ne_string_of_closeArray h)
  · exact absurd hphase (ne_string_of_closeObject h)
  · cases h

theorem mem_of_foldlM_parseStep (h : tokens.foldlM parseStep before = some after)
    (hphase : after.phase = .finished (.string string)) :
    before.phase = .finished (.string string) ∨ .scalar (.string string) ∈ tokens := by
  induction tokens generalizing before with
  | nil =>
      cases h
      exact .inl hphase
  | cons token rest ih =>
      rw [List.foldlM_cons, Option.bind_eq_bind, Option.bind_eq_some_iff] at h
      obtain ⟨middle, hmiddle, h⟩ := h
      right
      rcases ih h with hfinished | hmem
      · rw [eq_scalar_of_parseStep hmiddle hfinished]
        exact List.mem_cons_self ..
      · exact List.mem_cons_of_mem _ hmem

theorem eq_string_of_dedupe (h : value.dedupe = .string string) : value = .string string := by
  cases value with
  | array | object => cases h
  | _ => exact h

/-- No text encodes itself. -/
theorem parse?_ne_self (text : String) : parse? text ≠ some (.string text) := by
  intro h
  obtain ⟨value, hvalue, hdedupe⟩ := Option.map_eq_some_iff.mp h
  rw [eq_string_of_dedupe hdedupe] at hvalue
  simp only [parseRaw?, Option.bind_eq_bind, Option.bind_eq_some_iff] at hvalue
  obtain ⟨tokens, htokens, state, hstate, hphase⟩ := hvalue
  split at hphase
  · next final hfinished =>
    obtain rfl := Option.some.inj hphase
    have hmem := (mem_of_foldlM_parseStep hstate hfinished).resolve_left nofun
    have hlength := length_of_mem_lex? htokens hmem
    omega
  · cases hphase

/-! ### Decimal text -/

theorem lexBetween_digit (tokens : List Token) (h : c.isDigit = true) :
    lexBetween tokens c = some ⟨tokens, .number [c]⟩ := by
  have hblank : isBlank c = false := by
    by_contra hblank
    simp only [isBlank, Bool.not_eq_false, Bool.or_eq_true, decide_eq_true_eq] at hblank
    rcases hblank with ((rfl | rfl) | rfl) | rfl <;> exact absurd h (by decide)
  unfold lexBetween
  rw [if_neg (by simp [hblank])]
  split
  case h_8 => rw [if_pos (by simp [h])]
  all_goals exact absurd h (by decide)

theorem foldlM_lexStep_digits (tokens : List Token) (text : List Char) {digits : List Char}
    (h : ∀ c ∈ digits, c.isDigit = true) :
    digits.foldlM lexStep ⟨tokens, .number text⟩ =
      some ⟨tokens, .number (digits.reverse ++ text)⟩ := by
  induction digits generalizing text with
  | nil => rfl
  | cons c rest ih =>
      rw [List.forall_mem_cons] at h
      have hstep : lexStep ⟨tokens, .number text⟩ c = some ⟨tokens, .number (c :: text)⟩ := by
        simp [lexStep, isNumeralChar, h.1]
      rw [List.foldlM_cons, hstep, Option.bind_eq_bind, Option.bind_some, ih (c :: text) h.2,
        List.reverse_cons, List.append_assoc]
      rfl

theorem head?_toDigits_ne {n : Nat} (h : 0 < n) : (Nat.toDigits 10 n).head? ≠ some '0' := by
  induction n using Nat.strongRecOn with
  | ind n ih =>
      rw [Nat.toDigits_eq_if (by decide)]
      split
      · next hsmall =>
        have hdigit : ∀ d < 10, 0 < d → Nat.digitChar d ≠ '0' := by decide
        simpa using hdigit n hsmall h
      · next hlarge =>
        rw [List.head?_append_of_ne_nil _ Nat.toDigits_ne_nil]
        exact ih (n / 10) (by omega) (by omega)

theorem ofChars?_digits {digits : List Char} (h : ∀ c ∈ digits, c.isDigit = true)
    (hne : digits ≠ []) (hhead : digits.head? ≠ some '0') :
    Numeral.ofChars? digits = some ⟨false, digits, none, none⟩ := by
  have hsign : ∀ rest, digits ≠ '-' :: rest := by
    rintro rest rfl
    exact absurd (h '-' (List.mem_cons_self ..)) (by decide)
  have htake : digits.takeWhile Char.isDigit = digits := List.takeWhile_eq_self_iff.mpr h
  have hdrop : digits.dropWhile Char.isDigit = [] := List.dropWhile_eq_nil_iff.mpr h
  unfold Numeral.ofChars?
  split
  next negative cs heq =>
    split at heq
    · exact absurd rfl (hsign _)
    · obtain ⟨rfl, rfl⟩ := Prod.mk.inj heq
      simp [htake, hdrop, hne, hhead, Numeral.ofParts?]

theorem number?_digits {digits : List Char} {n : UInt64} (above : 0x8000000000000000 ≤ n.toNat)
    (h : digitsValue digits = n.toNat) :
    Numeral.number? ⟨false, digits, none, none⟩ = some (.big n above) := by
  have hsmall : ¬n.toNat < 0x8000000000000000 := Nat.not_lt.mpr above
  have hfits : n.toNat < 0x10000000000000000 := n.toNat_lt
  simp only [Numeral.number?, h, Number.ofNat?, if_neg hsmall, UInt64.ofNat_toNat]
  simp [hfits, above]

/-- The decimal text of an integer above the signed range is read as the integer. -/
theorem parse?_decimal (n : UInt64) (above : 0x8000000000000000 ≤ n.toNat) :
    parse? (toString n.toNat) = some (.number (.big n above)) := by
  have hdigits : ∀ c ∈ Nat.toDigits 10 n.toNat, c.isDigit = true := fun c hc =>
    Nat.isDigit_of_mem_toDigits (by decide) (by decide) hc
  have hvalue : digitsValue (Nat.toDigits 10 n.toNat) = n.toNat :=
    Nat.ofDigitChars_eq_foldl.symm.trans Nat.ofDigitChars_ten_toDigits
  have hnumber : (Numeral.ofChars? (Nat.toDigits 10 n.toNat)).bind Numeral.number? =
      some (.big n above) := by
    rw [ofChars?_digits hdigits Nat.toDigits_ne_nil (head?_toDigits_ne (by omega))]
    exact number?_digits above hvalue
  have hlex : lex? (Nat.toDigits 10 n.toNat) = some [.scalar (.number (.big n above))] := by
    cases hchars : Nat.toDigits 10 n.toNat with
    | nil => exact absurd hchars Nat.toDigits_ne_nil
    | cons c rest =>
        rw [hchars, List.forall_mem_cons] at hdigits
        have hfold : (c :: rest).foldlM lexStep ⟨[], .between⟩ =
            some ⟨[], .number (c :: rest).reverse⟩ := by
          rw [List.foldlM_cons, List.reverse_cons, ← foldlM_lexStep_digits [] [c] hdigits.2]
          exact congrArg (· >>= rest.foldlM lexStep) (lexBetween_digit [] hdigits.1)
        rw [lex?, hfold, Option.bind_eq_bind, Option.bind_some, finishScalar,
          List.reverse_reverse, ← hchars, hnumber]
        rfl
  rw [parse?, parseRaw?, Nat.toString_eq_ofList_toDigits, String.toList_ofList, hlex]
  rfl

end Json

end StageThree
