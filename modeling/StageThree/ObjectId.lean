/-!
An object identifier is twelve bytes and is written as 24 hexadecimal digits. It is held as those
digits, so that its text is a spelling of what it is: `ObjectId.ofHex?` reads exactly the texts
of 24 ASCII hexadecimal digits, in either case, and `ObjectId.toHex` writes them in lower case.
-/

namespace StageThree

/-- A row of 24 hexadecimal digits. -/
structure ObjectId where
  digits : List (Fin 16)
  size : digits.length = 24
  deriving DecidableEq

namespace ObjectId

def digit? (c : Char) : Option (Fin 16) :=
  match c with
  | '0' => some 0 | '1' => some 1 | '2' => some 2 | '3' => some 3
  | '4' => some 4 | '5' => some 5 | '6' => some 6 | '7' => some 7
  | '8' => some 8 | '9' => some 9
  | 'a' | 'A' => some 10 | 'b' | 'B' => some 11 | 'c' | 'C' => some 12
  | 'd' | 'D' => some 13 | 'e' | 'E' => some 14 | 'f' | 'F' => some 15
  | _ => none

def digitChar (d : Fin 16) : Char := Nat.digitChar d

/-- Whether a text has the shape of an identifier: 24 hexadecimal digits and nothing else. -/
def hasShape (text : String) : Bool :=
  text.toList.length = 24 && text.toList.all fun c => (digit? c).isSome

def ofHex? (text : String) : Option ObjectId :=
  match text.toList.mapM digit? with
  | some digits => if h : digits.length = 24 then some ⟨digits, h⟩ else none
  | none => none

def toHex (id : ObjectId) : String := String.ofList (id.digits.map digitChar)

def ofNat (n : Nat) : ObjectId :=
  ⟨(List.range 24).map fun i => Fin.ofNat 16 (n / Nat.pow 16 (23 - i)), by simp⟩

/-- The number that the digits write; byte order is the order of these numbers. -/
def toNat (id : ObjectId) : Nat := id.digits.foldl (fun n d => 16 * n + d.val) 0

instance : Inhabited ObjectId := ⟨ofNat 0⟩

instance : Ord ObjectId := ⟨fun a b => compare a.toNat b.toNat⟩

/-! ### Digits and their text -/

theorem digit?_digitChar (d : Fin 16) : digit? (digitChar d) = some d := by
  revert d; decide

theorem mapM_digit?_map_digitChar (digits : List (Fin 16)) :
    (digits.map digitChar).mapM digit? = some digits := by
  induction digits with
  | nil => rfl
  | cons d rest ih => simp [List.mapM_cons, digit?_digitChar, ih]

theorem ofHex?_toHex (id : ObjectId) : ofHex? id.toHex = some id := by
  unfold ofHex? toHex
  rw [String.toList_ofList, mapM_digit?_map_digitChar]
  exact dif_pos id.size

theorem mapM_digit?_isSome (cs : List Char) :
    (cs.mapM digit?).isSome = cs.all fun c => (digit? c).isSome := by
  induction cs with
  | nil => rfl
  | cons c rest ih =>
    rw [List.mapM_cons, List.all_cons, ← ih]
    cases digit? c <;> cases rest.mapM digit? <;> rfl

theorem length_of_mapM_digit? {cs : List Char} {digits : List (Fin 16)}
    (h : cs.mapM digit? = some digits) : digits.length = cs.length := by
  induction cs generalizing digits with
  | nil => simp at h; subst h; rfl
  | cons c rest ih =>
    rw [List.mapM_cons] at h
    cases hc : digit? c with
    | none => simp [hc] at h
    | some d =>
      cases hr : rest.mapM digit? with
      | none => simp [hc, hr] at h
      | some ds =>
        simp [hc, hr] at h
        subst h
        simp [ih hr]

/-- A text is read exactly when it has the shape. -/
theorem ofHex?_isSome (text : String) : (ofHex? text).isSome = hasShape text := by
  unfold ofHex? hasShape
  rw [← mapM_digit?_isSome]
  cases h : text.toList.mapM digit? with
  | none => simp
  | some digits =>
    have := length_of_mapM_digit? h
    by_cases hl : digits.length = 24 <;> simp [hl, ← this]

end ObjectId

end StageThree
