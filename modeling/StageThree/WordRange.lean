/-!
The ranges of signed words.
-/

namespace StageThree

/-- Whether an integer fits a signed word of 32 bits. -/
def Fits32 (n : Int) : Prop := -0x80000000 ≤ n ∧ n < 0x80000000

/-- Whether an integer fits a signed word of 64 bits. -/
def Fits64 (n : Int) : Prop := -0x8000000000000000 ≤ n ∧ n < 0x8000000000000000

instance : DecidablePred Fits32 := fun _ => inferInstanceAs (Decidable (_ ∧ _))

instance : DecidablePred Fits64 := fun _ => inferInstanceAs (Decidable (_ ∧ _))

end StageThree
