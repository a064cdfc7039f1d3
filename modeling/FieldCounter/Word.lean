/-!
# Saturating words

Counters and time stamps are 32-bit words. A sum stops at the largest word and a difference stops
at zero, so each operation is the one on natural numbers, cut to the range of the word.
-/

namespace FieldCounter

/-- The largest 32-bit word. -/
def wordMax : Nat := 4294967295

/-- The word of `n`, or the largest word when `n` is out of range. -/
def wordOfNat (n : Nat) : UInt32 := UInt32.ofNat (min n wordMax)

/-- A number that does not fit into a word stands for the largest one. -/
@[simp] theorem toNat_wordOfNat (n : Nat) : (wordOfNat n).toNat = min n wordMax := by
  simp only [wordOfNat, UInt32.toNat_ofNat', wordMax]
  omega

/-- Every word is within the cap. -/
theorem toNat_le_wordMax (a : UInt32) : a.toNat ≤ wordMax := by
  have := a.toNat_lt
  simp only [wordMax]
  omega

/-- The sum of two words, stopping at the largest word. -/
def addSat (a b : UInt32) : UInt32 := wordOfNat (a.toNat + b.toNat)

/-- A saturating sum is the sum cut off at the largest word. -/
@[simp] theorem toNat_addSat (a b : UInt32) : (addSat a b).toNat = min (a.toNat + b.toNat) wordMax :=
  toNat_wordOfNat _

/-- The difference of two words, stopping at zero. -/
def subSat (a b : UInt32) : UInt32 := wordOfNat (a.toNat - b.toNat)

/-- A saturating difference is the difference of natural numbers, which ends at zero. -/
@[simp] theorem toNat_subSat (a b : UInt32) : (subSat a b).toNat = a.toNat - b.toNat := by
  have := toNat_le_wordMax a
  simp only [subSat, toNat_wordOfNat]
  omega

/-- Count one more, stopping at `255`. -/
def bumpByte (a : UInt8) : UInt8 := UInt8.ofNat (min (a.toNat + 1) 255)

/-- A byte that is counted up stays at the largest one. -/
@[simp] theorem toNat_bumpByte (a : UInt8) : (bumpByte a).toNat = min (a.toNat + 1) 255 := by
  simp only [bumpByte, UInt8.toNat_ofNat']
  omega

end FieldCounter
