namespace PuzzlePrep.Number

/-- The number of words of 64 bits; signed ones end at `signedBound`. -/
def wordCount : Nat := 18446744073709551616

def signedBound : Nat := 9223372036854775808

def isSigned (i : Int) : Bool := -(signedBound : Int) ≤ i && i < signedBound

def isUnsigned (i : Int) : Bool := 0 ≤ i && i < wordCount

end PuzzlePrep.Number
