/-!
# Numbers of so many bits

`beyondBits n` is where the numbers of `n` binary digits end: those below it fit in a word of `n`
bits.
-/

namespace PageHarvest.Number

/-- The least number that has more than so many binary digits. -/
def beyondBits (bits : Nat) : Nat := Nat.pow 2 bits

/-- The number of 32 bits, with a sign, that is reached by counting on from the least one after the
greatest. -/
def wrap32 (n : Int) : Int := Int.bmod n (beyondBits 32)

end PageHarvest.Number
