/-!
# Failures

A `Failure` says what was being done, and then the causes, each that of the one before.
-/

namespace PageHarvest

/-- Why something failed. -/
structure Failure where
  what : String
  causes : List String := []
  deriving DecidableEq, Repr, Inhabited

namespace Failure

/-- What failed and all its causes, in one line. -/
def text (f : Failure) : String := ": ".intercalate (f.what :: f.causes)

/-- The failure of something of which this one is the cause. -/
def during (f : Failure) (what : String) : Failure := ⟨what, f.what :: f.causes⟩

/-- The causes, each with its number. -/
def numbered : Nat → List String → List String
  | _, [] => []
  | n, cause :: causes =>
    let digits := Nat.toDigits 10 n
    (String.ofList (List.replicate (5 - digits.length) ' ' ++ digits) ++ ": " ++ cause) ::
      numbered (n + 1) causes

/-- What failed and all its causes, on lines of their own. -/
def report (f : Failure) : List String :=
  ("Error: " ++ f.what) ::
    match f.causes with
    | [] => []
    | [cause] => ["", "Caused by:", "    " ++ cause]
    | causes => "" :: "Caused by:" :: numbered 0 causes

end Failure

end PageHarvest
