import PageHarvest.Json.Grammar

/-!
# JSON with gaps

Bytes that spell no character leave gaps among the symbols that are read.  A gap may stand in a string,
where it is a gap of the string, and nowhere else.  For symbols without gaps this is the grammar of
texts.
-/

namespace PageHarvest.Json

open Text

/-- The string is given by these symbols between its quotes: by texts with gaps between them. -/
inductive IsGivenString : List Symbol → List Symbol → Prop
  | text {ss : List Symbol} {t : List Char} (spelled : IsSpelled ss t) :
    IsGivenString ss (Symbol.ofText t)
  | gap {ss ss' s : List Symbol} {t : List Char} (spelled : IsSpelled ss t)
    (rest : IsGivenString ss' s) : IsGivenString (ss ++ none :: ss') (Symbol.ofText t ++ none :: s)

/-- The part is given by these symbols. -/
inductive Part.IsGiven : Part → List Symbol → Prop
  | null : IsGiven (value .null) (Symbol.ofText ['n', 'u', 'l', 'l'])
  | yes : IsGiven (value (.bool true)) (Symbol.ofText ['t', 'r', 'u', 'e'])
  | no : IsGiven (value (.bool false)) (Symbol.ofText ['f', 'a', 'l', 's', 'e'])
  | number {ds : List Char} (number : IsNumber ds) : IsGiven (value (.number ds)) (Symbol.ofText ds)
  | string {ss s : List Symbol} (given : IsGivenString ss s) :
    IsGiven (value (.string ss)) (some '"' :: (s ++ [some '"']))
  | emptyArray {b : List Char} (blanks : IsBlanks b) :
    IsGiven (value (.array [])) (some '[' :: (Symbol.ofText b ++ [some ']']))
  | array {vs : List Value} {s : List Symbol} (items : IsGiven (items vs) s) :
    IsGiven (value (.array vs)) (some '[' :: s)
  | emptyObject {b : List Char} (blanks : IsBlanks b) :
    IsGiven (value (.object [])) (some '\x7b' :: (Symbol.ofText b ++ [some '\x7d']))
  | object {ms : List (List Symbol × Value)} {s : List Symbol} (members : IsGiven (members ms) s) :
    IsGiven (value (.object ms)) (some '\x7b' :: s)
  | lastItem {v : Value} {s : List Symbol} {b b' : List Char} (before : IsBlanks b)
    (after : IsBlanks b') (item : IsGiven (value v) s) :
    IsGiven (items [v]) (Symbol.ofText b ++ (s ++ (Symbol.ofText b' ++ [some ']'])))
  | item {v : Value} {vs : List Value} {s u : List Symbol} {b b' : List Char} (before : IsBlanks b)
    (after : IsBlanks b') (item : IsGiven (value v) s) (rest : IsGiven (items vs) u) :
    IsGiven (items (v :: vs)) (Symbol.ofText b ++ (s ++ (Symbol.ofText b' ++ some ',' :: u)))
  | lastMember {k : List Symbol} {v : Value} {s u : List Symbol} {b₁ b₂ b₃ b₄ : List Char}
    (before : IsBlanks b₁) (beforeColon : IsBlanks b₂) (afterColon : IsBlanks b₃)
    (after : IsBlanks b₄) (name : IsGivenString k s) (item : IsGiven (value v) u) :
    IsGiven (members [(k, v)])
      (Symbol.ofText b₁ ++ some '"' :: (s ++ some '"' :: (Symbol.ofText b₂ ++ some ':' ::
        (Symbol.ofText b₃ ++ (u ++ (Symbol.ofText b₄ ++ [some '\x7d']))))))
  | member {k : List Symbol} {v : Value} {ms : List (List Symbol × Value)} {s u w : List Symbol}
    {b₁ b₂ b₃ b₄ : List Char} (before : IsBlanks b₁) (beforeColon : IsBlanks b₂)
    (afterColon : IsBlanks b₃) (after : IsBlanks b₄) (name : IsGivenString k s)
    (item : IsGiven (value v) u) (rest : IsGiven (members ms) w) :
    IsGiven (members ((k, v) :: ms))
      (Symbol.ofText b₁ ++ some '"' :: (s ++ some '"' :: (Symbol.ofText b₂ ++ some ':' ::
        (Symbol.ofText b₃ ++ (u ++ (Symbol.ofText b₄ ++ some ',' :: w))))))

/-- The value is given by the symbols, with blanks before it and after it. -/
def Value.IsGivenBy (v : Value) (s : List Symbol) : Prop :=
  ∃ b t b', IsBlanks b ∧ (Part.value v).IsGiven t ∧ IsBlanks b' ∧
    s = Symbol.ofText b ++ (t ++ Symbol.ofText b')

end PageHarvest.Json
