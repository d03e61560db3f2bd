import PageHarvest.Text.Parts

/-!
# Blank characters and words

Blank means the Unicode property `White_Space`, for trimming as well as for cutting a text into
words.  `trim_eq_self` says that trimming leaves alone what neither begins nor ends with a blank,
and `words_eq_nil_iff` that a text has no word exactly when it is blank throughout.
-/

namespace PageHarvest.Text

/-- The characters with the Unicode property `White_Space`. -/
def isBlank (c : Char) : Bool :=
  let n := c.toNat
  (9 ≤ n && n ≤ 13) || n == 0x20 || n == 0x85 || n == 0xA0 || n == 0x1680 ||
    (0x2000 ≤ n && n ≤ 0x200A) || n == 0x2028 || n == 0x2029 || n == 0x202F || n == 0x205F ||
    n == 0x3000

/-- The text without the blanks at its front. -/
def trimLeft (s : List Char) : List Char :=
  s.dropWhile isBlank

/-- The text without the blanks at its end. -/
def trimRight (s : List Char) : List Char :=
  (s.reverse.dropWhile isBlank).reverse

/-- The text without the blanks at both ends. -/
def trim (s : List Char) : List Char :=
  trimRight (trimLeft s)

/-- The maximal runs of characters that are not blank, in order. -/
def words : List Char → List (List Char)
  | [] => []
  | c :: s =>
    if isBlank c then words s
    else if s.head?.all isBlank then [c] :: words s
    else attach c (words s)

/-- The words with one space between neighbours. -/
def unwords : List (List Char) → List Char
  | [] => []
  | [w] => w
  | w :: v :: ws => w ++ ' ' :: unwords (v :: ws)

/-- The text with every run of blanks replaced by one space and none at the ends. -/
def squeeze (s : List Char) : List Char :=
  unwords (words s)

/-- The number of bytes of the text in UTF-8. -/
def byteLength : List Char → Nat
  | [] => 0
  | c :: s => c.utf8Size + byteLength s

@[simp] theorem words_nil : words [] = [] := rfl

@[simp] theorem unwords_nil : unwords [] = [] := rfl

@[simp] theorem unwords_singleton (w : List Char) : unwords [w] = w := rfl

theorem length_dropWhile_le (p : Char → Bool) (s : List Char) :
    (s.dropWhile p).length ≤ s.length := by
  induction s with
  | nil => simp
  | cons c s ih =>
    rw [List.dropWhile_cons]
    split
    · exact Nat.le_succ_of_le ih
    · exact Nat.le_refl _

theorem trimLeft_eq_self {s : List Char} (h : ∀ c ∈ s.head?, isBlank c = false) :
    trimLeft s = s := by
  cases s with
  | nil => rfl
  | cons c s => simp [trimLeft, h c (by simp)]

theorem trimRight_eq_self {s : List Char} (h : ∀ c ∈ s.getLast?, isBlank c = false) :
    trimRight s = s := by
  have h' : s.reverse.dropWhile isBlank = s.reverse := by
    apply trimLeft_eq_self
    intro c hc
    exact h c (by simpa using hc)
  simp [trimRight, h']

theorem trim_eq_self {s : List Char} (hl : ∀ c ∈ s.head?, isBlank c = false)
    (hr : ∀ c ∈ s.getLast?, isBlank c = false) : trim s = s := by
  rw [trim, trimLeft_eq_self hl, trimRight_eq_self hr]

theorem words_cons_of_isBlank {c : Char} (h : isBlank c = true) (s : List Char) :
    words (c :: s) = words s := by
  simp [words, h]

theorem words_cons_ne_nil {c : Char} (h : isBlank c = false) (s : List Char) :
    words (c :: s) ≠ [] := by
  simp only [words, h, Bool.false_eq_true, ↓reduceIte]
  split
  · simp
  · cases words s <;> simp [attach]

theorem words_eq_nil_iff {s : List Char} : words s = [] ↔ ∀ c ∈ s, isBlank c = true := by
  induction s with
  | nil => simp
  | cons c s ih =>
    cases h : isBlank c with
    | true => simp [words_cons_of_isBlank h, ih, h]
    | false => simp [words_cons_ne_nil h, h]

end PageHarvest.Text
