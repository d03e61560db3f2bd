import PageHarvest.Page.Text
import PageHarvest.Proofs.Text.Words

/-!
# Which blocks stay

`dropRepeats` is a scan with two things in mind, the blocks of several words that it has met and the
word that it has kept last.  Which blocks it keeps can be told without it, from the blocks that stand
before each of them (`Stays`): a word that is dropped is the same as the one kept last, so that it makes
no difference whether the scan minds the words that it keeps or all of them (`Remembers`).
-/

namespace PageHarvest.Page

open Text

/-! ### The rule -/

/-- The block is one word. -/
def isSingle (block : List Char) : Bool := (words block).length == 1

/-- The last of the blocks that are one word, trimmed. -/
def lastSingle? (blocks : List (List Char)) : Option (List Char) :=
  (blocks.filter isSingle).getLast?.map trim

/-- Behind the blocks `before` a block is no repetition: it has several words, and none of them is the
same, or it is one word, and the nearest of them that is one word is not the same. -/
def Stays (collapseWords : Bool) (before : List (List Char)) (block : List Char) : Prop :=
  (2 ≤ (words block).length ∧ ∀ b ∈ before, trim b ≠ trim block) ∨
  ((words block).length = 1 ∧ (collapseWords = false ∨ lastSingle? before ≠ some (trim block)))

instance (collapseWords : Bool) (before : List (List Char)) (block : List Char) :
    Decidable (Stays collapseWords before block) :=
  inferInstanceAs (Decidable (_ ∨ _))

/-- The blocks that stay when they come after the blocks `before`. -/
def staying (collapseWords : Bool) (before bs : List (List Char)) : List (List Char) :=
  ((List.finRange bs.length).filter fun i : Fin bs.length =>
    Stays collapseWords (before ++ bs.take i) bs[i]).map fun i => trim bs[i]

variable {collapseWords : Bool} {before seen bs : List (List Char)} {b : List Char}
  {last : Option (List Char)}

theorem staying_cons (collapseWords : Bool) (before : List (List Char)) (b : List Char)
    (bs : List (List Char)) : staying collapseWords before (b :: bs)
      = if Stays collapseWords before b then trim b :: staying collapseWords (before ++ [b]) bs
        else staying collapseWords (before ++ [b]) bs := by
  -- The first place, and the others with the first block in front of them.
  have hplaces : List.finRange (b :: bs).length = 0 :: (List.finRange bs.length).map Fin.succ :=
    List.finRange_succ
  unfold staying
  rw [hplaces, List.filter_cons, List.filter_map]
  simp only [Function.comp_def, Fin.getElem_fin, Fin.val_succ, Fin.val_zero, List.take_zero,
    List.append_nil, List.take_succ_cons, List.getElem_cons_zero, List.getElem_cons_succ,
    List.append_assoc, List.cons_append, List.nil_append, decide_eq_true_eq]
  split
  · rw [List.map_cons, List.map_map]
    rfl
  · rw [List.map_map]
    rfl

/-! ### What the scan has in mind -/

theorem lastSingle?_concat (before : List (List Char)) (b : List Char) :
    lastSingle? (before ++ [b])
      = if isSingle b = true then some (trim b) else lastSingle? before := by
  rw [lastSingle?, List.filter_append, List.filter_cons, List.filter_nil]
  split
  · simp
  · rw [List.append_nil, lastSingle?]

/-- What a scan has in mind after the blocks `before`: those of several words, and the last word. -/
structure Remembers (before seen : List (List Char)) (last : Option (List Char)) : Prop where
  seen : ∀ b, 2 ≤ (words b).length → (trim b ∈ seen ↔ ∃ c ∈ before, trim c = trim b)
  last : last = lastSingle? before

theorem remembers_nil : Remembers [] [] none := ⟨by simp, rfl⟩

/-- A block of one word at most is the last word, if it is a word at all. -/
theorem Remembers.concat_short (h : Remembers before seen last) (hb : (words b).length ≤ 1) :
    Remembers (before ++ [b]) seen (if isSingle b = true then some (trim b) else last) where
  seen c hc := by
    have hne : trim b ≠ trim c := by
      intro hsame
      rw [words_of_trim hsame] at hb
      omega
    simp [h.seen c hc, or_and_right, exists_or, hne]
  last := by rw [lastSingle?_concat, h.last]

/-- A block of several words is one of those that have been met. -/
theorem Remembers.concat_long {seen' : List (List Char)} (h : Remembers before seen last)
    (hb : 2 ≤ (words b).length) (hseen : ∀ c, c ∈ seen' ↔ c = trim b ∨ c ∈ seen) :
    Remembers (before ++ [b]) seen' last where
  seen c hc := by
    simp [hseen, h.seen c hc, or_and_right, exists_or, or_comm, eq_comm]
  last := by
    have hnot : isSingle b ≠ true := by
      simp only [isSingle, beq_iff_eq, ne_eq]
      omega
    rw [lastSingle?_concat, if_neg hnot, h.last]

/-- With the right things in mind, the scan keeps the blocks that stay. -/
theorem dropRepeatsFrom_eq_staying (h : Remembers before seen last) :
    dropRepeatsFrom collapseWords seen last bs = staying collapseWords before bs := by
  induction bs generalizing before seen last with
  | nil => rfl
  | cons b bs ih =>
    rw [dropRepeatsFrom, staying_cons]
    -- A blank block, a single word, or several words, as the scan tells them apart.
    split
    · next hblank =>
      rw [words_trim] at hblank
      have hnot : ¬Stays collapseWords before b := by simp [Stays, hblank]
      have hnext := h.concat_short (b := b) (by simp [hblank])
      rw [if_neg (by simp [isSingle, hblank])] at hnext
      rw [if_neg hnot, ih hnext]
    · next w hone =>
      rw [words_trim] at hone
      have hstays : Stays collapseWords before b ↔
          ¬(collapseWords && last == some (trim b)) = true := by
        rw [Stays, ← h.last, hone]
        simp [← Bool.not_eq_true, imp_iff_not_or]
      have hnext := h.concat_short (b := b) (by simp [hone])
      rw [if_pos (by simp [isSingle, hone])] at hnext
      by_cases hecho : (collapseWords && last == some (trim b)) = true
      · -- The word is the one kept last, and so that one is the last word from here on, too.
        have hlast : last = some (trim b) := by
          rw [Bool.and_eq_true, beq_iff_eq] at hecho
          exact hecho.2
        rw [if_pos hecho, if_neg (mt hstays.1 (not_not_intro hecho)), ih (hlast ▸ hnext)]
      · rw [if_neg hecho, if_pos (hstays.2 hecho), ih hnext]
    · next v w ws hmany =>
      rw [words_trim] at hmany
      have htwo : 2 ≤ (words b).length := by simp [hmany]
      have hstays : Stays collapseWords before b ↔ ¬seen.contains (trim b) = true := by
        rw [List.contains_iff_mem, h.seen b htwo, Stays]
        simp [hmany]
      by_cases hmet : seen.contains (trim b) = true
      -- It has been met before, so that nothing is added to what the scan has in mind.
      · have hsame : ∀ c, c ∈ seen ↔ c = trim b ∨ c ∈ seen := by
          rw [List.contains_iff_mem] at hmet
          intro c
          constructor
          · exact .inr
          · rintro (rfl | hc)
            · exact hmet
            · exact hc
        rw [if_pos hmet, if_neg (mt hstays.1 (not_not_intro hmet)), ih (h.concat_long htwo hsame)]
      · rw [if_neg hmet, if_pos (hstays.2 hmet), ih (h.concat_long htwo fun _ => List.mem_cons)]

/-- Of what a scan has kept, a scan with the same things in mind keeps all. -/
theorem dropRepeatsFrom_dropRepeatsFrom (collapseWords : Bool) (seen : List (List Char))
    (last : Option (List Char)) (bs : List (List Char)) :
    dropRepeatsFrom collapseWords seen last (dropRepeatsFrom collapseWords seen last bs)
      = dropRepeatsFrom collapseWords seen last bs := by
  induction bs generalizing seen last with
  | nil => rfl
  | cons b bs ih =>
    rw [dropRepeatsFrom]
    split
    · exact ih seen last
    · next w hone =>
      split
      · exact ih seen last
      -- A kept block is trimmed already, and the second scan meets it with the same things in mind.
      · next hnew =>
        rw [dropRepeatsFrom, trim_trim]
        simp only [hone, if_neg hnew, ih]
    · next v w ws hmany =>
      split
      · exact ih seen last
      · next hnew =>
        rw [dropRepeatsFrom, trim_trim]
        simp only [hmany, if_neg hnew, ih]

/-- **Which blocks stay is told by what stands before them.**  The blocks that are kept are, in their
order and trimmed, those that are no repetition of the blocks before them; and among the kept blocks
there is no repetition left. -/
theorem dropRepeats_by_place (settings : Settings) (bs : List (List Char)) :
    dropRepeats settings.collapseWords bs
      = ((List.finRange bs.length).filter fun i : Fin bs.length =>
          Stays settings.collapseWords (bs.take i) bs[i]).map (fun i => trim bs[i]) ∧
    dropRepeats settings.collapseWords (dropRepeats settings.collapseWords bs)
      = dropRepeats settings.collapseWords bs := by
  constructor
  · exact dropRepeatsFrom_eq_staying remembers_nil
  · exact dropRepeatsFrom_dropRepeatsFrom settings.collapseWords [] none bs

/-- The third `A` comes right after the second one, although a phrase and a blank stand in between. -/
example : dropRepeats true (["A", "B", "A", "x y", " ", "A ", " x y"].map String.toList)
    = ["A", "B", "A", "x y"].map String.toList := by decide +kernel

end PageHarvest.Page
