import PageHarvest.Blob.Call
import PageHarvest.Proofs.Text.Percent
import PageHarvest.Proofs.Text.Utf8
import Mathlib.Data.List.Basic

/-!
# Which keys mean the same object

A key is cut into its parts, and the parts stand in the path escaped.  Cutting is what `splitOn` does
(`segments_toList`), escaping tells parts apart (`escape_injective`), and no escaped part holds a slash
(`slash_not_mem_escape`).  So keys have the same path exactly if they have the same parts
(`ofKey?_eq_ofKey?_iff`), and the path can be told from its text (`map_toText_ofKey?_eq_iff`).
-/

namespace PageHarvest.Blob

open Text

variable {c : Char} {key : String}

/-! ### Parts -/

/-- A character that is no slash belongs to the first of the parts. -/
theorem exists_splitOn_cons (h : c ≠ '/') (s : List Char) :
    ∃ w ws, s.splitOn '/' = w :: ws ∧ (c :: s).splitOn '/' = (c :: w) :: ws := by
  have hcut : (c :: s).splitOn '/' = (s.splitOn '/').modifyHead (c :: ·) := by
    rw [List.splitOn_cons_eq_if_modifyHead, if_neg (by simpa using h)]
  obtain ⟨w, ws, hw⟩ := List.exists_cons_of_ne_nil (List.splitOn_ne_nil '/' s)
  refine ⟨w, ws, hw, ?_⟩
  rw [hcut, hw, List.modifyHead_cons]

/-- A slash at the front ends an empty part. -/
theorem splitOn_slash_cons (s : List Char) : ('/' :: s).splitOn '/' = [] :: s.splitOn '/' := by
  rw [List.splitOn_cons_eq_if_modifyHead, if_pos (by simp)]

/-- The segments are what stands between slashes, without the empty ones. -/
theorem segments_eq_filter_splitOn (s : List Char) :
    segments s = (s.splitOn '/').filter (· ≠ []) := by
  induction s with
  | nil => rfl
  | cons c s ih =>
    unfold segments
    by_cases hc : c = '/'
    · subst hc
      rw [if_pos rfl, ih, splitOn_slash_cons, List.filter_cons_of_neg (by simp)]
    · obtain ⟨w, ws, hw, hcw⟩ := exists_splitOn_cons hc s
      rw [if_neg hc, hcw, List.filter_cons_of_pos (by simp)]
      -- Whether the first part goes on after `c` shows in the character that follows.
      cases s with
      | nil =>
        obtain ⟨rfl, rfl⟩ := List.cons.inj hw
        rfl
      | cons d s =>
        by_cases hd : d = '/'
        · subst hd
          rw [splitOn_slash_cons] at hw
          obtain ⟨rfl, rfl⟩ := List.cons.inj hw
          rw [splitOn_slash_cons, List.filter_cons_of_neg (by simp)] at ih
          simp only [if_true, ih]
        · obtain ⟨v, vs, -, hdv⟩ := exists_splitOn_cons hd s
          rw [hdv] at hw ih
          obtain ⟨rfl, rfl⟩ := List.cons.inj hw
          rw [List.filter_cons_of_pos (by simp)] at ih
          simp only [if_neg hd, ih]

/-- The segments of a key are its parts. -/
theorem segments_toList (key : String) : segments key.toList = parts key :=
  segments_eq_filter_splitOn key.toList

/-! ### Escaped parts -/

theorem isPlain_percent : isPlain '%' = false := by decide

/-- An escaped part stands for the bytes of the part, whichever way it is escaped. -/
theorem unescape_escape (s : List Char) : Percent.unescape (escape s) = Utf8.encode s := by
  unfold escape
  by_cases h : s = ['.'] ∨ s = ['.', '.']
  · rw [if_pos h]
    -- One dot and two dots are escaped though a dot in other parts is not.
    rcases h with rfl | rfl
    · decide +kernel
    · decide +kernel
  · rw [if_neg h, Percent.unescape_escape isPlain_percent]

/-- **Escaping tells parts apart.** -/
theorem escape_injective : Function.Injective escape := by
  intro s t h
  apply Utf8.encode_injective
  rw [← unescape_escape s, h, unescape_escape t]

theorem slash_not_mem_escapeByte (b : UInt8) : '/' ∉ Percent.escapeByte b := by
  have hdigit : ∀ n : Fin 16, '/' ≠ Hex.upperDigit n := by decide
  simp [Percent.escapeByte, hdigit]

/-- No escaped part holds a slash, so that the parts can be told apart in a path. -/
theorem slash_not_mem_escape (s : List Char) : '/' ∉ escape s := by
  unfold escape
  split
  · simp
  · intro h
    obtain ⟨c, -, hc⟩ := List.mem_flatMap.1 h
    unfold Percent.escapeChar at hc
    by_cases hplain : isPlain c = true
    · rw [if_pos hplain, List.mem_singleton] at hc
      subst hc
      exact absurd hplain (by decide)
    · rw [if_neg hplain, List.mem_flatMap] at hc
      obtain ⟨b, -, hb⟩ := hc
      exact slash_not_mem_escapeByte b hb

/-! ### Paths -/

theorem ofKey?_of_parts_eq_nil (h : parts key = []) : Path.ofKey? key.toList = none := by
  rw [Path.ofKey?, segments_toList, h]

theorem ofKey?_of_parts_ne_nil (h : parts key ≠ []) :
    Path.ofKey? key.toList = some ⟨(parts key).map escape⟩ := by
  rw [Path.ofKey?, segments_toList]
  cases hparts : parts key with
  | nil => exact absurd hparts h
  | cons p ps => rfl

theorem map_escape_inj {ps qs : List (List Char)} : ps.map escape = qs.map escape ↔ ps = qs :=
  (List.map_injective_iff.2 escape_injective).eq_iff

/-- The segments of a path are found again in its text. -/
theorem splitOn_toText {ps : List (List Char)} (h : ps ≠ []) :
    (Path.toText ⟨ps.map escape⟩).splitOn '/' = ps.map escape := by
  apply List.splitOn_intercalate
  · intro w hw
    obtain ⟨p, -, rfl⟩ := List.mem_map.1 hw
    exact slash_not_mem_escape p
  · simpa using h

/-- **Keys have paths with the same text exactly if they have the same parts.** -/
theorem map_toText_ofKey?_eq_iff (key key' : String) :
    (Path.ofKey? key.toList).map Path.toText = (Path.ofKey? key'.toList).map Path.toText ↔
      parts key = parts key' := by
  by_cases h : parts key = []
  · by_cases h' : parts key' = []
    · rw [ofKey?_of_parts_eq_nil h, ofKey?_of_parts_eq_nil h', h, h']
      simp
    · rw [ofKey?_of_parts_eq_nil h, ofKey?_of_parts_ne_nil h', h]
      simp [Ne.symm h']
  · by_cases h' : parts key' = []
    · rw [ofKey?_of_parts_ne_nil h, ofKey?_of_parts_eq_nil h', h']
      simp [h]
    · rw [ofKey?_of_parts_ne_nil h, ofKey?_of_parts_ne_nil h', Option.map_some, Option.map_some,
        Option.some_inj]
      -- Both keys have parts, and the text of a path has them all.
      constructor
      · intro htext
        rw [← map_escape_inj, ← splitOn_toText h, htext, splitOn_toText h']
      · intro hparts
        rw [hparts]

end PageHarvest.Blob
