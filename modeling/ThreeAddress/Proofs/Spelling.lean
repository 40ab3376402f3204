import Mathlib
import ThreeAddress.Text.Blank

set_option autoImplicit false

namespace ThreeAddress.Text

theorem isBlank_of_isAlpha {c : Char} (letter : c.isAlpha = true) : isBlank c = false := by
  simp only [Char.isAlpha, Char.isUpper, Char.isLower, Bool.or_eq_true, Bool.and_eq_true,
    decide_eq_true_eq, ge_iff_le, UInt32.le_iff_toNat_le, Char.toNat_val] at letter
  change (65 ≤ c.toNat ∧ c.toNat ≤ 90) ∨ (97 ≤ c.toNat ∧ c.toNat ≤ 122) at letter
  simp only [isBlank, Bool.or_eq_false_iff, Bool.and_eq_false_iff, decide_eq_false_iff_not,
    beq_eq_false_iff_ne]
  omega

theorem isBlank_toLower (c : Char) : isBlank c.toLower = isBlank c := by
  by_cases letter : c.isAlpha = true
  · rw [isBlank_of_isAlpha letter, isBlank_of_isAlpha (c.isAlpha_toLower_eq_isAlpha.trans letter)]
  · rw [Char.toLower_eq_of_not_isUpper fun upper => letter (by simp [Char.isAlpha, upper])]

theorem toLower_eq_at {c : Char} (lower : c.toLower = '@') : c = '@' := by
  have letter : c.isAlpha = false := by
    rw [← c.isAlpha_toLower_eq_isAlpha, lower]
    rfl
  rw [← lower, Char.toLower_eq_of_not_isUpper fun upper => by simp [Char.isAlpha, upper] at letter]

theorem asciiUpper_eq_of_lower {text other : String} (same : asciiLower text = asciiLower other) :
    asciiUpper text = asciiUpper other := by
  have upper : ∀ cs : List Char, cs.map Char.toUpper = (cs.map Char.toLower).map Char.toUpper := by
    intro cs
    rw [List.map_map]
    exact List.map_congr_left fun c _ => c.toUpper_toLower_eq_toUpper.symm
  rw [asciiUpper, asciiUpper, upper, String.ofList_injective same, ← upper]

theorem asciiLower_asciiUpper (text : String) : asciiLower (asciiUpper text) = asciiLower text := by
  rw [asciiLower, asciiUpper, String.toList_ofList, List.map_map, asciiLower]
  congr 1
  exact List.map_congr_left fun c _ => c.toLower_toUpper_eq_toLower

/-- No `@` comes or goes with the case of a text. -/
theorem at_mem_of_lower {text other : String} (same : asciiLower text = asciiLower other)
    (member : '@' ∈ text.toList) : '@' ∈ other.toList := by
  have lowered : '@' ∈ text.toList.map Char.toLower := List.mem_map_of_mem member
  rw [String.ofList_injective same] at lowered
  obtain ⟨c, member, lower⟩ := List.mem_map.mp lowered
  rwa [toLower_eq_at lower] at member

/-- A text with blanks added on both sides. -/
def Padded (text padded : String) : Prop :=
  ∃ front back : String, front.toList.all isBlank = true ∧ back.toList.all isBlank = true ∧
    padded = front ++ text ++ back

theorem trimBlank_append {front cs back : List Char} (blankFront : ∀ c ∈ front, isBlank c = true)
    (blankBack : ∀ c ∈ back, isBlank c = true) :
    trimBlank (front ++ cs ++ back) = trimBlank cs := by
  have blankReverse : ∀ c ∈ back.reverse, isBlank c = true := by
    intro c member
    exact blankBack c (List.mem_reverse.mp member)
  rw [trimBlank, trimBlank, List.append_assoc, List.dropWhile_append_of_pos blankFront,
    List.dropWhile_append]
  split
  · rename_i empty
    rw [List.isEmpty_iff.mp empty, List.dropWhile_eq_nil_iff.mpr blankBack]
  · rw [List.reverse_append, List.dropWhile_append_of_pos blankReverse]

theorem Padded.trim_eq {text padded : String} (blanks : Padded text padded) :
    trim padded = trim text := by
  obtain ⟨front, back, blankFront, blankBack, rfl⟩ := blanks
  rw [trim, String.toList_append, String.toList_append,
    trimBlank_append (List.all_eq_true.mp blankFront) (List.all_eq_true.mp blankBack), trim]

/-- Trimming stops at a character that is not blank. -/
theorem trimBlank_stop {c : Char} (visible : isBlank c = false) (front back : List Char) :
    trimBlank (front ++ c :: back) =
      front.dropWhile isBlank ++ c :: (back.reverse.dropWhile isBlank).reverse := by
  have stop : ∀ before behind : List Char, (before ++ c :: behind).dropWhile isBlank =
      before.dropWhile isBlank ++ c :: behind := by
    intro before behind
    rw [List.dropWhile_append]
    split
    · rename_i empty
      rw [List.isEmpty_iff.mp empty, List.dropWhile_cons_of_neg (by simp [visible])]
      rfl
    · rfl
  rw [trimBlank, stop, List.reverse_append, List.reverse_cons, List.append_assoc,
    List.singleton_append, stop]
  simp

theorem map_dropWhile_isBlank (cs : List Char) :
    (cs.dropWhile isBlank).map Char.toLower = (cs.map Char.toLower).dropWhile isBlank := by
  have blank : isBlank ∘ Char.toLower = isBlank := funext isBlank_toLower
  rw [List.dropWhile_map, blank]

theorem asciiLower_trim (text : String) : asciiLower (trim text) = trim (asciiLower text) := by
  simp only [trim, asciiLower, trimBlank, String.toList_ofList, List.map_reverse,
    map_dropWhile_isBlank]

theorem span_at {front : List Char} (free : '@' ∉ front) (back : List Char) :
    (front ++ '@' :: back).span (· != '@') = (front, '@' :: back) := by
  have before : ∀ c ∈ front, (c != '@') = true := by
    intro c member
    rw [bne_iff_ne]
    rintro rfl
    exact free member
  rw [List.span_eq_takeWhile_dropWhile, List.takeWhile_append_of_pos before,
    List.dropWhile_append_of_pos before]
  simp

end ThreeAddress.Text
