import Mathlib
import CrawlGraph.Proofs.Text.Cut
import CrawlGraph.Text.Ascii

/-!
# Letters of ASCII

The codes of the letters (`toNat_of_isAlpha`), and what is left of a text when its letters are made
small: letters stay letters and no letter becomes a character that is none (`eq_of_toLower_eq`).
-/

namespace CrawlGraph.Text

variable {c : Char} {cs : List Char}

theorem toNat_of_isAlpha (h : c.isAlpha = true) :
    (65 ≤ c.toNat ∧ c.toNat ≤ 90) ∨ (97 ≤ c.toNat ∧ c.toNat ≤ 122) := by
  simpa [Char.isAlpha, Char.isUpper, Char.isLower, UInt32.le_iff_toNat_le] using h

theorem isBlank_of_isAlpha (h : c.isAlpha = true) : isBlank c = false := by
  have hrange := toNat_of_isAlpha h
  unfold isBlank
  simp only [Bool.or_eq_false_iff, Bool.and_eq_false_iff, decide_eq_false_iff_not,
    beq_eq_false_iff_ne]
  omega

/-- No letter is a character of which it is known that it is none. -/
theorem ne_of_isAlpha {d : Char} (h : c.isAlpha = true) (hd : d.isAlpha = false) : c ≠ d := by
  rintro rfl
  rw [h] at hd
  cases hd

theorem isDigit_of_isAlpha (h : c.isAlpha = true) : c.isDigit = false := by
  rw [Bool.eq_false_iff]
  intro hdigit
  obtain ⟨-, hhigh⟩ : 48 ≤ c.toNat ∧ c.toNat ≤ 57 := by
    simpa [Char.isDigit, UInt32.le_iff_toNat_le] using hdigit
  have hrange := toNat_of_isAlpha h
  omega

theorem isBlank_toLower (c : Char) : isBlank c.toLower = isBlank c := by
  by_cases hupper : c.isUpper
  · have halpha : c.isAlpha = true := by rw [Char.isAlpha, hupper, Bool.true_or]
    have hlower : c.toLower.isAlpha = true := by rw [Char.isAlpha_toLower_eq_isAlpha, halpha]
    rw [isBlank_of_isAlpha halpha, isBlank_of_isAlpha hlower]
  · rw [Char.toLower_eq_of_not_isUpper hupper]

/-- No letter becomes a character that is none. -/
theorem eq_of_toLower_eq {d : Char} (hd : d.isAlpha = false) (h : c.toLower = d) : c = d := by
  have halpha : c.isAlpha = false := by rw [← Char.isAlpha_toLower_eq_isAlpha, h, hd]
  rw [← h, Char.toLower_eq_of_not_isUpper]
  intro hupper
  rw [Char.isAlpha, hupper, Bool.true_or] at halpha
  cases halpha

theorem IsTrimmed.lower (h : IsTrimmed cs) : IsTrimmed (lower cs) where
  head c hc := by
    rw [Text.lower, List.head?_map] at hc
    obtain ⟨d, hd, rfl⟩ := Option.map_eq_some_iff.1 hc
    rw [isBlank_toLower, h.head d hd]
  last c hc := by
    rw [Text.lower, List.getLast?_map] at hc
    obtain ⟨d, hd, rfl⟩ := Option.map_eq_some_iff.1 hc
    rw [isBlank_toLower, h.last d hd]

end CrawlGraph.Text
