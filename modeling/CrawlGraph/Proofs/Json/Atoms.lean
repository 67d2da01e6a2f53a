import Mathlib.Data.List.TakeWhile
import CrawlGraph.Proofs.Text.Number

/-!
# Numbers and strings of JSON read back

1. The text of an integer is read as it where no character of a number follows (`ofText?_text`,
   `numberPart_append`).
2. Each character of a string is read as one piece (`readPieces_escapeChar`), and the pieces stand
   for the string again (`readString_append`).
-/

namespace CrawlGraph.Json

/-! ## Numbers -/

/-- What does not go on with a number. -/
def EndsNumber (rest : Input) : Prop := ∀ c, rest.head? = some (some c) → isNumberChar c = false

theorem takeWhile_toDigits (n : ℕ) :
    (Nat.toDigits 10 n).takeWhile Char.isDigit = Nat.toDigits 10 n :=
  List.takeWhile_eq_self_iff.2 Text.isDigit_toDigits

theorem dropWhile_toDigits (n : ℕ) : (Nat.toDigits 10 n).dropWhile Char.isDigit = [] :=
  List.dropWhile_eq_nil_iff.2 Text.isDigit_toDigits

theorem no_leading_zero (n : ℕ) :
    ((Nat.toDigits 10 n).head? == some '0' && (Nat.toDigits 10 n).length != 1) = false := by
  rcases Nat.eq_zero_or_pos n with rfl | hn
  · rfl
  · rw [beq_eq_false_iff_ne.2 (Text.head?_toDigits hn), Bool.false_and]

theorem ofText?_text (n : ℤ) : Number.ofText? (Number.text (.int n)) = some (.int n) := by
  cases n with
  | ofNat n =>
    have htext : Number.text (.int (Int.ofNat n)) = Nat.toDigits 10 n :=
      Text.toList_toString_natCast n
    have hsign : (Nat.toDigits 10 n).head? ≠ some '-' := by
      intro h
      exact absurd (Text.isDigit_toDigits _ (List.mem_of_mem_head? h)) (by decide)
    rw [htext]
    unfold Number.ofText?
    split
    rename_i isNegative unsigned heq
    split at heq
    · simp_all
    · cases heq
      simp [takeWhile_toDigits, dropWhile_toDigits, no_leading_zero, isNumberEnd, isExponent,
        Text.digits?_toDigits]
  | negSucc n =>
    have htext : Number.text (.int (Int.negSucc n)) = '-' :: Nat.toDigits 10 (n + 1) :=
      Text.toList_toString_neg n
    have hzero : Nat.toDigits 10 (n + 1) ≠ ['0'] := by
      intro h
      apply Text.head?_toDigits (Nat.succ_pos n)
      rw [h]
      rfl
    rw [htext]
    unfold Number.ofText?
    simp [takeWhile_toDigits, dropWhile_toDigits, no_leading_zero, isNumberEnd, isExponent,
      Text.digits?_toDigits, hzero, Int.negSucc_eq]

theorem isNumberChar_text (n : ℤ) : ∀ c ∈ Number.text (.int n), isNumberChar c := by
  intro c hc
  rcases Text.isDigit_or_eq_of_mem c hc with hdigit | rfl
  · simp [isNumberChar, hdigit]
  · rfl

theorem numberPart_append {cs : List Char} (h : ∀ c ∈ cs, isNumberChar c) {rest : Input}
    (hrest : EndsNumber rest) : numberPart (cs.map some ++ rest) = cs := by
  have hpos : ∀ c ∈ cs.map some, ((c : Option Char).map isNumberChar).getD false := by
    intro c hc
    obtain ⟨d, hd, rfl⟩ := List.mem_map.1 hc
    exact h d hd
  have hnil : rest.takeWhile (fun c => (c.map isNumberChar).getD false) = [] := by
    cases rest with
    | nil => rfl
    | cons c rest =>
      cases c with
      | none => rfl
      | some c => simp [hrest c rfl]
  unfold numberPart
  rw [List.takeWhile_append_of_pos hpos, hnil, List.append_nil, List.filterMap_map]
  exact List.filterMap_some

/-! ## Strings -/

/-- The characters that are written as an escape of one letter. -/
def lettered : List Char := ['"', '\\', '\x08', '\t', '\n', '\x0C', '\r']

/-- The piece that a character is read as. Control characters without an escape of one letter are
written as codes. -/
def pieceOf (c : Char) : Piece :=
  if c.toNat < 0x20 ∧ c ∉ lettered then .code c.toNat else .char c

theorem readCode_digitChar {n : ℕ} (h : n < 0x20) :
    readCode [some '0', some '0', some (Nat.digitChar (n / 16)), some (Nat.digitChar (n % 16))] =
      some (n, []) := by
  revert n
  decide

theorem readPieces_letter {c e : Char} (he : e ≠ 'u') (hescaped : escaped? e = some c)
    (hpiece : pieceOf c = .char c) (input : Input) :
    readPieces (some '\\' :: some e :: input) =
      (readPieces input).map fun (pieces, rest) => (pieceOf c :: pieces, rest) := by
  rw [hpiece, readPieces, hescaped]
  · cases readPieces input <;> rfl
  · intro _ _ _ _ _ _
    exact he

/-- A character is read as its piece. -/
theorem readPieces_escapeChar (c : Char) (input : Input) :
    readPieces ((escapeChar c).map some ++ input) =
      (readPieces input).map fun (pieces, rest) => (pieceOf c :: pieces, rest) := by
  by_cases hletter : c ∈ lettered
  · simp only [lettered, List.mem_cons, List.not_mem_nil, or_false] at hletter
    rcases hletter with rfl | rfl | rfl | rfl | rfl | rfl | rfl <;>
      exact readPieces_letter (by decide) rfl rfl input
  · have hplain : escapeChar c = if c.toNat < 0x20 then
        ['\\', 'u', '0', '0', Nat.digitChar (c.toNat / 16), Nat.digitChar (c.toNat % 16)]
        else [c] := by
      simp only [lettered, List.mem_cons, List.not_mem_nil, or_false, not_or] at hletter
      simp [escapeChar, hletter]
    rw [hplain]
    by_cases hcode : c.toNat < 0x20
    · rw [if_pos hcode, pieceOf, if_pos ⟨hcode, hletter⟩]
      show readPieces (some '\\' :: some 'u' :: some '0' :: some '0' :: _ :: _ :: input) = _
      rw [readPieces, readCode_digitChar hcode]
      cases readPieces input <;> rfl
    · have hquote : c ≠ '"' := by
        rintro rfl
        exact hletter (by decide)
      have hback : c ≠ '\\' := by
        rintro rfl
        exact hletter (by decide)
      rw [if_neg hcode, pieceOf, if_neg fun h => hcode h.1]
      show readPieces (some c :: input) = _
      rw [readPieces, if_neg (by simp [hback, hcode])]
      all_goals simp [hquote, hback]

theorem readPieces_append (cs : List Char) (rest : Input) :
    readPieces ((cs.flatMap escapeChar).map some ++ some '"' :: rest) =
      some (cs.map pieceOf, rest) := by
  induction cs with
  | nil => simp [readPieces]
  | cons c cs ih =>
    rw [List.flatMap_cons, List.map_append, List.append_assoc, readPieces_escapeChar, ih]
    rfl

/-- A code that is no half of a surrogate pair stands for a character of its own. -/
theorem textOf?_code {n : ℕ} (h : n < 0x20) (pieces : List Piece) :
    textOf? (.code n :: pieces) = (textOf? pieces).map (Char.ofNat n :: ·) := by
  have hhigh : ¬ 0xD800 ≤ n := by omega
  have hlow : ¬ 0xDC00 ≤ n := by omega
  cases pieces with
  | nil => simp [textOf?, hhigh]
  | cons piece pieces => cases piece <;> simp [textOf?, hhigh, hlow]

theorem textOf?_map_pieceOf (cs : List Char) : textOf? (cs.map pieceOf) = some cs := by
  induction cs with
  | nil => rfl
  | cons c cs ih =>
    rw [List.map_cons]
    by_cases h : c.toNat < 0x20 ∧ c ∉ lettered
    · rw [pieceOf, if_pos h, textOf?_code h.1, ih, Char.ofNat_toNat]
      rfl
    · rw [pieceOf, if_neg h, textOf?, ih]
      rfl

/-- A string is read as the text it was written for. -/
theorem readString_append (s : String) (rest : Input) :
    readString ((s.toList.flatMap escapeChar).map some ++ some '"' :: rest) =
      some (some s, rest) := by
  unfold readString
  rw [readPieces_append, Option.map_some]
  show some ((textOf? (s.toList.map pieceOf)).map String.ofList, rest) = _
  rw [textOf?_map_pieceOf, Option.map_some, String.ofList_toList]

end CrawlGraph.Json
