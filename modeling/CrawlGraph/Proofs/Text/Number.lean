import Mathlib.Algebra.Group.Int.Defs
import Mathlib.Algebra.Group.Nat.Defs
import Mathlib.Data.List.Basic
import CrawlGraph.Json.Parser
import CrawlGraph.Json.Printer
import CrawlGraph.Proofs.Text.Cut

/-!
# Numbers read back

The digits of a number read as that number, and its text in JSON is read as it (`ofText?_text`).
What fits into a bounded kind is not refused by its reader.
-/

namespace CrawlGraph

namespace Text

/-! ## Digits -/

theorem digitsFrom_eq {cs : List Char} (h : ∀ c ∈ cs, c.isDigit) (n : ℕ) :
    digitsFrom n cs = some (Nat.ofDigitChars 10 cs n) := by
  induction cs generalizing n with
  | nil => rw [digitsFrom, Nat.ofDigitChars_nil]
  | cons c cs ih =>
    rw [digitsFrom, if_pos (h c List.mem_cons_self), ih fun d hd => h d (List.mem_cons_of_mem _ hd),
      Nat.ofDigitChars_cons]

theorem isDigit_toDigits {n : ℕ} : ∀ c ∈ Nat.toDigits 10 n, c.isDigit :=
  fun _ hc => Nat.isDigit_of_mem_toDigits (by decide) (by decide) hc

theorem digits?_toDigits (n : ℕ) : digits? (Nat.toDigits 10 n) = some n := by
  unfold digits?
  rw [if_neg (by simp), digitsFrom_eq isDigit_toDigits, Nat.ofDigitChars_ten_toDigits]

/-- Only zero starts with a zero. -/
theorem head?_toDigits {n : ℕ} (h : 0 < n) : (Nat.toDigits 10 n).head? ≠ some '0' := by
  induction n using Nat.base_induction 10 (by decide) with
  | single n hn =>
    rw [Nat.toDigits_of_lt_base hn]
    revert n
    decide
  | digit n k hk hn ih =>
    rw [← Nat.toDigits_append_toDigits (by decide) hn hk, List.head?_append_of_ne_nil _ (by simp)]
    exact ih hn

theorem toList_toString_natCast (n : ℕ) : (toString (n : ℤ)).toList = Nat.toDigits 10 n :=
  Nat.toList_repr

theorem toList_toString_neg (n : ℕ) :
    (toString (Int.negSucc n)).toList = '-' :: Nat.toDigits 10 (n + 1) := by
  show ("-" ++ (n + 1).repr).toList = _
  rw [String.toList_append, Nat.toList_repr]
  rfl

/-- The text of a number has nothing but digits and the sign of a negative one. -/
theorem isDigit_or_eq_of_mem {n : ℤ} : ∀ c ∈ (toString n).toList, c.isDigit ∨ c = '-' := by
  cases n with
  | ofNat n => exact fun c hc => .inl (isDigit_toDigits c (toList_toString_natCast n ▸ hc))
  | negSucc n =>
    rw [toList_toString_neg]
    intro c hc
    rcases List.mem_cons.1 hc with rfl | hc
    · exact .inr rfl
    · exact .inl (isDigit_toDigits c hc)

theorem not_mem_toString {c : Char} (hdigit : c.isDigit = false) (hminus : c ≠ '-') (n : ℤ) :
    c ∉ (toString n).toList := by
  intro hc
  rcases isDigit_or_eq_of_mem c hc with hc | hc
  · exact absurd hc (by rw [hdigit]; exact Bool.false_ne_true)
  · exact hminus hc

theorem toList_toString_ne_nil (n : ℤ) : (toString n).toList ≠ [] := by
  cases n with
  | ofNat n =>
    rw [show (toString (Int.ofNat n)).toList = _ from toList_toString_natCast n]
    simp
  | negSucc n =>
    rw [toList_toString_neg]
    exact List.cons_ne_nil _ _

theorem trim_toString (n : ℤ) : trim (toString n).toList = (toString n).toList := by
  refine trim_of_not_isBlank fun c hc => ?_
  rcases isDigit_or_eq_of_mem c hc with hc | rfl
  · exact isBlank_of_isDigit hc
  · decide

/-! ## Bounded kinds -/

theorem int64?_toInt (n : Int64) : int64? n.toInt = some n := by
  unfold int64?
  rw [if_pos ⟨Int64.minValue_le_toInt n, Int64.toInt_le n⟩, Int64.ofInt_toInt]

theorem int32?_toInt (n : Int32) : int32? n.toInt = some n := by
  unfold int32?
  rw [if_pos ⟨Int32.minValue_le_toInt n, Int32.toInt_le n⟩, Int32.ofInt_toInt]

theorem uint64?_natCast {n : ℕ} (h : n < UInt64.size) : uint64? n = some (UInt64.ofNat n) := by
  unfold uint64?
  rw [Int.toNat_natCast, if_pos ⟨Int.natCast_nonneg _, h⟩]

theorem uint64?_toNat (n : UInt64) : uint64? n.toNat = some n := by
  rw [uint64?_natCast (UInt64.toNat_lt_size n), UInt64.ofNat_toNat]

/-- What fits is left as it is. -/
theorem toNat_of_uint64? {n : ℤ} {m : UInt64} (h : uint64? n = some m) : (m.toNat : ℤ) = n := by
  unfold uint64? at h
  split at h
  · rename_i hfits
    cases h
    rw [UInt64.toNat_ofNat_of_lt' hfits.2, Int.toNat_of_nonneg hfits.1]
  · cases h

theorem readNat_toDigits (n : ℕ) : readNat (Nat.toDigits 10 n) = some n := by
  have hplus : ∀ cs, Nat.toDigits 10 n ≠ '+' :: cs := by
    intro cs h
    exact absurd (isDigit_toDigits '+' (h ▸ List.mem_cons_self)) (by decide)
  unfold readNat
  split
  · exact absurd ‹_› (hplus _)
  · exact digits?_toDigits n

/-- An integer is read from its text. -/
theorem readInt_toString (n : ℤ) : readInt (toString n).toList = some n := by
  cases n with
  | ofNat n =>
    have hminus : ∀ cs, Nat.toDigits 10 n ≠ '-' :: cs := by
      intro cs h
      exact absurd (isDigit_toDigits '-' (h ▸ List.mem_cons_self)) (by decide)
    rw [show (toString (Int.ofNat n)).toList = _ from toList_toString_natCast n]
    unfold readInt
    split
    · exact absurd ‹_› (hminus _)
    · rw [readNat_toDigits]
      rfl
  | negSucc n =>
    rw [toList_toString_neg, readInt, digits?_toDigits]
    rfl

theorem readInt32_toString (n : Int32) : readInt32 (toString n.toInt).toList = some n := by
  unfold readInt32
  rw [readInt_toString, Option.bind_some, int32?_toInt]

theorem readInt64_toString {n : ℤ} (hle : -2 ^ 63 ≤ n) (hlt : n < 2 ^ 63) :
    readInt64 (toString n).toList = some (Int64.ofInt n) := by
  have hmin : Int64.minValue.toInt = -2 ^ 63 := by decide
  have hmax : Int64.maxValue.toInt = 2 ^ 63 - 1 := by decide
  unfold readInt64 int64?
  rw [readInt_toString, Option.bind_some, if_pos (by omega)]

/-- A number that is too large is not read. -/
theorem readInt64_toString_of_le {n : ℤ} (h : 2 ^ 63 ≤ n) :
    readInt64 (toString n).toList = none := by
  have hmax : Int64.maxValue.toInt = 2 ^ 63 - 1 := by decide
  unfold readInt64 int64?
  rw [readInt_toString, Option.bind_some, if_neg (by omega)]

theorem readUInt64_toDigits {n : ℕ} (h : n < UInt64.size) :
    readUInt64 (Nat.toDigits 10 n) = some (UInt64.ofNat n) := by
  unfold readUInt64
  rw [readNat_toDigits, Option.bind_some, uint64?_natCast h]

end Text

end CrawlGraph
