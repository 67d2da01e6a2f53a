import Mathlib.Data.List.Basic
import CrawlGraph.Text.Utf8

/-!
# Decoding what has been encoded

The bytes of characters decode to these characters, without a gap (`decodeGaps_encode`), so
different texts have different bytes (`encode_injective`).

1. Sequences of one to four bytes give the character of their payloads (`first_one` to
   `first_four`).
2. The bytes of a character are such a sequence (`decodeGaps_cons`), and those of a text decode to
   it whatever follows (`decodeGaps_append`).
3. Bytes of ASCII stand for their own characters only (`mem_of_mem_encode`), and nothing else stands
   for these (`encode_isPrefix`).
-/

namespace CrawlGraph.Utf8

/-! ## Single sequences -/

theorem isTail_of_toNat {b : UInt8} {q : ℕ} (hb : b.toNat = 0x80 + q) (hq : q < 64) :
    isTail b = true := by
  simp only [isTail, UInt8.le_iff_toNat_le, UInt8.reduceToNat, hb, Bool.and_eq_true,
    decide_eq_true_eq]
  omega

theorem payload_of_toNat {b : UInt8} {q : ℕ} (hb : b.toNat = 0x80 + q) (hq : q < 64) :
    payload b = q := by
  unfold payload
  omega

theorem first_one {a : UInt8} (ha : a.toNat ≤ 0x7F) (rest : Bytes) :
    first a rest = (some (Char.ofNat a.toNat), 0) := by
  unfold first
  rw [if_pos (UInt8.lt_iff_toNat_lt.2 (Nat.lt_succ_of_le ha))]

theorem first_two {a b : UInt8} {p q : ℕ} (ha : a.toNat = 0xC0 + p) (hb : b.toNat = 0x80 + q)
    (hp : 2 ≤ p) (hp' : p < 32) (hq : q < 64) (rest : Bytes) :
    first a (b :: rest) = (some (Char.ofNat (p * 64 + q)), 1) := by
  have hshape : shape a = some (1, 0x80, 0xBF) := by
    simp only [shape, UInt8.lt_iff_toNat_lt, UInt8.le_iff_toNat_le, UInt8.reduceToNat, ha]
    rw [if_neg (by omega), if_pos (by omega)]
  have hb' : 0x80 ≤ b ∧ b ≤ 0xBF := by
    simp only [UInt8.le_iff_toNat_le, UInt8.reduceToNat, hb]
    omega
  have ha' : ¬ a < 0x80 := by
    simp only [UInt8.lt_iff_toNat_lt, UInt8.reduceToNat, ha]
    omega
  have hp : a.toNat % 32 = p := by omega
  simp [first, ha', hshape, hb', payload_of_toNat hb hq, hp]

theorem first_three {a b c : UInt8} {p q r : ℕ} (ha : a.toNat = 0xE0 + p) (hb : b.toNat = 0x80 + q)
    (hc : c.toNat = 0x80 + r) (hp : p < 16) (hq : q < 64) (hr : r < 64)
    (hlow : p = 0 → 32 ≤ q) (hgap : p = 13 → q < 32) (rest : Bytes) :
    first a (b :: c :: rest) = (some (Char.ofNat ((p * 64 + q) * 64 + r)), 2) := by
  obtain ⟨low, high, hshape, hb'⟩ :
      ∃ low high, shape a = some (2, low, high) ∧ low ≤ b ∧ b ≤ high := by
    simp only [shape, UInt8.lt_iff_toNat_lt, UInt8.le_iff_toNat_le, UInt8.reduceToNat,
      ← UInt8.toNat_inj, ha]
    rw [if_neg (by omega), if_neg (by omega)]
    split
    · exact ⟨_, _, rfl, by simp only [UInt8.reduceToNat]; omega⟩
    · split
      · exact ⟨_, _, rfl, by simp only [UInt8.reduceToNat]; omega⟩
      · exact ⟨_, _, if_pos (by omega), by simp only [UInt8.reduceToNat]; omega⟩
  have ha' : ¬ a < 0x80 := by
    simp only [UInt8.lt_iff_toNat_lt, UInt8.reduceToNat, ha]
    omega
  have hp : a.toNat % 16 = p := by omega
  simp [first, ha', hshape, hb', payload_of_toNat hb hq, payload_of_toNat hc hr,
    isTail_of_toNat hc hr, hp]

theorem first_four {a b c d : UInt8} {p q r s : ℕ} (ha : a.toNat = 0xF0 + p)
    (hb : b.toNat = 0x80 + q) (hc : c.toNat = 0x80 + r) (hd : d.toNat = 0x80 + s) (hp : p ≤ 4)
    (hq : q < 64) (hr : r < 64) (hs : s < 64) (hlow : p = 0 → 16 ≤ q) (hhigh : p = 4 → q < 16)
    (rest : Bytes) :
    first a (b :: c :: d :: rest) =
      (some (Char.ofNat (((p * 64 + q) * 64 + r) * 64 + s)), 3) := by
  obtain ⟨low, high, hshape, hb'⟩ :
      ∃ low high, shape a = some (3, low, high) ∧ low ≤ b ∧ b ≤ high := by
    simp only [shape, UInt8.lt_iff_toNat_lt, UInt8.le_iff_toNat_le, UInt8.reduceToNat,
      ← UInt8.toNat_inj, ha]
    rw [if_neg (by omega), if_neg (by omega), if_neg (by omega), if_neg (by omega),
      if_neg (by omega)]
    split
    · exact ⟨_, _, rfl, by simp only [UInt8.reduceToNat]; omega⟩
    · split
      · exact ⟨_, _, rfl, by simp only [UInt8.reduceToNat]; omega⟩
      · exact ⟨_, _, if_pos (by omega), by simp only [UInt8.reduceToNat]; omega⟩
  have ha' : ¬ a < 0x80 := by
    simp only [UInt8.lt_iff_toNat_lt, UInt8.reduceToNat, ha]
    omega
  have hp : a.toNat % 8 = p := by omega
  simp [first, ha', hshape, hb', payload_of_toNat hb hq, payload_of_toNat hc hr,
    payload_of_toNat hd hs, isTail_of_toNat hc hr, isTail_of_toNat hd hs, hp]

/-! ## Characters -/

theorem toNat_ofNat {n : ℕ} (h : n < 256) : (UInt8.ofNat n).toNat = n := UInt8.toNat_ofNat_of_lt' h

theorem utf8EncodeChar_eq (c : Char) : String.utf8EncodeChar c =
    if c.toNat ≤ 0x7F then [UInt8.ofNat c.toNat]
    else if c.toNat ≤ 0x7FF then
      [UInt8.ofNat (c.toNat / 64 % 32 + 0xC0), UInt8.ofNat (c.toNat % 64 + 0x80)]
    else if c.toNat ≤ 0xFFFF then
      [UInt8.ofNat (c.toNat / 4096 % 16 + 0xE0), UInt8.ofNat (c.toNat / 64 % 64 + 0x80),
        UInt8.ofNat (c.toNat % 64 + 0x80)]
    else
      [UInt8.ofNat (c.toNat / 262144 % 8 + 0xF0), UInt8.ofNat (c.toNat / 4096 % 64 + 0x80),
        UInt8.ofNat (c.toNat / 64 % 64 + 0x80), UInt8.ofNat (c.toNat % 64 + 0x80)] := rfl

/-- A byte of ASCII stands for no other character than its own. -/
theorem eq_of_mem_utf8EncodeChar {b : UInt8} (hb : b.toNat < 0x80) {c : Char}
    (h : b ∈ String.utf8EncodeChar c) : c.toNat = b.toNat := by
  have hhigh : ∀ n, 0x80 ≤ n → n < 256 → b ≠ UInt8.ofNat n := by
    rintro n hlow hlt rfl
    rw [toNat_ofNat hlt] at hb
    omega
  rw [utf8EncodeChar_eq] at h
  split at h
  · rw [List.mem_singleton.1 h, toNat_ofNat (by omega)]
  · exfalso
    split at h
    · simp only [List.mem_cons, List.not_mem_nil, or_false] at h
      rcases h with h | h <;> exact hhigh _ (by omega) (by omega) h
    · split at h
      · simp only [List.mem_cons, List.not_mem_nil, or_false] at h
        rcases h with h | h | h <;> exact hhigh _ (by omega) (by omega) h
      · simp only [List.mem_cons, List.not_mem_nil, or_false] at h
        rcases h with h | h | h | h <;> exact hhigh _ (by omega) (by omega) h

/-- The bytes of a character give it back, whatever follows. -/
theorem first_utf8EncodeChar (c : Char) (rest : Bytes) :
    ∃ lead tail, String.utf8EncodeChar c = lead :: tail ∧
      first lead (tail ++ rest) = (some c, tail.length) := by
  have hvalid : c.toNat < 0xD800 ∨ 0xDFFF < c.toNat ∧ c.toNat < 0x110000 := c.valid
  have hc : ∀ n, n = c.toNat → some (Char.ofNat n) = some c := by
    rintro _ rfl
    rw [Char.ofNat_toNat]
  have htail : ∀ n, (UInt8.ofNat (n % 64 + 0x80)).toNat = 0x80 + n % 64 := by
    intro n
    rw [toNat_ofNat (by omega), Nat.add_comm]
  rw [utf8EncodeChar_eq]
  split
  · refine ⟨_, [], rfl, ?_⟩
    have ha := toNat_ofNat (n := c.toNat) (by omega)
    rw [List.nil_append, first_one (by omega), hc _ ha]
    rfl
  · split
    · refine ⟨_, [_], rfl, ?_⟩
      have ha : (UInt8.ofNat (c.toNat / 64 % 32 + 0xC0)).toNat = 0xC0 + c.toNat / 64 := by
        rw [toNat_ofNat (by omega)]
        omega
      rw [List.cons_append, first_two ha (htail _) (by omega) (by omega) (by omega),
        hc _ (by omega)]
      rfl
    · split
      · refine ⟨_, [_, _], rfl, ?_⟩
        have ha : (UInt8.ofNat (c.toNat / 4096 % 16 + 0xE0)).toNat = 0xE0 + c.toNat / 4096 := by
          rw [toNat_ofNat (by omega)]
          omega
        rw [List.cons_append, List.cons_append, first_three ha (htail _) (htail _) (by omega)
          (by omega) (by omega) (by omega) (by omega), hc _ (by omega)]
        rfl
      · refine ⟨_, [_, _, _], rfl, ?_⟩
        have ha : (UInt8.ofNat (c.toNat / 262144 % 8 + 0xF0)).toNat = 0xF0 + c.toNat / 262144 := by
          rw [toNat_ofNat (by omega)]
          omega
        rw [List.cons_append, List.cons_append, List.cons_append, first_four ha (htail _) (htail _)
          (htail _) (by omega) (by omega) (by omega) (by omega) (by omega) (by omega),
          hc _ (by omega)]
        rfl

/-! ## Texts -/

theorem encode_cons (c : Char) (cs : List Char) :
    encode (c :: cs) = String.utf8EncodeChar c ++ encode cs := rfl

theorem decodeGaps_cons (c : Char) (rest : Bytes) :
    decodeGaps (String.utf8EncodeChar c ++ rest) = some c :: decodeGaps rest := by
  obtain ⟨lead, tail, hencode, hfirst⟩ := first_utf8EncodeChar c rest
  rw [hencode, List.cons_append, decodeGaps, hfirst]
  exact congrArg (some c :: decodeGaps ·) List.drop_left

theorem decodeGaps_append (cs : List Char) (rest : Bytes) :
    decodeGaps (encode cs ++ rest) = cs.map some ++ decodeGaps rest := by
  induction cs with
  | nil => rfl
  | cons c cs ih =>
    rw [encode_cons, List.append_assoc, decodeGaps_cons, ih, List.map_cons, List.cons_append]

/-- **Decoding.** The bytes of characters decode to them. -/
theorem decodeGaps_encode (cs : List Char) : decodeGaps (encode cs) = cs.map some := by
  have h := decodeGaps_append cs []
  rwa [List.append_nil, decodeGaps, List.append_nil] at h

theorem decode?_encode (cs : List Char) : decode? (encode cs) = some cs := by
  unfold decode?
  rw [decodeGaps_encode, List.mapM_map]
  induction cs with
  | nil => rfl
  | cons c cs ih =>
    rw [List.mapM_cons, ih]
    rfl

theorem decodeLossy_append (cs : List Char) (rest : Bytes) :
    decodeLossy (encode cs ++ rest) = cs ++ decodeLossy rest := by
  unfold decodeLossy
  rw [decodeGaps_append, List.map_append, List.map_map]
  exact congrArg (· ++ _) (List.map_id _)

theorem decodeLossy_encode (cs : List Char) : decodeLossy (encode cs) = cs := by
  unfold decodeLossy
  rw [decodeGaps_encode, List.map_map]
  exact List.map_id _

theorem toList_toStringLossy (bytes : Bytes) : (toStringLossy bytes).toList = decodeLossy bytes :=
  String.toList_ofList

theorem toStringLossy_ofString (s : String) : toStringLossy (ofString s) = s := by
  unfold toStringLossy ofString
  rw [decodeLossy_encode, String.ofList_toList]

/-- A byte of ASCII is among the bytes of a text only if its character is in the text. -/
theorem mem_of_mem_encode {c : Char} (hc : c.toNat < 0x80) {cs : List Char}
    (h : UInt8.ofNat c.toNat ∈ encode cs) : c ∈ cs := by
  obtain ⟨d, hd, hmem⟩ := List.mem_flatMap.1 h
  have hb : (UInt8.ofNat c.toNat).toNat = c.toNat := toNat_ofNat (by omega)
  have heq := eq_of_mem_utf8EncodeChar (by omega) hmem
  rwa [← Char.toNat_inj.1 (heq.trans hb)]

/-- A byte of ASCII ends the bytes of a text only if its character ends the text. -/
theorem getLast?_of_getLast?_encode {c : Char} (hc : c.toNat < 0x80) {cs : List Char}
    (h : (encode cs).getLast? = some (UInt8.ofNat c.toNat)) : cs.getLast? = some c := by
  obtain rfl | ⟨front, d, rfl⟩ := List.eq_nil_or_concat' cs
  · cases h
  · obtain ⟨lead, tail, hencode, -⟩ := first_utf8EncodeChar d []
    have hne : String.utf8EncodeChar d ≠ [] := by
      rw [hencode]
      exact List.cons_ne_nil _ _
    have happend : encode (front ++ [d]) = encode front ++ String.utf8EncodeChar d := by
      unfold encode
      rw [List.flatMap_append, List.flatMap_singleton]
    have hb : (UInt8.ofNat c.toNat).toNat = c.toNat := toNat_ofNat (by omega)
    rw [happend, List.getLast?_append_of_ne_nil _ hne] at h
    have heq := eq_of_mem_utf8EncodeChar (by omega) (List.mem_of_getLast? h)
    rw [List.getLast?_concat, Char.toNat_inj.1 (heq.trans hb)]

theorem encode_injective : Function.Injective encode := by
  intro cs cs' h
  have hdecoded := congrArg decodeGaps h
  rw [decodeGaps_encode, decodeGaps_encode] at hdecoded
  exact List.map_injective_iff.2 (fun _ _ => Option.some.inj) hdecoded

theorem ofString_injective : Function.Injective ofString := by
  intro s s' h
  exact String.toList_injective (encode_injective h)

/-! ## Characters of ASCII -/

theorem toNat_charOfNat {n : ℕ} (h : n.isValidChar) : (Char.ofNat n).toNat = n := by
  unfold Char.ofNat
  rw [dif_pos h]
  rfl

theorem payload_lt (b : UInt8) : payload b < 64 := Nat.mod_lt _ (by decide)

/-- What the first two bytes of a sequence of two, three or four bytes say about its character. -/
theorem bounds_of_shape {lead low high b : UInt8} {more : ℕ}
    (h : shape lead = some (more, low, high)) (hlow : low ≤ b) (hhigh : b ≤ high) :
    (more = 1 → 2 ≤ lead.toNat % 32) ∧
      (more = 2 → 32 ≤ lead.toNat % 16 * 64 + payload b ∧
        (lead.toNat % 16 * 64 + payload b < 864 ∨ 896 ≤ lead.toNat % 16 * 64 + payload b)) ∧
      (more = 3 → 16 ≤ lead.toNat % 8 * 64 + payload b ∧
        lead.toNat % 8 * 64 + payload b < 272) := by
  unfold payload
  simp only [shape, UInt8.lt_iff_toNat_lt, UInt8.le_iff_toNat_le, ← UInt8.toNat_inj,
    UInt8.reduceToNat] at h hlow hhigh
  repeat' split at h
  all_goals cases h
  all_goals simp only [UInt8.reduceToNat] at hlow hhigh
  all_goals omega

/-- A longer sequence stands for no character of ASCII. -/
theorem le_toNat_of_first {lead : UInt8} {rest : Bytes} {c : Char} {count : ℕ}
    (h : first lead rest = (some c, count)) (hlead : 0x80 ≤ lead) : 0x80 ≤ c.toNat := by
  have hchar : ∀ n, n.isValidChar → 0x80 ≤ n → 0x80 ≤ (Char.ofNat n).toNat := by
    intro n hvalid hle
    rwa [toNat_charOfNat hvalid]
  unfold first at h
  rw [if_neg (UInt8.not_lt.2 hlead)] at h
  split at h
  case h_2 => cases h
  rename_i more low high b rest hshape
  split at h
  case isFalse => cases h
  rename_i hb
  rw [Bool.and_eq_true, decide_eq_true_eq, decide_eq_true_eq] at hb
  obtain ⟨htwo, hthree, hfour⟩ := bounds_of_shape hshape hb.1 hb.2
  have hpayload := payload_lt b
  split at h
  · have hbounds := htwo rfl
    cases h
    exact hchar _ (.inl (by omega)) (by omega)
  · rename_i b' rest
    have hbounds := hthree rfl
    have hpayload' := payload_lt b'
    split at h
    · cases h
      exact hchar _ (by unfold Nat.isValidChar; omega) (by omega)
    · cases h
  · rename_i b' rest
    have hbounds := hfour rfl
    have hpayload' := payload_lt b'
    split at h
    · split at h
      · rename_i b'' rest
        have hpayload'' := payload_lt b''
        split at h
        · cases h
          exact hchar _ (.inr (by omega)) (by omega)
        · cases h
      · cases h
    · cases h
  · cases h

theorem first_eq_of_toNat_lt {lead : UInt8} {rest : Bytes} {c : Char} {count : ℕ}
    (h : first lead rest = (some c, count)) (hc : c.toNat < 0x80) :
    String.utf8EncodeChar c = [lead] ∧ count = 0 := by
  have hlead : lead.toNat ≤ 0x7F := by
    by_contra hle
    have hlong : (0x80 : UInt8) ≤ lead := UInt8.le_iff_toNat_le.2 (Nat.not_le.1 hle)
    exact absurd (le_toNat_of_first h hlong) (Nat.not_le.2 hc)
  rw [first_one hlead] at h
  cases h
  have hvalid : lead.toNat.isValidChar := .inl (by omega)
  refine ⟨?_, rfl⟩
  rw [utf8EncodeChar_eq, toNat_charOfNat hvalid, if_pos hlead, UInt8.ofNat_toNat]

theorem decodeLossy_cons (lead : UInt8) (rest : Bytes) :
    decodeLossy (lead :: rest) =
      (first lead rest).1.getD '\uFFFD' :: decodeLossy (rest.drop (first lead rest).2) := by
  unfold decodeLossy
  rw [decodeGaps]
  rfl

/-- Bytes that decode to a text with characters of ASCII at its start have their bytes at the start.
-/
theorem encode_isPrefix {cs : List Char} (hascii : ∀ c ∈ cs, c.toNat < 0x80) {bytes : Bytes}
    (h : cs <+: decodeLossy bytes) : encode cs <+: bytes := by
  induction cs generalizing bytes with
  | nil => exact List.nil_prefix
  | cons c cs ih =>
    have hc := hascii c List.mem_cons_self
    cases bytes with
    | nil =>
      unfold decodeLossy at h
      rw [decodeGaps] at h
      exact absurd (List.prefix_nil.1 h) (List.cons_ne_nil _ _)
    | cons lead rest =>
      rw [decodeLossy_cons] at h
      obtain ⟨hhead, htail⟩ := List.cons_prefix_cons.1 h
      cases hfirst : first lead rest with
      | mk gap count =>
        rw [hfirst] at hhead htail
        cases gap with
        | none =>
          obtain rfl : c = '\uFFFD' := hhead
          exact absurd hc (by decide)
        | some d =>
          obtain rfl : c = d := hhead
          obtain ⟨hencode, rfl⟩ := first_eq_of_toNat_lt hfirst hc
          rw [encode_cons, hencode]
          refine List.cons_prefix_cons.2 ⟨rfl, ih (fun d hd => ?_) htail⟩
          exact hascii d (List.mem_cons_of_mem _ hd)

end CrawlGraph.Utf8
