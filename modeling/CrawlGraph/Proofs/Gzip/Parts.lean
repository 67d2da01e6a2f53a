import Mathlib.Data.List.Basic
import CrawlGraph.Gzip.Member

/-!
# Compressed files that go on

What the first parts of a compressed file give is given first, whatever comes behind them
(`decompress_append`): damage to a later part takes nothing of it away.

1. A header or a trailer that is not cut short is taken off in the same way with more bytes behind
   it (`steady_skipHeader`, `steady_skipTrailer`).
2. So is compressed data (`inflateParts_append`), by induction on the parts. If it is cut short,
   what has been handed out comes first in what is handed out with more parts behind it.
3. The members follow (`readMember_append`, `readMembers_append`), by induction on their number.
-/

namespace CrawlGraph.Gzip

variable {front back : Bytes}

/-! ## Chunks and parts -/

/-- Chunks of one size follow each other. -/
theorem chunks_append {size : ℕ} (hpos : 0 < size) {count : ℕ}
    (hlength : front.length = count * size) (back : Bytes) :
    chunks size (front ++ back) = chunks size front ++ chunks size back := by
  induction count generalizing front with
  | zero =>
    rw [Nat.zero_mul, List.length_eq_zero_iff] at hlength
    rw [hlength, chunks]
    rfl
  | succ count ih =>
    rw [Nat.succ_mul] at hlength
    obtain ⟨b, bytes, rfl⟩ := List.exists_cons_of_length_pos (l := front) (by omega)
    rw [List.length_cons] at hlength
    have hle : size - 1 ≤ bytes.length := by omega
    have hrest : (bytes.drop (size - 1)).length = count * size := by
      rw [List.length_drop]
      omega
    rw [List.cons_append, chunks, chunks, List.take_append_of_le_length hle,
      List.drop_append_of_le_length hle, ih hrest, List.cons_append]

/-- Some bytes are those of the first parts of a file. -/
def EndsPart (front : Bytes) : Prop := ∃ count, front.length = readSize + count * partSize

theorem parts_append (h : EndsPart front) (back : Bytes) :
    parts (front ++ back) = parts front ++ chunks partSize back := by
  obtain ⟨count, hlength⟩ := h
  have hle : readSize ≤ front.length := hlength ▸ Nat.le_add_right _ _
  have hrest : (front.drop readSize).length = count * partSize := by
    rw [List.length_drop, hlength, Nat.add_sub_cancel_left]
  unfold parts chunksFrom
  rw [List.take_append_of_le_length hle, List.drop_append_of_le_length hle,
    chunks_append (by decide) hrest, List.cons_append]

theorem dropBytes_append {n : ℕ} {front : List Bytes} (h : n ≤ front.flatten.length)
    (back : List Bytes) : dropBytes n (front ++ back) = dropBytes n front ++ back := by
  fun_induction dropBytes n front with
  | case1 front => rw [dropBytes]
  | case2 n hn => exact absurd (Nat.le_zero.1 h) hn
  | case3 n part parts hn hlt =>
    rw [List.cons_append, dropBytes, if_pos hlt, List.cons_append]
    exact hn
  | case4 n part parts hn hlt ih =>
    rw [List.flatten_cons, List.length_append] at h
    rw [List.cons_append, dropBytes, if_neg hlt, ih (by omega)]
    exact hn

theorem leftOf_append (front back : List Bytes) (rest : Bytes) :
    leftOf (front ++ back) (rest ++ back.flatten) = leftOf front rest ++ back := by
  unfold leftOf
  rw [List.flatten_append, List.length_append, List.length_append, Nat.add_sub_add_right,
    dropBytes_append (Nat.sub_le _ _)]

/-! ## Headers and trailers -/

/-- Taking something off bytes that are not cut short goes on in the same way with more bytes behind
them. -/
def GoesOn (more : Bytes) (outcome later : Except Fault Bytes) : Prop :=
  outcome ≠ .error .cut → later = outcome.map (· ++ more)

/-- What is taken off next may be chosen by all the bytes, those behind included. -/
theorem GoesOn.bind {more : Bytes} {outcome later : Except Fault Bytes}
    {next next' : Bytes → Except Fault Bytes} (h : GoesOn more outcome later)
    (hnext : ∀ rest, GoesOn more (next rest) (next' (rest ++ more))) :
    GoesOn more (outcome >>= next) (later >>= next') := by
  intro hcut
  cases outcome with
  | error fault =>
    have hfault : fault ≠ .cut := by
      rintro rfl
      exact hcut rfl
    rw [h (by simpa using hfault)]
    rfl
  | ok rest =>
    rw [h (by simp)]
    exact hnext rest hcut

/-- What is taken off depends on no bytes behind it. -/
def Steady (skip : Bytes → Except Fault Bytes) : Prop :=
  ∀ bytes more, GoesOn more (skip bytes) (skip (bytes ++ more))

theorem Steady.ok {skip : Bytes → Except Fault Bytes} (h : Steady skip) {front : List Bytes}
    {rest : Bytes} (hskip : skip front.flatten = .ok rest) (back : List Bytes) :
    skip (front ++ back).flatten = .ok (rest ++ back.flatten) := by
  have hcut : skip front.flatten ≠ .error .cut := by
    rw [hskip]
    nofun
  rw [List.flatten_append, h _ _ hcut, hskip]
  rfl

theorem goesOn_takeBytes {n : ℕ} {bytes more : Bytes}
    {next next' : Bytes × Bytes → Except Fault Bytes}
    (h : ∀ taken rest, GoesOn more (next (taken, rest)) (next' (taken, rest ++ more))) :
    GoesOn more (takeBytes n bytes >>= next) (takeBytes n (bytes ++ more) >>= next') := by
  unfold takeBytes
  split_ifs with hlength hmore hmore
  · rw [List.length_take] at hlength
    have hle : n ≤ bytes.length := by omega
    rw [List.take_append_of_le_length hle, List.drop_append_of_le_length hle]
    exact h _ _
  · simp only [List.length_take, List.length_append] at hlength hmore
    omega
  · exact fun hcut => absurd rfl hcut
  · exact fun hcut => absurd rfl hcut

theorem steady_skipText : Steady skipText := by
  intro bytes more hcut
  have happend : (bytes ++ more).takeWhile (· != 0) = _ := List.takeWhile_append
  have hle := (List.takeWhile_prefix (· != 0) (l := bytes)).length_le
  unfold skipText at hcut ⊢
  by_cases hall : (bytes.takeWhile (· != 0)).length = bytes.length
  · -- without a zero byte the text is too long already
    rw [if_pos hall] at happend
    simp only [hall, List.drop_length] at hcut
    split_ifs at hcut with hlong
    · simp only [happend, hall, List.length_append, if_pos hlong]
      rw [if_pos (Nat.lt_of_lt_of_le hlong (Nat.le_add_right _ _))]
      rfl
    · exact absurd rfl hcut
  · rw [if_neg hall] at happend
    dsimp only
    rw [happend, List.drop_append_of_le_length hle]
    cases hdrop : bytes.drop (bytes.takeWhile (· != 0)).length with
    | nil => exact absurd (Nat.le_antisymm hle (List.drop_eq_nil_iff.1 hdrop)) hall
    | cons zero rest => split_ifs <;> rfl

theorem steady_skipExtra : Steady skipExtra := by
  intro bytes more
  refine goesOn_takeBytes fun count rest => ?_
  -- the bytes before the rest are not needed, so that taking them off ends in the rest
  exact goesOn_takeBytes fun _ _ _ => rfl

theorem Steady.skipIf {skip : Bytes → Except Fault Bytes} (h : Steady skip) (isThere : Bool) :
    Steady (skipIf isThere skip) := by
  intro bytes more hcut
  unfold Gzip.skipIf at hcut ⊢
  split_ifs at hcut ⊢
  · exact h bytes more hcut
  · rfl

theorem steady_skipCheck (header : Bytes) : Steady (skipCheck header) := by
  intro bytes more
  refine goesOn_takeBytes fun check rest _ => ?_
  dsimp only
  split_ifs <;> rfl

theorem steady_skipTrailer (data : Bytes) : Steady (skipTrailer data) := by
  intro bytes more
  refine goesOn_takeBytes fun trailer rest _ => ?_
  dsimp only
  split_ifs <;> rfl

theorem steady_skipHeader : Steady skipHeader := by
  intro bytes more
  refine goesOn_takeBytes fun fixed rest => ?_
  dsimp only
  split_ifs
  · exact fun _ => rfl
  · refine (steady_skipExtra.skipIf _ rest more).bind fun afterExtra => ?_
    refine (steady_skipText.skipIf _ afterExtra more).bind fun afterName => ?_
    refine (steady_skipText.skipIf _ afterName more).bind fun afterComment => ?_
    -- the bytes of the header are the same ones
    rw [List.length_append, List.length_append, Nat.add_sub_add_right,
      List.take_append_of_le_length (Nat.sub_le _ _)]
    exact (steady_skipCheck _).skipIf _ afterComment more

/-! ## Members -/

theorem inflateParts_append (ready : Bytes) (given : ℕ) (front back : List Bytes) :
    (inflateParts ready given front).1 <+: (inflateParts ready given (front ++ back)).1 ∧
      ((inflateParts ready given front).2 ≠ .error .cut →
        inflateParts ready given (front ++ back) =
          ((inflateParts ready given front).1,
            (inflateParts ready given front).2.map (· ++ back))) := by
  induction front generalizing ready given with
  | nil => exact ⟨List.nil_prefix, fun hcut => absurd rfl hcut⟩
  | cons part front ih =>
    rw [List.cons_append, inflateParts, inflateParts]
    rcases inflate (ready ++ part) with ⟨out, (_ | _) | rest⟩
    · obtain ⟨hstarts, hsame⟩ := ih (ready ++ part) out.length
      dsimp only
      refine ⟨List.prefix_append_right_inj _ |>.2 hstarts, fun hcut => ?_⟩
      rw [hsame hcut]
    · exact ⟨List.prefix_refl _, fun _ => rfl⟩
    · exact ⟨List.prefix_refl _, fun _ => rfl⟩

/-- What a member gives comes first with more parts behind it, and a member that is whole ends where
it did. -/
theorem readMember_append (front back : List Bytes) :
    (readMember front).1 <+: (readMember (front ++ back)).1 ∧
      ∀ rest, (readMember front).2 = .ok rest →
        readMember (front ++ back) = ((readMember front).1, .ok (rest ++ back)) := by
  unfold readMember
  cases hskip : skipHeader front.flatten with
  | error fault => exact ⟨List.nil_prefix, nofun⟩
  | ok data =>
    obtain ⟨hstarts, hsame⟩ := inflateParts_append [] 0 (leftOf front data) back
    rw [steady_skipHeader.ok hskip back]
    dsimp only
    rw [leftOf_append]
    rcases hparts : inflateParts [] 0 (leftOf front data) with ⟨pieces, fault | parts⟩
    · rw [hparts] at hstarts
      rcases hwhole : inflateParts [] 0 (leftOf front data ++ back) with ⟨more, outcome⟩
      rw [hwhole] at hstarts
      refine ⟨?_, nofun⟩
      cases outcome <;> exact hstarts
    · rw [hparts] at hsame
      rw [hsame nofun]
      refine ⟨List.prefix_refl _, fun rest hrest => ?_⟩
      dsimp only [Except.map] at hrest ⊢
      cases hskip' : skipTrailer pieces.flatten parts.flatten with
      | error fault =>
        rw [hskip'] at hrest
        cases hrest
      | ok behind =>
        rw [hskip'] at hrest
        cases hrest
        rw [(steady_skipTrailer _).ok hskip' back]
        dsimp only
        rw [leftOf_append]

theorem readMembers_append {fuel fuel' : ℕ} (hfuel : fuel ≤ fuel') (front back : List Bytes) :
    (readMembers fuel front).1 <+: (readMembers fuel' (front ++ back)).1 := by
  induction fuel generalizing fuel' front with
  | zero => exact List.nil_prefix
  | succ fuel ih =>
    obtain ⟨fuel', rfl⟩ := Nat.exists_eq_add_one.2 (Nat.zero_lt_of_lt hfuel)
    obtain ⟨hstarts, hwhole⟩ := readMember_append front back
    rw [readMembers, readMembers]
    by_cases hempty : front.flatten = []
    · rw [hempty]
      exact List.nil_prefix
    · have hmore : (front ++ back).flatten ≠ [] := by
        rw [List.flatten_append]
        exact List.append_ne_nil_of_left_ne_nil hempty _
      rw [if_neg (by simpa using hempty), if_neg (by simpa using hmore)]
      rcases hmember : readMember front with ⟨pieces, fault | rest⟩
      · rw [hmember] at hstarts
        rcases hmember' : readMember (front ++ back) with ⟨pieces', fault' | rest'⟩
        · rw [hmember'] at hstarts
          exact hstarts
        · rw [hmember'] at hstarts
          exact hstarts.trans (List.prefix_append _ _)
      · rw [hmember] at hwhole
        rw [hwhole rest rfl]
        exact (List.prefix_append_right_inj _).2 (ih (Nat.le_of_succ_le_succ hfuel) rest)

/-- **Damaged files.** What the first parts of a compressed file give comes first in what it gives,
whatever stands behind them. -/
theorem decompress_append (h : EndsPart front) (back : Bytes) :
    (decompress front).1 <+: (decompress (front ++ back)).1 := by
  obtain ⟨count, hlength⟩ := id h
  have hpos : 0 < front.length := by
    rw [hlength]
    exact Nat.lt_of_lt_of_le (by decide) (Nat.le_add_right readSize _)
  have hne : front ≠ [] := List.length_pos_iff.1 hpos
  unfold decompress
  rw [parts_append h, if_neg (by simpa using hne), if_neg (by simp [hne])]
  refine readMembers_append ?_ _ _
  rw [List.length_append]
  exact Nat.le_add_right _ _

end CrawlGraph.Gzip
