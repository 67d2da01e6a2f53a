import Mathlib.Data.List.Basic
import CrawlGraph.Text.Blank
import CrawlGraph.Text.Cut

/-!
# Cutting texts that have been put together

A text that is put together from pieces is cut into these pieces again, if the separator is not in
the first one. White space at the ends of a text is trimmed away, which moves no mark that is looked
for in it (`after_trimEnd`). Fields with single spaces between them are the words of the text that
they make (`words_intercalate`), and texts with line feeds behind them are its lines
(`lines_flatMap`).
-/

namespace CrawlGraph.Text

theorem cutAt_append {c : Char} {before : List Char} (h : c ∉ before) (after : List Char) :
    cutAt c (before ++ c :: after) = some (before, after) := by
  induction before with
  | nil => exact if_pos rfl
  | cons x before ih =>
    rw [List.mem_cons, not_or] at h
    rw [List.cons_append, cutAt, if_neg (Ne.symm h.1), ih h.2]
    rfl

theorem cutAt_eq_none {c : Char} {cs : List Char} (h : c ∉ cs) : cutAt c cs = none := by
  induction cs with
  | nil => rfl
  | cons d cs ih =>
    rw [List.mem_cons, not_or] at h
    rw [cutAt, if_neg (Ne.symm h.1), ih h.2]
    rfl

theorem dropStart_eq_some {start text rest : List Char} :
    dropStart start text = some rest ↔ text = start ++ rest := by
  induction start generalizing text with
  | nil => cases text <;> simp [dropStart]
  | cons c start ih =>
    cases text with
    | nil => simp [dropStart]
    | cons d text =>
      rw [List.cons_append, List.cons.injEq, dropStart]
      by_cases hcd : c = d
      · rw [if_pos hcd, ih, hcd, and_iff_right rfl]
      · simp [hcd, Ne.symm hcd]

theorem dropStart_append (start text : List Char) : dropStart start (start ++ text) = some text :=
  dropStart_eq_some.2 rfl

theorem startsWith_append (start text : List Char) : startsWith start (start ++ text) = true := by
  unfold startsWith
  rw [dropStart_append, Option.isSome_some]

theorem startsWith_iff {start text : List Char} :
    startsWith start text = true ↔ start <+: text := by
  unfold startsWith
  rw [Option.isSome_iff_exists]
  exact exists_congr fun _ => dropStart_eq_some.trans eq_comm

theorem trim_cons_of_isBlank {c : Char} (h : isBlank c = true) (cs : List Char) :
    trim (c :: cs) = trim cs := by
  unfold trim trimStart
  rw [List.dropWhile_cons_of_pos h]

/-- A text that neither starts nor ends with white space. -/
structure IsTrimmed (cs : List Char) : Prop where
  head : ∀ c ∈ cs.head?, isBlank c = false
  last : ∀ c ∈ cs.getLast?, isBlank c = false

theorem isTrimmed_iff {cs : List Char} :
    IsTrimmed cs ↔ cs.head?.all (!isBlank ·) ∧ cs.getLast?.all (!isBlank ·) := by
  simp only [Option.all_eq_true, Bool.not_eq_true']
  exact ⟨fun h => ⟨h.head, h.last⟩, fun h => ⟨h.1, h.2⟩⟩

instance (cs : List Char) : Decidable (IsTrimmed cs) := decidable_of_iff' _ isTrimmed_iff

theorem dropWhile_of_head? {p : Char → Bool} {cs : List Char} (h : ∀ c ∈ cs.head?, p c = false) :
    cs.dropWhile p = cs := by
  cases cs with
  | nil => rfl
  | cons c cs => exact List.dropWhile_cons_of_neg (by simp [h c rfl])

theorem reverse_dropWhile_of_getLast? {p : Char → Bool} {cs : List Char}
    (h : ∀ c ∈ cs.getLast?, p c = false) : (cs.reverse.dropWhile p).reverse = cs := by
  rw [dropWhile_of_head? fun c hc => h c (List.head?_reverse ▸ hc), List.reverse_reverse]

theorem mem_of_mem_trim {cs : List Char} {c : Char} (h : c ∈ trim cs) : c ∈ cs := by
  unfold trim trimEnd trimStart at h
  have hstart := (List.dropWhile_sublist _).subset (List.mem_reverse.1 h)
  exact (List.dropWhile_sublist _).subset (List.mem_reverse.1 hstart)

theorem trim_of_isTrimmed {cs : List Char} (h : IsTrimmed cs) : trim cs = cs := by
  unfold trim trimEnd trimStart
  rw [dropWhile_of_head? h.head, reverse_dropWhile_of_getLast? h.last]

/-- Nothing is left to trim of what has been trimmed. -/
theorem isTrimmed_trim (cs : List Char) : IsTrimmed (trim cs) := by
  have hhead : ∀ ds : List Char, ∀ c ∈ (ds.dropWhile isBlank).head?, isBlank c = false := by
    intro ds c hc
    have hfirst := List.head?_dropWhile_not isBlank ds
    rwa [hc] at hfirst
  unfold trim trimEnd
  constructor
  · -- what is trimmed off the end leaves the start as it is
    have hstart : (trimStart cs).reverse.dropWhile isBlank <:+ (trimStart cs).reverse :=
      List.dropWhile_suffix _
    obtain ⟨tail, htail⟩ := List.reverse_prefix.2 hstart
    rw [List.reverse_reverse] at htail
    intro c hc
    refine hhead cs c ?_
    show c ∈ (trimStart cs).head?
    rw [← htail, List.head?_append, hc]
    rfl
  · rw [List.getLast?_reverse]
    exact hhead _

theorem isTrimmed_of_trimmed {s : String} (h : trimmed s = s) : IsTrimmed s.toList := by
  have htrim := congrArg String.toList h
  rw [trimmed, String.toList_ofList] at htrim
  exact htrim ▸ isTrimmed_trim s.toList

theorem trimEnd_prefix (text : List Char) : trimEnd text <+: text := by
  rw [← List.reverse_suffix, trimEnd, List.reverse_reverse]
  exact List.dropWhile_suffix _

theorem trimEnd_cons (c : Char) (text : List Char) :
    trimEnd (c :: text) =
      if isBlank c = true ∧ trimEnd text = [] then [] else c :: trimEnd text := by
  unfold trimEnd
  rw [List.reverse_cons, List.dropWhile_append]
  split
  · rename_i hempty
    have hnil := List.isEmpty_iff.1 hempty
    by_cases hblank : isBlank c = true <;> simp [hnil, hblank]
  · rename_i hne
    rw [if_neg fun h => hne (by simpa using h.2), List.reverse_append]
    rfl

/-- A text without white space keeps what is in front of what is trimmed. -/
theorem trimEnd_append {front : List Char} (h : ∀ c ∈ front, isBlank c = false)
    (text : List Char) : trimEnd (front ++ text) = front ++ trimEnd text := by
  induction front with
  | nil => rfl
  | cons c front ih =>
    rw [List.forall_mem_cons] at h
    rw [List.cons_append, trimEnd_cons, ih h.2, if_neg (by simp [h.1]), List.cons_append]

theorem trim_append {front : List Char} (hne : front ≠ []) (h : ∀ c ∈ front, isBlank c = false)
    (text : List Char) : trim (front ++ text) = front ++ trimEnd text := by
  have hstart : trimStart (front ++ text) = front ++ text := by
    refine dropWhile_of_head? fun c hc => h c ?_
    rw [List.head?_append_of_ne_nil _ hne] at hc
    exact List.mem_of_mem_head? hc
  rw [trim, hstart, trimEnd_append h]

/-- Behind a space, a text that is trimmed adds no other white space to the end. -/
theorem getLast?_append_space {cs : List Char} (h : IsTrimmed cs) (front : List Char) :
    ∀ c ∈ (front ++ ' ' :: cs).getLast?, c = ' ' ∨ isBlank c = false := by
  intro c hc
  rw [List.getLast?_append_of_ne_nil _ (List.cons_ne_nil _ _)] at hc
  cases cs with
  | nil =>
    cases hc
    exact .inl rfl
  | cons d cs =>
    rw [List.getLast?_cons_cons] at hc
    exact .inr (h.last c hc)

/-- A text without white space has nothing to trim. -/
theorem trim_of_not_isBlank {cs : List Char} (h : ∀ c ∈ cs, isBlank c = false) : trim cs = cs :=
  trim_of_isTrimmed ⟨fun c hc => h c (List.mem_of_mem_head? hc),
    fun c hc => h c (List.mem_of_mem_getLast? hc)⟩

theorem trimmed_of_not_isBlank {s : String} (h : ∀ c ∈ s.toList, isBlank c = false) :
    trimmed s = s := by
  unfold trimmed
  rw [trim_of_not_isBlank h, String.ofList_toList]

theorem isBlank_of_isDigit {c : Char} (h : c.isDigit = true) : isBlank c = false := by
  obtain ⟨hlow, hhigh⟩ : 48 ≤ c.toNat ∧ c.toNat ≤ 57 := by
    simpa [Char.isDigit, UInt32.le_iff_toNat_le] using h
  unfold isBlank
  simp only [Bool.or_eq_false_iff, Bool.and_eq_false_iff, decide_eq_false_iff_not,
    beq_eq_false_iff_ne]
  omega

/-! ## Marks -/

theorem after_cons_of_not_isPrefix {mark text : List Char} {c : Char} (h : ¬mark <+: c :: text) :
    after mark (c :: text) = after mark text := by
  rw [after]
  split
  · rename_i rest hrest
    exact absurd ⟨rest, (dropStart_eq_some.1 hrest).symm⟩ h
  · rfl

theorem after_append_self {mark : List Char} (h : mark ≠ []) (rest : List Char) :
    after mark (mark ++ rest) = some rest := by
  obtain ⟨c, mark, rfl⟩ := List.exists_cons_of_ne_nil h
  rw [List.cons_append, after, ← List.cons_append, dropStart_append]

/-- A mark is not found in a text in front of it that lacks its first character. -/
theorem after_append_of_not_mem {c : Char} {mark front : List Char} (h : c ∉ front)
    (text : List Char) : after (c :: mark) (front ++ text) = after (c :: mark) text := by
  induction front with
  | nil => rfl
  | cons d front ih =>
    rw [List.mem_cons, not_or] at h
    have hfirst : ¬c :: mark <+: d :: (front ++ text) :=
      fun hprefix => h.1 (List.cons_prefix_cons.1 hprefix).1
    rw [List.cons_append, after_cons_of_not_isPrefix hfirst, ih h.2]

theorem after_eq_none_iff {mark text : List Char} (hmark : mark ≠ []) :
    after mark text = none ↔ ¬mark <:+: text := by
  induction text with
  | nil => simp [after, hmark]
  | cons c text ih =>
    by_cases hprefix : mark <+: c :: text
    · obtain ⟨rest, hrest⟩ := hprefix
      rw [← hrest, after_append_self hmark]
      exact iff_of_false (Option.some_ne_none _) (not_not.2 (List.prefix_append _ _).isInfix)
    · rw [after_cons_of_not_isPrefix hprefix, ih, List.infix_cons_iff, not_or,
        and_iff_right hprefix]

/-- White space at the end of a text moves no mark that holds none. -/
theorem after_trimEnd {mark : List Char} (hmark : mark ≠ [])
    (hblank : ∀ c ∈ mark, isBlank c = false) (text : List Char) :
    after mark (trimEnd text) = (after mark text).map trimEnd := by
  induction text with
  | nil => simp [after, hmark, trimEnd]
  | cons c text ih =>
    by_cases hprefix : mark <+: c :: text
    · obtain ⟨rest, hrest⟩ := hprefix
      rw [← hrest, trimEnd_append hblank, after_append_self hmark, after_append_self hmark,
        Option.map_some]
    · rw [after_cons_of_not_isPrefix hprefix, ← ih, trimEnd_cons]
      split
      · rename_i hempty
        rw [hempty.2]
      · exact after_cons_of_not_isPrefix fun h =>
          hprefix (h.trans (List.cons_prefix_cons.2 ⟨rfl, trimEnd_prefix text⟩))

/-! ## Words -/

section Words

variable {fields : List (List Char)} {separator c : Char}

theorem mem_intercalate {field : List Char} (hfield : field ∈ fields) (hc : c ∈ field) :
    c ∈ [separator].intercalate fields := by
  induction fields with
  | nil => cases hfield
  | cons first fields ih =>
    rcases List.mem_cons.1 hfield with rfl | hfield
    · cases fields with
      | nil => simpa using hc
      | cons next fields => simp [hc]
    · rw [List.intercalate_cons_of_ne_nil (List.ne_nil_of_mem hfield)]
      exact List.mem_append_right _ (ih hfield)

theorem of_mem_intercalate (hc : c ∈ [separator].intercalate fields) :
    c = separator ∨ ∃ field ∈ fields, c ∈ field := by
  induction fields with
  | nil => simp at hc
  | cons first fields ih =>
    by_cases hnil : fields = []
    · subst hnil
      exact .inr ⟨first, List.mem_cons_self, by simpa using hc⟩
    · rw [List.intercalate_cons_of_ne_nil hnil, List.mem_append, List.mem_append,
        List.mem_singleton] at hc
      rcases hc with (hc | hc) | hc
      · exact .inr ⟨first, List.mem_cons_self, hc⟩
      · exact .inl hc
      · obtain hseparator | ⟨field, hfield, hc⟩ := ih hc
        · exact .inl hseparator
        · exact .inr ⟨field, List.mem_cons_of_mem _ hfield, hc⟩

/-- Fields with single spaces between them are the words of the text that they make. -/
theorem words_intercalate (h : ∀ field ∈ fields, field ≠ [] ∧ ∀ c ∈ field, isBlank c = false) :
    words ([' '].intercalate fields) = fields := by
  unfold words
  induction fields with
  | nil => rfl
  | cons first fields ih =>
    obtain ⟨hne, hfirst⟩ := h first List.mem_cons_self
    have hkept : ∀ rest : List (List Char), (first :: rest).filter (fun field => !field.isEmpty) =
        first :: rest.filter fun field => !field.isEmpty :=
      fun rest => List.filter_cons_of_pos (by simpa using hne)
    by_cases hnil : fields = []
    · subst hnil
      rw [List.intercalate_singleton, List.splitOnP_eq_singleton hfirst, hkept,
        List.filter_nil]
    · rw [List.intercalate_cons_of_ne_nil hnil, List.append_assoc, List.singleton_append,
        List.splitOnP_append_cons_of_forall_mem hfirst ' ' rfl, hkept,
        ih fun field hfield => h field (List.mem_cons_of_mem _ hfield)]

end Words

/-! ## Lines -/

theorem feeds_append {line : List Char} (h : '\n' ∉ line) (rest : List Char) :
    feeds (line ++ '\n' :: rest) = (line, true) :: feeds rest := by
  induction line with
  | nil => rfl
  | cons c line ih =>
    rw [List.mem_cons, not_or] at h
    rw [List.cons_append, feeds, ih h.2]
    exact fun heq => h.1 heq.symm

/-- Lines that neither hold a line feed nor end with a carriage return are the lines of the text
that they make. -/
theorem lines_flatMap {α : Type} {text : α → List Char} {items : List α}
    (hfeed : ∀ item ∈ items, '\n' ∉ text item)
    (hreturn : ∀ item ∈ items, (text item).getLast? ≠ some '\r') :
    lines (items.flatMap fun item => text item ++ ['\n']) = items.map text := by
  unfold lines
  induction items with
  | nil => rfl
  | cons item items ih =>
    have hline : ((text item).getLast? == some '\r') = false :=
      beq_eq_false_iff_ne.2 (hreturn item List.mem_cons_self)
    rw [List.flatMap_cons, List.append_assoc, List.singleton_append,
      feeds_append (hfeed item List.mem_cons_self), List.map_cons, List.map_cons,
      ih (fun other hother => hfeed other (List.mem_cons_of_mem _ hother))
        fun other hother => hreturn other (List.mem_cons_of_mem _ hother)]
    simp [hline]

end CrawlGraph.Text
