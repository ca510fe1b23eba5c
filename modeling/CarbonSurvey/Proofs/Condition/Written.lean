import CarbonSurvey.Condition
import CarbonSurvey.Proofs.DottedName.Segments
import CarbonSurvey.Proofs.Decimal.Spelling

/-! # Comparisons as they are written

The name of a rule completes a whole text, operator and literal included, segment by segment. So the
segments of a text are kept apart here at the first operator, and what is read from them is said in
terms of them.
-/

namespace CarbonSurvey.Condition

open Text DottedName

variable {text before after : List Char} {op : Operator} {c : Char}

@[simp]
theorem isPlain_token (op : Operator) : isPlain op.token = false := by
  cases op <;> rfl

@[simp]
theorem isBlank_token (op : Operator) : isBlank op.token = false := by
  cases op <;> decide

theorem isPlain_separator : ∀ c ∈ separator, isPlain c :=
  List.all_eq_true.1 (by decide)

/-- No segment has an operator in it. -/
def ArePlain (segments : List (List Char)) : Prop :=
  ∀ segment ∈ segments, ∀ c ∈ segment, isPlain c

theorem arePlain_of_all {segments : List (List Char)} (h : segments.all (List.all · isPlain)) :
    ArePlain segments :=
  fun segment hsegment => List.all_eq_true.1 (List.all_eq_true.1 h segment hsegment)

theorem isPlain_join {segments : List (List Char)} (h : ArePlain segments) :
    ∀ c ∈ join segments, isPlain c := by
  intro c hc
  rcases mem_of_mem_join hc with hseparator | ⟨segment, hsegment, hc⟩
  · exact isPlain_separator c hseparator
  · exact h segment hsegment c hc

theorem arePlain_split (h : ∀ c ∈ text, isPlain c) : ArePlain (split text) :=
  fun _ hsegment c hc => h c (mem_of_mem_split hsegment hc)

theorem exists_token (h : isPlain c = false) : ∃ op : Operator, op.token = c := by
  simp only [isPlain, Option.isNone_eq_false_iff, Option.isSome_iff_exists] at h
  obtain ⟨op, hop⟩ := h
  refine ⟨op, ?_⟩
  unfold Operator.ofChar? at hop
  split at hop <;> cases hop <;> rfl

theorem takeWhile_isPlain_append (plain : ∀ c ∈ before, isPlain c) :
    (before ++ op.token :: after).takeWhile isPlain = before := by
  rw [List.takeWhile_append_of_pos plain, List.takeWhile_cons_of_neg (by simp), List.append_nil]

theorem dropWhile_isPlain_append (plain : ∀ c ∈ before, isPlain c) :
    (before ++ op.token :: after).dropWhile isPlain = op.token :: after := by
  rw [List.dropWhile_append_of_pos plain, List.dropWhile_cons_of_neg (by simp)]

/-- A text is plain, or an operator ends its plain part. -/
theorem plain_or_exists_token (text : List Char) : (∀ c ∈ text, isPlain c) ∨
    ∃ (before : List Char) (op : Operator) (after : List Char),
      text = before ++ op.token :: after ∧ ∀ c ∈ before, isPlain c := by
  have plain : ∀ c ∈ text.takeWhile isPlain, isPlain c := List.all_eq_true.1 List.all_takeWhile
  have parts := List.takeWhile_append_dropWhile (p := isPlain) (l := text)
  have first := List.head?_dropWhile_not isPlain text
  cases hdrop : text.dropWhile isPlain with
  | nil =>
      rw [hdrop, List.append_nil] at parts
      exact .inl (parts ▸ plain)
  | cons mark after =>
      rw [hdrop] at first parts
      obtain ⟨op, rfl⟩ := exists_token (by simpa using first)
      exact .inr ⟨_, op, after, parts.symm, plain⟩

/-- Blanks at the end of a text do not show in its plain part. -/
theorem trim_takeWhile_trimEnd (text : List Char) :
    trim ((trimEnd text).takeWhile isPlain) = trim (text.takeWhile isPlain) := by
  rcases plain_or_exists_token text with plain | ⟨before, op, after, rfl, plain⟩
  · have shorter : ∀ c ∈ trimEnd text, isPlain c :=
      fun c hc => plain c ((trimEnd_isPrefixOf text).subset hc)
    rw [List.takeWhile_eq_self_iff.2 plain, List.takeWhile_eq_self_iff.2 shorter, trim_trimEnd]
  · rw [trimEnd_append_cons (isBlank_token op), takeWhile_isPlain_append plain,
      takeWhile_isPlain_append plain]

/-- A text is read at its first operator, whatever blanks surround it. -/
theorem parseChars?_trim_append (plain : ∀ c ∈ before, isPlain c) :
    parseChars? (trim (before ++ op.token :: after)) =
      compared? (trim before) op (trim (after.takeWhile isPlain)) := by
  have shorter : ∀ c ∈ trimStart before, isPlain c :=
    fun c hc => plain c ((List.dropWhile_suffix isBlank).subset hc)
  have trimmed : trim (before ++ op.token :: after) = trimStart before ++ op.token :: trimEnd after := by
    rw [trim, trimStart_append_cons (isBlank_token op), trimEnd_append_cons (isBlank_token op)]
  rw [trimmed, parseChars?, dropWhile_isPlain_append shorter, takeWhile_isPlain_append shorter]
  simp only [Operator.ofChar?_token, Option.bind_some, trim_trimStart, trim_takeWhile_trimEnd]

theorem parseChars?_trim_of_plain (plain : ∀ c ∈ text, isPlain c) :
    parseChars? (trim text) = if trim text = [] then none else some ⟨.ofList (trim text), none⟩ := by
  have shorter : ∀ c ∈ trim text, isPlain c := by
    intro c hc
    exact plain c ((List.dropWhile_suffix isBlank).subset ((trimEnd_isPrefixOf _).subset hc))
  rw [parseChars?, List.dropWhile_eq_nil_iff.2 shorter, List.takeWhile_eq_self_iff.2 shorter]

theorem compared?_eq_some_iff {reference literal : List Char} {condition : Condition} :
    compared? reference op literal = some condition ↔ reference ≠ [] ∧ literal ≠ [] ∧
      condition = ⟨.ofList reference, some (op, .ofLiteral literal)⟩ := by
  unfold compared?
  split
  · next missing =>
    rcases missing with rfl | rfl <;> simp
  · next present =>
    rw [not_or] at present
    rw [Option.some.injEq, eq_comm]
    exact ⟨fun h => ⟨present.1, present.2, h⟩, fun h => h.2.2⟩

/-- A comparison as it stands in a text: the segments that enclose the name it compares, the last
    segment of that name with the operator and what follows it, and the segments after that. -/
structure Written where
  outer : List (List Char)
  last : List Char
  op : Operator
  first : List Char
  later : List (List Char)
  plain : ArePlain (outer ++ [last])

namespace Written

/-- The segment with the operator. -/
def middle (written : Written) : List Char :=
  written.last ++ written.op.token :: written.first

def segments (written : Written) : List (List Char) :=
  written.outer ++ written.middle :: written.later

def reference (written : Written) : List Char :=
  join (written.outer ++ [written.last])

/-- The literal, which the next operator ends. -/
def literal (written : Written) : List Char :=
  (join (written.first :: written.later)).takeWhile isPlain

def condition? (written : Written) : Option Condition :=
  compared? (trim written.reference) written.op (trim written.literal)

theorem join_segments (written : Written) : join written.segments =
    written.reference ++ written.op.token :: join (written.first :: written.later) := by
  have joined : join (written.middle :: written.later) =
      written.last ++ written.op.token :: join (written.first :: written.later) := by
    rw [middle, join_append_first, ← List.singleton_append (l := written.first), join_append_first]
    rfl
  unfold segments reference
  by_cases houter : written.outer = []
  · rw [houter, List.nil_append, List.nil_append, join_singleton, joined]
  · rw [join_append houter (List.cons_ne_nil _ _), join_append houter (List.cons_ne_nil _ _), joined,
      join_singleton]
    simp only [List.append_assoc]

/-- What is read from a text with these segments. -/
theorem parseChars?_join (written : Written) :
    parseChars? (trim (join written.segments)) = written.condition? := by
  have plain : ∀ c ∈ written.reference, isPlain c := isPlain_join written.plain
  rw [join_segments, parseChars?_trim_append plain]
  rfl

theorem exists_of_segments {segments : List (List Char)} (h : ¬ ArePlain segments) :
    ∃ written : Written, written.segments = segments := by
  induction segments with
  | nil => exact absurd nofun h
  | cons segment rest ih =>
      rcases plain_or_exists_token segment with plain | ⟨last, op, first, rfl, plain⟩
      · have hrest : ¬ ArePlain rest :=
          fun hrest => h (List.forall_mem_cons.2 ⟨plain, hrest⟩)
        obtain ⟨written, rfl⟩ := ih hrest
        refine ⟨{ written with outer := segment :: written.outer, plain := ?_ }, rfl⟩
        exact List.forall_mem_cons.2 ⟨plain, written.plain⟩
      · exact ⟨⟨[], last, op, first, rest, List.forall_mem_cons.2 ⟨plain, nofun⟩⟩, rfl⟩

end Written

/-- An accepted text is a name alone, or a comparison with its segments. -/
theorem plain_or_written {text : String} {condition : Condition} (h : parse? text = some condition) :
    ((∀ c ∈ text.toList, isPlain c) ∧ trim text.toList ≠ [] ∧
      condition = ⟨.ofList (trim text.toList), none⟩) ∨
    ∃ written : Written, written.segments = DottedName.segments text ∧
      written.condition? = some condition := by
  by_cases plain : ArePlain (DottedName.segments text)
  · have plain_text : ∀ c ∈ text.toList, isPlain c := by
      rw [← join_split text.toList]
      exact isPlain_join plain
    rw [parse?, parseChars?_trim_of_plain plain_text] at h
    split at h
    · exact nomatch h
    · next marked => exact .inl ⟨plain_text, marked, (Option.some.inj h).symm⟩
  · obtain ⟨written, hwritten⟩ := Written.exists_of_segments plain
    refine .inr ⟨written, hwritten, ?_⟩
    rw [← written.parseChars?_join, hwritten, DottedName.segments, join_split]
    exact h

/-! ## Literals -/

/-- No number has a separator in it, nor is the point of one a number. -/
theorem finite?_trim_separator (left right : List Char) :
    Decimal.finite? (trim (left ++ separator ++ right)) = none := by
  have space : ¬ Decimal.Numeral.IsMark ' ' := by
    unfold Decimal.Numeral.IsMark
    decide
  have parts : left ++ separator ++ right = (left ++ [' ']) ++ '.' :: ' ' :: right := by
    simp [separator]
  rw [parts, trim, trimStart_append_cons isBlank_point, trimEnd_append_cons isBlank_point]
  by_cases hleft : ∃ c ∈ left, isBlank c = false
  · obtain ⟨c, hmem, marked⟩ := hleft
    obtain ⟨before, after, rfl⟩ := List.append_of_mem hmem
    refine Decimal.finite?_eq_none (List.mem_append_left _ ?_) space
    rw [List.append_assoc, List.cons_append, trimStart_append_cons marked]
    simp
  · have blank : ∀ c ∈ left, isBlank c := by simpa using hleft
    by_cases hright : ∃ c ∈ right, isBlank c = false
    · refine Decimal.finite?_eq_none (List.mem_append_right _ (List.mem_cons_of_mem _ ?_)) space
      rw [← List.singleton_append, trimEnd_append hright]
      exact List.mem_append_left _ List.mem_cons_self
    · have blank_right : ∀ c ∈ right, isBlank c := by simpa using hright
      rw [trimStart_of_blank blank, trimEnd_cons_of_blank isBlank_space blank_right]
      decide

theorem ofLiteral_eq_iff {left right : List Char} (h : Decimal.finite? right = none) :
    Operand.ofLiteral left = .ofLiteral right ↔ left = right := by
  constructor
  · intro same
    unfold Operand.ofLiteral at same
    rw [h] at same
    split at same
    · exact nomatch same
    · exact String.ofList_injective (Operand.text.inj same)
  · rintro rfl
    rfl

namespace Written

variable {short long : Written}

theorem literal_of_plain {written : Written} (plain : ∀ c ∈ written.first, isPlain c)
    (hlater : written.later ≠ []) :
    written.literal = written.first ++ separator ++ (join written.later).takeWhile isPlain := by
  have plain_front : ∀ c ∈ written.first ++ separator, isPlain c :=
    List.forall_mem_append.2 ⟨plain, isPlain_separator⟩
  rw [literal, join_cons _ hlater, List.takeWhile_append_of_pos plain_front]

/-- Where segments of a literal are left out, the operand is the same only if its text is. -/
theorem ofLiteral_literal_iff (hfirst : short.first = long.first)
    (hlater : short.later.Sublist long.later) :
    Operand.ofLiteral (trim short.literal) = .ofLiteral (trim long.literal) ↔
      trim short.literal = trim long.literal := by
  rcases plain_or_exists_token long.first with plain | ⟨before, op, after, hsecond, plain⟩
  · by_cases later_nil : long.later = []
    · have short_nil : short.later = [] := List.sublist_nil.1 (later_nil ▸ hlater)
      simp only [literal, hfirst, short_nil, later_nil]
    · refine ofLiteral_eq_iff ?_
      rw [literal_of_plain plain later_nil]
      exact finite?_trim_separator _ _
  -- a second operator ends both literals within the same segment
  · have ends (later : List (List Char)) :
        (join (long.first :: later)).takeWhile isPlain = before := by
      rw [hsecond, join_append_first, ← List.singleton_append (l := after), join_append_first]
      exact takeWhile_isPlain_append plain
    simp only [literal, hfirst, ends]

end Written

end CarbonSurvey.Condition
