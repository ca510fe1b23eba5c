import CarbonSurvey.Proofs.Condition.Written

/-! # How conditions are laid out

A comparison is a name, an operator and a literal, with blanks around and between them as one likes, and perhaps a tail
from a second operator on. A text is laid out so in one way at most (`Layout.text_injective`), and it is read as a
comparison exactly when it is laid out so.
-/

namespace CarbonSurvey

namespace Text

/-- Something that is neither empty nor blank at an end, with the blanks on either side of it. -/
@[ext]
structure Padded where
  front : List Char
  content : List Char
  back : List Char
  blanks : ∀ c ∈ front ++ back, isBlank c
  nonempty : content ≠ []
  first_marked : ∀ c ∈ content.head?, isBlank c = false
  last_marked : ∀ c ∈ content.getLast?, isBlank c = false

namespace Padded

def text (padded : Padded) : List Char :=
  padded.front ++ padded.content ++ padded.back

theorem trimStart_text (padded : Padded) : trimStart padded.text = padded.content ++ padded.back := by
  obtain ⟨c, rest, hcontent⟩ := List.exists_cons_of_ne_nil padded.nonempty
  have marked : isBlank c = false := padded.first_marked c (by rw [hcontent]; rfl)
  have blank : ∀ c ∈ padded.front, isBlank c := fun c hc => padded.blanks c (List.mem_append_left _ hc)
  rw [text, List.append_assoc, trimStart_of_blank blank, hcontent]
  exact trimStart_of_not_startsBlank (by simpa [startsBlank] using marked)

theorem trimEnd_content_append_back (padded : Padded) : trimEnd (padded.content ++ padded.back) = padded.content := by
  have last := List.dropLast_append_getLast padded.nonempty
  have marked : isBlank (padded.content.getLast padded.nonempty) = false :=
    padded.last_marked _ (List.getLast?_eq_some_getLast padded.nonempty)
  have blank : trimEnd padded.back = [] :=
    trimEnd_eq_nil_iff.2 fun c hc => padded.blanks c (List.mem_append_right _ hc)
  rw [← last, List.append_assoc, List.singleton_append, trimEnd_append_cons marked, blank]

theorem trim_text (padded : Padded) : trim padded.text = padded.content := by
  rw [trim, trimStart_text, trimEnd_content_append_back]

theorem text_injective : Function.Injective text := by
  intro left right same
  have content : left.content = right.content := by
    rw [← trim_text, ← trim_text, same]
  have kept : left.content ++ left.back = right.content ++ right.back := by
    rw [← trimStart_text, ← trimStart_text, same]
  have front : left.front ++ (left.content ++ left.back) = right.front ++ (right.content ++ right.back) := by
    rw [← List.append_assoc, ← List.append_assoc]
    exact same
  rw [kept] at front
  rw [content] at kept
  exact Padded.ext (List.append_cancel_right front) content (List.append_cancel_left kept)

/-- A text is blank, or it is something with blanks on either side. -/
theorem exists_of_trim_ne_nil {whole : List Char} (h : trim whole ≠ []) : ∃ padded : Padded, padded.text = whole := by
  have start : whole.takeWhile isBlank ++ trimStart whole = whole := List.takeWhile_append_dropWhile
  have ending : trim whole ++ (trimStart whole).rtakeWhile isBlank = trimStart whole :=
    List.rdropWhile_append_rtakeWhile
  have unblank := startsBlank_trim whole
  refine ⟨⟨whole.takeWhile isBlank, trim whole, (trimStart whole).rtakeWhile isBlank, ?_, h, ?_, ?_⟩, ?_⟩
  · intro c hc
    rcases List.mem_append.1 hc with hfront | hback
    · exact List.mem_takeWhile_imp hfront
    · exact List.mem_rtakeWhile_imp hback
  · intro c hc
    simpa [startsBlank, Option.mem_def.1 hc] using unblank
  · intro c hc
    obtain ⟨_, rfl⟩ := List.mem_getLast?_eq_getLast hc
    exact Bool.eq_false_iff.2 (List.rdropWhile_last_not isBlank (trimStart whole) h)
  · rw [text, List.append_assoc, ending, start]

theorem content_subset_text (padded : Padded) : padded.content ⊆ padded.text := by
  intro c hc
  exact List.mem_append_left _ (List.mem_append_right _ hc)

end Padded

end Text

namespace Condition

open Text

variable {whole : List Char} {c : Char}

theorem isPlain_of_isBlank (h : isBlank c) : isPlain c := by
  by_contra marked
  obtain ⟨op, rfl⟩ := exists_token (by simpa using marked)
  rw [isBlank_token] at h
  cases h

/-- A text is plain when it has no operator in it. -/
theorem forall_isPlain_iff : (∀ c ∈ whole, isPlain c) ↔ ∀ op : Operator, op.token ∉ whole := by
  constructor
  · intro plain op hmem
    have marked := plain op.token hmem
    rw [isPlain_token] at marked
    cases marked
  · intro absent c hc
    by_contra marked
    obtain ⟨op, rfl⟩ := exists_token (by simpa using marked)
    exact absent op hc

/-- A comparison as it is laid out in a text: a name and a literal without operators, each with blanks on either side,
    the operator between them, and perhaps a tail that starts with an operator. -/
@[ext]
structure Layout where
  reference : Padded
  op : Operator
  literal : Padded
  tail : List Char
  unmarked : ∀ op : Operator, op.token ∉ reference.content ++ literal.content
  cut : tail = [] ∨ ∃ (next : Operator) (rest : List Char), tail = next.token :: rest

namespace Layout

def text (layout : Layout) : List Char :=
  layout.reference.text ++ layout.op.token :: (layout.literal.text ++ layout.tail)

/-- The comparison that is laid out. -/
def condition (layout : Layout) : Condition :=
  ⟨.ofList layout.reference.content, some (layout.op, .ofLiteral layout.literal.content)⟩

theorem isPlain_padded {padded : Padded} (h : ∀ c ∈ padded.content, isPlain c) : ∀ c ∈ padded.text, isPlain c := by
  intro c hc
  rw [Padded.text, List.mem_append, List.mem_append] at hc
  rcases hc with (hfront | hcontent) | hback
  · exact isPlain_of_isBlank (padded.blanks c (List.mem_append_left _ hfront))
  · exact h c hcontent
  · exact isPlain_of_isBlank (padded.blanks c (List.mem_append_right _ hback))

theorem isPlain_reference (layout : Layout) : ∀ c ∈ layout.reference.text, isPlain c :=
  isPlain_padded fun c hc => forall_isPlain_iff.2 layout.unmarked c (List.mem_append_left _ hc)

theorem isPlain_literal (layout : Layout) : ∀ c ∈ layout.literal.text, isPlain c :=
  isPlain_padded fun c hc => forall_isPlain_iff.2 layout.unmarked c (List.mem_append_right _ hc)

/-- What follows the operator is plain up to the tail. -/
theorem takeWhile_literal (layout : Layout) :
    (layout.literal.text ++ layout.tail).takeWhile isPlain = layout.literal.text := by
  rcases layout.cut with hnil | ⟨next, rest, htail⟩
  · rw [hnil, List.append_nil, List.takeWhile_eq_self_iff.2 layout.isPlain_literal]
  · rw [htail, takeWhile_isPlain_append layout.isPlain_literal]

theorem parseChars?_text (layout : Layout) : parseChars? (trim layout.text) = some layout.condition := by
  rw [text, parseChars?_trim_append layout.isPlain_reference, takeWhile_literal, Padded.trim_text,
    Padded.trim_text, compared?_eq_some_iff]
  exact ⟨layout.reference.nonempty, layout.literal.nonempty, rfl⟩

theorem text_injective : Function.Injective text := by
  intro left right same
  have before : left.reference.text = right.reference.text := by
    have parts := congrArg (List.takeWhile isPlain) same
    rwa [text, text, takeWhile_isPlain_append left.isPlain_reference,
      takeWhile_isPlain_append right.isPlain_reference] at parts
  unfold text at same
  rw [before, List.append_cancel_left_eq, List.cons.injEq] at same
  obtain ⟨mark, after⟩ := same
  have literal : left.literal.text = right.literal.text := by
    rw [← takeWhile_literal left, after, takeWhile_literal]
  have op : left.op = right.op := by
    have spelled := Operator.ofChar?_token left.op
    rw [mark, Operator.ofChar?_token] at spelled
    exact (Option.some.inj spelled).symm
  rw [literal, List.append_cancel_left_eq] at after
  exact Layout.ext (Padded.text_injective before) op (Padded.text_injective literal) after

/-- What is left of a text after its plain part starts with an operator. -/
theorem cut_dropWhile (after : List Char) : after.dropWhile isPlain = [] ∨
    ∃ (next : Operator) (rest : List Char), after.dropWhile isPlain = next.token :: rest := by
  have first := List.head?_dropWhile_not isPlain after
  cases hdrop : after.dropWhile isPlain with
  | nil => exact .inl rfl
  | cons mark rest =>
      rw [hdrop] at first
      obtain ⟨next, rfl⟩ := exists_token (by simpa using first)
      exact .inr ⟨next, rest, rfl⟩

/-- A text that is read as a comparison is laid out as one. -/
theorem exists_of_parseChars? {reference : String} {comparison : Operator × Operand}
    (read : parseChars? (trim whole) = some ⟨reference, some comparison⟩) :
    ∃ layout : Layout, layout.text = whole ∧ layout.condition = ⟨reference, some comparison⟩ := by
  rcases plain_or_exists_token whole with plain | ⟨before, op, after, rfl, plain⟩
  · rw [parseChars?_trim_of_plain plain] at read
    split at read <;> simp at read
  · rw [parseChars?_trim_append plain, compared?_eq_some_iff] at read
    obtain ⟨hreference, hliteral, read⟩ := read
    obtain ⟨name, rfl⟩ := Padded.exists_of_trim_ne_nil hreference
    obtain ⟨literal, hliteral⟩ := Padded.exists_of_trim_ne_nil hliteral
    have plain_literal : ∀ c ∈ literal.text, isPlain c := by
      rw [hliteral]
      exact List.all_eq_true.1 List.all_takeWhile
    have unmarked : ∀ op : Operator, op.token ∉ name.content ++ literal.content := by
      refine forall_isPlain_iff.1 (List.forall_mem_append.2 ⟨fun c hc => ?_, fun c hc => ?_⟩)
      · exact plain c (name.content_subset_text hc)
      · exact plain_literal c (literal.content_subset_text hc)
    have parts : literal.text ++ after.dropWhile isPlain = after := by
      rw [hliteral, List.takeWhile_append_dropWhile]
    refine ⟨⟨name, op, literal, after.dropWhile isPlain, unmarked, cut_dropWhile after⟩, ?_, ?_⟩
    · exact congrArg (name.text ++ op.token :: ·) parts
    · rw [read, ← hliteral, Padded.trim_text, Padded.trim_text]
      rfl

end Layout

theorem parseChars?_eq_bare_iff {reference : String} : parseChars? (trim whole) = some ⟨reference, none⟩ ↔
    (∀ op : Operator, op.token ∉ whole) ∧ reference = .ofList (trim whole) ∧ trim whole ≠ [] := by
  rcases plain_or_exists_token whole with plain | ⟨before, op, after, rfl, plain⟩
  · rw [parseChars?_trim_of_plain plain]
    split
    · next blank => simp [blank]
    · next marked =>
      simp only [Option.some.injEq, Condition.mk.injEq, and_true]
      exact ⟨fun same => ⟨forall_isPlain_iff.1 plain, same.symm, marked⟩, fun h => h.2.1.symm⟩
  · rw [parseChars?_trim_append plain, compared?_eq_some_iff]
    constructor
    · rintro ⟨-, -, same⟩
      cases same
    · rintro ⟨unmarked, -⟩
      exact absurd (by simp) (unmarked op)

theorem parseChars?_eq_compared_iff {reference : String} {op : Operator} {literal : Operand} :
    parseChars? (trim whole) = some ⟨reference, some (op, literal)⟩ ↔
      ∃ layout : Layout, layout.text = whole ∧ reference = .ofList layout.reference.content ∧ op = layout.op ∧
        literal = .ofLiteral layout.literal.content := by
  constructor
  · intro read
    obtain ⟨layout, hwhole, same⟩ := Layout.exists_of_parseChars? read
    obtain ⟨⟩ := same
    exact ⟨layout, hwhole, rfl, rfl, rfl⟩
  · rintro ⟨layout, rfl, rfl, rfl, rfl⟩
    exact layout.parseChars?_text

theorem ofLiteral_eq_number_iff {literal : List Char} {value : Float} :
    Operand.ofLiteral literal = .number value ↔ Decimal.finite? literal = some value := by
  unfold Operand.ofLiteral
  split <;> simp [*]

theorem ofLiteral_eq_text_iff {literal : List Char} {words : String} :
    Operand.ofLiteral literal = .text words ↔ Decimal.finite? literal = none ∧ words = .ofList literal := by
  unfold Operand.ofLiteral
  split <;> simp [*, eq_comm]

/-- A text that is neither a name alone nor laid out as a comparison is no condition. -/
theorem parseChars?_eq_none_iff : parseChars? (trim whole) = none ↔
    ¬ ((∀ op : Operator, op.token ∉ whole) ∧ trim whole ≠ []) ∧ ¬ ∃ layout : Layout, layout.text = whole := by
  constructor
  · intro unread
    constructor
    · rintro ⟨unmarked, marked⟩
      rw [parseChars?_eq_bare_iff.2 ⟨unmarked, rfl, marked⟩] at unread
      cases unread
    · rintro ⟨layout, rfl⟩
      rw [layout.parseChars?_text] at unread
      cases unread
  · rintro ⟨not_bare, not_laid_out⟩
    cases read : parseChars? (trim whole) with
    | none => rfl
    | some condition =>
        obtain ⟨reference, _ | ⟨op, literal⟩⟩ := condition
        · obtain ⟨unmarked, -, marked⟩ := parseChars?_eq_bare_iff.1 read
          exact absurd ⟨unmarked, marked⟩ not_bare
        · obtain ⟨layout, laid_out, -⟩ := parseChars?_eq_compared_iff.1 read
          exact absurd ⟨layout, laid_out⟩ not_laid_out

/-- Conditions are read by their grammar and by nothing else. A text without operators is the name that is left when
    its blanks are taken off, if any is left. A text is a comparison exactly when it is laid out as one, which it can be
    in one way only, and then it is the comparison of the name with the literal, whatever the blanks around them and
    the tail. A literal is a number where it spells a finite one, and else a text. No other text is a condition. -/
theorem parse_follows_grammar (text : String) :
    (∀ reference, parse? text = some ⟨reference, none⟩ ↔
      (∀ op : Operator, op.token ∉ text.toList) ∧ reference = .ofList (trim text.toList) ∧ reference ≠ "") ∧
    (∀ reference op literal, parse? text = some ⟨reference, some (op, literal)⟩ ↔
      ∃ layout : Layout, layout.text = text.toList ∧ reference = .ofList layout.reference.content ∧
        op = layout.op ∧ literal = .ofLiteral layout.literal.content) ∧
    Function.Injective Layout.text ∧
    (∀ literal,
      (∀ value, Operand.ofLiteral literal = .number value ↔ Decimal.finite? literal = some value) ∧
      (∀ words, Operand.ofLiteral literal = .text words ↔
        Decimal.finite? literal = none ∧ words = .ofList literal)) ∧
    (parse? text = none ↔
      ¬ ((∀ op : Operator, op.token ∉ text.toList) ∧ trim text.toList ≠ []) ∧
      ¬ ∃ layout : Layout, layout.text = text.toList) ∧
    ∀ layout : Layout, parse? (.ofList layout.text) =
      some ⟨.ofList layout.reference.content, some (layout.op, .ofLiteral layout.literal.content)⟩ := by
  have bare (reference : String) : parse? text = some ⟨reference, none⟩ ↔
      (∀ op : Operator, op.token ∉ text.toList) ∧ reference = .ofList (trim text.toList) ∧ reference ≠ "" := by
    rw [parse?, parseChars?_eq_bare_iff]
    refine and_congr_right fun _ => and_congr_right fun same => ?_
    rw [same, ne_eq, ne_eq, String.ofList_eq_empty_iff]
  refine ⟨bare, fun reference op literal => parseChars?_eq_compared_iff, Layout.text_injective,
    fun literal => ⟨fun value => ofLiteral_eq_number_iff, fun words => ofLiteral_eq_text_iff⟩,
    parseChars?_eq_none_iff, fun layout => ?_⟩
  rw [parse?, String.toList_ofList]
  exact layout.parseChars?_text

/-- Any blanks will do, and a second operator is where the tail starts. -/
example : parse? "\u2003a . b\t<\n3 = c" = some ⟨"a . b", some (.less, .number 3)⟩ := by
  decide +kernel

end Condition

end CarbonSurvey
