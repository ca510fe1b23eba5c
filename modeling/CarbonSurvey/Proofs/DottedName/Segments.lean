import CarbonSurvey.DottedName
import CarbonSurvey.Proofs.Text.Trim

/-! # Segments

Joining undoes splitting. Splitting undoes joining for the segments of a text, and still does when
the last of them loses its end, which is how the name in front of an operator comes by its segments.
-/

namespace CarbonSurvey.DottedName

open Text

variable {text segment : List Char} {before after : List (List Char)}

theorem join_singleton (segment : List Char) : join [segment] = segment :=
  List.intercalate_singleton

theorem join_cons (segment : List Char) (h : after ≠ []) :
    join (segment :: after) = segment ++ separator ++ join after :=
  List.intercalate_cons_of_ne_nil h

@[simp]
theorem join_consFirst (c : Char) (segments : List (List Char)) :
    join (consFirst c segments) = c :: join segments := by
  cases segments with
  | nil => simp [consFirst, join]
  | cons segment rest => simp [consFirst, join]

theorem join_append (hbefore : before ≠ []) (hafter : after ≠ []) :
    join (before ++ after) = join before ++ separator ++ join after := by
  induction before with
  | nil => exact absurd rfl hbefore
  | cons segment rest ih =>
      rw [List.cons_append, join_cons segment (by simp [hafter])]
      cases rest with
      | nil => rw [List.nil_append, join_singleton]
      | cons second rest =>
          rw [ih (by simp), join_cons segment (by simp)]
          simp only [List.append_assoc]

theorem join_append_first (left right : List Char) (after : List (List Char)) :
    join ((left ++ right) :: after) = left ++ join (right :: after) := by
  cases after with
  | nil => rw [join_singleton, join_singleton]
  | cons next after => simp only [join_cons _ (List.cons_ne_nil next after), List.append_assoc]

theorem mem_join_of_mem {segments : List (List Char)} {c : Char} (hsegment : segment ∈ segments)
    (hc : c ∈ segment) : c ∈ join segments := by
  induction segments with
  | nil => exact nomatch hsegment
  | cons first rest ih =>
      rw [← List.append_nil first, join_append_first, List.mem_append]
      rcases List.mem_cons.1 hsegment with rfl | hrest
      · exact .inl hc
      · rw [join_cons [] (List.ne_nil_of_mem hrest), List.mem_append]
        exact .inr (.inr (ih hrest))

theorem mem_of_mem_join {segments : List (List Char)} {c : Char} (h : c ∈ join segments) :
    c ∈ separator ∨ ∃ segment ∈ segments, c ∈ segment := by
  induction segments with
  | nil => exact nomatch h
  | cons first rest ih =>
      cases rest with
      | nil => exact .inr ⟨first, List.mem_cons_self, by simpa [join_singleton] using h⟩
      | cons next rest =>
          rw [join_cons first (List.cons_ne_nil next rest), List.mem_append, List.mem_append] at h
          rcases h with (h | h) | h
          · exact .inr ⟨first, List.mem_cons_self, h⟩
          · exact .inl h
          · rcases ih h with hseparator | ⟨segment, hsegment, hc⟩
            · exact .inl hseparator
            · exact .inr ⟨segment, List.mem_cons_of_mem _ hsegment, hc⟩

theorem join_split (text : List Char) : join (split text) = text := by
  fun_induction split text with
  | case1 => rfl
  | case2 rest ih =>
      rw [join_cons [] (split_ne_nil rest), ih]
      rfl
  | case3 c rest _ ih => rw [join_consFirst, ih]

theorem mem_of_mem_split {c : Char} (hsegment : segment ∈ split text) (hc : c ∈ segment) : c ∈ text := by
  rw [← join_split text]
  exact mem_join_of_mem hsegment hc

theorem split_separator (rest : List Char) : split (separator ++ rest) = [] :: split rest := by
  simp [separator, split]

theorem split_cons {c : Char} {rest : List Char} (h : ¬ separator <+: c :: rest) :
    split (c :: rest) = consFirst c (split rest) := by
  rw [split]
  rintro after rfl rfl
  exact h ⟨after, rfl⟩

/-- A text is empty, or starts with a separator, or its first character goes in front of the first segment of
    the others. -/
theorem split_induction {motive : List Char → Prop} (empty : motive [])
    (cut : ∀ rest, motive rest → motive (separator ++ rest))
    (longer : ∀ c rest first others, ¬ separator <+: c :: rest → split rest = first :: others →
      split (c :: rest) = (c :: first) :: others → motive rest → motive (c :: rest))
    (text : List Char) : motive text := by
  induction text using split.induct with
  | case1 => exact empty
  | case2 rest ih => exact cut rest ih
  | case3 c rest hseparator ih =>
      have inside : ¬ separator <+: c :: rest := by
        rintro ⟨rest, hrest⟩
        obtain ⟨rfl, rfl⟩ := List.cons.inj hrest
        exact hseparator rest rfl rfl
      obtain ⟨first, others, hsplit⟩ := List.exists_cons_of_ne_nil (split_ne_nil rest)
      exact longer c rest first others inside hsplit (by rw [split_cons inside, hsplit, consFirst]) ih

theorem join_take_isPrefixOf (before : List (List Char)) (segment rest : List Char)
    (after : List (List Char)) :
    join (before ++ [segment]) <+: join (before ++ (segment ++ rest) :: after) := by
  induction before with
  | nil =>
      rw [List.nil_append, List.nil_append, join_singleton]
      cases after with
      | nil => exact ⟨rest, (join_singleton _).symm⟩
      | cons next after =>
          rw [join_cons _ (by simp)]
          exact ⟨rest ++ separator ++ join (next :: after), by simp only [List.append_assoc]⟩
  | cons first before ih =>
      obtain ⟨left, hleft⟩ := ih
      refine ⟨left, ?_⟩
      rw [List.cons_append, List.cons_append, join_cons first (by simp), join_cons first (by simp),
        ← hleft]
      simp only [List.append_assoc]

/-- The segments of a text up to some place are those of the text, the last one up to that place. -/
theorem split_join_take {rest : List Char} (h : split text = before ++ (segment ++ rest) :: after) :
    split (join (before ++ [segment])) = before ++ [segment] := by
  induction text using split_induction generalizing before segment with
  | empty =>
      have only : before = [] ∧ segment = [] := by
        cases before <;> simp_all [split]
      rw [only.1, only.2]
      rfl
  | cut tail ih =>
      rw [split_separator] at h
      cases before with
      | nil =>
          have empty : segment = [] := by
            simp_all
          rw [empty]
          rfl
      | cons first before =>
          rw [List.cons_append, List.cons.injEq] at h
          obtain ⟨rfl, h⟩ := h
          rw [List.cons_append, join_cons [] (by simp), List.nil_append, split_separator, ih h]
  | longer c tail first segments inside htail hsplit ih =>
      -- the place is not within a separator, as none starts at `c`
      have front : join (before ++ [segment]) <+: c :: tail := by
        rw [← join_split (c :: tail), h]
        exact join_take_isPrefixOf before segment rest after
      rw [hsplit] at h
      cases before with
      | nil =>
          cases segment with
          | nil => rfl
          | cons c' segment =>
              simp only [List.nil_append, List.cons_append, List.cons.injEq] at h
              obtain ⟨⟨rfl, rfl⟩, rfl⟩ := h
              have tail_segments : split (join ([] ++ [segment])) = [] ++ [segment] := ih htail
              rw [List.nil_append, join_singleton] at tail_segments front ⊢
              rw [split_cons fun hsep => inside (hsep.trans front), tail_segments, consFirst]
      | cons first' before =>
          rw [List.cons_append, List.cons.injEq] at h
          obtain ⟨rfl, rfl⟩ := h
          have tail_segments :
              split (join (first :: before ++ [segment])) = first :: before ++ [segment] := ih htail
          have joined :
              join ((c :: first) :: before ++ [segment]) = c :: join (first :: before ++ [segment]) :=
            join_consFirst c (first :: before ++ [segment])
          rw [joined] at front ⊢
          rw [split_cons fun hsep => inside (hsep.trans front), tail_segments]
          rfl

/-! ## Blanks and segments -/

theorem trimEnd_join (before : List (List Char)) (h : ∃ c ∈ segment, isBlank c = false) :
    trimEnd (join (before ++ [segment])) = join (before ++ [trimEnd segment]) := by
  by_cases hbefore : before = []
  · rw [hbefore, List.nil_append, List.nil_append, join_singleton, join_singleton]
  · rw [join_append hbefore (List.cons_ne_nil _ _), join_append hbefore (List.cons_ne_nil _ _),
      join_singleton, join_singleton, trimEnd_append h]

theorem trim_join_of_tidy {segments : List (List Char)} (hfront : startsBlank (join segments) = false)
    (tidy : ∀ segment ∈ segments, segment ≠ [] ∧ trimEnd segment = segment) :
    trim (join segments) = join segments := by
  rw [trim_of_not_startsBlank hfront]
  rcases List.eq_nil_or_concat segments with rfl | ⟨before, segment, rfl⟩
  · rfl
  · rw [List.concat_eq_append] at tidy ⊢
    obtain ⟨hne, ends⟩ := tidy segment (List.mem_append_right _ List.mem_cons_self)
    have marked : ∃ c ∈ segment, isBlank c = false := by
      by_contra blank
      refine hne (ends.symm.trans (trimEnd_eq_nil_iff.2 ?_))
      simpa using blank
    rw [trimEnd_join before marked, ends]

theorem ink_join_first (segment : List Char) (after : List (List Char)) :
    ink (join (segment :: after)) = ink segment + ink (join ([] :: after)) := by
  rw [← ink_append, ← join_append_first, List.append_nil]

theorem ink_join_nil_cons (segment : List Char) (after : List (List Char)) :
    ink (join ([] :: segment :: after)) = 1 + ink segment + ink (join ([] :: after)) := by
  have point : ink separator = 1 := by decide
  rw [join_cons [] (List.cons_ne_nil segment after), List.nil_append, ink_append, point,
    ink_join_first segment after, Nat.add_assoc]

theorem ink_join_sublist {left right : List (List Char)} (h : left.Sublist right) :
    ink (join ([] :: left)) + right.length ≤ ink (join ([] :: right)) + left.length := by
  induction h with
  | slnil => exact Nat.le_refl _
  | cons next _ ih =>
      rw [ink_join_nil_cons, List.length_cons]
      omega
  | cons_cons next _ ih =>
      rw [ink_join_nil_cons, ink_join_nil_cons, List.length_cons, List.length_cons]
      omega

/-- No segment can be left out without taking its separator along. -/
theorem eq_of_trim_join_eq {left right : List (List Char)} (h : left.Sublist right)
    (same : trim (join (segment :: left)) = trim (join (segment :: right))) : left = right := by
  have same_ink := congrArg ink same
  rw [ink_trim, ink_trim, ink_join_first segment left, ink_join_first segment right] at same_ink
  have bound := ink_join_sublist h
  exact h.eq_of_length_le (by omega)

/-! ## How names start -/

/-- The first of some segments starts with a character that is not blank. -/
def StartsMarked (segments : List (List Char)) : Prop :=
  ∃ c rest, segments.head? = some (c :: rest) ∧ isBlank c = false

namespace StartsMarked

variable {left right : List (List Char)}

theorem of_head?_eq (h : StartsMarked left) (same : left.head? = right.head?) : StartsMarked right := by
  obtain ⟨c, rest, hhead, marked⟩ := h
  exact ⟨c, rest, same ▸ hhead, marked⟩

theorem append (h : StartsMarked left) (right : List (List Char)) : StartsMarked (left ++ right) := by
  obtain ⟨c, rest, hhead, marked⟩ := h
  exact ⟨c, rest, by rw [List.head?_append, hhead, Option.some_or], marked⟩

theorem exists_join (h : StartsMarked left) : ∃ c rest, join left = c :: rest ∧ isBlank c = false := by
  obtain ⟨c, rest, hhead, marked⟩ := h
  obtain ⟨tail, rfl⟩ := List.head?_eq_some_iff.1 hhead
  exact ⟨c, join (rest :: tail), List.intercalate_cons_cons_left, marked⟩

theorem not_startsBlank_join (h : StartsMarked left) : startsBlank (join left) = false := by
  obtain ⟨c, rest, hjoin, marked⟩ := h.exists_join
  simp [hjoin, startsBlank, marked]

end StartsMarked

theorem startsMarked_split (hne : text ≠ []) (h : startsBlank text = false) :
    StartsMarked (split text) := by
  obtain ⟨c, rest, rfl⟩ := List.exists_cons_of_ne_nil hne
  have marked : isBlank c = false := by simpa [startsBlank] using h
  have inside : ¬ separator <+: c :: rest := by
    rintro ⟨tail, htail⟩
    obtain ⟨rfl, -⟩ := List.cons.inj htail
    exact absurd isBlank_space (by simp [marked])
  obtain ⟨first, segments, hrest⟩ := List.exists_cons_of_ne_nil (split_ne_nil rest)
  rw [split_cons inside, hrest]
  exact ⟨c, first, rfl, marked⟩

/-! ## What merging keeps -/

/-- The segments that enclose a name. -/
def enclosing (name : String) : List (List Char) :=
  (segments name).dropLast

theorem enclosing_startsMarked {name : String} (h : startsBlank name.toList = false) :
    enclosing name = [] ∨ StartsMarked (enclosing name) := by
  unfold enclosing segments
  by_cases hne : name.toList = []
  · rw [hne]
    exact .inl rfl
  · obtain ⟨c, first, hhead, marked⟩ := startsMarked_split hne h
    obtain ⟨rest, hsplit⟩ := List.head?_eq_some_iff.1 hhead
    rw [hsplit]
    cases rest with
    | nil => exact .inl rfl
    | cons second rest => exact .inr ⟨c, first, rfl, marked⟩

theorem startsMarked_enclosing {name : String} {segments : List (List Char)}
    (hname : startsBlank name.toList = false) (h : StartsMarked segments) :
    StartsMarked (enclosing name ++ segments) := by
  rcases enclosing_startsMarked hname with alone | enclosed
  · rw [alone, List.nil_append]
    exact h
  · exact enclosed.append _

theorem toList_merge (root suffix : String) :
    (merge root suffix).toList = join (enclosing root ++ segments suffix).eraseDups := by
  simp only [merge, enclosing, String.toList_ofList]

theorem merge_ne_nil {root suffix : String} (h : StartsMarked (segments suffix)) :
    (merge root suffix).toList ≠ [] := by
  obtain ⟨c, rest, hhead, -⟩ := h
  have kept : c :: rest ∈ (enclosing root ++ segments suffix).eraseDups := by
    rw [List.mem_eraseDups]
    exact List.mem_append_right _ (List.mem_of_mem_head? hhead)
  rw [toList_merge]
  exact List.ne_nil_of_mem (mem_join_of_mem kept List.mem_cons_self)

section eraseDups

variable {α : Type} [BEq α] {rows others : List α}

theorem eraseDups_sublist (rows : List α) : rows.eraseDups.Sublist rows := by
  match rows with
  | [] => exact .slnil
  | row :: rest =>
      rw [List.eraseDups_cons]
      have shorter := List.length_filter_le (fun other => !other == row) rest
      exact ((eraseDups_sublist _).trans List.filter_sublist).cons_cons row
termination_by rows.length

theorem eraseDups_eq_self_iff [LawfulBEq α] : rows.eraseDups = rows ↔ rows.Nodup := by
  induction rows with
  | nil => simp
  | cons row rest ih =>
      rw [List.eraseDups_cons, List.nodup_cons, List.cons.injEq, ← ih]
      constructor
      · rintro ⟨-, h⟩
        have kept : rest.filter (fun other => !other == row) = rest := by
          refine List.filter_sublist.eq_of_length_le ?_
          conv_lhs => rw [← h]
          exact (eraseDups_sublist _).length_le
        rw [kept] at h
        refine ⟨fun hmem => ?_, h⟩
        have differs := List.filter_eq_self.1 kept row hmem
        simp at differs
      · rintro ⟨absent, h⟩
        have kept : rest.filter (fun other => !other == row) = rest := by
          refine List.filter_eq_self.2 fun other hmem => ?_
          have differs : other ≠ row := fun same => absent (same ▸ hmem)
          simpa using differs
        rw [kept]
        exact ⟨rfl, h⟩

/-- Merging keeps the later segments as they are when none of them is there already. -/
theorem eraseDups_removeAll_eq_self_iff [LawfulBEq α] :
    (rows.removeAll others).eraseDups = rows ↔ rows.Nodup ∧ ∀ row ∈ rows, row ∉ others := by
  have kept_iff : rows.removeAll others = rows ↔ ∀ row ∈ rows, row ∉ others := by
    simp [List.removeAll, List.filter_eq_self]
  constructor
  · intro h
    have kept : rows.removeAll others = rows := by
      refine List.filter_sublist.eq_of_length_le ?_
      conv_lhs => rw [← h]
      exact (eraseDups_sublist _).length_le
    rw [kept] at h
    exact ⟨eraseDups_eq_self_iff.1 h, kept_iff.1 kept⟩
  · rintro ⟨distinct, outside⟩
    rw [kept_iff.2 outside, eraseDups_eq_self_iff.2 distinct]

theorem eraseDups_append_of_mem [LawfulBEq α] {row : α} (h : row ∈ rows) :
    (rows ++ [row]).eraseDups = rows.eraseDups := by
  have dropped : [row].removeAll rows = [] := by
    simp [List.removeAll, h]
  rw [List.eraseDups_append, dropped, List.eraseDups_nil, List.append_nil]

theorem eraseDups_append_of_not_mem [LawfulBEq α] {row : α} (h : row ∉ rows) :
    (rows ++ [row]).eraseDups = rows.eraseDups ++ [row] := by
  have kept : [row].removeAll rows = [row] := by
    simp [List.removeAll, h]
  rw [List.eraseDups_append, kept, List.eraseDups_cons, List.filter_nil, List.eraseDups_nil]

theorem head?_eraseDups_append (rows others : List α) :
    (rows.eraseDups ++ others).head? = (rows ++ others).head? := by
  cases rows with
  | nil => rfl
  | cons row rest =>
      rw [List.eraseDups_cons, List.cons_append, List.cons_append, List.head?_cons, List.head?_cons]

end eraseDups

theorem StartsMarked.eraseDups {segments : List (List Char)} (h : StartsMarked segments) :
    StartsMarked segments.eraseDups := by
  refine h.of_head?_eq ?_
  have same := head?_eraseDups_append segments []
  rw [List.append_nil, List.append_nil] at same
  exact same.symm

end CarbonSurvey.DottedName
