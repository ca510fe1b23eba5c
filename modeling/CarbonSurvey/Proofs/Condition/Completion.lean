import CarbonSurvey.Proofs.Condition.Written

/-! # Conditions completed with the name of a rule

A rule completes the texts of its conditions with its own name, and it does so before the operator is
found. The segment with the operator is never taken for one that is there already, even where the
name it ends is, and the segments of the literal are. The theorem at the end says when the condition
that comes out is the one whose name is completed, and that blanks in front of a text prevent it.
-/

namespace CarbonSurvey.Condition

open Text DottedName

theorem arePlain_enclosing {name : String} (plain : ∀ c ∈ name.toList, isPlain c) :
    ArePlain (enclosing name) :=
  fun segment hsegment => arePlain_split plain segment (List.dropLast_subset _ hsegment)

namespace Written

variable {written : Written} {name : String}

/-- A comparison once the segments that enclose a name enclose it, and those that are there already are
    left out. -/
def completed (written : Written) {name : String} (plain : ∀ c ∈ name.toList, isPlain c) : Written :=
  { written with
    outer := (enclosing name ++ written.outer).eraseDups
    later := (written.later.removeAll (enclosing name ++ written.outer ++ [written.middle])).eraseDups
    plain := by
      intro segment hsegment
      rw [List.mem_append, List.mem_eraseDups, List.mem_append] at hsegment
      rcases hsegment with (hsegment | hsegment) | hsegment
      · exact arePlain_enclosing plain segment hsegment
      · exact written.plain segment (List.mem_append_left _ hsegment)
      · exact written.plain segment (List.mem_append_right _ hsegment) }

theorem reference_completed (plain : ∀ c ∈ name.toList, isPlain c) :
    (written.completed plain).reference =
      join ((enclosing name ++ written.outer).eraseDups ++ [written.last]) := rfl

theorem later_completed_sublist (plain : ∀ c ∈ name.toList, isPlain c) :
    (written.completed plain).later.Sublist written.later :=
  (eraseDups_sublist _).trans List.filter_sublist

theorem middle_not_plain (written : Written) : ¬ ∀ c ∈ written.middle, isPlain c := by
  intro plain
  have marked := plain written.op.token (by simp [middle])
  simp at marked

/-- The segment with the operator is new wherever it stands. -/
theorem middle_not_mem (plain : ∀ c ∈ name.toList, isPlain c) :
    written.middle ∉ enclosing name ++ written.outer := by
  intro hmem
  refine written.middle_not_plain ?_
  rcases List.mem_append.1 hmem with hmem | hmem
  · exact arePlain_enclosing plain _ hmem
  · exact written.plain _ (List.mem_append_left _ hmem)

theorem eraseDups_segments (written : Written) (plain : ∀ c ∈ name.toList, isPlain c) :
    (enclosing name ++ written.segments).eraseDups = (written.completed plain).segments := by
  have parts : enclosing name ++ written.segments =
      enclosing name ++ written.outer ++ [written.middle] ++ written.later := by
    simp only [segments, List.append_assoc, List.singleton_append]
  rw [parts, List.eraseDups_append, eraseDups_append_of_not_mem (middle_not_mem plain),
    List.append_assoc, List.singleton_append]
  rfl

end Written

theorem parse?_of_segments {text : String} {written : Written}
    (hwritten : written.segments = segments text) : parse? text = written.condition? := by
  rw [parse?, ← written.parseChars?_join, hwritten, segments, join_split]

/-- What is read from a comparison once it is completed. -/
theorem parse?_merge {name text : String} {written : Written} (plain : ∀ c ∈ name.toList, isPlain c)
    (hwritten : written.segments = segments text) :
    parse? (merge name text) = (written.completed plain).condition? := by
  rw [parse?, toList_merge, ← hwritten, written.eraseDups_segments plain, Written.parseChars?_join]

theorem condition?_eq_some_iff {written : Written} {condition : Condition} :
    written.condition? = some condition ↔ trim written.reference ≠ [] ∧ trim written.literal ≠ [] ∧
      condition = ⟨.ofList (trim written.reference),
        some (written.op, .ofLiteral (trim written.literal))⟩ :=
  compared?_eq_some_iff

theorem startsMarked_reference {text : List Char} (h : trim text ≠ []) :
    StartsMarked (segments (.ofList (trim text))) := by
  rw [segments, String.toList_ofList]
  exact startsMarked_split h (startsBlank_trim text)

/-- A completed comparison is the one whose name is completed when name and literal both are as they
    should be. -/
theorem parse?_merge_iff {name text reference : String} {comparison : Option (Operator × Operand)}
    {written : Written} (plain : ∀ c ∈ name.toList, isPlain c)
    (hwritten : written.segments = segments text)
    (read : parse? text = some ⟨reference, comparison⟩) :
    parse? (merge name text) = some ⟨merge name reference, comparison⟩ ↔
      trim (written.completed plain).reference = (merge name reference).toList ∧
        trim (written.completed plain).literal = trim written.literal := by
  rw [parse?_of_segments hwritten, condition?_eq_some_iff, Condition.mk.injEq] at read
  obtain ⟨marked, literal_marked, rfl, rfl⟩ := read
  have same_literal : Operand.ofLiteral (trim written.literal) =
        .ofLiteral (trim (written.completed plain).literal) ↔
      trim (written.completed plain).literal = trim written.literal := by
    rw [eq_comm]
    exact Written.ofLiteral_literal_iff rfl (Written.later_completed_sublist plain)
  rw [parse?_merge plain hwritten, condition?_eq_some_iff, Condition.mk.injEq, Option.some.injEq,
    Prod.mk.injEq, same_literal]
  constructor
  · rintro ⟨-, -, hreference, -, hliteral⟩
    exact ⟨by rw [hreference, String.toList_ofList], hliteral⟩
  · rintro ⟨hreference, hliteral⟩
    refine ⟨?_, hliteral ▸ literal_marked, ?_, rfl, hliteral⟩
    · rw [hreference]
      exact merge_ne_nil (startsMarked_reference marked)
    · rw [hreference, String.ofList_toList]

/-! ## Texts without odd blanks -/

section cut

variable {name : String} {text last rest : List Char} {outer later : List (List Char)}

/-- A name that ends within a segment, taken for itself, has that segment without blanks at its end. -/
theorem split_trim_join (cut : split text = outer ++ (last ++ rest) :: later)
    (hlast : ∃ c ∈ last, isBlank c = false) (starts : StartsMarked (outer ++ [last])) :
    split (trim (join (outer ++ [last]))) = outer ++ [trimEnd last] := by
  obtain ⟨blanks, hblanks⟩ := trimEnd_isPrefixOf last
  rw [← hblanks, List.append_assoc] at cut
  rw [trim_of_not_startsBlank starts.not_startsBlank_join, trimEnd_join _ hlast]
  exact split_join_take cut

theorem startsMarked_kept (hname : startsBlank name.toList = false)
    (starts : StartsMarked (outer ++ [last])) :
    StartsMarked ((enclosing name ++ outer).eraseDups ++ [last]) := by
  refine (startsMarked_enclosing hname starts).of_head?_eq ?_
  rw [head?_eraseDups_append, List.append_assoc]

/-- Where the last segment is kept for what stands after it, the name that comes out is the completed
    one unless that segment was there already. -/
theorem trim_join_enclosing_iff (hname : startsBlank name.toList = false)
    (cut : split text = outer ++ (last ++ rest) :: later) (hlast : ∃ c ∈ last, isBlank c = false)
    (starts : StartsMarked (outer ++ [last])) :
    trim (join ((enclosing name ++ outer).eraseDups ++ [last])) =
        (merge name (.ofList (trim (join (outer ++ [last]))))).toList ↔
      trimEnd last ∉ enclosing name ++ outer := by
  have unblank := (startsMarked_kept hname starts).not_startsBlank_join
  rw [trim_of_not_startsBlank unblank, trimEnd_join _ hlast, toList_merge, segments,
    String.toList_ofList, split_trim_join cut hlast starts, ← List.append_assoc]
  by_cases known : trimEnd last ∈ enclosing name ++ outer
  · have enclosed : (enclosing name ++ outer).eraseDups ≠ [] :=
      List.ne_nil_of_mem (List.mem_eraseDups.2 known)
    rw [eraseDups_append_of_mem known, join_append enclosed (List.cons_ne_nil _ _)]
    simp [known, separator]
  · rw [eraseDups_append_of_not_mem known]
    exact iff_of_true rfl known

end cut

namespace Written

variable {written : Written} {name : String}

theorem startsMarked_names (hlast : ∃ c ∈ written.last, isBlank c = false)
    (h : StartsMarked written.segments) : StartsMarked (written.outer ++ [written.last]) := by
  obtain ⟨c, rest, hhead, marked⟩ := h
  unfold segments at hhead
  cases houter : written.outer with
  | nil =>
      obtain ⟨x, last, hx⟩ := List.exists_cons_of_ne_nil (List.ne_nil_of_mem hlast.choose_spec.1)
      rw [houter, List.nil_append, List.head?_cons, middle, hx, List.cons_append, Option.some.injEq,
        List.cons.injEq] at hhead
      obtain ⟨rfl, -⟩ := hhead
      exact ⟨x, last, by rw [List.nil_append, List.head?_cons, hx], marked⟩
  | cons first outer =>
      rw [houter, List.cons_append, List.head?_cons] at hhead
      exact ⟨c, rest, hhead, marked⟩

theorem literal_completed_iff (plain : ∀ c ∈ name.toList, isPlain c)
    (single : ArePlain (written.first :: written.later)) :
    trim (written.completed plain).literal = trim written.literal ↔
      written.later.Nodup ∧ ∀ segment ∈ written.later, segment ∉ enclosing name ++ written.outer := by
  have plain_literal {later : List (List Char)} (h : later.Sublist written.later) :
      (join (written.first :: later)).takeWhile isPlain = join (written.first :: later) :=
    List.takeWhile_eq_self_iff.2 (isPlain_join fun segment hsegment =>
      single segment ((h.cons_cons _).subset hsegment))
  have other : ∀ segment ∈ written.later, segment ≠ written.middle := by
    rintro segment hsegment rfl
    exact written.middle_not_plain (single _ (List.mem_cons_of_mem _ hsegment))
  have shorter := written.later_completed_sublist plain
  have kept_iff : trim (written.completed plain).literal = trim written.literal ↔
      (written.completed plain).later = written.later := by
    have literal_eq : (written.completed plain).literal =
        join (written.first :: (written.completed plain).later) := plain_literal shorter
    rw [literal_eq, literal, plain_literal (List.Sublist.refl _)]
    constructor
    · exact eq_of_trim_join_eq shorter
    · intro same
      rw [same]
  rw [kept_iff, completed, eraseDups_removeAll_eq_self_iff]
  refine and_congr_right fun _ => forall₂_congr fun segment hsegment => ?_
  simp [other segment hsegment]

end Written

/-- With no blanks in front and with one operator, it depends on which segments are there already. -/
theorem parse?_merge_iff_of_tidy {name text reference : String}
    {comparison : Option (Operator × Operand)} {written : Written}
    (plain : ∀ c ∈ name.toList, isPlain c) (hwritten : written.segments = segments text)
    (read : parse? text = some ⟨reference, comparison⟩)
    (hname : startsBlank name.toList = false) (htext : startsBlank text.toList = false)
    (hlast : ∃ c ∈ written.last, isBlank c = false)
    (single : ArePlain (written.first :: written.later)) :
    parse? (merge name text) = some ⟨merge name reference, comparison⟩ ↔
      trimEnd written.last ∉ enclosing name ++ written.outer ∧ written.later.Nodup ∧
        ∀ segment ∈ written.later, segment ∉ enclosing name ++ written.outer := by
  rw [parse?_merge_iff plain hwritten read, Written.literal_completed_iff plain single]
  refine and_congr_left fun _ => ?_
  rw [parse?_of_segments hwritten, condition?_eq_some_iff, Condition.mk.injEq] at read
  obtain ⟨marked, -, rfl, -⟩ := read
  have starts : StartsMarked (written.outer ++ [written.last]) := by
    refine Written.startsMarked_names hlast ?_
    rw [hwritten]
    refine startsMarked_split (fun hnil => ?_) htext
    rw [segments, hnil, split] at hwritten
    simp [Written.segments, Written.middle, List.append_eq_singleton_iff] at hwritten
  exact trim_join_enclosing_iff hname hwritten.symm hlast starts

theorem parse?_merge_iff_of_plain {name text : String} (plain : ∀ c ∈ name.toList, isPlain c)
    (plain_text : ∀ c ∈ text.toList, isPlain c) (marked : trim text.toList ≠ []) :
    parse? (merge name text) = some ⟨merge name (.ofList (trim text.toList)), none⟩ ↔
      trim (merge name text).toList = (merge name (.ofList (trim text.toList))).toList := by
  have plain_merged : ∀ c ∈ (merge name text).toList, isPlain c := by
    rw [toList_merge]
    refine isPlain_join fun segment hsegment => ?_
    rcases List.mem_append.1 (List.mem_eraseDups.1 hsegment) with hsegment | hsegment
    · exact arePlain_enclosing plain segment hsegment
    · exact arePlain_split plain_text segment hsegment
  have named : (merge name (.ofList (trim text.toList))).toList ≠ [] :=
    merge_ne_nil (startsMarked_reference marked)
  rw [parse?, parseChars?_trim_of_plain plain_merged]
  split
  · next blank =>
    rw [blank]
    simpa using named.symm
  · rw [Option.some.injEq, Condition.mk.injEq]
    constructor
    · rintro ⟨same, -⟩
      rw [← same, String.toList_ofList]
    · intro same
      rw [same, String.ofList_toList]
      exact ⟨rfl, rfl⟩

/-- A name alone is completed as it should be, unless blanks after it hide that its last segment is
    there already. -/
theorem trim_merge_iff_of_tidy {name text : String} {outer : List (List Char)} {last : List Char}
    (hsegments : segments text = outer ++ [last]) (hname : startsBlank name.toList = false)
    (htext : startsBlank text.toList = false) (hlast : ∃ c ∈ last, isBlank c = false)
    (tidy : ∀ segment ∈ enclosing name ++ outer, segment ≠ [] ∧ trimEnd segment = segment) :
    trim (merge name text).toList = (merge name (.ofList (trim text.toList))).toList ↔
      (trimEnd last ∈ enclosing name ++ outer → trimEnd last = last) := by
  have joined : text.toList = join (outer ++ [last]) := by
    rw [← hsegments, segments, join_split]
  have marked : text.toList ≠ [] := by
    obtain ⟨c, hmem, -⟩ := hlast
    rw [joined]
    exact List.ne_nil_of_mem (mem_join_of_mem (List.mem_append_right _ List.mem_cons_self) hmem)
  have starts : StartsMarked (outer ++ [last]) := by
    rw [← hsegments]
    exact startsMarked_split marked htext
  by_cases ends : trimEnd last = last
  · have trimmed : trim text.toList = text.toList := by
      rw [trim_of_not_startsBlank htext, joined, trimEnd_join _ hlast, ends]
    have tidy_all : ∀ segment ∈ enclosing name ++ outer ++ [last],
        segment ≠ [] ∧ trimEnd segment = segment := by
      refine List.forall_mem_append.2 ⟨tidy, List.forall_mem_singleton.2 ⟨?_, ends⟩⟩
      exact List.ne_nil_of_mem hlast.choose_spec.1
    rw [trimmed, String.ofList_toList]
    refine iff_of_true ?_ fun _ => ends
    rw [toList_merge, hsegments, ← List.append_assoc]
    have starts_merged := (startsMarked_enclosing hname starts).eraseDups
    rw [← List.append_assoc] at starts_merged
    exact trim_join_of_tidy starts_merged.not_startsBlank_join fun segment hsegment =>
      tidy_all segment (List.mem_eraseDups.1 hsegment)
  · have fresh : last ∉ enclosing name ++ outer := fun hmem => ends (tidy last hmem).2
    have cut : split text.toList = outer ++ (last ++ []) :: [] := by
      rw [List.append_nil]
      exact hsegments
    have merged : (merge name text).toList = join ((enclosing name ++ outer).eraseDups ++ [last]) := by
      rw [toList_merge, hsegments, ← List.append_assoc, eraseDups_append_of_not_mem fresh]
    rw [merged, joined, trim_join_enclosing_iff hname cut hlast starts]
    simp only [ends, imp_false]

/-! ## Texts with blanks in front -/

/-- A blank after a separator stays where it is, unlike the blanks around a name. -/
theorem trim_separator_ne {front back rest : List Char} {c : Char} (hne : front ≠ [])
    (hfront : startsBlank front = false) (hback : back = [] ∨ startsBlank back)
    (marked : isBlank c = false) : trim (front ++ separator ++ back) ≠ front ∧
      trim (front ++ separator ++ back) ≠ front ++ separator ++ c :: rest := by
  have trimmed : trim (front ++ separator ++ back) = front ++ ' ' :: '.' :: trimEnd (' ' :: back) := by
    have unblank : startsBlank (front ++ separator ++ back) = false := by
      obtain ⟨x, front, rfl⟩ := List.exists_cons_of_ne_nil hne
      exact hfront
    have parts : front ++ separator ++ back = (front ++ [' ']) ++ '.' :: ' ' :: back := by
      simp [separator]
    rw [trim_of_not_startsBlank unblank, parts, trimEnd_append_cons isBlank_point]
    simp only [List.append_assoc, List.singleton_append]
  rw [trimmed]
  refine ⟨by simp, fun same => ?_⟩
  rw [List.append_assoc, List.append_cancel_left_eq] at same
  have ends : trimEnd (' ' :: back) = ' ' :: c :: rest := by simpa [separator] using same
  obtain ⟨blanks, hblanks⟩ := trimEnd_isPrefixOf (' ' :: back)
  rw [ends, List.cons_append, List.cons.injEq] at hblanks
  obtain ⟨-, rfl⟩ := hblanks
  rcases hback with hnil | blank
  · exact List.cons_ne_nil c _ hnil
  · simp [startsBlank, marked] at blank

theorem startsBlank_join_first {text first : List Char} {rest : List (List Char)}
    (htext : startsBlank text) (hsplit : split text = first :: rest) (after : List (List Char)) :
    join (first :: after) = [] ∨ startsBlank (join (first :: after)) := by
  cases first with
  | nil =>
      cases after with
      | nil => exact .inl rfl
      | cons next after =>
          rw [join_cons [] (List.cons_ne_nil next after)]
          exact .inr isBlank_space
  | cons c first =>
      have joined := join_split text
      rw [hsplit] at joined
      have starts (after : List (List Char)) :
          join ((c :: first) :: after) = c :: join (first :: after) :=
        join_append_first [c] first after
      rw [← joined, starts] at htext
      rw [starts]
      exact .inr htext

/-- The name that is read starts with the enclosing segments and a blank after them. -/
theorem trim_merged_ne {name reference : String} {back : List (List Char)}
    (hname : startsBlank name.toList = false) (henclosed : enclosing name ≠ [])
    (hback : join back = [] ∨ startsBlank (join back)) (back_ne : back ≠ [])
    (tidy : ∀ segment ∈ segments reference, segment ≠ [] ∧ startsBlank segment = false) :
    trim (join ((enclosing name).eraseDups ++ back)) ≠ (merge name reference).toList := by
  obtain ⟨first, rest, henclosing⟩ := List.exists_cons_of_ne_nil henclosed
  have front_ne : (enclosing name).eraseDups ≠ [] := by
    rw [henclosing, List.eraseDups_cons]
    exact List.cons_ne_nil _ _
  have starts : StartsMarked (enclosing name).eraseDups :=
    ((enclosing_startsMarked hname).resolve_left henclosed).eraseDups
  obtain ⟨x, front, hfront, -⟩ := starts.exists_join
  have joined_ne : join (enclosing name).eraseDups ≠ [] := by
    rw [hfront]
    exact List.cons_ne_nil x front
  have differs (c : Char) (rest : List Char) (marked : isBlank c = false) :=
    @trim_separator_ne _ (join back) rest c joined_ne starts.not_startsBlank_join hback marked
  rw [join_append front_ne back_ne, toList_merge, List.eraseDups_append]
  cases hkept : ((segments reference).removeAll (enclosing name)).eraseDups with
  | nil =>
      rw [List.append_nil]
      exact (differs 'x' [] (by decide)).1
  | cons kept others =>
      have hmem : kept ∈ segments reference := by
        have listed : kept ∈ ((segments reference).removeAll (enclosing name)).eraseDups := by
          rw [hkept]
          exact List.mem_cons_self
        exact List.filter_sublist.subset (List.mem_eraseDups.1 listed)
      obtain ⟨kept_ne, unblank⟩ := tidy kept hmem
      obtain ⟨c, kept, rfl⟩ := List.exists_cons_of_ne_nil kept_ne
      have marked : isBlank c = false := by simpa [startsBlank] using unblank
      have joined : join ((c :: kept) :: others) = c :: join (kept :: others) :=
        join_append_first [c] kept others
      rw [join_append front_ne (List.cons_ne_nil _ _), joined]
      exact (differs c _ marked).2

theorem parse?_merge_ne_of_startsBlank {name text reference : String}
    {comparison : Option (Operator × Operand)} (plain : ∀ c ∈ name.toList, isPlain c)
    (read : parse? text = some ⟨reference, comparison⟩) (hname : startsBlank name.toList = false)
    (henclosed : enclosing name ≠ []) (htext : startsBlank text.toList)
    (hfirst : ∀ first ∈ (segments text).head?, first ∉ enclosing name)
    (tidy : ∀ segment ∈ segments reference, segment ≠ [] ∧ startsBlank segment = false) :
    parse? (merge name text) ≠ some ⟨merge name reference, comparison⟩ := by
  obtain ⟨first, rest, hsplit⟩ := List.exists_cons_of_ne_nil (split_ne_nil text.toList)
  have fresh : first ∉ enclosing name := hfirst first (by rw [segments, hsplit, List.head?_cons]; rfl)
  -- the first segment is new, so it comes right after the enclosing ones
  have kept (others : List (List Char)) : ∃ after,
      (enclosing name ++ first :: others).eraseDups = (enclosing name).eraseDups ++ first :: after := by
    rw [List.eraseDups_append, List.cons_removeAll, if_pos (by simpa using fresh), List.eraseDups_cons]
    exact ⟨_, rfl⟩
  intro merged
  rcases plain_or_written read with ⟨plain_text, marked, hread⟩ | ⟨written, hwritten, -⟩
  · obtain ⟨rfl, rfl⟩ := Condition.mk.inj hread
    have same := (parse?_merge_iff_of_plain plain plain_text marked).1 merged
    obtain ⟨after, hafter⟩ := kept rest
    rw [toList_merge name text, segments, hsplit, hafter] at same
    exact trim_merged_ne hname henclosed (startsBlank_join_first htext hsplit after)
      (List.cons_ne_nil _ _) tidy same
  · have same := ((parse?_merge_iff plain hwritten read).1 merged).1
    rw [Written.reference_completed] at same
    rw [segments, hsplit, Written.segments] at hwritten
    cases houter : written.outer with
    | nil =>
        rw [houter, List.append_nil] at same
        rw [houter, List.nil_append, List.cons.injEq] at hwritten
        refine trim_merged_ne hname henclosed ?_ (List.cons_ne_nil _ _) tidy same
        cases hlast : written.last with
        | nil => exact .inl rfl
        | cons c last =>
            have starts := startsBlank_join_first htext hsplit []
            rw [← hwritten.1, join_singleton, Written.middle, hlast] at starts
            rw [join_singleton]
            exact .inr (starts.resolve_left (List.cons_ne_nil _ _))
    | cons outer others =>
        rw [houter, List.cons_append, List.cons.injEq] at hwritten
        obtain ⟨after, hafter⟩ := kept others
        rw [houter, hwritten.1, hafter, List.append_assoc, List.cons_append] at same
        exact trim_merged_ne hname henclosed (startsBlank_join_first htext hsplit _)
          (List.cons_ne_nil _ _) tidy same

/-! ## When a completed condition is as it should be -/

/-- A condition that a rule completes is read as the same comparison of the completed name exactly when
    the blanks around its parts and the segments that are there already allow it. A name alone only
    fails where a blank after it hides that its last segment is one that encloses it. In a comparison
    without odd blanks, the last segment of the name must not be one that encloses it, and no segment of
    the literal one that comes before it. A text with a blank in front never fits a rule that is
    enclosed, unless the blank makes a segment that is there already or starts another one, too. -/
theorem merge_keeps_condition_iff {name text reference : String}
    {comparison : Option (Operator × Operand)} (plain : ∀ c ∈ name.toList, isPlain c)
    (read : parse? text = some ⟨reference, comparison⟩) :
    (comparison = none →
      (parse? (merge name text) = some ⟨merge name reference, comparison⟩ ↔
        trim (merge name text).toList = (merge name reference).toList) ∧
      ∀ outer last, segments text = outer ++ [last] → startsBlank name.toList = false →
        startsBlank text.toList = false → (∃ c ∈ last, isBlank c = false) →
        (∀ segment ∈ enclosing name ++ outer, segment ≠ [] ∧ trimEnd segment = segment) →
        (parse? (merge name text) = some ⟨merge name reference, comparison⟩ ↔
          (trimEnd last ∈ enclosing name ++ outer → trimEnd last = last))) ∧
    (comparison ≠ none → ∃ written : Written, written.segments = segments text) ∧
    (∀ written : Written, written.segments = segments text →
      (parse? (merge name text) = some ⟨merge name reference, comparison⟩ ↔
        trim (written.completed plain).reference = (merge name reference).toList ∧
          trim (written.completed plain).literal = trim written.literal) ∧
      (startsBlank name.toList = false → startsBlank text.toList = false →
        (∃ c ∈ written.last, isBlank c = false) →
        ArePlain (written.first :: written.later) →
        (parse? (merge name text) = some ⟨merge name reference, comparison⟩ ↔
          trimEnd written.last ∉ enclosing name ++ written.outer ∧ written.later.Nodup ∧
            ∀ segment ∈ written.later, segment ∉ enclosing name ++ written.outer))) ∧
    (startsBlank name.toList = false → enclosing name ≠ [] → startsBlank text.toList →
      (∀ first ∈ (segments text).head?, first ∉ enclosing name) →
      (∀ segment ∈ segments reference, segment ≠ [] ∧ startsBlank segment = false) →
      parse? (merge name text) ≠ some ⟨merge name reference, comparison⟩) := by
  refine ⟨?_, ?_, fun written hwritten => ⟨?_, ?_⟩, ?_⟩
  · rintro rfl
    rcases plain_or_written read with ⟨plain_text, marked, hread⟩ | ⟨written, -, hread⟩
    · obtain ⟨rfl, -⟩ := Condition.mk.inj hread
      have whole := parse?_merge_iff_of_plain plain plain_text marked
      refine ⟨whole, fun outer last hsegments hname htext hlast tidy => ?_⟩
      exact whole.trans (trim_merge_iff_of_tidy hsegments hname htext hlast tidy)
    · have compared := (condition?_eq_some_iff.1 hread).2.2
      simp at compared
  · intro compared
    rcases plain_or_written read with ⟨-, -, hread⟩ | ⟨written, hwritten, -⟩
    · exact absurd (Condition.mk.inj hread).2 compared
    · exact ⟨written, hwritten⟩
  · exact parse?_merge_iff plain hwritten read
  · exact parse?_merge_iff_of_tidy plain hwritten read
  · exact parse?_merge_ne_of_startsBlank plain read

/-- A name within the enclosing ones can be compared, the enclosing name itself cannot. -/
theorem merge_keeps_enclosed_name :
    (∀ c ∈ "transport . voiture . km".toList, isPlain c) ∧
    parse? "voiture . vitesse > 30" = some ⟨"voiture . vitesse", some (.greater, .number 30)⟩ ∧
    parse? (merge "transport . voiture . km" "voiture . vitesse > 30") =
      some ⟨merge "transport . voiture . km" "voiture . vitesse", some (.greater, .number 30)⟩ ∧
    parse? "transport . voiture > 3" = some ⟨"transport . voiture", some (.greater, .number 3)⟩ ∧
    parse? (merge "transport . voiture . km" "transport . voiture > 3") ≠
      some ⟨merge "transport . voiture . km" "transport . voiture", some (.greater, .number 3)⟩ := by
  have plain : ∀ c ∈ "transport . voiture . km".toList, isPlain c :=
    List.all_eq_true.1 (by decide +kernel)
  have read_speed : parse? "voiture . vitesse > 30" =
      some ⟨"voiture . vitesse", some (.greater, .number 30)⟩ := by decide +kernel
  have read_car : parse? "transport . voiture > 3" =
      some ⟨"transport . voiture", some (.greater, .number 3)⟩ := by decide +kernel
  refine ⟨plain, read_speed, ?_, read_car, ?_⟩
  · let speed : Written :=
      ⟨["voiture".toList], "vitesse ".toList, .greater, " 30".toList, [], arePlain_of_all (by decide)⟩
    have compared := (merge_keeps_condition_iff plain read_speed).2.2.1 speed (by decide +kernel)
    have marked : ∃ c ∈ speed.last, isBlank c = false := ⟨'v', by decide +kernel, by decide +kernel⟩
    have single : ArePlain (speed.first :: speed.later) := arePlain_of_all (by decide +kernel)
    refine (compared.2 (by decide +kernel) (by decide +kernel) marked single).2 ?_
    decide +kernel
  · let car : Written :=
      ⟨["transport".toList], "voiture ".toList, .greater, " 3".toList, [], arePlain_of_all (by decide)⟩
    intro kept
    have compared := (merge_keeps_condition_iff plain read_car).2.2.1 car (by decide +kernel)
    have marked : ∃ c ∈ car.last, isBlank c = false := ⟨'v', by decide +kernel, by decide +kernel⟩
    have single : ArePlain (car.first :: car.later) := arePlain_of_all (by decide +kernel)
    have fresh := (compared.2 (by decide +kernel) (by decide +kernel) marked single).1 kept
    revert fresh
    decide +kernel

/-- A name glued to its operator, a blank in front and a literal with a separator each go wrong. -/
theorem merge_alters_conditions :
    (parse? "a > 10" = some ⟨"a", some (.greater, .number 10)⟩ ∧
      parse? (merge "a . b" "a > 10") ≠ some ⟨merge "a . b" "a", some (.greater, .number 10)⟩) ∧
    (parse? " c" = some ⟨"c", none⟩ ∧ parse? (merge "a . b" " c") ≠ some ⟨merge "a . b" "c", none⟩) ∧
    parse? "c = x . a" = some ⟨"c", some (.equal, .text "x . a")⟩ ∧
      parse? (merge "a . b" "c = x . a") ≠ some ⟨merge "a . b" "c", some (.equal, .text "x . a")⟩ := by
  decide +kernel

end CarbonSurvey.Condition
