import CarbonSurvey.Proofs.DottedName.Segments

/-! # Segments of merged names

Joining some segments and splitting them again can give others, since a segment that ends in `" ."` runs into
the separator after it. No segment of a text does so unless it is the last one, and merging never puts that
in front of another. So a merged name has the segments that it was merged from (`segments_merge`), and merging
it once more with the same root leaves it as it is (`merge_merge`).
-/

namespace CarbonSurvey.DottedName

variable {text segment last : List Char} {before after front : List (List Char)}

/-- A separator that follows the segment is where it ends. -/
def EndsAtSeparator (segment : List Char) : Prop :=
  ∀ rest, split (segment ++ separator ++ rest) = segment :: split rest

/-- Whether a separator starts at a character shows within the next separator. -/
theorem not_separator_isPrefixOf_of_append {c : Char} {rest : List Char}
    (h : ¬ separator <+: c :: (segment ++ separator ++ rest)) (other : List Char) :
    ¬ separator <+: c :: (segment ++ separator ++ other) := by
  intro starts
  have inside : separator <+: c :: (segment ++ separator) :=
    List.prefix_of_prefix_length_le starts ⟨other, rfl⟩ (by simp [separator])
  exact h (inside.trans ⟨rest, rfl⟩)

/-- Every segment of a text but the last one ends at the separator after it. -/
theorem endsAtSeparator_of_split (h : split text = before ++ segment :: after) (hafter : after ≠ []) :
    EndsAtSeparator segment := by
  induction text using split_induction generalizing before segment with
  | empty =>
      have single := congrArg List.length h
      have nonempty := List.length_pos_iff.2 hafter
      simp only [split, List.length_append, List.length_cons, List.length_nil] at single
      omega
  | cut rest ih =>
      rw [split_separator] at h
      cases before with
      | nil =>
          obtain ⟨rfl, -⟩ := List.cons.inj h
          exact split_separator
      | cons first before => exact ih (List.cons.inj h).2
  | longer c rest first others inside hrest hsplit ih =>
      rw [hsplit] at h
      cases before with
      | nil =>
          obtain ⟨rfl, rfl⟩ := List.cons.inj h
          have joined : rest = first ++ separator ++ join others := by
            rw [← join_split rest, hrest, join_cons first hafter]
          rw [joined] at inside
          intro other
          rw [List.cons_append, List.cons_append,
            split_cons (not_separator_isPrefixOf_of_append inside other), @ih first [] hrest other, consFirst]
      | cons _ before =>
          obtain ⟨-, rfl⟩ := List.cons.inj h
          exact @ih _ (first :: before) hrest

theorem split_last (h : split text = before ++ [last]) : split last = [last] := by
  induction text using split_induction generalizing before with
  | empty =>
      cases before with
      | nil =>
          obtain ⟨rfl, -⟩ := List.cons.inj h
          rfl
      | cons first before => simp [split] at h
  | cut rest ih =>
      rw [split_separator] at h
      cases before with
      | nil => exact absurd (List.cons.inj h).2 (split_ne_nil rest)
      | cons first before => exact ih (List.cons.inj h).2
  | longer c rest first others inside hrest hsplit ih =>
      cases before with
      | nil =>
          have whole : c :: rest = last := by
            rw [← join_split (c :: rest), h, List.nil_append, join_singleton]
          rwa [← whole] at h ⊢
      | cons _ before =>
          rw [hsplit] at h
          obtain ⟨-, rfl⟩ := List.cons.inj h
          exact @ih (first :: before) hrest

theorem EndsAtSeparator.split_eq (h : EndsAtSeparator segment) : split segment = [segment] := by
  have cut : split (segment ++ separator) = [] ++ (segment ++ []) :: [[]] := by
    simpa [split] using h []
  have alone := split_join_take cut
  rwa [List.nil_append, join_singleton] at alone

/-- Segments that end at the separators between them are split where they were joined. -/
theorem split_join (hfront : ∀ segment ∈ front, EndsAtSeparator segment) (hlast : split last = [last]) :
    split (join (front ++ [last])) = front ++ [last] := by
  induction front with
  | nil => rwa [List.nil_append, join_singleton]
  | cons first front ih =>
      obtain ⟨hfirst, hfront⟩ := List.forall_mem_cons.1 hfront
      rw [List.cons_append, join_cons first (by simp), hfirst, ih hfront]

/-- What is kept of some segments, each where it stands first, is split where it was joined. -/
theorem split_join_eraseDups (hfront : ∀ segment ∈ front, EndsAtSeparator segment)
    (hlast : split last = [last]) :
    split (join (front ++ [last]).eraseDups) = (front ++ [last]).eraseDups := by
  by_cases known : last ∈ front
  · rw [eraseDups_append_of_mem known]
    obtain hnil | ⟨kept, final, hkept⟩ := List.eq_nil_or_concat front.eraseDups
    · have listed := List.mem_eraseDups.2 known
      rw [hnil] at listed
      cases listed
    · have ends : ∀ segment ∈ kept ++ [final], EndsAtSeparator segment := by
        intro segment hsegment
        rw [← List.concat_eq_append, ← hkept, List.mem_eraseDups] at hsegment
        exact hfront segment hsegment
      obtain ⟨hkept_ends, hfinal⟩ := List.forall_mem_append.1 ends
      rw [hkept, List.concat_eq_append]
      exact split_join hkept_ends (List.forall_mem_singleton.1 hfinal).split_eq
  · rw [eraseDups_append_of_not_mem known]
    exact split_join (fun segment hsegment => hfront segment (List.mem_eraseDups.1 hsegment)) hlast

theorem endsAtSeparator_of_mem_enclosing {name : String} (h : segment ∈ enclosing name) :
    EndsAtSeparator segment := by
  have parts := List.dropLast_append_getLast (split_ne_nil name.toList)
  obtain ⟨before, after, hbefore⟩ := List.append_of_mem h
  unfold enclosing segments at hbefore
  rw [hbefore, List.append_assoc, List.cons_append] at parts
  exact endsAtSeparator_of_split parts.symm (by simp)

/-- A merged name is made of the segments that were merged. -/
theorem segments_merge (root suffix : String) :
    segments (merge root suffix) = (enclosing root ++ segments suffix).eraseDups := by
  obtain ⟨front, last, hsuffix⟩ := (List.eq_nil_or_concat (segments suffix)).resolve_left (split_ne_nil _)
  rw [List.concat_eq_append] at hsuffix
  have cut : split suffix.toList = front ++ [last] := hsuffix
  rw [segments, toList_merge, hsuffix, ← List.append_assoc]
  apply split_join_eraseDups
  · intro segment hsegment
    rcases List.mem_append.1 hsegment with enclosed | hfront
    · exact endsAtSeparator_of_mem_enclosing enclosed
    · obtain ⟨before, after, rfl⟩ := List.append_of_mem hfront
      rw [List.append_assoc, List.cons_append] at cut
      exact endsAtSeparator_of_split cut (by simp)
  · exact split_last cut

section eraseDups

variable {α : Type} [BEq α] [LawfulBEq α]

theorem nodup_eraseDups (rows : List α) : rows.eraseDups.Nodup := by
  match rows with
  | [] => exact .nil
  | row :: rest =>
      rw [List.eraseDups_cons, List.nodup_cons, List.mem_eraseDups]
      have shorter := List.length_filter_le (fun other => !other == row) rest
      exact ⟨by simp, nodup_eraseDups _⟩
termination_by rows.length

theorem removeAll_eraseDups_self (rows : List α) : rows.eraseDups.removeAll rows = [] := by
  simp [List.removeAll, List.filter_eq_nil_iff]

/-- What was put behind some rows once can be put behind them again. -/
theorem eraseDups_append_eraseDups_append (rows others : List α) :
    (rows ++ (rows ++ others).eraseDups).eraseDups = (rows ++ others).eraseDups := by
  have fresh : (others.removeAll rows).eraseDups.removeAll rows = (others.removeAll rows).eraseDups := by
    simp [List.removeAll, List.filter_eq_self]
  have parts : (rows.eraseDups ++ (others.removeAll rows).eraseDups).removeAll rows =
      rows.eraseDups.removeAll rows ++ (others.removeAll rows).eraseDups.removeAll rows :=
    List.filter_append _ _
  rw [List.eraseDups_append, List.eraseDups_append, parts, removeAll_eraseDups_self, fresh, List.nil_append,
    eraseDups_eq_self_iff.2 (nodup_eraseDups _)]

/-- Rows in front of others change nothing when the others start with them already. -/
theorem eraseDups_append_eq_right_iff {rows others : List α} :
    (rows ++ others).eraseDups = others ↔ others.Nodup ∧ rows.eraseDups <+: others := by
  constructor
  · intro kept
    have distinct := nodup_eraseDups (rows ++ others)
    rw [kept] at distinct
    refine ⟨distinct, (others.removeAll rows).eraseDups, ?_⟩
    rw [← List.eraseDups_append, kept]
  · rintro ⟨distinct, rest, rfl⟩
    obtain ⟨-, distinct_rest, apart⟩ := List.nodup_append.1 distinct
    have outside : ∀ row ∈ rest, row ∉ rows := fun row hrest hrows =>
      apart row (List.mem_eraseDups.2 hrows) row hrest rfl
    have parts : (rows.eraseDups ++ rest).removeAll rows =
        rows.eraseDups.removeAll rows ++ rest.removeAll rows := List.filter_append _ _
    rw [List.eraseDups_append, parts, removeAll_eraseDups_self, List.nil_append,
      eraseDups_removeAll_eq_self_iff.2 ⟨distinct_rest, outside⟩]

/-- What is kept of some rows stands in the order in which they first occur. -/
theorem pairwise_idxOf_eraseDups (rows : List α) :
    rows.eraseDups.Pairwise fun row other => rows.idxOf row < rows.idxOf other := by
  induction rows using List.reverseRecOn with
  | nil => exact .nil
  | append_singleton rows last ih =>
      have earlier {row : α} (h : row ∈ rows.eraseDups) : (rows ++ [last]).idxOf row = rows.idxOf row :=
        List.idxOf_append_of_mem (List.mem_eraseDups.1 h)
      have kept : rows.eraseDups.Pairwise fun row other =>
          (rows ++ [last]).idxOf row < (rows ++ [last]).idxOf other := by
        refine ih.imp_of_mem fun hrow hother before => ?_
        rwa [earlier hrow, earlier hother]
      by_cases known : last ∈ rows
      · rwa [eraseDups_append_of_mem known]
      · rw [eraseDups_append_of_not_mem known, List.pairwise_append]
        refine ⟨kept, List.pairwise_singleton _ _, fun row hrow other hother => ?_⟩
        obtain rfl := List.mem_singleton.1 hother
        rw [earlier hrow, List.idxOf_append_of_notMem known]
        exact Nat.lt_add_right _ (List.idxOf_lt_length_of_mem (List.mem_eraseDups.1 hrow))

end eraseDups

theorem merge_merge (root suffix : String) : merge root (merge root suffix) = merge root suffix := by
  rw [← String.toList_inj, toList_merge, toList_merge, segments_merge, eraseDups_append_eraseDups_append]

theorem segments_injective : Function.Injective segments := by
  intro left right same
  rw [← String.toList_inj, ← join_split left.toList, ← join_split right.toList]
  exact congrArg join same

theorem merge_eq_self_iff (root suffix : String) :
    merge root suffix = suffix ↔ (segments suffix).Nodup ∧ (enclosing root).eraseDups <+: segments suffix := by
  rw [← segments_injective.eq_iff, segments_merge, eraseDups_append_eq_right_iff]

/-- Merging keeps the first of equal segments and nothing is split or glued by it, whatever the two texts are. The
    segments of a merged name are those that enclose the root and those of the suffix, without repetitions and in the
    order in which they first occur. So merging again changes nothing, and a suffix is left as it is exactly when its
    segments are distinct and start with those that enclose the root. -/
theorem merge_keeps_first_occurrences (root suffix : String) :
    segments (merge root suffix) = ((segments root).dropLast ++ segments suffix).eraseDups ∧
    (segments (merge root suffix)).Nodup ∧
    (∀ segment, segment ∈ segments (merge root suffix) ↔
      segment ∈ (segments root).dropLast ∨ segment ∈ segments suffix) ∧
    (segments (merge root suffix)).Pairwise (fun segment other =>
      ((segments root).dropLast ++ segments suffix).idxOf segment <
        ((segments root).dropLast ++ segments suffix).idxOf other) ∧
    merge root (merge root suffix) = merge root suffix ∧
    (merge root suffix = suffix ↔
      (segments suffix).Nodup ∧ (segments root).dropLast.eraseDups <+: segments suffix) := by
  have merged : segments (merge root suffix) = ((segments root).dropLast ++ segments suffix).eraseDups :=
    segments_merge root suffix
  refine ⟨merged, ?_, fun segment => ?_, ?_, merge_merge root suffix, merge_eq_self_iff root suffix⟩
  · rw [merged]
    exact nodup_eraseDups _
  · rw [merged, List.mem_eraseDups, List.mem_append]
  · rw [merged]
    exact pairwise_idxOf_eraseDups _

/-- Overlapping separators are cut from the left, so that the second segment here starts with a point. -/
example : merge "a . . b . c" ". b . d" = "a . . b . d" := by
  decide +kernel

end CarbonSurvey.DottedName
