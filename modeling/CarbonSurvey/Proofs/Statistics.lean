import CarbonSurvey.Statistics
import CarbonSurvey.Proofs.NameTable

/-! # What a catalogue makes of a poll

Rows are read back by columns, and a column holds what the participants contribute to its fact
(`columnValue_rows`), so the table of values has a row for each fact (`values_eq`). The last fact of a key
says what stands under it, a sum, a mean or a share of the contributions, and shares do not depend on the
order of the participants (`compute_aggregates`).
-/

namespace CarbonSurvey

namespace Catalogue

/-- The fact is the last one of its key. -/
def Decides (catalogue : Catalogue) (fact : Fact) : Prop :=
  ∃ before after, catalogue = before ++ fact :: after ∧ fact.key ∉ after.map Fact.key

theorem exists_decides {catalogue : Catalogue} {key : String} (h : key ∈ catalogue.map Fact.key) :
    ∃ fact, catalogue.Decides fact ∧ fact.key = key := by
  induction catalogue with
  | nil => cases h
  | cons fact catalogue ih =>
      by_cases later : key ∈ catalogue.map Fact.key
      · obtain ⟨last, ⟨before, after, rfl, only⟩, same⟩ := ih later
        exact ⟨last, ⟨fact :: before, after, rfl, only⟩, same⟩
      · obtain rfl : key = fact.key := by simpa [later] using h
        exact ⟨fact, ⟨[], catalogue, rfl, later⟩, rfl⟩

end Catalogue

namespace Aggregation

variable {values others : List Float}

theorem apply_sum (h : values ≠ []) : sum.apply values = values.foldl (· + ·) (-0.0) := if_neg h

theorem apply_mean (h : values ≠ []) :
    mean.apply values = values.foldl (· + ·) (-0.0) / Float.ofNat values.length := if_neg h

theorem apply_share (h : values ≠ []) :
    share.apply values = Float.ofNat (values.countP (· != 0.0)) / Float.ofNat values.length := if_neg h

/-- The part of the participants whose value is not zero does not depend on their order. -/
theorem apply_share_perm (h : values.Perm others) : share.apply values = share.apply others := by
  rcases eq_or_ne values [] with rfl | present
  · rw [h.nil_eq]
  · have present_others : others ≠ [] := by
      rintro rfl
      exact present (List.perm_nil.1 h)
    rw [apply_share present, apply_share present_others, h.countP_eq, h.length_eq]

end Aggregation

namespace Statistics

variable {model : Model} {maxDepth : Nat} {catalogue : Catalogue} {situations : List Situation} {fact : Fact}

/-- What a participant contributes to a fact. -/
def contribution (model : Model) (maxDepth : Nat) (fact : Fact) (situation : Situation) : Float :=
  Setting.evaluate ⟨model, situation, maxDepth⟩ fact.dottedName

theorem columnValue_rows (column : Fin catalogue.length) :
    columnValue catalogue (situations.map (row model maxDepth catalogue)) column =
      (catalogue.get column).aggregation.apply
        (situations.map (contribution model maxDepth (catalogue.get column))) := by
  have entries : (fun row : Vector Float catalogue.length => row.get column) ∘ row model maxDepth catalogue =
      contribution model maxDepth (catalogue.get column) := by
    funext situation
    exact Vector.getElem_ofFn column.isLt
  rw [columnValue, List.map_map, entries]

theorem values_eq : (compute model maxDepth catalogue situations).values =
    .ofRows (catalogue.map fun fact =>
      (fact.key, fact.aggregation.apply (situations.map (contribution model maxDepth fact)))) := by
  conv_rhs => rw [← List.map_getElem_finRange catalogue, List.map_map]
  simp only [compute, columnValue_rows]
  rfl

theorem mem_keys_iff (key : String) :
    key ∈ (compute model maxDepth catalogue situations).values.toList.map Prod.fst ↔
      key ∈ catalogue.map Fact.key := by
  rw [NameTable.mem_names, values_eq, NameTable.mem_ofRows, List.map_map]
  rfl

theorem values_of_decides (h : catalogue.Decides fact) :
    (compute model maxDepth catalogue situations).values[fact.key]? =
      some (fact.aggregation.apply (situations.map (contribution model maxDepth fact))) := by
  obtain ⟨before, after, rfl, last⟩ := h
  rw [values_eq, List.map_append, List.map_cons]
  apply NameTable.getElem?_ofRows_last
  rwa [List.map_map]

/-- A poll has as many participants as situations, and a value for each key of the catalogue, in the order
    of their bytes: what the last fact of the key makes of the contributions in the order of the
    participants. Sums go from the first to the last, a mean is the sum over the number of participants, and
    a share the number of contributions other than zero over it. A failure contributes zero and leaves the
    others as they are, and a poll without participants is all zeros. In another order of the participants
    there are as many, and the same keys, and the same shares. -/
theorem compute_aggregates (model : Model) (maxDepth : Nat) (catalogue : Catalogue) (situations : List Situation) :
    let statistics := compute model maxDepth catalogue situations
    statistics.participants = situations.length ∧
    (statistics.values.toList.map Prod.fst).Pairwise
      (fun key later => key.toUTF8.data.toList < later.toUTF8.data.toList) ∧
    (∀ key, key ∈ statistics.values.toList.map Prod.fst ↔ key ∈ catalogue.map Fact.key) ∧
    (∀ fact, catalogue.Decides fact →
      statistics.values[fact.key]? =
        some (fact.aggregation.apply (situations.map (contribution model maxDepth fact))) ∧
      (situations ≠ [] → fact.aggregation = .sum →
        statistics.values[fact.key]? =
          some ((situations.map (contribution model maxDepth fact)).foldl (· + ·) (-0.0))) ∧
      (situations ≠ [] → fact.aggregation = .mean →
        statistics.values[fact.key]? =
          some ((situations.map (contribution model maxDepth fact)).foldl (· + ·) (-0.0) /
            Float.ofNat situations.length)) ∧
      (situations ≠ [] → fact.aggregation = .share →
        statistics.values[fact.key]? =
          some (Float.ofNat ((situations.map (contribution model maxDepth fact)).countP (· != 0.0)) /
            Float.ofNat situations.length)) ∧
      ∀ before failing after error, situations = before ++ failing :: after →
        (Setting.query ⟨model, failing, maxDepth⟩ [] (.rule fact.dottedName)).result = .error error →
          statistics.values[fact.key]? = some (fact.aggregation.apply
            (before.map (contribution model maxDepth fact) ++ 0.0 ::
              after.map (contribution model maxDepth fact)))) ∧
    (situations = [] → ∀ key ∈ catalogue.map Fact.key, statistics.values[key]? = some 0.0) ∧
    ∀ others, situations.Perm others →
      let reordered := compute model maxDepth catalogue others
      reordered.participants = statistics.participants ∧
      (∀ key, key ∈ reordered.values.toList.map Prod.fst ↔ key ∈ statistics.values.toList.map Prod.fst) ∧
      ∀ fact, catalogue.Decides fact → fact.aggregation = .share →
        reordered.values[fact.key]? = statistics.values[fact.key]? := by
  intro statistics
  refine ⟨rfl, NameTable.names_in_byte_order _, mem_keys_iff, fun fact last => ?_, ?_, ?_⟩
  · have nonempty : situations ≠ [] → situations.map (contribution model maxDepth fact) ≠ [] :=
      mt List.map_eq_nil_iff.1
    refine ⟨values_of_decides last, fun present kind => ?_, fun present kind => ?_, fun present kind => ?_, ?_⟩
    · rw [values_of_decides last, kind, Aggregation.apply_sum (nonempty present)]
    · rw [values_of_decides last, kind, Aggregation.apply_mean (nonempty present), List.length_map]
    · rw [values_of_decides last, kind, Aggregation.apply_share (nonempty present), List.length_map]
    · rintro before failing after error rfl failed
      have nothing : contribution model maxDepth fact failing = 0.0 := Setting.evaluate_of_error failed
      rw [values_of_decides last, List.map_append, List.map_cons, nothing]
  · rintro rfl key known
    obtain ⟨fact, last, rfl⟩ := Catalogue.exists_decides known
    rw [values_of_decides last]
    rfl
  · intro others same reordered
    refine ⟨same.length_eq.symm, fun key => (mem_keys_iff key).trans (mem_keys_iff key).symm, ?_⟩
    intro fact last isShare
    rw [values_of_decides last, values_of_decides last, isShare, Aggregation.apply_share_perm (same.map _)]

/-- A lunch is what its meat is. What meat is takes a formula below it. -/
def meals : Model :=
  .ofRows [("lunch", .rule ⟨none, none, some (.expression (.sum ["meat"]))⟩),
    ("meat", .rule ⟨none, none, some (.expression (.sum ["beef"]))⟩)]

/-- Two facts of one key, a mean and a share. -/
def interests : Catalogue :=
  [⟨"lunches", "beef", .mean⟩, ⟨"lunches", "lunch", .sum⟩, ⟨"portion", "lunch", .mean⟩,
    ⟨"eaters", "lunch", .share⟩]

/-- One participant says what meat is. For the other the lunch fails under a limit of one formula, which takes
    nothing from the sum and halves the mean, and half of them have lunch in either order. -/
theorem meals_aggregated :
    (Setting.query ⟨meals, ∅, 1⟩ [] (.rule "lunch")).result = .error (.tooDeep "meat" 1 2) ∧
    (compute meals 1 interests [.ofRows [("meat", .number 4)], ∅]).values["lunches"]? = some 4 ∧
    (compute meals 1 interests [.ofRows [("meat", .number 4)], ∅]).values["portion"]? = some 2 ∧
    (compute meals 1 interests [.ofRows [("meat", .number 4)], ∅]).values["eaters"]? = some 0.5 ∧
    (compute meals 1 interests [∅, .ofRows [("meat", .number 4)]]).values["eaters"]? = some 0.5 := by
  have fails : (Setting.query ⟨meals, ∅, 1⟩ [] (.rule "lunch")).result = .error (.tooDeep "meat" 1 2) := by
    decide +kernel
  have eats : ∀ key aggregation,
      contribution meals 1 ⟨key, "lunch", aggregation⟩ (.ofRows [("meat", .number 4)]) = 4 := by
    intro key aggregation
    change Setting.evaluate ⟨meals, .ofRows [("meat", .number 4)], 1⟩ "lunch" = 4
    decide +kernel
  have fasts : ∀ key aggregation, contribution meals 1 ⟨key, "lunch", aggregation⟩ ∅ = 0.0 :=
    fun _ _ => Setting.evaluate_of_error fails
  have sums : interests.Decides ⟨"lunches", "lunch", .sum⟩ := ⟨[_], [_, _], rfl, by decide⟩
  have averages : interests.Decides ⟨"portion", "lunch", .mean⟩ := ⟨[_, _], [_], rfl, by decide⟩
  have shares : interests.Decides ⟨"eaters", "lunch", .share⟩ := ⟨[_, _, _], [], rfl, by decide⟩
  have total : Aggregation.sum.apply [4, 0.0] = 4 := by decide +kernel
  have mean : [4, 0.0].foldl (· + ·) (-0.0) / Float.ofNat 2 = 2 := by decide +kernel
  have half : Float.ofNat ([4, 0.0].countP (· != (0.0 : Float))) / Float.ofNat 2 = 0.5 := by decide +kernel
  obtain ⟨-, -, -, values, -, reorders⟩ :=
    compute_aggregates meals 1 interests [.ofRows [("meat", .number 4)], ∅]
  have lunches := (values _ sums).2.2.2.2 [_] ∅ [] _ rfl fails
  have portion := (values _ averages).2.2.1 (List.cons_ne_nil _ _) rfl
  have eaters := (values _ shares).2.2.2.1 (List.cons_ne_nil _ _) rfl
  have reordered := (reorders [∅, .ofRows [("meat", .number 4)]] (List.Perm.swap _ _ [])).2.2 _ shares rfl
  rw [List.map_singleton, eats, List.map_nil, List.singleton_append, total] at lunches
  rw [List.map_cons, List.map_singleton, eats, fasts] at portion eaters
  exact ⟨fails, lunches, portion.trans (congrArg some mean), eaters.trans (congrArg some half),
    reordered.trans (eaters.trans (congrArg some half))⟩

end Statistics

end CarbonSurvey
