import CarbonSurvey.Proofs.Evaluation.Mention
import CarbonSurvey.Proofs.Evaluation.Moments
import CarbonSurvey.Proofs.Evaluation.Transparency
import Mathlib.Data.List.TakeWhile
import Mathlib.Logic.Relation

/-! # Cycles that are warned of

The path of a warning is read off the stack, from the outermost goal of a name inwards. Each goal there
was asked for by the one beneath it, so each name on the path is needed by the rule of the name before it,
or is the same name once more where a default stands for the formula of its rule. As no formula asks for a
formula, a path cannot stay with one name in this way, and a name that is warned of does need itself.
-/

namespace CarbonSurvey

namespace Stack

variable {stack : Stack} {name : String}

theorem exists_cycle_eq (h : name ∈ stack.map Goal.name) :
    ∃ inner, stack.cycle name = name :: inner ++ [name] := by
  unfold cycle
  cases hpath : (stack.reverse.map Goal.name).dropWhile (· ≠ name) with
  | nil =>
      rw [List.dropWhile_eq_nil_iff] at hpath
      have differs := hpath name (by simpa using h)
      simp at differs
  | cons first inner =>
      have stops := List.head?_dropWhile_not (· ≠ name) (stack.reverse.map Goal.name)
      rw [hpath] at stops
      obtain rfl : first = name := by simpa using stops
      exact ⟨inner, rfl⟩

theorem isChain_cycle {link : String → String → Prop}
    (h : (name :: stack.map Goal.name).IsChain fun upper lower => link lower upper) :
    (stack.cycle name).IsChain link := by
  have inwards := List.isChain_reverse.2 h
  rw [List.reverse_cons, ← List.map_reverse] at inwards
  apply inwards.suffix
  obtain ⟨outer, houter⟩ := List.dropWhile_suffix (l := stack.reverse.map Goal.name) (· ≠ name)
  exact ⟨outer, by rw [cycle, ← List.append_assoc, houter]⟩

end Stack

/-- How a path goes on from one name to the next: the rule of the one needs the other, or a default stands
    for the formula of its own name. -/
def Model.LeadsTo (model : Model) (name other : String) : Prop :=
  model.Needs name other ∨ name = other ∧ model.IsComputed name

/-- What the path of a warning shows about a model. -/
structure Warning.Traces (model : Model) (warning : Warning) : Prop where
  closed : ∃ inner, warning.path = warning.name :: inner ++ [warning.name]
  linked : warning.path.IsChain model.LeadsTo
  needed : Relation.TransGen model.Needs warning.name warning.name

/-- The goal `inner` may be asked for while `outer` is pursued. -/
def Inside (model : Model) (situation : Situation) (inner outer : Goal) : Prop :=
  (Plan.goal model situation outer).MayAsk inner

variable {model : Model} {situation : Situation} {inner outer : Goal}

theorem Inside.leadsTo (h : Inside model situation inner outer) : model.LeadsTo outer.name inner.name := by
  rcases Plan.mayAsk_cases h with needed | ⟨name, rfl, rfl, computed⟩
  · exact .inl needed
  · exact .inr ⟨rfl, computed⟩

/-- Goals inside one another need one another's names, except for a formula right inside its default. -/
theorem needs_of_transGen (h : Relation.TransGen (Inside model situation) inner outer) :
    Relation.TransGen model.Needs outer.name inner.name ∨
      ∃ name, outer = .default name ∧ inner = .formula name := by
  induction h with
  | single h =>
      rcases Plan.mayAsk_cases h with needed | ⟨name, rfl, rfl, _⟩
      · exact .inl (.single needed)
      · exact .inr ⟨name, rfl, rfl⟩
  | tail _ h ih =>
      rcases Plan.mayAsk_cases h with needed | ⟨name, rfl, rfl, _⟩
      · rcases ih with ih | ⟨name, rfl, rfl⟩
        · exact .inl (.head needed ih)
        · exact .inl (.single needed)
      · rcases ih with ih | ⟨_, ⟨⟩, _⟩
        exact .inl ih

theorem traces_of_linked {stack : Stack} {goal : Goal} (hstack : goal ∈ stack)
    (linked : (goal :: stack).IsChain (Inside model situation)) :
    Warning.Traces model ⟨goal.name, stack.cycle goal.name⟩ where
  closed := Stack.exists_cycle_eq (List.mem_map_of_mem hstack)
  linked := by
    apply Stack.isChain_cycle
    rw [← List.map_cons, List.isChain_map]
    exact linked.imp fun _ _ => Inside.leadsTo
  needed := by
    have around : Relation.TransGen (Inside model situation) goal goal :=
      List.IsChain.rel_cons (linked.imp fun _ _ => .single) hstack
    rcases needs_of_transGen around with needed | ⟨name, hdefault, hformula⟩
    · exact needed
    · cases hdefault.symm.trans hformula

namespace Setting

variable {setting : Setting} {warning : Warning}

theorem traces_of_mem_pursue {stack : Stack} {goal : Goal}
    (h : warning ∈ (setting.pursue stack goal).warnings) (regular : setting.Regular stack)
    (hasked : ∀ top ∈ stack.head?, (setting.plan top).MayAsk goal) : warning.Traces setting.model := by
  induction stack, goal using pursuit_induction setting with
  | cycle stack goal hstack =>
      rw [pursue_of_mem hstack] at h
      obtain rfl := List.mem_singleton.1 h
      exact traces_of_linked hstack (List.isChain_cons.2 ⟨hasked, regular.linked⟩)
  | deep stack goal hstack hdeep =>
      rw [pursue_of_deep hstack hdeep] at h
      cases h
  | opened stack goal hstack hdeep ih =>
      rw [pursue_of_open hstack hdeep] at h
      obtain ⟨asked, asked_here, hwarning⟩ := Plan.mem_warnings_run h
      apply ih asked asked_here hwarning (regular.cons hstack hdeep hasked)
      rintro top ⟨⟩
      exact asked_here

theorem cycle_mem_events_iff {query : Query} :
    .cycle warning ∈ (setting.answer query).events ↔ warning ∈ (setting.query [] query).warnings := by
  simp only [answer]
  split <;> simp

theorem traces_of_mem_events {query : Query} (h : .cycle warning ∈ (setting.answer query).events) :
    warning.Traces setting.model := by
  obtain ⟨asked, _, hwarning⟩ := Plan.mem_warnings_run (cycle_mem_events_iff.1 h)
  apply traces_of_mem_pursue hwarning .nil
  rintro top ⟨⟩

end Setting

/-- Every cycle that is warned of is one of the model. The path of the warning goes from its name back to
    it, each name on it leads to the next, and the name needs itself. So a model in which no name needs
    itself, however indirectly, is evaluated without a warning. -/
theorem warnings_trace_cycles (model : Model) (situation : Situation) (maxDepth : Nat) (query : Query) :
    (∀ warning, .cycle warning ∈ (Setting.answer ⟨model, situation, maxDepth⟩ query).events →
      warning.Traces model) ∧
    ((∀ name, ¬ Relation.TransGen model.Needs name name) →
      ∀ warning, .cycle warning ∉ (Setting.answer ⟨model, situation, maxDepth⟩ query).events) := by
  constructor
  · intro warning h
    exact Setting.traces_of_mem_events h
  · intro acyclic warning h
    exact acyclic warning.name (Setting.traces_of_mem_events h).needed

/-- A sum of two names that have a default. -/
def plainSum : Model :=
  .ofRows [("a", .rule ⟨none, none, some (.expression (.sum ["b", "c"]))⟩),
    ("b", .rule ⟨none, some (.number 5), none⟩), ("c", .rule ⟨none, some (.number 3), none⟩)]

/-- The path of the ring goes through the default and the formula of each of its names. The plain sum has
    no ring, and no warning. -/
theorem sumRing_traced :
    Warning.Traces sumRing ⟨"a", ["a", "b", "b", "a", "a"]⟩ ∧
    (∀ name, ¬ Relation.TransGen plainSum.Needs name name) ∧
    ∀ warning, .cycle warning ∉ (Setting.answer ⟨plainSum, ∅, 3⟩ (.rule "a")).events := by
  have warned : .cycle ⟨"a", ["a", "b", "b", "a", "a"]⟩ ∈ (Setting.answer ⟨sumRing, ∅, 3⟩ (.rule "a")).events :=
    Setting.cycle_mem_events_iff.2 (by decide +kernel)
  have needs : ∀ name other, plainSum.Needs name other → name = "a" ∧ other ≠ "a" := by
    intro name other h
    simp only [Model.Needs, Model.mentions, Model.rule?, plainSum, NameTable.ofRows, List.foldl_cons,
      List.foldl_nil, Std.ExtTreeMap.getElem?_insert] at h
    -- the rule of a name is that of "c", "b" or "a", or there is none
    split at h
    · cases h
    · split at h
      · cases h
      · split at h
        · next found =>
          have listed : other = "b" ∨ other = "c" := by
            simpa [Entry.rule?, Rule.mentions, Mention.ofText, Formula.mentions, Expression.mentions] using h
          have same : "a" = name := by simpa using found
          refine ⟨same.symm, ?_⟩
          rcases listed with rfl | rfl <;> decide
        · cases h
  have acyclic : ∀ name, ¬ Relation.TransGen plainSum.Needs name name := by
    intro name around
    obtain ⟨_, first, _⟩ := Relation.TransGen.head'_iff.1 around
    obtain ⟨_, _, last⟩ := Relation.TransGen.tail'_iff.1 around
    exact (needs _ _ last).2 (needs _ _ first).1
  refine ⟨?_, acyclic, ?_⟩
  · exact (warnings_trace_cycles sumRing ∅ 3 (.rule "a")).1 _ warned
  · exact (warnings_trace_cycles plainSum ∅ 3 (.rule "a")).2 acyclic

end CarbonSurvey
