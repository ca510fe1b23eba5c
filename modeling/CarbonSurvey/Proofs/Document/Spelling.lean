import CarbonSurvey.Proofs.Document.Model
import CarbonSurvey.Proofs.RelatedOptions
import Mathlib.Logic.Function.Basic

/-! # Spellings of a model

The keys of rules, formulas and clauses have a French and an English spelling, and a model may use either for each of
them, in each object anew. Where no object uses both for one key, it makes no difference which
(`Model.spellings_decode_alike`). A formula is decoded key by key, so this comes down to what is found under a key
(`RespelledMembers.find?`), and from there on it follows the decoding.
-/

namespace CarbonSurvey

open Json

namespace Key

/-- The keys with two spellings. -/
def bilingual : List Key :=
  [applicableIf, default, formula, average, sum, anyOf, allOf, premise, branch, otherwise]

def spells (key : Key) (name : String) : Bool :=
  name = key.french || name = key.english

/-- The one spelling of a key for the other. -/
def other (key : Key) (name : String) : String :=
  if name = key.french then key.english else key.french

/-- A name in the other spelling, if it is that of a selected key. -/
def respell (selected : Key → Bool) (name : String) : String :=
  match bilingual.find? (·.spells name) with
  | some key => if selected key then key.other name else name
  | none => name

/-- Both spellings of the key are there. -/
def isTwice (key : Key) (members : List (String × Json)) : Bool :=
  (lookup? key.french members).isSome && (lookup? key.english members).isSome

end Key

/-- Where a value stands in a model, as far as there are keys with two spellings to be found in it. -/
inductive Place where
  | rule
  | formula
  /-- Where a list of clauses stands, or a single clause in its place. -/
  | clauses
  | clause
  | elsewhere
  deriving Repr, DecidableEq

namespace Place

/-- The objects at this place have keys with two spellings. -/
def isKeyed : Place → Bool
  | .rule | .formula | .clause => true
  | .clauses | .elsewhere => false

/-- Where a member of an object stands. -/
def under (place : Place) (name : String) : Place :=
  match place with
  | .rule => if Key.formula.spells name then .formula else .elsewhere
  | .formula => if Key.variations.spells name then .clauses else .elsewhere
  | .clause => if Key.branch.spells name || Key.otherwise.spells name then .formula else .elsewhere
  | .clauses | .elsewhere => .elsewhere

end Place

mutual

/-- The two values are the same but for the spelling of keys. Which keys are respelled is up to each object. -/
inductive Respelled : Place → Json → Json → Prop where
  | same {place : Place} {value : Json} : Respelled place value value
  | object {place : Place} {members others : List (String × Json)} (selected : Key → Bool) : place.isKeyed →
      RespelledMembers place selected members others → Respelled place (.object members) (.object others)
  | clauses {items others : List Json} : RespelledClauses items others → Respelled .clauses (.list items) (.list others)
  | single {value other : Json} : Respelled .clause value other → Respelled .clauses value other

/-- The members of an object whose selected keys are respelled. -/
inductive RespelledMembers : Place → (Key → Bool) → List (String × Json) → List (String × Json) → Prop where
  | nil {place : Place} {selected : Key → Bool} : RespelledMembers place selected [] []
  | cons {place : Place} {selected : Key → Bool} {name renamed : String} {value other : Json}
      {members others : List (String × Json)} : Key.respell selected name = renamed →
      Respelled (place.under name) value other → RespelledMembers place selected members others →
      RespelledMembers place selected ((name, value) :: members) ((renamed, other) :: others)

inductive RespelledClauses : List Json → List Json → Prop where
  | nil : RespelledClauses [] []
  | cons {item other : Json} {items others : List Json} : Respelled .clause item other →
      RespelledClauses items others → RespelledClauses (item :: items) (other :: others)

end

/-- A value stands at a place in another value. -/
inductive Stands : Place → Json → Place → Json → Prop where
  | here {place : Place} {value : Json} : Stands place value place value
  | member {place inner : Place} {members : List (String × Json)} {name : String} {value found : Json} :
      lookup? name members = some value → Stands (place.under name) value inner found →
      Stands place (.object members) inner found
  | item {inner : Place} {items : List Json} {item found : Json} : item ∈ items →
      Stands .clause item inner found → Stands .clauses (.list items) inner found
  | single {inner : Place} {value found : Json} : Stands .clause value inner found →
      Stands .clauses value inner found

/-- No rule, formula or clause that stands in the value has a key in both spellings. -/
def SpelledOnce (place : Place) (value : Json) : Prop :=
  ∀ inner members, Stands place value inner (.object members) → inner.isKeyed →
    ∀ key ∈ Key.bilingual, key.isTwice members = false

variable {place : Place} {members others : List (String × Json)} {value other : Json} {key : Key}
  {selected : Key → Bool}

namespace Key

theorem find?_spells : ∀ key ∈ bilingual, bilingual.find? (·.spells key.french) = some key ∧
    bilingual.find? (·.spells key.english) = some key := by
  decide +kernel

theorem french_ne_english : ∀ key ∈ bilingual, key.french ≠ key.english := by
  decide +kernel

theorem respell_french (h : key ∈ bilingual) :
    respell selected key.french = if selected key then key.english else key.french := by
  simp only [respell, (find?_spells key h).1, other, if_true]

theorem respell_english (h : key ∈ bilingual) :
    respell selected key.english = if selected key then key.french else key.english := by
  simp only [respell, (find?_spells key h).2, other, if_neg (french_ne_english key h).symm]

theorem respell_variations : respell selected variations.french = variations.french := by
  have unspelled : bilingual.find? (·.spells variations.french) = none := by decide +kernel
  simp only [respell, unspelled]

theorem respell_involutive (selected : Key → Bool) : Function.Involutive (respell selected) := by
  intro name
  cases hfound : bilingual.find? (·.spells name) with
  | none => simp only [respell, hfound]
  | some key =>
      have hkey : key ∈ bilingual := List.mem_of_find?_eq_some hfound
      have spelled : name = key.french ∨ name = key.english := by
        simpa [spells] using List.find?_some hfound
      rcases spelled with rfl | rfl
      · rw [respell_french hkey]
        split
        · next chosen => rw [respell_english hkey, if_pos chosen]
        · next kept => rw [respell_french hkey, if_neg kept]
      · rw [respell_english hkey]
        split
        · next chosen => rw [respell_french hkey, if_pos chosen]
        · next kept => rw [respell_english hkey, if_neg kept]

theorem find?_eq_or (key : Key) (members : List (String × Json)) :
    key.find? members = (lookup? key.french members).or (lookup? key.english members) := by
  unfold find?
  split
  · next found => rw [found, Option.some_or]
  · next absent => rw [absent, Option.none_or]

theorem find?_eq_or_of_not_isTwice (once : key.isTwice members = false) :
    key.find? members = (lookup? key.english members).or (lookup? key.french members) := by
  rw [find?_eq_or]
  unfold isTwice at once
  cases hfrench : lookup? key.french members with
  | none => rw [Option.none_or, Option.or_none]
  | some found =>
      cases hother : lookup? key.english members with
      | none => rfl
      | some other => simp [hfrench, hother] at once

theorem find?_variations (members : List (String × Json)) :
    variations.find? members = lookup? variations.french members := by
  rw [find?_eq_or]
  exact Option.or_self

theorem under_english (place : Place) : ∀ key ∈ bilingual, place.under key.english = place.under key.french := by
  cases place <;> decide +kernel

end Key

/-! ## What is found under a key -/

theorem Respelled.eq_of_elsewhere (h : Respelled .elsewhere value other) : other = value := by
  cases h with
  | same => rfl
  | object selected keyed => cases keyed

theorem SpelledOnce.of_scalar (h : ∀ members, value ≠ .object members) (single : place ≠ .clauses) :
    SpelledOnce place value := by
  intro inner members stands
  cases stands with
  | here => exact absurd rfl (h members)
  | member => exact absurd rfl (h _)
  | item | single => exact absurd rfl single

theorem mem_of_lookup? {name : String} (h : lookup? name members = some value) : (name, value) ∈ members := by
  induction members with
  | nil => cases h
  | cons member members ih =>
      obtain ⟨key, found⟩ := member
      simp only [lookup?] at h
      split at h
      · next later =>
        cases h
        exact .tail _ (ih later)
      · split at h
        · next same =>
          cases same
          cases h
          exact .head _
        · cases h

theorem SpelledOnce.object (keyed : place.isKeyed) (h : ∀ key ∈ Key.bilingual, key.isTwice members = false)
    (inside : ∀ member ∈ members, SpelledOnce (place.under member.1) member.2) :
    SpelledOnce place (.object members) := by
  intro inner found stands
  cases stands with
  | here => exact fun _ => h
  | member found stands => exact inside _ (mem_of_lookup? found) inner _ stands
  | single => cases keyed

theorem SpelledOnce.list {items : List Json} (h : ∀ item ∈ items, SpelledOnce .clause item) :
    SpelledOnce .clauses (.list items) := by
  intro inner found stands
  cases stands with
  | item hitem stands => exact h _ hitem inner found stands
  | single stands => cases stands

theorem SpelledOnce.not_isTwice (once : SpelledOnce place (.object members)) (keyed : place.isKeyed)
    (h : key ∈ Key.bilingual) : key.isTwice members = false :=
  once place members .here keyed key h

theorem SpelledOnce.under {name : String} (once : SpelledOnce place (.object members))
    (found : lookup? name members = some value) : SpelledOnce (place.under name) value :=
  fun inner found' stands => once inner found' (.member found stands)

/-- A member that was respelled is found under its other name. -/
theorem RespelledMembers.lookup? (h : RespelledMembers place selected members others) (name : String) :
    Option.Rel (Respelled (place.under name)) (lookup? name members)
      (lookup? (Key.respell selected name) others) := by
  induction members generalizing others with
  | nil =>
      cases h
      exact .none
  | cons member members ih =>
      cases h with
      | @cons _ _ first renamed value other members others hrenamed hvalue hrest =>
          subst hrenamed
          have rest := ih hrest
          -- members of two names stay members of two names, so the same one is the last of its name
          have same_name : Key.respell selected first = Key.respell selected name ↔ first = name :=
            (Key.respell_involutive selected).injective.eq_iff
          simp only [Json.lookup?, same_name]
          generalize Json.lookup? name members = found at rest
          generalize Json.lookup? (Key.respell selected name) others = found' at rest
          cases rest with
          | some hfound => exact .some hfound
          | none =>
              by_cases same : first = name
              · subst same
                simpa using hvalue
              · simp [same]

/-- The two spellings of a key have kept what is under them, or they have exchanged it. -/
theorem RespelledMembers.lookup?_spellings (h : RespelledMembers place selected members others)
    (hkey : key ∈ Key.bilingual) :
    (Option.Rel (Respelled (place.under key.french)) (Json.lookup? key.french members)
        (Json.lookup? key.french others) ∧
      Option.Rel (Respelled (place.under key.french)) (Json.lookup? key.english members)
        (Json.lookup? key.english others)) ∨
    (Option.Rel (Respelled (place.under key.french)) (Json.lookup? key.french members)
        (Json.lookup? key.english others) ∧
      Option.Rel (Respelled (place.under key.french)) (Json.lookup? key.english members)
        (Json.lookup? key.french others)) := by
  have french := h.lookup? key.french
  have english := h.lookup? key.english
  rw [Key.respell_french hkey] at french
  rw [Key.respell_english hkey, Key.under_english place key hkey] at english
  by_cases chosen : selected key
  · rw [if_pos chosen] at french english
    exact .inr ⟨french, english⟩
  · rw [if_neg chosen] at french english
    exact .inl ⟨french, english⟩

/-- Where a key is there in one spelling at most, what is found under it is found under it still. -/
theorem RespelledMembers.find? (h : RespelledMembers place selected members others) (hkey : key ∈ Key.bilingual)
    (once : key.isTwice members = false) :
    Option.Rel (Respelled (place.under key.french)) (key.find? members) (key.find? others) := by
  rcases h.lookup?_spellings hkey with ⟨french, english⟩ | ⟨french, english⟩
  · rw [Key.find?_eq_or, Key.find?_eq_or]
    exact rel_or french english
  · rw [Key.find?_eq_or_of_not_isTwice once, Key.find?_eq_or]
    exact rel_or english french

theorem RespelledMembers.isTwice_eq (h : RespelledMembers place selected members others) (hkey : key ∈ Key.bilingual) :
    key.isTwice others = key.isTwice members := by
  unfold Key.isTwice
  rcases h.lookup?_spellings hkey with ⟨french, english⟩ | ⟨french, english⟩
  · rw [isSome_eq_of_rel french, isSome_eq_of_rel english]
  · rw [isSome_eq_of_rel french, isSome_eq_of_rel english, Bool.and_comm]

/-- Nothing is respelled in values that have no rules, formulas or clauses in them. -/
theorem RespelledMembers.find?_eq (h : RespelledMembers place selected members others) (hkey : key ∈ Key.bilingual)
    (once : key.isTwice members = false) (leaf : place.under key.french = .elsewhere) :
    key.find? others = key.find? members := by
  have found := h.find? hkey once
  rw [leaf] at found
  simpa using map_eq_of_rel found (f := id) (g := id) fun value _ other related => related.eq_of_elsewhere

theorem RespelledMembers.find?_variations (h : RespelledMembers .formula selected members others) :
    Option.Rel (Respelled .clauses) (Key.variations.find? members) (Key.variations.find? others) := by
  have found := h.lookup? Key.variations.french
  rwa [Key.respell_variations, ← Key.find?_variations, ← Key.find?_variations] at found

/-! ## Formulas are decoded alike -/

theorem RespelledClauses.refl : (items : List Json) → RespelledClauses items items
  | [] => .nil
  | _ :: items => .cons .same (refl items)

/-- A single clause in place of a list is respelled as a list of one. -/
theorem Respelled.itemsOf (h : Respelled .clauses value other) :
    RespelledClauses (itemsOf value) (itemsOf other) := by
  cases h with
  | same => exact .refl _
  | object selected keyed => cases keyed
  | clauses items => exact items
  | single h =>
      cases h with
      | same => exact .refl _
      | object selected keyed members => exact .cons (.object selected keyed members) .nil

theorem SpelledOnce.of_mem_itemsOf (once : SpelledOnce .clauses value) {item : Json} (h : item ∈ itemsOf value) :
    SpelledOnce .clause item := by
  unfold CarbonSurvey.itemsOf at h
  split at h
  · exact fun inner found stands => once inner found (.item h stands)
  · obtain rfl := List.mem_singleton.1 h
    exact fun inner found stands => once inner found (.single stands)

theorem SpelledOnce.of_find? (once : SpelledOnce place (.object members)) (hkey : key ∈ Key.bilingual)
    (found : key.find? members = some value) : SpelledOnce (place.under key.french) value := by
  rw [Key.find?_eq_or, Option.or_eq_some_iff] at found
  rcases found with french | ⟨-, english⟩
  · exact once.under french
  · rw [← Key.under_english place key hkey]
    exact once.under english

theorem Expression.ofJson_object (members : List (String × Json)) : Expression.ofJson (.object members) =
    match Key.variations.find? members with
    | some found => .variations (Cases.ofItems none (CarbonSurvey.itemsOf found))
    | none => .ofMembers members := by
  rw [Expression.ofJson]
  split <;> simp [*]

theorem Cases.ofItems_object (fallback : Option Branch) (members : List (String × Json)) (rest : List Json) :
    Cases.ofItems fallback (.object members :: rest) =
      match Key.premise.find? members with
      | some premise =>
        .clause (.ofJson premise) (((Key.branch.find? members).map Branch.ofJson).getD .nothing)
          (Cases.ofItems fallback rest)
      | none => Cases.ofItems (fallback.or ((Key.otherwise.find? members).map Branch.ofJson)) rest := by
  rw [Cases.ofItems]
  split
  · split <;> simp [*]
  · split <;> simp [*]

theorem Cases.ofItems_of_not_object (fallback : Option Branch) {item : Json} (rest : List Json)
    (h : ∀ members, item ≠ .object members) :
    Cases.ofItems fallback (item :: rest) = Cases.ofItems fallback rest := by
  cases item with
  | object members => exact absurd rfl (h members)
  | _ => rw [Cases.ofItems]; simp

/-- The shapes other than variations have no formulas in them. -/
theorem Expression.ofMembers_respelled (h : RespelledMembers .formula selected members others)
    (once : SpelledOnce .formula (.object members)) : Expression.ofMembers others = Expression.ofMembers members := by
  have kept (key : Key) (hkey : key ∈ [Key.average, Key.sum, Key.anyOf, Key.allOf]) :
      key.find? others = key.find? members := by
    have listed : ∀ key ∈ [Key.average, Key.sum, Key.anyOf, Key.allOf],
        key ∈ Key.bilingual ∧ Place.formula.under key.french = .elsewhere := by decide +kernel
    obtain ⟨hkey, leaf⟩ := listed key hkey
    exact h.find?_eq hkey (once.not_isTwice rfl hkey) leaf
  unfold Expression.ofMembers
  rw [kept Key.average (by simp), kept Key.sum (by simp), kept Key.anyOf (by simp), kept Key.allOf (by simp)]

mutual

theorem Expression.ofJson_respelled {value other : Json} (h : Respelled .formula value other)
    (once : SpelledOnce .formula value) : Expression.ofJson other = Expression.ofJson value := by
  match value, other, h with
  | _, _, .same => rfl
  | .object members, .object others, .object selected keyed rows =>
      rw [Expression.ofJson_object, Expression.ofJson_object]
      have variations := rows.find?_variations
      cases hfound : Key.variations.find? members with
      | none =>
          rw [hfound] at variations
          rw [eq_none_of_rel_none variations]
          exact Expression.ofMembers_respelled rows once
      | some found =>
          rw [hfound] at variations
          obtain ⟨found', hfound', related⟩ := exists_of_rel_some variations
          have once_found : SpelledOnce .clauses found := by
            rw [Key.find?_variations] at hfound
            exact once.under hfound
          rw [hfound']
          exact congrArg Expression.variations
            (Cases.ofItems_respelled related.itemsOf (fun item hitem => once_found.of_mem_itemsOf hitem) none)
termination_by 2 * sizeOf value
decreasing_by exact sizeOf_items_lt (Key.sizeOf_of_find? hfound)

theorem Cases.ofItems_respelled {items others : List Json} (h : RespelledClauses items others)
    (once : ∀ item ∈ items, SpelledOnce .clause item) (fallback : Option Branch) :
    Cases.ofItems fallback others = Cases.ofItems fallback items := by
  match items, others, h with
  | _, _, .nil => rfl
  | item :: items, other :: others, .cons hitem hitems =>
      obtain ⟨once_item, once_items⟩ := List.forall_mem_cons.1 once
      have rest (fallback : Option Branch) : Cases.ofItems fallback others = Cases.ofItems fallback items :=
        Cases.ofItems_respelled hitems once_items fallback
      -- what is not an object has not been respelled, and is passed over in both lists
      match item, other, hitem with
      | .object members, _, .same => simp only [Cases.ofItems_object, rest]
      | .null, _, .same | .bool _, _, .same | .number _, _, .same | .text _, _, .same | .list _, _, .same =>
          rw [Cases.ofItems_of_not_object _ _ (by simp), Cases.ofItems_of_not_object _ _ (by simp), rest]
      | .object members, .object members', .object selected keyed rows =>
          have branches (key : Key) (hkey : key ∈ [Key.branch, Key.otherwise]) :
              (key.find? members').map Branch.ofJson = (key.find? members).map Branch.ofJson := by
            have listed : ∀ key ∈ [Key.branch, Key.otherwise],
                key ∈ Key.bilingual ∧ Place.clause.under key.french = .formula := by decide +kernel
            obtain ⟨hkey, inside⟩ := listed key hkey
            have found := rows.find? hkey (once_item.not_isTwice keyed hkey)
            refine map_eq_of_rel found fun branch hbranch branch' related => ?_
            have once_branch := once_item.of_find? hkey hbranch
            rw [inside] at related once_branch
            exact Branch.ofJson_respelled related once_branch
          have premise : Key.premise.find? members' = Key.premise.find? members :=
            rows.find?_eq (by decide) (once_item.not_isTwice keyed (by decide)) (by decide +kernel)
          have branch := branches Key.branch (by simp)
          have otherwise := branches Key.otherwise (by simp)
          simp only [Cases.ofItems_object, rest, premise, branch, otherwise]
termination_by 2 * sizeOf items
decreasing_by
  · exact sizeOf_tail_lt _ _
  · exact sizeOf_branch_lt (Key.sizeOf_of_find? hbranch) _

theorem Branch.ofJson_respelled {value other : Json} (h : Respelled .formula value other)
    (once : SpelledOnce .formula value) : Branch.ofJson other = Branch.ofJson value := by
  have formula : Expression.ofJson other = Expression.ofJson value := Expression.ofJson_respelled h once
  cases h with
  | same => rfl
  | object => rw [Branch.ofJson, Branch.ofJson, formula] <;> simp
termination_by 2 * sizeOf value + 1

end

/-! ## Rules are decoded alike -/

theorem Rule.clash?_eq_none (once : ∀ key ∈ Key.bilingual, key.isTwice members = false) :
    Rule.clash? members = none := by
  have listed : ∀ key ∈ [Key.applicableIf, Key.formula, Key.default], key ∈ Key.bilingual := by decide
  refine List.find?_eq_none.2 fun key hkey => ?_
  simpa [Key.isTwice] using once key (listed key hkey)

theorem Rule.formula_respelled (h : RespelledMembers .rule selected members others)
    (once : SpelledOnce .rule (.object members)) :
    (Rule.field? .formula others).map Formula.ofJson = (Rule.field? .formula members).map Formula.ofJson := by
  have inside : Place.rule.under Key.formula.french = .formula := by decide +kernel
  have formula : Option.Rel (Respelled (Place.rule.under Key.formula.french)) (Key.formula.find? members)
      (Key.formula.find? others) := h.find? (by decide) (once.not_isTwice rfl (by decide))
  rw [inside] at formula
  unfold Rule.field?
  cases hfound : Key.formula.find? members with
  | none =>
      rw [hfound] at formula
      rw [eq_none_of_rel_none formula]
  | some value =>
      rw [hfound] at formula
      obtain ⟨other, hother, related⟩ := exists_of_rel_some formula
      have once_formula : SpelledOnce .formula value := inside ▸ once.of_find? (by decide) hfound
      have decoded := Expression.ofJson_respelled related once_formula
      rw [hother]
      cases related with
      | same => rfl
      | object => exact congrArg (fun expression => some (Formula.expression expression)) decoded

theorem Rule.ofMembers_respelled (h : RespelledMembers .rule selected members others)
    (once : SpelledOnce .rule (.object members)) : Rule.ofMembers others = Rule.ofMembers members := by
  have kept (key : Key) (hkey : key ∈ [Key.applicableIf, Key.default]) :
      Rule.field? key others = Rule.field? key members := by
    have listed : ∀ key ∈ [Key.applicableIf, Key.default],
        key ∈ Key.bilingual ∧ Place.rule.under key.french = .elsewhere := by decide +kernel
    obtain ⟨hkey, leaf⟩ := listed key hkey
    rw [Rule.field?, h.find?_eq hkey (once.not_isTwice rfl hkey) leaf, Rule.field?]
  unfold Rule.ofMembers
  rw [kept Key.applicableIf (by simp), kept Key.default (by simp), Rule.formula_respelled h once]

namespace Entry

theorem exists_ofJson? (once : SpelledOnce .rule value) : ∃ entry, ofJson? value = some entry := by
  cases value with
  | object members =>
      rw [ofJson?, ofJson, Rule.clash?_eq_none fun key => once.not_isTwice rfl]
      exact ⟨_, rfl⟩
  | _ => exact ⟨_, rfl⟩

theorem ofJson?_respelled (h : Respelled .rule value other) (once : SpelledOnce .rule value) :
    ofJson? other = ofJson? value := by
  cases h with
  | same => rfl
  | object selected keyed rows =>
      have clash := Rule.clash?_eq_none fun key hkey => once.not_isTwice keyed hkey
      have other_clash := Rule.clash?_eq_none fun key hkey => by
        rw [rows.isTwice_eq hkey]
        exact once.not_isTwice keyed hkey
      rw [ofJson?, ofJson?, ofJson, ofJson, clash, other_clash, Rule.ofMembers_respelled rows once]

end Entry

namespace Model

/-- The names of the rows are kept, and the keys of the rules are respelled. -/
def RespelledRows (rows others : List (String × Json)) : Prop :=
  List.Forall₂ (fun row other => other.1 = row.1 ∧ Respelled .rule row.2 other.2) rows others

theorem mapM_ofJson?_respelled {rows others : List (String × Json)} (h : RespelledRows rows others)
    (once : ∀ row ∈ rows, SpelledOnce .rule row.2) :
    others.mapM (Reader.readRow Entry.ofJson?) = rows.mapM (Reader.readRow Entry.ofJson?) := by
  induction h with
  | nil => rfl
  | cons hrow _ ih =>
      obtain ⟨once_row, once_rows⟩ := List.forall_mem_cons.1 once
      rw [Reader.mapM_readRow_cons, Reader.mapM_readRow_cons, ih once_rows, hrow.1,
        Entry.ofJson?_respelled hrow.2 once_row]

/-- A model that has no key in both spellings at once is decoded, and so is every other spelling of it, with the same
    rules. -/
theorem spellings_decode_alike {limits : Limits} {document respelled : Document} {rows others : List (String × Json)}
    (object : (Reader.value Reader.maxNesting).readWhole document.text.toList = .ok (.object rows))
    (other : (Reader.value Reader.maxNesting).readWhole respelled.text.toList = .ok (.object others))
    (h : RespelledRows rows others) (once : ∀ row ∈ rows, SpelledOnce .rule row.2)
    (admitted : document.text.utf8ByteSize ≤ limits.maxModelBytes)
    (admitted' : respelled.text.utf8ByteSize ≤ limits.maxModelBytes) :
    ∃ model, read limits document = .ok model ∧ read limits respelled = .ok model := by
  obtain ⟨entries, decoded⟩ := Reader.exists_mapM_readRow_iff.2 fun row hrow => Entry.exists_ofJson? (once row hrow)
  refine ⟨NameTable.ofRows entries, (read_object_iff object admitted).2 ⟨entries, decoded, rfl⟩,
    (read_object_iff other admitted').2 ⟨entries, ?_, rfl⟩⟩
  rw [mapM_ofJson?_respelled h once]
  exact decoded

/-- A rule whose formula has a case, in any spelling of three of its keys. -/
def lunch (formula premise sum : String) : Json :=
  .object [(formula, .object [("variations",
    .list [.object [(premise, .text "b"), ("alors", .object [(sum, .list [.text "c"])])]])])]

/-- Where the objects of this rule stand. -/
theorem lunch_places : Place.rule.under "formule" = .formula ∧ Place.formula.under "variations" = .clauses ∧
    Place.clause.under "alors" = .formula := by
  decide +kernel

/-- In its clause the premise is respelled, and the branch is not. -/
theorem lunch_respelled : Respelled .rule (lunch "formule" "si" "somme") (lunch "formula" "if" "sum") := by
  obtain ⟨formula, clauses, branch⟩ := lunch_places
  refine .object (· = Key.formula) rfl (.cons (by decide +kernel) ?_ .nil)
  rw [formula]
  refine .object (fun _ => true) rfl (.cons (by decide +kernel) ?_ .nil)
  rw [clauses]
  refine .clauses (.cons ?_ .nil)
  refine .object (· = Key.premise) rfl (.cons (by decide +kernel) .same (.cons (by decide +kernel) ?_ .nil))
  rw [branch]
  exact .object (fun _ => true) rfl (.cons (by decide +kernel) .same .nil)

theorem lunch_spelledOnce : SpelledOnce .rule (lunch "formule" "si" "somme") := by
  obtain ⟨formula, clauses, branch⟩ := lunch_places
  refine .object rfl (by decide +kernel) (List.forall_mem_singleton.2 ?_)
  rw [formula]
  refine .object rfl (by decide +kernel) (List.forall_mem_singleton.2 ?_)
  rw [clauses]
  refine .list (List.forall_mem_singleton.2 (.object rfl (by decide +kernel) ?_))
  refine List.forall_mem_cons.2 ⟨.of_scalar nofun (by decide +kernel), List.forall_mem_singleton.2 ?_⟩
  rw [branch]
  refine .object rfl (by decide +kernel) (List.forall_mem_singleton.2 ?_)
  exact .of_scalar nofun (by decide +kernel)

def frenchLunch : String :=
  "\x7b\"a\":\x7b\"formule\":\x7b\"variations\":[\x7b\"si\":\"b\",\"alors\":\x7b\"somme\":[\"c\"]\x7d\x7d]\x7d\x7d\x7d"

def englishLunch : String :=
  "\x7b\"a\":\x7b\"formula\":\x7b\"variations\":[\x7b\"if\":\"b\",\"alors\":\x7b\"sum\":[\"c\"]\x7d\x7d]\x7d\x7d\x7d"

theorem lunch_decoded_alike :
    ∃ model, read {} ⟨"fr.json", frenchLunch⟩ = .ok model ∧ read {} ⟨"en.json", englishLunch⟩ = .ok model := by
  refine @spellings_decode_alike {} ⟨_, frenchLunch⟩ ⟨_, englishLunch⟩ [("a", lunch "formule" "si" "somme")]
    [("a", lunch "formula" "if" "sum")] ?french ?english (.cons ⟨rfl, lunch_respelled⟩ .nil)
    (List.forall_mem_singleton.2 lunch_spelledOnce) (by decide +kernel) (by decide +kernel)
  case french =>
    simp only [frenchLunch, String.reduceToList]
    rfl
  case english =>
    simp only [englishLunch, String.reduceToList]
    rfl

end Model

end CarbonSurvey
