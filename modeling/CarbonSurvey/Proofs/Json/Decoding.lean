import CarbonSurvey.Json.Decoder
import CarbonSurvey.Proofs.Json.Reading
import Mathlib.Data.List.DropRight

/-! # Decoding while reading

A document is decoded as it is read. `Decodes reader plain decode?` says that this is as if a plain reader had read it
first: the two readers take the same text, and the one gives what the other's value is decoded as. It carries over from
what is read under each name to whole objects (`Decodes.objectOf`), and an object is read like any other value
(`decodes_objectOf`), so what is said of decoding may be said of JSON values.
-/

namespace CarbonSurvey.Json

/-- The members of a value that has some. -/
def members? : Json → Option (List (String × Json))
  | .object members => some members
  | _ => none

theorem members?_eq_some_iff {value : Json} {rows : List (String × Json)} :
    value.members? = some rows ↔ value = .object rows := by
  cases value with
  | object members => simp [members?]
  | _ => simp [members?]

namespace Reader

variable {α β γ : Type} {reader : Reader β} {plain : Reader α} {decode? : α → Option β}

/-- Faults aside, the reader decodes what the plain one reads. -/
def Decodes (reader : Reader β) (plain : Reader α) (decode? : α → Option β) : Prop :=
  ∀ text, (reader text).toOption =
    (plain text).toOption.bind fun taken => (decode? taken.1).map fun value => (value, taken.2)

theorem toOption_pure (value : α) (text : List Char) :
    ((Pure.pure value : Reader α) text).toOption = some (value, text) :=
  rfl

theorem Decodes.pure {value : α} {decoded : β} (h : decode? value = some decoded) :
    Decodes (Pure.pure decoded) (Pure.pure value) decode? := by
  intro text
  simp [toOption_pure, h]

theorem Decodes.after (start : Reader γ) {readers : γ → Reader β} {plains : γ → Reader α}
    (h : ∀ found, Decodes (readers found) (plains found) decode?) :
    Decodes (start >>= readers) (start >>= plains) decode? := by
  intro text
  rw [toOption_bind, toOption_bind]
  cases (start text).toOption with
  | none => rfl
  | some taken => exact h taken.1 taken.2

theorem Decodes.enclosed (h : Decodes reader plain decode?) (finish : Reader Unit) :
    Decodes (enclosed finish reader) (enclosed finish plain) decode? := by
  intro text
  rw [toOption_enclosed, toOption_enclosed, h text]
  cases (plain text).toOption with
  | none => rfl
  | some taken =>
      cases decoded : decode? taken.1 <;> cases ended : (finish taken.2).toOption <;> simp [decoded, ended]

theorem Decodes.readWhole (h : Decodes reader plain decode?) (text : List Char) :
    (readWhole reader text).toOption = (readWhole plain text).toOption.bind decode? := by
  rw [toOption_readWhole, toOption_readWhole, h text]
  cases (plain text).toOption with
  | none => rfl
  | some taken =>
      cases decoded : decode? taken.1 <;> cases ended : (finish taken.2).toOption <;> simp [decoded, ended]

theorem Decodes.eq_ok (h : Decodes reader plain decode?) {text rest : List Char} {value : α} {decoded : β}
    (read : plain text = .ok (value, rest)) (hdecoded : decode? value = some decoded) :
    reader text = .ok (decoded, rest) := by
  have taken : (reader text).toOption = some (decoded, rest) := by
    rw [h text, read]
    change (decode? value).map _ = _
    rw [hdecoded]
    rfl
  cases found : reader text with
  | ok result =>
      rw [found] at taken
      exact congrArg Except.ok (Option.some.inj taken)
  | error fault =>
      rw [found] at taken
      cases taken

theorem Decodes.trans {middle : Reader γ} {first? : α → Option γ} {last? : γ → Option β}
    (last : Decodes reader middle last?) (first : Decodes middle plain first?) :
    Decodes reader plain fun value => (first? value).bind last? := by
  intro text
  rw [last text, first text]
  cases (plain text).toOption with
  | none => rfl
  | some taken => cases decoded : first? taken.1 <;> simp [decoded]

theorem Decodes.map (h : Decodes reader plain decode?) (f : β → γ) :
    Decodes (f <$> reader) plain fun value => (decode? value).map f := by
  intro text
  rw [map_eq_bind, toOption_bind, h text]
  cases (plain text).toOption with
  | none => rfl
  | some taken => cases decoded : decode? taken.1 <;> simp [decoded, toOption_pure]

/-- One member is decoded, and then the others. -/
theorem Decodes.member (h : Decodes reader plain decode?) {readers : Reader (List (String × β))}
    {plains : Reader (List (String × α))} (others : Decodes readers plains fun rows => rows.mapM (readRow decode?))
    (name : String) :
    Decodes (reader >>= fun value => readers >>= fun rows => Pure.pure ((name, value) :: rows))
      (plain >>= fun value => plains >>= fun rows => Pure.pure ((name, value) :: rows))
      fun rows => rows.mapM (readRow decode?) := by
  intro text
  simp only [toOption_bind, h text]
  cases (plain text).toOption with
  | none => rfl
  | some taken =>
      obtain ⟨value, rest⟩ := taken
      have others := others rest
      cases read : (plains rest).toOption with
      | none => cases decode? value <;> simp [others, read]
      | some taken =>
          simp only [toOption_pure, read, Option.bind_some, mapM_readRow_cons]
          cases decode? value with
          | none => rfl
          | some decoded =>
              simp only [Option.map_some, Option.bind_some, others, read]
              cases taken.1.mapM (readRow decode?) <;> rfl

/-- The members of an object are decoded one after the other. -/
theorem Decodes.members (h : Decodes reader plain decode?) (bound : List Char) (first : Bool) :
    Decodes (members reader bound first) (members plain bound first) fun rows => rows.mapM (readRow decode?) := by
  induction bound generalizing first with
  | nil =>
      intro text
      rfl
  | cons mark bound ih =>
      refine .after (nextKey first) fun more => ?_
      cases more with
      | false => exact .pure rfl
      | true => exact .after quoted fun name => .after colon fun _ => h.member (ih false) name

/-- What is refused is not read. -/
theorem toOption_wrongKind (expected : String) (text : List Char) :
    ((wrongKind expected : Reader α) text).toOption = none := by
  unfold wrongKind
  rw [toOption_bind]
  cases (upcoming text).toOption with
  | none => rfl
  | some taken =>
      obtain ⟨shown, rest⟩ := taken
      dsimp only [Option.bind_some]
      split
      · rfl
      · rfl
      · rw [toOption_bind]
        cases (scalar rest).toOption <;> rfl

theorem Decodes.objectOf (h : Decodes reader plain decode?) :
    Decodes (objectOf reader) (objectOf plain) fun rows => rows.mapM (readRow decode?) := by
  refine .after upcoming fun shown => ?_
  split
  · refine .after advance fun _ text => ?_
    exact (h.members text true).enclosed objectEnd text
  · intro text
    rw [toOption_wrongKind, toOption_wrongKind]
    rfl

theorem scalar_ne_object (text rest : List Char) (rows : List (String × Json)) :
    (scalar text).toOption ≠ some (.object rows, rest) := by
  unfold scalar
  split
  · nofun
  · simp only [map_eq_bind]
    split_ifs
    on_goal 6 => nofun
    all_goals simp [toOption_bind, toOption_pure, Option.bind_eq_some_iff]

/-- Spaces in front are skipped. -/
theorem upcoming_bind_dropWhile (next : Option Char → Reader α) (text : List Char) :
    (upcoming >>= next) (text.dropWhile isSpace) = (upcoming >>= next) text := by
  simp [bind_apply, upcoming, List.dropWhile_idempotent]

theorem value_dropWhile (room : Nat) (text : List Char) : value room (text.dropWhile isSpace) = value room text := by
  cases room <;> exact upcoming_bind_dropWhile _ text

theorem visible_of_dropWhile {text after : List Char} {c : Char} (shown : text.dropWhile isSpace = c :: after) :
    isSpace c = false := by
  have head := List.head?_dropWhile_not isSpace text
  rw [shown] at head
  simpa using head

/-- What is read as an object among all values is what a reader of objects reads. -/
theorem decodes_objectOf (room : Nat) : Decodes (Reader.objectOf (value room)) (value (room + 1)) members? := by
  intro text
  rw [← value_dropWhile, Reader.objectOf, ← upcoming_bind_dropWhile]
  have no_object (text : List Char) :
      ((scalar text).toOption.bind fun taken => (members? taken.1).map fun rows => (rows, taken.2)) = none := by
    refine Option.bind_eq_none_iff.2 fun taken read => ?_
    obtain ⟨found, rest⟩ := taken
    cases found with
    | object rows => exact absurd read (scalar_ne_object text rest rows)
    | _ => rfl
  cases shown : text.dropWhile isSpace with
  | nil => exact (no_object []).symm
  | cons c after =>
      have visible := visible_of_dropWhile shown
      rw [bind_of_ok (upcoming_cons visible after)]
      by_cases brace : c = '\x7b'
      · subst brace
        change (object (value room) after).toOption =
          ((Json.object <$> object (value room) : Reader Json) after).toOption.bind _
        rw [map_eq_bind, toOption_bind]
        cases (object (value room) after).toOption <;> rfl
      · have refused : (wrongKind "a map" (c :: after) : Except Fault (List (String × Json) × List Char)).toOption = none :=
          toOption_wrongKind _ _
        have unread : ((value (room + 1) (c :: after)).toOption.bind fun taken =>
            (members? taken.1).map fun rows => (rows, taken.2)) = none := by
          by_cases bracket : c = '['
          · subst bracket
            change (((Json.list <$> list (value room) : Reader Json) after).toOption.bind _) = none
            rw [map_eq_bind, toOption_bind]
            cases (list (value room) after).toOption <;> rfl
          · rw [value_eq_scalar visible bracket brace]
            exact no_object (c :: after)
        rw [unread]
        simpa [brace] using refused

end Reader

end CarbonSurvey.Json
