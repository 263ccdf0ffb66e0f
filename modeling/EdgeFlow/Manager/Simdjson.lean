import EdgeFlow.Library.Json.Strings
import Mathlib.Data.List.TakeWhile

/-! What unit-manager relies on simdjson's On-Demand parser for.

The parser is a parameter: whether `iterate` accepts a text, and the string
member a lookup finds. Which of several members of one name is found depends on
the lookups made before, since each goes on from where the last one ended.
-/

set_option autoImplicit false

namespace EdgeFlow.Manager
open Library Library.Byte

/-- A string member of an object, where it stands in a text. -/
structure Member (text key : Bytes) where
  before : Bytes
  beforeColon : Bytes
  afterColon : Bytes
  raw : Bytes
  rest : Bytes
  value : Bytes
  located : text = before ++ quoted key ++ (beforeColon ++ colon :: afterColon) ++ quoted raw ++ rest
  opened : ∃ b ∈ before.getLast?, b = openBrace ∨ b = comma ∨ IsBlank b
  blankBefore : ∀ b ∈ beforeColon, IsBlank b
  blankAfter : ∀ b ∈ afterColon, IsBlank b
  spelled : Json.unescape raw = some value
  valid : Utf8.Valid value

/-- `simdjson::ondemand`: `iterate`, and `doc[key].get_string` after earlier lookups. -/
structure Simdjson where
  accepts : Bytes → Bool
  field : (text : Bytes) → (earlier : List Bytes) → (key : Bytes) → Option (Member text key)
  utf8 : ∀ text, accepts text = true → Utf8.Valid text

/-- The text `get_string` leaves in its argument, which starts out empty. -/
def Simdjson.getString (simdjson : Simdjson) (text : Bytes) (earlier : List Bytes) (key : Bytes) : Bytes :=
  match simdjson.field text earlier key with
  | some member => member.value
  | none => []

/-! ## A parser to run the model with -/

/-- Where a top-level member of this name begins. `atKey` says that a key comes next. -/
def memberAt (key : Bytes) : (depth : Nat) → (inString escaped atKey : Bool) → Bytes → Option Nat
  | _, _, _, _, [] => none
  | depth, true, escaped, atKey, b :: rest =>
    (memberAt key depth (escaped || b ≠ quote) (!escaped && b = backslash) atKey rest).map (· + 1)
  | depth, false, _, atKey, b :: rest =>
    if b = quote then
      if depth = 1 ∧ atKey = true ∧ quoted key <+: b :: rest then some 0
      else (memberAt key depth true false false rest).map (· + 1)
    else
      let opens := b = openBrace ∨ b = openBracket
      let closes := b = closeBrace ∨ b = closeBracket
      let depth := if opens then depth + 1 else if closes then depth - 1 else depth
      let atKey := if IsBlank b then atKey else b = openBrace ∨ b = comma
      (memberAt key depth false false atKey rest).map (· + 1)

def memberFrom (text key : Bytes) (position : Nat) : Option (Member text key) :=
  let before := text.take position
  let afterKey := text.drop (position + (quoted key).length)
  let beforeColon := afterKey.takeWhile fun b => IsBlank b
  let afterGap := (afterKey.drop beforeColon.length).drop 1
  let afterColon := afterGap.takeWhile fun b => IsBlank b
  let body := (afterGap.drop afterColon.length).drop 1
  match Json.readString .plain body with
  | none => none
  | some (value, rest) =>
    let raw := body.take (body.length - rest.length - 1)
    if found : text = before ++ quoted key ++ (beforeColon ++ colon :: afterColon) ++ quoted raw ++ rest ∧
        (∃ b ∈ before.getLast?, b = openBrace ∨ b = comma ∨ IsBlank b) ∧
        Json.unescape raw = some value ∧ Utf8.Valid value then
      some {
        before, beforeColon, afterColon, raw, rest, value
        located := found.1
        opened := found.2.1
        blankBefore := fun b member => by simpa using List.mem_takeWhile_imp member
        blankAfter := fun b member => by simpa using List.mem_takeWhile_imp member
        spelled := found.2.2.1
        valid := found.2.2.2 }
    else none

/-- The first member of a name, on any valid text that is an object. -/
def Simdjson.firstMember : Simdjson where
  accepts text := Utf8.Valid text ∧ (text.dropWhile fun b => IsBlank b).head? = some openBrace
  field text _ key := (memberAt key 0 false false false text).bind (memberFrom text key)
  utf8 := by simp +contextual

/-! ### Where it finds a member -/

theorem memberAt_within {key text : Bytes} {depth : Nat} {inString escaped atKey : Bool} {position : Nat}
    (found : memberAt key depth inString escaped atKey text = some position) :
    position + (quoted key).length ≤ text.length := by
  induction text generalizing depth inString escaped atKey position with
  | nil => cases found
  | cons b rest ih =>
    have behind {depth : Nat} {inString escaped atKey : Bool}
        (found : (memberAt key depth inString escaped atKey rest).map (· + 1) = some position) :
        position + (quoted key).length ≤ (b :: rest).length := by
      obtain ⟨later, inRest, rfl⟩ := Option.map_eq_some_iff.mp found
      have fits := ih inRest
      rw [List.length_cons]
      omega
    cases inString with
    | true => exact behind found
    | false =>
      rw [memberAt] at found
      split at found
      · split at found
        · next here =>
          cases found
          simpa using here.2.2.length_le
        · exact behind found
      · exact behind found

/-- A member found in the front of a text is the one that is found. -/
theorem memberAt_append {key front : Bytes} {depth : Nat} {inString escaped atKey : Bool} {position : Nat}
    (found : memberAt key depth inString escaped atKey front = some position) (tail : Bytes) :
    memberAt key depth inString escaped atKey (front ++ tail) = some position := by
  induction front generalizing depth inString escaped atKey position with
  | nil => cases found
  | cons b rest ih =>
    have behind {depth : Nat} {inString escaped atKey : Bool}
        (found : (memberAt key depth inString escaped atKey rest).map (· + 1) = some position) :
        (memberAt key depth inString escaped atKey (rest ++ tail)).map (· + 1) = some position := by
      obtain ⟨later, inRest, rfl⟩ := Option.map_eq_some_iff.mp found
      rw [ih inRest]
      rfl
    rw [List.cons_append]
    cases inString with
    | true => exact behind found
    | false =>
      -- the key does not reach into the tail, as it is found in the front
      have within := memberAt_within found
      have same : quoted key <+: b :: (rest ++ tail) ↔ quoted key <+: b :: rest := by
        rw [← List.cons_append]
        refine ⟨fun here => List.prefix_of_prefix_length_le here (List.prefix_append _ _) (by omega), fun here => ?_⟩
        exact here.trans (List.prefix_append _ _)
      rw [memberAt] at found ⊢
      simp only [same]
      split at found
      · next isQuote =>
        rw [if_pos isQuote]
        split at found
        · next here => rw [if_pos here, found]
        · next absent =>
          rw [if_neg absent]
          exact behind found
      · next notQuote =>
        rw [if_neg notQuote]
        exact behind found

/-- A member as `json.dumps` spells it is read where it stands. -/
theorem memberFrom_eq {key before raw value : Bytes}
    (opened : ∃ b ∈ before.getLast?, b = openBrace ∨ b = comma ∨ IsBlank b)
    (spelled : Json.unescape raw = some value) (valid : Utf8.Valid value) (rest : Bytes) :
    ∃ member, memberFrom (before ++ quoted key ++ ([colon, space] ++ quoted raw ++ rest)) key before.length =
      some member ∧ member.value = value := by
  have notBlank : ¬ IsBlank colon ∧ IsBlank space ∧ ¬ IsBlank quote := by decide
  have front : (before ++ quoted key ++ ([colon, space] ++ quoted raw ++ rest)).take before.length = before := by
    rw [List.append_assoc, List.take_left]
  have afterKey : (before ++ quoted key ++ ([colon, space] ++ quoted raw ++ rest)).drop
      (before.length + (quoted key).length) = colon :: space :: quote :: (raw ++ quote :: rest) := by
    rw [← List.drop_drop]
    simp [quoted]
  have read := Json.readString_of_unescape spelled rest
  have cut : (raw ++ quote :: rest).take ((raw ++ quote :: rest).length - rest.length - 1) = raw := by
    have size : (raw ++ quote :: rest).length - rest.length - 1 = raw.length := by
      simp only [List.length_append, List.length_cons]
      omega
    rw [size, List.take_left]
  have found : before ++ quoted key ++ ([colon, space] ++ quoted raw ++ rest) =
      before ++ quoted key ++ ([] ++ colon :: [space]) ++ quoted raw ++ rest := by
    simp
  unfold memberFrom
  simp only [front, afterKey, List.takeWhile_cons, notBlank, decide_false, decide_true, Bool.false_eq_true, if_false,
    if_true, List.length_nil, List.length_singleton, List.drop_zero, List.drop_succ_cons, read, cut]
  rw [dif_pos ⟨found, opened, spelled, valid⟩]
  exact ⟨_, rfl, rfl⟩

theorem Simdjson.firstMember_field {text key before raw value rest : Bytes}
    (located : text = before ++ quoted key ++ ([colon, space] ++ quoted raw ++ rest))
    (first : memberAt key 0 false false false (before ++ quoted key) = some before.length)
    (opened : ∃ b ∈ before.getLast?, b = openBrace ∨ b = comma ∨ IsBlank b)
    (spelled : Json.unescape raw = some value) (valid : Utf8.Valid value) (earlier : List Bytes) :
    ∃ member, Simdjson.firstMember.field text earlier key = some member ∧ member.value = value := by
  subst located
  have position := memberAt_append first ([colon, space] ++ quoted raw ++ rest)
  obtain ⟨member, read, isValue⟩ := memberFrom_eq opened spelled valid rest
  refine ⟨member, ?_, isValue⟩
  show (memberAt key 0 false false false _).bind _ = _
  rw [position, Option.bind_some, read]

end EdgeFlow.Manager
