import EdgeFlow.Library.Json.Parsing

/-! JSON texts without spaces, as `dump` of nlohmann's library writes them, and their reading. -/

set_option autoImplicit false

namespace EdgeFlow.Library.Json
open Byte

mutual

/-- `dump()`, which leaves no space between the tokens. -/
def dump : Json → Bytes
  | .null => ascii "null"
  | .bool true => ascii "true"
  | .bool false => ascii "false"
  | .number n => n.lexeme
  | .string s => dumpsString s
  | .array items => openBracket :: (dumpItems items ++ [closeBracket])
  | .object members => openBrace :: (dumpMembers members ++ [closeBrace])

def dumpItems : List Json → Bytes
  | [] => []
  | [item] => dump item
  | item :: next :: items => dump item ++ comma :: dumpItems (next :: items)

def dumpMembers : List (Text × Json) → Bytes
  | [] => []
  | [(key, value)] => dumpsString key ++ colon :: dump value
  | (key, value) :: next :: members => dumpsString key ++ colon :: (dump value ++ comma :: dumpMembers (next :: members))

end

/-! ## What a text consists of -/

section
variable {P : Bytes → Prop} (tokenwise : Tokenwise P)
include tokenwise

mutual

theorem Tokenwise.dump : ∀ value, P (dump value)
  | .null => tokenwise.word _ (by decide)
  | .bool true => tokenwise.word _ (by decide)
  | .bool false => tokenwise.word _ (by decide)
  | .number n => tokenwise.number n
  | .string s => tokenwise.string s
  | .array items => tokenwise.cons (by decide)
      (tokenwise.append (Tokenwise.dumpItems items) (tokenwise.mark _ (by decide)))
  | .object members =>
    tokenwise.cons (by decide) (tokenwise.append (Tokenwise.dumpMembers members) (tokenwise.mark _ (by decide)))

theorem Tokenwise.dumpItems : ∀ items, P (dumpItems items)
  | [] => tokenwise.nil
  | [item] => Tokenwise.dump item
  | item :: next :: items =>
    tokenwise.append (Tokenwise.dump item) (tokenwise.cons (by decide) (Tokenwise.dumpItems (next :: items)))

theorem Tokenwise.dumpMembers : ∀ members, P (dumpMembers members)
  | [] => tokenwise.nil
  | [(key, value)] => tokenwise.append (tokenwise.string key) (tokenwise.cons (by decide) (Tokenwise.dump value))
  | (key, value) :: next :: members =>
    tokenwise.append (tokenwise.string key) (tokenwise.cons (by decide)
      (tokenwise.append (Tokenwise.dump value) (tokenwise.cons (by decide) (Tokenwise.dumpMembers (next :: members)))))

end

end

theorem dump_valid (value : Json) : Utf8.Valid (dump value) := tokenwise_valid.dump value

/-! ## Reading -/

/-- A value begins with no blank and no closing bracket. -/
theorem dump_head (value : Json) : ∃ first rest, dump value = first :: rest ∧ ¬ IsBlank first ∧
    first ≠ closeBracket ∧ first ≠ closeBrace := by
  cases value with
  | null => exact ⟨_, _, rfl, by decide⟩
  | bool b => cases b <;> exact ⟨_, _, rfl, by decide⟩
  | string s => exact ⟨_, _, rfl, by decide⟩
  | array items => exact ⟨_, _, rfl, by decide⟩
  | object members => exact ⟨_, _, rfl, by decide⟩
  | number n => exact dumps_head (.number n)

theorem expect_dumpItems (item : Json) (items : List Json) (rest : Bytes) :
    expect closeBracket (dumpItems (item :: items) ++ rest) = none := by
  obtain ⟨first, more, spelled, notBlank, notBracket, -⟩ := dump_head item
  cases items with
  | nil => rw [dumpItems, spelled, List.cons_append, expect_other notBlank notBracket]
  | cons next items =>
    rw [dumpItems, spelled, List.cons_append, List.cons_append, expect_other notBlank notBracket]

theorem expect_dumpMembers (member : Text × Json) (members : List (Text × Json)) (rest : Bytes) :
    expect closeBrace (dumpMembers (member :: members) ++ rest) = none := by
  obtain ⟨key, value⟩ := member
  have notBlank : ¬ IsBlank quote := by decide
  cases members with
  | nil => exact expect_other notBlank (by decide) _
  | cons next members => exact expect_other notBlank (by decide) _

mutual

/-- A value is read off the front of the text it was written to. -/
theorem parseValue_dump : ∀ (value : Json) (fuel : Nat) (rest : Bytes), (dump value).length ≤ fuel → Ends rest →
    parseValue fuel (dump value ++ rest) = some (value, rest)
  | .null, fuel, rest, enough, ends => parseValue_dumps .null fuel rest enough ends
  | .bool true, fuel, rest, enough, ends => parseValue_dumps (.bool true) fuel rest enough ends
  | .bool false, fuel, rest, enough, ends => parseValue_dumps (.bool false) fuel rest enough ends
  | .number n, fuel, rest, enough, ends => parseValue_dumps (.number n) fuel rest enough ends
  | .string s, fuel, rest, enough, ends => parseValue_dumps (.string s) fuel rest enough ends
  | .array items, fuel, rest, enough, _ => by
    cases fuel with
    | zero => cases enough
    | succ fuel =>
      have notBlank : ¬ IsBlank openBracket := by decide
      have notQuote : openBracket ≠ quote := by decide
      have shape : dump (.array items) ++ rest = openBracket :: (dumpItems items ++ closeBracket :: rest) := by
        simp [dump]
      rw [shape]
      simp only [parseValue, skipBlank_of_not_blank notBlank, if_neg notQuote, if_true]
      cases items with
      | nil =>
        have closing : ¬ IsBlank closeBracket := by decide
        simp only [dumpItems, List.nil_append, expect_here closing]
      | cons item items =>
        have bound : (dumpItems (item :: items)).length < fuel := by
          simp only [dump, List.length_cons, List.length_append, List.length_nil] at enough
          omega
        simp only [expect_dumpItems, parseItems_dump (item :: items) fuel rest (List.cons_ne_nil _ _) bound,
          Option.map_some]
  | .object members, fuel, rest, enough, _ => by
    cases fuel with
    | zero => cases enough
    | succ fuel =>
      have notBlank : ¬ IsBlank openBrace := by decide
      have notQuote : openBrace ≠ quote := by decide
      have notBracket : openBrace ≠ openBracket := by decide
      have shape : dump (.object members) ++ rest = openBrace :: (dumpMembers members ++ closeBrace :: rest) := by
        simp [dump]
      rw [shape]
      simp only [parseValue, skipBlank_of_not_blank notBlank, if_neg notQuote, if_neg notBracket, if_true]
      cases members with
      | nil =>
        have closing : ¬ IsBlank closeBrace := by decide
        simp only [dumpMembers, List.nil_append, expect_here closing]
      | cons member members =>
        have bound : (dumpMembers (member :: members)).length < fuel := by
          simp only [dump, List.length_cons, List.length_append, List.length_nil] at enough
          omega
        simp only [expect_dumpMembers, parseMembers_dump (member :: members) fuel rest (List.cons_ne_nil _ _) bound,
          Option.map_some]

theorem parseItems_dump : ∀ (items : List Json) (fuel : Nat) (rest : Bytes), items ≠ [] →
    (dumpItems items).length < fuel → parseItems fuel (dumpItems items ++ closeBracket :: rest) = some (items, rest)
  | [], _, _, nonempty, _ => absurd rfl nonempty
  | [item], fuel, rest, _, enough => by
    obtain ⟨fuel, rfl⟩ := Nat.exists_eq_succ_of_ne_zero (Nat.ne_zero_of_lt enough)
    have closing : ¬ IsBlank closeBracket := by decide
    rw [dumpItems] at enough ⊢
    simp only [parseItems, parseValue_dump item fuel (closeBracket :: rest) (by omega) (ends_cons rfl _),
      Option.bind_eq_bind, Option.bind_some, expect_here closing]
  | item :: next :: items, fuel, rest, _, enough => by
    obtain ⟨fuel, rfl⟩ := Nat.exists_eq_succ_of_ne_zero (Nat.ne_zero_of_lt enough)
    have isComma : ¬ IsBlank comma := by decide
    have notBracket : comma ≠ closeBracket := by decide
    rw [dumpItems] at enough ⊢
    simp only [List.length_append, List.length_cons] at enough
    have more := parseItems_dump (next :: items) fuel rest (List.cons_ne_nil _ _) (by omega)
    rw [List.append_assoc, List.cons_append]
    simp only [parseItems, parseValue_dump item fuel _ (by omega) (ends_comma _), Option.bind_eq_bind,
      Option.bind_some, expect_other isComma notBracket, expect_here isComma, more]

theorem parseMembers_dump : ∀ (members : List (Text × Json)) (fuel : Nat) (rest : Bytes), members ≠ [] →
    (dumpMembers members).length < fuel →
      parseMembers fuel (dumpMembers members ++ closeBrace :: rest) = some (members, rest)
  | [], _, _, nonempty, _ => absurd rfl nonempty
  | [(key, value)], fuel, rest, _, enough => by
    obtain ⟨fuel, rfl⟩ := Nat.exists_eq_succ_of_ne_zero (Nat.ne_zero_of_lt enough)
    have closing : ¬ IsBlank closeBrace := by decide
    have isColon : ¬ IsBlank colon := by decide
    have isQuote : ¬ IsBlank quote := by decide
    have same : dumpMembers [(key, value)] ++ closeBrace :: rest =
        quote :: (escape key.bytes ++ quote :: colon :: (dump value ++ closeBrace :: rest)) := by
      simp [dumpMembers, dumpsString, quoted]
    have bound : (dump value).length ≤ fuel := by
      simp only [dumpMembers, List.length_append, List.length_cons] at enough
      omega
    rw [same]
    simp only [parseMembers, expect_here isQuote, parseString_escape, expect_here isColon,
      parseValue_dump value fuel (closeBrace :: rest) bound (ends_cons rfl _), Option.bind_eq_bind,
      Option.bind_some, expect_here closing]
  | (key, value) :: next :: members, fuel, rest, _, enough => by
    obtain ⟨fuel, rfl⟩ := Nat.exists_eq_succ_of_ne_zero (Nat.ne_zero_of_lt enough)
    have isComma : ¬ IsBlank comma := by decide
    have isColon : ¬ IsBlank colon := by decide
    have isQuote : ¬ IsBlank quote := by decide
    have notBrace : comma ≠ closeBrace := by decide
    have same : dumpMembers ((key, value) :: next :: members) ++ closeBrace :: rest =
        quote :: (escape key.bytes ++ quote :: colon ::
          (dump value ++ comma :: (dumpMembers (next :: members) ++ closeBrace :: rest))) := by
      simp [dumpMembers, dumpsString, quoted]
    rw [dumpMembers] at enough
    simp only [List.length_append, List.length_cons] at enough
    have more := parseMembers_dump (next :: members) fuel rest (List.cons_ne_nil _ _) (by omega)
    rw [same]
    simp only [parseMembers, expect_here isQuote, parseString_escape, expect_here isColon,
      parseValue_dump value fuel _ (by omega) (ends_comma _), Option.bind_eq_bind, Option.bind_some,
      expect_other isComma notBrace, expect_here isComma, more]

end

/-- What is dumped is read back. -/
theorem parse_dump (value : Json) : parse (dump value) = some value := by
  have parsed := parseValue_dump value ((dump value).length + 1) [] (by omega) (by simp [Ends])
  rw [List.append_nil] at parsed
  simp [parse, parsed, skipBlank]

end EdgeFlow.Library.Json
