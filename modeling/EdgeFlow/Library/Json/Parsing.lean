import EdgeFlow.Library.Json.Syntax

/-! A JSON parser, and the texts of `json.dumps` read back with it.

Each value is parsed off the front of the input. The fuel bounds the values inside
one another and beside one another, so the length of the input is enough of it.
-/

set_option autoImplicit false

namespace EdgeFlow.Library.Json
open Byte

def skipBlank (input : Bytes) : Bytes := input.dropWhile fun b => decide (IsBlank b)

/-- What follows a character that must come next. -/
def expect (b : Byte) (input : Bytes) : Option Bytes :=
  match skipBlank input with
  | c :: rest => if c = b then some rest else none
  | [] => none

def parseLiteral (word : Bytes) (value : Json) (input : Bytes) : Option (Json × Bytes) :=
  if word <+: input then some (value, input.drop word.length) else none

/-- A string from behind its opening quote. -/
def parseString (input : Bytes) : Option (Text × Bytes) :=
  match readString .plain input with
  | some (bytes, rest) => if valid : Utf8.Valid bytes then some (⟨bytes, valid⟩, rest) else none
  | none => none

def parseNumber (input : Bytes) : Option (Json × Bytes) :=
  let lexeme := input.takeWhile isNumberChar
  if wellFormed : isNumber lexeme = true then some (.number ⟨lexeme, wellFormed⟩, input.dropWhile isNumberChar)
  else none

mutual

def parseValue : Nat → Bytes → Option (Json × Bytes)
  | 0, _ => none
  | fuel + 1, input =>
    match skipBlank input with
    | [] => none
    | first :: rest =>
      if first = quote then (parseString rest).map fun (s, rest) => (.string s, rest)
      else if first = openBracket then
        match expect closeBracket rest with
        | some rest => some (.array [], rest)
        | none => (parseItems fuel rest).map fun (items, rest) => (.array items, rest)
      else if first = openBrace then
        match expect closeBrace rest with
        | some rest => some (.object [], rest)
        | none => (parseMembers fuel rest).map fun (members, rest) => (.object members, rest)
      else if first = 110 then parseLiteral (ascii "null") .null (first :: rest)
      else if first = 116 then parseLiteral (ascii "true") (.bool true) (first :: rest)
      else if first = 102 then parseLiteral (ascii "false") (.bool false) (first :: rest)
      else parseNumber (first :: rest)

def parseItems : Nat → Bytes → Option (List Json × Bytes)
  | 0, _ => none
  | fuel + 1, input => do
    let (item, rest) ← parseValue fuel input
    match expect closeBracket rest with
    | some rest => some ([item], rest)
    | none => do
      let rest ← expect comma rest
      let (items, rest) ← parseItems fuel rest
      some (item :: items, rest)

def parseMembers : Nat → Bytes → Option (List (Text × Json) × Bytes)
  | 0, _ => none
  | fuel + 1, input => do
    let rest ← expect quote input
    let (key, rest) ← parseString rest
    let rest ← expect colon rest
    let (value, rest) ← parseValue fuel rest
    match expect closeBrace rest with
    | some rest => some ([(key, value)], rest)
    | none => do
      let rest ← expect comma rest
      let (members, rest) ← parseMembers fuel rest
      some ((key, value) :: members, rest)

end

/-- A whole text that is one value. -/
def parse (input : Bytes) : Option Json := do
  let (value, rest) ← parseValue (input.length + 1) input
  if skipBlank rest = [] then some value else none

/-! ## Tokens -/

theorem skipBlank_of_not_blank {b : Byte} (notBlank : ¬ IsBlank b) (rest : Bytes) :
    skipBlank (b :: rest) = b :: rest := by
  simp [skipBlank, notBlank]

theorem skipBlank_space (rest : Bytes) : skipBlank (space :: rest) = skipBlank rest := rfl

theorem expect_here {b : Byte} (notBlank : ¬ IsBlank b) (rest : Bytes) : expect b (b :: rest) = some rest := by
  simp only [expect, skipBlank_of_not_blank notBlank, if_true]

theorem expect_other {b c : Byte} (notBlank : ¬ IsBlank c) (other : c ≠ b) (rest : Bytes) :
    expect b (c :: rest) = none := by
  simp only [expect, skipBlank_of_not_blank notBlank, if_neg other]

theorem expect_space (b : Byte) (rest : Bytes) : expect b (space :: rest) = expect b rest := rfl

theorem parseValue_space (fuel : Nat) (rest : Bytes) : parseValue fuel (space :: rest) = parseValue fuel rest := by
  cases fuel with
  | zero => rfl
  | succ fuel => simp only [parseValue, skipBlank_space]

theorem parseItems_space (fuel : Nat) (rest : Bytes) : parseItems fuel (space :: rest) = parseItems fuel rest := by
  cases fuel with
  | zero => rfl
  | succ fuel => simp only [parseItems, parseValue_space]

theorem parseMembers_space (fuel : Nat) (rest : Bytes) :
    parseMembers fuel (space :: rest) = parseMembers fuel rest := by
  cases fuel with
  | zero => rfl
  | succ fuel => simp only [parseMembers, expect_space]

theorem parseString_escape (s : Text) (rest : Bytes) :
    parseString (escape s.bytes ++ quote :: rest) = some (s, rest) := by
  unfold parseString
  rw [readString_of_unescape (unescape_escape s.bytes)]
  exact dif_pos s.valid

/-- What follows a number ends it. -/
def Ends (rest : Bytes) : Prop := ∀ b ∈ rest.head?, isNumberChar b = false

theorem ends_cons {b : Byte} (notNumber : isNumberChar b = false) (rest : Bytes) : Ends (b :: rest) := by
  intro c member
  cases member
  exact notNumber

theorem ends_comma (rest : Bytes) : Ends (comma :: rest) := ends_cons rfl rest

theorem span_number {lexeme rest : Bytes} (number : ∀ b ∈ lexeme, isNumberChar b = true) (ends : Ends rest) :
    (lexeme ++ rest).takeWhile isNumberChar = lexeme ∧ (lexeme ++ rest).dropWhile isNumberChar = rest := by
  induction lexeme with
  | nil =>
    cases rest with
    | nil => exact ⟨rfl, rfl⟩
    | cons b rest =>
      have notNumber : isNumberChar b = false := ends b rfl
      simp [notNumber]
  | cons b lexeme ih =>
    have isNumber := number b List.mem_cons_self
    obtain ⟨taken, dropped⟩ := ih fun c member => number c (List.mem_cons_of_mem b member)
    simp [isNumber, taken, dropped]

theorem isNumber_ne_nil {lexeme : Bytes} (wellFormed : isNumber lexeme = true) : lexeme ≠ [] := by
  rintro rfl
  cases wellFormed

theorem parseNumber_lexeme (n : Number) {rest : Bytes} (ends : Ends rest) :
    parseNumber (n.lexeme ++ rest) = some (.number n, rest) := by
  obtain ⟨taken, dropped⟩ := span_number n.chars ends
  simp only [parseNumber, taken, dropped]
  exact dif_pos n.wellFormed

/-! ## Values -/

theorem parseValue_number (n : Number) {fuel : Nat} (enough : 0 < fuel) {rest : Bytes} (ends : Ends rest) :
    parseValue fuel (n.lexeme ++ rest) = some (.number n, rest) := by
  obtain ⟨fuel, rfl⟩ := Nat.exists_eq_succ_of_ne_zero (Nat.ne_zero_of_lt enough)
  have parsed := parseNumber_lexeme n ends
  cases spelled : n.lexeme with
  | nil => exact absurd spelled (isNumber_ne_nil n.wellFormed)
  | cons first more =>
    have isNumber : isNumberChar first = true := n.chars first (by rw [spelled]; exact List.mem_cons_self)
    rw [spelled, List.cons_append] at parsed
    -- no other value begins with a character of a number
    have other : ∀ b, isNumberChar b = false → first ≠ b := by
      rintro b notNumber rfl
      rw [isNumber] at notNumber
      cases notNumber
    have notBlank : ¬ IsBlank first := by
      rintro (isBlank | isBlank | isBlank | isBlank) <;> exact other _ rfl isBlank
    simp only [List.cons_append, parseValue, skipBlank_of_not_blank notBlank, if_neg (other quote rfl),
      if_neg (other openBracket rfl), if_neg (other openBrace rfl), if_neg (other 110 rfl), if_neg (other 116 rfl),
      if_neg (other 102 rfl)]
    exact parsed

theorem dumpsItems_cons (item next : Json) (items : List Json) :
    dumpsItems (item :: next :: items) = dumps item ++ (comma :: space :: dumpsItems (next :: items)) := rfl

theorem dumpsMembers_cons (key : Text) (value : Json) (next : Text × Json) (members : List (Text × Json)) :
    dumpsMembers ((key, value) :: next :: members) =
      dumpsString key ++ (colon :: space :: dumps value) ++ (comma :: space :: dumpsMembers (next :: members)) := rfl

/-- No item or member begins with a closing bracket. -/
theorem dumps_head (value : Json) : ∃ first rest, dumps value = first :: rest ∧ ¬ IsBlank first ∧
    first ≠ closeBracket ∧ first ≠ closeBrace := by
  cases value with
  | null => exact ⟨_, _, rfl, by decide⟩
  | bool b => cases b <;> exact ⟨_, _, rfl, by decide⟩
  | string s => exact ⟨_, _, rfl, by decide⟩
  | array items => exact ⟨_, _, rfl, by decide⟩
  | object members => exact ⟨_, _, rfl, by decide⟩
  | number n =>
    cases spelled : n.lexeme with
    | nil => exact absurd spelled (isNumber_ne_nil n.wellFormed)
    | cons first more =>
      have isNumber : isNumberChar first = true := n.chars first (by rw [spelled]; exact List.mem_cons_self)
      have other : ∀ b, isNumberChar b = false → first ≠ b := by
        rintro b notNumber rfl
        rw [isNumber] at notNumber
        cases notNumber
      refine ⟨first, more, spelled, ?_, other _ rfl, other _ rfl⟩
      rintro (isBlank | isBlank | isBlank | isBlank) <;> exact other _ rfl isBlank

theorem expect_dumpsItems (item : Json) (items : List Json) (rest : Bytes) :
    expect closeBracket (dumpsItems (item :: items) ++ rest) = none := by
  obtain ⟨first, more, spelled, notBlank, notBracket, -⟩ := dumps_head item
  have shape : dumpsItems (item :: items) ++ rest = first :: (more ++ dumpsMoreItems items ++ rest) := by
    rw [dumpsItems, spelled]
    simp
  rw [shape, expect_other notBlank notBracket]

theorem expect_dumpsMembers (member : Text × Json) (members : List (Text × Json)) (rest : Bytes) :
    expect closeBrace (dumpsMembers (member :: members) ++ rest) = none := by
  obtain ⟨key, value⟩ := member
  have notBlank : ¬ IsBlank quote := by decide
  have shape : dumpsMembers ((key, value) :: members) ++ rest =
      quote :: (escape key.bytes ++ quote :: colon :: space :: dumps value ++ dumpsMoreMembers members ++ rest) := by
    simp [dumpsMembers, dumpsMember, dumpsString, quoted]
  rw [shape, expect_other notBlank (by decide)]

mutual

/-- A value is read off the front of the text it was written to. -/
theorem parseValue_dumps : ∀ (value : Json) (fuel : Nat) (rest : Bytes), (dumps value).length ≤ fuel → Ends rest →
    parseValue fuel (dumps value ++ rest) = some (value, rest)
  | .null, fuel, rest, enough, _ => by
    obtain ⟨fuel, rfl⟩ := Nat.exists_eq_succ_of_ne_zero (Nat.ne_of_gt (Nat.lt_of_lt_of_le (by decide) enough))
    rfl
  | .bool true, fuel, rest, enough, _ => by
    obtain ⟨fuel, rfl⟩ := Nat.exists_eq_succ_of_ne_zero (Nat.ne_of_gt (Nat.lt_of_lt_of_le (by decide) enough))
    rfl
  | .bool false, fuel, rest, enough, _ => by
    obtain ⟨fuel, rfl⟩ := Nat.exists_eq_succ_of_ne_zero (Nat.ne_of_gt (Nat.lt_of_lt_of_le (by decide) enough))
    rfl
  | .number n, fuel, rest, enough, ends => by
    have positive : 0 < n.lexeme.length := List.length_pos_of_ne_nil (isNumber_ne_nil n.wellFormed)
    exact parseValue_number n (Nat.lt_of_lt_of_le positive enough) ends
  | .string s, fuel, rest, enough, _ => by
    cases fuel with
    | zero => cases enough
    | succ fuel =>
      have shape : dumps (.string s) ++ rest = quote :: (escape s.bytes ++ quote :: rest) := by
        simp [dumps, dumpsString, quoted]
      have notBlank : ¬ IsBlank quote := by decide
      rw [shape]
      simp only [parseValue, skipBlank_of_not_blank notBlank, if_true, parseString_escape, Option.map_some]
  | .array items, fuel, rest, enough, _ => by
    cases fuel with
    | zero => cases enough
    | succ fuel =>
      have notBlank : ¬ IsBlank openBracket := by decide
      have notQuote : openBracket ≠ quote := by decide
      have shape : dumps (.array items) ++ rest = openBracket :: (dumpsItems items ++ closeBracket :: rest) := by
        simp [dumps]
      rw [shape]
      simp only [parseValue, skipBlank_of_not_blank notBlank, if_neg notQuote, if_true]
      cases items with
      | nil =>
        have closing : ¬ IsBlank closeBracket := by decide
        simp only [dumpsItems, List.nil_append, expect_here closing]
      | cons item items =>
        -- the fuel that is left is enough for what stands between the brackets
        have bound : (dumpsItems (item :: items)).length < fuel := by
          simp only [dumps, List.length_cons, List.length_append, List.length_nil] at enough
          omega
        simp only [expect_dumpsItems, parseItems_dumps (item :: items) fuel rest (List.cons_ne_nil _ _) bound,
          Option.map_some]
  | .object members, fuel, rest, enough, _ => by
    cases fuel with
    | zero => cases enough
    | succ fuel =>
      have notBlank : ¬ IsBlank openBrace := by decide
      have notQuote : openBrace ≠ quote := by decide
      have notBracket : openBrace ≠ openBracket := by decide
      have shape : dumps (.object members) ++ rest = openBrace :: (dumpsMembers members ++ closeBrace :: rest) := by
        simp [dumps]
      rw [shape]
      simp only [parseValue, skipBlank_of_not_blank notBlank, if_neg notQuote, if_neg notBracket, if_true]
      cases members with
      | nil =>
        have closing : ¬ IsBlank closeBrace := by decide
        simp only [dumpsMembers, List.nil_append, expect_here closing]
      | cons member members =>
        have bound : (dumpsMembers (member :: members)).length < fuel := by
          simp only [dumps, List.length_cons, List.length_append, List.length_nil] at enough
          omega
        simp only [expect_dumpsMembers, parseMembers_dumps (member :: members) fuel rest (List.cons_ne_nil _ _) bound,
          Option.map_some]

theorem parseItems_dumps : ∀ (items : List Json) (fuel : Nat) (rest : Bytes), items ≠ [] →
    (dumpsItems items).length < fuel →
      parseItems fuel (dumpsItems items ++ closeBracket :: rest) = some (items, rest)
  | [], _, _, nonempty, _ => absurd rfl nonempty
  | [item], fuel, rest, _, enough => by
    obtain ⟨fuel, rfl⟩ := Nat.exists_eq_succ_of_ne_zero (Nat.ne_zero_of_lt enough)
    have closing : ¬ IsBlank closeBracket := by decide
    have same : dumpsItems [item] = dumps item := by simp [dumpsItems, dumpsMoreItems]
    rw [same] at enough ⊢
    simp only [parseItems, parseValue_dumps item fuel (closeBracket :: rest) (by omega) (ends_cons rfl _),
      Option.bind_eq_bind, Option.bind_some, expect_here closing]
  | item :: next :: items, fuel, rest, _, enough => by
    obtain ⟨fuel, rfl⟩ := Nat.exists_eq_succ_of_ne_zero (Nat.ne_zero_of_lt enough)
    have isComma : ¬ IsBlank comma := by decide
    have notBracket : comma ≠ closeBracket := by decide
    rw [dumpsItems_cons] at enough ⊢
    simp only [List.length_append, List.length_cons] at enough
    have more := parseItems_dumps (next :: items) fuel rest (List.cons_ne_nil _ _) (by omega)
    rw [List.append_assoc, List.cons_append, List.cons_append]
    simp only [parseItems, parseValue_dumps item fuel _ (by omega) (ends_comma _), Option.bind_eq_bind,
      Option.bind_some, expect_other isComma notBracket, expect_here isComma, parseItems_space, more]

theorem parseMembers_dumps : ∀ (members : List (Text × Json)) (fuel : Nat) (rest : Bytes), members ≠ [] →
    (dumpsMembers members).length < fuel →
      parseMembers fuel (dumpsMembers members ++ closeBrace :: rest) = some (members, rest)
  | [], _, _, nonempty, _ => absurd rfl nonempty
  | [(key, value)], fuel, rest, _, enough => by
    obtain ⟨fuel, rfl⟩ := Nat.exists_eq_succ_of_ne_zero (Nat.ne_zero_of_lt enough)
    have closing : ¬ IsBlank closeBrace := by decide
    have isColon : ¬ IsBlank colon := by decide
    have isQuote : ¬ IsBlank quote := by decide
    have same : dumpsMembers [(key, value)] ++ closeBrace :: rest =
        quote :: (escape key.bytes ++ quote :: colon :: space :: (dumps value ++ closeBrace :: rest)) := by
      simp [dumpsMembers, dumpsMoreMembers, dumpsMember, dumpsString, quoted]
    have bound : (dumps value).length ≤ fuel := by
      simp only [dumpsMembers, dumpsMoreMembers, dumpsMember, List.length_append, List.length_cons,
        List.length_nil] at enough
      omega
    rw [same]
    simp only [parseMembers, expect_here isQuote, parseString_escape, expect_here isColon, parseValue_space,
      parseValue_dumps value fuel (closeBrace :: rest) bound (ends_cons rfl _), Option.bind_eq_bind,
      Option.bind_some, expect_here closing]
  | (key, value) :: next :: members, fuel, rest, _, enough => by
    obtain ⟨fuel, rfl⟩ := Nat.exists_eq_succ_of_ne_zero (Nat.ne_zero_of_lt enough)
    have isComma : ¬ IsBlank comma := by decide
    have isColon : ¬ IsBlank colon := by decide
    have isQuote : ¬ IsBlank quote := by decide
    have notBrace : comma ≠ closeBrace := by decide
    have same : dumpsMembers ((key, value) :: next :: members) ++ closeBrace :: rest =
        quote :: (escape key.bytes ++ quote :: colon :: space ::
          (dumps value ++ comma :: space :: (dumpsMembers (next :: members) ++ closeBrace :: rest))) := by
      rw [dumpsMembers_cons]
      simp [dumpsString, quoted]
    rw [dumpsMembers_cons] at enough
    simp only [List.length_append, List.length_cons] at enough
    have more := parseMembers_dumps (next :: members) fuel rest (List.cons_ne_nil _ _) (by omega)
    rw [same]
    simp only [parseMembers, expect_here isQuote, parseString_escape, expect_here isColon, parseValue_space,
      parseValue_dumps value fuel _ (by omega) (ends_comma _), Option.bind_eq_bind, Option.bind_some,
      expect_other isComma notBrace, expect_here isComma, parseMembers_space, more]

end

/-! ## Members that cannot be read -/

/-- A key, and what is behind its colon. -/
def keyed (key : Text) (rest : Bytes) : Bytes := dumpsString key ++ (colon :: space :: rest)

theorem expect_keyed (key : Text) (rest : Bytes) : expect closeBrace (keyed key rest) = none := by
  have notBlank : ¬ IsBlank quote := by decide
  exact expect_other notBlank (by decide) _

theorem parseMembers_refuses {key : Text} {rest : Bytes} (refused : ∀ fuel, parseValue fuel rest = none) (fuel : Nat) :
    parseMembers fuel (keyed key rest) = none := by
  cases fuel with
  | zero => rfl
  | succ fuel =>
    have isQuote : ¬ IsBlank quote := by decide
    have isColon : ¬ IsBlank colon := by decide
    have shape : keyed key rest = quote :: (escape key.bytes ++ quote :: colon :: space :: rest) := by
      simp [keyed, dumpsString, quoted]
    rw [shape]
    simp only [parseMembers, expect_here isQuote, parseString_escape, expect_here isColon, parseValue_space, refused,
      Option.bind_eq_bind, Option.bind_some, Option.bind_none]

/-- Behind a string member. -/
theorem parseMembers_refuses_later {key : Text} {s : Text} {rest : Bytes}
    (refused : ∀ fuel, parseMembers fuel rest = none)
    (fuel : Nat) : parseMembers fuel (keyed key (dumpsString s ++ (separator ++ rest))) = none := by
  cases fuel with
  | zero => rfl
  | succ fuel =>
    have isQuote : ¬ IsBlank quote := by decide
    have isColon : ¬ IsBlank colon := by decide
    have isComma : ¬ IsBlank comma := by decide
    have notBrace : comma ≠ closeBrace := by decide
    have shape : keyed key (dumpsString s ++ (separator ++ rest)) = quote :: (escape key.bytes ++
        quote :: colon :: space :: quote :: (escape s.bytes ++ quote :: comma :: space :: rest)) := by
      simp [keyed, dumpsString, quoted, separator]
    rw [shape]
    simp only [parseMembers, expect_here isQuote, parseString_escape, expect_here isColon, parseValue_space,
      Option.bind_eq_bind, Option.bind_some]
    cases fuel with
    | zero => rfl
    | succ fuel =>
      simp only [parseValue, skipBlank_of_not_blank isQuote, if_true, parseString_escape, Option.map_some,
        Option.bind_some, expect_other isComma notBrace, expect_here isComma, parseMembers_space, refused,
        Option.bind_none]

theorem parseValue_refuses_object {key : Text} {rest : Bytes}
    (refused : ∀ fuel, parseMembers fuel (keyed key rest) = none)
    (fuel : Nat) : parseValue fuel (openBrace :: keyed key rest) = none := by
  cases fuel with
  | zero => rfl
  | succ fuel =>
    have notBlank : ¬ IsBlank openBrace := by decide
    have notQuote : openBrace ≠ quote := by decide
    have notBracket : openBrace ≠ openBracket := by decide
    simp only [parseValue, skipBlank_of_not_blank notBlank, if_neg notQuote, if_neg notBracket, if_true, expect_keyed,
      refused, Option.map_none]

/-- A text of broken characters. -/
theorem parseValue_refuses_string {text : Bytes} (invalid : ¬ Utf8.Valid text) (rest : Bytes) (fuel : Nat) :
    parseValue fuel (quoted (escape text) ++ rest) = none := by
  cases fuel with
  | zero => rfl
  | succ fuel =>
    have isQuote : ¬ IsBlank quote := by decide
    have shape : quoted (escape text) ++ rest = quote :: (escape text ++ quote :: rest) := by simp [quoted]
    rw [shape]
    simp only [parseValue, skipBlank_of_not_blank isQuote, if_true, parseString,
      readString_of_unescape (unescape_escape text), dif_neg invalid, Option.map_none]

theorem parse_refuses {input : Bytes} (refused : ∀ fuel, parseValue fuel input = none) : parse input = none := by
  simp only [parse, refused, Option.bind_eq_bind, Option.bind_none]

/-- What `json.dumps` writes is read back as it was. -/
theorem parse_dumps (value : Json) : parse (dumps value) = some value := by
  have ends : Ends [] := fun b member => by cases member
  have parsed := parseValue_dumps value ((dumps value).length + 1) [] (Nat.le_succ _) ends
  rw [List.append_nil] at parsed
  simp only [parse, parsed, Option.bind_eq_bind, Option.bind_some]
  rfl

end EdgeFlow.Library.Json
