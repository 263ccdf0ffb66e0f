import EdgeFlow.Library.Json.Parsing

/-! What the parser reads is a text at the front of its input. The same text is read
again in front of anything else, with any fuel that is as large as its length.
-/

set_option autoImplicit false

namespace EdgeFlow.Library.Json
open Byte

/-! ## Blanks -/

theorem skipBlank_cut (input : Bytes) : ∃ gap, input = gap ++ skipBlank input ∧ ∀ b ∈ gap, IsBlank b := by
  refine ⟨input.takeWhile fun b => decide (IsBlank b), List.takeWhile_append_dropWhile.symm, ?_⟩
  intro b member
  simpa using List.mem_takeWhile_imp member

theorem skipBlank_gap {gap : Bytes} (blank : ∀ b ∈ gap, IsBlank b) (rest : Bytes) :
    skipBlank (gap ++ rest) = skipBlank rest := by
  apply List.dropWhile_append_of_pos
  intro b member
  simpa using blank b member

theorem skipBlank_append {text : Bytes} (nonempty : skipBlank text ≠ []) (more : Bytes) :
    skipBlank (text ++ more) = skipBlank text ++ more := by
  obtain ⟨gap, cut, blank⟩ := skipBlank_cut text
  cases first : skipBlank text with
  | nil => exact absurd first nonempty
  | cons b rest =>
    have notBlank : ¬ IsBlank b := by
      have head := List.head?_dropWhile_not (fun b => decide (IsBlank b)) text
      rw [show text.dropWhile (fun b => decide (IsBlank b)) = b :: rest from first] at head
      simpa using head
    rw [first] at cut
    rw [cut, List.append_assoc, skipBlank_gap blank, List.cons_append, skipBlank_of_not_blank notBlank]

theorem skipBlank_eq_nil_iff {text : Bytes} : skipBlank text = [] ↔ ∀ b ∈ text, IsBlank b := by
  simp [skipBlank, List.dropWhile_eq_nil_iff]

theorem expect_append {text : Bytes} (nonempty : skipBlank text ≠ []) (b : Byte) (more : Bytes) :
    expect b (text ++ more) = (expect b text).map (· ++ more) := by
  unfold expect
  rw [skipBlank_append nonempty]
  cases first : skipBlank text with
  | nil => exact absurd first nonempty
  | cons c rest =>
    rw [List.cons_append]
    by_cases same : c = b
    · simp only [if_pos same, Option.map_some]
    · simp only [if_neg same, Option.map_none]

theorem expect_some {b : Byte} {input rest : Bytes} (found : expect b input = some rest) :
    ∃ gap, input = gap ++ b :: rest ∧ ∀ c ∈ gap, IsBlank c := by
  obtain ⟨gap, cut, blank⟩ := skipBlank_cut input
  unfold expect at found
  split at found
  · next c rest' first =>
    split at found
    · next same =>
      cases found
      rw [first, same] at cut
      exact ⟨gap, cut, blank⟩
    · cases found
  · cases found

theorem expect_gap {gap : Bytes} (blank : ∀ b ∈ gap, IsBlank b) (b : Byte) (rest : Bytes) :
    expect b (gap ++ rest) = expect b rest := by
  unfold expect
  rw [skipBlank_gap blank]

theorem parseValue_gap {gap : Bytes} (blank : ∀ b ∈ gap, IsBlank b) (fuel : Nat) (rest : Bytes) :
    parseValue fuel (gap ++ rest) = parseValue fuel rest := by
  cases fuel with
  | zero => rfl
  | succ fuel => simp only [parseValue, skipBlank_gap blank]

theorem ends_gap {gap : Bytes} (blank : ∀ b ∈ gap, IsBlank b) {b : Byte} (notNumber : isNumberChar b = false)
    (rest : Bytes) : Ends (gap ++ b :: rest) := by
  cases gap with
  | nil => exact ends_cons notNumber rest
  | cons c gap =>
    apply ends_cons
    obtain rfl | rfl | rfl | rfl := blank c List.mem_cons_self
    · rfl
    · rfl
    · rfl
    · rfl

/-! ## Texts of values -/

/-- The text of a value: it is read off the front of whatever begins with it, a number only where it ends. -/
structure Spells (text : Bytes) (value : Json) : Prop where
  nonempty : skipBlank text ≠ []
  parses : ∀ fuel more, text.length ≤ fuel → ((∃ n, value = .number n) → Ends more) →
    parseValue fuel (text ++ more) = some (value, more)

structure SpellsItems (text : Bytes) (items : List Json) : Prop where
  nonempty : skipBlank text ≠ []
  parses : ∀ fuel more, text.length ≤ fuel → parseItems fuel (text ++ more) = some (items, more)

structure SpellsMembers (text : Bytes) (members : List (Text × Json)) : Prop where
  nonempty : skipBlank text ≠ []
  parses : ∀ fuel more, text.length ≤ fuel → parseMembers fuel (text ++ more) = some (members, more)

theorem Spells.gap {text : Bytes} {value : Json} (spells : Spells text value) {gap : Bytes}
    (blank : ∀ b ∈ gap, IsBlank b) : Spells (gap ++ text) value where
  nonempty := by
    rw [skipBlank_gap blank]
    exact spells.nonempty
  parses fuel more enough ends := by
    rw [List.append_assoc, parseValue_gap blank]
    rw [List.length_append] at enough
    exact spells.parses fuel more (by omega) ends

/-- A text whose first character is not blank, read with some fuel left. -/
theorem spells_of_cons {first : Byte} {text : Bytes} {value : Json} (notBlank : ¬ IsBlank first)
    (parses : ∀ fuel more, text.length ≤ fuel → ((∃ n, value = .number n) → Ends more) →
      parseValue (fuel + 1) (first :: (text ++ more)) = some (value, more)) : Spells (first :: text) value where
  nonempty := by
    rw [skipBlank_of_not_blank notBlank]
    exact List.cons_ne_nil _ _
  parses fuel more enough ends := by
    cases fuel with
    | zero => cases enough
    | succ fuel => exact parses fuel more (Nat.le_of_succ_le_succ enough) ends

/-- A string from behind its opening quote. -/
def SpellsString (text : Bytes) (s : Text) : Prop := ∀ more, parseString (text ++ more) = some (s, more)

theorem parseString_reads {input rest : Bytes} {s : Text} (parsed : parseString input = some (s, rest)) :
    ∃ text, input = text ++ rest ∧ SpellsString text s := by
  unfold parseString at parsed
  split at parsed
  · next bytes rest' read =>
    split at parsed
    · next valid =>
      cases parsed
      obtain ⟨raw, rfl, run⟩ := readString_shape read
      refine ⟨raw ++ [quote], by simp, fun more => ?_⟩
      unfold parseString
      rw [List.append_assoc, List.singleton_append, readString_of_unescape (unescape_eq_some.mpr run)]
      exact dif_pos valid
    · cases parsed
  · cases parsed

theorem spells_string {text : Bytes} {s : Text} (spells : SpellsString text s) :
    Spells (quote :: text) (.string s) := by
  have notBlank : ¬ IsBlank quote := by decide
  apply spells_of_cons notBlank
  intro fuel more _ _
  simp only [parseValue, skipBlank_of_not_blank notBlank, if_true, spells more, Option.map_some]

theorem spells_number {first : Byte} {input rest : Bytes} {value : Json}
    (parsed : parseNumber (first :: input) = some (value, rest)) :
    ∃ text, first :: input = text ++ rest ∧ Spells text value := by
  unfold parseNumber at parsed
  extract_lets lexeme at parsed
  split at parsed
  · next wellFormed =>
    cases parsed
    have positive : 0 < lexeme.length := List.length_pos_of_ne_nil (isNumber_ne_nil wellFormed)
    refine ⟨lexeme, List.takeWhile_append_dropWhile.symm, ?_, fun fuel more enough ends => ?_⟩
    · intro allBlank
      have number : ∀ b ∈ lexeme, isNumberChar b = true := Number.chars ⟨lexeme, wellFormed⟩
      cases spelled : lexeme with
      | nil => exact isNumber_ne_nil wellFormed spelled
      | cons b more =>
        have isBlank := skipBlank_eq_nil_iff.mp allBlank b (by rw [spelled]; exact List.mem_cons_self)
        have isNumber : isNumberChar b = true := number b (by rw [spelled]; exact List.mem_cons_self)
        obtain rfl | rfl | rfl | rfl := isBlank <;> cases isNumber
    · exact parseValue_number ⟨lexeme, wellFormed⟩ (by omega) (ends ⟨_, rfl⟩)
  · cases parsed

theorem spells_literal {word input rest : Bytes} {first : Byte} {value meant : Json} {tail : Bytes}
    (spelled : word = first :: tail) (notBlank : ¬ IsBlank first)
    (reads : ∀ fuel more, parseValue (fuel + 1) (first :: more) = parseLiteral word meant (first :: more))
    (parsed : parseLiteral word meant input = some (value, rest)) :
    ∃ text, input = text ++ rest ∧ Spells text value := by
  unfold parseLiteral at parsed
  split at parsed
  · next isPrefix =>
    cases parsed
    obtain ⟨more, rfl⟩ := isPrefix
    refine ⟨word, by rw [List.drop_left], ?_⟩
    rw [spelled]
    apply spells_of_cons notBlank
    intro fuel more _ _
    rw [reads, ← List.cons_append, ← spelled, parseLiteral, if_pos (List.prefix_append _ _), List.drop_left]
  · cases parsed

theorem spells_array {text : Bytes} {items : List Json} (spells : SpellsItems text items)
    (unclosed : expect closeBracket text = none) : Spells (openBracket :: text) (.array items) := by
  have notBlank : ¬ IsBlank openBracket := by decide
  have notQuote : openBracket ≠ quote := by decide
  apply spells_of_cons notBlank
  intro fuel more enough _
  have unclosedMore : expect closeBracket (text ++ more) = none := by
    rw [expect_append spells.nonempty, unclosed]
    rfl
  simp only [parseValue, skipBlank_of_not_blank notBlank, if_neg notQuote, if_true, unclosedMore,
    spells.parses fuel more enough, Option.map_some]

theorem spells_object {text : Bytes} {members : List (Text × Json)} (spells : SpellsMembers text members)
    (unclosed : expect closeBrace text = none) : Spells (openBrace :: text) (.object members) := by
  have notBlank : ¬ IsBlank openBrace := by decide
  have notQuote : openBrace ≠ quote := by decide
  have notBracket : openBrace ≠ openBracket := by decide
  apply spells_of_cons notBlank
  intro fuel more enough _
  have unclosedMore : expect closeBrace (text ++ more) = none := by
    rw [expect_append spells.nonempty, unclosed]
    rfl
  simp only [parseValue, skipBlank_of_not_blank notBlank, if_neg notQuote, if_neg notBracket, if_true, unclosedMore,
    spells.parses fuel more enough, Option.map_some]

theorem spells_emptyArray {gap : Bytes} (blank : ∀ b ∈ gap, IsBlank b) :
    Spells (openBracket :: (gap ++ [closeBracket])) (.array []) := by
  have notBlank : ¬ IsBlank openBracket := by decide
  have notQuote : openBracket ≠ quote := by decide
  have closing : ¬ IsBlank closeBracket := by decide
  apply spells_of_cons notBlank
  intro fuel more _ _
  have closed : expect closeBracket (gap ++ [closeBracket] ++ more) = some more := by
    rw [List.append_assoc, expect_gap blank]
    exact expect_here closing more
  simp only [parseValue, skipBlank_of_not_blank notBlank, if_neg notQuote, if_true, closed]

theorem spells_emptyObject {gap : Bytes} (blank : ∀ b ∈ gap, IsBlank b) :
    Spells (openBrace :: (gap ++ [closeBrace])) (.object []) := by
  have notBlank : ¬ IsBlank openBrace := by decide
  have notQuote : openBrace ≠ quote := by decide
  have notBracket : openBrace ≠ openBracket := by decide
  have closing : ¬ IsBlank closeBrace := by decide
  apply spells_of_cons notBlank
  intro fuel more _ _
  have closed : expect closeBrace (gap ++ [closeBrace] ++ more) = some more := by
    rw [List.append_assoc, expect_gap blank]
    exact expect_here closing more
  simp only [parseValue, skipBlank_of_not_blank notBlank, if_neg notQuote, if_neg notBracket, if_true, closed]

/-! ## Texts of items and members -/

section
variable {text gap : Bytes} (blank : ∀ b ∈ gap, IsBlank b)

include blank

theorem spellsItems_last {item : Json} (spells : Spells text item) :
    SpellsItems (text ++ (gap ++ [closeBracket])) [item] where
  nonempty := by
    rw [skipBlank_append spells.nonempty]
    exact List.append_ne_nil_of_left_ne_nil spells.nonempty _
  parses fuel more enough := by
    simp only [List.length_append, List.length_cons, List.length_nil] at enough
    obtain ⟨fuel, rfl⟩ := Nat.exists_eq_succ_of_ne_zero (show fuel ≠ 0 by omega)
    have closing : ¬ IsBlank closeBracket := by decide
    have cut : text ++ (gap ++ [closeBracket]) ++ more = text ++ (gap ++ closeBracket :: more) := by simp
    have ends : Ends (gap ++ closeBracket :: more) := ends_gap blank rfl more
    have read := spells.parses fuel (gap ++ closeBracket :: more) (by omega) fun _ => ends
    rw [cut]
    simp only [parseItems, read, Option.bind_eq_bind, Option.bind_some, expect_gap blank, expect_here closing]

theorem spellsItems_cons {item : Json} (spells : Spells text item) {texts : Bytes} {items : List Json}
    (others : SpellsItems texts items) : SpellsItems (text ++ (gap ++ comma :: texts)) (item :: items) where
  nonempty := by
    rw [skipBlank_append spells.nonempty]
    exact List.append_ne_nil_of_left_ne_nil spells.nonempty _
  parses fuel more enough := by
    simp only [List.length_append, List.length_cons] at enough
    obtain ⟨fuel, rfl⟩ := Nat.exists_eq_succ_of_ne_zero (show fuel ≠ 0 by omega)
    have isComma : ¬ IsBlank comma := by decide
    have notBracket : comma ≠ closeBracket := by decide
    have cut : text ++ (gap ++ comma :: texts) ++ more = text ++ (gap ++ comma :: (texts ++ more)) := by simp
    have ends : Ends (gap ++ comma :: (texts ++ more)) := ends_gap blank rfl _
    have read := spells.parses fuel (gap ++ comma :: (texts ++ more)) (by omega) fun _ => ends
    rw [cut]
    simp only [parseItems, read, Option.bind_eq_bind, Option.bind_some, expect_gap blank,
      expect_other isComma notBracket,
      expect_here isComma, others.parses fuel more (by omega)]

/-- A member, up to its value. -/
structure SpellsKey (front : Bytes) (key : Text) : Prop where
  nonempty : skipBlank front ≠ []
  reads : ∀ rest, ∃ afterQuote afterKey, expect quote (front ++ rest) = some afterQuote ∧
    parseString afterQuote = some (key, afterKey) ∧ expect colon afterKey = some rest

omit blank in
theorem spellsKey {gapBefore gapAfter spelled : Bytes} (blankBefore : ∀ b ∈ gapBefore, IsBlank b)
    (blankAfter : ∀ b ∈ gapAfter, IsBlank b) {key : Text} (spells : SpellsString spelled key) :
    SpellsKey (gapBefore ++ quote :: (spelled ++ (gapAfter ++ [colon]))) key where
  nonempty := by
    have notBlank : ¬ IsBlank quote := by decide
    rw [skipBlank_gap blankBefore, skipBlank_of_not_blank notBlank]
    exact List.cons_ne_nil _ _
  reads rest := by
    have isQuote : ¬ IsBlank quote := by decide
    have isColon : ¬ IsBlank colon := by decide
    refine ⟨spelled ++ (gapAfter ++ colon :: rest), gapAfter ++ colon :: rest, ?_, spells _, ?_⟩
    · rw [List.append_assoc, expect_gap blankBefore, List.cons_append, expect_here isQuote]
      simp
    · rw [expect_gap blankAfter, expect_here isColon]

theorem spellsMembers_last {front : Bytes} {key : Text} (spellsKey : SpellsKey front key) {value : Json}
    (spells : Spells text value) : SpellsMembers (front ++ (text ++ (gap ++ [closeBrace]))) [(key, value)] where
  nonempty := by
    rw [skipBlank_append spellsKey.nonempty]
    exact List.append_ne_nil_of_left_ne_nil spellsKey.nonempty _
  parses fuel more enough := by
    simp only [List.length_append, List.length_cons, List.length_nil] at enough
    obtain ⟨fuel, rfl⟩ := Nat.exists_eq_succ_of_ne_zero (show fuel ≠ 0 by omega)
    have closing : ¬ IsBlank closeBrace := by decide
    have cut : front ++ (text ++ (gap ++ [closeBrace])) ++ more = front ++ (text ++ (gap ++ closeBrace :: more)) := by simp
    obtain ⟨afterQuote, afterKey, opened, named, valued⟩ := spellsKey.reads (text ++ (gap ++ closeBrace :: more))
    have ends : Ends (gap ++ closeBrace :: more) := ends_gap blank rfl more
    have read := spells.parses fuel (gap ++ closeBrace :: more) (by omega) fun _ => ends
    rw [cut]
    simp only [parseMembers, opened, named, valued, read, Option.bind_eq_bind, Option.bind_some, expect_gap blank,
      expect_here closing]

theorem spellsMembers_cons {front : Bytes} {key : Text} (spellsKey : SpellsKey front key) {value : Json}
    (spells : Spells text value) {texts : Bytes} {members : List (Text × Json)} (others : SpellsMembers texts members) :
    SpellsMembers (front ++ (text ++ (gap ++ comma :: texts))) ((key, value) :: members) where
  nonempty := by
    rw [skipBlank_append spellsKey.nonempty]
    exact List.append_ne_nil_of_left_ne_nil spellsKey.nonempty _
  parses fuel more enough := by
    simp only [List.length_append, List.length_cons] at enough
    obtain ⟨fuel, rfl⟩ := Nat.exists_eq_succ_of_ne_zero (show fuel ≠ 0 by omega)
    have isComma : ¬ IsBlank comma := by decide
    have notBrace : comma ≠ closeBrace := by decide
    have cut : front ++ (text ++ (gap ++ comma :: texts)) ++ more =
        front ++ (text ++ (gap ++ comma :: (texts ++ more))) := by
      simp
    obtain ⟨afterQuote, afterKey, opened, named, valued⟩ := spellsKey.reads (text ++ (gap ++ comma :: (texts ++ more)))
    have ends : Ends (gap ++ comma :: (texts ++ more)) := ends_gap blank rfl _
    have read := spells.parses fuel (gap ++ comma :: (texts ++ more)) (by omega) fun _ => ends
    rw [cut]
    simp only [parseMembers, opened, named, valued, read, Option.bind_eq_bind, Option.bind_some, expect_gap blank,
      expect_other isComma notBrace, expect_here isComma, others.parses fuel more (by omega)]

end

/-! ## What the parser reads -/

section
variable {fuel : Nat}
  (items : ∀ {input items rest}, parseItems fuel input = some (items, rest) →
    ∃ text, input = text ++ rest ∧ SpellsItems text items)
  (members : ∀ {input members rest}, parseMembers fuel input = some (members, rest) →
    ∃ text, input = text ++ rest ∧ SpellsMembers text members)

include items members

theorem parseValue_reads_step {input rest : Bytes} {value : Json}
    (parsed : parseValue (fuel + 1) input = some (value, rest)) :
    ∃ text, input = text ++ rest ∧ Spells text value := by
  obtain ⟨gap, cut, blank⟩ := skipBlank_cut input
  -- the blanks in front belong to the text
  suffices ∃ text, skipBlank input = text ++ rest ∧ Spells text value by
    obtain ⟨text, same, spells⟩ := this
    exact ⟨gap ++ text, by rw [List.append_assoc, ← same, ← cut], spells.gap blank⟩
  rw [parseValue] at parsed
  split at parsed
  · cases parsed
  · next first more found =>
    rw [found]
    split at parsed
    · next isQuote =>
      subst isQuote
      obtain ⟨⟨s, rest'⟩, read, same⟩ := Option.map_eq_some_iff.mp parsed
      cases same
      obtain ⟨text, rfl, spells⟩ := parseString_reads read
      exact ⟨quote :: text, rfl, spells_string spells⟩
    split at parsed
    · next isBracket =>
      subst isBracket
      split at parsed
      · next closed =>
        cases parsed
        obtain ⟨inside, rfl, blankInside⟩ := expect_some closed
        exact ⟨openBracket :: (inside ++ [closeBracket]), by simp, spells_emptyArray blankInside⟩
      · next unclosed =>
        obtain ⟨⟨list, rest'⟩, read, same⟩ := Option.map_eq_some_iff.mp parsed
        cases same
        obtain ⟨text, rfl, spells⟩ := items read
        rw [expect_append spells.nonempty, Option.map_eq_none_iff] at unclosed
        exact ⟨openBracket :: text, rfl, spells_array spells unclosed⟩
    split at parsed
    · next isBrace =>
      subst isBrace
      split at parsed
      · next closed =>
        cases parsed
        obtain ⟨inside, rfl, blankInside⟩ := expect_some closed
        exact ⟨openBrace :: (inside ++ [closeBrace]), by simp, spells_emptyObject blankInside⟩
      · next unclosed =>
        obtain ⟨⟨list, rest'⟩, read, same⟩ := Option.map_eq_some_iff.mp parsed
        cases same
        obtain ⟨text, rfl, spells⟩ := members read
        rw [expect_append spells.nonempty, Option.map_eq_none_iff] at unclosed
        exact ⟨openBrace :: text, rfl, spells_object spells unclosed⟩
    split at parsed
    · next isN =>
      subst isN
      exact spells_literal rfl (by decide) (fun _ _ => rfl) parsed
    split at parsed
    · next isT =>
      subst isT
      exact spells_literal rfl (by decide) (fun _ _ => rfl) parsed
    split at parsed
    · next isF =>
      subst isF
      exact spells_literal rfl (by decide) (fun _ _ => rfl) parsed
    · exact spells_number parsed

end

theorem parseItems_reads_step {fuel : Nat}
    (value : ∀ {input value rest}, parseValue fuel input = some (value, rest) →
      ∃ text, input = text ++ rest ∧ Spells text value)
    (items : ∀ {input items rest}, parseItems fuel input = some (items, rest) →
      ∃ text, input = text ++ rest ∧ SpellsItems text items)
    {input rest : Bytes} {list : List Json} (parsed : parseItems (fuel + 1) input = some (list, rest)) :
    ∃ text, input = text ++ rest ∧ SpellsItems text list := by
  rw [parseItems] at parsed
  obtain ⟨⟨item, afterItem⟩, read, ends⟩ := Option.bind_eq_some_iff.mp parsed
  obtain ⟨text, rfl, spells⟩ := value read
  dsimp only at ends
  split at ends
  · next closed =>
    cases ends
    obtain ⟨gap, rfl, blank⟩ := expect_some closed
    exact ⟨text ++ (gap ++ [closeBracket]), by simp, spellsItems_last blank spells⟩
  · obtain ⟨afterComma, separated, ends⟩ := Option.bind_eq_some_iff.mp ends
    obtain ⟨⟨others, rest'⟩, readOthers, ends⟩ := Option.bind_eq_some_iff.mp ends
    cases ends
    obtain ⟨gap, rfl, blank⟩ := expect_some separated
    obtain ⟨texts, rfl, spellsOthers⟩ := items readOthers
    exact ⟨text ++ (gap ++ comma :: texts), by simp, spellsItems_cons blank spells spellsOthers⟩

theorem parseMembers_reads_step {fuel : Nat}
    (value : ∀ {input value rest}, parseValue fuel input = some (value, rest) →
      ∃ text, input = text ++ rest ∧ Spells text value)
    (members : ∀ {input members rest}, parseMembers fuel input = some (members, rest) →
      ∃ text, input = text ++ rest ∧ SpellsMembers text members)
    {input rest : Bytes} {list : List (Text × Json)} (parsed : parseMembers (fuel + 1) input = some (list, rest)) :
    ∃ text, input = text ++ rest ∧ SpellsMembers text list := by
  rw [parseMembers] at parsed
  obtain ⟨afterQuote, opened, inMember⟩ := Option.bind_eq_some_iff.mp parsed
  obtain ⟨⟨key, afterKey⟩, named, behindKey⟩ := Option.bind_eq_some_iff.mp inMember
  obtain ⟨afterColon, valued, behindColon⟩ := Option.bind_eq_some_iff.mp behindKey
  obtain ⟨⟨v, afterValue⟩, read, ends⟩ := Option.bind_eq_some_iff.mp behindColon
  clear parsed inMember behindKey behindColon
  obtain ⟨gapBefore, rfl, blankBefore⟩ := expect_some opened
  obtain ⟨spelled, rfl, spellsString⟩ := parseString_reads named
  obtain ⟨gapAfter, rfl, blankAfter⟩ := expect_some valued
  obtain ⟨text, rfl, spells⟩ := value read
  have key := spellsKey blankBefore blankAfter spellsString
  dsimp only at ends
  split at ends
  · next closed =>
    cases ends
    obtain ⟨gap, rfl, blank⟩ := expect_some closed
    exact ⟨_, by simp, spellsMembers_last blank key spells⟩
  · obtain ⟨afterComma, separated, ends⟩ := Option.bind_eq_some_iff.mp ends
    obtain ⟨⟨others, rest'⟩, readOthers, ends⟩ := Option.bind_eq_some_iff.mp ends
    cases ends
    obtain ⟨gap, rfl, blank⟩ := expect_some separated
    obtain ⟨texts, rfl, spellsOthers⟩ := members readOthers
    exact ⟨_, by simp, spellsMembers_cons blank key spells spellsOthers⟩

theorem parse_reads (fuel : Nat) :
    (∀ {input value rest}, parseValue fuel input = some (value, rest) →
      ∃ text, input = text ++ rest ∧ Spells text value) ∧
      (∀ {input items rest}, parseItems fuel input = some (items, rest) →
        ∃ text, input = text ++ rest ∧ SpellsItems text items) ∧
      ∀ {input members rest}, parseMembers fuel input = some (members, rest) →
        ∃ text, input = text ++ rest ∧ SpellsMembers text members := by
  induction fuel with
  | zero =>
    refine ⟨fun parsed => ?_, fun parsed => ?_, fun parsed => ?_⟩
    · cases parsed
    · cases parsed
    · cases parsed
  | succ fuel ih =>
    obtain ⟨value, items, members⟩ := ih
    exact ⟨parseValue_reads_step items members, parseItems_reads_step value items,
      parseMembers_reads_step value members⟩

/-- A text that is parsed is the text of a value, with blanks behind it. -/
theorem parse_eq_some_iff {input : Bytes} {value : Json} :
    parse input = some value ↔ ∃ text gap, input = text ++ gap ∧ (∀ b ∈ gap, IsBlank b) ∧ Spells text value := by
  constructor
  · intro parsed
    obtain ⟨⟨value', rest⟩, read, parsed⟩ := Option.bind_eq_some_iff.mp parsed
    dsimp only at parsed
    split at parsed
    · next ended =>
      cases parsed
      obtain ⟨text, same, spells⟩ := (parse_reads _).1 read
      exact ⟨text, rest, same, skipBlank_eq_nil_iff.mp ended, spells⟩
    · cases parsed
  · rintro ⟨text, gap, rfl, blank, spells⟩
    have ends : Ends gap := by
      cases gap with
      | nil => exact fun b member => by cases member
      | cons b gap =>
        apply ends_cons
        obtain rfl | rfl | rfl | rfl := blank b List.mem_cons_self
        · rfl
        · rfl
        · rfl
        · rfl
    have enough : text.length ≤ (text ++ gap).length + 1 := by
      rw [List.length_append]
      omega
    simp only [parse, spells.parses _ gap enough fun _ => ends, Option.bind_eq_bind, Option.bind_some,
      skipBlank_eq_nil_iff.mpr blank, if_true]

/-- Nothing but blanks may follow the text of an object. -/
theorem parse_object_append {text more : Bytes} {members : List (Text × Json)} {value : Json}
    (first : parse text = some (.object members)) (whole : parse (text ++ more) = some value) :
    ∀ b ∈ more, IsBlank b := by
  obtain ⟨spelled, gap, rfl, blank, spells⟩ := parse_eq_some_iff.mp first
  obtain ⟨⟨value', rest⟩, read, ended⟩ := Option.bind_eq_some_iff.mp whole
  dsimp only at ended
  split at ended
  · next allBlank =>
    have enough : spelled.length ≤ (spelled ++ gap ++ more).length + 1 := by
      simp only [List.length_append]
      omega
    have noNumber : (∃ n, Json.object members = .number n) → Ends (gap ++ more) := by
      rintro ⟨n, same⟩
      cases same
    have again := spells.parses _ (gap ++ more) enough noNumber
    rw [← List.append_assoc, read] at again
    cases again
    intro b member
    exact skipBlank_eq_nil_iff.mp allBlank b (List.mem_append_right gap member)
  · cases ended

theorem parse_gap_object {gap text : Bytes} (blank : ∀ b ∈ gap, IsBlank b) {members : List (Text × Json)} :
    parse (gap ++ text) = some (.object members) ↔ parse text = some (.object members) := by
  constructor
  · intro parsed
    obtain ⟨⟨value, rest⟩, read, ended⟩ := Option.bind_eq_some_iff.mp parsed
    dsimp only at ended
    split at ended
    · next allBlank =>
      cases ended
      rw [parseValue_gap blank] at read
      obtain ⟨spelled, rfl, spells⟩ := (parse_reads _).1 read
      exact parse_eq_some_iff.mpr ⟨spelled, rest, rfl, skipBlank_eq_nil_iff.mp allBlank, spells⟩
    · cases ended
  · intro parsed
    obtain ⟨spelled, rest, rfl, blankRest, spells⟩ := parse_eq_some_iff.mp parsed
    exact parse_eq_some_iff.mpr ⟨gap ++ spelled, rest, by simp, blankRest, spells.gap blank⟩

/-- An object begins with a brace, and goes on with a key unless it is empty. -/
theorem parse_object_shape {input : Bytes} {members : List (Text × Json)}
    (parsed : parse input = some (.object members)) :
    ∃ gap inside rest, input = gap ++ openBrace :: (inside ++ rest) ∧ (∀ b ∈ gap ++ inside, IsBlank b) ∧
      ((∃ more, rest = quote :: more) ∨ ∃ after, rest = closeBrace :: after ∧ ∀ b ∈ after, IsBlank b) := by
  obtain ⟨⟨value, after⟩, read, ended⟩ := Option.bind_eq_some_iff.mp parsed
  dsimp only at ended
  split at ended
  · next allBlank =>
    cases ended
    obtain ⟨gap, cut, blank⟩ := skipBlank_cut input
    -- no other first character begins an object
    have notLiteral {word text rest : Bytes} {meant : Json} (other : meant ≠ .object members) :
        parseLiteral word meant text ≠ some (.object members, rest) := by
      unfold parseLiteral
      split
      · intro same
        cases same
        exact other rfl
      · intro same
        cases same
    rw [parseValue] at read
    split at read
    · cases read
    · next first more found =>
      rw [found] at cut
      split_ifs at read with isQuote isBracket isBrace isN isT isF
      · obtain ⟨_, -, same⟩ := Option.map_eq_some_iff.mp read
        cases same
      · split at read
        · cases read
        · obtain ⟨_, -, same⟩ := Option.map_eq_some_iff.mp read
          cases same
      -- behind the brace comes the closing one, or the quote of the first key
      · subst isBrace
        split at read
        · next closed =>
          cases read
          obtain ⟨inside, rfl, blankInside⟩ := expect_some closed
          refine ⟨gap, inside, closeBrace :: after, cut, ?_, .inr ⟨after, rfl, skipBlank_eq_nil_iff.mp allBlank⟩⟩
          intro b member
          exact (List.mem_append.mp member).elim (blank b) (blankInside b)
        · obtain ⟨⟨list, rest⟩, members, same⟩ := Option.map_eq_some_iff.mp read
          rw [parseMembers.eq_def] at members
          split at members
          · cases members
          · obtain ⟨afterQuote, opened, -⟩ := Option.bind_eq_some_iff.mp members
            obtain ⟨inside, rfl, blankInside⟩ := expect_some opened
            refine ⟨gap, inside, quote :: afterQuote, cut, ?_, .inl ⟨afterQuote, rfl⟩⟩
            intro b member
            exact (List.mem_append.mp member).elim (blank b) (blankInside b)
      · exact absurd read (notLiteral Json.noConfusion)
      · exact absurd read (notLiteral Json.noConfusion)
      · exact absurd read (notLiteral Json.noConfusion)
      · unfold parseNumber at read
        extract_lets lexeme at read
        split at read
        · cases read
        · cases read
  · cases ended

end EdgeFlow.Library.Json
