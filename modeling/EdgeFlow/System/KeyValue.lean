import EdgeFlow.Manager.KeyValue

/-! A key and a value on their way from a node to `key_sql`: written by a JSON
serialiser, read by `sample_json_str_get`.
-/

set_option autoImplicit false

namespace EdgeFlow.System
open Library Library.Byte Library.Printf Library.Decimal Manager Node

/-- The object that `StackFlow::sys_sql_set` dumps. -/
def outBody (key val : Bytes) : Bytes :=
  ascii "\x7b\"key\":\"" ++ Json.escape key ++ ascii "\",\"val\":\"" ++ Json.escape val ++ ascii "\"\x7d"

/-- `StackFlow::sys_sql_set`, up to the reply of `sql_set`; `dump` throws where a text is not UTF-8. -/
def sysSqlSetCall (key val : Bytes) : Option ManagerCall :=
  if Utf8.Valid key ∧ Utf8.Valid val then some (.sqlSet (outBody key val)) else none

/-! ## What the scanner finds -/

def keyRest (key val : Bytes) : Bytes :=
  colon :: (quoted (Json.escape key) ++ comma :: (quoted (ascii "val") ++
    colon :: (quoted (Json.escape val) ++ [closeBrace])))

def valRest (val : Bytes) : Bytes := colon :: (quoted (Json.escape val) ++ [closeBrace])

section
variable {key val : Bytes}

/-- The value of `key` in any text that comes to it through other words. -/
theorem scanned_key {first : Bytes} {parts : List Bytes} (absent : ∀ part ∈ first :: parts, quote ∉ part)
    (others : ∀ part ∈ parts, part ≠ ascii "key") {before : Bytes}
    (cut : Lines.stream quote (first :: parts) = before ++ [quote]) :
    sampleJsonStrGet (Lines.stream quote (first :: parts) ++ ascii "key" ++ quote :: keyRest key val) (ascii "key") =
      (scan .initial (keyRest key val)).result :=
  sampleJsonStrGet_of_first (Search.firstAt_of_parts (by decide) absent others cut _)

theorem outBody_key :
    outBody key val = Lines.stream quote [[openBrace]] ++ ascii "key" ++ quote :: keyRest key val := by
  have opening : ascii "\x7b\"key\":\"" = openBrace :: quote :: (ascii "key" ++ [quote, colon, quote]) := by decide
  have middle : ascii "\",\"val\":\"" = quote :: comma :: quote :: (ascii "val" ++ [quote, colon, quote]) := by decide
  have closing : ascii "\"\x7d" = [quote, closeBrace] := by decide
  rw [outBody, opening, middle, closing, keyRest]
  simp [quoted]

theorem outBody_scanned_key :
    sampleJsonStrGet (outBody key val) (ascii "key") = (scan .initial (keyRest key val)).result := by
  rw [outBody_key]
  exact scanned_key (by decide) (by simp) (show _ = [openBrace] ++ [quote] from rfl)

/-- A key is read back when it is written without an escape, and only then. -/
theorem scanned_key_iff : (scan .initial (keyRest key val)).result = key ↔ Json.Verbatim key := by
  rw [← Json.backslash_notMem_escape_iff]
  exact scan_compactMember_iff (Json.unescape_escape key) _

theorem escape_ne_nil (nonempty : key ≠ []) : Json.escape key ≠ [] := by
  intro none
  have read := Json.unescape_escape key
  rw [none] at read
  exact nonempty (Option.some.inj read).symm

/-- Some key is set, if not the one that was meant. -/
theorem scanned_key_ne_nil (nonempty : key ≠ []) : (scan .initial (keyRest key val)).result ≠ [] := by
  let raw := Json.escape key
  have rawNonempty : raw ≠ [] := escape_ne_nil nonempty
  have noBlank : ∀ b ∈ ([] : Bytes), IsBlank b := fun b member => absurd member List.not_mem_nil
  obtain ⟨rest, cut⟩ : ∃ rest, keyRest key val =
      (([] ++ colon :: []) ++ quote :: raw) ++ quote :: comma :: quote :: rest := by
    refine ⟨ascii "val" ++ quote :: colon :: (quoted (Json.escape val) ++ [closeBrace]), ?_⟩
    simp [keyRest, quoted, raw]
  rw [cut, scan_append, scan_toQuote noBlank noBlank (Json.unescape_escape key), scan_cons]
  by_cases closes : raw.getLast?.getD quote = backslash
  · -- the closing quote is taken for an escaped one, and the next one ends the scan
    have goesOn : scanStep ⟨[].filter (· ≠ space) ++ raw, .inString, raw.getLast?.getD quote, 1⟩ quote =
        ⟨raw ++ [quote], .inString, quote, 1⟩ := by
      simp [scanStep, scanString, closes, Scan.push]
    have takesComma : scanStep ⟨raw ++ [quote], .inString, quote, 1⟩ comma =
        ⟨raw ++ [quote, comma], .inString, comma, 1⟩ := by
      simp [scanStep, scanString, Scan.push, show comma ≠ quote by decide]
    have ends : scanStep ⟨raw ++ [quote, comma], .inString, comma, 1⟩ quote =
        ⟨raw ++ [quote, comma], .finished, quote, 0⟩ := by
      simp [scanStep, scanString, show comma ≠ backslash by decide]
    rw [goesOn, scan_cons, takesComma, scan_cons, ends, result_finished rfl]
    simp [Scan.result]
  · have ends : scanStep ⟨[].filter (· ≠ space) ++ raw, .inString, raw.getLast?.getD quote, 1⟩ quote =
        ⟨raw, .finished, quote, 0⟩ := by
      simp [scanStep, scanString, closes]
    rw [ends, result_finished rfl]
    simpa [Scan.result] using rawNonempty

theorem notMem_of_verbatim (verbatim : Json.Verbatim key) : quote ∉ key := fun member =>
  (verbatim quote member).1 rfl

/-- Behind a key without escapes, the first `"val"` is the name of the value, unless the key is this very word. -/
theorem scanned_val_iff (verbatim : Json.Verbatim key) (other : key ≠ ascii "val") :
    sampleJsonStrGet (outBody key val) (ascii "val") = val ↔ Json.Verbatim val := by
  have absent : ∀ part ∈ [openBrace] :: [ascii "key", [colon], key, [comma]], quote ∉ part := by
    intro part member
    simp only [List.mem_cons, List.not_mem_nil, or_false] at member
    rcases member with rfl | rfl | rfl | rfl | rfl
    · decide
    · decide
    · decide
    · exact notMem_of_verbatim verbatim
    · decide
  have others : ∀ part ∈ [ascii "key", [colon], key, [comma]], part ≠ ascii "val" := by
    intro part member
    simp only [List.mem_cons, List.not_mem_nil, or_false] at member
    rcases member with rfl | rfl | rfl | rfl
    · decide
    · decide
    · exact other
    · decide
  let before := openBrace :: (quoted (ascii "key") ++ colon :: (quoted key ++ [comma]))
  have cut : Lines.stream quote ([openBrace] :: [ascii "key", [colon], key, [comma]]) = before ++ [quote] := by
    simp [before, quoted]
  have whole : outBody key val =
      Lines.stream quote ([openBrace] :: [ascii "key", [colon], key, [comma]]) ++ ascii "val" ++
        quote :: valRest val := by
    rw [outBody_key, keyRest, valRest, Json.escape_verbatim verbatim]
    simp [quoted]
  rw [whole, sampleJsonStrGet_of_first (Search.firstAt_of_parts (by decide) absent others cut _),
    ← Json.backslash_notMem_escape_iff]
  exact scan_compactMember_iff (Json.unescape_escape val) _

/-- The word `"val"` as a key is taken for the name of the value. -/
theorem scanned_val_of_val : sampleJsonStrGet (outBody (ascii "val") val) (ascii "val") = [] := by
  have whole : outBody (ascii "val") val = Lines.stream quote ([openBrace] :: [ascii "key", [colon]]) ++ ascii "val" ++
      quote :: comma :: (quoted (ascii "val") ++ valRest val) := by
    have spelled : Json.escape (ascii "val") = ascii "val" := Json.escape_verbatim (by decide +kernel)
    rw [outBody_key, keyRest, valRest, spelled]
    simp [quoted]
  have cut : Lines.stream quote ([openBrace] :: [ascii "key", [colon]]) =
      (openBrace :: (quoted (ascii "key") ++ [colon])) ++ [quote] := by
    decide
  rw [whole, sampleJsonStrGet_of_first (Search.firstAt_of_parts (by decide) (by decide) (by decide) cut _), scan_cons]
  have ends : scanStep .initial comma = ⟨[], .finished, comma, 0⟩ := rfl
  rw [ends, result_finished rfl]
  rfl

/-- The same text with another value in front. -/
def swappedBody (letter : Byte) (key val : Bytes) : Bytes :=
  Lines.stream quote ([openBrace] :: [ascii "val", [colon], [letter], [comma]]) ++ ascii "key" ++
    quote :: keyRest key val

theorem swappedBody_scanned {letter : Byte} (plain : letter ≠ quote ∧ letter ≠ backslash) :
    sampleJsonStrGet (swappedBody letter key val) (ascii "key") = (scan .initial (keyRest key val)).result ∧
      sampleJsonStrGet (swappedBody letter key val) (ascii "val") = [letter] := by
  constructor
  · let before := openBrace :: (quoted (ascii "val") ++ colon :: (quoted [letter] ++ [comma]))
    have cut : Lines.stream quote ([openBrace] :: [ascii "val", [colon], [letter], [comma]]) = before ++ [quote] := by
      simp [before, quoted]
    refine scanned_key ?_ ?_ cut
    · intro part member
      simp only [List.mem_cons, List.not_mem_nil, or_false] at member
      rcases member with rfl | rfl | rfl | rfl | rfl
      · decide
      · decide
      · decide
      · simpa using plain.1.symm
      · decide
    · intro part member
      simp only [List.mem_cons, List.not_mem_nil, or_false] at member
      rcases member with rfl | rfl | rfl | rfl
      · decide
      · decide
      · simp [ascii]
      · decide
  · have whole : swappedBody letter key val = Lines.stream quote ([openBrace] :: []) ++ ascii "val" ++
        quote :: colon :: (quoted [letter] ++ comma :: quote :: (ascii "key" ++ quote :: keyRest key val)) := by
      simp [swappedBody, quoted]
    have cut : Lines.stream quote ([openBrace] :: []) = [openBrace] ++ [quote] := rfl
    rw [whole, sampleJsonStrGet_of_first (Search.firstAt_of_parts (by decide) (by decide) (by simp) cut _)]
    exact scan_plainLiteral (by simpa using plain) _

end

/-! ## The round trip -/

/-- From `before` a key has been set: it reads the value until it is written again, and nothing else has changed. -/
structure Answers (format : IntFormat) (before stored : Registry) (key val : Bytes) : Prop where
  own : ∀ later, Reaches (managerStep format) (fun m call => ¬ Writes key m call) stored later →
    rpcSqlSelect key later = val
  others : ∀ other, other ≠ key → rpcSqlSelect other stored = rpcSqlSelect other before

def RoundTrips (format : IntFormat) (m : Registry) (key val : Bytes) : Prop :=
  ∃ call stored, sysSqlSetCall key val = some call ∧ managerStep format m call = some stored ∧
    Answers format m stored key val

section
variable {format : IntFormat} {key val : Bytes}

theorem answers_set (m : Registry) : Answers format m (sysSqlSet key val m) key val where
  own later run := by
    have kept : later.keySql key = (sysSqlSet key val m).keySql key := by
      apply run.invariant (fun later => later.keySql key = (sysSqlSet key val m).keySql key) rfl
      intro later call after same unwritten taken
      exact (managerStep_keySql unwritten taken).trans same
    have selected := sysSqlSelect_set key val m
    rw [sysSqlSelect, ← kept] at selected
    exact selected
  others other different := sysSqlSelect_set_of_ne different val m

/-- What a call of `sys_sql_set` sets, under the key that is read from it. -/
theorem roundTrips_stored (nonempty : key ≠ []) {m : Registry} (roundTrips : RoundTrips format m key val) :
    Answers format m (sysSqlSet (scan .initial (keyRest key val)).result
      (sampleJsonStrGet (outBody key val) (ascii "val")) m) key val := by
  obtain ⟨call, stored, called, taken, answers⟩ := roundTrips
  unfold sysSqlSetCall at called
  split at called
  · cases called
    cases taken
    rw [rpcSqlSet_stores (outBody_scanned_key ▸ scanned_key_ne_nil nonempty), outBody_scanned_key] at answers
    exact answers
  · cases called

/-- Some key other than the one that is set holds something else before. -/
theorem exists_before (nonempty : key ≠ []) (start : Registry) (val' : Bytes) :
    ∃ m, Reaches (managerStep format) (fun _ _ => True) start m ∧
      rpcSqlSelect (scan .initial (keyRest key val)).result m ≠ val' := by
  obtain ⟨letter, plain, different⟩ : ∃ letter : Byte, (letter ≠ quote ∧ letter ≠ backslash) ∧ [letter] ≠ val' := by
    by_cases same : [120] = val'
    · exact ⟨121, by decide, same ▸ by decide⟩
    · exact ⟨120, by decide, same⟩
  obtain ⟨sameKey, ownVal⟩ : sampleJsonStrGet (swappedBody letter key val) (ascii "key") = _ ∧
      sampleJsonStrGet (swappedBody letter key val) (ascii "val") = [letter] := swappedBody_scanned plain
  have taken : managerStep format start (.sqlSet (swappedBody letter key val)) =
      some (rpcSqlSet (swappedBody letter key val) start).2 := rfl
  refine ⟨_, Reaches.start.next trivial taken, ?_⟩
  rw [rpcSqlSet_stores (sameKey ▸ scanned_key_ne_nil nonempty), sameKey, ownVal, rpcSqlSelect, sysSqlSelect_set]
  exact different

/-- A value set from a node is answered for its key, and nothing else changes, in every state exactly when neither text
has a quote, a backslash or a control character and the key is not `val`, or its value empty. -/
theorem roundTrips_iff (start : Registry) (nonempty : key ≠ []) (keyValid : Utf8.Valid key)
    (valValid : Utf8.Valid val) :
    (∀ m, Reaches (managerStep format) (fun _ _ => True) start m → RoundTrips format m key val) ↔
      Json.Verbatim key ∧ Json.Verbatim val ∧ (key = ascii "val" → val = []) := by
  constructor
  · intro all
    have verbatim : Json.Verbatim key := by
      -- otherwise another key is written, which held something else
      by_contra escaped
      obtain ⟨m, reached, different⟩ := exists_before nonempty start
        (sampleJsonStrGet (outBody key val) (ascii "val"))
      have isOther : (scan .initial (keyRest key val)).result ≠ key := scanned_key_iff.not.mpr escaped
      have other := (roundTrips_stored nonempty (all m reached)).others _ isOther
      rw [rpcSqlSelect, sysSqlSelect_set] at other
      exact different other.symm
    have answers := roundTrips_stored nonempty (all start .start)
    rw [scanned_key_iff.mpr verbatim] at answers
    have read := answers.own _ .start
    rw [rpcSqlSelect, sysSqlSelect_set] at read
    by_cases isVal : key = ascii "val"
    · subst isVal
      rw [scanned_val_of_val] at read
      subst read
      exact ⟨verbatim, by decide +kernel, fun _ => rfl⟩
    · exact ⟨verbatim, (scanned_val_iff verbatim isVal).mp read, fun same => absurd same isVal⟩
  · rintro ⟨keyVerbatim, valVerbatim, unlessVal⟩ m -
    have scannedKey : sampleJsonStrGet (outBody key val) (ascii "key") = key :=
      outBody_scanned_key.trans (scanned_key_iff.mpr keyVerbatim)
    have scannedVal : sampleJsonStrGet (outBody key val) (ascii "val") = val := by
      by_cases isVal : key = ascii "val"
      · obtain rfl := unlessVal isVal
        subst isVal
        exact scanned_val_of_val
      · exact (scanned_val_iff keyVerbatim isVal).mpr valVerbatim
    refine ⟨.sqlSet (outBody key val), _, if_pos ⟨keyValid, valValid⟩, rfl, ?_⟩
    rw [rpcSqlSet_stores (scannedKey.symm ▸ nonempty), scannedKey, scannedVal]
    exact answers_set m

end

theorem roundTrips_volume : RoundTrips zmqSFormat .idle (ascii "volume") (ascii "70") := by
  apply (roundTrips_iff .idle (by decide) (by decide) (by decide)).mpr
  · exact ⟨by decide +kernel, by decide +kernel, by decide⟩
  · exact .start

/-- A quote comes back with the backslash it is escaped with. -/
theorem quote_not_answered : ¬ ∀ key val : Bytes, key ≠ [] → Utf8.Valid key → Utf8.Valid val →
    ∀ m, Reaches (managerStep zmqSFormat) (fun _ _ => True) .idle m → RoundTrips zmqSFormat m key val := by
  intro all
  obtain ⟨call, stored, called, taken, answers⟩ :=
    all (ascii "title") (ascii "\"") (by decide) (by decide) (by decide) .idle .start
  have read : ((sysSqlSetCall (ascii "title") (ascii "\"")).bind (managerStep zmqSFormat .idle)).map
      (rpcSqlSelect (ascii "title")) = some (ascii "\\\"") := by
    decide +kernel
  rw [called, Option.bind_some, taken, Option.map_some, answers.own stored .start] at read
  exact absurd (Option.some.inj read) (by decide)

end EdgeFlow.System
