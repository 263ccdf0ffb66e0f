import Mathlib.Data.List.Basic

/-! Streams of delimiter-terminated lines, and the chunks a stream is cut into. -/

set_option autoImplicit false

namespace EdgeFlow.Library.Lines

variable {α : Type} (delimiter : α)

/-- Every line followed by one delimiter. -/
def stream (lines : List (List α)) : List α := lines.flatMap fun line => line ++ [delimiter]

@[simp] theorem stream_nil : stream delimiter [] = [] := rfl

@[simp] theorem stream_cons (line : List α) (lines : List (List α)) :
    stream delimiter (line :: lines) = line ++ delimiter :: stream delimiter lines := by
  simp [stream]

theorem stream_append (lines more : List (List α)) :
    stream delimiter (lines ++ more) = stream delimiter lines ++ stream delimiter more := List.flatMap_append

/-- The last line of a stream has its delimiter too. -/
theorem stream_cons_last (line : List α) (lines : List (List α)) :
    ∃ before, stream delimiter (line :: lines) = before ++ [delimiter] := by
  induction lines generalizing line with
  | nil => exact ⟨line, by simp⟩
  | cons next lines ih =>
    obtain ⟨before, cut⟩ := ih next
    exact ⟨line ++ delimiter :: before, by rw [stream_cons, cut]; simp⟩

/-- A text is a stream of lines, and what stands behind its last delimiter. -/
theorem stream_cut (text : List α) : ∃ lines rest, text = stream delimiter lines ++ rest ∧
    (∀ line ∈ lines, delimiter ∉ line) ∧ delimiter ∉ rest := by
  induction text with
  | nil => exact ⟨[], [], rfl, List.forall_mem_nil _, List.not_mem_nil⟩
  | cons a text ih =>
    obtain ⟨lines, rest, rfl, absent, absentRest⟩ := ih
    by_cases isDelimiter : a = delimiter
    · subst isDelimiter
      exact ⟨[] :: lines, rest, by simp, List.forall_mem_cons.mpr ⟨List.not_mem_nil, absent⟩, absentRest⟩
    · have notFirst {part : List α} (absent : delimiter ∉ part) : delimiter ∉ a :: part :=
        List.not_mem_cons_of_ne_of_not_mem (Ne.symm isDelimiter) absent
      cases lines with
      | nil => exact ⟨[], a :: rest, rfl, List.forall_mem_nil _, notFirst absentRest⟩
      | cons line lines =>
        rw [List.forall_mem_cons] at absent
        exact ⟨(a :: line) :: lines, rest, by simp, List.forall_mem_cons.mpr ⟨notFirst absent.1, absent.2⟩, absentRest⟩

/-- A delimiter ends the first line of a stream at one place only. -/
theorem terminated_inj {delimiter : α} {first second rest rest' : List α} (absent : delimiter ∉ first)
    (absent' : delimiter ∉ second) (same : first ++ delimiter :: rest = second ++ delimiter :: rest') :
    first = second ∧ rest = rest' := by
  induction first generalizing second with
  | nil =>
    cases second with
    | nil => simpa using same
    | cons head tail =>
      simp only [List.nil_append, List.cons_append, List.cons.injEq] at same
      simp [same.1] at absent'
  | cons head tail ih =>
    cases second with
    | nil =>
      simp only [List.nil_append, List.cons_append, List.cons.injEq] at same
      simp [same.1] at absent
    | cons head' tail' =>
      simp only [List.cons_append, List.cons.injEq] at same
      simp only [List.mem_cons, not_or] at absent absent'
      obtain ⟨tails, rests⟩ := ih absent.2 absent'.2 same.2
      exact ⟨by rw [same.1, tails], rests⟩

/-- A delimiter begins the last part of a text at one place only. -/
theorem last_part_inj {delimiter : α} {first second rest rest' : List α} (absent : delimiter ∉ rest)
    (absent' : delimiter ∉ rest') (same : first ++ delimiter :: rest = second ++ delimiter :: rest') :
    first = second ∧ rest = rest' := by
  have reversed := congrArg List.reverse same
  simp only [List.reverse_append, List.reverse_cons, List.append_assoc, List.singleton_append] at reversed
  obtain ⟨rests, firsts⟩ := terminated_inj (by simpa using absent) (by simpa using absent') reversed
  exact ⟨List.reverse_injective firsts, List.reverse_injective rests⟩

theorem stream_injective {delimiter : α} {lines lines' : List (List α)}
    (absent : ∀ line ∈ lines, delimiter ∉ line) (absent' : ∀ line ∈ lines', delimiter ∉ line)
    (same : stream delimiter lines = stream delimiter lines') : lines = lines' := by
  induction lines generalizing lines' with
  | nil => cases lines' <;> simp_all
  | cons line lines ih =>
    cases lines' with
    | nil => simp at same
    | cons line' lines' =>
      rw [stream_cons, stream_cons] at same
      simp only [List.mem_cons, forall_eq_or_imp] at absent absent'
      obtain ⟨heads, rests⟩ := terminated_inj absent.1 absent'.1 same
      rw [heads, ih absent.2 absent'.2 rests]

variable [DecidableEq α]

/-- A chunk without the delimiter it may end with. -/
def chomp (chunk : List α) : List α :=
  if chunk.getLast? = some delimiter then chunk.dropLast else chunk

/-- Exactly one delimiter, in the last place. -/
def WholeLine (chunk : List α) : Prop :=
  chunk.getLast? = some delimiter ∧ chunk.count delimiter = 1

variable {delimiter}

@[simp] theorem chomp_terminated (line : List α) : chomp delimiter (line ++ [delimiter]) = line := by
  simp [chomp]

theorem terminated_of_getLast {chunk : List α} (last : chunk.getLast? = some delimiter) :
    chunk = chomp delimiter chunk ++ [delimiter] := by
  rw [chomp, if_pos last]
  exact (List.dropLast_append_getLast? delimiter (by simpa using last)).symm

theorem wholeLine_iff {chunk : List α} :
    WholeLine delimiter chunk ↔
      delimiter ∉ chomp delimiter chunk ∧ chunk = chomp delimiter chunk ++ [delimiter] := by
  constructor
  · rintro ⟨last, once⟩
    have shape := terminated_of_getLast last
    refine ⟨?_, shape⟩
    rw [shape, List.count_append, List.count_singleton_self] at once
    exact List.count_eq_zero.mp (by omega)
  · rintro ⟨absent, shape⟩
    constructor
    · rw [shape]; simp
    · rw [shape, List.count_append, List.count_eq_zero.mpr absent, List.count_singleton_self]

theorem stream_of_wholeLines {chunks : List (List α)} (whole : ∀ chunk ∈ chunks, WholeLine delimiter chunk) :
    chunks.flatten = stream delimiter (chunks.map (chomp delimiter)) := by
  induction chunks with
  | nil => rfl
  | cons chunk chunks ih =>
    simp only [List.mem_cons, forall_eq_or_imp] at whole
    have shape := (wholeLine_iff.mp whole.1).2
    rw [List.flatten_cons, List.map_cons, stream_cons, ih whole.2]
    conv_lhs => rw [shape]
    simp

variable (delimiter) in
theorem length_chomp (chunk : List α) : chunk.length ≤ (chomp delimiter chunk).length + 1 := by
  unfold chomp
  split
  · rw [List.length_dropLast]; omega
  · omega

variable (delimiter) in
/-- A stream is at least as long as the chunks that leave its lines when chomped. -/
theorem length_flatten_le (chunks : List (List α)) :
    chunks.flatten.length ≤ (stream delimiter (chunks.map (chomp delimiter))).length := by
  induction chunks with
  | nil => exact Nat.le_refl _
  | cons chunk chunks ih =>
    have head := length_chomp delimiter chunk
    simp only [List.flatten_cons, List.length_append, List.map_cons, stream_cons, List.length_cons]
    omega

/-- Chunks as long together as the stream of their chomped selves lost one delimiter each. -/
theorem terminated_of_length {chunks : List (List α)}
    (same : chunks.flatten.length = (stream delimiter (chunks.map (chomp delimiter))).length) :
    ∀ chunk ∈ chunks, chunk = chomp delimiter chunk ++ [delimiter] := by
  induction chunks with
  | nil => simp
  | cons chunk chunks ih =>
    have head := length_chomp delimiter chunk
    have tail := length_flatten_le delimiter chunks
    simp only [List.flatten_cons, List.length_append, List.map_cons, stream_cons, List.length_cons] at same
    simp only [List.mem_cons, forall_eq_or_imp]
    refine ⟨?_, ih (by omega)⟩
    apply terminated_of_getLast
    by_contra other
    have kept : chomp delimiter chunk = chunk := if_neg other
    rw [kept] at same
    omega

/-- Cutting a stream into chunks and chomping each gives the lines back exactly
when every chunk is one whole line. -/
theorem chomp_chunks_iff {lines chunks : List (List α)} (absent : ∀ line ∈ lines, delimiter ∉ line)
    (cut : chunks.flatten = stream delimiter lines) :
    chunks.map (chomp delimiter) = lines ↔ ∀ chunk ∈ chunks, WholeLine delimiter chunk := by
  constructor
  · intro same chunk member
    subst same
    refine wholeLine_iff.mpr ⟨absent _ (List.mem_map_of_mem member), ?_⟩
    exact terminated_of_length (congrArg List.length cut) chunk member
  · intro whole
    have absent' : ∀ line ∈ chunks.map (chomp delimiter), delimiter ∉ line := by
      intro line member
      obtain ⟨chunk, chunkMember, rfl⟩ := List.mem_map.mp member
      exact (wholeLine_iff.mp (whole chunk chunkMember)).1
    exact stream_injective absent' absent (by rw [← stream_of_wholeLines whole, cut])

/-! ## Cutting a text at its delimiters -/

/-- What stands before a text, with no delimiter in it, goes to the first line. -/
theorem splitOn_append_of_notMem {delimiter : α} {front : List α} (absent : delimiter ∉ front) (text : List α) :
    (front ++ text).splitOn delimiter = (text.splitOn delimiter).modifyHead (front ++ ·) := by
  induction front with
  | nil =>
    rw [List.nil_append]
    cases text.splitOn delimiter <;> rfl
  | cons a front ih =>
    obtain ⟨other, absent⟩ := not_or.mp (List.mem_cons.not.mp absent)
    rw [List.cons_append, List.splitOn_cons_eq_if_modifyHead, if_neg (by simpa using Ne.symm other), ih absent]
    cases text.splitOn delimiter <;> rfl

/-- Texts with a delimiter between every two have the lines of each. -/
theorem splitOn_intercalate_flatMap {delimiter : α} {texts : List (List α)} (nonempty : texts ≠ []) :
    (List.intercalate [delimiter] texts).splitOn delimiter = texts.flatMap (·.splitOn delimiter) := by
  induction texts with
  | nil => exact absurd rfl nonempty
  | cons text texts ih =>
    cases texts with
    | nil => rw [List.intercalate_singleton, List.flatMap_singleton]
    | cons next texts =>
      rw [List.intercalate_cons_cons, List.append_assoc, List.singleton_append, List.splitOn_append_cons_self,
        ih (List.cons_ne_nil _ _)]
      rfl

/-- The lines of a text that a delimiter ends. -/
def complete (delimiter : α) (text : List α) : List (List α) := (text.splitOn delimiter).dropLast

theorem complete_cons {line : List α} (absent : delimiter ∉ line) (rest : List α) :
    complete delimiter (line ++ delimiter :: rest) = line :: complete delimiter rest := by
  rw [complete, List.splitOn_append_cons_self_of_not_mem absent, List.dropLast_cons_of_ne_nil (List.splitOn_ne_nil _ _)]
  rfl

theorem complete_of_notMem {text : List α} (absent : delimiter ∉ text) : complete delimiter text = [] := by
  rw [complete, List.splitOn_eq_singleton absent]
  rfl

theorem complete_stream {lines : List (List α)} (absent : ∀ line ∈ lines, delimiter ∉ line) :
    complete delimiter (stream delimiter lines) = lines := by
  induction lines with
  | nil => exact complete_of_notMem List.not_mem_nil
  | cons line lines ih =>
    obtain ⟨here, later⟩ := List.forall_mem_cons.mp absent
    rw [stream_cons, complete_cons here, ih later]

/-- Whatever has come of a stream so far, its lines are the first of the stream's. -/
theorem complete_isPrefix {lines : List (List α)} (absent : ∀ line ∈ lines, delimiter ∉ line) {text : List α}
    (soFar : text <+: stream delimiter lines) : complete delimiter text <+: lines := by
  induction lines generalizing text with
  | nil =>
    obtain rfl := List.prefix_nil.mp soFar
    simp only [complete_of_notMem List.not_mem_nil, List.nil_prefix]
  | cons line lines ih =>
    obtain ⟨here, later⟩ := List.forall_mem_cons.mp absent
    rw [stream_cons] at soFar
    rcases List.prefix_or_prefix_of_prefix soFar (List.prefix_append line _) with within | ⟨rest, rfl⟩
    · rw [complete_of_notMem fun member => here (within.subset member)]
      exact List.nil_prefix
    · have behind := (List.prefix_append_right_inj line).mp soFar
      cases rest with
      | nil =>
        rw [List.append_nil, complete_of_notMem here]
        exact List.nil_prefix
      | cons first rest =>
        obtain ⟨rfl, behind⟩ := List.cons_prefix_cons.mp behind
        rw [complete_cons here]
        exact List.cons_prefix_cons.mpr ⟨rfl, ih later behind⟩

variable (delimiter) in
/-- The parts of a text between every two delimiters in a row. -/
def paragraphs : List α → List (List α)
  | [] => [[]]
  | [a] => [[a]]
  | a :: b :: rest =>
    if a = delimiter ∧ b = delimiter then [] :: paragraphs rest
    else (paragraphs (b :: rest)).modifyHead (a :: ·)

theorem paragraphs_ne_nil (text : List α) : paragraphs delimiter text ≠ [] := by
  induction text using paragraphs.induct delimiter with
  | case1 | case2 => simp [paragraphs]
  | case3 a b rest both ih => simp [paragraphs, both]
  | case4 a b rest other ih => simpa [paragraphs, other] using ih

theorem paragraphs_singleton {text part : List α} (single : paragraphs delimiter text = [part]) : part = text := by
  induction text using paragraphs.induct delimiter generalizing part with
  | case1 | case2 => simpa [paragraphs, eq_comm] using single
  | case3 a b rest both ih => simp [paragraphs, both, paragraphs_ne_nil] at single
  | case4 a b rest other ih =>
    rw [paragraphs, if_neg other] at single
    cases parts : paragraphs delimiter (b :: rest) with
    | nil => exact absurd parts (paragraphs_ne_nil _)
    | cons first more =>
      rw [parts, List.modifyHead_cons, List.cons.injEq] at single
      have whole : first = b :: rest := ih (parts.trans (by rw [single.2]))
      rw [← single.1, whole]

/-- What has been split off stays so; the last part goes on with what is appended. -/
theorem paragraphs_append {text last : List α} {parts : List (List α)}
    (split : paragraphs delimiter text = parts ++ [last])
    (more : List α) : paragraphs delimiter (text ++ more) = parts ++ paragraphs delimiter (last ++ more) := by
  induction text using paragraphs.induct delimiter generalizing parts with
  | case1 | case2 =>
    rw [paragraphs] at split
    cases parts with
    | nil =>
      cases split
      rfl
    | cons part parts => simp at split
  | case3 a b rest both ih =>
    rw [paragraphs, if_pos both] at split
    cases parts with
    | nil => simp [paragraphs_ne_nil] at split
    | cons part parts =>
      rw [List.cons_append, List.cons.injEq] at split
      rw [List.cons_append, List.cons_append, paragraphs, if_pos both, ih split.2, List.cons_append, split.1]
  | case4 a b rest other ih =>
    rw [paragraphs, if_neg other] at split
    cases before : paragraphs delimiter (b :: rest) with
    | nil => exact absurd before (paragraphs_ne_nil _)
    | cons first tail =>
      rw [before, List.modifyHead_cons] at split
      cases parts with
      | nil =>
        -- nothing has been split off, and the two elements in front do not split
        rw [List.nil_append, List.cons.injEq] at split
        obtain ⟨rfl, rfl⟩ := split
        rw [paragraphs_singleton before]
        rfl
      | cons part parts =>
        rw [List.cons_append, List.cons.injEq] at split
        obtain ⟨rfl, rfl⟩ := split
        have later := ih (before.trans (List.cons_append).symm)
        rw [List.cons_append, List.cons_append, paragraphs, if_neg other, ← List.cons_append, later]
        rfl

/-- A part without a delimiter that two of them end is the first. -/
theorem paragraphs_cons {part : List α} (absent : delimiter ∉ part) (rest : List α) :
    paragraphs delimiter (part ++ delimiter :: delimiter :: rest) = part :: paragraphs delimiter rest := by
  induction part with
  | nil => simp [paragraphs]
  | cons a part ih =>
    obtain ⟨notHere, notLater⟩ := not_or.mp (List.mem_cons.not.mp absent)
    have later := ih notLater
    cases shape : part ++ delimiter :: delimiter :: rest with
    | nil => simp at shape
    | cons b tail =>
      rw [shape] at later
      rw [List.cons_append, shape, paragraphs, if_neg fun both => notHere both.1.symm, later]
      rfl

theorem mem_of_mem_paragraphs {text part : List α} (isPart : part ∈ paragraphs delimiter text) {a : α}
    (member : a ∈ part) : a ∈ text := by
  induction text using paragraphs.induct delimiter generalizing part with
  | case1 | case2 =>
    simp only [paragraphs, List.mem_singleton] at isPart
    rwa [isPart] at member
  | case3 b c rest both ih =>
    rw [paragraphs, if_pos both] at isPart
    rcases List.mem_cons.mp isPart with rfl | later
    · cases member
    · exact List.mem_cons_of_mem _ (List.mem_cons_of_mem _ (ih later member))
  | case4 b c rest other ih =>
    rw [paragraphs, if_neg other] at isPart
    cases parts : paragraphs delimiter (c :: rest) with
    | nil => exact absurd parts (paragraphs_ne_nil _)
    | cons first tail =>
      rw [parts, List.modifyHead_cons] at isPart
      rw [parts] at ih
      rcases List.mem_cons.mp isPart with rfl | later
      · rcases List.mem_cons.mp member with rfl | inFirst
        · exact List.mem_cons_self
        · exact List.mem_cons_of_mem _ (ih List.mem_cons_self inFirst)
      · exact List.mem_cons_of_mem _ (ih (List.mem_cons_of_mem _ later) member)

end EdgeFlow.Library.Lines
