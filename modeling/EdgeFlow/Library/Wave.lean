import EdgeFlow.Library.Decimal
import EdgeFlow.Library.Except
import EdgeFlow.Library.Reader
import Mathlib.Logic.Relation

/-! RIFF files with PCM samples: little-endian numbers, the chunks of a file, and a reader
that goes over them the way Python's `wave` does, up to version 3.11: later ones take the
extensible format besides the PCM one.
-/

set_option autoImplicit false

namespace EdgeFlow.Library.Wave

/-! ## Little-endian numbers -/

def le : (width : Nat) → Nat → Bytes
  | 0, _ => []
  | width + 1, value => UInt8.ofNat value :: le width (value / 256)

def leValue : Bytes → Nat
  | [] => 0
  | b :: bytes => b.toNat + 256 * leValue bytes

@[simp] theorem length_le (width value : Nat) : (le width value).length = width := by
  induction width generalizing value with
  | zero => rfl
  | succ width ih => rw [le, List.length_cons, ih]

theorem leValue_le {width value : Nat} (fits : value < 256 ^ width) : leValue (le width value) = value := by
  induction width generalizing value with
  | zero =>
    rw [Nat.pow_zero] at fits
    rw [Nat.lt_one_iff.mp fits]
    rfl
  | succ width ih =>
    have rest : value / 256 < 256 ^ width := by
      rw [Nat.pow_succ] at fits
      exact Nat.div_lt_of_lt_mul (Nat.mul_comm 256 _ ▸ fits)
    rw [le, leValue, ih rest]
    have byte : (UInt8.ofNat value).toNat = value % 256 := UInt8.toNat_ofNat'
    omega

theorem le_leValue (bytes : Bytes) : le bytes.length (leValue bytes) = bytes := by
  induction bytes with
  | nil => rfl
  | cons b bytes ih =>
    have small := b.toNat_lt
    have first : UInt8.ofNat (b.toNat + 256 * leValue bytes) = b := by
      refine UInt8.toNat.inj ?_
      rw [UInt8.toNat_ofNat']
      omega
    have others : (b.toNat + 256 * leValue bytes) / 256 = leValue bytes := by omega
    rw [List.length_cons, leValue, le, first, others, ih]

theorem leValue_lt (bytes : Bytes) : leValue bytes < 256 ^ bytes.length := by
  induction bytes with
  | nil => exact Nat.one_pos
  | cons b bytes ih =>
    have small := b.toNat_lt
    rw [leValue, List.length_cons, Nat.pow_succ]
    omega

/-! ## Chunks -/

/-- The content of a RIFF chunk, from some place in it on. -/
abbrev Riff := Limited Bytes

namespace Riff

def advance (n : Nat) (riff : Riff) : Riff := ⟨riff.file.drop n, riff.left - n⟩

theorem advance_advance (first second : Nat) (riff : Riff) :
    (riff.advance first).advance second = riff.advance (first + second) := by
  simp only [advance, List.drop_drop, Nat.sub_sub]

/-- A chunk begins here: its name and its size, and the place where its content does. -/
structure Begins (riff : Riff) (name : Bytes) (size : Nat) (content : Riff) : Prop where
  named : name.length = 4
  fits : size < 256 ^ 4
  inside : 8 ≤ riff.left
  cut : riff.file = name ++ (le 4 size ++ content.file)
  left : content.left = riff.left - 8

end Riff

section
variable {File : Type} [Reader File]

/-- `_Chunk(file)`, where the file is long enough for it. -/
def header (file : File) : Option (Bytes × Nat × File) :=
  let (name, file) := Reader.read 4 file
  let (size, file) := Reader.read 4 file
  if name.length = 4 ∧ size.length = 4 then some (name, leValue size, file) else none

theorem header_iff {file content : File} {name : Bytes} {size : Nat} :
    header file = some (name, size, content) ↔ name.length = 4 ∧ size < 256 ^ 4 ∧
      ∃ middle, Reader.Reads name file middle ∧ Reader.Reads (le 4 size) middle content := by
  constructor
  · intro found
    simp only [header, Option.ite_none_right_eq_some, Option.some.injEq, Prod.mk.injEq] at found
    obtain ⟨⟨named, sized⟩, rfl, rfl, rfl⟩ := found
    have first := (Reader.read_whole_iff.mp ⟨rfl, named⟩).1
    have second := (Reader.read_whole_iff.mp ⟨rfl, sized⟩).1
    have spelled := le_leValue (Reader.read 4 (Reader.read 4 file).2).1
    have fits := leValue_lt (Reader.read 4 (Reader.read 4 file).2).1
    rw [sized] at spelled fits
    exact ⟨named, fits, (Reader.read 4 file).2, first, spelled.symm ▸ second⟩
  · rintro ⟨named, fits, middle, first, second⟩
    have takenName := (Reader.read_whole_iff.mpr ⟨first, named⟩).1
    have takenSize := (Reader.read_whole_iff.mpr ⟨second, length_le 4 size⟩).1
    simp only [header, takenName, takenSize, named, length_le, and_self, if_true, leValue_le fits]

end

theorem header_bytes_iff {bytes name rest : Bytes} {size : Nat} : header bytes = some (name, size, rest) ↔
    name.length = 4 ∧ size < 256 ^ 4 ∧ bytes = name ++ (le 4 size ++ rest) := by
  simp only [header_iff, Reader.reads_bytes_iff, exists_eq_right]

theorem header_riff_iff {riff content : Riff} {name : Bytes} {size : Nat} :
    header riff = some (name, size, content) ↔ riff.Begins name size content := by
  simp only [header_iff, Limited.reads_iff, Reader.reads_bytes_iff, length_le]
  constructor
  · rintro ⟨named, fits, middle, ⟨within, cut, left⟩, withinSize, cutSize, leftSize⟩
    exact ⟨named, fits, by omega, by rw [cut, cutSize], by omega⟩
  · rintro ⟨named, fits, inside, cut, left⟩
    refine ⟨named, fits, ⟨le 4 size ++ content.file, riff.left - 4⟩, ⟨by omega, cut, by rw [named]⟩, ?_, rfl, ?_⟩
    · show 4 ≤ riff.left - 4
      omega
    · show content.left = riff.left - 4 - 4
      omega

/-- A read within a chunk of a RIFF file. -/
theorem reads_chunk_iff {data : Bytes} {content : Riff} {size : Nat} {after : Limited Riff} :
    Reader.Reads data (⟨content, size⟩ : Limited Riff) after ↔
      (data.length ≤ size ∧ data.length ≤ content.left ∧ data <+: content.file) ∧
        after = ⟨content.advance data.length, size - data.length⟩ := by
  obtain ⟨⟨file, left⟩, size'⟩ := after
  simp only [Limited.reads_iff, Reader.reads_bytes_iff, Riff.advance, Limited.mk.injEq]
  constructor
  · rintro ⟨within, ⟨inside, cut, isLeft⟩, isSize⟩
    exact ⟨⟨within, inside, file, cut.symm⟩, ⟨by rw [cut, List.drop_left], isLeft⟩, isSize⟩
  · rintro ⟨⟨within, inside, rest, cut⟩, ⟨isFile, isLeft⟩, isSize⟩
    rw [← cut, List.drop_left] at isFile
    exact ⟨within, ⟨inside, by rw [isFile, cut], isLeft⟩, isSize⟩

/-! ## The format -/

structure Fmt where
  channels : Nat
  rate : Nat
  /-- the width of a sample in bytes -/
  sampWidth : Nat
  deriving DecidableEq

inductive WaveFault where
  /-- `EOFError` -/
  | eofError
  /-- `wave.Error` -/
  | error (message : Bytes)
  /-- `RuntimeError` -/
  | runtimeError
  deriving DecidableEq

/-- `_read_fmt_chunk` -/
def readFmtChunk (chunk : Limited Riff) : Except WaveFault (Fmt × Limited Riff) :=
  let (fields, chunk) := Reader.read 14 chunk
  if fields.length ≠ 14 then .error .eofError
  else
    let tag := leValue (fields.take 2)
    let channels := leValue ((fields.drop 2).take 2)
    let rate := leValue ((fields.drop 4).take 4)
    if tag ≠ 1 then .error (.error (ascii "unknown format: " ++ Decimal.ofNat tag))
    else
      let (bits, chunk) := Reader.read 2 chunk
      if bits.length ≠ 2 then .error .eofError
      else
        let sampWidth := (leValue bits + 7) / 8
        if sampWidth = 0 then .error (.error (ascii "bad sample width"))
        else if channels = 0 then .error (.error (ascii "bad # of channels"))
        else .ok (⟨channels, rate, sampWidth⟩, chunk)

/-- What is described as a format: the first 16 bytes of a chunk. -/
def fmtFields (channels rate byteRate blockAlign bits : Nat) : Bytes :=
  le 2 1 ++ (le 2 channels ++ (le 4 rate ++ (le 4 byteRate ++ (le 2 blockAlign ++ le 2 bits))))

/-- The content of a chunk of this size begins with a PCM format. -/
def Riff.Describes (content : Riff) (size : Nat) (fmt : Fmt) : Prop :=
  16 ≤ size ∧ 16 ≤ content.left ∧ fmt.channels ≠ 0 ∧ fmt.sampWidth ≠ 0 ∧
    ∃ byteRate blockAlign bits rest, content.file = fmtFields fmt.channels fmt.rate byteRate blockAlign bits ++ rest ∧
      fmt.channels < 256 ^ 2 ∧ fmt.rate < 256 ^ 4 ∧ bits < 256 ^ 2 ∧ fmt.sampWidth = (bits + 7) / 8

theorem length_fmtFields (channels rate byteRate blockAlign bits : Nat) :
    (fmtFields channels rate byteRate blockAlign bits).length = 16 := by
  simp [fmtFields]

/-- Fourteen bytes are the fields before the last. -/
theorem fields_eq {fields : Bytes} (length : fields.length = 14) : ∃ byteRate blockAlign,
    fields = le 2 (leValue (fields.take 2)) ++ (le 2 (leValue ((fields.drop 2).take 2)) ++
      (le 4 (leValue ((fields.drop 4).take 4)) ++ (le 4 byteRate ++ le 2 blockAlign))) := by
  have part (start width : Nat) (within : start + width ≤ 14) :
      le width (leValue ((fields.drop start).take width)) = (fields.drop start).take width := by
    have spelled := le_leValue ((fields.drop start).take width)
    rwa [List.length_take, List.length_drop, length, Nat.min_eq_left (by omega)] at spelled
  refine ⟨leValue ((fields.drop 8).take 4), leValue ((fields.drop 12).take 2), ?_⟩
  have first := part 0 2 (by omega)
  rw [List.drop_zero] at first
  rw [first, part 2 2 (by omega), part 4 4 (by omega), part 8 4 (by omega), part 12 2 (by omega)]
  have last : (fields.drop 12).take 2 = fields.drop 12 := List.take_of_length_le (by rw [List.length_drop]; omega)
  have step (start width : Nat) : (fields.drop start).take width ++ fields.drop (start + width) =
      fields.drop start := by
    rw [← List.drop_drop, List.take_append_drop]
  rw [last, step 8 4, step 4 4, step 2 2, List.take_append_drop]

/-- A chunk that is read to be a format is read as far as its first 16 bytes. -/
theorem readFmtChunk_iff {content : Riff} {size : Nat} {fmt : Fmt} {chunk : Limited Riff} :
    readFmtChunk ⟨content, size⟩ = .ok (fmt, chunk) ↔
      content.Describes size fmt ∧ chunk = ⟨content.advance 16, size - 16⟩ := by
  constructor
  · intro read
    unfold readFmtChunk at read
    generalize first : Reader.read 14 (⟨content, size⟩ : Limited Riff) = taken at read
    obtain ⟨fields, behind⟩ := taken
    dsimp only at read
    split at read
    · cases read
    next fourteen =>
      rw [not_not] at fourteen
      split at read
      · cases read
      next tag =>
        generalize second : Reader.read 2 behind = taken at read
        obtain ⟨bits, rest⟩ := taken
        dsimp only at read
        split at read
        · cases read
        next two =>
          rw [not_not] at two tag
          split at read
          · cases read
          next sampWidth =>
            split at read
            · cases read
            next channels =>
              cases read
              -- both reads were whole, so the fields and the width are the first 16 bytes of the content
              obtain ⟨⟨-, -, before⟩, rfl⟩ := reads_chunk_iff.mp (Reader.read_whole_iff.mp ⟨first, fourteen⟩).1
              obtain ⟨⟨within, inside, behind⟩, rfl⟩ := reads_chunk_iff.mp (Reader.read_whole_iff.mp ⟨second, two⟩).1
              obtain ⟨more, cut⟩ := before
              obtain ⟨rest, cutBits⟩ := behind
              rw [fourteen, two] at within
              rw [fourteen, two, Riff.advance] at inside
              rw [fourteen, Riff.advance, ← cut, List.drop_left' fourteen] at cutBits
              rw [fourteen, two, Riff.advance_advance, Nat.sub_sub]
              obtain ⟨byteRate, blockAlign, isFields⟩ := fields_eq fourteen
              have isBits := le_leValue bits
              have fits := leValue_lt bits
              rw [two] at isBits fits
              rw [tag] at isFields
              have slice (start width : Nat) (inside : start + width ≤ 14) :
                  leValue ((fields.drop start).take width) < 256 ^ width := by
                have fits := leValue_lt ((fields.drop start).take width)
                rwa [List.length_take, List.length_drop, fourteen, Nat.min_eq_left (by omega)] at fits
              refine ⟨⟨by omega, by dsimp only at inside; omega, channels, sampWidth, byteRate, blockAlign,
                leValue bits, rest, ?_,
                slice 2 2 (by omega), slice 4 4 (by omega), fits, rfl⟩, rfl⟩
              have behindBits : bits ++ rest = more := cutBits
              dsimp only
              rw [← cut, ← behindBits, fmtFields, isBits]
              nth_rewrite 1 [isFields]
              simp only [List.append_assoc]
  · rintro ⟨⟨within, inside, channels, sampWidth, byteRate, blockAlign, bits, rest, cut, fitsChannels,
      fitsRate, fitsBits,
      isWidth⟩, rfl⟩
    generalize isFields : le 2 1 ++ (le 2 fmt.channels ++ (le 4 fmt.rate ++ (le 4 byteRate ++ le 2 blockAlign))) = fields
    have fourteen : fields.length = 14 := by simp [← isFields]
    have whole : content.file = fields ++ (le 2 bits ++ rest) := by simp [cut, fmtFields, ← isFields]
    have first : Reader.Reads fields (⟨content, size⟩ : Limited Riff) ⟨content.advance 14, size - 14⟩ := by
      refine reads_chunk_iff.mpr ⟨⟨by omega, by omega, _, whole.symm⟩, by rw [fourteen]⟩
    have second : Reader.Reads (le 2 bits) (⟨content.advance 14, size - 14⟩ : Limited Riff) ⟨content.advance 16,
        size - 16⟩ := by
      refine reads_chunk_iff.mpr
        ⟨⟨by rw [length_le]; omega, by rw [length_le, Riff.advance]; dsimp only; omega, rest, ?_⟩, ?_⟩
      · rw [Riff.advance, whole, List.drop_left' fourteen]
      · rw [length_le, Riff.advance_advance, Nat.sub_sub]
    -- the fields are cut at the places they were written to
    have takenFields := (Reader.read_whole_iff.mpr ⟨first, fourteen⟩).1
    have takenBits := (Reader.read_whole_iff.mpr ⟨second, length_le 2 bits⟩).1
    have tag : leValue (fields.take 2) = 1 := by
      rw [← isFields, List.take_left' (length_le 2 1), leValue_le (by decide)]
    have isChannels : leValue ((fields.drop 2).take 2) = fmt.channels := by
      rw [← isFields, List.drop_left' (length_le 2 1), List.take_left' (length_le 2 _), leValue_le fitsChannels]
    have isRate : leValue ((fields.drop 4).take 4) = fmt.rate := by
      show leValue ((fields.drop (2 + 2)).take 4) = fmt.rate
      rw [← List.drop_drop, ← isFields, List.drop_left' (length_le 2 1), List.drop_left' (length_le 2 _),
        List.take_left' (length_le 4 _), leValue_le fitsRate]
    simp only [readFmtChunk, takenFields, fourteen, takenBits, length_le, tag, isChannels, isRate,
      leValue_le fitsBits, ← isWidth,
      channels, sampWidth, ne_eq, not_true_eq_false, if_false]

/-- However a format is badly described, `wave` has a name for it. -/
theorem readFmtChunk_ne_runtimeError (chunk : Limited Riff) : readFmtChunk chunk ≠ .error .runtimeError := by
  unfold readFmtChunk
  dsimp only
  split_ifs <;> simp

/-! ## From chunk to chunk -/

/-- `skip` in a chunk of a RIFF file: to its end, and over the byte that pads an odd size. -/
def skip (size : Nat) (chunk : Limited Riff) : Except WaveFault Riff :=
  let n := chunk.left + size % 2
  -- `seek` keeps within the size of the RIFF chunk
  if chunk.file.left < n then .error .runtimeError else .ok (chunk.file.advance n)

/-- A file that was opened: its format, and its samples from the next on. -/
structure WaveRead where
  fmt : Fmt
  data : Limited Riff

inductive Turn where
  | found (wave : WaveRead)
  | next (riff : Riff) (fmt : Option Fmt)

def missing : Bytes := ascii "fmt chunk and/or data chunk missing"

/-- One turn of the loop of `initfp`. -/
def turn (riff : Riff) (fmt : Option Fmt) : Except WaveFault Turn :=
  match header riff with
  | none => .error (.error missing)
  | some (name, size, content) =>
    if name = ascii "fmt " then do
      let (described, chunk) ← readFmtChunk ⟨content, size⟩
      let riff ← skip size chunk
      .ok (.next riff (some described))
    else if name = ascii "data" then
      match fmt with
      | some described => .ok (.found ⟨described, ⟨content, size⟩⟩)
      | none => .error (.error (ascii "data chunk before fmt chunk"))
    else do
      let riff ← skip size ⟨content, size⟩
      .ok (.next riff fmt)

/-- From one chunk before the samples to the next, and the last format described so far. -/
inductive Skips : Riff × Option Fmt → Riff × Option Fmt → Prop where
  | fmt {riff content : Riff} {size : Nat} {old : Option Fmt} {described : Fmt} :
      riff.Begins (ascii "fmt ") size content → content.Describes size described → size + size % 2 ≤ content.left →
        Skips (riff, old) (content.advance (size + size % 2), some described)
  | other {riff content : Riff} {name : Bytes} {size : Nat} {old : Option Fmt} :
      name ≠ ascii "fmt " → name ≠ ascii "data" → riff.Begins name size content → size + size % 2 ≤ content.left →
        Skips (riff, old) (content.advance (size + size % 2), old)

/-- A chunk other than the samples says it is longer than what is left of the RIFF chunk. -/
def Riff.Overreaches (riff : Riff) : Prop :=
  ∃ name size content, riff.Begins name size content ∧ name ≠ ascii "data" ∧
    (name = ascii "fmt " → ∃ described, content.Describes size described) ∧ content.left < size + size % 2

theorem turn_none {riff : Riff} (short : header riff = none) (fmt : Option Fmt) :
    turn riff fmt = .error (.error missing) := by
  rw [turn, short]

section
variable {riff content : Riff} {name : Bytes} {size : Nat}

theorem turn_fmt (begins : riff.Begins (ascii "fmt ") size content) (fmt : Option Fmt) :
    turn riff fmt = (readFmtChunk ⟨content, size⟩).bind fun (described, chunk) =>
      (skip size chunk).bind fun after => .ok (.next after (some described)) := by
  rw [turn, header_riff_iff.mpr begins]
  rfl

theorem turn_data (begins : riff.Begins (ascii "data") size content) (fmt : Option Fmt) : turn riff fmt =
    match fmt with
    | some described => .ok (.found ⟨described, ⟨content, size⟩⟩)
    | none => .error (.error (ascii "data chunk before fmt chunk")) := by
  rw [turn, header_riff_iff.mpr begins]
  rfl

theorem turn_other (notFmt : name ≠ ascii "fmt ") (notData : name ≠ ascii "data")
    (begins : riff.Begins name size content)
    (fmt : Option Fmt) : turn riff fmt = (skip size ⟨content, size⟩).bind fun after => .ok (.next after fmt) := by
  rw [turn, header_riff_iff.mpr begins]
  simp only [if_neg notFmt, if_neg notData]
  rfl

/-- A format is skipped like any chunk: what was read of it is not skipped again. -/
theorem skip_described {described : Fmt} (describes : content.Describes size described) :
    skip size ⟨content.advance 16, size - 16⟩ = skip size ⟨content, size⟩ := by
  obtain ⟨within, inside, -⟩ := describes
  have whole : 16 + (size - 16 + size % 2) = size + size % 2 := by omega
  simp only [skip, Riff.advance_advance, whole]
  congr 1
  simp only [Riff.advance]
  exact propext ⟨fun short => by omega, fun short => by omega⟩

theorem skip_eq : skip size ⟨content, size⟩ =
    if content.left < size + size % 2 then .error .runtimeError else .ok (content.advance (size + size % 2)) := rfl

end

section
variable {riff after : Riff} {fmt later : Option Fmt}

/-- What the next turn meets. -/
theorem header_cases (riff : Riff) : header riff = none ∨ (∃ size content, riff.Begins (ascii "fmt ") size content) ∨
    (∃ size content, riff.Begins (ascii "data") size content) ∨
      ∃ name size content, name ≠ ascii "fmt " ∧ name ≠ ascii "data" ∧ riff.Begins name size content := by
  cases found : header riff with
  | none => exact .inl rfl
  | some chunk =>
    obtain ⟨name, size, content⟩ := chunk
    have begins := header_riff_iff.mp found
    by_cases isFmt : name = ascii "fmt "
    · exact .inr (.inl ⟨size, content, isFmt ▸ begins⟩)
    · by_cases isData : name = ascii "data"
      · exact .inr (.inr (.inl ⟨size, content, isData ▸ begins⟩))
      · exact .inr (.inr (.inr ⟨name, size, content, isFmt, isData, begins⟩))

theorem Riff.Begins.unique {name other : Bytes} {size otherSize : Nat} {content otherContent : Riff}
    (begins : riff.Begins name size content) (again : riff.Begins other otherSize otherContent) :
    name = other ∧ size = otherSize ∧ content = otherContent := by
  have same := (header_riff_iff.mpr begins).symm.trans (header_riff_iff.mpr again)
  rw [Option.some.injEq, Prod.mk.injEq, Prod.mk.injEq] at same
  exact same

theorem turn_next_iff : turn riff fmt = .ok (.next after later) ↔ Skips (riff, fmt) (after, later) := by
  constructor
  · intro turned
    rcases header_cases riff with short | ⟨size, content, begins⟩ | ⟨size, content, begins⟩ |
      ⟨name, size, content, notFmt, notData, begins⟩
    · rw [turn_none short] at turned
      cases turned
    · rw [turn_fmt begins] at turned
      obtain ⟨⟨described, chunk⟩, read, turned⟩ := ok_of_bind turned
      obtain ⟨describes, rfl⟩ := readFmtChunk_iff.mp read
      obtain ⟨next, skipped, turned⟩ := ok_of_bind turned
      cases turned
      rw [skip_described describes, skip_eq] at skipped
      split at skipped
      · cases skipped
      next room =>
        cases skipped
        exact .fmt begins describes (not_lt.mp room)
    · rw [turn_data begins] at turned
      cases fmt <;> cases turned
    · rw [turn_other notFmt notData begins] at turned
      obtain ⟨next, skipped, turned⟩ := ok_of_bind turned
      cases turned
      rw [skip_eq] at skipped
      split at skipped
      · cases skipped
      next room =>
        cases skipped
        exact .other notFmt notData begins (not_lt.mp room)
  · intro skips
    cases skips with
    | fmt begins describes room =>
      rw [turn_fmt begins, readFmtChunk_iff.mpr ⟨describes, rfl⟩]
      simp only [Except.bind, skip_described describes, skip_eq, if_neg (not_lt.mpr room)]
    | other notFmt notData begins room =>
      rw [turn_other notFmt notData begins, skip_eq, if_neg (not_lt.mpr room)]
      rfl

theorem turn_found_iff {wave : WaveRead} : turn riff fmt = .ok (.found wave) ↔
    fmt = some wave.fmt ∧ ∃ size content, riff.Begins (ascii "data") size content ∧ wave.data = ⟨content, size⟩ := by
  constructor
  · intro turned
    rcases header_cases riff with short | ⟨size, content, begins⟩ | ⟨size, content, begins⟩ |
      ⟨name, size, content, notFmt, notData, begins⟩
    · rw [turn_none short] at turned
      cases turned
    · rw [turn_fmt begins] at turned
      obtain ⟨read, -, turned⟩ := ok_of_bind turned
      obtain ⟨next, -, turned⟩ := ok_of_bind turned
      cases turned
    · rw [turn_data begins] at turned
      cases fmt with
      | none => cases turned
      | some described =>
        cases turned
        exact ⟨rfl, size, content, begins, rfl⟩
    · rw [turn_other notFmt notData begins] at turned
      obtain ⟨next, -, turned⟩ := ok_of_bind turned
      cases turned
  · rintro ⟨rfl, size, content, begins, isData⟩
    rw [turn_data begins, ← isData]

theorem turn_runtimeError_iff : turn riff fmt = .error .runtimeError ↔ riff.Overreaches := by
  constructor
  · intro turned
    rcases header_cases riff with short | ⟨size, content, begins⟩ | ⟨size, content, begins⟩ |
      ⟨name, size, content, notFmt, notData, begins⟩
    · rw [turn_none short] at turned
      cases turned
    · rw [turn_fmt begins] at turned
      cases read : readFmtChunk ⟨content, size⟩ with
      | error fault =>
        rw [read] at turned
        cases turned
        exact absurd read (readFmtChunk_ne_runtimeError _)
      | ok described =>
        obtain ⟨described, chunk⟩ := described
        obtain ⟨describes, rfl⟩ := readFmtChunk_iff.mp read
        rw [read] at turned
        simp only [Except.bind, skip_described describes, skip_eq] at turned
        refine ⟨_, size, content, begins, by decide, fun _ => ⟨described, describes⟩, ?_⟩
        by_contra room
        rw [if_neg room] at turned
        cases turned
    · rw [turn_data begins] at turned
      cases fmt <;> cases turned
    · rw [turn_other notFmt notData begins, skip_eq] at turned
      refine ⟨name, size, content, begins, notData, fun isFmt => absurd isFmt notFmt, ?_⟩
      by_contra room
      rw [if_neg room] at turned
      cases turned
  · rintro ⟨name, size, content, begins, notData, isDescribed, short⟩
    by_cases isFmt : name = ascii "fmt "
    · subst isFmt
      obtain ⟨described, describes⟩ := isDescribed rfl
      rw [turn_fmt begins, readFmtChunk_iff.mpr ⟨describes, rfl⟩]
      simp only [Except.bind, skip_described describes, skip_eq, if_pos short]
    · rw [turn_other isFmt notData begins, skip_eq, if_pos short]
      rfl

theorem Skips.shorter (skips : Skips (riff, fmt) (after, later)) : after.file.length < riff.file.length := by
  have behind {name : Bytes} {size n : Nat} {content : Riff} (begins : riff.Begins name size content) :
      (content.advance n).file.length < riff.file.length := by
    rw [begins.cut, Riff.advance, List.length_append, List.length_append, length_le, List.length_drop]
    omega
  cases skips with
  | fmt begins _ _ => exact behind begins
  | other _ _ begins _ => exact behind begins

end

/-- The loop of `initfp`. -/
def scan (riff : Riff) (fmt : Option Fmt) : Except WaveFault WaveRead :=
  match _ : turn riff fmt with
  | .error fault => .error fault
  | .ok (.found wave) => .ok wave
  | .ok (.next after later) => scan after later
termination_by riff.file.length
decreasing_by exact (turn_next_iff.mp ‹turn riff fmt = _›).shorter

/-- What the loop ends with, a turn ends with at some chunk it gets to. -/
theorem scan_iff {riff : Riff} {fmt : Option Fmt} (outcome : Except WaveFault WaveRead) : scan riff fmt = outcome ↔
    ∃ place, Relation.ReflTransGen Skips (riff, fmt) place ∧ turn place.1 place.2 = outcome.map .found := by
  constructor
  · intro scanned
    fun_induction scan riff fmt with
    | case1 riff fmt fault turned =>
      subst scanned
      exact ⟨(riff, fmt), .refl, turned⟩
    | case2 riff fmt wave turned =>
      subst scanned
      exact ⟨(riff, fmt), .refl, turned⟩
    | case3 riff fmt after later turned ih =>
      obtain ⟨place, skips, ends⟩ := ih scanned
      exact ⟨place, .head (turn_next_iff.mp turned) skips, ends⟩
  · rintro ⟨place, skips, ends⟩
    have all (start : Riff × Option Fmt) (skips : Relation.ReflTransGen Skips start place) :
        scan start.1 start.2 = outcome := by
      induction skips using Relation.ReflTransGen.head_induction_on with
      | refl =>
        rw [scan]
        cases outcome with
        | error fault => rw [show turn place.1 place.2 = .error fault from ends]
        | ok wave => rw [show turn place.1 place.2 = .ok (.found wave) from ends]
      | head first _ ih =>
        rw [scan, turn_next_iff.mpr first]
        exact ih
    exact all (riff, fmt) skips

/-! ## A whole file -/

/-- `initfp` -/
def initfp (bytes : Bytes) : Except WaveFault WaveRead :=
  match header bytes with
  | none => .error .eofError
  | some (name, size, file) =>
    if name ≠ ascii "RIFF" then .error (.error (ascii "file does not start with RIFF id"))
    else
      let (form, riff) := Reader.read 4 (⟨file, size⟩ : Riff)
      if form ≠ ascii "WAVE" then .error (.error (ascii "not a WAVE file")) else scan riff none

/-- A RIFF file of waves, and the place where its chunks begin. -/
def Opens (bytes : Bytes) (start : Riff) : Prop :=
  ∃ size, 4 ≤ size ∧ size < 256 ^ 4 ∧ bytes = ascii "RIFF" ++ (le 4 size ++ (ascii "WAVE" ++ start.file)) ∧
    start.left = size - 4

/-- The samples begin in the chunk that is met after others, and this is the last format among these. -/
def Holds (bytes : Bytes) (wave : WaveRead) : Prop :=
  ∃ start place size content, Opens bytes start ∧ Relation.ReflTransGen Skips (start, none) (place, some wave.fmt) ∧
    place.Begins (ascii "data") size content ∧ wave.data = ⟨content, size⟩

/-- Before the samples there is a chunk that says it is longer than what is left of the file by its own size. -/
def Overreaches (bytes : Bytes) : Prop :=
  ∃ start place fmt, Opens bytes start ∧ Relation.ReflTransGen Skips (start, none) (place, fmt) ∧ place.Overreaches

theorem initfp_opens {bytes : Bytes} {start : Riff} (opens : Opens bytes start) : initfp bytes = scan start none := by
  obtain ⟨size, room, fits, rfl, left⟩ := opens
  have first : header (ascii "RIFF" ++ (le 4 size ++ (ascii "WAVE" ++ start.file))) =
      some (ascii "RIFF", size, ascii "WAVE" ++ start.file) := header_bytes_iff.mpr ⟨rfl, fits, rfl⟩
  have form : Reader.Reads (ascii "WAVE") (⟨ascii "WAVE" ++ start.file, size⟩ : Riff) start := by
    exact Limited.reads_iff.mpr ⟨room, Reader.reads_bytes_iff.mpr rfl, left⟩
  have four : (ascii "WAVE").length = 4 := rfl
  have taken := (Reader.read_whole_iff.mpr ⟨form, four⟩).1
  simp only [initfp, first, taken, ne_eq, not_true_eq_false, if_false]

/-- A file that is not opened as far as its chunks is refused by a name. -/
theorem initfp_refused {bytes : Bytes} (refused : ∀ start, ¬ Opens bytes start) :
    ∃ fault, initfp bytes = .error fault ∧ fault ≠ .runtimeError := by
  unfold initfp
  split
  · exact ⟨_, rfl, by simp⟩
  · next name size file found =>
    obtain ⟨named, fits, rfl⟩ := header_bytes_iff.mp found
    split
    · exact ⟨_, rfl, by simp⟩
    · next isRiff =>
      generalize took : Reader.read 4 (⟨file, size⟩ : Riff) = taken
      obtain ⟨form, start⟩ := taken
      dsimp only
      split
      · exact ⟨_, rfl, by simp⟩
      · next isWave =>
        rw [not_not] at isRiff isWave
        subst isRiff isWave
        obtain ⟨room, reads, left⟩ := Limited.reads_iff.mp (Reader.read_whole_iff.mp ⟨took, rfl⟩).1
        refine absurd ⟨size, room, fits, ?_, left⟩ (refused start)
        have cut : file = ascii "WAVE" ++ start.file := Reader.reads_bytes_iff.mp reads
        rw [cut]

theorem initfp_ok_iff {bytes : Bytes} {wave : WaveRead} : initfp bytes = .ok wave ↔ Holds bytes wave := by
  constructor
  · intro opened
    by_cases opens : ∃ start, Opens bytes start
    · obtain ⟨start, opens⟩ := opens
      rw [initfp_opens opens, scan_iff] at opened
      obtain ⟨⟨place, fmt⟩, skips, found⟩ := opened
      obtain ⟨rfl, size, content, begins, isData⟩ := turn_found_iff.mp found
      exact ⟨start, place, size, content, opens, skips, begins, isData⟩
    · obtain ⟨fault, refused, -⟩ := initfp_refused (not_exists.mp opens)
      cases refused.symm.trans opened
  · rintro ⟨start, place, size, content, opens, skips, begins, isData⟩
    rw [initfp_opens opens, scan_iff]
    exact ⟨_, skips, turn_found_iff.mpr ⟨rfl, size, content, begins, isData⟩⟩

theorem initfp_runtimeError_iff {bytes : Bytes} : initfp bytes = .error .runtimeError ↔ Overreaches bytes := by
  constructor
  · intro opened
    by_cases opens : ∃ start, Opens bytes start
    · obtain ⟨start, opens⟩ := opens
      rw [initfp_opens opens, scan_iff] at opened
      obtain ⟨⟨place, fmt⟩, skips, broken⟩ := opened
      exact ⟨start, place, fmt, opens, skips, turn_runtimeError_iff.mp broken⟩
    · obtain ⟨fault, refused, named⟩ := initfp_refused (not_exists.mp opens)
      cases refused.symm.trans opened
      exact absurd rfl named
  · rintro ⟨start, place, fmt, opens, skips, tooLong⟩
    rw [initfp_opens opens, scan_iff]
    exact ⟨_, skips, turn_runtimeError_iff.mpr tooLong⟩

/-! ## Files of one channel and samples of two bytes -/

/-- The samples in these bytes; an odd one at the end is none. -/
def samples : Bytes → List Int
  | low :: high :: bytes => (BitVec.ofNat 16 (leValue [low, high])).toInt :: samples bytes
  | [_] => []
  | [] => []

def encode (pcm : List (BitVec 16)) : Bytes := pcm.flatMap fun sample => le 2 sample.toNat

def pcm16 (rate : Nat) (data : Bytes) : Bytes :=
  ascii "RIFF" ++ (le 4 (36 + data.length) ++ (ascii "WAVE" ++ (ascii "fmt " ++ (le 4 16 ++
    (fmtFields 1 rate (rate * 2) 2 16 ++ (ascii "data" ++ (le 4 data.length ++ data)))))))

theorem samples_encode (pcm : List (BitVec 16)) : samples (encode pcm) = pcm.map BitVec.toInt := by
  induction pcm with
  | nil => rfl
  | cons sample pcm ih =>
    have read : leValue (le 2 sample.toNat) = sample.toNat := leValue_le sample.isLt
    show (BitVec.ofNat 16 (leValue (le 2 sample.toNat))).toInt :: samples (encode pcm) = _
    rw [read, BitVec.ofNat_toNat, BitVec.setWidth_eq, ih, List.map_cons]

theorem length_encode (pcm : List (BitVec 16)) : (encode pcm).length = 2 * pcm.length := by
  simp [encode, Nat.mul_comm]

theorem length_samples (bytes : Bytes) : (samples bytes).length = bytes.length / 2 := by
  fun_induction samples bytes with
  | case1 low high bytes ih =>
    simp only [List.length_cons, ih]
    omega
  | case2 last => simp
  | case3 => rfl

/-- Samples are read one after the other. -/
theorem samples_append {first : Bytes} (even : first.length % 2 = 0) (second : Bytes) :
    samples (first ++ second) = samples first ++ samples second := by
  fun_induction samples first with
  | case1 low high bytes ih =>
    rw [List.length_cons, List.length_cons] at even
    rw [List.cons_append, List.cons_append, samples, ih (by omega), List.cons_append]
  | case2 last => cases even
  | case3 => rfl

/-- The file is read as it was made. -/
theorem initfp_pcm16 {rate : Nat} {data : Bytes} (fitsRate : rate < 256 ^ 4) (fits : 36 + data.length < 256 ^ 4) :
    ∃ part, initfp (pcm16 rate data) = .ok ⟨⟨1, rate, 2⟩, part⟩ ∧ Reader.rest part = data := by
  let content : Riff := ⟨data, data.length⟩
  let fmtContent : Riff := ⟨fmtFields 1 rate (rate * 2) 2 16 ++ (ascii "data" ++ (le 4 data.length ++ data)),
    24 + data.length⟩
  let start : Riff := ⟨ascii "fmt " ++ (le 4 16 ++ fmtContent.file), 32 + data.length⟩
  have opens : Opens (pcm16 rate data) start :=
      ⟨36 + data.length, by omega, fits, rfl, by show 32 + data.length = _; omega⟩
  have beginsFmt : start.Begins (ascii "fmt ") 16 fmtContent :=
    ⟨rfl, by decide, by show 8 ≤ 32 + data.length; omega, rfl, by show 24 + data.length = 32 + data.length - 8; omega⟩
  have describes : fmtContent.Describes 16 ⟨1, rate, 2⟩ :=
    ⟨le_refl 16, by show 16 ≤ 24 + data.length; omega, Nat.one_ne_zero, two_ne_zero, rate * 2, 2, 16, _, rfl,
      by show 1 < 256 ^ 2; decide, fitsRate, by decide, rfl⟩
  have skips : Skips (start, none) (fmtContent.advance 16, some ⟨1, rate, 2⟩) :=
    .fmt beginsFmt describes (by show 16 ≤ 24 + data.length; omega)
  have beginsData : (fmtContent.advance 16).Begins (ascii "data") data.length content := by
    refine ⟨rfl, by omega, by show 8 ≤ 24 + data.length - 16; omega, ?_, ?_⟩
    · exact List.drop_left' (length_fmtFields 1 rate (rate * 2) 2 16)
    · show data.length = 24 + data.length - 16 - 8
      omega
  refine ⟨⟨content, data.length⟩, initfp_ok_iff.mpr ⟨start, _, data.length, content, opens, .single skips,
    beginsData, rfl⟩, ?_⟩
  show (data.take data.length).take data.length = data
  rw [List.take_length, List.take_length]

end EdgeFlow.Library.Wave
