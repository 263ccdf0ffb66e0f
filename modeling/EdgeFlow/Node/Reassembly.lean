import Mathlib.Algebra.Order.BigOperators.Group.List
import Mathlib.Data.List.AList
import Mathlib.Data.List.Enum
import Mathlib.Data.List.Forall2
import EdgeFlow.Library.Except
import EdgeFlow.Node.Fragments

/-! `decode_stream`: the deltas of a stream, put together in the order of their indices. -/

set_option autoImplicit false

namespace EdgeFlow.Node
open Library Library.Byte Library.Printf

/-- The `std::unordered_map<int, std::string>`. -/
abbrev StreamBuff := AList fun _ : Int => Bytes

inductive StreamError where
  | stoi (error : StoiError)
  /-- thrown by `stream_buff.at` -/
  | at

/-- One turn of the loop over `stream_buff`; its counter is converted to `int`. -/
def appendNext (streamBuff : StreamBuff) (out : Bytes) (i : Nat) : Except StreamError Bytes :=
  match streamBuff.lookup ((i : Int).bmod (2 ^ 32)) with
  | some delta => .ok (out ++ delta)
  | none => .error .at

def appendAll (streamBuff : StreamBuff) (out : Bytes) : Except StreamError Bytes :=
  (List.range streamBuff.entries.length).foldlM (appendNext streamBuff) out

/-- Whether there is more to come, and `out` and `stream_buff` after the call. The caller throws both away on an
exception. -/
def decodeStream (input out : Bytes) (streamBuff : StreamBuff) : Except StreamError (Bool × Bytes × StreamBuff) := do
  let index ← (stoi (sampleJsonStrGet input (ascii "index"))).mapError .stoi
  let finish := sampleJsonStrGet input (ascii "finish")
  let streamBuff := streamBuff.insert index (sampleJsonStrGet input (ascii "delta"))
  if Search.find (ascii "f") finish = none then do
    let out ← appendAll streamBuff out
    .ok (false, out, ∅)
  else .ok (true, out, streamBuff)

/-- The calls for the fragments of a stream, each with the same `out`: what they return, and `stream_buff`
at the end. -/
def decodeEach (out : Bytes) : List Bytes → StreamBuff → Except StreamError (List (Bool × Bytes) × StreamBuff)
  | [], streamBuff => .ok ([], streamBuff)
  | input :: inputs, streamBuff => do
    let (more, out', streamBuff) ← decodeStream input out streamBuff
    let (later, streamBuff) ← decodeEach out inputs streamBuff
    .ok ((more, out') :: later, streamBuff)

/-- The parts of a stream with their indices, in some order, and each with its members in some order. -/
structure Sending (parts : List Part) where
  order : Nat → List Field
  earlier : List (Part × Nat)
  final : Part × Nat
  keys : ∀ i, (order i).Perm [.index, .delta, .finish]
  all : (earlier ++ [final]).Perm parts.zipIdx

namespace Sending

variable {parts : List Part} (sending : Sending parts)

def items : List (Part × Nat) := sending.earlier ++ [sending.final]

/-- The last one that is sent has the flag. -/
def fragment (item : Part × Nat) : Fragment := ⟨item.1, item.2, item.2 == sending.final.2⟩

def input (item : Part × Nat) : Bytes := (sending.fragment item).text (sending.order item.2)

/-- The earlier calls return true and leave `out` as it is, the last returns false with all the deltas in their
order and an empty buffer. -/
def Reassembles : Prop := ∀ out, decodeEach out (sending.items.map sending.input) ∅ =
  .ok (sending.earlier.map (fun _ => (true, out)) ++ [(false, out ++ parts.flatMap Part.text)], ∅)

/-- No delta is taken for the key of an index, or for that of a flag that is false. -/
structure Clear : Prop where
  index : ∀ item ∈ sending.items, item.1.InPlace (sending.order item.2) .index
  finish : ∀ item ∈ sending.earlier, item.1.InPlace (sending.order item.2) .finish

end Sending

/-! ## The buffer -/

/-- The buffer with what was read of some fragments. -/
def filled (streamBuff : StreamBuff) (sent : List (Nat × Bytes)) : StreamBuff :=
  sent.foldl (fun streamBuff item => streamBuff.insert (item.1 : Int) item.2) streamBuff

theorem lookup_filled_of_notMem {streamBuff : StreamBuff} {sent : List (Nat × Bytes)} {i : Nat}
    (absent : i ∉ sent.map Prod.fst) : (filled streamBuff sent).lookup (i : Int) = streamBuff.lookup (i : Int) := by
  induction sent generalizing streamBuff with
  | nil => rfl
  | cons item sent ih =>
    rw [List.map_cons, List.mem_cons, not_or] at absent
    have apart : (i : Int) ≠ item.1 := fun same => absent.1 (Int.ofNat.inj same)
    rw [filled, List.foldl_cons]
    exact (ih absent.2).trans (AList.lookup_insert_ne apart)

theorem lookup_filled {streamBuff : StreamBuff} {sent : List (Nat × Bytes)} (distinct : (sent.map Prod.fst).Nodup)
    {item : Nat × Bytes} (member : item ∈ sent) : (filled streamBuff sent).lookup (item.1 : Int) = some item.2 := by
  induction sent generalizing streamBuff with
  | nil => cases member
  | cons first sent ih =>
    rw [List.map_cons, List.nodup_cons] at distinct
    obtain rfl | later := List.mem_cons.mp member
    · exact (lookup_filled_of_notMem distinct.1).trans (AList.lookup_insert _)
    · exact ih distinct.2 later

theorem length_insert {streamBuff : StreamBuff} {key : Int} (absent : key ∉ streamBuff) (delta : Bytes) :
    (streamBuff.insert key delta).entries.length = streamBuff.entries.length + 1 := by
  rw [AList.entries_insert_of_notMem absent, List.length_cons]

theorem length_filled {streamBuff : StreamBuff} {sent : List (Nat × Bytes)} (distinct : (sent.map Prod.fst).Nodup)
    (fresh : ∀ item ∈ sent, (item.1 : Int) ∉ streamBuff) :
    (filled streamBuff sent).entries.length = streamBuff.entries.length + sent.length := by
  induction sent generalizing streamBuff with
  | nil => rfl
  | cons first sent ih =>
    rw [List.map_cons, List.nodup_cons] at distinct
    rw [List.forall_mem_cons] at fresh
    have later : ∀ item ∈ sent, (item.1 : Int) ∉ streamBuff.insert (first.1 : Int) first.2 := by
      intro item member inside
      rcases (AList.mem_insert streamBuff).mp inside with same | old
      · exact distinct.1 (Int.ofNat.inj same ▸ List.mem_map_of_mem member)
      · exact fresh.2 item member old
    rw [filled, List.foldl_cons]
    refine (ih distinct.2 later).trans ?_
    rw [length_insert fresh.1, List.length_cons]
    omega

/-- A buffer that has each of the first indices once. -/
theorem appendAll_of_lookup {streamBuff : StreamBuff} {deltas : List Bytes}
    (size : streamBuff.entries.length = deltas.length) (small : deltas.length ≤ 2 ^ 31)
    (has : ∀ i (inside : i < deltas.length), streamBuff.lookup (i : Int) = some deltas[i]) (out : Bytes) :
    appendAll streamBuff out = .ok (out ++ deltas.flatten) := by
  have firsts (k : Nat) (inside : k ≤ deltas.length) :
      (List.range k).foldlM (appendNext streamBuff) out = .ok (out ++ (deltas.take k).flatten) := by
    induction k with
    | zero => exact congrArg Except.ok (List.append_nil out).symm
    | succ k ih =>
      have counter : (k : Int).bmod (2 ^ 32) = k := Int.bmod_eq_of_le (by omega) (by omega)
      have next : appendNext streamBuff (out ++ (deltas.take k).flatten) k =
          .ok (out ++ (deltas.take k).flatten ++ deltas[k]) := by
        rw [appendNext, counter, has k inside]
      have grown : (deltas.take (k + 1)).flatten = (deltas.take k).flatten ++ deltas[k] := by
        rw [List.take_succ_eq_append_getElem inside, List.flatten_append, List.flatten_singleton]
      rw [List.range_succ, List.foldlM_append, ih (by omega), grown, ← List.append_assoc]
      show List.foldlM (appendNext streamBuff) (out ++ (deltas.take k).flatten) [k] = _
      rw [List.foldlM_cons, next]
      rfl
  rw [appendAll, size, firsts deltas.length le_rfl, List.take_length]

/-! ## The calls -/

/-- What `decode_stream` reads in a fragment. -/
structure Reads (input : Bytes) (index : Nat) (delta : Bytes) (finish : Bool) : Prop where
  index : stoi (sampleJsonStrGet input (ascii "index")) = .ok (index : Int)
  delta : sampleJsonStrGet input (ascii "delta") = delta
  finish : Search.find (ascii "f") (sampleJsonStrGet input (ascii "finish")) = none ↔ finish = true

section
variable {input : Bytes} {index : Nat} {delta : Bytes}

theorem decodeStream_more (reads : Reads input index delta false) (out : Bytes) (streamBuff : StreamBuff) :
    decodeStream input out streamBuff = .ok (true, out, streamBuff.insert (index : Int) delta) := by
  have goesOn : ¬ Search.find (ascii "f") (sampleJsonStrGet input (ascii "finish")) = none := fun ends =>
    Bool.false_ne_true (reads.finish.mp ends)
  simp only [decodeStream, reads.index, reads.delta, if_neg goesOn, Except.mapError, bind, Except.bind]

theorem decodeStream_last (reads : Reads input index delta true) (out : Bytes) (streamBuff : StreamBuff) :
    decodeStream input out streamBuff =
      (appendAll (streamBuff.insert (index : Int) delta) out).map fun out => (false, out, ∅) := by
  have ends := reads.finish.mpr rfl
  simp only [decodeStream, reads.index, reads.delta, if_pos ends, Except.mapError, bind, Except.bind, Except.map]

end

/-- A call that returns read an index, and returned true or false by the flag it read. -/
theorem decodeStream_ok {input out out' : Bytes} {streamBuff streamBuff' : StreamBuff} {more : Bool}
    (returned : decodeStream input out streamBuff = .ok (more, out', streamBuff')) :
    (∃ index, stoi (sampleJsonStrGet input (ascii "index")) = .ok index) ∧
      (Search.find (ascii "f") (sampleJsonStrGet input (ascii "finish")) = none ↔ more = false) := by
  obtain ⟨index, read, returned⟩ := ok_of_bind returned
  refine ⟨⟨index, ok_of_mapError read⟩, ?_⟩
  dsimp only at returned
  split at returned
  · next ends =>
    obtain ⟨appended, -, returned⟩ := ok_of_bind returned
    cases returned
    exact iff_of_true ends rfl
  · next goesOn =>
    cases returned
    exact iff_of_false goesOn (by decide)

theorem decodeEach_ok {out : Bytes} {inputs : List Bytes} {streamBuff streamBuff' : StreamBuff}
    {results : List (Bool × Bytes)} (returned : decodeEach out inputs streamBuff = .ok (results, streamBuff')) :
    List.Forall₂ (fun input result => (∃ index, stoi (sampleJsonStrGet input (ascii "index")) = .ok index) ∧
      (Search.find (ascii "f") (sampleJsonStrGet input (ascii "finish")) = none ↔
        result.1 = false)) inputs results := by
  induction inputs generalizing streamBuff results with
  | nil =>
    cases returned
    exact .nil
  | cons input inputs ih =>
    obtain ⟨⟨more, out', after⟩, first, returned⟩ := ok_of_bind returned
    obtain ⟨⟨later, final⟩, rest, returned⟩ := ok_of_bind returned
    cases returned
    exact .cons (decodeStream_ok first) (ih rest)

theorem decodeEach_append {out : Bytes} {first second : List Bytes} {streamBuff after : StreamBuff}
    {results : List (Bool × Bytes)} (returned : decodeEach out first streamBuff = .ok (results, after)) :
    decodeEach out (first ++ second) streamBuff =
      (decodeEach out second after).map fun later => (results ++ later.1, later.2) := by
  induction first generalizing streamBuff results with
  | nil =>
    cases returned
    rw [List.nil_append]
    cases decodeEach out second after <;> rfl
  | cons input first ih =>
    obtain ⟨⟨more, out', middle⟩, call, returned⟩ := ok_of_bind returned
    obtain ⟨⟨later, final⟩, rest, returned⟩ := ok_of_bind returned
    cases returned
    simp only [List.cons_append, decodeEach, call, ih rest, bind, Except.bind]
    cases decodeEach out second after <;> rfl

/-- The calls before the last fill the buffer. -/
theorem decodeEach_more {sent : List (Part × Nat)} {input : Part × Nat → Bytes} {reading : Part × Nat → Bytes}
    (reads : ∀ item ∈ sent, Reads (input item) item.2 (reading item) false) (out : Bytes) (streamBuff : StreamBuff) :
    decodeEach out (sent.map input) streamBuff =
      .ok (sent.map fun _ => (true, out), filled streamBuff (sent.map fun item => (item.2, reading item))) := by
  induction sent generalizing streamBuff with
  | nil => rfl
  | cons item sent ih =>
    rw [List.forall_mem_cons] at reads
    rw [List.map_cons, decodeEach, decodeStream_more reads.1]
    simp only [ih reads.2, bind, Except.bind]
    rfl

namespace Sending

variable {parts : List Part} (sending : Sending parts)

theorem distinct : (sending.items.map Prod.snd).Nodup :=
  (sending.all.map Prod.snd).nodup_iff.mpr (List.nodup_zipIdx_map_snd parts)

theorem mem_items_iff {item : Part × Nat} : item ∈ sending.items ↔ item ∈ parts.zipIdx := sending.all.mem_iff

theorem final_mem : sending.final ∈ sending.items := List.mem_append_right _ (List.mem_singleton_self _)

theorem earlier_mem {item : Part × Nat} (member : item ∈ sending.earlier) : item ∈ sending.items :=
  List.mem_append_left _ member

theorem part_mem {item : Part × Nat} (member : item ∈ sending.items) : item.1 ∈ parts :=
  List.fst_mem_of_mem_zipIdx (sending.mem_items_iff.mp member)

theorem field_mem (field : Field) (i : Nat) : field ∈ sending.order i := by
  rw [(sending.keys i).mem_iff]
  cases field <;> decide

theorem fragment_final : (sending.fragment sending.final).finish = true := beq_self_eq_true _

theorem fragment_earlier {item : Part × Nat} (member : item ∈ sending.earlier) :
    (sending.fragment item).finish = false := by
  have distinct := sending.distinct
  rw [items, List.map_append, List.nodup_append] at distinct
  exact beq_false_of_ne (distinct.2.2 item.2 (List.mem_map_of_mem member) sending.final.2 (List.mem_singleton_self _))

/-- Whatever is read for the deltas is put together in the order of the indices. -/
theorem decodeEach_inputs {reading : Part × Nat → Bytes} (small : parts.length ≤ 2 ^ 31)
    (reads : ∀ item ∈ sending.items, Reads (sending.input item) item.2 (reading item) (sending.fragment item).finish)
    (out : Bytes) : decodeEach out (sending.items.map sending.input) ∅ =
      .ok (sending.earlier.map (fun _ => (true, out)) ++ [(false, out ++ parts.zipIdx.flatMap reading)], ∅) := by
  have more : ∀ item ∈ sending.earlier, Reads (sending.input item) item.2 (reading item) false := by
    intro item member
    have read := reads item (sending.earlier_mem member)
    rwa [sending.fragment_earlier member] at read
  have last := reads sending.final sending.final_mem
  rw [sending.fragment_final] at last
  let sent := sending.items.map fun item => (item.2, reading item)
  have distinct : (sent.map Prod.fst).Nodup := by
    rw [List.map_map]
    exact sending.distinct
  have size : (filled ∅ sent).entries.length = (parts.zipIdx.map reading).length := by
    rw [length_filled distinct fun item _ => AList.notMem_empty _, AList.empty_entries, List.length_nil, Nat.zero_add,
      List.length_map, List.length_map]
    exact sending.all.length_eq
  -- whatever the order of the calls, the reading of part `i` is found under the key `i`
  have has (i : Nat) (inside : i < (parts.zipIdx.map reading).length) :
      (filled ∅ sent).lookup (i : Int) = some (parts.zipIdx.map reading)[i] := by
    have inParts : i < parts.zipIdx.length := by rwa [List.length_map] at inside
    have place : parts.zipIdx[i].2 = i := by rw [List.getElem_zipIdx, Nat.zero_add]
    have member : (parts.zipIdx[i].2, reading parts.zipIdx[i]) ∈ sent :=
      List.mem_map_of_mem (sending.mem_items_iff.mpr (List.getElem_mem inParts))
    have found := @lookup_filled ∅ sent distinct _ member
    rwa [place, ← List.getElem_map reading] at found
  have appended := appendAll_of_lookup size (by simpa using small) has out
  have buffer : (filled ∅ (sending.earlier.map fun item => (item.2, reading item))).insert (sending.final.2 : Int)
      (reading sending.final) = filled ∅ sent := by
    simp only [sent, items, filled, List.map_append, List.foldl_append, List.map_cons, List.map_nil, List.foldl_cons,
      List.foldl_nil]
  have call : decodeEach out [sending.input sending.final]
      (filled ∅ (sending.earlier.map fun item => (item.2, reading item))) =
      .ok ([(false, out ++ parts.zipIdx.flatMap reading)], ∅) := by
    rw [decodeEach, decodeStream_last last, buffer, appended, ← List.flatMap_def]
    rfl
  rw [items, List.map_append, decodeEach_append (decodeEach_more more out ∅), List.map_singleton, call]
  rfl

/-- What the calls read when they return what they should. -/
theorem Reassembles.calls {sending : Sending parts} (reassembles : sending.Reassembles) :
    ∀ item ∈ sending.items, (∃ index, stoi (sampleJsonStrGet (sending.input item) (ascii "index")) = .ok index) ∧
      (Search.find (ascii "f") (sampleJsonStrGet (sending.input item) (ascii "finish")) = none ↔
        (sending.fragment item).finish = true) := by
  have calls := decodeEach_ok (reassembles [])
  have results : sending.earlier.map (fun _ => (true, ([] : Bytes))) ++ [(false, [] ++ parts.flatMap Part.text)] =
      sending.items.map fun item => (!(sending.fragment item).finish,
        if (sending.fragment item).finish then [] ++ parts.flatMap Part.text else []) := by
    rw [items, List.map_append, List.map_singleton, sending.fragment_final]
    refine congrArg (· ++ _) (List.map_congr_left fun item member => ?_)
    rw [sending.fragment_earlier member]
    rfl
  rw [results, List.forall₂_map_left_iff, List.forall₂_map_right_iff, List.forall₂_same] at calls
  intro item member
  obtain ⟨index, finish⟩ := calls item member
  exact ⟨index, finish.trans (by simp)⟩

theorem small_of_items (small : ∀ item ∈ sending.items, item.2 < 2 ^ 31) : parts.length ≤ 2 ^ 31 := by
  by_contra large
  have inside : 2 ^ 31 < parts.zipIdx.length := by
    rw [List.length_zipIdx]
    omega
  have within := small parts.zipIdx[2 ^ 31] (sending.mem_items_iff.mpr (List.getElem_mem inside))
  rw [List.getElem_zipIdx] at within
  omega

theorem item_lt {item : Part × Nat} (member : item ∈ sending.items) : item.2 < parts.length := by
  have inRange := List.snd_lt_of_mem_zipIdx (sending.mem_items_iff.mp member)
  omega

theorem isInt32_natCast {n : Nat} : IsInt32 (n : Int) ↔ n < 2 ^ 31 := by
  unfold IsInt32
  omega

/-! ## Streams without escapes -/

/-- Where no delta is written with an escape, a stream is put together exactly when its indices are values of `int` and
no delta is taken for a key. -/
theorem reassembles_iff_clear (plain : ∀ part ∈ parts, part.Plain) :
    sending.Reassembles ↔ parts.length ≤ 2 ^ 31 ∧ sending.Clear := by
  have index (item : Part × Nat) (member : item ∈ sending.items) :=
    @Fragment.stoi_get_index_iff (sending.fragment item) _ (plain _ (sending.part_mem member)).1
      (sending.field_mem .index item.2)
  have finish (item : Part × Nat) (member : item ∈ sending.items) :=
    @Fragment.find_get_finish_iff (sending.fragment item) _ (plain _ (sending.part_mem member)).1
      (sending.field_mem .finish item.2)
  constructor
  · intro reassembles
    have calls := reassembles.calls
    refine ⟨sending.small_of_items fun item member => ?_, fun item member => ?_, fun item member => ?_⟩
    · obtain ⟨read, isRead⟩ := (calls item member).1
      exact isInt32_natCast.mp ((index item member read).mp isRead).2.1
    · obtain ⟨read, isRead⟩ := (calls item member).1
      exact ((index item member read).mp isRead).1
    · -- a call that reads the end too early would answer before the last one
      by_contra taken
      have inItems := sending.earlier_mem member
      have ends := (calls item inItems).2.mp ((finish item inItems).mpr (.inr taken))
      rw [sending.fragment_earlier member] at ends
      cases ends
  · rintro ⟨small, clear⟩ out
    have reads : ∀ item ∈ sending.items,
        Reads (sending.input item) item.2 item.1.text (sending.fragment item).finish := by
      intro item member
      have within := lt_of_lt_of_le (sending.item_lt member) small
      refine ⟨(index item member _).mpr ⟨clear.index item member, isInt32_natCast.mpr within, rfl⟩,
        Fragment.get_delta (plain _ (sending.part_mem member)) (sending.field_mem .delta item.2),
        (finish item member).trans (or_iff_left_of_imp fun taken => ?_)⟩
      obtain earlier | last := List.mem_append.mp member
      · exact absurd (clear.finish item earlier) taken
      · rw [List.mem_singleton.mp last]
        exact sending.fragment_final
    have texts : parts.zipIdx.flatMap (fun item => item.1.text) = parts.flatMap Part.text := by
      conv_rhs => rw [← List.zipIdx_map_fst 0 parts, List.flatMap_map]
    rw [sending.decodeEach_inputs small reads, texts]

/-! ## Streams with the deltas first -/

/-- Parts that make up the same text in two ways, none longer in the first, are as long in both. -/
theorem length_le_of_flatMap {α : Type} {items : List α} {first second : α → Bytes}
    (same : (items.flatMap first).length = (items.flatMap second).length)
    (le : ∀ item ∈ items, (first item).length ≤ (second item).length) :
    ∀ item ∈ items, (second item).length ≤ (first item).length := by
  have shorter (items : List α) (le : ∀ item ∈ items, (first item).length ≤ (second item).length) :
      (items.flatMap first).length ≤ (items.flatMap second).length := by
    rw [List.length_flatMap, List.length_flatMap]
    exact List.sum_le_sum le
  induction items with
  | nil => exact List.forall_mem_nil _
  | cons item items ih =>
    rw [List.forall_mem_cons] at le
    have rest := shorter items le.2
    rw [List.flatMap_cons, List.flatMap_cons, List.length_append, List.length_append] at same
    rw [List.forall_mem_cons]
    exact ⟨by omega, ih (by omega) le.2⟩

theorem plain_of_reassembles (first : ∀ i, sending.order i = [.delta, .index, .finish])
    (reassembles : sending.Reassembles) : ∀ part ∈ parts, part.Plain := by
  have calls := reassembles.calls
  have input (item : Part × Nat) :
      sending.input item = (sending.fragment item).text [.delta, .index, .finish] := by rw [Sending.input, first]
  have index : ∀ item ∈ sending.items, item.2 < 2 ^ 31 ∧
      stoi (sampleJsonStrGet (sending.input item) (ascii "index")) = .ok (item.2 : Int) := by
    intro item member
    obtain ⟨read, isRead⟩ := (calls item member).1
    rw [input] at isRead ⊢
    rcases @Fragment.get_second_index (sending.fragment item) [.finish] with none | found
    · rw [show ascii "index" = Field.index.name from rfl, none] at isRead
      cases isRead
    · rw [show ascii "index" = Field.index.name from rfl, found, Fragment.stoi_seen_index] at isRead ⊢
      split at isRead
      · next fits => exact ⟨isInt32_natCast.mp fits, if_pos fits⟩
      · cases isRead
  let reading (item : Part × Nat) : Bytes := sampleJsonStrGet (sending.input item) Field.delta.name
  have reads : ∀ item ∈ sending.items, Reads (sending.input item) item.2 (reading item)
      (sending.fragment item).finish :=
    fun item member => ⟨(index item member).2, rfl, (calls item member).2⟩
  have small := sending.small_of_items fun item member => (index item member).1
  -- the texts and what was read make up the same
  have both := (sending.decodeEach_inputs small reads []).symm.trans (reassembles [])
  have same : parts.zipIdx.flatMap reading = parts.flatMap Part.text := by
    have results := (Prod.mk.inj (Except.ok.inj both)).1
    have last := List.append_cancel_left results
    exact (Prod.mk.inj (List.cons.inj last).1).2
  have texts : parts.zipIdx.flatMap (fun item => item.1.text) = parts.flatMap Part.text := by
    conv_rhs => rw [← List.zipIdx_map_fst 0 parts, List.flatMap_map]
  have lengths (item : Part × Nat) : item.1.text.length ≤ (reading item).length ∧
      ((reading item).length ≤ item.1.text.length → item.1.Plain) := by
    have longer := @Fragment.get_first_delta_length (sending.fragment item) .index [.finish]
    rwa [← input] at longer
  have noLonger := length_le_of_flatMap (congrArg List.length (texts.trans same.symm)) fun item _ => (lengths item).1
  intro part member
  obtain ⟨i, inside, rfl⟩ := List.mem_iff_getElem.mp member
  have inItems : (parts[i], i) ∈ parts.zipIdx := List.mk_mem_zipIdx_iff_getElem?.mpr (List.getElem?_eq_getElem inside)
  exact (lengths (parts[i], i)).2 (noLonger _ inItems)

/-- The stream sent in this order, with the delta first in each fragment. -/
def deltaFirst (earlier : List (Part × Nat)) (final : Part × Nat) (all : (earlier ++ [final]).Perm parts.zipIdx) :
    Sending parts where
  order _ := [.delta, .index, .finish]
  earlier := earlier
  final := final
  keys _ := by decide
  all := all

/-- A part may be sent as any but the last, if there are others. -/
theorem exists_earlier {item : Part × Nat} (member : item ∈ parts.zipIdx) (others : parts.length ≠ 1) :
    ∃ earlier final, (earlier ++ [final]).Perm parts.zipIdx ∧ item ∈ earlier := by
  obtain ⟨before, behind, cut⟩ := List.append_of_mem member
  have more : before ++ behind ≠ [] := by
    intro none
    have size := congrArg List.length cut
    rw [List.append_eq_nil_iff] at none
    rw [List.length_zipIdx, none.1, none.2] at size
    exact others size
  refine ⟨item :: (before ++ behind).dropLast, (before ++ behind).getLast more, ?_, List.mem_cons_self⟩
  rw [cut, List.cons_append, List.dropLast_append_getLast]
  exact List.perm_middle.symm

/-- Without escapes, a stream is put together exactly when it is clear. Any order will do exactly when there are no
escapes, no index is beyond an `int`, and no delta is a key that is searched for. -/
theorem reassembles_iff (parts : List Part) :
    (∀ sending : Sending parts, (∀ part ∈ parts, part.Plain) →
      (sending.Reassembles ↔ parts.length ≤ 2 ^ 31 ∧ sending.Clear)) ∧
    ((∀ sending : Sending parts, sending.Reassembles) ↔ parts.length ≤ 2 ^ 31 ∧ ∀ part ∈ parts, part.Plain ∧
      part.text ≠ ascii "index" ∧ (parts.length = 1 ∨ part.text ≠ ascii "finish")) := by
  refine ⟨fun sending plain => sending.reassembles_iff_clear plain, fun all => ?_, fun conditions sending => ?_⟩
  · by_cases none : parts = []
    · subst none
      exact ⟨Nat.zero_le _, List.forall_mem_nil _⟩
    · have nonempty : parts.zipIdx ≠ [] := by rwa [ne_eq, List.zipIdx_eq_nil_iff]
      let sending := deltaFirst _ _ (List.Perm.of_eq (List.dropLast_append_getLast nonempty))
      have plain := sending.plain_of_reassembles (fun _ => rfl) (all sending)
      obtain ⟨small, clear⟩ := (sending.reassembles_iff_clear plain).mp (all sending)
      refine ⟨small, fun part member => ?_⟩
      obtain ⟨i, inside, rfl⟩ := List.mem_iff_getElem.mp member
      have inItems : (parts[i], i) ∈ parts.zipIdx :=
          List.mk_mem_zipIdx_iff_getElem?.mpr (List.getElem?_eq_getElem inside)
      refine ⟨plain _ member, fun same => ?_, or_iff_not_imp_left.mpr fun others same => ?_⟩
      · -- the delta stands before the key it is taken for
        have inPlace := clear.index (parts[i], i) (sending.mem_items_iff.mpr inItems) same
        have notInPlace : ¬ [Field.delta, .index, .finish].idxOf .index < [Field.delta, .index, .finish].idxOf .delta := by
          decide
        exact notInPlace inPlace
      · obtain ⟨earlier, final, sent, isEarlier⟩ := exists_earlier inItems others
        have clear := ((deltaFirst earlier final sent).reassembles_iff_clear plain).mp (all _)
        have inPlace := clear.2.finish (parts[i], i) isEarlier same
        have notInPlace : ¬ [Field.delta, .index, .finish].idxOf .finish < [Field.delta, .index, .finish].idxOf .delta := by
          decide
        exact notInPlace inPlace
  · obtain ⟨small, each⟩ := conditions
    refine (sending.reassembles_iff_clear fun part member => (each part member).1).mpr
      ⟨small, fun item member same => ?_, fun item member same => ?_⟩
    · exact absurd same (each _ (sending.part_mem member)).2.1
    · rcases (each _ (sending.part_mem (sending.earlier_mem member))).2.2 with one | other
      · -- the only part is the last
        have size := sending.all.length_eq
        rw [List.length_append, List.length_singleton, List.length_zipIdx, one] at size
        have noEarlier : sending.earlier = [] := List.eq_nil_of_length_eq_zero (by omega)
        rw [noEarlier] at member
        cases member
      · exact absurd same other

/-- A part that is sent without blanks. -/
def compact (text : Bytes) (spelled : Json.unescape text = some text) : Part where
  text := text
  raw := text
  spelled := spelled
  gaps _ := ⟨[], [], [], [], List.forall_mem_nil _⟩

/-- Two parts, the second of which is sent first. -/
theorem reassembles_hello : ∃ (parts : List Part) (sending : Sending parts), parts.length = 2 ∧ sending.final.2 = 0 ∧
    sending.Reassembles := by
  let hel := compact (ascii "hel") (by decide +kernel)
  let lo := compact (ascii "lo") (by decide +kernel)
  let sending : Sending [hel, lo] := deltaFirst [(lo, 1)] (hel, 0) (List.Perm.swap _ _ _)
  have plain : ∀ part ∈ [hel, lo], part.Plain := by
    rw [List.forall_mem_cons, List.forall_mem_singleton]
    exact ⟨⟨by decide +kernel, List.forall_mem_nil _⟩, ⟨by decide +kernel, List.forall_mem_nil _⟩⟩
  refine ⟨_, sending, rfl, rfl,
    ((reassembles_iff [hel, lo]).1 sending plain).mpr ⟨by decide, fun item member same => ?_,
    fun item member same => ?_⟩⟩
  · have others : ∀ item ∈ sending.items, item.1.text ≠ Field.index.name := by
      simp only [sending, deltaFirst, items, List.singleton_append, List.forall_mem_cons]
      exact ⟨by decide +kernel, by decide +kernel, List.forall_mem_nil _⟩
    exact absurd same (others item member)
  · rw [List.mem_singleton.mp member] at same
    exact absurd same (by decide +kernel)

/-- `{"delta":"index","finish":true,"index":0}` -/
theorem throws_index : ¬ ∀ (parts : List Part) (sending : Sending parts), sending.Reassembles := by
  intro all
  let part := compact (ascii "index") (by decide +kernel)
  let sending : Sending [part] :=
    { order := fun _ => [.delta, .finish, .index], earlier := [], final := (part, 0), keys := fun _ => by decide,
      all := List.Perm.refl _ }
  obtain ⟨⟨read, isRead⟩, -⟩ := (all [part] sending).calls (part, 0) List.mem_cons_self
  have nothing : sampleJsonStrGet (sending.input (part, 0)) (ascii "index") = [] := by decide +kernel
  rw [nothing] at isRead
  cases isRead

end Sending

end EdgeFlow.Node
