import EdgeFlow.Library.Run
import EdgeFlow.Web.AudioWav
import EdgeFlow.Web.Resampling

/-! `useAudioRecorder.js`: the recordings of the two panels that share a recorder.

`toggleRecording` waits for the microphone or for the end of the audio context, and can be called again meanwhile. A
recording is known by its place in the order in which the microphone was granted. Samples are exact rationals, without
the rounding of a `Float32Array`, and the browser makes the audio context of every microphone that is granted.
-/

set_option autoImplicit false

namespace EdgeFlow.Web
open Library

namespace AudioRecorder

inductive Target where
  | asr
  | voice
  deriving DecidableEq

structure Recording where
  target : Target
  sampleRate : Nat
  chunks : List (List ℚ)
  /-- the processor is connected, and the tracks of the microphone run -/
  on : Bool
  deriving DecidableEq

inductive Label where
  | toggleRecording (target : Target)
  | granted (call sampleRate : Nat)
  | denied (call : Nat)
  | audioProcess (recording : Nat) (samples : List ℚ)
  | closed (call : Nat)
  deriving DecidableEq

end AudioRecorder

open AudioRecorder in
structure AudioRecorder where
  recordings : List Recording
  recording : Option Nat
  /-- the calls that wait for the microphone -/
  starting : List Target
  /-- the calls that wait for an audio context to close, each with its recording -/
  stopping : List Nat
  recordedFiles : Target → Option Bytes
  isRecording : Bool
  activeTarget : Option Target

namespace AudioRecorder

def initial : AudioRecorder := ⟨[], none, [], [], fun _ => none, false, none⟩

/-- `onaudioprocess` -/
def Recording.hear (samples : List ℚ) (recording : Recording) : Recording :=
  { recording with chunks := recording.chunks ++ [samples] }

/-- What a stop does to a recording. -/
def Recording.disconnect (recording : Recording) : Recording := { recording with on := false }

def mergeFloat32 (chunks : List (List ℚ)) : List ℚ := chunks.flatten

/-- What is no number is stored as zero. -/
def Recording.samples (recording : Recording) : List ℚ :=
  (resampleFloat32 (mergeFloat32 recording.chunks) recording.sampleRate 16000).map (·.getD 0)

def Recording.file (recording : Recording) : Option Bytes := encodeWav recording.samples 16000

section
variable (recorder : AudioRecorder)

/-- The recording that a place in the order is for. -/
def change (index : Nat) (changed : Recording → Recording) : AudioRecorder :=
  { recorder with recordings := recorder.recordings.modify index changed }

/-- `stopRecording` as far as the context; one that is closed does not close again. -/
def stopRecording (index : Nat) : AudioRecorder :=
  let disconnected := recorder.change index Recording.disconnect
  if (recorder.recordings[index]?.map (·.on)).getD false then
    { disconnected with stopping := recorder.stopping ++ [index] }
  else disconnected

def toggleRecording (target : Target) : AudioRecorder :=
  match recorder.recording with
  | some index => recorder.stopRecording index
  | none => { recorder with starting := recorder.starting ++ [target] }

/-- What follows `await startRecording(target)`. -/
def started (target : Target) (sampleRate : Nat) : AudioRecorder :=
  { recorder with
    recordings := recorder.recordings ++ [⟨target, sampleRate, [], true⟩]
    recording := some recorder.recordings.length
    isRecording := true
    activeTarget := some target }

/-- What follows `await stopRecording(recording)`; `recording.target` is that of the recording of now. -/
def stopped (file : Bytes) : AudioRecorder :=
  match recorder.recording >>= fun current => recorder.recordings[current]? with
  | none => recorder
  | some recording =>
    { recorder with
      recordedFiles := Function.update recorder.recordedFiles recording.target (some file)
      recording := none
      isRecording := false
      activeTarget := none }

def step : Label → Option AudioRecorder
  | .toggleRecording target => some (recorder.toggleRecording target)
  | .granted call sampleRate => do
    let target ← recorder.starting[call]?
    some ({ recorder with starting := recorder.starting.eraseIdx call }.started target sampleRate)
  | .denied call => do
    let _ ← recorder.starting[call]?
    some { recorder with starting := recorder.starting.eraseIdx call }
  | .audioProcess index samples => do
    let recording ← recorder.recordings[index]?
    guard recording.on
    some (recorder.change index (Recording.hear samples))
  | .closed call => do
    let index ← recorder.stopping[call]?
    let recording ← recorder.recordings[index]?
    let file ← recording.file
    some ({ recorder with stopping := recorder.stopping.eraseIdx call }.stopped file)

/-- No microphone runs but that of the recording of now, which the next toggle stops. -/
def Kept : Prop :=
  ∀ index recording, recorder.recordings[index]? = some recording → recording.on = true →
    recorder.recording = some index

/-- The recording of now is on. -/
def recordingOn : Bool :=
  ((recorder.recording >>= fun current => recorder.recordings[current]?).map (·.on)).getD false

/-- No recording is put in the place of one that is on, and no stop is taken for a stop of it. -/
def Undisturbed : Label → Prop
  | .granted _ _ | .closed _ => recorder.recordingOn = false
  | _ => True

/-- What each label does, and where it may come. -/
inductive Takes : Label → AudioRecorder → Prop where
  | toggleRecording (target : Target) : Takes (.toggleRecording target) (recorder.toggleRecording target)
  | granted {call : Nat} {target : Target} (sampleRate : Nat) (asked : recorder.starting[call]? = some target) :
    Takes (.granted call sampleRate)
      ({ recorder with starting := recorder.starting.eraseIdx call }.started target sampleRate)
  | denied {call : Nat} {target : Target} (asked : recorder.starting[call]? = some target) :
    Takes (.denied call) { recorder with starting := recorder.starting.eraseIdx call }
  | audioProcess {index : Nat} {recording : Recording} (samples : List ℚ)
    (found : recorder.recordings[index]? = some recording) (on : recording.on = true) :
    Takes (.audioProcess index samples) (recorder.change index (Recording.hear samples))
  | closed {call index : Nat} {recording : Recording} {file : Bytes} (waits : recorder.stopping[call]? = some index)
    (found : recorder.recordings[index]? = some recording) (its : recording.file = some file) :
    Takes (.closed call) ({ recorder with stopping := recorder.stopping.eraseIdx call }.stopped file)

end

/-! ## The microphone -/

section
variable {recorder after : AudioRecorder}

theorem step_cases {label : Label} (taken : recorder.step label = some after) : recorder.Takes label after := by
  cases label with
  | toggleRecording target =>
    cases taken
    exact .toggleRecording target
  | granted call sampleRate =>
    obtain ⟨target, asked, ⟨⟩⟩ := Option.bind_eq_some_iff.mp taken
    exact .granted sampleRate asked
  | denied call =>
    obtain ⟨target, asked, ⟨⟩⟩ := Option.bind_eq_some_iff.mp taken
    exact .denied asked
  | audioProcess index samples =>
    obtain ⟨recording, found, guarded⟩ := Option.bind_eq_some_iff.mp taken
    obtain ⟨⟨⟩, isOn, ⟨⟩⟩ := Option.bind_eq_some_iff.mp guarded
    exact .audioProcess samples found ((Option.guard_eq_some' ()).mp isOn)
  | closed call =>
    obtain ⟨index, waits, closing⟩ := Option.bind_eq_some_iff.mp taken
    obtain ⟨recording, found, stopping⟩ := Option.bind_eq_some_iff.mp closing
    obtain ⟨file, its, ⟨⟩⟩ := Option.bind_eq_some_iff.mp stopping
    exact .closed waits found its

/-- All microphones are off exactly where none is kept wrongly and that of now is off. -/
theorem allOff_iff :
    (∀ (index : Nat) (recording : Recording), recorder.recordings[index]? = some recording → recording.on = false) ↔
      recorder.Kept ∧ recorder.recordingOn = false := by
  constructor
  · intro off
    refine ⟨fun index recording found on => ?_, ?_⟩
    · rw [off index recording found] at on
      cases on
    · rw [recordingOn]
      cases here : recorder.recording >>= fun current => recorder.recordings[current]? with
      | none => rfl
      | some recording =>
        obtain ⟨index, -, found⟩ := Option.bind_eq_some_iff.mp here
        exact off index recording found
  · rintro ⟨kept, off⟩ index recording found
    by_contra on
    rw [Bool.not_eq_false] at on
    rw [recordingOn, kept index recording found on, Option.bind_eq_bind, Option.bind_some, found] at off
    exact absurd off (by simp [on])

theorem getElem?_change (index other : Nat) (changed : Recording → Recording) :
    (recorder.change index changed).recordings[other]? =
      recorder.recordings[other]?.map fun recording => if index = other then changed recording else recording :=
  List.getElem?_modify changed index recorder.recordings other

theorem kept_change {index : Nat} {changed : Recording → Recording}
    (same : ∀ recording, (changed recording).on = recording.on) :
    (recorder.change index changed).Kept ↔ recorder.Kept := by
  have alike (other : Nat) (recording : Recording) :
      (if index = other then changed recording else recording).on = recording.on := by
    split
    · exact same recording
    · rfl
  constructor
  · intro kept other recording found on
    exact kept other _ (by rw [getElem?_change, found]; rfl) ((alike other recording).trans on)
  · intro kept other recording found on
    rw [getElem?_change] at found
    obtain ⟨before, here, rfl⟩ := Option.map_eq_some_iff.mp found
    exact kept other before here ((alike other before).symm.trans on)

theorem stopRecording_fields (index : Nat) :
    (recorder.stopRecording index).recordings = (recorder.change index Recording.disconnect).recordings ∧
      (recorder.stopRecording index).recording = recorder.recording ∧
      (recorder.stopRecording index).recordedFiles = recorder.recordedFiles := by
  rw [stopRecording]
  split <;> exact ⟨rfl, rfl, rfl⟩

/-- A toggle while something is recorded stops that. -/
theorem kept_stopRecording {index : Nat} (current : recorder.recording = some index) :
    (recorder.stopRecording index).Kept ↔ recorder.Kept := by
  obtain ⟨lists, now, -⟩ := @stopRecording_fields recorder index
  constructor
  · intro kept other recording found on
    by_cases same : index = other
    · rw [current, same]
    · rw [← now]
      exact kept other recording (by rw [lists, getElem?_change, found, Option.map_some, if_neg same]) on
  · intro kept other recording found on
    rw [lists, getElem?_change] at found
    obtain ⟨before, here, rfl⟩ := Option.map_eq_some_iff.mp found
    split at on
    · cases on
    · rw [now]
      exact kept other before here on

theorem kept_started (target : Target) (sampleRate : Nat) :
    (recorder.started target sampleRate).Kept ↔ recorder.Kept ∧ recorder.recordingOn = false := by
  rw [← allOff_iff]
  constructor
  · intro kept index recording found
    by_contra on
    rw [Bool.not_eq_false] at on
    have inside : index < recorder.recordings.length := (List.getElem?_eq_some_iff.mp found).1
    have current := kept index recording (by rw [started, List.getElem?_append_left inside, found]) on
    exact absurd (Option.some.inj current) inside.ne'
  · intro off index recording found on
    by_cases inside : index < recorder.recordings.length
    · rw [started, List.getElem?_append_left inside] at found
      rw [off index recording found] at on
      cases on
    · have bound := (List.getElem?_eq_some_iff.mp found).1
      rw [started, List.length_append, List.length_singleton] at bound
      have last : index = recorder.recordings.length := by omega
      rw [started, last]

theorem kept_stopped (file : Bytes) : (recorder.stopped file).Kept ↔ recorder.Kept ∧ recorder.recordingOn = false := by
  rw [stopped]
  cases here : recorder.recording >>= fun current => recorder.recordings[current]? with
  | none =>
    have off : recorder.recordingOn = false := by rw [recordingOn, here]; rfl
    exact ⟨fun kept => ⟨kept, off⟩, And.left⟩
  | some recording =>
    rw [← allOff_iff]
    refine forall₂_congr fun index recording => forall_congr' fun found => ?_
    exact ⟨fun empty => Bool.eq_false_iff.mpr fun on => (nomatch empty on), fun off on => by rw [off] at on; cases on⟩

theorem kept_toggleRecording (target : Target) : (recorder.toggleRecording target).Kept ↔ recorder.Kept := by
  rw [toggleRecording]
  split
  · next index current => exact kept_stopRecording current
  · exact Iff.rfl

theorem kept_step {label : Label} (taken : recorder.step label = some after) :
    after.Kept ↔ recorder.Kept ∧ recorder.Undisturbed label := by
  cases step_cases taken with
  | toggleRecording target => exact (kept_toggleRecording target).trans (iff_of_eq (and_true _).symm)
  | granted sampleRate => exact kept_started _ sampleRate
  | denied => exact iff_of_eq (and_true _).symm
  | audioProcess =>
    refine Iff.trans ?_ (iff_of_eq (and_true _).symm)
    exact kept_change fun _ => rfl
  | closed => exact kept_stopped _

/-- A microphone is left running exactly where one is granted, or an earlier stop comes to its end, while what is
recorded now is on. -/
theorem kept_iff {labels : List Label} (run : follow step initial labels = some recorder) :
    recorder.Kept ↔ Throughout step Undisturbed initial labels := by
  have nothingYet : initial.Kept := fun index recording found => nomatch found
  have throughout := good_iff_throughout (fun _ => True) Kept (fun _ _ _ _ _ => trivial)
    (fun _ _ _ _ taken => kept_step taken) trivial run
  exact throughout.trans (and_iff_right nothingYet)

/-- The button is pressed twice before the microphone is granted. -/
def twiceLabels : List Label :=
  [.toggleRecording .asr, .toggleRecording .asr, .granted 0 48000, .granted 0 48000, .toggleRecording .asr]

theorem kept_iff_twice : ∃ recorder, follow step initial twiceLabels = some recorder ∧
    ¬ Throughout step Undisturbed initial twiceLabels := by
  have ran : (follow step initial twiceLabels).any (fun recorder => recorder.recording = some 1 ∧
      recorder.recordings[0]? = some ⟨.asr, 48000, [], true⟩) = true := by decide +kernel
  obtain ⟨recorder, run, fields⟩ := (Option.any_eq_true _ _).mp ran
  obtain ⟨now, first⟩ := of_decide_eq_true fields
  refine ⟨recorder, run, fun undisturbed => ?_⟩
  have kept := (kept_iff run).mpr undisturbed 0 _ first rfl
  rw [now] at kept
  cases kept

/-- What the panels show is what is recorded. -/
structure Shown (recorder : AudioRecorder) : Prop where
  isRecording : recorder.isRecording = recorder.recording.isSome
  activeTarget : recorder.activeTarget.isSome = recorder.recording.isSome

theorem Shown.step {label : Label} (shown : recorder.Shown) (taken : recorder.step label = some after) :
    after.Shown := by
  cases step_cases taken with
  | toggleRecording target =>
    rw [toggleRecording]
    split
    · rw [stopRecording]
      split <;> exact ⟨shown.isRecording, shown.activeTarget⟩
    · exact ⟨shown.isRecording, shown.activeTarget⟩
  | granted => exact ⟨rfl, rfl⟩
  | denied | audioProcess => exact ⟨shown.isRecording, shown.activeTarget⟩
  | closed =>
    rw [stopped]
    split
    · exact ⟨shown.isRecording, shown.activeTarget⟩
    · exact ⟨rfl, rfl⟩

theorem shown_of_run {labels : List Label} (run : follow AudioRecorder.step initial labels = some recorder) :
    recorder.Shown :=
  (Reaches.of_follow run).invariant Shown ⟨rfl, rfl⟩ fun _ _ _ shown _ taken => shown.step taken

/-! ## What is heard -/

/-- The pieces that the run brought to a recording. -/
def heardBy (labels : List Label) (index : Nat) : List (List ℚ) :=
  labels.filterMap fun label =>
    match label with
    | .audioProcess other samples => if other = index then some samples else none
    | _ => none

/-- The sample rates of the microphones, as they were granted. -/
def grantedRates (labels : List Label) : List Nat :=
  labels.filterMap fun label =>
    match label with
    | .granted _ sampleRate => some sampleRate
    | _ => none

/-- What a stop leaves as it is. -/
def Recording.contents (recording : Recording) : List (List ℚ) × Nat := (recording.chunks, recording.sampleRate)

/-- Every recording has what was brought to it, and nothing was brought to any other. -/
structure Heard (labels : List Label) (recorder : AudioRecorder) : Prop where
  contents : ∀ index, recorder.recordings[index]?.map Recording.contents =
    (grantedRates labels)[index]?.map fun sampleRate => (heardBy labels index, sampleRate)
  others : ∀ index, recorder.recordings[index]? = none → heardBy labels index = []

theorem Heard.length {labels : List Label} (heard : Heard labels recorder) :
    recorder.recordings.length = (grantedRates labels).length := by
  have ends (index : Nat) : recorder.recordings.length ≤ index ↔ (grantedRates labels).length ≤ index := by
    rw [← List.getElem?_eq_none_iff, ← List.getElem?_eq_none_iff, ← @Option.map_eq_none_iff _ _ _ Recording.contents,
      heard.contents, Option.map_eq_none_iff]
  exact le_antisymm ((ends _).mpr le_rfl) ((ends _).mp le_rfl)

theorem heardBy_snoc (labels : List Label) (label : Label) (index : Nat) :
    heardBy (labels ++ [label]) index = heardBy labels index ++ heardBy [label] index := List.filterMap_append

theorem grantedRates_snoc (labels : List Label) (label : Label) :
    grantedRates (labels ++ [label]) = grantedRates labels ++ grantedRates [label] := List.filterMap_append

theorem heardBy_audioProcess (index other : Nat) (samples : List ℚ) :
    heardBy [.audioProcess index samples] other = if index = other then [samples] else [] := by
  by_cases same : index = other
  · simp [heardBy, same]
  · simp [heardBy, same]

theorem map_contents_change (index other : Nat) {changed : Recording → Recording}
    (same : ∀ recording, (changed recording).contents = recording.contents) :
    (recorder.change index changed).recordings[other]?.map Recording.contents =
      recorder.recordings[other]?.map Recording.contents := by
  rw [getElem?_change, Option.map_map]
  refine congrArg (fun f => Option.map f _) (funext fun recording => ?_)
  show (if index = other then changed recording else recording).contents = _
  split
  · exact same recording
  · rfl

/-- A label that brings nothing leaves what was heard. -/
theorem Heard.of_same {labels : List Label} {label : Label} (heard : Heard labels recorder)
    (same : ∀ index : Nat, after.recordings[index]?.map Recording.contents =
      recorder.recordings[index]?.map Recording.contents)
    (brings : ∀ index, heardBy [label] index = []) (grants : grantedRates [label] = []) :
    Heard (labels ++ [label]) after where
  contents index := by
    rw [heardBy_snoc, brings, grantedRates_snoc, grants, List.append_nil, List.append_nil, same, heard.contents]
  others index outside := by
    have before := same index
    rw [outside, Option.map_none, eq_comm, Option.map_eq_none_iff] at before
    rw [heardBy_snoc, brings, List.append_nil, heard.others index before]

theorem Heard.step {labels : List Label} {label : Label} (heard : Heard labels recorder)
    (taken : recorder.step label = some after) : Heard (labels ++ [label]) after := by
  cases step_cases taken with
  | toggleRecording target =>
    refine heard.of_same (fun other => ?_) (fun _ => rfl) rfl
    rw [toggleRecording]
    split
    · next index _ =>
      rw [(stopRecording_fields index).1]
      exact map_contents_change index other fun _ => rfl
    · rfl
  | @granted call target sampleRate =>
    have grants : grantedRates [Label.granted call sampleRate] = [sampleRate] := rfl
    have brings (index : Nat) : heardBy [Label.granted call sampleRate] index = [] := rfl
    refine ⟨fun index => ?_, fun index outside => ?_⟩
    · rw [heardBy_snoc, brings, List.append_nil, grantedRates_snoc, grants, started, List.getElem?_append,
        List.getElem?_append, heard.length]
      split
      · exact heard.contents index
      · next outside =>
        have nothing := heard.others index (List.getElem?_eq_none (heard.length ▸ not_lt.mp outside))
        rw [nothing]
        cases index - (grantedRates labels).length <;> rfl
    · rw [started, List.getElem?_append] at outside
      split at outside
      · rw [heardBy_snoc, brings, heard.others index outside]
        rfl
      · next beyond =>
        rw [heardBy_snoc, brings, heard.others index (List.getElem?_eq_none (not_lt.mp beyond))]
        rfl
  | denied => exact heard.of_same (fun _ => rfl) (fun _ => rfl) rfl
  | @audioProcess index recording samples found on =>
    refine ⟨fun other => ?_, fun other outside => ?_⟩
    · have before := heard.contents other
      rw [heardBy_snoc, heardBy_audioProcess, grantedRates_snoc, getElem?_change]
      show _ = (grantedRates labels ++ [])[other]?.map _
      rw [List.append_nil]
      by_cases same : index = other
      · subst same
        rw [found, Option.map_some, eq_comm, Option.map_eq_some_iff] at before
        obtain ⟨sampleRate, granted, its⟩ := before
        obtain ⟨chunks, rate⟩ := Prod.mk.inj its
        rw [found, granted, Option.map_some, Option.map_some, Option.map_some, if_pos rfl, if_pos rfl, chunks, rate]
        rfl
      · simpa only [if_neg same, Option.map_id', List.append_nil] using before
    · rw [getElem?_change, Option.map_eq_none_iff] at outside
      have apart : index ≠ other := by
        rintro rfl
        cases found.symm.trans outside
      rw [heardBy_snoc, heardBy_audioProcess, if_neg apart, List.append_nil, heard.others other outside]
  | closed =>
    refine heard.of_same (fun other => ?_) (fun _ => rfl) rfl
    rw [stopped]
    split <;> rfl

theorem heard_of_run {labels : List Label} (run : follow AudioRecorder.step initial labels = some recorder) :
    Heard labels recorder :=
  follow_history Heard ⟨fun _ => rfl, fun _ _ => rfl⟩ (fun _ _ _ _ heard taken => heard.step taken) run

/-! ## The files -/

/-- Every file is that of one recording that is over, with all that it heard. -/
structure Filed (recorder : AudioRecorder) : Prop where
  stopping : ∀ index ∈ recorder.stopping, ∃ recording : Recording, recorder.recordings[index]? = some recording ∧
    recording.on = false
  files : ∀ target file, recorder.recordedFiles target = some file → ∃ (index : Nat) (recording : Recording),
    recorder.recordings[index]? = some recording ∧ recording.on = false ∧ recording.file = some file

theorem filed_initial : initial.Filed := ⟨nofun, nofun⟩

/-- What is over stays as it is. -/
theorem Filed.of_stays (filed : recorder.Filed)
    (stays : ∀ (index : Nat) (recording : Recording), recorder.recordings[index]? = some recording →
      recording.on = false → after.recordings[index]? = some recording)
    (stopping : after.stopping ⊆ recorder.stopping) (files : after.recordedFiles = recorder.recordedFiles) :
    after.Filed where
  stopping index mem := by
    obtain ⟨recording, found, off⟩ := filed.stopping index (stopping mem)
    exact ⟨recording, stays index recording found off, off⟩
  files target file stored := by
    obtain ⟨index, recording, found, off, its⟩ := filed.files target file (files ▸ stored)
    exact ⟨index, recording, stays index recording found off, off, its⟩

theorem getElem?_change_of_eq {index other : Nat} {changed : Recording → Recording} {recording : Recording}
    (found : recorder.recordings[other]? = some recording) (same : changed recording = recording) :
    (recorder.change index changed).recordings[other]? = some recording := by
  rw [getElem?_change, found, Option.map_some, same, ite_self]

theorem disconnect_of_off {recording : Recording} (off : recording.on = false) : recording.disconnect = recording := by
  cases recording
  cases off
  rfl

theorem Filed.stopRecording (filed : recorder.Filed) (index : Nat) : (recorder.stopRecording index).Filed := by
  have disconnected : (recorder.change index Recording.disconnect).Filed :=
    filed.of_stays (fun _ _ found off => getElem?_change_of_eq found (disconnect_of_off off)) (List.Subset.refl _) rfl
  rw [AudioRecorder.stopRecording]
  split
  · next on =>
    refine ⟨fun other mem => ?_, disconnected.files⟩
    obtain old | new := List.mem_append.mp mem
    · exact disconnected.stopping other old
    · rw [List.mem_singleton.mp new]
      cases here : recorder.recordings[index]? with
      | none =>
        rw [here] at on
        cases on
      | some recording =>
        refine ⟨recording.disconnect, ?_, rfl⟩
        show (recorder.change index Recording.disconnect).recordings[index]? = _
        rw [getElem?_change, here, Option.map_some, if_pos rfl]
  · exact disconnected

theorem Filed.toggleRecording (filed : recorder.Filed) (target : Target) : (recorder.toggleRecording target).Filed := by
  rw [AudioRecorder.toggleRecording]
  split
  · next index _ => exact filed.stopRecording index
  · exact ⟨filed.stopping, filed.files⟩

theorem Filed.started (filed : recorder.Filed) (target : Target) (sampleRate : Nat) :
    (recorder.started target sampleRate).Filed := by
  refine filed.of_stays (fun index recording found _ => ?_) (List.Subset.refl _) rfl
  exact (List.getElem?_append_left (List.getElem?_eq_some_iff.mp found).1).trans found

theorem Filed.stopped (filed : recorder.Filed) {index : Nat} {recording : Recording} {file : Bytes}
    (found : recorder.recordings[index]? = some recording) (off : recording.on = false)
    (its : recording.file = some file) : (recorder.stopped file).Filed := by
  rw [AudioRecorder.stopped]
  split
  · exact filed
  · next current _ =>
    refine ⟨filed.stopping, fun target stored same => ?_⟩
    replace same : Function.update recorder.recordedFiles current.target (some file) target = some stored := same
    by_cases here : target = current.target
    · rw [here, Function.update_self] at same
      cases same
      exact ⟨index, recording, found, off, its⟩
    · rw [Function.update_of_ne here] at same
      exact filed.files target stored same

theorem Filed.step {label : Label} (filed : recorder.Filed) (taken : recorder.step label = some after) :
    after.Filed := by
  cases step_cases taken with
  | toggleRecording target => exact filed.toggleRecording target
  | @granted call target sampleRate =>
    have granted : ({ recorder with starting := recorder.starting.eraseIdx call } : AudioRecorder).Filed :=
      ⟨filed.stopping, filed.files⟩
    exact granted.started target sampleRate
  | denied => exact ⟨filed.stopping, filed.files⟩
  | @audioProcess index recording samples heard on =>
    refine filed.of_stays (fun other ended found off => ?_) (List.Subset.refl _) rfl
    -- what is heard goes to a recording that is on
    have apart : index ≠ other := by
      rintro rfl
      rw [heard, Option.some.injEq] at found
      rw [found, off] at on
      cases on
    rw [getElem?_change, found, Option.map_some, if_neg apart]
  | @closed call index recording file waits found its =>
    obtain ⟨ended, same, off⟩ := filed.stopping index (List.mem_of_getElem? waits)
    rw [found, Option.some.injEq] at same
    subst same
    have rest : ({ recorder with stopping := recorder.stopping.eraseIdx call } : AudioRecorder).Filed :=
      ⟨fun other mem => filed.stopping other (List.eraseIdx_subset mem), filed.files⟩
    exact rest.stopped found off its

theorem filed_of_run {labels : List Label} (run : follow AudioRecorder.step initial labels = some recorder) :
    recorder.Filed :=
  (Reaches.of_follow run).invariant Filed filed_initial fun _ _ _ filed _ taken => filed.step taken

end

end AudioRecorder

end EdgeFlow.Web
