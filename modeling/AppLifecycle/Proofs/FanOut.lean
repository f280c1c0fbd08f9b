import AppLifecycle.Audio.FanOut
import AppLifecycle.Proofs.History
import AppLifecycle.Rehearsal.Audio

/-! What is done to all audio outputs together reaches every one of them. The outputs are visited
in the order of registration, each in the state in which the visit before has left audio. What
a visit comes to depends on that output and that state alone, so a failure of one output neither
stops nor delays the others. -/
namespace AppLifecycle

open Traced Trace

variable {α β ν : Type}

namespace Trace

/-- The entries other than notices, oldest first. -/
def besidesNotices (trace : List Entry) : List Entry := trace.filter fun entry => !entry.isNotice

@[simp] theorem besidesNotices_nil : besidesNotices [] = [] := rfl

@[simp] theorem besidesNotices_append (before after : List Entry) :
    besidesNotices (before ++ after) = besidesNotices before ++ besidesNotices after :=
  List.filter_append ..

@[simp] theorem besidesNotices_notice (told : Notice) (rest : List Entry) :
    besidesNotices (.notice told :: rest) = besidesNotices rest := rfl

@[simp] theorem besidesNotices_audio (position : Nat) (call : Audio.Call) (rest : List Entry) :
    besidesNotices (.audio position call :: rest) = .audio position call :: besidesNotices rest :=
  rfl

end Trace

namespace Audio

/-- Outputs that are visited one after the other, each once, and what comes of each visit. -/
inductive Tour (visits : Output α → α → ν → α → Prop) :
    List (Output α) → α → List ν → α → Prop where
  | done (audio : α) : Tour visits [] audio [] audio
  | onward {output : Output α} {rest : List (Output α)} {audio between after : α} {visit : ν}
      {others : List ν} (first : visits output audio visit between)
      (later : Tour visits rest between others after) :
      Tour visits (output :: rest) audio (visit :: others) after

/-- The calls of visits to the outputs from a position on, in that order. -/
def inTurn (calls : ν → List Call) : Nat → List ν → List Entry
  | _, [] => []
  | position, visit :: others =>
    (calls visit).map (.audio position) ++ inTurn calls (position + 1) others

/-- What comes of asking an output whether its playback stalled. -/
inductive Checkup where
  | sound
  /-- It did, and the output was cycled, whatever it answered. -/
  | stalled (paused resumed : Except Error Unit)

namespace Checkup

def isStalled : Checkup → Bool
  | sound => false
  | stalled _ _ => true

/-- The calls that are made: the question, and the two orders right behind it. -/
def calls : Checkup → List Call
  | sound => [.detectStall false]
  | stalled paused resumed =>
    [.detectStall true, .pause .recovery paused, .resume .recovery resumed]

end Checkup

/-- How an output takes part in a checkup, each call in the state that the one before has left. -/
inductive Checked (output : Output α) : α → Checkup → α → Prop where
  | sound {audio after : α} (asked : output.detectStall audio = (false, after)) :
      Checked output audio .sound after
  | stalled {audio found quiet after : α} {paused resumed : Except Error Unit}
      (asked : output.detectStall audio = (true, found))
      (pauses : output.pause found = (paused, quiet))
      (resumes : output.resume quiet = (resumed, after)) :
      Checked output audio (.stalled paused resumed) after

/-- Every output is visited once. -/
theorem Tour.length {visits : Output α → α → ν → α → Prop} {outputs : List (Output α)}
    {audio after : α} {seen : List ν} (tour : Tour visits outputs audio seen after) :
    seen.length = outputs.length := by
  induction tour with
  | done audio => rfl
  | onward first later ih => simp [ih]

/-- Apart from notices, an action on every output in turn does what it does on each. -/
theorem tour_eachFrom {action : Nat → Output α → Traced α β}
    (visits : Output α → α → ν → α → Prop) (calls : ν → List Call) (report : ν → β)
    (own : ∀ position output audio, ∃ visit,
      visits output audio visit ((action position output).run audio).state ∧
      besidesNotices ((action position output).run audio).trace =
        (calls visit).map (.audio position) ∧
      ((action position output).run audio).value = report visit)
    (position : Nat) (outputs : List (Output α)) (audio : α) :
    ∃ seen, Tour visits outputs audio seen ((eachFrom action position outputs).run audio).state ∧
      besidesNotices ((eachFrom action position outputs).run audio).trace =
        inTurn calls position seen ∧
      ((eachFrom action position outputs).run audio).value = seen.map report := by
  induction outputs generalizing position audio with
  | nil => exact ⟨[], .done audio, rfl, rfl⟩
  | cons output rest ih =>
    obtain ⟨visit, visited, called, reported⟩ := own position output audio
    obtain ⟨others, later, calledOthers, reportedOthers⟩ :=
      ih (position + 1) ((action position output).run audio).state
    refine ⟨visit :: others, .onward visited later, ?_, ?_⟩
    · simp [eachFrom, run_bind, inTurn, called, calledOthers]
    · simp [eachFrom, run_bind, reported, reportedOthers]

/-- The same for an action that gives each output one order. -/
theorem tour_eachFrom_order {action : Nat → Output α → Traced α Unit}
    (order : Output α → α → Except Error Unit × α) (record : Except Error Unit → Call)
    (own : ∀ position output audio,
      ((action position output).run audio).state = (order output audio).2 ∧
        besidesNotices ((action position output).run audio).trace =
          [.audio position (record (order output audio).1)])
    (outputs : List (Output α)) (audio : α) :
    ∃ answers, Tour (fun output audio answer after => order output audio = (answer, after))
        outputs audio answers ((eachFrom action 0 outputs).run audio).state ∧
      besidesNotices ((eachFrom action 0 outputs).run audio).trace =
        inTurn (fun answer => [record answer]) 0 answers := by
  obtain ⟨answers, tour, called, -⟩ := tour_eachFrom
    (fun output audio answer after => order output audio = (answer, after))
    (fun answer => [record answer]) (fun _ => ())
    (fun position output audio =>
      have ⟨left, called⟩ := own position output audio
      ⟨(order output audio).1, by rw [left], called, rfl⟩) 0 outputs audio
  exact ⟨answers, tour, called⟩

section Visits

variable (purpose : Purpose) (position : Nat) (output : Output α) (audio : α)

theorem besidesNotices_silenceOne :
    ((silenceOne purpose position output).run audio).state = (output.pause audio).2 ∧
      besidesNotices ((silenceOne purpose position output).run audio).trace =
        [.audio position (.pause purpose (output.pause audio).1)] := by
  cases answer : (output.pause audio).1 <;> simp [silenceOne, run_bind, answer]

theorem besidesNotices_takeUpOne :
    ((takeUpOne purpose position output).run audio).state = (output.resume audio).2 ∧
      besidesNotices ((takeUpOne purpose position output).run audio).trace =
        [.audio position (.resume purpose (output.resume audio).1)] := by
  cases answer : (output.resume audio).1 <;> simp [takeUpOne, run_bind, answer]

/-- An output that stalled is cycled, also if it cannot be silenced. -/
theorem checked_recoverOne :
    ∃ checkup, Checked output audio checkup ((recoverOne position output).run audio).state ∧
      besidesNotices ((recoverOne position output).run audio).trace =
        checkup.calls.map (.audio position) ∧
      ((recoverOne position output).run audio).value = checkup.isStalled := by
  obtain ⟨stalled, found, asked⟩ : ∃ stalled found, output.detectStall audio = (stalled, found) :=
    ⟨_, _, rfl⟩
  cases stalled with
  | false =>
    refine ⟨.sound, ?_, ?_, ?_⟩
    · simpa [recoverOne, run_bind, asked] using Checked.sound asked
    · simp [recoverOne, run_bind, asked, Checkup.calls]
    · simp [recoverOne, run_bind, asked, Checkup.isStalled]
  | true =>
    obtain ⟨quiet, silenced⟩ := besidesNotices_silenceOne .recovery position output found
    obtain ⟨sounding, takenUp⟩ :=
      besidesNotices_takeUpOne .recovery position output (output.pause found).2
    refine ⟨.stalled (output.pause found).1 (output.resume (output.pause found).2).1, ?_, ?_, ?_⟩
    · simpa [recoverOne, run_bind, asked, quiet, sounding] using Checked.stalled asked rfl rfl
    · simp [recoverOne, run_bind, asked, quiet, silenced, takenUp, Checkup.calls]
    · simp [recoverOne, run_bind, asked, Checkup.isStalled]

end Visits

section Tours

variable (outputs : List (Output α)) (audio : α)

theorem tour_silenceAll :
    ∃ answers, Tour (fun output audio answer after => output.pause audio = (answer, after))
        outputs audio answers ((silenceAll outputs).run audio).state ∧
      besidesNotices ((silenceAll outputs).run audio).trace =
        inTurn (fun answer => [.pause .fanOut answer]) 0 answers := by
  obtain ⟨answers, tour, called⟩ := tour_eachFrom_order Output.pause (.pause .fanOut)
    (besidesNotices_silenceOne .fanOut) outputs audio
  exact ⟨answers, by simpa [silenceAll, run_bind] using tour,
    by simp [silenceAll, run_bind, called]⟩

theorem tour_takeUpAll :
    ∃ answers, Tour (fun output audio answer after => output.resume audio = (answer, after))
        outputs audio answers ((takeUpAll outputs).run audio).state ∧
      besidesNotices ((takeUpAll outputs).run audio).trace =
        inTurn (fun answer => [.resume .fanOut answer]) 0 answers := by
  obtain ⟨answers, tour, called⟩ := tour_eachFrom_order Output.resume (.resume .fanOut)
    (besidesNotices_takeUpOne .fanOut) outputs audio
  exact ⟨answers, by simpa [takeUpAll, run_bind] using tour,
    by simp [takeUpAll, run_bind, called]⟩

theorem tour_recoverStalled :
    ∃ checkups, Tour Checked outputs audio checkups ((recoverStalled outputs).run audio).state ∧
      besidesNotices ((recoverStalled outputs).run audio).trace =
        inTurn Checkup.calls 0 checkups ∧
      ((recoverStalled outputs).run audio).value = checkups.countP Checkup.isStalled := by
  obtain ⟨checkups, tour, called, stalls⟩ :=
    tour_eachFrom Checked Checkup.calls Checkup.isStalled checked_recoverOne 0 outputs audio
  refine ⟨checkups, by simpa [recoverStalled, run_bind] using tour, ?_, ?_⟩
  · simp [recoverStalled, called]
  · simp [recoverStalled, stalls, List.count, List.countP_map, Function.comp_def]

end Tours

end Audio

open Audio

/-- To silence all outputs is to silence each once in the order of registration, and to take them
up again likewise, whichever of them fail. To recover them is to ask each once in that order and to
cycle exactly those that stalled, right after they were asked and whatever they answer; what is
said is how many they were. Nothing else is called. -/
theorem outputs_are_called_in_turn_whatever_fails (outputs : List (Output α)) (audio : α) :
    (∃ answers, Tour (fun output audio answer after => output.pause audio = (answer, after))
        outputs audio answers ((silenceAll outputs).run audio).state ∧
      answers.length = outputs.length ∧
      besidesNotices ((silenceAll outputs).run audio).trace =
        inTurn (fun answer => [.pause .fanOut answer]) 0 answers) ∧
    (∃ answers, Tour (fun output audio answer after => output.resume audio = (answer, after))
        outputs audio answers ((takeUpAll outputs).run audio).state ∧
      answers.length = outputs.length ∧
      besidesNotices ((takeUpAll outputs).run audio).trace =
        inTurn (fun answer => [.resume .fanOut answer]) 0 answers) ∧
    ∃ checkups, Tour Checked outputs audio checkups ((recoverStalled outputs).run audio).state ∧
      checkups.length = outputs.length ∧
      besidesNotices ((recoverStalled outputs).run audio).trace =
        inTurn Checkup.calls 0 checkups ∧
      ((recoverStalled outputs).run audio).value = checkups.countP Checkup.isStalled := by
  obtain ⟨pauses, silenced, silences⟩ := tour_silenceAll outputs audio
  obtain ⟨resumes, takenUp, takesUp⟩ := tour_takeUpAll outputs audio
  obtain ⟨checkups, recovered, recovers, count⟩ := tour_recoverStalled outputs audio
  exact ⟨⟨pauses, silenced, silenced.length, silences⟩, ⟨resumes, takenUp, takenUp.length, takesUp⟩,
    checkups, recovered, recovered.length, recovers, count⟩

/-- An output that cannot be silenced is recovered all the same, and so is the one behind it. -/
example : ((recoverStalled [Rehearsal.Scripts.output .probing "speaker" 0,
    Rehearsal.Scripts.output .plain "headset" 1, Rehearsal.Scripts.output .probing "radio" 2]).run
      [{ failPause := some .disconnected, stalls := [true] }, {}, { stalls := [true] }]).value =
    2 := rfl

end AppLifecycle
