import MiniJ.Run

/-!
# Transcripts

What a run does to a console is a list of acts, and on a sink without a limit every act is carried
out: the output grows by the texts of the acts and the trace by their entries (`Console.after`). So
what a run writes can be read off its plan, as far as the run goes: up to the end of the plan
(`Plan.perform_sound`) or up to the first file whose work fails (`Plan.perform_failing`).
-/

set_option autoImplicit false

namespace MiniJ

/-! ## Acts -/

/-- A line with its end. -/
def asLine (line : String) : String :=
  line ++ "\n"

/-- The text that an act writes. -/
def Act.text : Act → String
  | say line => asLine line
  | showText text => text
  | note _ => ""

/-- The entry that an act adds to the trace, if any. -/
def Act.event? : Act → Option Event
  | note event => some event
  | _ => none

/-- The text that acts write. -/
def transcript (acts : List Act) : String :=
  String.join (acts.map Act.text)

theorem transcript_nil : transcript [] = "" :=
  String.join_nil

theorem transcript_cons (act : Act) (acts : List Act) :
    transcript (act :: acts) = act.text ++ transcript acts := by
  rw [transcript, List.map_cons, String.join_cons]
  rfl

theorem transcript_say (line : String) : transcript [.say line] = asLine line := by
  rw [transcript_cons, transcript_nil, String.append_empty]
  rfl

theorem transcript_showText (text : String) : transcript [.showText text] = text := by
  rw [transcript_cons, transcript_nil, String.append_empty]
  rfl

theorem transcript_note (event : Event) : transcript [.note event] = "" := by
  rw [transcript_cons, transcript_nil, String.append_empty]
  rfl

theorem transcript_append (acts more : List Act) :
    transcript (acts ++ more) = transcript acts ++ transcript more := by
  rw [transcript, List.map_append, String.join_append]
  rfl

theorem transcript_flatMap {α : Type} (f : α → List Act) (xs : List α) :
    transcript (xs.flatMap f) = String.join (xs.map fun x => transcript (f x)) := by
  induction xs with
  | nil => rfl
  | cons x xs ih =>
      rw [List.flatMap_cons, transcript_append, ih, List.map_cons, String.join_cons]

/-- Entries of the trace are not written. -/
theorem transcript_notes (events : List Event) : transcript (events.map .note) = "" := by
  induction events with
  | nil => rfl
  | cons event events ih =>
      rw [List.map_cons, transcript_cons, ih]
      rfl

namespace Console

/-- A console after acts, when nothing limits its sink. -/
def after (console : Console) (acts : List Act) : Console :=
  ⟨⟨console.sink.taken ++ (transcript acts).toUTF8, none⟩,
    console.trace ++ (acts.filterMap Act.event?).toArray⟩

theorem after_nil {console : Console} (unlimited : console.sink.room = none) :
    console.after [] = console := by
  obtain ⟨⟨taken, room⟩, trace⟩ := console
  dsimp only at unlimited
  simp [after, transcript, unlimited]

theorem after_append (console : Console) (acts more : List Act) :
    console.after (acts ++ more) = (console.after acts).after more := by
  simp only [after, transcript_append, String.toUTF8, String.toByteArray_append,
    ByteArray.append_assoc, List.filterMap_append, List.append_toArray, Array.append_assoc]

theorem note_eq_after {console : Console} (unlimited : console.sink.room = none) (event : Event) :
    console.note event = console.after [.note event] := by
  obtain ⟨⟨taken, room⟩, trace⟩ := console
  dsimp only at unlimited
  simp [after, note, transcript, Act.text, Act.event?, unlimited]

theorem write_unlimited {console : Console} (unlimited : console.sink.room = none)
    (text : String) : console.write text = (true, console.after [.showText text]) := by
  obtain ⟨⟨taken, room⟩, trace⟩ := console
  dsimp only at unlimited
  simp [after, write, Sink.write, transcript, Act.text, Act.event?, unlimited]

/-- **On a sink without a limit every act is carried out.** -/
theorem perform_unlimited {console : Console} (unlimited : console.sink.room = none)
    (acts : List Act) : console.perform acts = (true, console.after acts) := by
  induction acts generalizing console with
  | nil => rw [perform, after_nil unlimited]
  | cons act acts ih =>
      have first : (console.after [act]).perform acts = (true, console.after (act :: acts)) := by
        rw [ih rfl, ← after_append, List.singleton_append]
      cases act with
      | say line =>
          rw [perform, write_unlimited unlimited]
          exact first
      | showText text => rw [perform, write_unlimited unlimited, first]
      | note event => rw [perform, note_eq_after unlimited, first]

end Console

/-! ## Work on files -/

namespace FileWork

/-- What the work on one file does to a console. -/
def marks (work : FileWork) : List Act :=
  .note work.opening :: work.acts ++ [.note .fileDone]

theorem transcript_marks (work : FileWork) : transcript work.marks = transcript work.acts := by
  rw [marks, List.cons_append, transcript_cons, transcript_append, transcript_note,
    String.append_empty]
  exact String.empty_append

end FileWork

namespace Plan

variable {console : Console} {works before later : List FileWork} {work : FileWork}
  {error : RunError}

/-- The work on the first file goes in front of the others, unless it fails. -/
theorem performFiles_cons (unlimited : console.sink.room = none) (work : FileWork)
    (works : List FileWork) :
    performFiles (work :: works) console =
      match work.failure with
      | some error => (some error, console.after work.marks)
      | none => performFiles works (console.after work.marks) := by
  have opened : (console.note work.opening).sink.room = none := unlimited
  have closed : ((console.note work.opening).after work.acts).note .fileDone =
      console.after work.marks := by
    rw [Console.note_eq_after rfl, Console.note_eq_after unlimited, ← Console.after_append,
      ← Console.after_append]
    rfl
  rw [performFiles, Console.perform_unlimited opened]
  dsimp only
  cases work.failure with
  | none => exact congrArg (performFiles works) closed
  | some error => exact congrArg (Prod.mk (some error)) closed

/-- **Work that never fails is done on every file.** -/
theorem performFiles_sound (unlimited : console.sink.room = none)
    (sound : ∀ work ∈ works, work.failure = none) :
    performFiles works console = (none, console.after (works.flatMap FileWork.marks)) := by
  induction works generalizing console with
  | nil => rw [performFiles, List.flatMap_nil, Console.after_nil unlimited]
  | cons work works ih =>
      rw [performFiles_cons unlimited, sound work List.mem_cons_self]
      dsimp only
      rw [ih rfl fun other member => sound other (List.mem_cons_of_mem work member),
        List.flatMap_cons, Console.after_append]

/-- **The first work that fails is the last that is done.** -/
theorem performFiles_failing (unlimited : console.sink.room = none)
    (sound : ∀ work ∈ before, work.failure = none) (fails : work.failure = some error) :
    performFiles (before ++ work :: later) console =
      (some error, console.after ((before ++ [work]).flatMap FileWork.marks)) := by
  induction before generalizing console with
  | nil =>
      rw [List.nil_append, performFiles_cons unlimited, fails, List.nil_append,
        List.flatMap_singleton]
  | cons first before ih =>
      rw [List.cons_append, performFiles_cons unlimited, sound first List.mem_cons_self]
      dsimp only
      rw [ih rfl fun other member => sound other (List.mem_cons_of_mem first member),
        List.cons_append, List.flatMap_cons, Console.after_append]

/-! ## Plans -/

variable {plan : Plan}

/-- What a plan does up to the end of the work on some files. -/
def marks (plan : Plan) (works : List FileWork) : List Act :=
  .note plan.opening :: works.flatMap FileWork.marks

theorem after_marks (unlimited : console.sink.room = none) (plan : Plan)
    (works : List FileWork) :
    (console.note plan.opening).after (works.flatMap FileWork.marks) =
      console.after (plan.marks works) := by
  rw [Console.note_eq_after unlimited, ← Console.after_append]
  rfl

/-- The entries of the trace apart, a plan writes what its work writes. -/
theorem transcript_marks (plan : Plan) (works : List FileWork) :
    transcript (plan.marks works) =
      String.join (works.map fun work => transcript work.acts) := by
  have own : (fun work : FileWork => transcript work.marks) = fun work => transcript work.acts :=
    funext FileWork.transcript_marks
  rw [marks, transcript_cons, transcript_flatMap, own]
  exact String.empty_append

/-- **A plan without failing work is carried out to its end.** -/
theorem perform_sound (unlimited : console.sink.room = none)
    (sound : ∀ work ∈ plan.files, work.failure = none) :
    plan.perform console =
      (.ok plan.summary, console.after (plan.marks plan.files ++ plan.closing)) := by
  have opened : (console.note plan.opening).sink.room = none := unlimited
  rw [perform, performFiles_sound opened sound]
  dsimp only
  rw [Console.perform_unlimited rfl, after_marks unlimited, ← Console.after_append]

/-- **A plan is carried out up to the first work that fails.** -/
theorem perform_failing (unlimited : console.sink.room = none)
    (files : plan.files = before ++ work :: later)
    (sound : ∀ work ∈ before, work.failure = none) (fails : work.failure = some error) :
    plan.perform console = (.error error, console.after (plan.marks (before ++ [work]))) := by
  have opened : (console.note plan.opening).sink.room = none := unlimited
  rw [perform, files, performFiles_failing opened sound fails]
  dsimp only
  rw [after_marks unlimited]

end Plan

end MiniJ
