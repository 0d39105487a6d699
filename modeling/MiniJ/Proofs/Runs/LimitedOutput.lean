import MiniJ.Proofs.Runs.Batch

/-!
# Output cut short

A sink with a limit takes the first bytes of what a run writes. Which acts a run is meant to carry
out does not depend on the sink (`Run.acts`), and so the output is cut behind the limit and nowhere
else. Whether the run notices depends on what is cut: a line of its own must be taken in full, so it
notices if one of them ends behind the limit (`lineEnds`), and the fate of a rendered text does not
matter. A run over several files writes a line of its own behind every rendered text (`Settled`),
and then it always notices.

The main statement is `run_limited`.
-/

set_option autoImplicit false

namespace MiniJ

/-! ## Acts on a sink -/

namespace Sink

/-- What acts do to a sink, up to the first line that is not taken in full. Entries of the trace do
nothing. -/
def carryOut (sink : Sink) : List Act → Bool × Sink
  | [] => (true, sink)
  | .say line :: acts =>
    match sink.write (asLine line) with
    | (true, sink) => carryOut sink acts
    | (false, sink) => (false, sink)
  | .showText text :: acts => carryOut (sink.write text).2 acts
  | .note _ :: acts => carryOut sink acts

variable {taken : ByteArray} {room : Nat} {text : String}

theorem carryOut_append (sink : Sink) (acts more : List Act) :
    sink.carryOut (acts ++ more) =
      if (sink.carryOut acts).1 then (sink.carryOut acts).2.carryOut more
      else sink.carryOut acts := by
  induction acts generalizing sink with
  | nil => rfl
  | cons act acts ih =>
      cases act with
      | say line =>
          rw [List.cons_append, carryOut, carryOut]
          cases written : sink.write (asLine line) with
          | mk complete next =>
              cases complete with
              | true => exact ih next
              | false => rfl
      | showText text => exact ih _
      | note event => exact ih sink

/-- A text that fits is taken. -/
theorem write_fits (fits : text.utf8ByteSize ≤ room) :
    (Sink.mk taken (some room)).write text =
      (true, ⟨taken ++ text.toUTF8, some (room - text.utf8ByteSize)⟩) := by
  rw [write]
  exact if_pos fits

/-- Of another one the first bytes are taken, and then there is no room any more. -/
theorem write_cut (past : room < text.utf8ByteSize) :
    (Sink.mk taken (some room)).write text =
      (false, ⟨taken ++ text.toUTF8.extract 0 room, some 0⟩) := by
  rw [write]
  exact if_neg (Nat.not_le.mpr past)

end Sink

/-- What acts do to a console they do to its sink. -/
theorem Console.perform_sink (console : Console) (acts : List Act) :
    (console.perform acts).1 = (console.sink.carryOut acts).1 ∧
      (console.perform acts).2.sink = (console.sink.carryOut acts).2 := by
  induction acts generalizing console with
  | nil => exact ⟨rfl, rfl⟩
  | cons act acts ih =>
      obtain ⟨sink, trace⟩ := console
      cases act with
      | say line =>
          cases written : sink.write (asLine line) with
          | mk complete next =>
              have same : write ⟨sink, trace⟩ (line ++ "\n") = (complete, ⟨next, trace⟩) :=
                congrArg (fun outcome : Bool × Sink => (outcome.1, Console.mk outcome.2 trace))
                  written
              rw [perform, same, Sink.carryOut, written]
              cases complete with
              | true => exact ih _
              | false => exact ⟨rfl, rfl⟩
      | showText text => exact ih _
      | note event => exact ih _

/-- Without a limit every act is carried out. -/
theorem Sink.carryOut_unlimited (taken : ByteArray) (acts : List Act) :
    (Sink.mk taken none).carryOut acts = (true, ⟨taken ++ (transcript acts).toUTF8, none⟩) := by
  have same := Console.perform_sink ⟨⟨taken, none⟩, #[]⟩ acts
  rw [Console.perform_unlimited rfl] at same
  exact Prod.ext same.1.symm same.2.symm

/-! ## Lines and where they end -/

/-- The numbers of bytes that were written at the ends of the lines that acts say. -/
def lineEnds (before : Nat) : List Act → List Nat
  | [] => []
  | .say line :: acts =>
    (before + (asLine line).utf8ByteSize) :: lineEnds (before + (asLine line).utf8ByteSize) acts
  | .showText text :: acts => lineEnds (before + text.utf8ByteSize) acts
  | .note _ :: acts => lineEnds before acts

theorem lineEnds_append (before : Nat) (acts more : List Act) :
    lineEnds before (acts ++ more) =
      lineEnds before acts ++ lineEnds (before + (transcript acts).utf8ByteSize) more := by
  induction acts generalizing before with
  | nil => simp [lineEnds, transcript_nil]
  | cons act acts ih =>
      rw [transcript_cons, String.utf8ByteSize_append, ← Nat.add_assoc]
      cases act with
      | say line => exact congrArg (List.cons _) (ih _)
      | showText text => exact ih _
      | note event => exact ih _

/-- Lines end inside of what is written. -/
theorem le_of_mem_lineEnds {before last : Nat} {acts : List Act}
    (member : last ∈ lineEnds before acts) :
    last ≤ before + (transcript acts).utf8ByteSize := by
  induction acts generalizing before with
  | nil => cases member
  | cons act acts ih =>
      rw [transcript_cons, String.utf8ByteSize_append, ← Nat.add_assoc]
      cases act with
      | say line =>
          rcases List.mem_cons.mp member with rfl | later
          · exact Nat.le_add_right _ _
          · exact ih later
      | showText text => exact ih member
      | note event => exact ih member

/-- The first bytes of two texts, with room for as many bytes as a limit leaves. -/
theorem extract_append_limited (limit before : Nat) (first rest : String) :
    (first ++ rest).toUTF8.extract 0 (limit - before) =
      first.toUTF8.extract 0 (limit - before) ++
        rest.toUTF8.extract 0 (limit - (before + first.utf8ByteSize)) := by
  simp only [String.toUTF8_eq_toByteArray, String.toByteArray_append, ByteArray.extract_append,
    String.size_toByteArray, Nat.zero_sub, Nat.sub_sub]

theorem extract_nothing (room : Nat) : "".toUTF8.extract 0 room = ByteArray.empty :=
  ByteArray.extract_eq_empty_iff.mpr (Nat.min_le_right _ _)

theorem extract_of_fits {text : String} {room : Nat} (fits : text.utf8ByteSize ≤ room) :
    text.toUTF8.extract 0 room = text.toUTF8 := by
  have whole := @ByteArray.extract_zero_max_size text.toUTF8 room
  rwa [String.toUTF8_eq_toByteArray, String.size_toByteArray, Nat.max_eq_left fits] at whole

/-- There are no bytes behind the last one. -/
theorem extract_eq_extract_min (bytes : ByteArray) (limit : Nat) :
    bytes.extract 0 limit = bytes.extract 0 (min limit bytes.size) := by
  have same := @ByteArray.extract_extract bytes 0 bytes.size 0 limit
  simpa only [ByteArray.extract_zero_size, Nat.zero_add] using same

/-- A text leaves as much of the limit as the bytes up to its end do, whether it fits or not. -/
theorem Sink.write_limited (limit before : Nat) (taken : ByteArray) (text : String) :
    ((Sink.mk taken (some (limit - before))).write text).2 =
      ⟨taken ++ text.toUTF8.extract 0 (limit - before),
        some (limit - (before + text.utf8ByteSize))⟩ := by
  by_cases fits : text.utf8ByteSize ≤ limit - before
  · rw [write_fits fits, extract_of_fits fits, Nat.sub_sub]
  · rw [write_cut (Nat.not_le.mp fits)]
    have full : limit - (before + text.utf8ByteSize) = 0 := by omega
    rw [full]

/-- A line is taken in full if it does not end behind the limit. It has a byte at least. -/
theorem Sink.write_asLine (limit before : Nat) (taken : ByteArray) (line : String) :
    ((Sink.mk taken (some (limit - before))).write (asLine line)).1 = true ↔
      before + (asLine line).utf8ByteSize ≤ limit := by
  have some : 1 ≤ (asLine line).utf8ByteSize := by
    rw [asLine, String.utf8ByteSize_append]
    exact Nat.le_add_left 1 _
  by_cases fits : (asLine line).utf8ByteSize ≤ limit - before
  · rw [write_fits fits]
    exact iff_of_true rfl (by omega)
  · rw [write_cut (Nat.not_le.mp fits)]
    exact iff_of_false Bool.false_ne_true (by omega)

/-- **A sink with a limit takes the first bytes**, and it takes every line in full exactly if none
of them ends behind the limit. The induction is on the acts, with the bytes before them. -/
theorem Sink.carryOut_limited (limit before : Nat) (taken : ByteArray) (acts : List Act) :
    let outcome := (Sink.mk taken (some (limit - before))).carryOut acts
    (outcome.1 = true ↔ ∀ last ∈ lineEnds before acts, last ≤ limit) ∧
      outcome.2.taken = taken ++ (transcript acts).toUTF8.extract 0 (limit - before) := by
  induction acts generalizing before taken with
  | nil =>
      rw [transcript_nil, extract_nothing, ByteArray.append_empty]
      exact ⟨iff_of_true rfl (List.forall_mem_nil _), rfl⟩
  | cons act acts ih =>
      rw [transcript_cons, extract_append_limited, ← ByteArray.append_assoc]
      cases act with
      | say line =>
          have full := write_asLine limit before taken line
          have next := write_limited limit before taken (asLine line)
          rw [carryOut, lineEnds, List.forall_mem_cons]
          cases whole : (Sink.mk taken (some (limit - before))).write (asLine line) with
          | mk complete sink =>
              rw [whole] at full next
              dsimp only at full next
              subst next
              cases complete with
              | true =>
                  obtain ⟨lines, bytes⟩ := ih (before + (asLine line).utf8ByteSize) _
                  exact ⟨lines.trans (and_iff_right (full.mp rfl)).symm, bytes⟩
              | false =>
                  -- the line is cut off, and nothing comes behind it
                  have past : ¬ before + (asLine line).utf8ByteSize ≤ limit := by
                    rw [← full]
                    exact Bool.false_ne_true
                  refine ⟨iff_of_false Bool.false_ne_true fun both => past both.1, ?_⟩
                  have none : limit - (before + (asLine line).utf8ByteSize) = 0 := by omega
                  rw [Act.text, none, ByteArray.extract_same, ByteArray.append_empty]
      | showText text =>
          rw [carryOut, write_limited]
          exact ih _ _
      | note event =>
          rw [carryOut, Act.text, String.utf8ByteSize_empty, Nat.add_zero, extract_nothing,
            ByteArray.append_empty]
          exact ih before taken

/-! ## Plans on a sink -/

namespace Plan

/-- What is done about files, up to the first whose work fails. -/
def actsOf : List FileWork → List Act
  | [] => []
  | work :: works => work.marks ++ if work.failure.isSome then [] else actsOf works

/-- Why work on files fails, if it does. -/
def failureOf (works : List FileWork) : Option RunError :=
  works.findSome? FileWork.failure

/-- What a plan is meant to do. -/
def acts (plan : Plan) : List Act :=
  .note plan.opening ::
    (actsOf plan.files ++ if (failureOf plan.files).isSome then [] else plan.closing)

/-- The result of a plan whose lines are all taken in full. -/
def result (plan : Plan) : Except RunError Summary :=
  match failureOf plan.files with
  | some error => .error error
  | none => .ok plan.summary

/-- The entries around the work on a file do nothing to the sink. -/
theorem carryOut_marks (sink : Sink) (work : FileWork) (rest : List Act) :
    sink.carryOut (work.marks ++ rest) =
      if (sink.carryOut work.acts).1 then (sink.carryOut work.acts).2.carryOut rest
      else sink.carryOut work.acts := by
  have inner : sink.carryOut (work.marks ++ rest) =
      sink.carryOut (work.acts ++ ([.note .fileDone] ++ rest)) := by
    rw [FileWork.marks, List.append_assoc]
    rfl
  rw [inner, Sink.carryOut_append]
  rfl

theorem performFiles_sink (works : List FileWork) (console : Console) :
    let outcome := console.sink.carryOut (actsOf works)
    (performFiles works console).1 = (if outcome.1 then failureOf works else some .outputFull) ∧
      (performFiles works console).2.sink = outcome.2 := by
  induction works generalizing console with
  | nil => exact ⟨rfl, rfl⟩
  | cons work works ih =>
      cases performed : (console.note work.opening).perform work.acts with
      | mk complete next =>
          -- the entry in front of the work leaves the sink as it is
          have carried : console.sink.carryOut work.acts = (complete, next.sink) := by
            have same := (console.note work.opening).perform_sink work.acts
            rw [performed] at same
            exact (Prod.ext same.1 same.2).symm
          rw [actsOf, carryOut_marks, carried, performFiles, performed]
          cases complete with
          | false => exact ⟨rfl, rfl⟩
          | true =>
              rw [failureOf, List.findSome?_cons]
              cases work.failure with
              | some error => exact ⟨rfl, rfl⟩
              | none => exact ih (next.note .fileDone)

/-- **What a plan does to a sink is to carry out its acts**, and the plan has its own result unless
a line is not taken in full. -/
theorem perform_sink (plan : Plan) (console : Console) :
    let outcome := console.sink.carryOut plan.acts
    (plan.perform console).1 = (if outcome.1 then plan.result else .error .outputFull) ∧
      (plan.perform console).2.sink = outcome.2 := by
  rw [acts, Sink.carryOut, Sink.carryOut_append, perform]
  cases performed : performFiles plan.files (console.note plan.opening) with
  | mk error next =>
      obtain ⟨failure, sink⟩ : error =
          (if (console.sink.carryOut (actsOf plan.files)).1 then failureOf plan.files
            else some .outputFull) ∧
          next.sink = (console.sink.carryOut (actsOf plan.files)).2 := by
        have same := performFiles_sink plan.files (console.note plan.opening)
        rwa [performed] at same
      cases carried : console.sink.carryOut (actsOf plan.files) with
      | mk complete left =>
          rw [carried] at failure sink
          dsimp only at failure sink
          subst failure sink
          -- If the files already filled the sink, the closing lines are not tried.
          cases complete with
          | false => exact ⟨rfl, rfl⟩
          | true =>
              rw [if_pos rfl, if_pos rfl, result]
              cases failureOf plan.files with
              | some error => exact ⟨rfl, rfl⟩
              | none =>
                  obtain ⟨complete, sink⟩ := next.perform_sink plan.closing
                  simp only [Option.isSome_none, Bool.false_eq_true, if_false, ← complete, ← sink]
                  cases closed : next.perform plan.closing with
                  | mk complete last => cases complete <;> exact ⟨rfl, rfl⟩

end Plan

/-! ## Runs on a sink -/

namespace Run

variable (settings : Settings) (terminal : Bool) (path : String) (lookup : Lookup)

/-- What a run is meant to do. -/
def acts : List Act :=
  match plan settings terminal path lookup with
  | .error _ => []
  | .ok plan => plan.acts

/-- The result of a run whose lines are all taken in full. -/
def result : Except RunError Summary :=
  match plan settings terminal path lookup with
  | .error error => .error error
  | .ok plan => plan.result

theorem run_sink (console : Console) :
    let outcome := console.sink.carryOut (acts settings terminal path lookup)
    (run settings terminal path lookup console).1 =
        (if outcome.1 then result settings terminal path lookup else .error .outputFull) ∧
      (run settings terminal path lookup console).2.sink = outcome.2 := by
  rw [run, acts, result]
  cases plan settings terminal path lookup with
  | error error => exact ⟨rfl, rfl⟩
  | ok plan => exact plan.perform_sink console

/-- Without a limit all is written. -/
theorem run_unlimited :
    let outcome := run settings terminal path lookup (.empty none)
    outcome.1 = result settings terminal path lookup ∧
      outcome.2.sink.taken = (transcript (acts settings terminal path lookup)).toUTF8 := by
  obtain ⟨result, sink⟩ := run_sink settings terminal path lookup (.empty none)
  have carried := Sink.carryOut_unlimited .empty (acts settings terminal path lookup)
  rw [Console.empty, Sink.empty, carried] at result sink
  refine ⟨result, ?_⟩
  rw [Console.empty, Sink.empty, sink, ByteArray.empty_append]

/-- With a limit the first bytes are written, and the run has its own result unless a line ends
behind the limit. -/
theorem run_up_to (limit : Nat) :
    let outcome := run settings terminal path lookup (.empty (some limit))
    let lines := lineEnds 0 (acts settings terminal path lookup)
    ((∀ last ∈ lines, last ≤ limit) → outcome.1 = result settings terminal path lookup) ∧
      ((∃ last ∈ lines, limit < last) → outcome.1 = .error .outputFull) ∧
      outcome.2.sink.taken =
        (transcript (acts settings terminal path lookup)).toUTF8.extract 0 limit := by
  obtain ⟨result, sink⟩ := run_sink settings terminal path lookup (.empty (some limit))
  obtain ⟨lines, bytes⟩ :=
    Sink.carryOut_limited limit 0 .empty (acts settings terminal path lookup)
  rw [Nat.sub_zero] at lines bytes
  rw [Console.empty, Sink.empty] at result sink ⊢
  refine ⟨fun within => ?_, fun past => ?_, ?_⟩
  · rw [result, if_pos (lines.mpr within)]
  · rw [result, if_neg]
    intro full
    obtain ⟨last, member, behind⟩ := past
    exact absurd (lines.mp full last member) (Nat.not_le.mpr behind)
  · rw [sink, bytes, ByteArray.empty_append]

end Run

/-! ## What is written behind the last line -/

/-- That what acts write ends with a line, if they write anything at all: if no line ends behind a
limit, nothing does. -/
def Settled (acts : List Act) : Prop :=
  ∀ before limit, before ≤ limit → (∀ last ∈ lineEnds before acts, last ≤ limit) →
    before + (transcript acts).utf8ByteSize ≤ limit

theorem settled_of_silent {acts : List Act} (silent : transcript acts = "") : Settled acts := by
  intro before limit begins _
  rw [silent, String.utf8ByteSize_empty]
  exact begins

theorem settled_append {acts more : List Act} (first : Settled acts) (second : Settled more) :
    Settled (acts ++ more) := by
  intro before limit begins ends
  rw [lineEnds_append] at ends
  rw [transcript_append, String.utf8ByteSize_append, ← Nat.add_assoc]
  refine second _ _ (first _ _ begins ?_) ?_
  · exact fun last member => ends last (List.mem_append_left _ member)
  · exact fun last member => ends last (List.mem_append_right _ member)

theorem settled_note {event : Event} {acts : List Act} (settled : Settled acts) :
    Settled (.note event :: acts) := by
  have silent : Settled [.note event] := settled_of_silent (transcript_note event)
  exact settled_append silent settled

theorem settled_say (acts : List Act) (line : String) : Settled (acts ++ [.say line]) := by
  intro before limit _ ends
  rw [lineEnds_append] at ends
  rw [transcript_append, String.utf8ByteSize_append, transcript_say, ← Nat.add_assoc]
  exact ends _ (List.mem_append_right _ List.mem_cons_self)

/-! ## The lines of a run -/

namespace Plan

variable {works : List FileWork}

theorem settled_actsOf (settled : ∀ work ∈ works, Settled work.acts) :
    Settled (actsOf works) := by
  induction works with
  | nil => exact settled_of_silent transcript_nil
  | cons work works ih =>
      rw [actsOf]
      have marks : Settled work.marks :=
        settled_append (settled_note (settled work List.mem_cons_self))
          (settled_of_silent (transcript_note _))
      refine settled_append marks ?_
      split
      · exact settled_of_silent transcript_nil
      · exact ih fun other member => settled other (List.mem_cons_of_mem _ member)

/-- A line that is said about files is said about one of them. -/
theorem exists_of_say_mem_actsOf {line : String} (said : .say line ∈ actsOf works) :
    ∃ work ∈ works, .say line ∈ work.acts := by
  induction works with
  | nil => cases said
  | cons work works ih =>
      rw [actsOf, List.mem_append] at said
      rcases said with here | later
      · exact ⟨work, List.mem_cons_self, by simpa [FileWork.marks] using here⟩
      · split at later
        · cases later
        · obtain ⟨other, member, within⟩ := ih later
          exact ⟨other, List.mem_cons_of_mem _ member, within⟩

theorem settled_acts {plan : Plan} (files : ∀ work ∈ plan.files, Settled work.acts)
    (closing : Settled plan.closing) : Settled plan.acts := by
  refine settled_note (settled_append (settled_actsOf files) ?_)
  split
  · exact settled_of_silent transcript_nil
  · exact closing

theorem say_mem_acts {plan : Plan} {line : String} (said : .say line ∈ plan.acts) :
    (∃ work ∈ plan.files, .say line ∈ work.acts) ∨ .say line ∈ plan.closing := by
  rcases List.mem_cons.mp said with opening | said
  · cases opening
  rcases List.mem_append.mp said with within | closing
  · exact .inl (exists_of_say_mem_actsOf within)
  · split at closing
    · cases closing
    · exact .inr closing

end Plan

namespace Run

/-- The lines that a run writes itself. -/
inductive IsLine : String → Prop
  | success : IsLine "Success"
  | error : IsLine "Error"
  | file (name : String) : IsLine ("Compiling File: " ++ name)
  | mismatch (name : String) : IsLine ("Compiler mismatch: incorrect result for file " ++ name)
  | separator : IsLine separator
  | passed : IsLine "All tests passed"

variable {settings : Settings} {terminal : Bool} {input : Input} {line : String}

/-- The trace of a check has no lines. -/
theorem not_mem_traceOf (parse : Parse) (line : String) : .say line ∉ traceOf parse := by
  simp [traceOf]

theorem isLine_of_singleWork (said : .say line ∈ (singleWork settings terminal input).acts) :
    IsLine line := by
  rw [singleWork] at said
  split at said
  · cases said
  · rcases List.mem_append.mp said with traced | verdict
    · exact absurd traced (not_mem_traceOf _ _)
    · split at verdict
      · obtain rfl : line = "Success" := by simpa using verdict
        exact .success
      · obtain rfl : line = "Error" := by simpa [report] using verdict
        exact .error

theorem isLine_of_batchWork (said : .say line ∈ (batchWork settings terminal input).acts) :
    IsLine line := by
  rw [batchWork] at said
  split at said
  · obtain rfl : line = _ := by simpa using said
    exact .file _
  · simp only [List.mem_append, List.mem_singleton] at said
    rcases said with (((announced | traced) | counted) | outcome) | separated
    · cases announced
      exact .file _
    · exact absurd traced (not_mem_traceOf _ _)
    · cases counted
    · split at outcome
      · rcases List.mem_cons.mp outcome with mismatch | reported
        · cases mismatch
          exact .mismatch _
        · split at reported
          · simp [report] at reported
          · cases reported
      · cases outcome
    · cases separated
      exact .separator

theorem settled_batchWork (settings : Settings) (terminal : Bool) (input : Input) :
    Settled (batchWork settings terminal input).acts := by
  rw [batchWork]
  split
  · exact settled_say [] _
  · exact settled_say _ _

variable {path : String} {lookup : Lookup} {files : List Input}

/-- Behind the last line of a run over several files nothing is written. -/
theorem settled_planFiles (several : files.length ≠ 1) :
    Settled (planFiles settings terminal files).acts := by
  rw [planFiles_several several]
  apply Plan.settled_acts
  · intro work member
    obtain ⟨input, -, rfl⟩ := List.mem_map.mp member
    exact settled_batchWork settings terminal input
  · dsimp only
    split
    · exact settled_say [] _
    · exact settled_of_silent transcript_nil

theorem isLine_of_planFiles (said : .say line ∈ (planFiles settings terminal files).acts) :
    IsLine line := by
  by_cases several : files.length = 1
  · obtain ⟨input, rfl⟩ := List.length_eq_one_iff.mp several
    rcases Plan.say_mem_acts said with ⟨work, member, within⟩ | closing
    · obtain rfl := List.mem_singleton.mp member
      exact isLine_of_singleWork within
    · cases closing
  · rw [planFiles_several several] at said
    rcases Plan.say_mem_acts said with ⟨work, member, within⟩ | closing
    · obtain ⟨input, -, rfl⟩ := List.mem_map.mp member
      exact isLine_of_batchWork within
    · dsimp only at closing
      split at closing
      · cases List.mem_singleton.mp closing
        exact .passed
      · cases closing

/-- **What a run says are lines of its own.** -/
theorem isLine_of_acts (said : .say line ∈ acts settings terminal path lookup) : IsLine line := by
  rw [acts, plan] at said
  cases within : inputs path lookup with
  | error error =>
      rw [within] at said
      cases said
  | ok files =>
      rw [within] at said
      exact isLine_of_planFiles said

/-- That a run is over one file only, which is rejected, and writes the word `Error` and the
rendered report. -/
def IsRejection (settings : Settings) (terminal : Bool) (path : String) (lookup : Lookup)
    (output : ByteArray) (rendered : String) : Prop :=
  ∃ input parse, inputs path lookup = .ok [input] ∧
    checkFile settings.dialect input.path input.entry = .ok parse ∧ parse.isOk = false ∧
    rendered = parse.cursor.reporter.render ⟨settings.color.usesColor terminal, true⟩ ∧
    output = (asLine "Error" ++ rendered).toUTF8

/-- What is meant to be done about a single file that is rejected. -/
theorem acts_of_rejected (terminal : Bool) {parse : Parse}
    (single : inputs path lookup = .ok [input])
    (checked : checkFile settings.dialect input.path input.entry = .ok parse)
    (rejected : parse.isOk = false) :
    ∃ silent, transcript silent = "" ∧ acts settings terminal path lookup =
      silent ++ ([.say "Error", report settings terminal parse] ++ [.note .fileDone]) := by
  refine ⟨[.note (.run 1 settings.dialect), .note (.fileByPath input.path)] ++ traceOf parse,
    ?_, ?_⟩
  · rw [transcript_append, traceOf, transcript_notes, transcript_cons, transcript_note]
    rfl
  · rw [acts, plan, single]
    simp [Except.map, planFiles, singleWork, checked, rejected, Plan.acts, Plan.actsOf,
      FileWork.marks]

/-- What is written behind the last line is the report of a single file. -/
theorem exists_rejected_of_not_settled
    (unsettled : ¬ Settled (acts settings terminal path lookup)) :
    ∃ input parse, inputs path lookup = .ok [input] ∧
      checkFile settings.dialect input.path input.entry = .ok parse ∧ parse.isOk = false := by
  rw [acts, plan] at unsettled
  cases within : inputs path lookup with
  | error error =>
      rw [within] at unsettled
      exact absurd (settled_of_silent transcript_nil) unsettled
  | ok files =>
      rw [within] at unsettled
      change ¬ Settled (planFiles settings terminal files).acts at unsettled
      by_cases several : files.length ≠ 1
      · exact absurd (settled_planFiles several) unsettled
      obtain ⟨input, rfl⟩ := List.length_eq_one_iff.mp (Classical.not_not.mp several)
      -- nothing comes behind the work on the only file
      have own : ¬ Settled (singleWork settings terminal input).acts := by
        intro settled
        refine unsettled (Plan.settled_acts ?_ (settled_of_silent transcript_nil))
        intro work member
        obtain rfl := List.mem_singleton.mp member
        exact settled
      cases checked : checkFile settings.dialect input.path input.entry with
      | error reason =>
          simp only [singleWork, checked] at own
          exact absurd (settled_of_silent transcript_nil) own
      | ok parse =>
          cases ok : parse.isOk with
          | true =>
              simp only [singleWork, checked, ok, if_true] at own
              exact absurd (settled_say _ _) own
          | false => exact ⟨input, parse, rfl, checked, ok⟩

/-- **Only the report of a rejected file can be cut without a line being cut.** -/
theorem isRejection_of_cut {limit : Nat}
    (lines : ∀ last ∈ lineEnds 0 (acts settings terminal path lookup), last ≤ limit)
    (cut : limit < (transcript (acts settings terminal path lookup)).utf8ByteSize) :
    ∃ rendered, IsRejection settings terminal path lookup
        (transcript (acts settings terminal path lookup)).toUTF8 rendered ∧
      (asLine "Error").utf8ByteSize ≤ limit := by
  -- if all lines fit, something else is cut, so the last thing written is no line
  have unsettled : ¬ Settled (acts settings terminal path lookup) := by
    intro settled
    have all := settled 0 limit (Nat.zero_le _) lines
    omega
  obtain ⟨input, parse, single, checked, rejected⟩ := exists_rejected_of_not_settled unsettled
  obtain ⟨silent, nothing, same⟩ :=
    acts_of_rejected terminal single checked rejected
  have written : transcript (acts settings terminal path lookup) = asLine "Error" ++
      parse.cursor.reporter.render ⟨settings.color.usesColor terminal, true⟩ := by
    rw [same, transcript_append, nothing, transcript_append, transcript_note, String.empty_append,
      String.append_empty, transcript_cons, report, transcript_showText]
    rfl
  rw [same, lineEnds_append, nothing] at lines
  have first := lines _ (List.mem_append_right _ List.mem_cons_self)
  rw [String.utf8ByteSize_empty, Nat.zero_add] at first
  exact ⟨_, ⟨input, parse, single, checked, rejected, rfl, congrArg String.toUTF8 written⟩, first⟩

end Run

/-- **Output cut short.** Let a run write some output without a limit and have a result. With a
limit the output is the first bytes of it, as many as the limit says. Within the limit the result is
the same. Otherwise the result is that the output was not taken if a line of the run's own ends
behind the limit, and it is the same if none does. Then the run is over one file, which is rejected,
and the output is cut inside the rendered report. -/
theorem run_limited (settings : Settings) (terminal : Bool) (path : String) (lookup : Lookup)
    (limit : Nat) :
    let whole := run settings terminal path lookup (.empty none)
    let output := whole.2.sink.taken
    let cut := run settings terminal path lookup (.empty (some limit))
    let acts := Run.acts settings terminal path lookup
    output = (transcript acts).toUTF8 ∧
      (∀ line, .say line ∈ acts → Run.IsLine line) ∧
      cut.2.sink.taken = output.extract 0 (min limit output.size) ∧
      (output.size ≤ limit → cut.1 = whole.1) ∧
      (limit < output.size →
        ((∃ last ∈ lineEnds 0 acts, limit < last) → cut.1 = .error .outputFull) ∧
        ((¬ ∃ last ∈ lineEnds 0 acts, limit < last) → cut.1 = whole.1 ∧
          ∃ rendered, Run.IsRejection settings terminal path lookup output rendered ∧
            (asLine "Error").utf8ByteSize ≤ limit)) := by
  intro whole output cut acts
  obtain ⟨result, written⟩ := Run.run_unlimited settings terminal path lookup
  obtain ⟨within, past, bytes⟩ := Run.run_up_to settings terminal path lookup limit
  have written : output = (transcript acts).toUTF8 := written
  have size : output.size = (transcript acts).utf8ByteSize := by
    rw [written]
    exact String.size_toByteArray
  refine ⟨written, fun line => Run.isLine_of_acts, ?_, ?_, ?_⟩
  · rw [← extract_eq_extract_min, written]
    exact bytes
  · intro fits
    refine (within fun last member => ?_).trans result.symm
    -- No line ends behind the output as a whole.
    have inside : last ≤ 0 + (transcript acts).utf8ByteSize := le_of_mem_lineEnds member
    omega
  · intro beyond
    refine ⟨past, ?_⟩
    intro none
    have lines : ∀ last ∈ lineEnds 0 acts, last ≤ limit := by
      intro last member
      exact Nat.not_lt.mp fun behind => none ⟨last, member, behind⟩
    rw [written]
    exact ⟨(within lines).trans result.symm, Run.isRejection_of_cut lines (size ▸ beyond)⟩

/-- A report is cut, and the run does not notice. -/
theorem run_limited_report :
    let lookup := Lookup.found (.file "class".toUTF8)
    let whole := run .standard false "A" lookup (.empty none)
    let cut := run .standard false "A" lookup (.empty (some 7))
    7 < whole.2.sink.taken.size ∧
      (¬ ∃ last ∈ lineEnds 0 (Run.acts .standard false "A" lookup), 7 < last) ∧
      cut.1 = whole.1 ∧ cut.2.sink.taken = whole.2.sink.taken.extract 0 7 := by
  intro lookup whole cut
  obtain ⟨written, -, bytes, -, beyond⟩ := run_limited .standard false "A" lookup 7
  have size : 7 < whole.2.sink.taken.size := by
    rw [written]
    decide +kernel
  have lines : ¬ ∃ last ∈ lineEnds 0 (Run.acts .standard false "A" lookup), 7 < last := by
    decide +kernel
  refine ⟨size, lines, ((beyond size).2 lines).1, ?_⟩
  rw [extract_eq_extract_min]
  exact bytes

end MiniJ
