import MiniJ.Diagnostic.Rendering
import MiniJ.Proofs.Recognition.Streaming

/-!
# Renderings of diagnostics

A diagnostic has a plain form, and it is rendered in four styles. Both write the same details behind
the headline (`Diagnostic.details`): the plain form begins a line for each of them and the verbose
rendering ends one, so the two differ in line ends only (`Diagnostic.render_verbose`). Color adds
control sequences and nothing else: `Fades` says that deleting them from a text leaves another one
that has none, wherever the texts stand. It passes from the pieces of a rendering to the whole.

The main statement is `renderings_agree`.
-/

set_option autoImplicit false

namespace MiniJ

/-! ## Control sequences -/

namespace ControlSequence

/-- The character with which every control sequence begins. -/
def escape : Char := '\x1b'

/-- What stands behind the control sequence at the front of a text, if there is one. The sequence
begins with the escape and a bracket and goes on to the first `m`. -/
def behind? : List Char → Option (List Char)
  | '\x1b' :: '[' :: cs =>
    match cs.dropWhile (· ≠ 'm') with
    | [] => none
    | _ :: rest => some rest
  | _ => none

theorem length_lt_of_behind? {cs rest : List Char} (found : behind? cs = some rest) :
    rest.length < cs.length := by
  unfold behind? at found
  split at found
  · rename_i inside
    have shorter := (List.dropWhile_suffix (l := inside) (· ≠ 'm')).length_le
    split at found
    · cases found
    · rename_i ended
      cases found
      rw [ended] at shorter
      simp only [List.length_cons] at shorter ⊢
      omega
  · cases found

/-- A text without its control sequences. -/
def delete : List Char → List Char
  | [] => []
  | c :: cs =>
    match _found : behind? (c :: cs) with
    | some rest => delete rest
    | none => c :: delete cs
termination_by cs => cs.length
decreasing_by
  · exact length_lt_of_behind? _found
  · exact Nat.lt_succ_self _

theorem delete_of_behind? {cs rest : List Char} (found : behind? cs = some rest) :
    delete cs = delete rest := by
  cases cs with
  | nil => cases found
  | cons c cs =>
      rw [delete]
      split
      · rename_i other same
        cases found.symm.trans same
        rfl
      · rename_i none
        cases found.symm.trans none

/-- A character that begins no sequence stays. -/
theorem delete_cons {c : Char} (other : c ≠ escape) (cs : List Char) :
    delete (c :: cs) = c :: delete cs := by
  have none : behind? (c :: cs) = none := by
    unfold behind?
    split
    · rename_i same
      exact absurd (List.cons.inj same).1 other
    · rfl
  rw [delete]
  split
  · rename_i found
    cases none.symm.trans found
  · rfl

end ControlSequence

open ControlSequence

/-- A text without its control sequences. -/
def withoutSequences (text : String) : String :=
  String.ofList (delete text.toList)

/-- Every sequence that begins an emphasis is deleted as a whole. -/
theorem Emphasis.behind?_sequence (emphasis : Emphasis) (rest : List Char) :
    behind? (emphasis.sequence.toList ++ rest) = some rest := by
  cases emphasis <;> rfl

theorem Emphasis.behind?_reset (rest : List Char) :
    behind? (Emphasis.reset.toList ++ rest) = some rest := rfl

/-! ## Texts in color -/

/-- That deleting the control sequences from a text, wherever it stands, leaves another text, and that
the other one has none. -/
structure Fades (colored plain : String) : Prop where
  clean : escape ∉ plain.toList
  deleted : ∀ rest, delete (colored.toList ++ rest) = plain.toList ++ delete rest

namespace Fades

variable {colored plain colored' plain' text : String}

/-- A text without the escape is left as it is. -/
theorem refl (clean : escape ∉ text.toList) : Fades text text where
  clean := clean
  deleted rest := by
    revert clean
    induction text.toList with
    | nil => exact fun _ => rfl
    | cons c cs ih =>
        intro clean
        rw [List.mem_cons, not_or] at clean
        rw [List.cons_append, delete_cons (Ne.symm clean.1), ih clean.2, List.cons_append]

theorem append (first : Fades colored plain) (second : Fades colored' plain') :
    Fades (colored ++ colored') (plain ++ plain') where
  clean := by
    rw [String.toList_append, List.mem_append, not_or]
    exact ⟨first.clean, second.clean⟩
  deleted rest := by
    rw [String.toList_append, String.toList_append, List.append_assoc, first.deleted,
      second.deleted, List.append_assoc]

/-- An emphasis fades. -/
theorem paint (verbose : Bool) (emphasis : Emphasis) (clean : escape ∉ text.toList) :
    Fades (RenderStyle.paint ⟨true, verbose⟩ emphasis text)
      (RenderStyle.paint ⟨false, verbose⟩ emphasis text) where
  clean := clean
  deleted rest := by
    have painted : RenderStyle.paint ⟨true, verbose⟩ emphasis text =
        emphasis.sequence ++ text ++ Emphasis.reset := rfl
    have unpainted : RenderStyle.paint ⟨false, verbose⟩ emphasis text = text := rfl
    -- two sequences go away, one on each side of a text that has none
    rw [painted, unpainted, String.toList_append, String.toList_append, List.append_assoc,
      List.append_assoc, delete_of_behind? (emphasis.behind?_sequence _), (refl clean).deleted,
      delete_of_behind? (Emphasis.behind?_reset rest)]

/-- Texts that fade one by one fade together. -/
theorem join {α : Type} {f g : α → String} {xs : List α} (each : ∀ x ∈ xs, Fades (f x) (g x)) :
    Fades (String.join (xs.map f)) (String.join (xs.map g)) := by
  induction xs with
  | nil => exact refl List.not_mem_nil
  | cons x xs ih =>
      rw [List.map_cons, List.map_cons, String.join_cons, String.join_cons]
      exact (each x List.mem_cons_self).append
        (ih fun other member => each other (List.mem_cons_of_mem x member))

theorem withoutSequences_eq (fades : Fades colored plain) :
    withoutSequences colored = plain := by
  have whole := fades.deleted []
  rw [List.append_nil, delete, List.append_nil] at whole
  rw [withoutSequences, whole, String.ofList_toList]

end Fades

/-! ## One diagnostic -/

/-- A line end in front of each text and one behind the last, or one in front of the first and one
behind each. -/
theorem join_lines (texts : List String) :
    String.join (texts.map ("\n" ++ ·)) ++ "\n" = "\n" ++ String.join (texts.map (· ++ "\n")) := by
  induction texts with
  | nil => rfl
  | cons text texts ih =>
      rw [List.map_cons, List.map_cons, String.join_cons, String.join_cons, String.append_assoc,
        ih]
      simp only [String.append_assoc]

namespace Diagnostic

variable {diagnostic : Diagnostic}

/-- What is said about a diagnostic behind its headline: where it is, and the notes. -/
def details (diagnostic : Diagnostic) : List String :=
  (diagnostic.location?.toList.map fun location => "  --> " ++ location) ++
    diagnostic.notes.map fun note => "  = note: " ++ note

/-- The plain form begins a line for each detail. -/
theorem display_eq (diagnostic : Diagnostic) :
    diagnostic.display =
      diagnostic.headline ++ String.join (diagnostic.details.map ("\n" ++ ·)) := by
  have arrow (text : String) : "\n" ++ ("  --> " ++ text) = "\n  --> " ++ text :=
    String.append_assoc.symm
  have note (text : String) : "\n" ++ ("  = note: " ++ text) = "\n  = note: " ++ text :=
    String.append_assoc.symm
  rw [display, details]
  cases diagnostic.location? <;> simp [Function.comp_def, String.append_assoc, arrow, note]

/-! ## Lines of a rendering -/

/-- The line with the code and the message. -/
def headlineIn (style : RenderStyle) (diagnostic : Diagnostic) : String :=
  style.paint .boldRed severity ++ style.paint .bold ("[" ++ diagnostic.code.text ++ "]") ++ ": " ++
    diagnostic.message ++ "\n"

/-- The line with a location. -/
def locationIn (style : RenderStyle) (location : String) : String :=
  "  --> " ++ style.paint .boldBlue location ++ "\n"

/-- The line with a note. -/
def noteIn (style : RenderStyle) (note : String) : String :=
  "  = " ++ style.paint .bold "note" ++ ": " ++ note ++ "\n"

/-- The lines behind the headline, and an empty one. -/
def detailsIn (style : RenderStyle) (diagnostic : Diagnostic) : String :=
  String.join (diagnostic.location?.toList.map (locationIn style)) ++
    String.join (diagnostic.notes.map (noteIn style)) ++ "\n"

/-- A rendering line by line. -/
theorem render_eq (style : RenderStyle) (diagnostic : Diagnostic) :
    diagnostic.render style =
      headlineIn style diagnostic ++ if style.verbose then detailsIn style diagnostic else "" := by
  have note : noteIn style =
      fun note => "  = " ++ style.paint .bold "note" ++ ": " ++ note ++ "
" := rfl
  rw [render, headlineIn, detailsIn, note]
  dsimp only
  split
  · cases diagnostic.location? with
    | none =>
        simp only [Option.toList_none, List.map_nil, String.join_nil, String.append_assoc,
          String.empty_append]
    | some location =>
        simp only [Option.toList_some, List.map_singleton, locationIn, String.join_cons,
          String.join_nil, String.append_empty, String.append_assoc]
  · exact String.append_empty.symm

theorem headlineIn_plain (verbose : Bool) (diagnostic : Diagnostic) :
    headlineIn ⟨false, verbose⟩ diagnostic = diagnostic.headline ++ "\n" := by
  have colon (text : String) : "]" ++ (": " ++ text) = "]: " ++ text := String.append_assoc.symm
  simp only [headlineIn, headline, RenderStyle.paint, Bool.false_eq_true, if_false,
    String.append_assoc, colon]

/-- Without color a line is ended for each detail. -/
theorem detailsIn_plain (verbose : Bool) (diagnostic : Diagnostic) :
    detailsIn ⟨false, verbose⟩ diagnostic =
      String.join (diagnostic.details.map (· ++ "\n")) ++ "\n" := by
  have location : locationIn ⟨false, verbose⟩ = fun text => "  --> " ++ text ++ "\n" := rfl
  have note : noteIn ⟨false, verbose⟩ = fun text => "  = note: " ++ text ++ "\n" := rfl
  rw [detailsIn, location, note, details, List.map_append, List.map_map, List.map_map,
    String.join_append]
  rfl

/-- **The verbose rendering is the plain form and an empty line.** -/
theorem render_verbose (diagnostic : Diagnostic) :
    diagnostic.render ⟨false, true⟩ = diagnostic.display ++ "\n\n" := by
  have ends : "\n\n" = "\n" ++ "\n" := rfl
  calc diagnostic.render ⟨false, true⟩
      = diagnostic.headline ++
          ("\n" ++ String.join (diagnostic.details.map (· ++ "\n")) ++ "\n") := by
        rw [render_eq, if_pos rfl, headlineIn_plain, detailsIn_plain]
        simp only [String.append_assoc]
    _ = diagnostic.display ++ "\n\n" := by
        rw [← join_lines, display_eq, ends]
        simp only [String.append_assoc]

/-- **The terse rendering is the headline.** -/
theorem render_terse (diagnostic : Diagnostic) :
    diagnostic.render ⟨false, false⟩ =
      "error[" ++ diagnostic.code.text ++ "]: " ++ diagnostic.message ++ "\n" := by
  rw [render_eq, if_neg Bool.false_ne_true, headlineIn_plain, String.append_empty]
  rfl

/-! ## Color -/

/-- That no text of a diagnostic has the escape in it. -/
structure IsClean (diagnostic : Diagnostic) : Prop where
  message : escape ∉ diagnostic.message.toList
  file : ∀ file, diagnostic.file = some file → escape ∉ file.toList
  notes : ∀ note ∈ diagnostic.notes, escape ∉ note.toList

theorem escape_notMem_append {first second : String} (left : escape ∉ first.toList)
    (right : escape ∉ second.toList) : escape ∉ (first ++ second).toList := by
  rw [String.toList_append, List.mem_append, not_or]
  exact ⟨left, right⟩

/-- A number is written with digits only. -/
theorem escape_notMem_number (n : Nat) : escape ∉ (toString n).toList := by
  intro member
  have written : (toString n).toList = Nat.toDigits 10 n := Nat.toList_repr
  rw [written] at member
  exact absurd (Nat.isDigit_of_mem_toDigits (by decide) (by decide) member) (by decide)

theorem escape_notMem_position (position : Position) : escape ∉ position.text.toList :=
  escape_notMem_append (escape_notMem_append (escape_notMem_number _) (by decide))
    (escape_notMem_number _)

theorem IsClean.location (clean : diagnostic.IsClean) {location : String}
    (known : diagnostic.location? = some location) : escape ∉ location.toList := by
  rw [location?] at known
  split at known
  · rename_i file position named located
    cases known
    have colon : escape ∉ ":".toList := by decide
    exact escape_notMem_append (escape_notMem_append (clean.file file named) colon)
      (escape_notMem_position position)
  · rename_i file named located
    cases known
    exact clean.file location named
  · rename_i position named located
    cases known
    exact escape_notMem_position position
  · cases known

theorem fades_headlineIn (verbose : Bool) (clean : diagnostic.IsClean) :
    Fades (headlineIn ⟨true, verbose⟩ diagnostic) (headlineIn ⟨false, verbose⟩ diagnostic) := by
  have bracketed : escape ∉ ("[" ++ diagnostic.code.text ++ "]").toList := by
    cases diagnostic.code <;> decide
  have severity : escape ∉ severity.toList := by decide
  have colon : Fades ": " ": " := .refl (by decide)
  have code := ((Fades.paint verbose .boldRed severity).append
    (.paint verbose .bold bracketed)).append colon
  exact (code.append (.refl clean.message)).append (.refl (by decide))

theorem fades_locationIn (verbose : Bool) {location : String} (clean : escape ∉ location.toList) :
    Fades (locationIn ⟨true, verbose⟩ location) (locationIn ⟨false, verbose⟩ location) := by
  have arrow : Fades "  --> " "  --> " := .refl (by decide)
  exact (arrow.append (.paint verbose .boldBlue clean)).append (.refl (by decide))

theorem fades_noteIn (verbose : Bool) {note : String} (clean : escape ∉ note.toList) :
    Fades (noteIn ⟨true, verbose⟩ note) (noteIn ⟨false, verbose⟩ note) := by
  have sign : Fades "  = " "  = " := .refl (by decide)
  have word : escape ∉ "note".toList := by decide
  have colon : Fades ": " ": " := .refl (by decide)
  have signed := sign.append (.paint verbose .bold word)
  exact ((signed.append colon).append (.refl clean)).append (.refl (by decide))

theorem fades_detailsIn (verbose : Bool) (clean : diagnostic.IsClean) :
    Fades (detailsIn ⟨true, verbose⟩ diagnostic) (detailsIn ⟨false, verbose⟩ diagnostic) := by
  have location := Fades.join fun location (member : location ∈ diagnostic.location?.toList) =>
    fades_locationIn verbose (clean.location (Option.mem_toList.mp member))
  have notes := Fades.join fun note (member : note ∈ diagnostic.notes) =>
    fades_noteIn verbose (clean.notes note member)
  exact (location.append notes).append (.refl (by decide))

/-- **The rendering in color fades to the one without.** -/
theorem fades_render (verbose : Bool) (clean : diagnostic.IsClean) :
    Fades (diagnostic.render ⟨true, verbose⟩) (diagnostic.render ⟨false, verbose⟩) := by
  rw [render_eq, render_eq]
  refine (fades_headlineIn verbose clean).append ?_
  dsimp only
  split
  · exact fades_detailsIn verbose clean
  · exact .refl List.not_mem_nil

end Diagnostic

/-! ## Reports -/

/-- The line that counts the errors, in plain text. -/
def plainSummary : Nat → String
  | 0 => ""
  | 1 => "error: aborting due to previous error\n"
  | count => "error: aborting due to " ++ toString count ++ " previous errors\n"

theorem renderSummary_plain (verbose : Bool) (count : Nat) :
    renderSummary ⟨false, verbose⟩ count = plainSummary count := by
  rw [renderSummary]
  match count with
  | 0 => rfl
  | 1 => rfl
  | count + 2 =>
      have opening (text : String) : "error" ++ (": aborting due to " ++ text) =
          "error: aborting due to " ++ text := String.append_assoc.symm
      simp [RenderStyle.paint, plainSummary, String.append_assoc, opening]

theorem fades_renderSummary (verbose : Bool) (count : Nat) :
    Fades (renderSummary ⟨true, verbose⟩ count) (renderSummary ⟨false, verbose⟩ count) := by
  have number := Diagnostic.escape_notMem_number count
  rw [renderSummary, renderSummary]
  split
  · exact .refl List.not_mem_nil
  · refine (Fades.paint verbose .boldRed (by decide)).append ?_
    split
    · exact .refl (by decide)
    · have opening : Fades ": aborting due to " ": aborting due to " := .refl (by decide)
      exact (opening.append (.refl number)).append (.refl (by decide))

namespace Reporter

/-- Without color the diagnostics are rendered one by one, and they are counted. -/
theorem render_plain (reporter : Reporter) (verbose : Bool) :
    reporter.render ⟨false, verbose⟩ =
      String.join (reporter.diagnostics.toList.map fun diagnostic =>
        diagnostic.render ⟨false, verbose⟩) ++ plainSummary reporter.diagnostics.toList.length := by
  rw [render, renderSummary_plain, Array.length_toList]
  rfl

/-- **A report in color fades to the one without.** -/
theorem fades_render {reporter : Reporter}
    (clean : ∀ diagnostic ∈ reporter.diagnostics.toList, diagnostic.IsClean) (verbose : Bool) :
    Fades (reporter.render ⟨true, verbose⟩) (reporter.render ⟨false, verbose⟩) := by
  have diagnostics := Fades.join fun diagnostic member =>
    Diagnostic.fades_render verbose (clean diagnostic member)
  exact diagnostics.append (fades_renderSummary verbose reporter.count)

/-- A report in color shows it, unless there is nothing to report. -/
theorem escape_mem_render {reporter : Reporter} (some : reporter.diagnostics.toList ≠ [])
    (verbose : Bool) : escape ∈ (reporter.render ⟨true, verbose⟩).toList := by
  obtain ⟨first, later, split⟩ := List.exists_cons_of_ne_nil some
  rw [render, renderDiagnostics, split, List.map_cons, String.join_cons, Diagnostic.render_eq,
    Diagnostic.headlineIn]
  simp only [String.toList_append]
  -- the first thing written is the sequence in front of the severity
  have begins : escape ∈ (RenderStyle.paint ⟨true, verbose⟩ .boldRed Diagnostic.severity).toList := by
    decide +revert
  simp only [List.mem_append, begins, true_or]

end Reporter

/-- **The renderings of diagnostics agree.** Whatever was reported, and to whatever file, without color

* the verbose report is the plain form of each diagnostic and an empty line, in the order in which they
  were reported, and then the summary;
* the terse report is the headline of each, and the same summary.

Color is used always or, if that depends on the output, on a terminal. If no message, note or name has
the escape in it, deleting the control sequences of a report in color leaves the one without, and there
are none in a report just if it has no color or is empty. -/
theorem renderings_agree (file : Option String) (reported : List Diagnostic) (mode : ColorMode)
    (terminal verbose : Bool) :
    let reporter := (Reporter.empty file).reportAll reported
    let stored := reported.map (Diagnostic.under file)
    let output := reporter.render ⟨mode.usesColor terminal, verbose⟩
    let isColored := mode = .always ∨ mode = .auto ∧ terminal = true
    reporter.diagnostics.toList = stored ∧
    reporter.render ⟨false, true⟩ =
      String.join (stored.map fun diagnostic => diagnostic.display ++ "\n\n") ++
        plainSummary reported.length ∧
    reporter.render ⟨false, false⟩ =
      String.join (stored.map fun diagnostic =>
        "error[" ++ diagnostic.code.text ++ "]: " ++ diagnostic.message ++ "\n") ++
        plainSummary reported.length ∧
    (isColored → output = reporter.render ⟨true, verbose⟩) ∧
    (¬ isColored → output = reporter.render ⟨false, verbose⟩) ∧
    ((∀ diagnostic ∈ stored, diagnostic.IsClean) →
      withoutSequences (reporter.render ⟨true, verbose⟩) = reporter.render ⟨false, verbose⟩ ∧
      (escape ∈ output.toList ↔ isColored ∧ reported ≠ [])) := by
  intro reporter stored output isColored
  have reports : reporter.diagnostics.toList = stored :=
    (Reporter.reportAll_eq (.empty file) reported).2
  have number : stored.length = reported.length := List.length_map _
  have used : mode.usesColor terminal = true ↔ isColored := by
    cases mode <;> simp [ColorMode.usesColor, isColored]
  have inColor : isColored → output = reporter.render ⟨true, verbose⟩ := by
    intro colored
    rw [← used.mpr colored]
  have without : ¬ isColored → output = reporter.render ⟨false, verbose⟩ := by
    intro plain
    rw [← Bool.eq_false_iff.mpr (mt used.mp plain)]
  refine ⟨reports, ?_, ?_, inColor, without, ?_⟩
  · rw [Reporter.render_plain, reports, number, funext Diagnostic.render_verbose]
  · rw [Reporter.render_plain, reports, number, funext Diagnostic.render_terse]
  · intro clean
    have fades : Fades (reporter.render ⟨true, verbose⟩) (reporter.render ⟨false, verbose⟩) :=
      Reporter.fades_render (reports ▸ clean) verbose
    refine ⟨fades.withoutSequences_eq, ?_⟩
    constructor
    · intro shown
      have colored : isColored := by
        refine Classical.byContradiction fun plain => ?_
        rw [without plain] at shown
        exact fades.clean shown
      refine ⟨colored, ?_⟩
      -- nothing is written about nothing
      rintro rfl
      rw [inColor colored] at shown
      exact List.not_mem_nil shown
    · rintro ⟨colored, nonempty⟩
      rw [inColor colored]
      apply Reporter.escape_mem_render
      rw [reports]
      exact fun none => nonempty (List.map_eq_nil_iff.mp none)

/-- Two diagnostics, one of which knows its place and has a note. -/
theorem renderings_agree_calls :
    let reported : List Diagnostic :=
      [⟨.invalidTarget, "Cannot assign to read only expression", none, some ⟨7, 9⟩,
          ["the left side ends in a method call"]⟩,
        ⟨.unexpectedToken, "expected ;, found \x7d", none, none, []⟩]
    let reporter := (Reporter.empty (some "Calls.java")).reportAll reported
    (∀ diagnostic ∈ reported.map (Diagnostic.under (some "Calls.java")), diagnostic.IsClean) ∧
      withoutSequences (reporter.render ⟨ColorMode.auto.usesColor true, true⟩) =
        "error[E1004]: Cannot assign to read only expression\n  --> Calls.java:7:9\n" ++
          "  = note: the left side ends in a method call\n\n" ++
          "error[E1001]: expected ;, found \x7d\n  --> Calls.java\n\n" ++
          "error: aborting due to 2 previous errors\n" := by
  intro reported reporter
  have clean : ∀ diagnostic ∈ reported.map (Diagnostic.under (some "Calls.java")),
      diagnostic.IsClean := by
    simp only [reported, List.map_cons, List.map_nil, List.forall_mem_cons]
    refine ⟨⟨by decide, ?_, by decide⟩, ⟨by decide, ?_, by decide⟩, List.forall_mem_nil _⟩
    all_goals
      rintro _ ⟨⟩
      decide
  obtain ⟨-, -, -, colored, -, rest⟩ :=
    renderings_agree (some "Calls.java") reported .auto true true
  refine ⟨clean, ?_⟩
  rw [colored (.inr ⟨rfl, rfl⟩), (rest clean).1]
  decide +kernel

end MiniJ
