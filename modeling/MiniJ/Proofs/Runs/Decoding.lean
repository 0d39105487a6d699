import MiniJ.Proofs.Recognition.Streaming
import MiniJ.Proofs.Runs.Batch

/-!
# Bytes and text

The bytes of a file are read as a text before anything is scanned. If they are the bytes of a text,
scanning and checking them is scanning and checking that text, however often the scanner is asked. If
they are not, there is no scanner, and a run over the file leaves neither a token nor a report.

What a check reports is about its own input: every diagnostic has the name of the input and a position
(`parse_places`).

The main statement is `check_decoded`.
-/

set_option autoImplicit false

namespace MiniJ

/-! ## Bytes -/

/-- A file holds a text just if its bytes are those of the text. -/
theorem Entry.text_file_iff {content : ByteArray} {text : String} :
    (Entry.file content).text = .ok text ↔ text.toUTF8 = content := by
  rw [Entry.text, String.fromUTF8?]
  constructor
  · intro holds
    split at holds
    · rename_i decoded found
      split at found
      · cases found
        cases holds
        rfl
      · cases found
    · cases holds
  · rintro rfl
    have valid : text.toUTF8.IsValidUTF8 := text.isValidUTF8
    rw [dif_pos valid]
    rfl

/-- The only reason why bytes are no text is that they are not. -/
theorem Entry.text_file_error {content : ByteArray} {reason : String}
    (fails : (Entry.file content).text = .error reason) : reason = notText := by
  rw [Entry.text] at fails
  split at fails
  · cases fails
  · exact (Except.error.inj fails).symm

theorem Entry.text_file_eq_error_iff (content : ByteArray) :
    (Entry.file content).text = .error notText ↔ ¬ ∃ text : String, text.toUTF8 = content := by
  cases holds : (Entry.file content).text with
  | ok text =>
      constructor
      · rintro ⟨⟩
      · intro none
        exact absurd ⟨text, text_file_iff.mp holds⟩ none
  | error reason =>
      obtain rfl := text_file_error holds
      refine ⟨fun _ => ?_, fun _ => rfl⟩
      rintro ⟨text, bytes⟩
      cases holds.symm.trans (text_file_iff.mpr bytes)

/-- A source text is read from a file by way of its text. -/
theorem Entry.source_file (content : ByteArray) :
    (Entry.file content).source = (Entry.file content).text.map Source.ofString := by
  rw [source, Source.ofBytes?, text]
  cases String.fromUTF8? content <;> rfl

namespace Scanner

/-- The scanner of a text. -/
def ofText (dialect : Dialect) (text : String) : Scanner :=
  .start dialect (.ofString text)

/-- The scanner of bytes, which are all read first, or the reason why there is none. -/
def ofBytes (dialect : Dialect) (content : ByteArray) : Except String Scanner :=
  (Entry.file content).source.map (.start dialect)

/-- What a scanner answers when it is asked a number of times: the tokens, and with each the number
of reports so far. -/
def answers (reported : Nat) : Nat → Scanner → List (Token × Nat)
  | 0, _ => []
  | count + 1, scanner =>
    let reported := reported + scanner.scan.faults.length
    (scanner.scan.token, reported) :: answers reported count scanner.scan.next

/-- **Bytes are scanned as the text that they are.** -/
theorem ofBytes_eq (dialect : Dialect) (content : ByteArray) :
    ofBytes dialect content = (Entry.file content).text.map (ofText dialect) := by
  rw [ofBytes, Entry.source_file]
  cases (Entry.file content).text <;> rfl

end Scanner

/-! ## Reports -/

/-- That a diagnostic says where it belongs: in which input and where in it. -/
def Diagnostic.Places (name : String) (diagnostic : Diagnostic) : Prop :=
  diagnostic.file = some name ∧ ∃ position, diagnostic.position = some position

theorem LexicalFault.places (fault : LexicalFault) (name : String) :
    (fault.diagnostic.under (some name)).Places name :=
  ⟨rfl, fault.position, rfl⟩

theorem SyntaxError.places (error : SyntaxError) (name : String) :
    (error.diagnostic.under (some name)).Places name :=
  ⟨rfl, error.position, rfl⟩

/-- **Whatever a parse reports has the name of the input and a position.** -/
theorem parse_places {dialect : Dialect} {source : Source} {name : String} {diagnostic : Diagnostic}
    (reported : diagnostic ∈ (parse dialect source (some name)).reports) :
    diagnostic.Places name := by
  have lexical {faults : List LexicalFault}
      (member : diagnostic ∈ faults.map fun fault => fault.diagnostic.under (some name)) :
      diagnostic.Places name := by
    obtain ⟨fault, -, rfl⟩ := List.mem_map.mp member
    exact fault.places name
  rcases parse_reports dialect source (some name) with ⟨-, -, all⟩ | ⟨error, -, -, all⟩
  · rw [all] at reported
    exact lexical reported
  · rw [all] at reported
    rcases List.mem_append.mp reported with before | last
    · exact lexical before
    · obtain rfl := List.mem_singleton.mp last
      exact error.places name

/-! ## Runs over a file -/

/-- A run over a file that holds no text ends before anything is scanned or shown. -/
theorem run_undecodable (settings : Settings) (terminal : Bool) {path reason : String}
    {content : ByteArray} (unreadable : (Entry.file content).text = .error reason)
    (console : Console) :
    run settings terminal path (.found (.file content)) console =
      (.error (.unreadable path reason),
        ((console.note (.run 1 settings.dialect)).note (.fileByPath path)).note .fileDone) := by
  have work : Run.singleWork settings terminal ⟨path, path, .file content⟩ =
      ⟨.fileByPath path, [], some (.unreadable path reason), true⟩ := by
    rw [Run.singleWork, checkFile_eq, unreadable]
    rfl
  -- the path is that of one file, so the run has the work of this file and no line of its own
  have planned : run settings terminal path (.found (.file content)) console =
      (Run.planFiles settings terminal [⟨path, path, .file content⟩]).perform console := rfl
  rw [planned, Run.planFiles, work]
  rfl

/-- **Bytes are checked as the text that they are.** If the bytes of a file are no text, there is no
scanner of them and no check of the file, and a run over the file leaves its error, no output, and
neither a token nor a report in the trace. Otherwise the scanner of the bytes is that of the text: its
answers are the same, however often it is asked, and so are the numbers of reports behind them. The
check of the file is the check of the text under the path, and what it reports has the path and a
position. -/
theorem check_decoded (dialect : Dialect) (path : String) (content : ByteArray) :
    let opened := Scanner.ofBytes dialect content
    let checked := checkFile dialect path (.file content)
    (opened = .error Entry.notText ↔ ¬ ∃ text : String, text.toUTF8 = content) ∧
    ((¬ ∃ text : String, text.toUTF8 = content) →
      checked = .error Entry.notText ∧
      ∀ settings terminal console,
        run settings terminal path (.found (.file content)) console =
          (.error (.unreadable path Entry.notText),
            ((console.note (.run 1 settings.dialect)).note (.fileByPath path)).note .fileDone)) ∧
    ∀ text : String, text.toUTF8 = content →
      opened = .ok (.ofText dialect text) ∧
      (∀ count, opened.map (Scanner.answers 0 count) =
        .ok ((Scanner.ofText dialect text).answers 0 count)) ∧
      ∃ parse, checked = .ok parse ∧
        parse.reports = (checkText dialect path text).reports ∧
        ∀ diagnostic ∈ parse.reports, diagnostic.file = some path ∧
          ∃ position, diagnostic.position = some position := by
  intro opened checked
  have opened_eq : opened = (Entry.file content).text.map (Scanner.ofText dialect) :=
    Scanner.ofBytes_eq dialect content
  have checked_eq : checked = (Entry.file content).text.map (checkText dialect path) :=
    checkFile_eq dialect path _
  refine ⟨?_, ?_, ?_⟩
  · rw [← Entry.text_file_eq_error_iff, opened_eq]
    cases (Entry.file content).text <;> simp [Except.map]
  · intro none
    have fails := (Entry.text_file_eq_error_iff content).mpr none
    refine ⟨?_, fun settings terminal => run_undecodable settings terminal fails⟩
    rw [checked_eq, fails]
    rfl
  · intro text bytes
    have holds := Entry.text_file_iff.mpr bytes
    rw [opened_eq, checked_eq, holds]
    exact ⟨rfl, fun _ => rfl, _, rfl, rfl, fun _ => parse_places⟩

/-- A text with a mark in front, a character of two bytes and a NUL, and bytes that are no text. -/
theorem check_decoded_mark :
    "\ufeffé\x00".toUTF8 = ⟨#[0xef, 0xbb, 0xbf, 0xc3, 0xa9, 0]⟩ ∧
      (Scanner.ofBytes .mini ⟨#[0xef, 0xbb, 0xbf, 0xc3, 0xa9, 0]⟩).map (Scanner.answers 0 3) =
        .ok [(⟨.ident, "é", ⟨1, 2⟩⟩, 1), (.endAt ⟨1, 4⟩, 2), (.endAt ⟨1, 4⟩, 2)] ∧
      (¬ ∃ text : String, text.toUTF8 = ⟨#[0xc3]⟩) ∧
      checkFile .mini "a" (.file ⟨#[0xc3]⟩) = .error Entry.notText := by
  have bytes : "\ufeffé\x00".toUTF8 = ⟨#[0xef, 0xbb, 0xbf, 0xc3, 0xa9, 0]⟩ := by decide
  have cut : ¬ ∃ text : String, text.toUTF8 = ⟨#[0xc3]⟩ := by
    have none : String.fromUTF8? ⟨#[0xc3]⟩ = none := by decide +kernel
    rw [← Entry.text_file_eq_error_iff, Entry.text, none]
  obtain ⟨-, -, decoded⟩ :=
    check_decoded .mini "a" ⟨#[0xef, 0xbb, 0xbf, 0xc3, 0xa9, 0]⟩
  obtain ⟨-, undecoded, -⟩ := check_decoded .mini "a" ⟨#[0xc3]⟩
  refine ⟨bytes, ?_, cut, (undecoded cut).1⟩
  rw [(decoded _ bytes).2.1]
  exact congrArg Except.ok (by decide +kernel)

end MiniJ
