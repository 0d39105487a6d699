import Mathlib.Data.List.Chain
import MiniJ.Proofs.Scanning.Tiling
import MiniJ.Proofs.Scanning.Walk

/-!
# The end of scanning

A scanner can be asked for tokens for ever. `RunsOut` says what the answers are: first some scans,
each with a token that takes up characters, then one scan that gives the end, and from then on the
same end again and again, without a report and without a change of the scanner. Three errors end the
input early. Such an error is reported by the scan that gives the end, as the last one of all.

The main statement is `lex_ends_once`. It holds for every text, since characters are never taken for
the end of the text, NUL included.
-/

set_option autoImplicit false

namespace MiniJ

/-- That no report but perhaps the last is about an error that ends the input. -/
def EndsAtLast (faults : List LexicalFault) : Prop :=
  ∀ fault ∈ faults.dropLast, fault.error.endsInput = false

/-- That a scanner of a text gives these scans, then the end, and the end for ever after. -/
structure RunsOut (source : Source) (scanner : Scanner) (before : List Scan) (last : Scan) :
    Prop where
  /-- However often one asks. -/
  asked : ∀ more : Nat, scanner.scanTimes (before.length + 1 + more) =
    before ++ last :: List.replicate more ⟨last.token, [], last.next⟩
  /-- No scan before the last gives the end. -/
  goesOn : ∀ scan ∈ before, scan.token.kind ≠ .eot
  /-- Each of them moves the scanner forward. -/
  advances : List.IsChain (· < ·)
    (scanner.cursor.offset :: before.map fun scan => scan.next.cursor.offset)
  /-- None of them leaves the text. -/
  inside : ∀ scan ∈ before, scan.next.cursor.At source
  /-- The last gives the end, which stands where the scanner does. -/
  ends : last.token = .endAt last.next.cursor.position
  /-- No scan before the last reports that the input ends. -/
  quiet : ∀ scan ∈ before, ∀ fault ∈ scan.faults, fault.error.endsInput = false
  /-- In the last only the last report does. -/
  silent : EndsAtLast last.faults

theorem EndsAtLast.cons {fault : LexicalFault} {faults : List LexicalFault}
    (quiet : fault.error.endsInput = false) (silent : EndsAtLast faults) :
    EndsAtLast (fault :: faults) := by
  intro other member
  cases faults with
  | nil => cases member
  | cons next faults =>
      rw [List.dropLast_cons_cons] at member
      rcases List.mem_cons.mp member with rfl | later
      · exact quiet
      · exact silent other later

/-- At most one report is the last one. -/
theorem endsAtLast_of_dropLast {faults : List LexicalFault} (none : faults.dropLast = []) :
    EndsAtLast faults := by
  intro fault member
  rw [none] at member
  exact absurd member List.not_mem_nil

theorem endsAtLast_of_quiet {faults : List LexicalFault}
    (quiet : ∀ fault ∈ faults, fault.error.endsInput = false) : EndsAtLast faults :=
  fun fault member => quiet fault (List.dropLast_subset _ member)

theorem EndsAtLast.prepend {own faults : List LexicalFault}
    (quiet : ∀ fault ∈ own, fault.error.endsInput = false) (silent : EndsAtLast faults) :
    EndsAtLast (own ++ faults) := by
  induction own with
  | nil => exact silent
  | cons fault own ih =>
      apply EndsAtLast.cons
      · exact quiet fault List.mem_cons_self
      · exact ih fun other later => quiet other (List.mem_cons_of_mem _ later)

/-- Nothing is reported behind an error that ends the input. -/
theorem EndsAtLast.eq_nil {earlier later : List LexicalFault} {fault : LexicalFault}
    (silent : EndsAtLast (earlier ++ fault :: later)) (cuts : fault.error.endsInput = true) :
    later = [] := by
  cases later with
  | nil => rfl
  | cons next later =>
      have early : fault ∈ (earlier ++ fault :: next :: later).dropLast := by
        rw [List.dropLast_append_of_ne_nil (by simp), List.dropLast_cons_cons]
        exact List.mem_append_right _ List.mem_cons_self
      rw [silent fault early] at cuts
      cases cuts

/-- A report of an error that ends the input is the last one of the last scan. -/
theorem RunsOut.last_of_cuts {source : Source} {scanner : Scanner} {before : List Scan}
    {last : Scan} {earlier later : List LexicalFault} {fault : LexicalFault}
    (runs : RunsOut source scanner before last)
    (split : (before ++ [last]).flatMap Scan.faults = earlier ++ fault :: later)
    (cuts : fault.error.endsInput = true) :
    later = [] ∧ last.faults.getLast? = some fault := by
  have quiet : ∀ other ∈ before.flatMap Scan.faults, other.error.endsInput = false := by
    intro other member
    obtain ⟨scan, within, reported⟩ := List.mem_flatMap.mp member
    exact runs.quiet scan within other reported
  rw [List.flatMap_append, List.flatMap_singleton] at split
  obtain rfl : later = [] := by
    have silent := runs.silent.prepend quiet
    rw [split] at silent
    exact silent.eq_nil cuts
  refine ⟨rfl, ?_⟩
  have ending := congrArg List.getLast? split
  rw [List.getLast?_append, List.getLast?_append] at ending
  cases given : last.faults.getLast? with
  | some other =>
      rw [given] at ending
      exact ending
  | none =>
      -- without a report in the last scan the error would come from one before
      rw [given] at ending
      have early : fault ∈ before.flatMap Scan.faults := List.mem_of_getLast? ending
      rw [quiet fault early] at cuts
      cases cuts

namespace Scanner

/-! ## One scan -/

/-- A finished scanner gives the end, whenever it is asked, and stays as it is. -/
theorem scanTimes_of_finished {scanner : Scanner} (finished : scanner.finished = true)
    (count : Nat) :
    scanner.scanTimes count =
      List.replicate count ⟨.endAt scanner.cursor.position, [], scanner⟩ := by
  have same : scanner.scan = ⟨.endAt scanner.cursor.position, [], scanner⟩ := by
    rw [Scanner.scan, if_pos finished]
  induction count with
  | zero => rfl
  | succ count ih => rw [scanTimes, same, ih, List.replicate_succ]

/-- **How a scan ends.** With the end in view the scanner is finished where it stands; without it
nothing was reported that ends the input. Such a report is the last of its scan in any case. -/
theorem scanFrom_ends (dialect : Dialect) (cursor : SourceCursor) :
    let scan := scanFrom dialect cursor
    (scan.token.kind = .eot →
      scan.token = .endAt scan.next.cursor.position ∧ scan.next.finished = true) ∧
    (scan.token.kind ≠ .eot → ∀ fault ∈ scan.faults, fault.error.endsInput = false) ∧
    EndsAtLast scan.faults := by
  fun_induction scanFrom dialect cursor with
  | case1 cursor here found =>
      exact ⟨fun _ => ⟨rfl, rfl⟩, fun more => absurd rfl more, endsAtLast_of_dropLast rfl⟩
  | case2 cursor here length found ih => exact ih
  | case3 cursor here c found scan ih =>
      -- a stray character is reported in front and ends nothing
      obtain ⟨ends, goesOn, silent⟩ := ih
      have silentHere : EndsAtLast (⟨.invalidCharacter c, here.position⟩ :: scan.faults) :=
        silent.cons rfl
      refine ⟨ends, ?_, silentHere⟩
      intro more fault member
      rcases List.mem_cons.mp member with rfl | later
      · rfl
      · exact goesOn more fault later
  | case4 cursor here kind length error found behind =>
      obtain ⟨-, -, present, -, quiet⟩ := found ▸ Front.of_describes dialect here.rest
      have goesOn : ∀ fault ∈ lexemeFaults length error here, fault.error.endsInput = false := by
        intro fault member
        obtain ⟨e, wrong, rfl⟩ := List.mem_map.mp member
        exact quiet e (Option.mem_toList.mp wrong)
      exact ⟨fun finished => absurd finished present, fun _ => goesOn, endsAtLast_of_quiet goesOn⟩
  | case5 cursor here length error found behind =>
      exact ⟨fun _ => ⟨rfl, rfl⟩, fun more => absurd rfl more, endsAtLast_of_dropLast rfl⟩

/-! ## All scans -/

/-- The answer that gives the end, and all answers behind it. -/
theorem runsOut_of_end {source : Source} {scanner : Scanner} (open_ : scanner.finished = false)
    (ended : scanner.scan.token.kind = .eot) : RunsOut source scanner [] scanner.scan := by
  obtain ⟨ends, -, silent⟩ := scanFrom_ends scanner.dialect scanner.cursor
  rw [← scan_of_open open_] at ends silent
  obtain ⟨place, finished⟩ := ends ended
  constructor
  case asked =>
    intro more
    rw [List.length_nil, Nat.zero_add, Nat.add_comm, scanTimes, scanTimes_of_finished finished,
      ← place]
    rfl
  case advances => exact List.isChain_singleton _
  case ends => exact place
  case silent => exact silent
  case goesOn | inside | quiet =>
    -- no scan stands before the end
    intro scan member
    exact absurd member List.not_mem_nil

/-- An answer that does not give the end goes in front of those behind it. -/
theorem runsOut_of_more {source : Source} {scanner : Scanner} {before : List Scan} {last : Scan}
    (stands : scanner.cursor.At source) (open_ : scanner.finished = false)
    (more : scanner.scan.token.kind ≠ .eot)
    (runs : RunsOut source scanner.scan.next before last) :
    RunsOut source scanner (scanner.scan :: before) last := by
  have there := (scanFrom_covers scanner.dialect stands).2
  obtain ⟨-, goesOn, -⟩ := scanFrom_ends scanner.dialect scanner.cursor
  rw [← scan_of_open open_] at there goesOn
  obtain ⟨-, -, next, -⟩ := there more
  -- A scan that does not give the end takes at least one character.
  have forward : scanner.cursor.offset < scanner.scan.next.cursor.offset :=
    stands.offset_lt next (rest_lt_of_scan more)
  constructor
  case asked =>
    intro count
    have split : (scanner.scan :: before).length + 1 + count =
        before.length + 1 + count + 1 := by
      rw [List.length_cons]
      omega
    rw [split, scanTimes, runs.asked, List.cons_append]
  case goesOn =>
    intro scan member
    rcases List.mem_cons.mp member with rfl | later
    · exact more
    · exact runs.goesOn scan later
  case advances =>
    rw [List.map_cons, List.isChain_cons_cons]
    exact ⟨forward, runs.advances⟩
  case inside =>
    intro scan member
    rcases List.mem_cons.mp member with rfl | later
    · exact next
    · exact runs.inside scan later
  case ends => exact runs.ends
  case quiet =>
    intro scan member
    rcases List.mem_cons.mp member with rfl | later
    · exact goesOn more
    · exact runs.quiet scan later
  case silent => exact runs.silent

/-- **A scanner runs out.** Its scans are the answers up to and with the first end. -/
theorem runsOut {source : Source} (scanner : Scanner) (stands : scanner.cursor.At source)
    (open_ : scanner.finished = false) :
    ∃ before last, scanner.scans = before ++ [last] ∧ RunsOut source scanner before last := by
  induction scanner using scans_induction with
  | finished scanner h => exact ⟨[], scanner.scan, scans_of_end h, runsOut_of_end open_ h⟩
  | more scanner h ih =>
      have there := (scanFrom_covers scanner.dialect stands).2
      rw [← scan_of_open open_] at there
      obtain ⟨-, openNext, next, -⟩ := there h
      obtain ⟨before, last, scans, runs⟩ := ih next openNext
      refine ⟨scanner.scan :: before, last, ?_, runsOut_of_more stands open_ h runs⟩
      rw [scans_of_more h, scans, List.cons_append]

end Scanner

/-- **Scanning ends once, and for good.** The tokens of a text are those of finitely many scans, of
which only the last gives the end. Each scan before it takes up characters, so there is at most one
token for each character and the end. Whoever asks on gets the same end, no report and no change. A
report of an error that ends the input is the last of all, and the scan of the end gives it. -/
theorem lex_ends_once (dialect : Dialect) (source : Source) :
    ∃ before last, RunsOut source (.start dialect source) before last ∧
      (lex dialect source).tokens = (before ++ [last]).map Scan.token ∧
      (lex dialect source).faults = (before ++ [last]).flatMap Scan.faults ∧
      (lex dialect source).tokens.length ≤ source.size + 1 ∧
      ∀ earlier fault later, (lex dialect source).faults = earlier ++ fault :: later →
        fault.error.code.text ∈ ["E0002", "E0007", "E0008"] →
          later = [] ∧ last.faults.getLast? = some fault := by
  obtain ⟨before, last, scans, runs⟩ := Scanner.runsOut (.start dialect source)
    (SourceCursor.at_start source) rfl
  have tokens : (lex dialect source).tokens = (before ++ [last]).map Scan.token :=
    congrArg (List.map Scan.token) scans
  have faults : (lex dialect source).faults = (before ++ [last]).flatMap Scan.faults :=
    congrArg (List.flatMap Scan.faults) scans
  refine ⟨before, last, runs, tokens, faults, ?_, ?_⟩
  · have few := (Scanner.start dialect source).length_words_le
    rw [tokens_lex, List.length_append, words_lex]
    exact Nat.succ_le_succ few
  · intro earlier fault later split cuts
    exact runs.last_of_cuts (faults.symm.trans split) (fault.error.endsInput_iff.mpr cuts)

end MiniJ
