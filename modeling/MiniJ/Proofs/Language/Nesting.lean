import MiniJ.Proofs.Language.Grammar

/-!
# Nested brackets

`Nesting` follows the brackets of a token list and counts the semicolons outside of all of them.
What it says behind a part of the grammar is told in advance from the parts alone: `Forecast.behind`
goes through an expression as `Nesting.behind` goes through a word, and each phrase is taken at its
word (`Phrase.semicolons?`), which the table of rules confirms (`forecast_rule`). So the brackets of
every phrase are balanced, and most phrases have a fixed number of semicolons outside of them
(`balanced_of_derives`).
-/

set_option autoImplicit false

namespace MiniJ

open Ebnf MiniJ.Language

/-! ## Token lists -/

/-- The kind that closes what a kind opens. -/
def TokenKind.closer? : TokenKind → Option TokenKind
  | .lParen => some .rParen
  | .lBracket => some .rBracket
  | .lBrace => some .rBrace
  | _ => none

/-- Whether a kind closes a bracket. -/
def TokenKind.isCloser : TokenKind → Bool
  | .rParen | .rBracket | .rBrace => true
  | _ => false

/-- The brackets that are open, the innermost first and each by the kind that closes it, and the
number of semicolons so far that stood outside of all brackets. -/
structure Nesting where
  awaited : List TokenKind
  semicolons : Nat
  deriving DecidableEq

namespace Nesting

/-- Where nothing was read. -/
def start : Nesting := ⟨[], 0⟩

/-- The nesting behind one more token, if that does not close what is not open. -/
def after (kind : TokenKind) (nesting : Nesting) : Option Nesting :=
  match kind.closer? with
  | some closer => some ⟨closer :: nesting.awaited, nesting.semicolons⟩
  | none =>
    if kind.isCloser then
      match nesting.awaited with
      | [] => none
      | closer :: outer => if kind = closer then some ⟨outer, nesting.semicolons⟩ else none
    else if kind = .semicolon ∧ nesting.awaited = [] then
      some ⟨nesting.awaited, nesting.semicolons + 1⟩
    else some nesting

/-- The nesting behind more tokens, if there was one before them. -/
def behind (tokens : List Token) (found : Option Nesting) : Option Nesting :=
  tokens.foldl (fun found token => found.bind (after token.kind)) found

@[simp] theorem behind_nil (found : Option Nesting) : behind [] found = found := rfl

@[simp] theorem behind_cons (token : Token) (tokens : List Token) (found : Option Nesting) :
    behind (token :: tokens) found = behind tokens (found.bind (after token.kind)) := rfl

theorem behind_append (one other : List Token) (found : Option Nesting) :
    behind (one ++ other) found = behind other (behind one found) :=
  List.foldl_append

@[simp] theorem behind_none (tokens : List Token) : behind tokens none = none := by
  induction tokens with
  | nil => rfl
  | cons token tokens ih => exact ih

/-- What a token of a kind does to a nesting. -/
inductive Moves (kind : TokenKind) : Nesting → Nesting → Prop
  | opens {closer : TokenKind} {awaited : List TokenKind} {number : Nat} :
      kind.closer? = some closer → Moves kind ⟨awaited, number⟩ ⟨closer :: awaited, number⟩
  | closes {outer : List TokenKind} {number : Nat} :
      kind.closer? = none → kind.isCloser = true →
        Moves kind ⟨kind :: outer, number⟩ ⟨outer, number⟩
  /-- A semicolon outside of all brackets. -/
  | counts {number : Nat} : kind = .semicolon → Moves kind ⟨[], number⟩ ⟨[], number + 1⟩
  | stays {nesting : Nesting} : kind.closer? = none → kind.isCloser = false →
      (kind = .semicolon → nesting.awaited ≠ []) → Moves kind nesting nesting

theorem after_eq_some_iff {kind : TokenKind} {nesting next : Nesting} :
    nesting.after kind = some next ↔ Moves kind nesting next := by
  constructor
  · intro reads
    obtain ⟨awaited, number⟩ := nesting
    simp only [after] at reads
    split at reads
    · rename_i closer opens
      cases reads
      exact .opens opens
    · rename_i noOpening
      split at reads
      · rename_i isCloser
        cases awaited with
        | nil => cases reads
        | cons closer outer =>
            simp only at reads
            split at reads
            · rename_i same
              cases reads
              subst same
              exact .closes noOpening isCloser
            · cases reads
      · rename_i noCloser
        split at reads
        · rename_i isCounted
          obtain ⟨isSemicolon, rfl⟩ := isCounted
          cases reads
          exact .counts isSemicolon
        · rename_i uncounted
          cases reads
          refine .stays noOpening (Bool.not_eq_true _ ▸ noCloser) ?_
          intro isSemicolon outside
          exact uncounted ⟨isSemicolon, outside⟩
  · intro moves
    cases moves with
    | opens opens => simp [after, opens]
    | closes noOpening isCloser => simp [after, noOpening, isCloser]
    | counts isSemicolon => simp [after, isSemicolon, TokenKind.closer?, TokenKind.isCloser]
    | stays noOpening noCloser uncounted =>
        simp only [after, noOpening, noCloser, Bool.false_eq_true, if_false]
        exact if_neg fun counted => uncounted counted.1 counted.2

variable {kind : TokenKind} {tokens : List Token} {awaited left : List TokenKind}
  {before number : Nat}

/-- Semicolons that were counted before are counted still. -/
theorem after_more (more : Nat) (reads : after kind ⟨awaited, before⟩ = some ⟨left, number⟩) :
    after kind ⟨awaited, more + before⟩ = some ⟨left, more + number⟩ := by
  rw [after_eq_some_iff] at reads ⊢
  cases reads with
  | opens opens => exact .opens opens
  | closes noOpening isCloser => exact .closes noOpening isCloser
  | counts isSemicolon => exact .counts isSemicolon
  | stays noOpening noCloser uncounted => exact .stays noOpening noCloser uncounted

/-- Inside of one more bracket none are counted. -/
theorem after_inside (closer : TokenKind) (outer : List TokenKind) (count : Nat)
    (reads : after kind ⟨awaited, before⟩ = some ⟨left, number⟩) :
    after kind ⟨awaited ++ closer :: outer, count⟩ = some ⟨left ++ closer :: outer, count⟩ := by
  rw [after_eq_some_iff] at reads ⊢
  cases reads with
  | opens opens => exact .opens opens
  | closes noOpening isCloser => exact .closes noOpening isCloser
  | counts isSemicolon =>
      subst isSemicolon
      exact .stays rfl rfl (by simp)
  | stays noOpening noCloser _ => exact .stays noOpening noCloser (by simp)

/-- What is kept by every token is kept by more of them. -/
theorem behind_image {f : Nesting → Nesting}
    (keeps : ∀ {kind : TokenKind} {here next : Nesting}, after kind here = some next →
      after kind (f here) = some (f next))
    {nesting next : Nesting} (reads : behind tokens (some nesting) = some next) :
    behind tokens (some (f nesting)) = some (f next) := by
  induction tokens generalizing nesting with
  | nil =>
      cases reads
      rfl
  | cons token tokens ih =>
      rw [behind_cons, Option.bind_some] at reads ⊢
      cases first : after token.kind nesting with
      | none => simp [first] at reads
      | some further =>
          rw [first] at reads
          rw [keeps first]
          exact ih reads

theorem behind_more (more : Nat)
    (reads : behind tokens (some ⟨awaited, before⟩) = some ⟨left, number⟩) :
    behind tokens (some ⟨awaited, more + before⟩) = some ⟨left, more + number⟩ :=
  behind_image (f := fun nesting => ⟨nesting.awaited, more + nesting.semicolons⟩)
    (after_more more) reads

theorem behind_inside (closer : TokenKind) (outer : List TokenKind) (count : Nat)
    (reads : behind tokens (some ⟨awaited, before⟩) = some ⟨left, number⟩) :
    behind tokens (some ⟨awaited ++ closer :: outer, count⟩) =
      some ⟨left ++ closer :: outer, count⟩ :=
  behind_image (f := fun nesting => ⟨nesting.awaited ++ closer :: outer, count⟩)
    (after_inside closer outer count) reads

end Nesting

/-- The number of semicolons outside of all brackets, if the brackets are balanced. -/
def semicolonsOutside? (tokens : List Token) : Option Nat :=
  match Nesting.behind tokens (some .start) with
  | some ⟨[], number⟩ => some number
  | _ => none

/-! ## Forecasts -/

/-- What is known of a nesting in advance. -/
inductive Forecast where
  /-- Nothing is read up to here. -/
  | never
  | unknown
  /-- The open brackets are known, and perhaps the number of semicolons. -/
  | known (awaited : List TokenKind) (semicolons : Option Nat)
  deriving DecidableEq

namespace Forecast

/-- Whether a forecast fits what was found. -/
def Fits : Forecast → Option Nesting → Prop
  | never, _ => False
  | unknown, _ => True
  | known awaited semicolons, found =>
    ∃ number, found = some ⟨awaited, number⟩ ∧ ∀ count ∈ semicolons, number = count

/-- What two forecasts have in common. -/
def join : Forecast → Forecast → Forecast
  | never, other => other
  | one, never => one
  | known awaited one, known others other =>
    if awaited = others then known awaited (if one = other then one else none) else unknown
  | _, _ => unknown

/-- Without the number of semicolons. -/
def vague : Forecast → Forecast
  | known awaited _ => known awaited none
  | other => other

/-- Behind a token of a kind. -/
def letter (kind : TokenKind) : Forecast → Forecast
  | known awaited semicolons =>
    match Nesting.after kind ⟨awaited, semicolons.getD 0⟩ with
    | some next => known next.awaited (semicolons.map fun _ => next.semicolons)
    | none => unknown
  | other => other

/-- Behind balanced brackets with so many semicolons outside, if that is known. -/
def phrase (semicolons : Option Nat) : Forecast → Forecast
  | known [] before => known [] (before.bind fun number => semicolons.map (number + ·))
  | other => other

variable {forecast other : Forecast} {found : Option Nesting}

theorem Fits.join_left (fits : forecast.Fits found) : (forecast.join other).Fits found := by
  cases forecast with
  | never => exact fits.elim
  | unknown => cases other <;> trivial
  | known awaited one =>
      cases other with
      | never => exact fits
      | unknown => trivial
      | known others two =>
          obtain ⟨number, same, counts⟩ := fits
          rw [join]
          split
          · refine ⟨number, same, ?_⟩
            split
            · exact counts
            · simp
          · trivial

theorem join_comm (forecast other : Forecast) : forecast.join other = other.join forecast := by
  cases forecast <;> cases other <;> simp only [join]
  grind

theorem Fits.join_right (fits : forecast.Fits found) : (other.join forecast).Fits found := by
  rw [join_comm]
  exact fits.join_left

theorem Fits.vague (fits : forecast.Fits found) : forecast.vague.Fits found := by
  cases forecast with
  | never | unknown => exact fits
  | known awaited semicolons =>
      obtain ⟨number, same, -⟩ := fits
      exact ⟨number, same, by simp⟩

theorem Fits.letter (kind : TokenKind) (fits : forecast.Fits found) :
    (forecast.letter kind).Fits (found.bind (Nesting.after kind)) := by
  cases forecast with
  | never | unknown => exact fits
  | known awaited semicolons =>
      obtain ⟨number, rfl, counts⟩ := fits
      rw [Forecast.letter]
      cases reads : Nesting.after kind ⟨awaited, semicolons.getD 0⟩ with
      | none => trivial
      | some next =>
          cases semicolons with
          | some count =>
              cases counts count rfl
              exact ⟨next.semicolons, reads, by simp⟩
          | none => exact ⟨number + next.semicolons, Nesting.after_more number reads, by simp⟩

theorem Fits.phrase {semicolons : Option Nat} {tokens : List Token}
    (balanced : (known [] semicolons).Fits (Nesting.behind tokens (some .start)))
    (fits : forecast.Fits found) :
    (forecast.phrase semicolons).Fits (Nesting.behind tokens found) := by
  obtain ⟨own, reads, counts⟩ := balanced
  cases forecast with
  | never | unknown => exact fits
  | known awaited before =>
      obtain ⟨number, rfl, counted⟩ := fits
      cases awaited with
      | nil =>
          refine ⟨number + own, Nesting.behind_more number reads, ?_⟩
          intro count member
          simp only [Option.mem_def, Option.bind_eq_some_iff, Option.map_eq_some_iff] at member
          obtain ⟨one, first, two, second, rfl⟩ := member
          rw [counted one first, counts two second]
      | cons closer outer =>
          exact ⟨number, Nesting.behind_inside closer outer number reads, counted⟩

end Forecast

/-- The kinds that a terminal stands for. -/
def Sign.kinds : Sign → List TokenKind
  | .kind expected => [expected]
  | .anyOf kinds => kinds
  | .star => [.binaryOp]

theorem Sign.Admits.mem_kinds {sign : Sign} {token : Token} (admits : sign.Admits token) :
    token.kind ∈ sign.kinds := by
  cases sign with
  | kind expected => exact List.mem_singleton.mpr admits
  | anyOf kinds => exact admits
  | star => exact List.mem_singleton.mpr admits.1

namespace Forecast

/-- The forecast behind a token of one of several kinds. -/
def oneOf (kinds : List TokenKind) (forecast : Forecast) : Forecast :=
  kinds.foldr (fun kind others => (forecast.letter kind).join others) never

/-- The forecast behind a part of a rule, when it is known how many semicolons each phrase has
outside of its brackets. -/
def behind (semicolons? : Phrase → Option Nat) : Part → Forecast → Forecast
  | .terminal sign, forecast => forecast.oneOf sign.kinds
  | .nonterminal name, forecast => forecast.phrase (semicolons? name)
  | .empty, forecast => forecast
  | .never, _ => never
  | .sequence first second, forecast => behind semicolons? second (behind semicolons? first forecast)
  | .choice one other, forecast =>
    (behind semicolons? one forecast).join (behind semicolons? other forecast)
  | .many body, forecast =>
    if behind semicolons? body forecast = forecast then forecast
    else if behind semicolons? body forecast.vague = forecast.vague then forecast.vague
    else unknown
  | .notBefore _ body, forecast => behind semicolons? body forecast

variable {forecast : Forecast} {found : Option Nesting}

theorem Fits.oneOf {kinds : List TokenKind} {kind : TokenKind} (among : kind ∈ kinds)
    (fits : forecast.Fits found) :
    (forecast.oneOf kinds).Fits (found.bind (Nesting.after kind)) := by
  induction kinds with
  | nil => exact absurd among List.not_mem_nil
  | cons first others ih =>
      rcases List.mem_cons.mp among with rfl | later
      · exact (fits.letter kind).join_left
      · exact (ih later).join_right

end Forecast

/-! ## The grammar -/

/-- The number of semicolons of a phrase outside of its brackets, where it is fixed. -/
def Phrase.semicolons? : Phrase → Option Nat
  | program | classDeclaration | member | statement | forLoop => none
  | simple => some 1
  | _ => some 0

/-- The table confirms the numbers. -/
theorem forecast_rule (dialect : Dialect) (name : Phrase) :
    ((Forecast.known [] (some 0)).behind Phrase.semicolons? (rule dialect name)).join
        (.known [] name.semicolons?) = .known [] name.semicolons? := by
  cases dialect <;> cases name <;> decide

/-- That brackets are balanced, with so many semicolons outside of them, if that is said. -/
def Balanced (semicolons : Option Nat) (read : List Token) : Prop :=
  (Forecast.known [] semicolons).Fits (Nesting.behind read (some .start))

theorem Balanced.semicolonsOutside {number : Nat} {read : List Token}
    (balanced : Balanced (some number) read) : semicolonsOutside? read = some number := by
  obtain ⟨count, reads, counts⟩ := balanced
  rw [semicolonsOutside?, reads, counts number rfl]

section Parts

variable {dialect : Dialect} {part : Part} {ts us : List Token}

/-- **What is read for a part fits its forecast**, if what is read for a phrase is balanced. The
induction is on the part. -/
theorem forecast_of_reads
    (reads : part.Reads Sign.Admits
      (fun name ts us => ∃ read, ts = read ++ us ∧ Balanced name.semicolons? read) ts us) :
    ∃ read, ts = read ++ us ∧ ∀ {forecast : Forecast} {found : Option Nesting},
      forecast.Fits found →
        (forecast.behind Phrase.semicolons? part).Fits (Nesting.behind read found) := by
  induction part generalizing ts us with
  | terminal sign =>
      obtain ⟨token, admits, rfl⟩ := reads
      exact ⟨[token], rfl, fun fits => fits.oneOf admits.mem_kinds⟩
  | nonterminal name =>
      obtain ⟨read, split, balanced⟩ := reads
      exact ⟨read, split, Forecast.Fits.phrase balanced⟩
  | empty => exact ⟨[], reads, fun fits => fits⟩
  | never => exact reads.elim
  | sequence first second ihFirst ihSecond =>
      obtain ⟨vs, before, behind⟩ := reads
      obtain ⟨one, rfl, fitsFirst⟩ := ihFirst before
      obtain ⟨two, rfl, fitsSecond⟩ := ihSecond behind
      refine ⟨one ++ two, (List.append_assoc _ _ _).symm, fun fits => ?_⟩
      rw [Nesting.behind_append]
      exact fitsSecond (fitsFirst fits)
  | choice one other ihOne ihOther =>
      rcases reads with first | second
      · obtain ⟨read, split, fitsOne⟩ := ihOne first
        exact ⟨read, split, fun fits => (fitsOne fits).join_left⟩
      · obtain ⟨read, split, fitsOther⟩ := ihOther second
        exact ⟨read, split, fun fits => (fitsOther fits).join_right⟩
  | many body ih =>
      -- a forecast that the body does not change holds behind every number of bodies
      have stays : ∃ read, ts = read ++ us ∧ ∀ {forecast : Forecast} {found : Option Nesting},
          forecast.behind Phrase.semicolons? body = forecast → forecast.Fits found →
            forecast.Fits (Nesting.behind read found) := by
        induction reads using Relation.ReflTransGen.head_induction_on with
        | refl => exact ⟨[], rfl, fun _ fits => fits⟩
        | head once _ more =>
            obtain ⟨one, rfl, fitsBody⟩ := ih once
            obtain ⟨others, rfl, fitsMore⟩ := more
            refine ⟨one ++ others, (List.append_assoc _ _ _).symm, fun same fits => ?_⟩
            rw [Nesting.behind_append]
            have first := fitsBody fits
            rw [same] at first
            exact fitsMore same first
      obtain ⟨read, split, fits⟩ := stays
      refine ⟨read, split, fun {forecast found} here => ?_⟩
      rw [Forecast.behind]
      split
      · rename_i same
        exact fits same here
      split
      · rename_i same
        exact fits same here.vague
      · trivial
  | notBefore excluded body ih =>
      obtain ⟨read, split, fitsBody⟩ := ih reads.1
      exact ⟨read, split, fitsBody⟩

/-- **The brackets of every phrase are balanced.** -/
theorem forecast_of_derives (derives : Derives dialect part ts us) :
    ∃ read, ts = read ++ us ∧ ∀ {forecast : Forecast} {found : Option Nesting},
      forecast.Fits found →
        (forecast.behind Phrase.semicolons? part).Fits (Nesting.behind read found) := by
  refine forecast_of_reads (Ebnf.Derives.least ?_ derives)
  intro name ts us reads
  obtain ⟨read, split, fits⟩ := forecast_of_reads reads
  refine ⟨read, split, ?_⟩
  have start : (Forecast.known [] (some 0)).Fits (some .start) := ⟨0, rfl, by simp⟩
  rw [Balanced, ← forecast_rule dialect name]
  exact (fits start).join_left

/-- A word of a part whose forecast is that its brackets are balanced. -/
theorem balanced_of_derives {semicolons : Option Nat} (derives : Derives dialect part ts [])
    (forecast : (Forecast.known [] (some 0)).behind Phrase.semicolons? part =
      .known [] semicolons) : Balanced semicolons ts := by
  obtain ⟨read, split, fits⟩ := forecast_of_derives derives
  have start : (Forecast.known [] (some 0)).Fits (some .start) := ⟨0, rfl, by simp⟩
  rw [split, List.append_nil, Balanced, ← forecast]
  exact fits start

end Parts

end MiniJ
