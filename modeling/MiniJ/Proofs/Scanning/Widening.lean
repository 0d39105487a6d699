import MiniJ.Proofs.Scanning.Dialects
import MiniJ.Proofs.Scanning.Offset
import MiniJ.Proofs.Scanning.Walk

/-!
# One text in both dialects

A text is scanned in the extended dialect as it is in the mini dialect, with the same texts, the same
positions and the same faults, and with the same kinds but for names that are spelled like a further
reserved word. Two things in the text can make a difference, and both show in the mini dialect: an
underscore or a dollar sign that is reported as stray, because it begins a word in the extended
dialect, and a dot before another, because only the extended dialect looks at the second.

The main statement is `lex_widened`. Unlike `Scanner.scans_extended`, which runs next to each other
two scanners of texts that may differ in front, it is about one cursor: both dialects find fronts of
the same length behind it, whatever is reported on the way.
-/

set_option autoImplicit false

namespace MiniJ

/-- What a token of the mini dialect is in the extended dialect. -/
def Token.widened (token : Token) : Token :=
  { token with kind := token.kind.widened token.text }

/-- What a text scanned in the mini dialect is in the extended dialect. -/
def Lexed.widened (lexed : Lexed) : Lexed :=
  ⟨lexed.tokens.map Token.widened, lexed.faults⟩

/-- That no dot among the tokens of a text stands before another dot of the text. -/
def DotsAlone (source : Source) (tokens : List Token) : Prop :=
  ∀ token ∈ tokens, token.kind = .dot →
    ∀ offset < source.size, token.position = source.positionAt offset →
      source.chars[offset + 1]? ≠ some '.'

/-- That neither an underscore nor a dollar sign is among the stray characters that are reported. -/
def SharesWordStarts (faults : List LexicalFault) : Prop :=
  ∀ fault ∈ faults, fault.error ≠ .invalidCharacter '_' ∧ fault.error ≠ .invalidCharacter '$'

instance (source : Source) (tokens : List Token) : Decidable (DotsAlone source tokens) :=
  inferInstanceAs (Decidable (∀ token ∈ tokens, token.kind = .dot →
    ∀ offset < source.size, token.position = source.positionAt offset →
      source.chars[offset + 1]? ≠ some '.'))

instance (faults : List LexicalFault) : Decidable (SharesWordStarts faults) :=
  inferInstanceAs (Decidable (∀ fault ∈ faults,
    fault.error ≠ .invalidCharacter '_' ∧ fault.error ≠ .invalidCharacter '$'))

theorem SharesWordStarts.tail {own faults : List LexicalFault}
    (shares : SharesWordStarts (own ++ faults)) : SharesWordStarts faults :=
  fun fault member => shares fault (List.mem_append_right own member)

theorem DotsAlone.tail {source : Source} {own tokens : List Token}
    (alone : DotsAlone source (own ++ tokens)) : DotsAlone source tokens :=
  fun token member => alone token (List.mem_append_right own member)

theorem Lexed.widened_prepend (tokens : List Token) (faults : List LexicalFault) (lexed : Lexed) :
    (lexed.prepend tokens faults).widened =
      lexed.widened.prepend (tokens.map Token.widened) faults := by
  rw [Lexed.prepend, Lexed.widened, List.map_append]
  rfl

namespace Scanner

open SourceCursor

variable {source : Source}

/-- The character behind a dot where a cursor stands. -/
theorem next_ne_dot {here : SourceCursor} {tokens : List Token} (stands : here.At source)
    (found : Front.of .mini here.rest = .lexeme .dot 1 none)
    (alone : DotsAlone source (lexemeToken .dot 1 here :: tokens)) :
    (here.rest.drop 1).head? ≠ some '.' := by
  have inside : here.offset < source.size := by
    have more : here.rest ≠ [] := by
      intro isOver
      rw [isOver] at found
      cases found
    have positive := List.length_pos_iff.mpr more
    have total := stands.offset_add
    omega
  have next := alone _ List.mem_cons_self rfl here.offset inside stands.position
  rwa [stands.rest, List.drop_drop, List.head?_drop]

/-- **Scanning goes on alike in both dialects.** The induction is on the fronts that the mini dialect
finds; each has the same length in the extended dialect. -/
theorem lexFrom_widened (cursor : SourceCursor) (stands : cursor.At source)
    (shares : SharesWordStarts (lexFrom .mini cursor).faults)
    (alone : DotsAlone source (lexFrom .mini cursor).tokens) :
    lexFrom .extended cursor = (lexFrom .mini cursor).widened := by
  induction cursor using walk_induction .mini with
  | finish cursor found =>
      rw [lexFrom_of_finish found, lexFrom_of_finish (Front.of_widened_eq found nofun nofun)]
      rfl
  | comment cursor length found ih =>
      rw [lexFrom_of_comment found] at shares alone ⊢
      rw [lexFrom_of_comment (Front.of_widened_eq found nofun nofun)]
      exact ih ((stands.advanceWhile _).advanceBy length) shares alone
  | stray cursor c found ih =>
      rw [lexFrom_of_stray found] at shares alone ⊢
      obtain ⟨noScore, noDollar⟩ := shares _ List.mem_cons_self
      have starts : ∀ d, Front.stray c = .stray d → d ≠ '_' ∧ d ≠ '$' := by
        rintro d ⟨⟩
        constructor
        · rintro rfl
          exact noScore rfl
        · rintro rfl
          exact noDollar rfl
      rw [lexFrom_of_stray (Front.of_widened_eq found starts nofun), Lexed.widened_prepend,
        ih (stands.advanceWhile _).advance shares.tail alone.tail]
      rfl
  | lexeme cursor kind length error found ih =>
      have there := stands.advanceWhile Text.isBlank
      obtain ⟨-, -, present, -⟩ := found ▸ Front.of_describes .mini _
      rw [lexFrom_of_lexeme found present] at shares alone ⊢
      have wide := Front.of_widened_eq found nofun (by
        rintro ⟨⟩
        exact next_ne_dot there found alone)
      -- the kind may differ, and the length does not
      obtain ⟨-, -, presentThere, -⟩ := wide ▸ Front.of_describes .extended _
      rw [lexFrom_of_lexeme wide presentThere, Lexed.widened_prepend,
        ih (there.advanceBy length) shares.tail alone.tail]
      rfl
  | breakOff cursor length error found =>
      rw [lexFrom_of_breakOff found, lexFrom_of_breakOff (Front.of_widened_eq found nofun nofun)]
      rfl

end Scanner

/-- **The dialects differ in words only.** If the mini dialect neither reports an underscore or a
dollar sign as stray nor has a dot before another one, the extended dialect finds the same tokens with
the same texts at the same positions and reports the same. The kinds are the same, too, but for names
that are spelled like a word that only the extended dialect reserves: these are keywords there. -/
theorem lex_widened (source : Source)
    (shares : SharesWordStarts (lex .mini source).faults)
    (alone : DotsAlone source (lex .mini source).tokens) :
    (lex .extended source).tokens = (lex .mini source).tokens.map Token.widened ∧
      (lex .extended source).faults = (lex .mini source).faults := by
  rw [lex_eq_lexFrom] at shares alone
  have same := Scanner.lexFrom_widened _ (SourceCursor.at_start source) shares alone
  rw [lex_eq_lexFrom, lex_eq_lexFrom, same]
  exact ⟨rfl, rfl⟩

/-- A name that is a keyword in the extended dialect, a stray character and a dot between names. -/
theorem lex_widened_keyword :
    SharesWordStarts (lex .mini (.ofString "do # x.y")).faults ∧
      DotsAlone (.ofString "do # x.y") (lex .mini (.ofString "do # x.y")).tokens ∧
      (lex .extended (.ofString "do # x.y")).tokens =
        (lex .mini (.ofString "do # x.y")).tokens.map Token.widened ∧
      (lex .extended (.ofString "do # x.y")).faults =
        (lex .mini (.ofString "do # x.y")).faults :=
  ⟨by decide +kernel, by decide +kernel,
    lex_widened (.ofString "do # x.y") (by decide +kernel) (by decide +kernel)⟩

end MiniJ
