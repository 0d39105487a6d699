import MiniJ.Proofs.Recognition.Progress

/-!
# Recognition does not see the layout

The positions of tokens serve messages only. `Token.moved` puts a token somewhere else, and so do
the functions of that name for whatever holds tokens or positions. Expansion commutes with them
(`Symbol.expand_moved`): what becomes of moved symbols in front of a moved token is what became of
the symbols, moved. So a run in front of moved tokens is the run in front of the tokens, with the
position of its error moved (`runOn_moved`).

Two texts with the same kinds and texts of tokens are both the tokens of one list, moved. The main
statement is `parse_sees_lexemes`.
-/

set_option autoImplicit false

namespace MiniJ

/-! ## Moved tokens -/

/-- A token at another position. -/
def Token.moved (f : Position → Position) (token : Token) : Token :=
  { token with position := f token.position }

namespace Token

variable (f : Position → Position) (token : Token)

@[simp] theorem kind_moved : (token.moved f).kind = token.kind := rfl

@[simp] theorem text_moved : (token.moved f).text = token.text := rfl

@[simp] theorem position_moved : (token.moved f).position = f token.position := rfl

@[simp] theorem description_moved : (token.moved f).description = token.description := rfl

end Token

/-- The trace entries of the grammar, about moved tokens. -/
def Event.moved (f : Position → Position) : Event → Event
  | classNamed name => classNamed (name.moved f)
  | methodNamed name => methodNamed (name.moved f)
  | event => event

def Purpose.moved (f : Position → Position) : Purpose → Purpose
  | operand first => operand (first.moved f)
  | update operator => update (operator.moved f)
  | purpose => purpose

/-- A symbol that remembers moved tokens. -/
def Symbol.moved (f : Position → Position) : Symbol → Symbol
  | announce event => announce (event.moved f)
  | reference purpose => reference (purpose.moved f)
  | suffixes purpose soFar last => suffixes (purpose.moved f) soFar last
  | insideBrackets purpose soFar => insideBrackets (purpose.moved f) soFar
  | classified purpose result => classified (purpose.moved f) result
  | memberEnd isVoid first several => memberEnd isVoid (first.moved f) several
  | symbol => symbol

def Violation.moved (f : Position → Position) : Violation → Violation
  | expected what found => expected what (found.moved f)
  | unexpected place found => unexpected place (found.moved f)
  | nameAfterReference found => nameAfterReference (found.moved f)
  | bracketsAfterReference found => bracketsAfterReference (found.moved f)
  | indexAfterType found => indexAfterType (found.moved f)
  | assignmentToType operator => assignmentToType (operator.moved f)
  | updateOfType operator => updateOfType (operator.moved f)
  | unusedValue found => unusedValue (found.moved f)
  | typeAsValue first => typeAsValue (first.moved f)
  | violation => violation

/-- A syntax error about moved tokens, at a moved position. -/
def SyntaxError.moved (f : Position → Position) (error : SyntaxError) : SyntaxError :=
  { error with violation := error.violation.moved f, position := f error.position }

def Expansion.moved (f : Position → Position) : Expansion → Expansion
  | replace symbols => replace (symbols.map (Symbol.moved f))
  | consume symbols => consume (symbols.map (Symbol.moved f))
  | announce event => announce (event.moved f)
  | reject error => reject (error.moved f)

def Verdict.moved (f : Position → Position) : Verdict → Verdict
  | rejected error => rejected (error.moved f)
  | verdict => verdict

section Errors

variable (f : Position → Position)

@[simp] theorem Violation.code_moved (violation : Violation) :
    (violation.moved f).code = violation.code := by
  cases violation <;> rfl

@[simp] theorem Violation.message_moved (violation : Violation) :
    (violation.moved f).message = violation.message := by
  cases violation <;> rfl

@[simp] theorem Violation.hints_moved (violation : Violation) :
    (violation.moved f).hints = violation.hints := by
  cases violation <;> rfl

@[simp] theorem SyntaxError.code_moved (error : SyntaxError) :
    (error.moved f).code = error.code :=
  Violation.code_moved f error.violation

@[simp] theorem SyntaxError.message_moved (error : SyntaxError) :
    (error.moved f).message = error.message :=
  Violation.message_moved f error.violation

@[simp] theorem SyntaxError.located_moved (violation : Violation) (place : Token) :
    (located violation place).moved f = located (violation.moved f) (place.moved f) := by
  simp [moved, located]

@[simp] theorem SyntaxError.expectedKinds_moved (kinds : List TokenKind) (found : Token) :
    (expectedKinds kinds found).moved f = expectedKinds kinds (found.moved f) :=
  located_moved f _ found

@[simp] theorem SyntaxError.unexpected_moved (place : String) (found : Token) :
    (unexpected place found).moved f = unexpected place (found.moved f) :=
  located_moved f _ found

end Errors

/-! ## Expansion -/

namespace Expansion

variable (f : Position → Position)

@[simp] theorem moved_replace (symbols : List Symbol) :
    (replace symbols).moved f = replace (symbols.map (Symbol.moved f)) := rfl

@[simp] theorem moved_consume (symbols : List Symbol) :
    (consume symbols).moved f = consume (symbols.map (Symbol.moved f)) := rfl

@[simp] theorem moved_announce (event : Event) :
    (announce event).moved f = announce (event.moved f) := rfl

@[simp] theorem moved_reject (error : SyntaxError) :
    (reject error).moved f = reject (error.moved f) := rfl

end Expansion

/-- What follows a statement remembers no token. -/
@[simp] theorem Grammar.map_moved_afterStatement (f : Position → Position) (place : Place) :
    (afterStatement place).map (Symbol.moved f) = afterStatement place := by
  cases place <;> rfl

theorem Grammar.map_moved_classify (f : Position → Position) (purpose : Purpose)
    (result : Classification) :
    (classify purpose result).map (Symbol.moved f) = classify (purpose.moved f) result :=
  rfl

open Grammar MiniJ.Symbol in
/-- **Expansion commutes with moving.** -/
theorem Symbol.expand_moved (dialect : Dialect) (f : Position → Position) (current : Token)
    (symbol : Symbol) :
    (symbol.moved f).expand dialect (current.moved f) =
      (symbol.expand dialect current).moved f := by
  obtain ⟨kind, text, position⟩ := current
  change (symbol.moved f).expand dialect ⟨kind, text, f position⟩ = _
  -- No test looks at a position, so both sides take the same branch; what is moved are the tokens
  -- that errors and events carry.
  cases symbol with
  | classified purpose result =>
      simp only [Symbol.moved, expand, expandClassified, assign, standAlone]
      cases purpose
      all_goals dsimp only [Purpose.moved]
      all_goals repeat' split
      all_goals first | rfl | simp_all [Symbol.moved]
  | reference purpose =>
      simp only [Symbol.moved, expand, expandReference]
      split
      all_goals
        simp [apply_ite (Expansion.moved f), Symbol.moved, Token.moved, map_moved_classify]
  | suffixes purpose soFar last =>
      simp only [Symbol.moved, expand, expandSuffixes]
      split
      all_goals
        simp [apply_ite (Expansion.moved f), apply_ite (List.map (Symbol.moved f)), Symbol.moved,
          Violation.moved, Token.moved, map_moved_classify]
  | type brackets =>
      simp only [Symbol.moved, expand, expandType]
      split
      all_goals simp [apply_ite (Expansion.moved f), Symbol.moved, Token.moved]
  | statementBody place =>
      simp only [Symbol.moved, expand, expandStatementBody]
      split
      all_goals simp [Symbol.moved, Purpose.moved, condition]
  | memberEnd isVoid first several =>
      simp only [Symbol.moved, expand, expandMemberEnd]
      by_cases further : kind = .comma
      · simp [further, Symbol.moved]
      · simp only [further, ↓reduceIte]
        split
        · simp [Violation.moved]
        · split
          all_goals
            simp [apply_ite (Expansion.moved f), Symbol.moved, Event.moved, Violation.moved,
              Token.moved]
  | program | classes =>
      simp only [Symbol.moved, expand, wholeProgram, classDeclaration]
      cases dialect <;> simp [apply_ite (Expansion.moved f), Symbol.moved, Dialect.isExtended]
  | _ =>
      simp [expand, expandTypeSuffixes, expandInsideBrackets, expandExpression,
        expandExpressionEnd, expandConstructorArguments, expandDeclarationEnd, expandForUpdate,
        expandTryEnd, expandImportName, Grammar.optional, map_moved_classify,
        apply_ite (Expansion.moved f), apply_ite (List.map (Symbol.moved f)), Symbol.moved,
        Event.moved, Purpose.moved, Violation.moved, Token.moved]

/-! ## Runs in front of token lists -/

theorem frontOf_moved (f : Position → Position) (stop : Token) (tokens : List Token) :
    frontOf (stop.moved f) (tokens.map (Token.moved f)) = (frontOf stop tokens).moved f := by
  cases tokens <;> rfl

/-- No construct is told from another by positions. -/
theorem innermost?_moved (f : Position → Position) (agenda : List Symbol) :
    innermost? (agenda.map (Symbol.moved f)) = innermost? agenda := by
  induction agenda with
  | nil => rfl
  | cons symbol agenda ih =>
      rw [List.map_cons]
      cases symbol with
      | close construct => rfl
      | _ => exact ih

theorem SyntaxError.before_moved (f : Position → Position) (error : SyntaxError)
    (agenda : List Symbol) :
    (error.moved f).before (agenda.map (Symbol.moved f)) = (error.before agenda).moved f := by
  rw [before, before, innermost?_moved]
  cases innermost? agenda <;> rfl

/-- Work on an agenda in front of a list of tokens, with `stop` behind the last of them, for a
bounded number of steps. What is left of the list comes with the verdict. -/
def runOn (dialect : Dialect) (stop : Token) :
    Nat → List Symbol → List Token → Verdict × List Token
  | 0, _, tokens => (.unfinished, tokens)
  | _ + 1, [], tokens => (.accepted, tokens)
  | bound + 1, symbol :: pending, tokens =>
    match symbol.expand dialect (frontOf stop tokens) with
    | .replace symbols => runOn dialect stop bound (symbols ++ pending) tokens
    | .consume symbols => runOn dialect stop bound (symbols ++ pending) tokens.tail
    | .announce _ => runOn dialect stop bound pending tokens
    | .reject error => (.rejected (error.before pending), tokens)

/-- **A run in front of moved tokens is the run, moved.** The induction is on the bound; the
expansion of each step commutes with moving. -/
theorem runOn_moved (dialect : Dialect) (f : Position → Position) (stop : Token) (bound : Nat)
    (agenda : List Symbol) (tokens : List Token) :
    runOn dialect (stop.moved f) bound (agenda.map (Symbol.moved f))
        (tokens.map (Token.moved f)) =
      ((runOn dialect stop bound agenda tokens).1.moved f,
        (runOn dialect stop bound agenda tokens).2.map (Token.moved f)) := by
  induction bound generalizing agenda tokens with
  | zero => rfl
  | succ bound ih =>
      cases agenda with
      | nil => rfl
      | cons symbol pending =>
          rw [List.map_cons, runOn, runOn, frontOf_moved, Symbol.expand_moved]
          cases symbol.expand dialect (frontOf stop tokens) with
          | replace symbols =>
              simp only [Expansion.moved_replace]
              rw [← List.map_append]
              exact ih _ _
          | consume symbols =>
              simp only [Expansion.moved_consume]
              rw [← List.map_append, ← List.map_tail]
              exact ih _ _
          | announce event => exact ih _ _
          | reject error =>
              simp only [Expansion.moved_reject, SyntaxError.before_moved]
              rfl

/-- A whole program remembers no token before it is expanded. -/
theorem runOn_program_moved (dialect : Dialect) (f : Position → Position) (stop : Token)
    (bound : Nat) (tokens : List Token) :
    runOn dialect (stop.moved f) bound [.program] (tokens.map (Token.moved f)) =
      ((runOn dialect stop bound [.program] tokens).1.moved f,
        (runOn dialect stop bound [.program] tokens).2.map (Token.moved f)) :=
  runOn_moved dialect f stop bound [.program] tokens

/-- **An error is located at one of the tokens.** Otherwise its position could be moved without
moving any token, and the run would end with another error. -/
theorem position_of_runOn {dialect : Dialect} {stop : Token} {bound : Nat}
    {tokens left : List Token} {error : SyntaxError}
    (ends : runOn dialect stop bound [.program] tokens = (.rejected error, left)) :
    ∃ token ∈ tokens ++ [stop], error.position = token.position := by
  apply Decidable.byContradiction
  intro nowhere
  let apart : Position → Position := fun position =>
    if position = error.position then ⟨position.line + 1, position.column⟩ else position
  have stays : ∀ token ∈ tokens ++ [stop], token.moved apart = token := by
    intro token member
    have other : token.position ≠ error.position := fun same =>
      nowhere ⟨token, member, same.symm⟩
    simp [Token.moved, apart, other]
  have same : tokens.map (Token.moved apart) = tokens :=
    calc tokens.map (Token.moved apart)
      _ = tokens.map id :=
          List.map_congr_left fun token member => stays token (List.mem_append_left _ member)
      _ = tokens := List.map_id tokens
  have moved := runOn_program_moved dialect apart stop bound tokens
  rw [same, stays stop (List.mem_append_right _ List.mem_cons_self), ends,
    Prod.mk.injEq] at moved
  have position := congrArg SyntaxError.position (Verdict.rejected.inj moved.1)
  have line := congrArg Position.line position
  simp [SyntaxError.moved, apart] at line

/-! ## Runs in front of cursors -/

namespace TokenCursor

variable {cursor : TokenCursor}

/-- The token for the end behind those ahead. -/
def last (cursor : TokenCursor) : Token :=
  if cursor.current.kind = .eot then cursor.current else cursor.scanner.stop

theorem last_advance (more : cursor.current.kind ≠ .eot) : cursor.advance.last = cursor.last := by
  have behind : cursor.last = cursor.scanner.stop := if_neg more
  rw [behind]
  by_cases finished : cursor.scanner.scan.token.kind = .eot
  · rw [Scanner.stop_of_end finished]
    exact if_pos finished
  · rw [Scanner.stop_of_more finished]
    exact if_neg finished

theorem last_opening (dialect : Dialect) (source : Source) (file : Option String) :
    (opening dialect source file).last = (Scanner.start dialect source).stop := by
  by_cases finished : (Scanner.start dialect source).scan.token.kind = .eot
  · rw [Scanner.stop_of_end finished]
    exact if_pos finished
  · rw [Scanner.stop_of_more finished]
    exact if_neg finished

/-- The token in view is the first of those ahead. -/
theorem current_eq_front (cursor : TokenCursor) :
    cursor.current = frontOf cursor.last cursor.ahead := by
  by_cases finished : cursor.current.kind = .eot
  · rw [ahead_of_end finished, frontOf_nil]
    exact (if_pos finished).symm
  · rw [ahead_of_more finished, frontOf_cons]

end TokenCursor

section Runs

variable {dialect : Dialect}

/-- **A run is the run in front of the tokens ahead.** -/
theorem run_eq_runOn {bound : Nat} {agenda : List Symbol} {cursor : TokenCursor}
    (guarded : ∀ symbol ∈ agenda, symbol.isGuarded = true) :
    let outcome := Recognizer.run bound ⟨dialect, agenda, cursor⟩
    runOn dialect cursor.last bound agenda cursor.ahead = (outcome.1, outcome.2.ahead) ∧
      Onward cursor outcome.2 := by
  induction bound generalizing agenda cursor with
  | zero => exact ⟨rfl, Nat.le_refl _, rfl⟩
  | succ bound ih =>
      cases agenda with
      | nil => exact ⟨rfl, Nat.le_refl _, rfl⟩
      | cons symbol pending =>
          have proper := symbol.expand_proper dialect cursor.current
          have own := guarded symbol List.mem_cons_self
          have rest : ∀ other ∈ pending, other.isGuarded = true :=
            fun other member => guarded other (List.mem_cons_of_mem _ member)
          simp only [Recognizer.run, Recognizer.step, runOn]
          rw [← cursor.current_eq_front]
          cases expands : symbol.expand dialect cursor.current with
          | replace symbols =>
              rw [expands] at proper
              exact ih (Recognizer.guarded_append guarded (proper own))
          | consume symbols =>
              -- The end is never consumed, so the cursor has a token to step over.
              rw [expands] at proper
              obtain ⟨more, inner⟩ := proper own
              obtain ⟨same, onward⟩ :=
                @ih _ cursor.advance (Recognizer.guarded_append guarded inner)
              rw [TokenCursor.last_advance more] at same
              rw [TokenCursor.ahead_of_more more, List.tail_cons]
              exact ⟨same, (onward_advance more).trans onward⟩
          | announce event => exact @ih _ (cursor.announce event) rest
          | reject error => exact ⟨rfl, Nat.le_refl _, rfl⟩

/-- The tokens of a text decide the verdict and how many of them are consumed. -/
theorem parse_of_runOn {source : Source} {file : Option String} {bound : Nat}
    {verdict : Verdict} {left : List Token}
    (enough : Recognizer.stepBound source.size ≤ bound)
    (ends : runOn dialect (Scanner.start dialect source).stop bound [.program]
      (lex dialect source).words = (verdict, left)) :
    (parse dialect source file).verdict = verdict ∧
      (parse dialect source file).cursor.consumed + left.length =
        (lex dialect source).words.length := by
  have guarded : ∀ symbol ∈ [Symbol.program], symbol.isGuarded = true := by decide
  obtain ⟨same, -, count⟩ :=
    @run_eq_runOn dialect bound _ (.opening dialect source file) guarded
  rw [TokenCursor.last_opening, TokenCursor.ahead_opening, ends, Prod.mk.injEq] at same
  obtain ⟨rfl, rfl⟩ := same
  have begins : (TokenCursor.opening dialect source file).consumed = 0 := rfl
  rw [begins, Nat.zero_add, TokenCursor.ahead_opening] at count
  rw [parse_eq_run enough file]
  refine ⟨rfl, ?_⟩
  rw [(conclude_eq _ _).2.1]
  exact count

end Runs

/-! ## Texts with the same tokens -/

/-- A list of kinds and texts as tokens, with their numbers for positions. -/
def numbered (lexemes : List (TokenKind × String)) : List Token :=
  lexemes.mapIdx fun index lexeme => ⟨lexeme.1, lexeme.2, ⟨index, 0⟩⟩

/-- The position of the token with a given number. -/
def positionIn (tokens : List Token) (number : Position) : Position :=
  (tokens[number.line]?.map Token.position).getD .start

/-- Every list of tokens is the numbered list of their kinds and texts, moved. -/
theorem map_moved_numbered (tokens : List Token) :
    (numbered (tokens.map Token.lexeme)).map (Token.moved (positionIn tokens)) = tokens := by
  apply List.ext_getElem
  · simp [numbered]
  · intro index _ inside
    simp [numbered, Token.moved, Token.lexeme, positionIn, inside]

/-- Two texts with the same kinds and texts of tokens have the tokens of one list, moved. -/
theorem exists_common_tokens {dialect : Dialect} {first second : Source}
    (same : (lex dialect first).lexemes = (lex dialect second).lexemes) :
    ∃ (words : List Token) (stop : Token) (f g : Position → Position),
      (lex dialect first).words = words.map (Token.moved f) ∧
      (Scanner.start dialect first).stop = stop.moved f ∧
      (lex dialect second).words = words.map (Token.moved g) ∧
      (Scanner.start dialect second).stop = stop.moved g := by
  have one := map_moved_numbered (lex dialect first).tokens
  have two := map_moved_numbered (lex dialect second).tokens
  rw [← Lexed.lexemes, ← same] at two
  rw [← Lexed.lexemes] at one
  generalize numbered (lex dialect first).lexemes = tokens at one two
  generalize positionIn (lex dialect first).tokens = f at one
  generalize positionIn (lex dialect second).tokens = g at two
  rw [tokens_lex] at one two
  obtain ⟨words, last, rfl, words₁, last₁⟩ := List.map_eq_append_iff.mp one
  obtain ⟨stop, rfl, stop₁⟩ := List.map_eq_singleton_iff.mp last₁
  rw [List.map_append] at two
  obtain ⟨words₂, last₂⟩ := List.append_inj' two rfl
  exact ⟨words, stop, f, g, words₁.symm, stop₁.symm, words₂.symm,
    (List.singleton_inj.mp last₂).symm⟩

/-- **Recognition sees only kinds and texts.** Two texts whose tokens agree in kind and text are
both accepted, or both rejected for the same violation in the same construct after the same number
of tokens, located in each text at the token with the same number. -/
theorem parse_sees_lexemes (dialect : Dialect) (first second : Source)
    (file other : Option String)
    (same : (lex dialect first).lexemes = (lex dialect second).lexemes) :
    (parse dialect first file).cursor.consumed = (parse dialect second other).cursor.consumed ∧
    (((parse dialect first file).verdict = .accepted ∧
        (parse dialect second other).verdict = .accepted) ∨
      ∃ (error error' : SyntaxError) (index : Nat) (token token' : Token),
        (parse dialect first file).verdict = .rejected error ∧
        (parse dialect second other).verdict = .rejected error' ∧
        error.code = error'.code ∧ error.message = error'.message ∧
        error.construct = error'.construct ∧ error.hints = error'.hints ∧
        (lex dialect first).tokens[index]? = some token ∧ error.position = token.position ∧
        (lex dialect second).tokens[index]? = some token' ∧
        error'.position = token'.position) := by
  obtain ⟨words, stop, f, g, words₁, stop₁, words₂, stop₂⟩ := exists_common_tokens same
  let bound := max (Recognizer.stepBound first.size) (Recognizer.stepBound second.size)
  -- both runs are the run in front of the common list, moved
  have run₁ := runOn_program_moved dialect f stop bound words
  have run₂ := runOn_program_moved dialect g stop bound words
  cases ends : runOn dialect stop bound [.program] words with
  | mk verdict left =>
      rw [ends, ← stop₁, ← words₁] at run₁
      rw [ends, ← stop₂, ← words₂] at run₂
      obtain ⟨verdict₁, count₁⟩ := @parse_of_runOn _ _ file _ _ _ (Nat.le_max_left _ _) run₁
      obtain ⟨verdict₂, count₂⟩ := @parse_of_runOn _ _ other _ _ _ (Nat.le_max_right _ _) run₂
      rw [words₁, List.length_map, List.length_map] at count₁
      rw [words₂, List.length_map, List.length_map] at count₂
      refine ⟨by omega, ?_⟩
      rw [verdict₁, verdict₂]
      have settled := verdict_ne_unfinished dialect first file
      rw [verdict₁] at settled
      cases verdict with
      | accepted => exact .inl ⟨rfl, rfl⟩
      | unfinished => exact absurd rfl settled
      | rejected error =>
          -- the token of the common list where the error is
          obtain ⟨token, member, position⟩ := position_of_runOn ends
          obtain ⟨index, there⟩ := List.mem_iff_getElem?.mp member
          have tokens₁ : (lex dialect first).tokens = (words ++ [stop]).map (Token.moved f) := by
            rw [tokens_lex, words₁, stop₁, List.map_append, List.map_singleton]
          have tokens₂ : (lex dialect second).tokens = (words ++ [stop]).map (Token.moved g) := by
            rw [tokens_lex, words₂, stop₂, List.map_append, List.map_singleton]
          refine .inr ⟨error.moved f, error.moved g, index, token.moved f, token.moved g, rfl,
            rfl, ?_, ?_, rfl, rfl, ?_, congrArg f position, ?_, congrArg g position⟩
          · rw [SyntaxError.code_moved, SyntaxError.code_moved]
          · rw [SyntaxError.message_moved, SyntaxError.message_moved]
          · rw [tokens₁, List.getElem?_map, there, Option.map_some]
          · rw [tokens₂, List.getElem?_map, there, Option.map_some]

/-- A class without a body, and the same with a comment, a stray character and a line end. -/
theorem parse_sees_lexemes_bodiless :
    let first := Source.ofString "class A int"
    let second := Source.ofString "class/**/A#\nint"
    (lex .mini first).lexemes = (lex .mini second).lexemes ∧
      (parse .mini first none).cursor.consumed = (parse .mini second none).cursor.consumed ∧
      (((parse .mini first none).verdict = .accepted ∧
          (parse .mini second none).verdict = .accepted) ∨
        ∃ (error error' : SyntaxError) (index : Nat) (token token' : Token),
          (parse .mini first none).verdict = .rejected error ∧
          (parse .mini second none).verdict = .rejected error' ∧
          error.code = error'.code ∧ error.message = error'.message ∧
          error.construct = error'.construct ∧ error.hints = error'.hints ∧
          (lex .mini first).tokens[index]? = some token ∧ error.position = token.position ∧
          (lex .mini second).tokens[index]? = some token' ∧
          error'.position = token'.position) := by
  have same : (lex .mini (Source.ofString "class A int")).lexemes =
      (lex .mini (Source.ofString "class/**/A#\nint")).lexemes := by
    decide +kernel
  exact ⟨same, parse_sees_lexemes .mini _ _ none none same⟩

end MiniJ
