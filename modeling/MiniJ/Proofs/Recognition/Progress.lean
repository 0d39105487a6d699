import MiniJ.Proofs.Recognition.Descent

/-!
# Recursive descent makes progress

A call of a symbol either consumes a token before it calls further symbols, or it calls symbols of
a lower rank (`Symbol.rank`); a call that comes behind a sibling which took a token comes behind
that token. So the tokens ahead and the rank together fall from call to call
(`Makes.descends`), no call comes back to its own production at the same token, and the nesting is
no deeper than four calls for each token (`descend_ne_tooDeep`).

Some symbols are worked off with a token only (`Symbol.takesToken`). At the end of the text there
is none, so there a call of such a symbol fails where it stands: a loop that waits for its closing
token does not go round.

The main statement is `parse_descends`.
-/

set_option autoImplicit false

namespace MiniJ

/-! ## Tokens ahead -/

namespace TokenCursor

variable {cursor : TokenCursor}

/-- The tokens from the one in view on, up to the end. -/
def ahead (cursor : TokenCursor) : List Token :=
  if cursor.current.kind = .eot then [] else cursor.current :: cursor.scanner.words

theorem ahead_of_end (finished : cursor.current.kind = .eot) : cursor.ahead = [] :=
  if_pos finished

theorem ahead_advance (cursor : TokenCursor) : cursor.advance.ahead = cursor.scanner.words := by
  by_cases finished : cursor.scanner.scan.token.kind = .eot
  · rw [Scanner.words_of_end finished]
    exact ahead_of_end finished
  · rw [Scanner.words_of_more finished]
    exact if_neg finished

theorem ahead_of_more (more : cursor.current.kind ≠ .eot) :
    cursor.ahead = cursor.current :: cursor.advance.ahead := by
  rw [ahead_advance]
  exact if_neg more

/-- All tokens of a text are ahead when recognition begins. -/
theorem ahead_opening (dialect : Dialect) (source : Source) (file : Option String) :
    (opening dialect source file).ahead = (lex dialect source).words := by
  rw [words_lex]
  by_cases finished : (Scanner.start dialect source).scan.token.kind = .eot
  · rw [Scanner.words_of_end finished]
    exact ahead_of_end finished
  · rw [Scanner.words_of_more finished]
    exact if_neg finished

end TokenCursor

/-! ## Ranks -/

namespace Symbol

/-- Whether a symbol is worked off with a token only. -/
@[simp] def takesToken : Symbol → Bool
  | terminal _ | type _ | typeArgumentsOrNone | typeArguments | typeArgumentsEnd | reference _
  | insideBrackets _ _ | expression _ | elements _ | elementsEnd _ | statement _
  | statementBody _ | block | statements | returnValue | declarationEnd _ | update | forInit
  | forCondition | forBody | tryEnd | importName | className | members | memberType
  | memberName _ | memberEnd _ _ _ | parameters | parameter | parametersEnd => true
  | _ => false

/-- How many calls a symbol may lead to, one within the other, before a token is consumed. -/
@[simp] def rank : Symbol → Nat
  | statements | forInit | program => 3
  | typeArgumentsOrNone | insideBrackets _ _ | elements _ | statement _ | returnValue
  | forCondition | classes | members | parameters => 2
  | typeSuffixes _ | typeArguments | typeArgumentsEnd | suffixes _ _ _ | expression _
  | elementsEnd _ | statementBody _ | block | declarationEnd _ | forUpdate | forBody | tryEnd
  | importName | markers | memberType | memberEnd _ _ _ | parameter | parametersEnd => 1
  | _ => 0

/-- The production that a symbol belongs to: the symbol without what it remembers. -/
def production : Symbol → Symbol
  | terminal _ => terminal []
  | announce _ => announce .fileDone
  | close _ => close .block
  | type _ => type false
  | typeSuffixes _ => typeSuffixes false
  | reference _ => reference .forUpdate
  | suffixes _ _ _ => suffixes .forUpdate .undetermined .base
  | insideBrackets _ _ => insideBrackets .forUpdate .undetermined
  | classified _ _ => classified .forUpdate .undetermined
  | expression _ => expression false
  | elements _ => elements .eot
  | elementsEnd _ => elementsEnd .eot
  | statement _ => statement .body
  | statementBody _ => statementBody .body
  | declarationEnd _ => declarationEnd .body
  | memberName _ => memberName false
  | memberEnd _ _ _ => memberEnd false (.endAt .start) false
  | symbol => symbol

theorem rank_production (symbol : Symbol) : symbol.production.rank = symbol.rank := by
  cases symbol <;> rfl

theorem rank_lt_four (symbol : Symbol) : symbol.rank < 4 := by
  cases symbol <;> simp

end Symbol

/-- Whether the symbols that can be called before a token is consumed have ranks below a limit. -/
@[simp] def sinks (limit : Nat) : List Symbol → Bool
  | [] => true
  | symbol :: symbols => symbol.rank < limit && (symbol.takesToken || sinks limit symbols)

theorem sinks_four (symbols : List Symbol) : sinks 4 symbols = true := by
  induction symbols with
  | nil => rfl
  | cons symbol symbols ih =>
      rw [sinks, ih, Bool.or_true, Bool.and_true, decide_eq_true_iff]
      exact symbol.rank_lt_four

/-- What an expansion may put in place of a symbol without a token: symbols of lower rank, and one
that takes a token if the symbol is to take one. -/
def Expansion.Advances (symbol : Symbol) : Expansion → Prop
  | replace symbols =>
    sinks symbol.rank symbols = true ∧
      (symbol.takesToken = true → symbols.any Symbol.takesToken = true)
  | announce _ => symbol.takesToken = false
  | consume _ | reject _ => True

open Grammar MiniJ.Symbol in
/-- **Every expansion advances.** -/
theorem Symbol.expand_advances (dialect : Dialect) (current : Token) (symbol : Symbol) :
    (symbol.expand dialect current).Advances symbol := by
  cases symbol with
  | classified purpose result =>
      simp only [expand, expandClassified, assign, standAlone]
      cases purpose
      all_goals dsimp only
      all_goals repeat' split
      all_goals simp [Expansion.Advances]
  | statementBody place =>
      simp only [expand, expandStatementBody]
      repeat' split
      all_goals simp [Expansion.Advances]
  | program | classes =>
      simp only [expand, wholeProgram, classDeclaration]
      cases dialect
      all_goals repeat' split
      all_goals simp [Expansion.Advances]
  | reference | suffixes | insideBrackets =>
      simp only [expand, expandReference, expandSuffixes, expandInsideBrackets, classify]
      repeat' split
      all_goals simp [Expansion.Advances]
  | _ =>
      simp only [expand, expandType, expandTypeSuffixes, expandExpression, expandExpressionEnd,
        expandConstructorArguments, expandDeclarationEnd, expandForUpdate, expandTryEnd,
        expandMemberEnd, expandImportName, Grammar.optional]
      repeat' split
      all_goals simp [Expansion.Advances]

/-! ## What a call consumes -/

section Calls

variable {dialect : Dialect} {depth : Nat} {symbol : Symbol} {symbols : List Symbol}
  {cursor next : TokenCursor} {call : Symbol → TokenCursor → Descent}

/-- That one cursor is behind another, and behind a further token if one is due. -/
def Behind (due : Bool) (cursor next : TokenCursor) : Prop :=
  cursor.consumed ≤ next.consumed ∧ (due = true → cursor.consumed < next.consumed)

theorem behind_descendAll
    (behind : ∀ symbol cursor next, call symbol cursor = .returned next →
      Behind symbol.takesToken cursor next)
    (ended : descendAll call symbols cursor = .returned next) :
    Behind (symbols.any Symbol.takesToken) cursor next := by
  induction symbols generalizing cursor with
  | nil =>
      cases ended
      exact ⟨Nat.le_refl _, nofun⟩
  | cons symbol symbols ih =>
      rw [descendAll] at ended
      cases first : call symbol cursor with
      | returned middle =>
          rw [first] at ended
          obtain ⟨moves, takes⟩ := behind symbol cursor middle first
          obtain ⟨moves', takes'⟩ := ih ended
          refine ⟨Nat.le_trans moves moves', fun due => ?_⟩
          rw [List.any_cons, Bool.or_eq_true] at due
          -- One symbol that takes a token is enough: the others never go back.
          rcases due with now | later
          · exact Nat.lt_of_lt_of_le (takes now) moves'
          · exact Nat.lt_of_le_of_lt moves (takes' later)
      | failed error middle =>
          rw [first] at ended
          cases ended
      | tooDeep =>
          rw [first] at ended
          cases ended

/-- **A call that returns has moved on, and behind a token if its symbol takes one.** -/
theorem behind_descend (ended : descend dialect depth symbol cursor = .returned next) :
    Behind symbol.takesToken cursor next := by
  induction depth generalizing symbol cursor next with
  | zero => cases ended
  | succ depth ih =>
      have advances := symbol.expand_advances dialect cursor.current
      rw [descend] at ended
      cases expands : symbol.expand dialect cursor.current with
      | replace symbols =>
          rw [expands] at ended advances
          obtain ⟨moves, takes⟩ := behind_descendAll (fun _ _ _ => ih) ended
          exact ⟨moves, fun due => takes (advances.2 due)⟩
      | consume symbols =>
          rw [expands] at ended
          obtain ⟨moves, -⟩ := behind_descendAll (fun _ _ _ => ih) ended
          have more : cursor.consumed < next.consumed := moves
          exact ⟨Nat.le_of_lt more, fun _ => more⟩
      | announce event =>
          rw [expands] at ended advances
          cases ended
          refine ⟨Nat.le_refl _, fun due => ?_⟩
          rw [show symbol.takesToken = false from advances] at due
          cases due
      | reject error =>
          rw [expands] at ended
          cases ended

/-- That a call may leave a cursor for another: the tokens consumed since then were ahead. -/
def Onward (cursor next : TokenCursor) : Prop :=
  cursor.consumed ≤ next.consumed ∧
    next.consumed + next.ahead.length = cursor.consumed + cursor.ahead.length

theorem Onward.trans {middle : TokenCursor} (first : Onward cursor middle)
    (second : Onward middle next) : Onward cursor next :=
  ⟨Nat.le_trans first.1 second.1, second.2.trans first.2⟩

/-- A consumed token other than the end is taken from those ahead. -/
theorem onward_advance (more : cursor.current.kind ≠ .eot) : Onward cursor cursor.advance := by
  have counts : cursor.advance.consumed = cursor.consumed + 1 := rfl
  rw [Onward, TokenCursor.ahead_of_more more, counts, List.length_cons]
  omega

theorem onward_descendAll
    (onward : ∀ symbol cursor, symbol.isGuarded = true →
      ∀ next ∈ (call symbol cursor).cursor?, Onward cursor next)
    (guarded : ∀ symbol ∈ symbols, symbol.isGuarded = true) :
    ∀ next ∈ (descendAll call symbols cursor).cursor?, Onward cursor next := by
  induction symbols generalizing cursor with
  | nil =>
      intro next left
      cases left
      exact ⟨Nat.le_refl _, rfl⟩
  | cons symbol symbols ih =>
      have first := onward symbol cursor (guarded symbol List.mem_cons_self)
      have guardedRest : ∀ other ∈ symbols, other.isGuarded = true :=
        fun other member => guarded other (List.mem_cons_of_mem _ member)
      intro next left
      rw [descendAll] at left
      cases ended : call symbol cursor with
      | returned middle =>
          rw [ended] at first left
          exact (first middle rfl).trans (ih guardedRest next left)
      | failed error middle =>
          rw [ended] at first left
          exact first next left
      | tooDeep =>
          rw [ended] at left
          cases left

/-- Calls of guarded symbols never consume the end, so each consumed token was ahead. -/
theorem onward_descend (guarded : symbol.isGuarded = true) :
    ∀ next ∈ (descend dialect depth symbol cursor).cursor?, Onward cursor next := by
  induction depth generalizing symbol cursor with
  | zero =>
      intro next left
      cases left
  | succ depth ih =>
      have proper := symbol.expand_proper dialect cursor.current
      rw [descend]
      cases expands : symbol.expand dialect cursor.current with
      | replace symbols =>
          rw [expands] at proper
          exact onward_descendAll (fun _ _ => ih) (proper guarded)
      | consume symbols =>
          rw [expands] at proper
          obtain ⟨more, inner⟩ := proper guarded
          intro next left
          exact (onward_advance more).trans
            (onward_descendAll (fun _ _ => ih) inner next left)
      | announce event | reject error =>
          intro next left
          cases left
          exact ⟨Nat.le_refl _, rfl⟩

/-! ## How deep calls are nested -/

/-- Four calls for each token ahead are enough for symbols in a row, when those before the first
token have ranks below the calls that are left. -/
theorem descendAll_ne_tooDeep {limit : Nat}
    (enough : ∀ symbol cursor, symbol.isGuarded = true →
      4 * cursor.ahead.length + symbol.rank < depth →
        descend dialect depth symbol cursor ≠ .tooDeep)
    (guarded : ∀ symbol ∈ symbols, symbol.isGuarded = true) (low : sinks limit symbols = true)
    (fits : 4 * cursor.ahead.length + limit ≤ depth) :
    descendAll (descend dialect depth) symbols cursor ≠ .tooDeep := by
  induction symbols generalizing cursor limit with
  | nil =>
      intro deep
      cases deep
  | cons symbol symbols ih =>
      have guardedFirst := guarded symbol List.mem_cons_self
      have guardedRest : ∀ other ∈ symbols, other.isGuarded = true :=
        fun other member => guarded other (List.mem_cons_of_mem _ member)
      rw [sinks, Bool.and_eq_true, decide_eq_true_iff, Bool.or_eq_true] at low
      obtain ⟨below, rest⟩ := low
      have shallow := enough symbol cursor guardedFirst (by omega)
      rw [descendAll]
      cases first : descend dialect depth symbol cursor with
      | returned next =>
          dsimp only
          obtain ⟨moves, takes⟩ := behind_descend first
          have left : next ∈ (descend dialect depth symbol cursor).cursor? := by rw [first]; rfl
          have same := (onward_descend guardedFirst next left).2
          by_cases stays : next.consumed = cursor.consumed
          · -- no token was consumed, so the symbols behind have low ranks, too
            rcases rest with token | low
            · exact absurd stays (Nat.ne_of_gt (takes token))
            · exact ih guardedRest low (by omega)
          · -- a token was consumed, which pays for any ranks
            exact ih guardedRest (sinks_four symbols) (by omega)
      | failed error next =>
          intro deep
          cases deep
      | tooDeep => exact absurd first shallow

/-- **Four calls for each token ahead are enough.** The measure is the number of tokens ahead and,
as long as none is consumed, the rank. -/
theorem descend_ne_tooDeep (guarded : symbol.isGuarded = true)
    (enough : 4 * cursor.ahead.length + symbol.rank < depth) :
    descend dialect depth symbol cursor ≠ .tooDeep := by
  induction depth generalizing symbol cursor with
  | zero => exact absurd enough (Nat.not_lt_zero _)
  | succ depth ih =>
      have proper := symbol.expand_proper dialect cursor.current
      have advances := symbol.expand_advances dialect cursor.current
      rw [descend]
      cases expands : symbol.expand dialect cursor.current with
      | replace symbols =>
          rw [expands] at proper advances
          exact descendAll_ne_tooDeep (fun _ _ => ih) (proper guarded) advances.1
            (Nat.le_of_lt_succ enough)
      | consume symbols =>
          rw [expands] at proper
          obtain ⟨more, inner⟩ := proper guarded
          rw [TokenCursor.ahead_of_more more, List.length_cons] at enough
          exact descendAll_ne_tooDeep (fun _ _ => ih) inner (sinks_four symbols) (by omega)
      | announce event | reject error =>
          intro deep
          cases deep

/-- At the end of the text a call of a symbol that takes a token fails where it stands. -/
theorem descend_at_end (guarded : symbol.isGuarded = true) (takes : symbol.takesToken = true)
    (finished : cursor.current.kind = .eot) (enough : symbol.rank < depth) :
    ∃ error next, descend dialect depth symbol cursor = .failed error next ∧
      next.current.kind = .eot ∧ next.consumed = cursor.consumed := by
  have nothing := TokenCursor.ahead_of_end finished
  have onward : ∀ next ∈ (descend dialect depth symbol cursor).cursor?, Onward cursor next :=
    onward_descend guarded
  have shallow : descend dialect depth symbol cursor ≠ .tooDeep :=
    descend_ne_tooDeep guarded (by rw [nothing]; simpa using enough)
  cases ended : descend dialect depth symbol cursor with
  | returned next =>
      -- a token would have been taken from those ahead, and there is none
      have more := (behind_descend ended).2 takes
      have count := (onward next (by rw [ended]; rfl)).2
      rw [nothing, List.length_nil] at count
      omega
  | failed error next =>
      obtain ⟨moves, count⟩ := onward next (by rw [ended]; rfl)
      rw [nothing, List.length_nil] at count
      refine ⟨error, next, rfl, Decidable.byContradiction fun more => ?_, by omega⟩
      rw [TokenCursor.ahead_of_more more, List.length_cons] at count
      omega
  | tooDeep => exact absurd ended shallow

end Calls

/-! ## Chains of calls -/

/-- A symbol that is worked off from where a cursor stands. -/
structure Call where
  symbol : Symbol
  cursor : TokenCursor

/-- That one call makes another: it comes to the other symbol behind those in front of it. -/
inductive Call.Makes (dialect : Dialect) (caller callee : Call) : Prop
  | replace {before behind : List Symbol} {depth : Nat} :
      caller.symbol.expand dialect caller.cursor.current =
        .replace (before ++ callee.symbol :: behind) →
      descendAll (descend dialect depth) before caller.cursor = .returned callee.cursor →
      Makes dialect caller callee
  | consume {before behind : List Symbol} {depth : Nat} :
      caller.symbol.expand dialect caller.cursor.current =
        .consume (before ++ callee.symbol :: behind) →
      descendAll (descend dialect depth) before caller.cursor.advance = .returned callee.cursor →
      Makes dialect caller callee

/-- That one call comes behind a token of another, or at the same token with a lower rank. -/
def Call.Falls (caller callee : Call) : Prop :=
  caller.cursor.consumed < callee.cursor.consumed ∨
    (callee.cursor.consumed = caller.cursor.consumed ∧ callee.symbol.rank < caller.symbol.rank)

/-- Behind symbols that take no token the ranks are still below the limit. -/
theorem rank_lt_of_sinks {limit : Nat} {symbol : Symbol} {before behind : List Symbol}
    (low : sinks limit (before ++ symbol :: behind) = true)
    (passing : before.any Symbol.takesToken = false) : symbol.rank < limit := by
  induction before with
  | nil =>
      rw [List.nil_append, sinks, Bool.and_eq_true, decide_eq_true_iff] at low
      exact low.1
  | cons first before ih =>
      rw [List.any_cons, Bool.or_eq_false_iff] at passing
      rw [List.cons_append, sinks, passing.1, Bool.false_or, Bool.and_eq_true] at low
      exact ih low.2 passing.2

/-- **A call falls to each call that it makes.** -/
theorem Call.Makes.falls {dialect : Dialect} {caller callee : Call}
    (makes : Makes dialect caller callee) : Falls caller callee := by
  cases makes with
  | @replace before behind depth expands worked =>
      have advances := caller.symbol.expand_advances dialect caller.cursor.current
      rw [expands] at advances
      obtain ⟨moves, takes⟩ := behind_descendAll (fun _ _ _ => behind_descend) worked
      by_cases stays : callee.cursor.consumed = caller.cursor.consumed
      · refine .inr ⟨stays, rank_lt_of_sinks advances.1 ?_⟩
        rw [Bool.eq_false_iff]
        intro token
        exact absurd stays (Nat.ne_of_gt (takes token))
      · exact .inl (Nat.lt_of_le_of_ne moves (Ne.symm stays))
  | consume expands worked =>
      exact .inl (behind_descendAll (fun _ _ _ => behind_descend) worked).1

theorem Call.Falls.trans {first second third : Call} (falls : Falls first second)
    (further : Falls second third) : Falls first third := by
  rw [Falls] at falls further ⊢
  omega

/-- A chain of calls falls as a whole. -/
theorem Call.falls_of_chain {dialect : Dialect} {caller callee : Call}
    (chain : Relation.TransGen (Makes dialect) caller callee) : Falls caller callee := by
  induction chain with
  | single makes => exact makes.falls
  | tail _ makes ih => exact ih.trans makes.falls

/-! ## The parse of a text -/

/-- The productions that are never worked off without a token. -/
inductive IsProduction (dialect : Dialect) : List Symbol → Prop
  | classDeclaration : IsProduction dialect (Grammar.classDeclaration dialect)
  | member : IsProduction dialect [.markers, .memberType, .close .memberDeclaration]
  | statement (place : Place) : IsProduction dialect [.statement place]
  | block : IsProduction dialect [.block]
  | type (brackets : Bool) : IsProduction dialect [.type brackets]
  | reference (purpose : Purpose) : IsProduction dialect [.reference purpose]
  | expression (arrayLiteral : Bool) : IsProduction dialect [.expression arrayLiteral]
  | newExpression : IsProduction dialect
      [.type false, .constructorArguments, .dimensions, .close .newExpression]

theorem IsProduction.takesToken {dialect : Dialect} {symbols : List Symbol}
    (isProduction : IsProduction dialect symbols) :
    symbols.any Symbol.takesToken = true := by
  cases isProduction with
  | classDeclaration => cases dialect <;> rfl
  | _ => rfl

/-- The loops that wait for a closing token: over members, statements, arguments, the elements of
an array, type arguments and parameters. -/
def closingLoops : List Symbol :=
  [.members, .statements, .elements .rParen, .elements .rBrace, .typeArguments, .parameters]

/-- What keeps recursive descent from going round. -/
structure Progresses (dialect : Dialect) : Prop where
  /-- A production that is worked off has consumed a token. -/
  productions : ∀ symbols, IsProduction dialect symbols → ∀ depth cursor next,
    descendAll (descend dialect depth) symbols cursor = .returned next →
      cursor.consumed < next.consumed
  /-- A type-or-reference is classified behind its first token. -/
  references : ∀ purpose cursor callee,
    Call.Makes dialect ⟨.reference purpose, cursor⟩ callee →
      cursor.consumed < callee.cursor.consumed
  /-- No chain of calls comes back to its production without a token. A loop is such a chain: its
  next round is a call of its own symbol. -/
  cycles : ∀ caller callee, Relation.TransGen (Call.Makes dialect) caller callee →
    callee.symbol.production = caller.symbol.production →
      caller.cursor.consumed < callee.cursor.consumed
  /-- At the end of the text a loop fails that waits for its closing token. -/
  loops : ∀ loop ∈ closingLoops, ∀ depth cursor, loop.rank < depth →
    cursor.current.kind = .eot →
      ∃ error next, descend dialect depth loop cursor = .failed error next ∧
        next.current.kind = .eot ∧ next.consumed = cursor.consumed

theorem progresses (dialect : Dialect) : Progresses dialect where
  productions symbols isProduction depth cursor next worked :=
    (behind_descendAll (fun _ _ _ => behind_descend) worked).2 isProduction.takesToken
  references purpose cursor callee makes := by
    -- the rank is the lowest, so only a token lets the call fall
    rcases makes.falls with behind | ⟨-, lower⟩
    · exact behind
    · exact absurd lower (Nat.not_lt_zero _)
  cycles caller callee chain same := by
    rcases Call.falls_of_chain chain with behind | ⟨-, lower⟩
    · exact behind
    · rw [← callee.symbol.rank_production, same, caller.symbol.rank_production] at lower
      exact absurd lower (Nat.lt_irrefl _)
  loops loop member depth cursor enough finished := by
    have both : ∀ loop ∈ closingLoops, loop.isGuarded = true ∧ loop.takesToken = true := by
      decide
    obtain ⟨guarded, takes⟩ := both loop member
    exact descend_at_end guarded takes finished enough

/-- **A parse is a recursive descent, and four nested calls for each token are enough for it.**
The descent ends as the parse does, whatever the text, because every chain of calls makes
progress. -/
theorem parse_descends (dialect : Dialect) (source : Source) (file : Option String) :
    let start := TokenCursor.opening dialect source file
    let bound := 4 * (lex dialect source).tokens.length
    (∀ spare,
      (∃ cursor, descend dialect (bound + spare) .program start = .returned cursor ∧
        parse dialect source file = ⟨.accepted, conclude .accepted cursor⟩) ∨
      ∃ error cursor, descend dialect (bound + spare) .program start = .failed error cursor ∧
        parse dialect source file = ⟨.rejected error, conclude (.rejected error) cursor⟩) ∧
    Progresses dialect := by
  intro start bound
  refine ⟨fun spare => parse_of_descend ?_, progresses dialect⟩
  apply descend_ne_tooDeep rfl
  have tokens := congrArg List.length (tokens_lex dialect source)
  rw [List.length_append, List.length_singleton] at tokens
  have rank : Symbol.program.rank = 3 := rfl
  rw [TokenCursor.ahead_opening, rank]
  omega

end MiniJ
