import MiniJ.Proofs.Recognition.ErrorPlaces

/-!
# Open constructs

`Symbol.enters` says at which symbols, in front of which tokens, recognition enters a construct, and
`Construct.parts` says what the construct then consists of. A construct is open from where it was
entered until its parts are worked off (`Entrance.IsOpen`). Of the open constructs the innermost is
the one that was entered last (`Entrance.IsInnermost`).

The end of a construct is marked on the agenda. Each mark belongs to a construct that was entered
and whose parts are still being worked off (`Works.entered`), and only symbols that are never at
fault stand outside of all constructs (`Works.sheltered`). So an error is found in a construct, and
the first mark behind it is that of the innermost one.

The main statement is `syntax_error_names_innermost`.
-/

set_option autoImplicit false

namespace MiniJ

open Grammar

/-! ## Where constructs are entered -/

/-- What a construct consists of, from where it is entered. The words and signs that lead to some
constructs are consumed before. -/
def Construct.parts (dialect : Dialect) : Construct → List Symbol
  | packageHeader =>
    [.token (.keyword .package_), .token .ident, .dottedNames, .token .semicolon]
  | importDeclaration => [.token .ident, .importNames, .token .semicolon]
  | classDeclaration =>
    (if dialect.isExtended then [.markers] else []) ++
      [.token (.keyword .class_), .className, .superclass, .token .lBrace, .members]
  | memberDeclaration => [.markers, .memberType]
  | parameters => [.parameter]
  | block => [.token .lBrace, .statements]
  | ifStatement => condition ++ [.statement .body, .elseBranch]
  | forLoop => [.token .lParen, .forInit]
  | whileLoop => condition ++ [.statement .body]
  | doWhileLoop =>
    [.statement .body, .token (.keyword .while_)] ++ condition ++ [.token .semicolon]
  | tryStatement => [.block, .tryEnd]
  | arguments => [.elements .rParen]
  | arrayLiteral => [.elements .rBrace]
  | newExpression => [.type false, .constructorArguments, .dimensions]

/-- The construct that a statement in a body enters behind its first word. -/
def TokenKind.entersStatement : TokenKind → Option Construct
  | keyword .if_ => some .ifStatement
  | keyword .for_ => some .forLoop
  | keyword .while_ => some .whileLoop
  | keyword .do_ => some .doWhileLoop
  | keyword .try_ => some .tryStatement
  | _ => none

/-- The construct that is entered at a symbol in front of a token. A parameter list that is closed
at once is no place for an error, so it does not count as entered. -/
def Symbol.enters (dialect : Dialect) (current : Token) : Symbol → Option Construct
  | program => if dialect.isExtended then some .packageHeader else none
  | imports => if current.kind = .keyword .import_ then some .importDeclaration else none
  | classes => if current.kind = .eot then none else some .classDeclaration
  | members => if current.kind = .rBrace then none else some .memberDeclaration
  | parameters => if current.kind = .rParen then none else some .parameters
  | block => some .block
  | statementBody .body => current.kind.entersStatement
  | suffixes _ soFar last =>
    if current.kind = .lParen ∧ soFar ≠ .type ∧ last.isCallable then some .arguments else none
  | constructorArguments =>
    if current.kind = .lParen ∧ dialect.isExtended then some .arguments else none
  | expression arrayLiteral =>
    if current.kind = .lBrace ∧ arrayLiteral then some .arrayLiteral
    else if current.kind = .keyword .new_ then some .newExpression
    else none
  | _ => none

/-! ## Marks -/

namespace Symbol

/-- Whether a symbol marks the end of a construct. -/
def isClose : Symbol → Bool
  | close _ => true
  | _ => false

/-- Whether a symbol stands outside of all constructs. -/
def isOutermost : Symbol → Bool
  | program | imports | classes => true
  | _ => false

end Symbol

/-- That a list of symbols has no mark. -/
def Markless (symbols : List Symbol) : Prop :=
  ∀ symbol ∈ symbols, symbol.isClose = false

instance (symbols : List Symbol) : Decidable (Markless symbols) :=
  inferInstanceAs (Decidable (∀ symbol ∈ symbols, symbol.isClose = false))

theorem Construct.markless_parts (dialect : Dialect) (construct : Construct) :
    Markless (construct.parts dialect) := by
  cases dialect <;> cases construct <;> decide

/-- The innermost construct of an agenda is that of its first mark. -/
theorem exists_mark_of_innermost? {agenda : List Symbol} {construct : Construct}
    (innermost : innermost? agenda = some construct) :
    ∃ inner behind, agenda = inner ++ .close construct :: behind ∧ Markless inner := by
  induction agenda with
  | nil => cases innermost
  | cons symbol agenda ih =>
      by_cases isMark : ∃ other, symbol = .close other
      · obtain ⟨other, rfl⟩ := isMark
        cases innermost
        exact ⟨[], agenda, rfl, by simp [Markless]⟩
      · have passes : innermost? agenda = some construct ∧ symbol.isClose = false := by
          cases symbol with
          | close other => exact absurd ⟨other, rfl⟩ isMark
          | _ => exact ⟨innermost, rfl⟩
        obtain ⟨inner, behind, rfl, markless⟩ := ih passes.1
        refine ⟨symbol :: inner, behind, rfl, ?_⟩
        intro other member
        rcases List.mem_cons.mp member with rfl | later
        · exact passes.2
        · exact markless other later

section Markless

variable {inner left behind further : List Symbol} {construct another : Construct}

/-- Behind symbols without a mark the first mark comes before every other one. -/
theorem Markless.first (markless : Markless inner)
    (same : inner ++ .close construct :: behind = left ++ .close another :: further) :
    (inner = left ∧ construct = another ∧ behind = further) ∨
      ∃ middle, left = inner ++ .close construct :: middle ∧
        behind = middle ++ .close another :: further := by
  rcases List.append_eq_append_iff.mp same with ⟨middle, rfl, rest⟩ | ⟨middle, rfl, rest⟩
  · cases middle with
    | nil =>
        cases rest
        exact .inl ⟨(List.append_nil _).symm, rfl, rfl⟩
    | cons symbol middle =>
        obtain ⟨rfl, rfl⟩ := List.cons.inj rest
        exact .inr ⟨middle, rfl, rfl⟩
  · cases middle with
    | nil =>
        cases rest
        exact .inl ⟨List.append_nil _, rfl, rfl⟩
    | cons symbol middle =>
        obtain ⟨rfl, -⟩ := List.cons.inj rest
        cases markless (.close another) (by simp)

theorem Markless.inj (markless : Markless inner) (other : Markless left)
    (same : inner ++ .close construct :: behind = left ++ .close another :: further) :
    inner = left ∧ construct = another ∧ behind = further := by
  rcases markless.first same with one | ⟨middle, rfl, -⟩
  · exact one
  · cases other (.close construct) (by simp)

/-- The only mark is found. -/
theorem Markless.only (markless : Markless inner) (none : Markless behind)
    (same : inner ++ .close construct :: behind = left ++ .close another :: further) :
    inner = left ∧ construct = another ∧ behind = further := by
  rcases markless.first same with one | ⟨middle, -, rfl⟩
  · exact one
  · cases none (.close another) (by simp)

end Markless

/-! ## One expansion -/

/-- What symbols have to do with the construct that is entered, if any: they are its parts, its mark
and symbols behind it. There are no other marks. -/
def Brings (dialect : Dialect) (entered : Option Construct) (symbols : List Symbol) : Prop :=
  match entered with
  | none => Markless symbols
  | some construct =>
    ∃ behind, symbols = construct.parts dialect ++ .close construct :: behind ∧ Markless behind

/-- The same of an expansion. -/
def Expansion.Opens (dialect : Dialect) (entered : Option Construct) : Expansion → Prop
  | replace symbols | consume symbols => Brings dialect entered symbols
  | announce _ | reject _ => entered = none

section Expansions

variable {dialect : Dialect}

/-- Behind what was classified nothing is entered. -/
theorem expandClassified_opens (purpose : Purpose) (result : Classification) (current : Token) :
    (expandClassified purpose result current).Opens dialect none := by
  cases purpose with
  | operand first | update operator =>
      simp only [expandClassified]
      split
      · rfl
      · exact List.forall_mem_nil _
  | statement place =>
      cases place
      all_goals
        simp only [expandClassified, assign, standAlone, afterStatement]
        repeat' split
      all_goals simp [Expansion.Opens, Brings, Markless, Symbol.isClose]
  | forUpdate =>
      simp only [expandClassified, assign, standAlone]
      repeat' split
      all_goals simp [Expansion.Opens, Brings, Markless, Symbol.isClose]

/-- In the head of a loop no statement enters a construct; in a body its first word decides. -/
theorem expandStatementBody_opens (place : Place) (current : Token) :
    (expandStatementBody place current).Opens dialect
      ((Symbol.statementBody place).enters dialect current) := by
  cases place with
  | forHead =>
      simp only [expandStatementBody, Symbol.enters, afterStatement]
      split <;> simp_all [Expansion.Opens, Brings, Markless, Symbol.isClose]
  | body =>
      simp only [Symbol.enters]
      cases here : current.kind with
      | keyword word =>
          cases word <;>
            simp [expandStatementBody, here, TokenKind.entersStatement, Expansion.Opens, Brings,
              Markless, Symbol.isClose, Construct.parts, afterStatement, condition]
      | _ =>
          simp [expandStatementBody, here, TokenKind.entersStatement, Expansion.Opens, Brings,
            Markless, Symbol.isClose, afterStatement]

/-- An operand may be a list of elements or a new object. -/
theorem expandExpression_opens (arrayLiteral : Bool) (current : Token) :
    (expandExpression arrayLiteral current).Opens dialect
      ((Symbol.expression arrayLiteral).enters dialect current) := by
  -- the tests in front do not hide the braces or the word
  have brace : TokenKind.lBrace.isPrefixOperator = false := rfl
  have sign : (TokenKind.keyword .new_).isPrefixOperator = false := rfl
  have literal : (TokenKind.keyword .new_).isLiteral = false := rfl
  simp only [expandExpression, Symbol.enters]
  repeat' split
  all_goals simp_all [Expansion.Opens, Brings, Markless, Symbol.isClose, Construct.parts]

theorem expandSuffixes_opens (purpose : Purpose) (soFar : Classification) (last : LastPart)
    (current : Token) :
    (expandSuffixes dialect purpose soFar last current).Opens dialect
      ((Symbol.suffixes purpose soFar last).enters dialect current) := by
  simp only [expandSuffixes, Symbol.enters, classify]
  repeat' split
  all_goals simp_all [Expansion.Opens, Brings, Markless, Symbol.isClose, Construct.parts]

end Expansions

open MiniJ.Symbol in
/-- **What expansions enter.** -/
theorem Symbol.expand_opens (dialect : Dialect) (current : Token) (symbol : Symbol) :
    (symbol.expand dialect current).Opens dialect (symbol.enters dialect current) := by
  cases symbol with
  | classified purpose result => exact expandClassified_opens purpose result current
  | expression arrayLiteral => exact expandExpression_opens arrayLiteral current
  | statementBody place => exact expandStatementBody_opens place current
  | suffixes purpose soFar last => exact expandSuffixes_opens purpose soFar last current
  | program | classes | constructorArguments =>
      simp only [expand, wholeProgram, classDeclaration, expandConstructorArguments]
      cases dialect
      all_goals repeat' split
      all_goals
        simp_all [enters, Expansion.Opens, Brings, Markless, isClose, Construct.parts,
          Dialect.isExtended, Dialect.isMini]
  | statement place | declarationEnd place =>
      simp only [expand, expandDeclarationEnd]
      cases place
      all_goals repeat' split
      all_goals simp [enters, Expansion.Opens, Brings, Markless, isClose, afterStatement]
  | _ =>
      simp only [expand, expandType, expandTypeSuffixes, expandReference, expandInsideBrackets,
        expandExpressionEnd, expandForUpdate, expandTryEnd, expandImportName, expandMemberEnd,
        classify, Grammar.optional]
      repeat' split
      all_goals simp_all [enters, Expansion.Opens, Brings, Markless, isClose, Construct.parts]

/-! ## One step -/

section Steps

variable {dialect : Dialect} {stop : Token} {here there : List Symbol × List Token}

/-- What a step puts in the place of the first symbol. -/
theorem WorkStep.brings (step : WorkStep dialect stop here there) :
    ∃ symbol symbols rest, here.1 = symbol :: rest ∧ there.1 = symbols ++ rest ∧
      (∀ pending, WorkStep dialect stop (symbol :: pending, here.2)
        (symbols ++ pending, there.2)) ∧
      Brings dialect (symbol.enters dialect (frontOf stop here.2)) symbols := by
  cases step with
  | @replace symbol symbols rest tokens expands =>
      have opens := symbol.expand_opens dialect (frontOf stop tokens)
      rw [expands] at opens
      exact ⟨symbol, symbols, rest, rfl, rfl, fun _ => .replace expands, opens⟩
  | @consume symbol symbols rest current tokens expands =>
      have opens := symbol.expand_opens dialect current
      rw [expands] at opens
      exact ⟨symbol, symbols, rest, rfl, rfl, fun _ => .consume expands, opens⟩
  | @announce symbol event rest tokens expands =>
      have opens : symbol.enters dialect (frontOf stop tokens) = none := by
        have opens := symbol.expand_opens dialect (frontOf stop tokens)
        rwa [expands] at opens
      refine ⟨symbol, [], rest, rfl, rfl, fun _ => .announce expands, ?_⟩
      rw [opens]
      exact List.forall_mem_nil _

end Steps

/-! ## Entries -/

/-- A construct that was entered: what comes behind it on the agenda, and the tokens that its parts
are in front of. -/
@[ext] structure Entrance where
  construct : Construct
  behind : List Symbol
  ahead : List Token

namespace Entrance

/-- The state of the work in which nothing of the construct is worked off yet. -/
def state (dialect : Dialect) (entrance : Entrance) : List Symbol × List Token :=
  (entrance.construct.parts dialect ++ entrance.behind, entrance.ahead)

/-- That the work from the program comes to a symbol at which the construct is entered. -/
def IsMade (dialect : Dialect) (stop : Token) (words : List Token) (entrance : Entrance) :
    Prop :=
  ∃ symbol pending tokens,
    Works dialect stop ([.program], words) (symbol :: pending, tokens) ∧
    symbol.enters dialect (frontOf stop tokens) = some entrance.construct ∧
    WorkStep dialect stop (symbol :: pending, tokens) (entrance.state dialect)

/-- That a construct was entered and is not left: work on its parts is not at their end. -/
def IsOpen (dialect : Dialect) (stop : Token) (words : List Token)
    (here : List Symbol × List Token) (entrance : Entrance) : Prop :=
  entrance.IsMade dialect stop words ∧ ∃ left, left ≠ [] ∧ here.1 = left ++ entrance.behind ∧
    Works dialect stop (entrance.construct.parts dialect, entrance.ahead) (left, here.2)

/-- That of the open constructs it was entered last. -/
def IsInnermost (dialect : Dialect) (stop : Token) (words : List Token)
    (here : List Symbol × List Token) (entrance : Entrance) : Prop :=
  entrance.IsOpen dialect stop words here ∧
    ∀ other : Entrance, other.IsOpen dialect stop words here →
      Works dialect stop (other.state dialect) (entrance.state dialect)

end Entrance

/-! ## Marks and entries -/

section Marks

variable {dialect : Dialect} {stop : Token} {words : List Token}
  {here there : List Symbol × List Token}

/-- That each mark on the agenda is behind the work on the parts of a construct that was entered. -/
def Entered (dialect : Dialect) (stop : Token) (words : List Token)
    (here : List Symbol × List Token) : Prop :=
  ∀ left construct behind, here.1 = left ++ .close construct :: behind →
    ∃ ahead, Entrance.IsMade dialect stop words ⟨construct, .close construct :: behind, ahead⟩ ∧
      Works dialect stop (construct.parts dialect, ahead) (left, here.2)

/-- A step keeps what the marks are behind: a pending one stays behind the same work with one step
more, and a new one is behind the parts of the construct that the step enters. -/
theorem Entered.step (entered : Entered dialect stop words here)
    (works : Works dialect stop ([.program], words) here)
    (step : WorkStep dialect stop here there) : Entered dialect stop words there := by
  intro left construct behind split
  obtain ⟨agenda, tokens⟩ := here
  obtain ⟨symbol, symbols, rest, rfl, shape, steps, brings⟩ := step.brings
  rw [shape] at split
  -- one more step of the work that a pending mark is behind
  have pends {inner : List Symbol} (same : rest = inner ++ .close construct :: behind) :
      ∃ ahead, Entrance.IsMade dialect stop words ⟨construct, .close construct :: behind, ahead⟩ ∧
        Works dialect stop (construct.parts dialect, ahead) (symbols ++ inner, there.2) := by
    obtain ⟨ahead, made, further⟩ := entered (symbol :: inner) construct behind (by rw [same]; rfl)
    exact ⟨ahead, made, further.tail (steps inner)⟩
  rcases List.append_eq_append_iff.mp split with ⟨inner, rfl, same⟩ | ⟨inner, within, same⟩
  · exact pends same
  cases inner with
  | nil =>
      obtain rfl : symbols = left := by simpa using within
      simpa using @pends [] same.symm
  | cons mark inner =>
      -- the mark is among the new symbols, so it is that of a construct entered here
      obtain ⟨rfl, rfl⟩ := List.cons.inj same
      cases enters : symbol.enters dialect (frontOf stop tokens) with
      | none =>
          rw [enters, within] at brings
          cases brings (.close construct) (by simp)
      | some other =>
          rw [enters] at brings
          obtain ⟨further, all, markless⟩ := brings
          rw [within] at all
          obtain ⟨rfl, rfl, rfl⟩ := (other.markless_parts dialect).only markless all.symm
          have step := steps rest
          rw [within, List.append_assoc, List.cons_append] at step
          exact ⟨there.2, ⟨symbol, rest, tokens, works, enters, step⟩, .refl⟩

/-- **Each mark in work from the program is behind the parts of a construct that was entered.** The
induction is on the work. -/
theorem Works.entered (works : Works dialect stop ([.program], words) here) :
    Entered dialect stop words here := by
  induction works with
  | refl =>
      intro left construct behind split
      have member : Symbol.close construct ∈ [Symbol.program] := by
        rw [show [Symbol.program] = left ++ .close construct :: behind from split]
        simp
      cases List.mem_singleton.mp member
  | tail before step ih => exact ih.step before step

/-- Where a construct is entered its mark comes in front of what is pending. -/
theorem Entrance.exists_mark {entrance : Entrance} {symbol : Symbol} {pending : List Symbol}
    {tokens : List Token}
    (enters : symbol.enters dialect (frontOf stop tokens) = some entrance.construct)
    (step : WorkStep dialect stop (symbol :: pending, tokens) (entrance.state dialect)) :
    ∃ more, entrance.behind = .close entrance.construct :: more ++ pending := by
  obtain ⟨first, symbols, rest, same, shape, -, brings⟩ := step.brings
  obtain ⟨rfl, rfl⟩ := List.cons.inj same
  rw [enters] at brings
  obtain ⟨more, rfl, -⟩ := brings
  rw [Entrance.state, List.append_assoc] at shape
  exact ⟨more, List.append_cancel_left shape⟩

/-! ## Symbols inside of constructs -/

/-- Whether each symbol is a mark, has a mark behind it or stands outside of all constructs. -/
def sheltered : List Symbol → Bool
  | [] => true
  | symbol :: pending =>
    (symbol.isOutermost || symbol.isClose || (innermost? pending).isSome) && sheltered pending

/-- In front of a mark everything is inside of a construct. -/
theorem sheltered_append_of_mark {front behind : List Symbol}
    (inside : (innermost? behind).isSome = true) (rest : sheltered behind = true) :
    sheltered (front ++ behind) = true := by
  induction front with
  | nil => exact rest
  | cons symbol front ih =>
      have marked : (innermost? (front ++ behind)).isSome = true := by
        rw [innermost?_append, Option.isSome_or, inside, Bool.or_true]
      rw [List.cons_append, sheltered, marked, ih, Bool.or_true, Bool.and_true]

theorem sheltered_append {front behind : List Symbol} (here : sheltered front = true)
    (rest : sheltered behind = true) : sheltered (front ++ behind) = true := by
  induction front with
  | nil => exact rest
  | cons symbol front ih =>
      rw [sheltered, Bool.and_eq_true] at here
      obtain ⟨own, others⟩ := here
      rw [List.cons_append, sheltered, Bool.and_eq_true]
      refine ⟨?_, ih others⟩
      rw [innermost?_append, Option.isSome_or, ← Bool.or_assoc, own, Bool.true_or]

/-- Outside of all constructs there are the loops over imports and classes only, and what these put
in their place is inside of constructs but for themselves. -/
theorem sheltered_of_expand {symbol : Symbol} {symbols : List Symbol} {current : Token}
    (outside : (symbol.isOutermost || symbol.isClose) = true)
    (expands : symbol.expand dialect current = .replace symbols ∨
      symbol.expand dialect current = .consume symbols) : sheltered symbols = true := by
  -- What the outermost symbols bring is outermost again or has the mark of its construct behind.
  cases symbol with
  | program =>
      simp only [Symbol.expand, Expansion.replace.injEq, reduceCtorEq, or_false] at expands
      subst expands
      cases dialect <;> rfl
  | imports =>
      simp only [Symbol.expand, Grammar.optional] at expands
      split at expands
      all_goals
        simp only [Expansion.replace.injEq, Expansion.consume.injEq, reduceCtorEq, or_false,
          false_or] at expands
        subst expands
        rfl
  | classes =>
      simp only [Symbol.expand] at expands
      split at expands
      all_goals
        simp only [Expansion.replace.injEq, reduceCtorEq, or_false] at expands
        subst expands
      · rfl
      · cases dialect <;> rfl
  | close construct =>
      simp only [Symbol.expand, Expansion.replace.injEq, reduceCtorEq, or_false] at expands
      subst expands
      rfl
  | _ => cases outside

theorem WorkStep.sheltered (step : WorkStep dialect stop here there)
    (inside : MiniJ.sheltered here.1 = true) : MiniJ.sheltered there.1 = true := by
  have keeps {symbol : Symbol} {symbols pending : List Symbol} {current : Token}
      (inside : MiniJ.sheltered (symbol :: pending) = true)
      (expands : symbol.expand dialect current = .replace symbols ∨
        symbol.expand dialect current = .consume symbols) :
      MiniJ.sheltered (symbols ++ pending) = true := by
    rw [MiniJ.sheltered, Bool.and_eq_true, Bool.or_eq_true] at inside
    obtain ⟨outside | marked, rest⟩ := inside
    · exact sheltered_append (sheltered_of_expand outside expands) rest
    · exact sheltered_append_of_mark marked rest
  cases step with
  | replace expands => exact keeps inside (.inl expands)
  | consume expands => exact keeps inside (.inr expands)
  | announce expands =>
      rw [MiniJ.sheltered, Bool.and_eq_true] at inside
      exact inside.2

theorem Works.sheltered (works : Works dialect stop ([.program], words) here) :
    MiniJ.sheltered here.1 = true := by
  induction works with
  | refl => rfl
  | tail _ step ih => exact step.sheltered ih

/-- **A symbol that finds an error is inside of a construct.** -/
theorem Works.exists_innermost? {symbol : Symbol} {pending : List Symbol} {tokens : List Token}
    {found : SyntaxError}
    (works : Works dialect stop ([.program], words) (symbol :: pending, tokens))
    (rejects : symbol.expand dialect (frontOf stop tokens) = .reject found) :
    symbol.isClose = false ∧ ∃ construct, innermost? pending = some construct := by
  have inside : MiniJ.sheltered (symbol :: pending) = true := works.sheltered
  have never : (symbol.isOutermost || symbol.isClose) = false := by
    cases symbol with
    | program | close construct => cases rejects
    | imports | classes =>
        simp only [Symbol.expand, Grammar.optional] at rejects
        split at rejects <;> cases rejects
    | _ => rfl
  rw [MiniJ.sheltered, never, Bool.false_or, Bool.and_eq_true] at inside
  rw [Bool.or_eq_false_iff] at never
  exact ⟨never.2, Option.isSome_iff_exists.mp inside.1⟩

end Marks

/-! ## The innermost construct -/

section Innermost

variable {dialect : Dialect} {stop : Token} {words tokens : List Token} {symbol : Symbol}
  {pending : List Symbol} {found : SyntaxError} {here there last : List Symbol × List Token}

/-- Work that comes to an error does not come back to where it was. The induction is on the work
that is left. -/
theorem Works.antisymm (left : Works dialect stop here (symbol :: pending, tokens))
    (rejects : symbol.expand dialect (frontOf stop tokens) = .reject found)
    (onward : Works dialect stop here there) (back : Works dialect stop there here) :
    here = there := by
  induction left using Relation.ReflTransGen.head_induction_on generalizing there with
  | refl => exact (onward.eq_of_reject rejects).symm
  | @head here next step _ ih =>
      rcases Relation.ReflTransGen.cases_head onward with same | ⟨other, first, rest⟩
      · exact same
      · obtain rfl := workStep_rightUnique step first
        rw [← ih rest (back.tail step), ← ih (rest.trans back) (.single step)]

/-- That work on the parts of a construct comes to a symbol that is not inside of another construct:
no mark is in front of the construct's own. -/
structure Entrance.Holds (dialect : Dialect) (stop : Token) (words : List Token)
    (entrance : Entrance) (agenda : List Symbol) (tokens : List Token) : Prop where
  made : entrance.IsMade dialect stop words
  works : Works dialect stop (entrance.construct.parts dialect, entrance.ahead) (agenda, tokens)
  markless : Markless agenda

section Held

variable {entrance other : Entrance} {inner : List Symbol}

/-- Behind where that construct is entered no other one is entered that is still open: the mark of
the other one would come first. -/
theorem Entrance.Holds.not_comes {first : Symbol} {rest : List Symbol} {us : List Token}
    (holds : entrance.Holds dialect stop words (symbol :: inner) tokens)
    (rejects : symbol.expand dialect (frontOf stop tokens) = .reject found)
    (isOpen : other.IsOpen dialect stop words (symbol :: inner ++ entrance.behind, tokens))
    (enters : first.enters dialect (frontOf stop us) = some other.construct)
    (step : WorkStep dialect stop (first :: rest, us) (other.state dialect)) :
    ¬ Works dialect stop (entrance.state dialect) (first :: rest, us) := by
  obtain ⟨_, _, _, -, opens, entering⟩ := holds.made
  obtain ⟨more, mark⟩ := Entrance.exists_mark opens entering
  obtain ⟨between, otherMark⟩ := Entrance.exists_mark enters step
  intro comes
  rcases Works.split comes with ⟨left, shape, -⟩ | ⟨vs, isOver, -⟩
  · cases left with
    | nil =>
        -- nothing is entered at a mark
        rw [List.nil_append, mark] at shape
        obtain ⟨rfl, -⟩ := List.cons.inj shape
        cases enters
    | cons next left =>
        obtain ⟨rfl, rfl⟩ := List.cons.inj shape
        obtain ⟨-, front, -, whole, -⟩ := isOpen
        have whole : symbol :: inner ++ entrance.behind =
            (front ++ .close other.construct :: (between ++ left)) ++ entrance.behind := by
          refine whole.trans ?_
          rw [otherMark]
          simp
        have within := List.append_cancel_right whole
        cases holds.markless (.close other.construct) (by simp [within])
  · -- the parts are not worked off, because the error is found among them
    rcases holds.works.comparable isOver with onward | back
    · cases onward.eq_of_reject rejects
    · cases back.eq_of_nil

/-- **The construct whose mark comes first is the innermost open one.** -/
theorem Entrance.Holds.isInnermost
    (holds : entrance.Holds dialect stop words (symbol :: inner) tokens)
    (rejects : symbol.expand dialect (frontOf stop tokens) = .reject found) :
    entrance.IsInnermost dialect stop words (symbol :: inner ++ entrance.behind, tokens) := by
  refine ⟨⟨holds.made, symbol :: inner, List.cons_ne_nil _ _, rfl, holds.works⟩, ?_⟩
  intro other isOpen
  obtain ⟨_, _, _, before, opens, entering⟩ := holds.made
  obtain ⟨⟨first, rest, us, comes, enters, step⟩, -⟩ := id isOpen
  have never := holds.not_comes rejects isOpen enters step
  have entered : Works dialect stop ([.program], words) (entrance.state dialect) :=
    before.tail entering
  -- the other one is entered in front of this one, because it is not entered behind it
  rcases entered.comparable comes with behind | ahead
  · exact absurd behind never
  · rcases Relation.ReflTransGen.cases_head ahead with same | ⟨next, once, further⟩
    · rw [same] at never
      exact absurd .refl never
    · rwa [workStep_rightUnique step once]

/-- A state tells which construct was entered. -/
theorem Entrance.eq_of_state (one : entrance.IsMade dialect stop words)
    (two : other.IsMade dialect stop words) (same : entrance.state dialect = other.state dialect) :
    entrance = other := by
  obtain ⟨_, _, _, -, opens, entering⟩ := one
  obtain ⟨more, mark⟩ := Entrance.exists_mark opens entering
  obtain ⟨_, _, _, -, opens, entering⟩ := two
  obtain ⟨others, otherMark⟩ := Entrance.exists_mark opens entering
  obtain ⟨agendas, aheads⟩ := Prod.mk.inj same
  rw [mark, otherMark] at agendas
  obtain ⟨-, construct, rest⟩ := (entrance.construct.markless_parts dialect).inj
    (other.construct.markless_parts dialect) agendas
  ext1
  · exact construct
  · rw [mark, otherMark, construct]
    exact congrArg _ rest
  · exact aheads

/-- Where an error is found, one construct only is the innermost. -/
theorem Entrance.IsInnermost.unique
    (one : entrance.IsInnermost dialect stop words (symbol :: pending, tokens))
    (two : other.IsInnermost dialect stop words (symbol :: pending, tokens))
    (rejects : symbol.expand dialect (frontOf stop tokens) = .reject found) : entrance = other := by
  obtain ⟨made, left, -, shape, works⟩ := one.1
  have comes : Works dialect stop (entrance.state dialect) (symbol :: pending, tokens) := by
    have framed := works.frame entrance.behind
    rwa [← shape] at framed
  exact Entrance.eq_of_state made two.1.1
    (comes.antisymm rejects (two.2 entrance one.1) (one.2 other two.1))

end Held

/-- **An error is found in an innermost construct**, and its mark is the first on the agenda. -/
theorem Works.exists_innermost
    (works : Works dialect stop ([.program], words) (symbol :: pending, tokens))
    (rejects : symbol.expand dialect (frontOf stop tokens) = .reject found) :
    ∃ entrance : Entrance, entrance.IsInnermost dialect stop words (symbol :: pending, tokens) ∧
      innermost? pending = some entrance.construct := by
  obtain ⟨plain, construct, innermost⟩ := works.exists_innermost? rejects
  obtain ⟨inner, behind, rfl, markless⟩ := exists_mark_of_innermost? innermost
  obtain ⟨ahead, made, further⟩ := works.entered (symbol :: inner) construct behind rfl
  have holds : Entrance.Holds dialect stop words ⟨construct, .close construct :: behind, ahead⟩
      (symbol :: inner) tokens := by
    refine ⟨made, further, ?_⟩
    intro other member
    rcases List.mem_cons.mp member with rfl | later
    · exact plain
    · exact markless other later
  exact ⟨_, holds.isInnermost rejects, innermost⟩

end Innermost

/-! ## Notes -/

/-- **Syntax errors name the innermost construct.** The tokens of a text are those that were
consumed and those ahead. Where a syntax error is found, one of the constructs that were entered and
not left was entered last. The notes of the error are the words `while parsing`, with the name of
that construct, and the hints of the error, and there is no other note. -/
theorem syntax_error_names_innermost (dialect : Dialect) (source : Source) (file : Option String)
    (diagnostic : Diagnostic) (reported : diagnostic ∈ (parse dialect source file).reports)
    (syntactic : diagnostic.code.IsE1) :
    let stop := (Scanner.start dialect source).stop
    let words := (lex dialect source).words
    ∃ before ahead symbol pending found entrance,
      words = before ++ ahead ∧
      before.length = (parse dialect source file).cursor.consumed ∧
      Works dialect stop ([.program], words) (symbol :: pending, ahead) ∧
      symbol.expand dialect (frontOf stop ahead) = .reject found ∧
      diagnostic.code = found.code ∧ diagnostic.message = found.message ∧
      entrance.IsInnermost dialect stop words (symbol :: pending, ahead) ∧
      (∀ other : Entrance, other.IsInnermost dialect stop words (symbol :: pending, ahead) →
        other = entrance) ∧
      diagnostic.notes =
        ("while parsing " ++ entrance.construct.description) :: found.violation.hints := by
  intro stop words
  obtain ⟨symbol, pending, found, before, ahead, split, count, works, rejects, rfl, code, message,
    -⟩ := exists_reject_of_reported reported syntactic
  obtain ⟨entrance, isInnermost, innermost⟩ := works.exists_innermost rejects
  have named : (found.before pending).diagnostic.notes =
      ("while parsing " ++ entrance.construct.description) :: found.violation.hints := by
    obtain ⟨violation, place, rfl, -⟩ := symbol.exists_located rejects
    rw [SyntaxError.before, innermost]
    rfl
  exact ⟨before, ahead, symbol, pending, found, entrance, split, count, works, rejects, code,
    message, isInnermost, fun other also => also.unique isInnermost rejects, named⟩

/-- An argument list is not closed in a block in a method: the list is named. -/
theorem syntax_error_names_arguments :
    let source := Source.ofString "class A \x7b void f() \x7b g(1; \x7d \x7d"
    let error := SyntaxError.expectedKinds [.rParen] ⟨.semicolon, ";", ⟨1, 25⟩⟩
    let diagnostic := (error.within .arguments).diagnostic
    let stop := (Scanner.start .mini source).stop
    let words := (lex .mini source).words
    diagnostic ∈ (parse .mini source none).reports ∧ diagnostic.code.IsE1 ∧
      ∃ before ahead symbol pending found entrance,
        words = before ++ ahead ∧
        before.length = (parse .mini source none).cursor.consumed ∧
        Works .mini stop ([.program], words) (symbol :: pending, ahead) ∧
        symbol.expand .mini (frontOf stop ahead) = .reject found ∧
        diagnostic.code = found.code ∧ diagnostic.message = found.message ∧
        entrance.IsInnermost .mini stop words (symbol :: pending, ahead) ∧
        (∀ other : Entrance, other.IsInnermost .mini stop words (symbol :: pending, ahead) →
          other = entrance) ∧
        diagnostic.notes =
          ("while parsing " ++ entrance.construct.description) :: found.violation.hints := by
  intro source error diagnostic stop words
  have reports : (parse .mini source none).reports = [diagnostic] := by decide +kernel
  have reported : diagnostic ∈ (parse .mini source none).reports := by
    rw [reports]
    exact List.mem_cons_self
  have syntactic : diagnostic.code.IsE1 := (ErrorCode.isE1_iff _).mpr rfl
  exact ⟨reported, syntactic,
    syntax_error_names_innermost .mini source none diagnostic reported syntactic⟩

end MiniJ
