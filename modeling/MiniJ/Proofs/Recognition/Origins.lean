import MiniJ.Proofs.Recognition.Readings

/-!
# What symbols remember

Some symbols remember a token that was read: the first one of an operand, the operator of an update,
the first name of a member. Each of them goes on with what began at another symbol, its origin
(`Symbol.origin?`). An expansion either has no such symbol, or its last one goes on with the same
origin, or its first one begins something new (`Symbol.expand_keeps`). So a symbol that remembers is
behind work that began at its origin and never left it (`Works.originates`), and what it remembers is
what stood there.
-/

set_option autoImplicit false

namespace MiniJ

open Grammar

/-- That a symbol at which something begins remembers what stands there: the tokens before it were
consumed, and the others are ahead. -/
def Symbol.Recalls (stop : Token) (before ahead : List Token) : Symbol → Prop
  | reference (.operand first) => frontOf stop ahead = first
  | reference (.update operator) =>
    operator.kind = .incDec ∧ ∃ earlier, before = earlier ++ [operator]
  | memberName true => ∃ earlier word, before = earlier ++ [word] ∧ word.kind = .keyword .void_
  | _ => True

/-! ## One expansion -/

/-- What the symbols of an expansion remember, when the symbol they take the place of has an origin
or none. -/
inductive Passes (origin : Option Symbol) (begins : Symbol → Prop) (symbols : List Symbol) : Prop
  | nothing : (∀ symbol ∈ symbols, symbol.origin? = none) → Passes origin begins symbols
  /-- The last symbol goes on. -/
  | on (inner : List Symbol) (last : Symbol) :
      symbols = inner ++ [last] → (∀ symbol ∈ inner, symbol.origin? = none) →
      last.origin? = origin → Passes origin begins symbols
  /-- Something begins at the first symbol. -/
  | begins {first : Symbol} {rest : List Symbol} :
      symbols = first :: rest → (∀ symbol ∈ rest, symbol.origin? = none) →
      first.origin? = some first → begins first → Passes origin begins symbols

/-- The same for an expansion in front of a token. -/
def Expansion.Keeps (origin : Option Symbol) (current : Token) : Expansion → Prop
  | replace symbols =>
    Passes origin (fun symbol => ∀ stop before ahead, frontOf stop ahead = current →
      symbol.Recalls stop before ahead) symbols
  | consume symbols =>
    Passes origin (fun symbol => ∀ stop before ahead,
      symbol.Recalls stop (before ++ [current]) ahead) symbols
  | announce _ | reject _ => True

section Expansions

variable {dialect : Dialect} {current : Token} {origin : Option Symbol}

theorem Reading.origin?_symbol (purpose : Purpose) (reading : Reading) :
    (reading.symbol purpose).origin? = some (.reference purpose) := by
  cases reading <;> rfl

/-- Behind what was classified nothing of it is remembered. -/
theorem expandClassified_keeps (purpose : Purpose) (result : Classification) (current : Token) :
    (expandClassified purpose result current).Keeps origin current := by
  cases purpose with
  | operand first | update operator =>
      simp only [expandClassified]
      split
      · trivial
      · exact .nothing (by simp)
  | statement place =>
      cases place
      all_goals
        simp only [expandClassified, assign, standAlone, afterStatement]
        repeat' split
      all_goals first | trivial | exact .nothing (by simp [Symbol.origin?])
  | forUpdate =>
      simp only [expandClassified, assign, standAlone]
      repeat' split
      all_goals first | trivial | exact .nothing (by simp [Symbol.origin?])

/-- A reading goes on, or it ends. -/
theorem Reading.expand_keeps (dialect : Dialect) (current : Token) (purpose : Purpose)
    (reading : Reading) :
    ((reading.symbol purpose).expand dialect current).Keeps (some (.reference purpose)) current := by
  by_cases isOver : ∃ result, reading = .classified result
  · obtain ⟨result, rfl⟩ := isOver
    exact expandClassified_keeps purpose result current
  · rw [not_exists] at isOver
    cases Reading.becomes dialect current isOver with
    | replace inner next forgets expands =>
        rw [expands]
        exact .on _ _ rfl forgets (next.origin?_symbol purpose)
    | consume inner next forgets expands =>
        rw [expands]
        exact .on _ _ rfl forgets (next.origin?_symbol purpose)
    | reject error _ expands =>
        rw [expands]
        trivial

/-- An operand may begin. -/
theorem expandExpression_keeps (arrayLiteral : Bool) (current : Token) :
    (expandExpression arrayLiteral current).Keeps origin current := by
  have begins : Expansion.Keeps origin current
      (.replace [.reference (.operand current), .expressionEnd]) :=
    .begins rfl (by simp [Symbol.origin?]) rfl fun _ _ _ front => front
  simp only [expandExpression]
  repeat' split
  all_goals first | exact begins | exact .nothing (by simp [Symbol.origin?])

/-- The type-or-reference with which a statement begins may begin. -/
theorem expandStatementBody_keeps (place : Place) (current : Token) :
    (expandStatementBody place current).Keeps origin current := by
  have begins : Expansion.Keeps origin current (.replace [.reference (.statement place)]) :=
    .begins rfl (by simp) rfl fun _ _ _ _ => trivial
  cases place
  all_goals
    simp only [expandStatementBody, condition, afterStatement]
    split
  all_goals first | exact begins | exact .nothing (by simp [Symbol.origin?])

/-- The first name of a member without a type goes on. -/
theorem expandMemberEnd_keeps (isVoid : Bool) (first : Token) (several : Bool) (current : Token) :
    (expandMemberEnd dialect isVoid first several current).Keeps
      (Symbol.memberEnd isVoid first several).origin? current := by
  rw [expandMemberEnd]
  split
  · refine .on [.token .ident] _ rfl (by simp [Symbol.origin?]) ?_
    cases isVoid <;> rfl
  · repeat' split
    all_goals first
      | trivial
      | exact .nothing (by simp [Symbol.origin?])

end Expansions

/-- **What a symbol remembers it has from its origin**, or it stands where something begins. -/
theorem Symbol.expand_keeps (dialect : Dialect) (current : Token) (symbol : Symbol) :
    (symbol.expand dialect current).Keeps symbol.origin? current := by
  cases symbol with
  -- The readings of a phrase pass its purpose on; updates and members are where something begins.
  | reference purpose => exact Reading.expand_keeps dialect current purpose .start
  | suffixes purpose soFar last =>
      exact Reading.expand_keeps dialect current purpose (.suffixes soFar last)
  | insideBrackets purpose soFar =>
      exact Reading.expand_keeps dialect current purpose (.insideBrackets soFar)
  | classified purpose result => exact expandClassified_keeps purpose result current
  | expression arrayLiteral => exact expandExpression_keeps arrayLiteral current
  | statementBody place => exact expandStatementBody_keeps place current
  | memberEnd isVoid first several => exact expandMemberEnd_keeps isVoid first several current
  | update =>
      simp only [expand]
      split
      · rename_i isSign
        exact .begins rfl (by simp) rfl fun _ before _ => ⟨isSign, before, rfl⟩
      · trivial
  | forUpdate =>
      simp only [expand, expandForUpdate]
      split
      · exact .nothing (by simp)
      split
      · exact .nothing (by simp [origin?])
      · exact .begins rfl (by simp) rfl fun _ _ _ _ => trivial
  | statement place | declarationEnd place =>
      cases place
      all_goals
        simp only [expand, expandDeclarationEnd, afterStatement]
        repeat' split
      all_goals exact .nothing (by simp [origin?])
  | memberType =>
      simp only [expand]
      split
      · rename_i isVoid
        exact .begins rfl (by simp) rfl fun _ before _ => ⟨before, current, rfl, isVoid⟩
      · exact .nothing (by simp [origin?])
  | memberName isVoid =>
      simp only [expand]
      split
      · refine .on [] _ rfl (by simp) ?_
        cases isVoid <;> rfl
      · trivial
  | _ =>
      simp only [expand, expandType, expandTypeSuffixes, expandExpressionEnd,
        expandConstructorArguments, expandTryEnd, expandImportName, Grammar.optional,
        classDeclaration, wholeProgram]
      repeat' split
      all_goals first | trivial | exact .nothing (by simp [origin?])

theorem Passes.mono {origin : Option Symbol} {begins more : Symbol → Prop} {symbols : List Symbol}
    (further : ∀ symbol, begins symbol → more symbol) (passes : Passes origin begins symbols) :
    Passes origin more symbols := by
  cases passes with
  | nothing forgets => exact .nothing forgets
  | on inner last shape forgets same => exact .on inner last shape forgets same
  | begins shape forgets itself fresh => exact .begins shape forgets itself (further _ fresh)

/-- Where a symbol with an origin stands in an expansion: it is the last one and goes on, or it is
the first one and begins. -/
theorem Passes.of_split {origin : Option Symbol} {begins : Symbol → Prop}
    {symbols front pending : List Symbol} {symbol own : Symbol}
    (passes : Passes origin begins symbols) (split : symbols = front ++ symbol :: pending)
    (remembers : symbol.origin? = some own) :
    (pending = [] ∧ origin = some own) ∨ (front = [] ∧ symbol = own ∧ begins own) := by
  cases passes with
  | nothing forgets =>
      have member : symbol ∈ symbols := by simp [split]
      cases (forgets symbol member).symm.trans remembers
  | on inner last shape forgets same =>
      left
      rcases List.eq_nil_or_concat pending with rfl | ⟨pending, other, rfl⟩
      · have shape : front ++ [symbol] = inner ++ [last] := split.symm.trans shape
        obtain ⟨-, own⟩ := List.append_inj' shape rfl
        cases own
        exact ⟨rfl, same.symm.trans remembers⟩
      -- With more behind it, the symbol would stand among those that remember nothing.
      · have shape : (front ++ symbol :: pending) ++ [other] = inner ++ [last] := by
          rw [← shape, split]
          simp
        obtain ⟨same, -⟩ := List.append_inj' shape rfl
        have member : symbol ∈ inner := by simp [← same]
        cases (forgets symbol member).symm.trans remembers
  | @begins first rest shape forgets itself fresh =>
      right
      cases front with
      | nil =>
          obtain ⟨rfl, -⟩ := List.cons.inj (shape.symm.trans split)
          cases itself.symm.trans remembers
          exact ⟨rfl, rfl, fresh⟩
      | cons other front =>
          obtain ⟨-, same⟩ := List.cons.inj (shape.symm.trans split)
          have member : symbol ∈ rest := by simp [same]
          cases (forgets symbol member).symm.trans remembers

/-! ## Work that never leaves an origin -/

/-- That work which began at a symbol comes to an agenda whose last symbol always went on with it. -/
def Pursues (dialect : Dialect) (stop : Token) (origin : Symbol) (ts : List Token) :
    List Symbol × List Token → Prop :=
  Relation.ReflTransGen
    (fun here there => WorkStep dialect stop here there ∧
      ∃ inner last, there.1 = inner ++ [last] ∧ last.origin? = some origin)
    ([origin], ts)

section Work

variable {dialect : Dialect} {stop : Token} {origin : Symbol} {ts words : List Token}
  {here there : List Symbol × List Token}

theorem Pursues.works (pursues : Pursues dialect stop origin ts there) :
    Works dialect stop ([origin], ts) there :=
  Relation.ReflTransGen.mono (fun _ _ both => both.1) _ _ pursues

/-- That each symbol on an agenda that goes on with another one is behind work that began there, and
that the other one remembers what stood there. -/
def Originates (dialect : Dialect) (stop : Token) (words : List Token)
    (state : List Symbol × List Token) : Prop :=
  ∀ front symbol pending origin, state.1 = front ++ symbol :: pending →
    symbol.origin? = some origin →
    ∃ before ts, words = before ++ ts ∧ origin.Recalls stop before ts ∧
      Pursues dialect stop origin ts (front ++ [symbol], state.2)

/-- What a step does to an agenda and to what its symbols remember. -/
theorem WorkStep.passes (step : WorkStep dialect stop here there) :
    ∃ symbol symbols rest consumed, here.1 = symbol :: rest ∧ there.1 = symbols ++ rest ∧
      here.2 = consumed ++ there.2 ∧
      (∀ pending, WorkStep dialect stop (symbol :: pending, here.2)
        (symbols ++ pending, there.2)) ∧
      Passes symbol.origin?
        (fun origin => ∀ before, origin.Recalls stop (before ++ consumed) there.2) symbols := by
  cases step with
  | @replace symbol symbols rest tokens expands =>
      have keeps := symbol.expand_keeps dialect (frontOf stop tokens)
      rw [expands] at keeps
      exact ⟨symbol, symbols, rest, [], rfl, rfl, rfl, fun _ => .replace expands,
        Passes.mono (fun _ fresh before => fresh stop _ tokens rfl) keeps⟩
  | @consume symbol symbols rest current tokens expands =>
      have keeps := symbol.expand_keeps dialect current
      rw [expands] at keeps
      exact ⟨symbol, symbols, rest, [current], rfl, rfl, rfl, fun _ => .consume expands,
        Passes.mono (fun _ fresh before => fresh stop before tokens) keeps⟩
  | @announce symbol event rest tokens expands =>
      exact ⟨symbol, [], rest, [], rfl, rfl, rfl, fun _ => .announce expands, .nothing (by simp)⟩

/-- **A step keeps where the symbols come from.** A pending symbol stays behind the same work with
one step more, and a new one goes on with the symbol on top or begins at the token in front. -/
theorem Originates.step (originates : Originates dialect stop words here)
    (all : ∃ before, words = before ++ here.2) (step : WorkStep dialect stop here there) :
    Originates dialect stop words there := by
  intro front symbol pending origin split remembers
  obtain ⟨top, symbols, rest, consumed, onTop, left, tokens, works, passes⟩ := step.passes
  rw [left] at split
  -- one more step of what a symbol is behind
  have further {front' : List Symbol} (shape : symbols ++ front' = front ++ [symbol]) {ts}
      (pursues : Pursues dialect stop origin ts (top :: front', here.2)) :
      Pursues dialect stop origin ts (front ++ [symbol], there.2) := by
    refine Relation.ReflTransGen.tail pursues ⟨?_, front, symbol, rfl, remembers⟩
    rw [← shape]
    exact works front'
  rcases List.append_eq_append_iff.mp split with ⟨inner, rfl, behind⟩ | ⟨inner, within, behind⟩
  · obtain ⟨before, ts, whole, recalls, pursues⟩ :=
      originates (top :: inner) symbol pending origin (by rw [onTop, behind]; rfl) remembers
    exact ⟨before, ts, whole, recalls, further (by simp) pursues⟩
  · cases inner with
    | nil =>
        obtain ⟨before, ts, whole, recalls, pursues⟩ :=
          originates [top] symbol pending origin (by rw [onTop]; simpa using behind.symm) remembers
        refine ⟨before, ts, whole, recalls, further ?_ pursues⟩
        rw [within, List.append_nil]
        rfl
    | cons other inner =>
        obtain ⟨rfl, rfl⟩ := List.cons.inj behind
        rcases passes.of_split within remembers with ⟨rfl, same⟩ | ⟨rfl, rfl, fresh⟩
        · obtain ⟨before, ts, whole, recalls, pursues⟩ :=
            originates [] top rest origin onTop same
          refine ⟨before, ts, whole, recalls, further ?_ pursues⟩
          rw [within, List.append_nil]
        · obtain ⟨before, whole⟩ := all
          refine ⟨before ++ consumed, there.2, ?_, fresh before, .refl⟩
          rw [whole, tokens, List.append_assoc]

/-- **In all work from the program each symbol has its origin.** The induction is on the work. -/
theorem Works.originates (works : Works dialect stop ([.program], words) there) :
    Originates dialect stop words there := by
  induction works with
  | refl =>
      intro front symbol pending origin split remembers
      have split : [Symbol.program] = front ++ symbol :: pending := split
      have member : symbol ∈ [Symbol.program] := by simp [split]
      rw [List.mem_singleton.mp member] at remembers
      cases remembers
  | tail before step ih =>
      obtain ⟨earlier, split⟩ := Works.suffix before
      exact ih.step ⟨earlier, split.symm⟩ step

end Work

end MiniJ
