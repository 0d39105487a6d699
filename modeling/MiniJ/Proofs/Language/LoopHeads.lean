import MiniJ.Proofs.Language.Exactness
import MiniJ.Proofs.Language.Nesting
import MiniJ.Proofs.Language.Phrases

/-!
# The heads of loops

At every `for` of an accepted text a loop of the grammar begins (`forLoop_of_accepted`), whose head
is a loop over values or has three clauses. The brackets of the head are balanced, so it ends at the
parenthesis that closes it, and the forecasts of the grammar count its semicolons.

The first clause is meant to be a declaration, an assignment, an update or a call with its own
semicolon, or that semicolon alone. But no branch for blocks and for `return` looks at the place of
the statement, so these are first clauses as well, and behind a block the head has one semicolon
only. `for_heads` says what a head can be.
-/

set_option autoImplicit false

namespace MiniJ

open Ebnf MiniJ.Language

/-! ## What a head can be -/

/-- A head over values: a type, a name, a colon and the values. -/
def IsValuesHead (dialect : Dialect) (header : List Token) : Prop :=
  ∃ type name colon values, header = type ++ name :: colon :: values ∧
    Derives dialect (phrase .declared) type [] ∧ name.kind = .ident ∧ colon.kind = .colon ∧
    Derives dialect (phrase .expression) values []

/-- A head of three clauses of which the first is given, with its own end. The other two may be
missing. -/
def IsClauseHead (dialect : Dialect) (init header : List Token) : Prop :=
  ∃ condition semicolon update, header = init ++ (condition ++ semicolon :: update) ∧
    semicolon.kind = .semicolon ∧
    (condition = [] ∨ Derives dialect (phrase .expression) condition []) ∧
    (update = [] ∨ Derives dialect (phrase .update) update [])

/-- The first clauses that are meant: each ends in its own semicolon. -/
inductive EndedClause (dialect : Dialect) (init : List Token) : Prop
  | empty : Derives dialect (tok .semicolon) init [] → EndedClause dialect init
  | declaration :
      Derives dialect (seq [phrase .declared, tok .ident, declarationEnd dialect]) init [] →
      EndedClause dialect init
  | assignment :
      Derives dialect (seq [phrase .target, assignment, phrase .expression, tok .semicolon])
        init [] → EndedClause dialect init
  /-- An update with the sign in front. -/
  | count : Derives dialect count init [] → EndedClause dialect init
  /-- An update with the sign behind. -/
  | update : Derives dialect (seq [phrase .target, tok .incDec, tok .semicolon]) init [] →
      EndedClause dialect init
  | call : Derives dialect (seq [phrase .call, tok .semicolon]) init [] → EndedClause dialect init

/-- That no keyword but `this` stands in front. -/
def NoKeywordLeads (tokens : List Token) : Prop :=
  ∀ first ∈ tokens.head?, ∀ word, first.kind = .keyword word → word = .this_

section Heads

variable {dialect : Dialect} {ts us init header : List Token}

/-! ## Loops of the grammar -/

/-- No terminal of these stands for the word `for`. -/
def NoFor (signs : List Sign) : Prop :=
  ∀ sign ∈ signs, TokenKind.keyword .for_ ∉ sign.kinds

instance (signs : List Sign) : Decidable (NoFor signs) :=
  inferInstanceAs (Decidable (∀ sign ∈ signs, TokenKind.keyword .for_ ∉ sign.kinds))

theorem NoFor.plain {signs : List Sign} (noFor : NoFor signs) :
    ∀ sign ∈ signs, ∀ token : Token, sign.Admits token → ¬ token.kind = .keyword .for_ := by
  intro sign member token admits isFor
  have among := admits.mem_kinds
  rw [isFor] at among
  exact noFor sign member among

/-- **At each `for` of a program a loop begins.** Only the rule for loops has the word, and it has
it in front. -/
theorem forLoop_of_isProgram {before rest : List Token} {sign : Token}
    (program : IsProgram dialect (before ++ sign :: rest)) (isFor : sign.kind = .keyword .for_) :
    ∃ us, Derives dialect (phrase .forLoop) (sign :: rest) us := by
  have others : ∀ name, name ≠ .forLoop → NoFor (rule dialect name).terminals := by
    intro name other
    cases dialect <;> cases name <;> first | exact absurd rfl other | decide
  have begins : Begins (fun token : Token => token.kind = .keyword .for_)
      (fun ts => ∃ us, Derives dialect (phrase .forLoop) ts us) (before ++ sign :: rest) [] :=
    Ebnf.Derives.begins rfl (NoFor.plain (by decide)) (fun name other => (others name other).plain)
      (NoFor.plain (by decide)) program
  exact begins before sign rest rfl List.nil_suffix isFor

/-- The same for the tokens of an accepted text. -/
theorem forLoop_of_accepted {source : Source} {file : Option String}
    (accepted : (parse dialect source file).verdict = .accepted) {before rest : List Token}
    {sign : Token} (split : (lex dialect source).words = before ++ sign :: rest)
    (isFor : sign.kind = .keyword .for_) :
    ∃ us, Derives dialect (phrase .forLoop) (sign :: rest) us := by
  have program : IsProgram dialect (lex dialect source).words := by
    obtain ⟨verdict, cursor, seen, here, ended, -, settles⟩ := parse_settles dialect source file
    rw [ended] at accepted
    cases accepted
    cases settles with
    | accepted accepts => exact (accepts_words_iff dialect source).mp accepts
  rw [split] at program
  exact forLoop_of_isProgram program isFor

/-! ## Their heads -/

/-- A head of three clauses as one part, by its first clause. -/
def clauseHead (start : Part) : Part :=
  seq [start, opt (phrase .expression), tok .semicolon, opt (phrase .update)]

/-- A head over values as one part. -/
def valuesHead : Part := seq [phrase .declared, tok .ident, tok .colon, phrase .expression]

/-- The parts that a first clause can be. -/
def firstClauses : List Part :=
  [tok .semicolon, phrase .block, returnStatement, count, phrase .simple]

/-- What a loop has in its parentheses. -/
theorem head_of_forLoop {sign : Token} {rest : List Token}
    (loop : Derives dialect (phrase .forLoop) (sign :: rest) us) :
    ∃ opening header closing body, rest = opening :: (header ++ closing :: body) ∧
      opening.kind = .lParen ∧ closing.kind = .rParen ∧
      (Derives dialect valuesHead header [] ∨
        ∃ start ∈ firstClauses, Derives dialect (clauseHead start) header []) := by
  obtain ⟨_, ⟨_, -, same⟩, _, ⟨opening, isOpening, rfl⟩, _, inner, -⟩ := loop.rule.reads
  obtain ⟨rfl, rfl⟩ := List.cons.inj same
  -- either head stands in front of its parenthesis, and what stands behind that does not matter
  rcases inner with ⟨_, clauses, _, ⟨_, condition, _, semicolon, _, update, _,
      ⟨closing, isClosing, rfl⟩, -⟩, -⟩ |
    ⟨_, type, _, name, _, colon, _, values, _, ⟨closing, isClosing, rfl⟩, -⟩ | never
  · have clauses : Derives dialect (oneOf firstClauses) _ _ := .of_reads clauses
    obtain ⟨start, among, first⟩ := clauses.exists_alternative
    have head : Derives dialect (clauseHead start) _ (closing :: _) :=
      .sequence first (.sequence (.of_reads condition) (.sequence (.of_reads semicolon)
        (.sequence (.of_reads update) .empty)))
    obtain ⟨header, rfl, own⟩ := Ebnf.Derives.cut head (List.nil_append _).symm
    exact ⟨opening, header, closing, _, rfl, isOpening, isClosing, .inr ⟨start, among, own⟩⟩
  · have head : Derives dialect valuesHead _ (closing :: _) :=
      .sequence (.of_reads type) (.sequence (.of_reads name) (.sequence (.of_reads colon)
        (.sequence (.of_reads values) .empty)))
    obtain ⟨header, rfl, own⟩ := Ebnf.Derives.cut head (List.nil_append _).symm
    exact ⟨opening, header, closing, _, rfl, isOpening, isClosing, .inl own⟩
  · exact never.elim

/-- A part that may be missing is missing, or it is there. -/
theorem eq_nil_or_of_opt {part : Part} (derives : Derives dialect (opt part) ts []) :
    ts = [] ∨ Derives dialect part ts [] := by
  rcases derives.reads with there | missing
  · exact .inr (.of_reads there)
  · exact .inl missing

/-- A token of a kind. -/
theorem eq_singleton_of_tok {kind : TokenKind} (derives : Derives dialect (tok kind) ts []) :
    ∃ token, ts = [token] ∧ token.kind = kind := by
  obtain ⟨token, isOfKind, rfl⟩ := derives.reads
  exact ⟨token, rfl, isOfKind⟩

/-- The clauses of a head. -/
theorem exists_clauses {start : Part} (derives : Derives dialect (clauseHead start) header []) :
    ∃ init, Derives dialect start init [] ∧ IsClauseHead dialect init header := by
  obtain ⟨init, _, rfl, first, derives⟩ := derives.exists_words
  obtain ⟨condition, _, rfl, middle, derives⟩ := derives.exists_words
  obtain ⟨_, _, rfl, ends, derives⟩ := derives.exists_words
  obtain ⟨update, _, rfl, last, nothing⟩ := derives.exists_words
  cases nothing
  obtain ⟨semicolon, rfl, isSemicolon⟩ := eq_singleton_of_tok ends
  exact ⟨init, first, condition, semicolon, update, by simp, isSemicolon,
    eq_nil_or_of_opt middle, eq_nil_or_of_opt last⟩

theorem isValuesHead_of_derives (derives : Derives dialect valuesHead header []) :
    IsValuesHead dialect header := by
  obtain ⟨type, _, rfl, declared, derives⟩ := derives.exists_words
  obtain ⟨_, _, rfl, second, derives⟩ := derives.exists_words
  obtain ⟨_, _, rfl, third, derives⟩ := derives.exists_words
  obtain ⟨values, _, rfl, expression, nothing⟩ := derives.exists_words
  cases nothing
  obtain ⟨name, rfl, isName⟩ := eq_singleton_of_tok second
  obtain ⟨colon, rfl, isColon⟩ := eq_singleton_of_tok third
  exact ⟨type, name, colon, values, by simp, declared, isName, isColon, expression⟩

/-- A statement without a keyword is one of four. -/
theorem endedClause_of_simple (simple : Derives dialect (phrase .simple) init []) :
    EndedClause dialect init := by
  rcases simple.rule.reads with declaration | assigns | updates | call | never
  · exact .declaration (.of_reads declaration)
  · exact .assignment (.of_reads assigns)
  · exact .update (.of_reads updates)
  · exact .call (.of_reads call)
  · exact never.elim

theorem noKeywordLeads_of_row {stage : SuffixStage} (row : Row dialect stage ts us) :
    NoKeywordLeads ts := by
  intro first inFront word here
  obtain ⟨rest, rfl⟩ : ∃ rest, ts = first :: rest := List.head?_eq_some_iff.mp inFront
  have begins := row.begins first []
  rw [List.append_nil, frontOf_cons, here] at begins
  cases word with
  | this_ => rfl
  | _ => cases begins

/-- No clause that ends in its own semicolon begins with another keyword. -/
theorem EndedClause.noKeywordLeads (clause : EndedClause dialect init) : NoKeywordLeads init := by
  -- all but two begin with a phrase for a type-or-reference
  have ofPhrase {name : Phrase} {rest : Part} (among : name ∈ readPhrases)
      (derives : Derives dialect (Ebnf.sequence (phrase name) rest) init []) :
      NoKeywordLeads init := by
    obtain ⟨vs, first, -⟩ := derives.reads
    obtain ⟨stage, row⟩ := row_of_derives among (.of_reads first)
    exact noKeywordLeads_of_row row
  cases clause with
  | empty derives =>
      obtain ⟨semicolon, rfl, isSemicolon⟩ := eq_singleton_of_tok derives
      rintro first ⟨⟩ word here
      cases isSemicolon.symm.trans here
  | count derives =>
      obtain ⟨_, ⟨operator, isSign, rfl⟩, -⟩ := derives.reads
      rintro first ⟨⟩ word here
      cases isSign.symm.trans here
  | declaration derives | assignment derives | update derives | call derives =>
      exact ofPhrase (by decide) derives

end Heads

/-- **What the head of a loop can be**, in every accepted text and at every `for` in it. The brackets
inside of it are balanced, so it ends at the parenthesis that closes it. It is a head over values,
or it has three clauses. Then the first clause is one that ends in its own semicolon and begins with
no keyword but `this`, and the head has exactly two semicolons outside of nested brackets, or it is
a `return` statement, again with two, or it is a block, and then there is one. -/
theorem for_heads (dialect : Dialect) (source : Source) (file : Option String)
    (accepted : (parse dialect source file).verdict = .accepted) (before rest : List Token)
    (sign : Token) (split : (lex dialect source).words = before ++ sign :: rest)
    (isFor : sign.kind = .keyword .for_) :
    ∃ opening header closing body, rest = opening :: (header ++ closing :: body) ∧
      opening.kind = .lParen ∧ closing.kind = .rParen ∧
      ((IsValuesHead dialect header ∧ semicolonsOutside? header = some 0) ∨
        ∃ init, IsClauseHead dialect init header ∧
          ((EndedClause dialect init ∧ NoKeywordLeads init ∧
              semicolonsOutside? header = some 2) ∨
            (Derives dialect returnStatement init [] ∧ semicolonsOutside? header = some 2) ∨
            (Derives dialect (phrase .block) init [] ∧ semicolonsOutside? header = some 1))) := by
  obtain ⟨us, loop⟩ := forLoop_of_accepted accepted split isFor
  obtain ⟨opening, header, closing, body, shape, isOpening, isClosing, head⟩ :=
    head_of_forLoop loop
  refine ⟨opening, header, closing, body, shape, isOpening, isClosing, ?_⟩
  rcases head with values | ⟨start, among, clauses⟩
  · have none : Balanced (some 0) header := balanced_of_derives values (by decide)
    exact .inl ⟨isValuesHead_of_derives values, none.semicolonsOutside⟩
  · right
    obtain ⟨init, first, shape⟩ := exists_clauses clauses
    refine ⟨init, shape, ?_⟩
    have ended (clause : EndedClause dialect init) (two : Balanced (some 2) header) :
        EndedClause dialect init ∧ NoKeywordLeads init ∧ semicolonsOutside? header = some 2 :=
      ⟨clause, clause.noKeywordLeads, two.semicolonsOutside⟩
    -- the first clause decides how many semicolons the grammar forecasts for the head
    simp only [firstClauses, List.mem_cons, List.not_mem_nil, or_false] at among
    rcases among with rfl | rfl | rfl | rfl | rfl
    · exact .inl (ended (.empty first) (balanced_of_derives clauses (by decide)))
    · have one : Balanced (some 1) header := balanced_of_derives clauses (by decide)
      exact .inr (.inr ⟨first, one.semicolonsOutside⟩)
    · have two : Balanced (some 2) header := balanced_of_derives clauses (by decide)
      exact .inr (.inl ⟨first, two.semicolonsOutside⟩)
    · exact .inl (ended (.count first) (balanced_of_derives clauses (by decide)))
    · exact .inl (ended (endedClause_of_simple first) (balanced_of_derives clauses (by decide)))

/-- A loop whose first clause is a block, so that its head has one semicolon. -/
theorem for_heads_block :
    let source := Source.ofString "class A \x7b void m() \x7b for (\x7b \x7d ; ) \x7b \x7d \x7d \x7d"
    let words := (lex .mini source).words
    (parse .mini source none).verdict = .accepted ∧
      words = words.take 8 ++ ⟨.keyword .for_, "for", ⟨1, 22⟩⟩ :: words.drop 9 ∧
      ∃ opening header closing body, words.drop 9 = opening :: (header ++ closing :: body) ∧
        opening.kind = .lParen ∧ closing.kind = .rParen ∧
        ((IsValuesHead .mini header ∧ semicolonsOutside? header = some 0) ∨
          ∃ init, IsClauseHead .mini init header ∧
            ((EndedClause .mini init ∧ NoKeywordLeads init ∧
                semicolonsOutside? header = some 2) ∨
              (Derives .mini returnStatement init [] ∧ semicolonsOutside? header = some 2) ∨
              (Derives .mini (phrase .block) init [] ∧ semicolonsOutside? header = some 1))) := by
  intro source words
  have accepted : (parse .mini source none).verdict = .accepted := by decide +kernel
  have split : words = words.take 8 ++ ⟨.keyword .for_, "for", ⟨1, 22⟩⟩ :: words.drop 9 := by
    decide +kernel
  exact ⟨accepted, split, for_heads .mini source none accepted _ _ _ split rfl⟩

end MiniJ
