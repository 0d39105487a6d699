import MiniJ.Proofs.Language.Types
import MiniJ.Proofs.Recognition.OpenConstructs

/-!
# Fields and methods

A member begins with its head: markers, `void` or a type, and names (`MemberHead`). What stands
behind the head says whether the member is a field or a method, and that may contradict the head
(`MemberHead.Conflicts`). The recognizer comes from the beginning of a member to where its head was
read (`MemberHead.works`), and it comes there in no other way (`exists_head`), so the symbol that
looks for contradictions does it behind heads only.

The main statement is `member_conflicts`.
-/

set_option autoImplicit false

namespace MiniJ

open Ebnf Grammar MiniJ.Language

/-! ## Heads -/

/-- The tokens of the head of a member. -/
structure MemberHead (dialect : Dialect) where
  markers : List Token
  isVoid : Bool
  /-- The tokens of the type, or `void`. -/
  type : List Token
  first : Token
  /-- The commas and names behind the first name. -/
  more : List (Token × Token)
  markers_derives : Derives dialect Language.markers markers []
  type_derives : Derives dialect (if isVoid then word .void_ else phrase .type) type []
  first_kind : first.kind = .ident
  more_kinds : ∀ pair ∈ more, pair.1.kind = .comma ∧ pair.2.kind = .ident

/-- Commas and names as they stand in a text. -/
def namesOf (more : List (Token × Token)) : List Token :=
  more.flatMap fun pair => [pair.1, pair.2]

namespace MemberHead

variable {dialect : Dialect}

def tokens (head : MemberHead dialect) : List Token :=
  head.markers ++ (head.type ++ head.first :: namesOf head.more)

/-- How many names there are. -/
def count (head : MemberHead dialect) : Nat :=
  head.more.length + 1

/-- Whether there is more than one name. -/
def several (head : MemberHead dialect) : Bool :=
  !head.more.isEmpty

theorem several_iff (head : MemberHead dialect) : head.several = true ↔ 2 ≤ head.count := by
  cases more : head.more with
  | nil => simp [several, count, more]
  | cons pair pairs => simp [several, count, more]

/-- That the token behind the head makes the member something that its head is not: a field without
a type, a method with several names, or a field with an initial value in the mini dialect. -/
def Conflicts (head : MemberHead dialect) (next : Token) : Prop :=
  (head.isVoid = true ∧ 2 ≤ head.count) ∨
    (next.kind = .lParen ∧ 2 ≤ head.count) ∨
    (next.kind = .assign ∧ dialect = .mini) ∨
    ((next.kind = .assign ∨ next.kind = .semicolon) ∧ head.isVoid = true)

/-- The token at which a contradiction is reported. -/
def blamed (head : MemberHead dialect) (next : Token) : Token :=
  if head.isVoid = true ∧ 2 ≤ head.count then head.first else next

/-! ## What stands behind a head -/

/-- The symbol that comes to what stands behind the head. -/
def ending (head : MemberHead dialect) : Symbol :=
  .memberEnd head.isVoid head.first head.several

variable {head : MemberHead dialect} {next : Token}

theorem expand_conflicts (noComma : next.kind ≠ .comma) (conflicts : head.Conflicts next) :
    ∃ found, head.ending.expand dialect next = .reject found ∧ found.code = .invalidMember ∧
      found.position = (head.blamed next).position := by
  simp only [ending, Symbol.expand, expandMemberEnd, if_neg noComma, Bool.and_eq_true, several_iff]
  -- several names behind `void` are refused before the token is looked at
  by_cases both : head.isVoid = true ∧ 2 ≤ head.count
  · rw [if_pos both, blamed, if_pos both]
    exact ⟨_, rfl, rfl, rfl⟩
  rw [if_neg both, blamed, if_neg both]
  rcases conflicts with never | ⟨isParen, several⟩ | ⟨isAssign, rfl⟩ |
    ⟨isAssign | isSemicolon, isVoid⟩
  · exact absurd never both
  · rw [isParen]
    simp only [if_pos several]
    exact ⟨_, rfl, rfl, rfl⟩
  · rw [isAssign]
    exact ⟨_, rfl, rfl, rfl⟩
  · cases dialect
    all_goals
      rw [isAssign]
      simp only [isVoid]
      exact ⟨_, rfl, rfl, rfl⟩
  · rw [isSemicolon]
    simp only [if_pos isVoid]
    exact ⟨_, rfl, rfl, rfl⟩

/-- Without a contradiction the token behind the head alone decides. -/
theorem expand_free (noComma : next.kind ≠ .comma) (free : ¬ head.Conflicts next) :
    head.ending.expand dialect next =
      match next.kind with
      | .semicolon => .consume []
      | .lParen =>
        .replace [.announce (.methodNamed head.first), .token .lParen, .parameters, .throwsClause,
          .block]
      | .assign => .consume [.expression true, .token .semicolon]
      | _ => .reject (.unexpected "in class body" next) := by
  simp only [Conflicts, not_or, not_and] at free
  obtain ⟨both, many, initial, noField⟩ := free
  simp only [ending, Symbol.expand, expandMemberEnd, if_neg noComma, Bool.and_eq_true, several_iff,
    if_neg (not_and.mpr both)]
  cases here : next.kind with
  | lParen => simp [many here]
  | semicolon => simp [noField (.inr here)]
  | assign =>
      have isExtended : dialect = .extended := by
        cases dialect with
        | mini => exact absurd rfl (initial here)
        | extended => rfl
      simp [isExtended, Dialect.isMini, noField (.inl here)]
  | _ => rfl

end MemberHead

/-! ## Reading heads -/

section Reading

variable {dialect : Dialect} {stop last first : Token} {t after ahead : List Token}
  {isVoid several : Bool}

/-- Whether a token begins a type or is `void`. -/
def TokenKind.beginsMember : TokenKind → Bool
  | ident | primitive _ | keyword .void_ => true
  | _ => false

/-- Markers are worked off in front of what is none. -/
theorem works_markers (stops : stop.kind = .eot) (begins : last.kind.beginsMember = true)
    (derives : Derives dialect Language.markers t []) :
    Works dialect stop ([.markers], t ++ last :: after) ([], last :: after) := by
  have free : last.kind ∉ [.leftChevron, .protection, .modifier] := by
    intro other
    simp only [List.mem_cons, List.not_mem_nil, or_false] at other
    rcases other with here | here | here
    all_goals
      rw [here] at begins
      cases begins
  rw [List.mem_cons, not_or] at free
  have longer : Derives dialect Language.markers (t ++ last :: after) (last :: after) :=
    derives_in_front free.1 (by simp [Language.markers, excluded, seq, opt, tok]) derives
  refine works_exactly_iff.mpr ?_
  exact accepts_markers (longer.least (accepting_of_takes stops)) free.2 (accepts_agendaOf _)

/-- Where a type is read, it is one from its first token on. -/
theorem begins_of_works_type {us : List Token}
    (works : Works dialect stop ([.type true], t) ([], us)) :
    ∃ first rest, t = first :: rest ∧ first.kind.beginsMember = true ∧
      first.kind ≠ .keyword .void_ := by
  have reads
      (consumes : ∃ symbols,
        (Symbol.type true).expand dialect (frontOf stop t) = .consume symbols)
      (begins : (frontOf stop t).kind.beginsMember = true ∧
        (frontOf stop t).kind ≠ .keyword .void_) :
      ∃ first rest, t = first :: rest ∧ first.kind.beginsMember = true ∧
        first.kind ≠ .keyword .void_ := by
    obtain ⟨symbols, consumes⟩ := consumes
    obtain ⟨first, rest, rfl, -⟩ := works.of_consume nofun consumes
    exact ⟨first, rest, rfl, begins⟩
  -- Work that comes to its end has consumed the first token, so it was not rejected.
  cases here : (frontOf stop t).kind with
  | primitive name =>
      refine reads ?_ (by simp [here, TokenKind.beginsMember])
      rw [Symbol.expand, expandType, here]
      exact ⟨_, (apply_ite Expansion.consume _ _ _).symm⟩
  | ident =>
      refine reads ?_ (by simp [here, TokenKind.beginsMember])
      rw [Symbol.expand, expandType, here]
      exact ⟨_, rfl⟩
  | _ =>
      have rejects : (Symbol.type true).expand dialect (frontOf stop t) =
          .reject (.expectedKinds [.ident] (frontOf stop t)) := by
        rw [Symbol.expand, expandType, here]
      cases works.eq_of_reject rejects

/-- Further names are worked off. -/
theorem works_names {more : List (Token × Token)}
    (kinds : ∀ pair ∈ more, pair.1.kind = .comma ∧ pair.2.kind = .ident) :
    Works dialect stop ([.memberEnd isVoid first several], namesOf more ++ ahead)
      ([.memberEnd isVoid first (several || !more.isEmpty)], ahead) := by
  induction more generalizing several with
  | nil =>
      rw [List.isEmpty_nil, Bool.not_true, Bool.or_false]
      exact .refl
  | cons pair more ih =>
      obtain ⟨comma, name⟩ := pair
      obtain ⟨isComma, isName⟩ : comma.kind = .comma ∧ name.kind = .ident :=
        kinds _ List.mem_cons_self
      have rest := @ih true fun other member => kinds other (List.mem_cons_of_mem _ member)
      rw [Bool.true_or] at rest
      rw [List.isEmpty_cons, Bool.not_false, Bool.or_true]
      have signs : (Symbol.memberEnd isVoid first several).expand dialect comma =
          .consume [.token .ident, .memberEnd isVoid first true] := by
        rw [Symbol.expand, expandMemberEnd, if_pos isComma]
      have names : (Symbol.token .ident).expand dialect name = .consume [] := by
        simp [Symbol.expand, isName]
      exact .head (.consume signs) (.head (.consume names) rest)

variable (head : MemberHead dialect) (ahead)

/-- The names of a head are worked off. -/
theorem MemberHead.works_names : Works dialect stop ([.memberName head.isVoid],
    head.first :: namesOf head.more ++ ahead) ([head.ending], ahead) := by
  have expands : (Symbol.memberName head.isVoid).expand dialect head.first =
      .consume [.memberEnd head.isVoid head.first false] := by
    rw [Symbol.expand, if_pos head.first_kind]
  exact .head (.consume expands) (MiniJ.works_names head.more_kinds)

/-- So are `void` or the type in front of them. -/
theorem MemberHead.works_type (stops : stop.kind = .eot) :
    ∃ last after, head.type ++ (head.first :: namesOf head.more ++ ahead) = last :: after ∧
      last.kind.beginsMember = true ∧
      Works dialect stop ([.memberType], last :: after) ([head.ending], ahead) := by
  have names : Works dialect stop _ _ := head.works_names ahead
  have derives := head.type_derives
  cases isVoid : head.isVoid with
  | true =>
      rw [isVoid, if_pos rfl] at derives
      obtain ⟨word, isWord, same⟩ := derives.reads
      have isWord : word.kind = .keyword .void_ := isWord
      have expands : Symbol.memberType.expand dialect word = .consume [.memberName true] := by
        rw [Symbol.expand, if_pos isWord]
      rw [isVoid] at names
      rw [same]
      exact ⟨word, _, rfl, by rw [isWord]; rfl, .head (.consume expands) names⟩
  | false =>
      rw [isVoid, if_neg Bool.false_ne_true] at derives
      -- the name behind the type cannot go on with it, so exactly the type is worked off
      have type : Works dialect stop ([.type true],
          head.type ++ head.first :: (namesOf head.more ++ ahead)) ([], _) :=
        (works_type_iff stops head.first_kind).mpr derives
      obtain ⟨last, after, same, begins, noVoid⟩ := begins_of_works_type type
      have expands : Symbol.memberType.expand dialect last =
          .replace [.type true, .memberName false] := by
        rw [Symbol.expand, if_neg noVoid]
      rw [isVoid] at names
      refine ⟨last, after, same, begins, .head (.replace expands) ?_⟩
      rw [← same]
      exact (type.frame [.memberName false]).trans names

/-- **The recognizer comes behind the head of a member.** -/
theorem MemberHead.works (stops : stop.kind = .eot) :
    Works dialect stop ([.markers, .memberType], head.tokens ++ ahead) ([head.ending], ahead) := by
  obtain ⟨last, after, whole, begins, typed⟩ := head.works_type ahead stops
  have marks : Works dialect stop ([.markers], head.markers ++ last :: after) ([], last :: after) :=
    works_markers stops begins head.markers_derives
  have tokens : head.tokens ++ ahead = head.markers ++ last :: after := by
    rw [← whole, MemberHead.tokens]
    simp
  rw [tokens]
  exact (marks.frame [.memberType]).trans typed

end Reading

/-! ## Heads that were read -/

section Read

variable {dialect : Dialect} {stop first : Token} {ts us : List Token} {isVoid several : Bool}
  {there : List Symbol × List Token}

theorem exists_modifiers (works : Works dialect stop ([.modifiers], ts) ([], us)) :
    ∃ modifiers, ts = modifiers ++ us ∧ Derives dialect (many (tok .modifier)) modifiers [] := by
  induction length : ts.length using Nat.strongRecOn generalizing ts with
  | ind bound ih =>
      by_cases isModifier : (frontOf stop ts).kind = .modifier
      · obtain ⟨modifier, rest, rfl, further⟩ := works.of_consume nofun (if_pos isModifier)
        have shorter : rest.length < bound := by
          rw [← length, List.length_cons]
          exact Nat.lt_succ_self _
        obtain ⟨modifiers, rfl, derives⟩ := ih _ shorter further rfl
        exact ⟨modifier :: modifiers, rfl, .again (.terminal isModifier) derives⟩
      · cases (works.of_replace nofun (if_neg isModifier)).eq_of_nil
        exact ⟨[], rfl, .stop⟩

theorem exists_markers (works : Works dialect stop ([.markers], ts) ([], us)) :
    ∃ markers, ts = markers ++ us ∧ Derives dialect Language.markers markers [] := by
  by_cases isProtection : (frontOf stop ts).kind = .protection
  · obtain ⟨protection, rest, rfl, further⟩ := works.of_consume nofun (if_pos isProtection)
    obtain ⟨modifiers, rfl, derives⟩ := exists_modifiers further
    exact ⟨protection :: modifiers, rfl,
      .sequence (.one (.terminal isProtection)) (.sequence derives .empty)⟩
  · obtain ⟨modifiers, rfl, derives⟩ :=
      exists_modifiers (works.of_replace nofun (if_neg isProtection))
    exact ⟨modifiers, rfl, .sequence (.other .empty) (.sequence derives .empty)⟩

/-- Work on symbols comes to a single one only behind all but the last of them. -/
theorem Works.single (front : List Symbol) {last symbol : Symbol}
    (works : Works dialect stop (front ++ [last], ts) ([symbol], us)) :
    ∃ vs, Works dialect stop (front, ts) ([], vs) ∧
      Works dialect stop ([last], vs) ([symbol], us) := by
  rcases works.split with ⟨left, shape, inside⟩ | through
  · have shape : [] ++ [symbol] = left ++ [last] := shape
    obtain ⟨rfl, same⟩ := List.append_inj' shape rfl
    cases same
    exact ⟨us, inside, .refl⟩
  · exact through

/-- No work on a block is work on the end of a head. -/
theorem Works.not_memberEnd_of_block :
    ¬ Works dialect stop ([.block], ts) ([.memberEnd isVoid first several], us) := by
  intro works
  have parts : Works dialect stop ([.token .lBrace, .statements] ++ [.close .block], ts) _ :=
    works.of_replace nofun rfl
  obtain ⟨_, -, closing⟩ := parts.single
  cases (closing.of_replace nofun rfl).eq_of_nil

/-- Neither is that on a semicolon. -/
theorem Works.not_memberEnd_of_semicolon :
    ¬ Works dialect stop ([.token .semicolon], ts) ([.memberEnd isVoid first several], us) := by
  intro works
  by_cases here : (frontOf stop ts).kind ∈ [.semicolon]
  · obtain ⟨_, _, -, further⟩ := works.of_consume nofun (if_pos here)
    cases further.eq_of_nil
  · cases works.eq_of_reject (if_neg here)

/-- What may become of the end of a head. -/
theorem memberEnd_cases (dialect : Dialect) (isVoid : Bool) (first : Token) (several : Bool)
    (current : Token) :
    let expansion := (Symbol.memberEnd isVoid first several).expand dialect current
    (current.kind = .comma ∧ expansion = .consume [.token .ident, .memberEnd isVoid first true]) ∨
      expansion = .replace ([.announce (.methodNamed first), .token .lParen, .parameters,
        .throwsClause] ++ [.block]) ∨
      expansion = .consume ([.expression true] ++ [.token .semicolon]) ∨
      expansion = .consume [] ∨ ∃ error, expansion = .reject error := by
  simp only [Symbol.expand, expandMemberEnd]
  split
  · rename_i isComma
    exact .inl ⟨isComma, rfl⟩
  · repeat' split
    all_goals simp

section Names

variable {other : Token} {isMethod many : Bool}

/-- Behind a name there is another one, or the names are over. -/
theorem exists_name (works : Works dialect stop ([.memberEnd isVoid first several], ts)
      ([.memberEnd isMethod other many], us)) :
    (isMethod = isVoid ∧ other = first ∧ many = several ∧ us = ts) ∨
      ∃ comma name rest, ts = comma :: name :: rest ∧ comma.kind = .comma ∧ name.kind = .ident ∧
        Works dialect stop ([.memberEnd isVoid first true], rest)
          ([.memberEnd isMethod other many], us) := by
  by_cases stays : (([.memberEnd isMethod other many], us) : List Symbol × List Token) =
      ([.memberEnd isVoid first several], ts)
  · cases stays
    exact .inl ⟨rfl, rfl, rfl, rfl⟩
  right
  -- a method and an initial value leave a symbol at the end that is no end of a head
  rcases memberEnd_cases dialect isVoid first several (frontOf stop ts) with
    ⟨isComma, names⟩ | method | initial | isOver | ⟨_, error⟩
  · obtain ⟨comma, rest, rfl, named⟩ := works.of_consume stays names
    obtain ⟨_, word, further⟩ := Works.single [.token .ident] named
    obtain ⟨name, isName, rfl⟩ := word.of_token
    exact ⟨comma, name, _, rfl, isComma, isName, further⟩
  · have method := works.of_replace stays method
    rw [List.append_nil] at method
    obtain ⟨_, -, body⟩ := method.single
    exact absurd body Works.not_memberEnd_of_block
  · obtain ⟨_, _, -, initial⟩ := works.of_consume stays initial
    rw [List.append_nil] at initial
    obtain ⟨_, -, closing⟩ := initial.single
    exact absurd closing Works.not_memberEnd_of_semicolon
  · obtain ⟨_, _, -, nothing⟩ := works.of_consume stays isOver
    cases nothing.eq_of_nil
  · exact absurd (works.eq_of_reject error) stays

/-- Behind a name there were only further names. The induction is on the number of tokens ahead. -/
theorem exists_more (works : Works dialect stop ([.memberEnd isVoid first several], ts)
      ([.memberEnd isMethod other many], us)) :
    isMethod = isVoid ∧ other = first ∧ ∃ more, ts = namesOf more ++ us ∧
      (∀ pair ∈ more, pair.1.kind = .comma ∧ pair.2.kind = .ident) ∧
      many = (several || !more.isEmpty) := by
  induction length : ts.length using Nat.strongRecOn generalizing ts several with
  | ind bound ih =>
      rcases exists_name works with ⟨rfl, rfl, rfl, rfl⟩ |
        ⟨comma, name, rest, rfl, isComma, isName, further⟩
      · exact ⟨rfl, rfl, [], rfl, by simp, by simp⟩
      · have shorter : rest.length < bound := by
          simp only [← length, List.length_cons]
          omega
        obtain ⟨rfl, rfl, more, rfl, kinds, rfl⟩ := ih _ shorter further rfl
        refine ⟨rfl, rfl, (comma, name) :: more, rfl, ?_, by simp⟩
        intro pair member
        rcases List.mem_cons.mp member with rfl | later
        · exact ⟨isComma, isName⟩
        · exact kinds pair later

/-- What was read as the names of a member is a name and further ones. -/
theorem exists_names (works : Works dialect stop ([.memberName isVoid], ts)
      ([.memberEnd isMethod other many], us)) :
    isMethod = isVoid ∧ ∃ more, ts = other :: namesOf more ++ us ∧ other.kind = .ident ∧
      (∀ pair ∈ more, pair.1.kind = .comma ∧ pair.2.kind = .ident) ∧ many = !more.isEmpty := by
  by_cases isName : (frontOf stop ts).kind = .ident
  · obtain ⟨name, rest, rfl, further⟩ := works.of_consume nofun (if_pos isName)
    obtain ⟨same, rfl, more, rfl, kinds, several⟩ := exists_more further
    exact ⟨same, more, rfl, isName, kinds, several⟩
  · cases works.eq_of_reject (if_neg isName)

/-- **The recognizer comes to the end of a head behind a head only.** -/
theorem exists_head (stops : stop.kind = .eot)
    (works : Works dialect stop ([.markers, .memberType], ts)
      ([.memberEnd isMethod other many], us)) :
    ∃ head : MemberHead dialect, head.ending = .memberEnd isMethod other many ∧
      ts = head.tokens ++ us := by
  obtain ⟨vs, marks, member⟩ := Works.single [.markers] works
  obtain ⟨markers, rfl, isMarkers⟩ := exists_markers marks
  by_cases isWord : (frontOf stop vs).kind = .keyword .void_
  · obtain ⟨word, rest, rfl, further⟩ := member.of_consume nofun (if_pos isWord)
    obtain ⟨rfl, more, rfl, isName, kinds, rfl⟩ := exists_names further
    refine ⟨⟨markers, true, [word], other, more, isMarkers, ?_, isName, kinds⟩, rfl, ?_⟩
    · rw [if_pos rfl]
      exact .terminal isWord
    · simp [MemberHead.tokens]
  · have further := member.of_replace nofun (if_neg isWord)
    obtain ⟨_, typed, names⟩ := Works.single [.type true] further
    obtain ⟨rfl, more, rfl, isName, kinds, rfl⟩ := exists_names names
    obtain ⟨type, rfl⟩ := Works.suffix typed
    refine ⟨⟨markers, false, type, other, more, isMarkers, ?_, isName, kinds⟩, rfl, ?_⟩
    · rw [if_neg Bool.false_ne_true]
      exact (works_type_iff stops isName).mp typed
    · simp [MemberHead.tokens]

end Names

end Read

/-! ## Heads on the agenda -/

/-- Whether a symbol goes on with the head of a member. -/
def Symbol.isHead : Symbol → Bool
  | memberType | memberName _ | memberEnd _ _ _ => true
  | _ => false

/-- That what goes on with a head stands directly in front of the mark of its member. -/
def HeadsClosed (agenda : List Symbol) : Prop :=
  agenda.IsChain fun symbol next => symbol.isHead = true → next = .close .memberDeclaration

/-- What an expansion keeps: a head goes on in its place only. -/
def Expansion.ClosesHeads (symbol : Symbol) : Expansion → Prop
  | replace symbols | consume symbols =>
    HeadsClosed symbols ∧ ∀ last ∈ symbols.getLast?, last.isHead = true → symbol.isHead = true
  | announce _ | reject _ => True

/-- Where there is no head nothing has to be closed. -/
theorem closesHeads_of_headless {symbol : Symbol} {symbols : List Symbol}
    (headless : symbols.any Symbol.isHead = false) :
    HeadsClosed symbols ∧ ∀ last ∈ symbols.getLast?, last.isHead = true → symbol.isHead = true := by
  have never {other : Symbol} (member : other ∈ symbols) : other.isHead ≠ true := by
    intro isHead
    rw [List.any_eq_false] at headless
    exact headless other member isHead
  constructor
  · refine (List.pairwise_of_forall_mem_list fun other member _ _ isHead => ?_).isChain
    exact absurd isHead (never member)
  · intro last isLast isHead
    exact absurd isHead (never (List.mem_of_getLast? isLast))

open MiniJ.Symbol in
theorem Symbol.expand_closesHeads (dialect : Dialect) (current : Token) (symbol : Symbol) :
    (symbol.expand dialect current).ClosesHeads symbol := by
  -- Only the symbols of a member bring a head; what all the others bring has none.
  cases symbol with
  | members | memberType | memberName isVoid | memberEnd isVoid first several =>
      simp only [expand, expandMemberEnd]
      repeat' split
      all_goals simp [Expansion.ClosesHeads, HeadsClosed, isHead]
  | classified purpose result =>
      cases purpose with
      | statement place =>
          cases place
          all_goals
            simp only [expand, expandClassified, assign, standAlone, afterStatement]
            repeat' split
          all_goals first | trivial | exact closesHeads_of_headless rfl
      | _ =>
          simp only [expand, expandClassified, assign, standAlone]
          repeat' split
          all_goals first | trivial | exact closesHeads_of_headless rfl
  | program | classes =>
      simp only [expand]
      cases dialect
      all_goals repeat' split
      all_goals exact closesHeads_of_headless rfl
  | statement place | declarationEnd place | statementBody place =>
      cases place
      all_goals
        simp only [expand, expandDeclarationEnd, expandStatementBody]
        repeat' split
      all_goals exact closesHeads_of_headless rfl
  | _ =>
      simp only [expand, expandType, expandTypeSuffixes, expandReference, expandSuffixes,
        expandInsideBrackets, expandExpression, expandExpressionEnd, expandConstructorArguments,
        expandForUpdate, expandTryEnd, expandImportName, Grammar.optional]
      repeat' split
      all_goals first | trivial | exact closesHeads_of_headless rfl

section Agenda

variable {dialect : Dialect} {stop : Token} {words : List Token}
  {here there : List Symbol × List Token}

theorem WorkStep.headsClosed (step : WorkStep dialect stop here there)
    (closed : HeadsClosed here.1) : HeadsClosed there.1 := by
  have keeps {symbol : Symbol} {symbols pending : List Symbol}
      (closed : HeadsClosed (symbol :: pending))
      (closes : HeadsClosed symbols ∧
        ∀ last ∈ symbols.getLast?, last.isHead = true → symbol.isHead = true) :
      HeadsClosed (symbols ++ pending) := by
    refine List.isChain_append.mpr ⟨closes.1, List.IsChain.tail closed, ?_⟩
    intro last isLast next isNext isHead
    cases pending with
    | nil => cases isNext
    | cons other rest =>
        cases isNext
        exact (List.isChain_cons_cons.mp closed).1 (closes.2 last isLast isHead)
  cases step with
  | @replace symbol _ _ tokens expands =>
      have closes := symbol.expand_closesHeads dialect (frontOf stop tokens)
      rw [expands] at closes
      exact keeps closed closes
  | @consume symbol _ _ current _ expands =>
      have closes := symbol.expand_closesHeads dialect current
      rw [expands] at closes
      exact keeps closed closes
  | announce => exact List.IsChain.tail closed

theorem Works.headsClosed (works : Works dialect stop ([.program], words) there) :
    HeadsClosed there.1 := by
  induction works with
  | refl => exact .singleton _
  | tail _ step ih => exact step.headsClosed ih

/-- **Where the end of a head is on top, a head of a member was read.** -/
theorem Works.exists_memberHead {isVoid several : Bool} {first : Token} {pending : List Symbol}
    {ahead : List Token} {construct : Construct} (stops : stop.kind = .eot)
    (works : Works dialect stop ([.program], words)
      (.memberEnd isVoid first several :: pending, ahead))
    (inside : innermost? pending = some construct) :
    ∃ (member : Entrance) (head : MemberHead dialect),
      member.IsMade dialect stop words ∧ member.construct = .memberDeclaration ∧
      member.ahead = head.tokens ++ ahead ∧ head.ending = .memberEnd isVoid first several := by
  have closed : HeadsClosed (.memberEnd isVoid first several :: pending) := works.headsClosed
  cases pending with
  | nil => cases inside
  | cons mark behind =>
      -- directly behind the head is the mark of its member, whose parts were worked on so far
      obtain rfl := (List.isChain_cons_cons.mp closed).1 rfl
      obtain ⟨tokens, made, further⟩ :=
        works.entered [.memberEnd isVoid first several] .memberDeclaration behind rfl
      obtain ⟨head, ending, rfl⟩ := exists_head stops further
      exact ⟨_, head, made, rfl, rfl, ending⟩

end Agenda

/-! ## Members in a text -/

section Parses

variable {dialect : Dialect} {source : Source} {file : Option String}

/-- Work up to an error is what the parse does. -/
theorem Works.parse_rejected (file : Option String) {symbol : Symbol} {pending : List Symbol}
    {ahead : List Token} {found : SyntaxError}
    (works : Works dialect (Scanner.start dialect source).stop
      ([.program], (lex dialect source).words) (symbol :: pending, ahead))
    (rejects : symbol.expand dialect (frontOf (Scanner.start dialect source).stop ahead) =
      .reject found) :
    (parse dialect source file).verdict = .rejected (found.before pending) ∧
      (parse dialect source file).cursor.consumed + ahead.length =
        (lex dialect source).words.length := by
  obtain ⟨steps, runs⟩ := works.runOn
  have enough : Recognizer.stepBound source.size ≤ steps + (Recognizer.stepBound source.size + 1) :=
    by omega
  apply parse_of_runOn enough
  rw [runs]
  simp only [MiniJ.runOn, rejects]

/-- That a parse stops with an error, and how many tokens were consumed then. -/
def Parse.StopsAt (outcome : Parse) (consumed : Nat) (code : String) (place : Position) : Prop :=
  outcome.cursor.consumed = consumed ∧
    ∃ diagnostic ∈ outcome.reports, diagnostic.code.text = code ∧ diagnostic.position = some place

variable {symbol : Symbol} {agenda pending : List Symbol} {before ahead us : List Token}
  {found : SyntaxError} {place : Position} {count : Nat}

theorem Works.stopsAt (file : Option String)
    (works : Works dialect (Scanner.start dialect source).stop
      ([.program], (lex dialect source).words) (symbol :: pending, ahead))
    (rejects : symbol.expand dialect (frontOf (Scanner.start dialect source).stop ahead) =
      .reject found)
    (split : (lex dialect source).words = before ++ ahead) :
    (parse dialect source file).StopsAt before.length found.code.text found.position := by
  obtain ⟨rejected, count⟩ := works.parse_rejected file rejects
  rw [split, List.length_append, Nat.add_right_cancel_iff] at count
  obtain ⟨violation, position⟩ := found.before_eq pending
  refine ⟨count, (found.before pending).diagnostic.under file, ?_, ?_, congrArg some position⟩
  · rcases parse_reports dialect source file with ⟨accepted, -⟩ | ⟨error, same, -, reports⟩
    · cases accepted.symm.trans rejected
    · cases same.symm.trans rejected
      rw [reports]
      exact List.mem_append_right _ (List.mem_singleton_self _)
  · exact congrArg (fun violation : Violation => violation.code.text) violation

/-- A parse stops with an error of the grammar where its work is stuck. -/
theorem exists_reject_of_stopsAt {code : ErrorCode} (syntactic : code.isLexical = false)
    (stops : (parse dialect source file).StopsAt count code.text place) :
    ∃ symbol pending found before ahead,
      (lex dialect source).words = before ++ ahead ∧ before.length = count ∧
      Works dialect (Scanner.start dialect source).stop
        ([.program], (lex dialect source).words) (symbol :: pending, ahead) ∧
      symbol.expand dialect (frontOf (Scanner.start dialect source).stop ahead) = .reject found ∧
      found.code.text = code.text ∧ found.position = place := by
  obtain ⟨rfl, diagnostic, reported, text, position⟩ := stops
  have syntactic : diagnostic.code.IsE1 := by
    rw [ErrorCode.IsE1, text]
    exact (ErrorCode.isE1_iff code).mpr syntactic
  obtain ⟨symbol, pending, found, before, ahead, split, count, works, rejects, -, same, -, there⟩ :=
    exists_reject_of_reported reported syntactic
  refine ⟨symbol, pending, found, before, ahead, split, count, works, rejects, ?_, ?_⟩
  · rw [← same, text]
  · exact Option.some.inj (there.symm.trans position)

/-- A parse whose work goes on behind a token does not stop there. -/
theorem Works.not_stopsAt {code : ErrorCode} (syntactic : code.isLexical = false)
    (works : Works dialect (Scanner.start dialect source).stop
      ([.program], (lex dialect source).words) (agenda, us))
    (further : count + us.length < (lex dialect source).words.length) :
    ¬ (parse dialect source file).StopsAt count code.text place := by
  intro stops
  obtain ⟨symbol, pending, found, before, ahead, split, same, stuck, rejects, -⟩ :=
    exists_reject_of_stopsAt syntactic stops
  have less : ahead.length ≤ us.length := by
    rcases works.comparable stuck with onward | back
    · exact (Works.suffix onward).length_le
    · cases back.eq_of_reject rejects
      exact Nat.le_refl _
  rw [split, List.length_append, same] at further
  omega

/-- A parse stops with one error only. -/
theorem Parse.StopsAt.unique {one other : ErrorCode} {there : Position}
    (syntactic : one.isLexical = false) (also : other.isLexical = false)
    (first : (parse dialect source file).StopsAt count one.text place)
    (second : (parse dialect source file).StopsAt count other.text there) :
    one.text = other.text ∧ place = there := by
  obtain ⟨symbol, pending, found, before, ahead, split, same, stuck, rejects, text, rfl⟩ :=
    exists_reject_of_stopsAt syntactic first
  obtain ⟨_, _, _, _, _, _, _, further, refuses, rewritten, rfl⟩ :=
    exists_reject_of_stopsAt also second
  rcases stuck.comparable further with onward | back
  · cases onward.eq_of_reject rejects
    cases rejects.symm.trans refuses
    exact ⟨text.symm.trans rewritten, rfl⟩
  · cases back.eq_of_reject refuses
    cases rejects.symm.trans refuses
    exact ⟨text.symm.trans rewritten, rfl⟩

/-! ## Contradictions -/

/-- That a text has a member with a given head, whose names are over where the tokens ahead
begin. -/
structure MemberAt (dialect : Dialect) (stop : Token) (words : List Token) (member : Entrance)
    (head : MemberHead dialect) (ahead : List Token) : Prop where
  made : member.IsMade dialect stop words
  construct : member.construct = .memberDeclaration
  tokens : member.ahead = head.tokens ++ ahead
  named : (frontOf stop ahead).kind ≠ .comma

variable {member : Entrance} {head : MemberHead dialect}

theorem MemberAt.works {stop : Token} {words : List Token} (stops : stop.kind = .eot)
    (here : MemberAt dialect stop words member head ahead) :
    Works dialect stop ([.program], words) (head.ending :: member.behind, ahead) := by
  obtain ⟨symbol, pending, tokens, comes, -, step⟩ := here.made
  have parts : member.state dialect =
      ([.markers, .memberType] ++ member.behind, head.tokens ++ ahead) := by
    rw [Entrance.state, here.construct, here.tokens]
    rfl
  rw [parts] at step
  exact (comes.tail step).trans ((head.works ahead stops).frame member.behind)

/-- A token that is not the end is consumed. -/
theorem Works.tail_consume {stop : Token} {here : List Symbol × List Token}
    {symbols : List Symbol} (stops : stop.kind = .eot)
    (works : Works dialect stop here (symbol :: pending, ahead))
    (more : (frontOf stop ahead).kind ≠ .eot)
    (expands : symbol.expand dialect (frontOf stop ahead) = .consume symbols) :
    Works dialect stop here (symbols ++ pending, ahead.tail) := by
  cases ahead with
  | nil => exact absurd stops more
  | cons current rest => exact works.tail (.consume expands)

/-- What comes behind a head that is not contradicted. -/
def MemberHead.GoesOn (head : MemberHead dialect) (source : Source) (file : Option String)
    (member : Entrance) (before ahead : List Token) : Prop :=
  let stop := (Scanner.start dialect source).stop
  let comes := Works dialect stop ([.program], (lex dialect source).words)
  let next := frontOf stop ahead
  match next.kind with
  | .semicolon => comes (member.behind, ahead.tail)
  | .lParen =>
    head.count = 1 ∧
      comes ([.announce (.methodNamed head.first), .token .lParen, .parameters, .throwsClause,
        .block] ++ member.behind, ahead)
  | .assign =>
    dialect = .extended ∧
      comes ([.expression true, .token .semicolon] ++ member.behind, ahead.tail)
  | _ => (parse dialect source file).StopsAt before.length "E1001" next.position

theorem MemberAt.goesOn
    (here : MemberAt dialect (Scanner.start dialect source).stop (lex dialect source).words member
      head ahead)
    (split : (lex dialect source).words = before ++ ahead)
    (free : ¬ head.Conflicts (frontOf (Scanner.start dialect source).stop ahead)) :
    head.GoesOn source file member before ahead := by
  have stops : (Scanner.start dialect source).stop.kind = .eot := Scanner.kind_stop _
  have works := here.works stops
  have expands := MemberHead.expand_free here.named free
  rw [MemberHead.GoesOn]
  cases next : (frontOf (Scanner.start dialect source).stop ahead).kind with
  | semicolon =>
      rw [next] at expands
      exact works.tail_consume stops (by simp [next]) expands
  | lParen =>
      rw [next] at expands
      refine ⟨?_, works.tail (.replace expands)⟩
      -- A method has a single name: several names before `(` are a conflict.
      have one : ¬ 2 ≤ head.count := fun several => free (.inr (.inl ⟨next, several⟩))
      rw [MemberHead.count] at one ⊢
      omega
  | assign =>
      rw [next] at expands
      refine ⟨?_, works.tail_consume stops (by simp [next]) expands⟩
      cases dialect with
      | mini => exact absurd (.inr (.inr (.inl ⟨next, rfl⟩))) free
      | extended => rfl
  | _ =>
      rw [next] at expands
      exact works.stopsAt file expands split

/-- What goes on behind a head does not stop there with a contradiction. -/
theorem MemberHead.GoesOn.not_stopsAt
    (goesOn : head.GoesOn source file member before ahead)
    (split : (lex dialect source).words = before ++ ahead) :
    ¬ (parse dialect source file).StopsAt before.length ErrorCode.invalidMember.text place := by
  have stops : (Scanner.start dialect source).stop.kind = .eot := Scanner.kind_stop _
  -- work that comes behind the token in front has left the place
  have passes {agenda : List Symbol}
      (works : Works dialect (Scanner.start dialect source).stop
        ([.program], (lex dialect source).words) (agenda, ahead.tail))
      (more : (frontOf (Scanner.start dialect source).stop ahead).kind ≠ .eot) :
      ¬ (parse dialect source file).StopsAt before.length ErrorCode.invalidMember.text place := by
    refine works.not_stopsAt rfl ?_
    rw [split, List.length_append]
    cases ahead with
    | nil => exact absurd stops more
    | cons => simp
  rw [MemberHead.GoesOn] at goesOn
  cases next : (frontOf (Scanner.start dialect source).stop ahead).kind with
  | semicolon =>
      rw [next] at goesOn
      exact passes goesOn (by simp [next])
  | lParen =>
      rw [next] at goesOn
      have opens : (Symbol.token .lParen).expand dialect
          (frontOf (Scanner.start dialect source).stop ahead) = .consume [] := by
        simp [Symbol.expand, next]
      have named := goesOn.2.tail (.announce rfl)
      exact passes (Works.tail_consume stops named (by simp [next]) opens) (by simp [next])
  | assign =>
      rw [next] at goesOn
      exact passes goesOn.2 (by simp [next])
  | _ =>
      rw [next] at goesOn
      intro contradiction
      have one : ErrorCode.isLexical .unexpectedToken = false := rfl
      have other : ErrorCode.isLexical .invalidMember = false := rfl
      exact absurd (Parse.StopsAt.unique one other goesOn contradiction).1 (by decide)

theorem ErrorCode.eq_invalidMember {code : ErrorCode} (text : code.text = "E1003") :
    code = .invalidMember := by
  cases code <;> first | rfl | exact absurd text (by decide)

/-- An error of that code is one that the end of a head finds in front of a contradiction. -/
theorem MemberHead.conflicts_of_rejects {next : Token}
    (rejects : head.ending.expand dialect next = .reject found)
    (code : found.code = .invalidMember) :
    next.kind ≠ .comma ∧ head.Conflicts next ∧ found.position = (head.blamed next).position := by
  have named : next.kind ≠ .comma := by
    intro isComma
    rw [ending, Symbol.expand, expandMemberEnd, if_pos isComma] at rejects
    cases rejects
  have conflicts : head.Conflicts next := by
    by_contra free
    rw [expand_free named free] at rejects
    split at rejects
    all_goals cases rejects
    cases code
  obtain ⟨same, refuses, -, position⟩ := expand_conflicts named conflicts
  cases rejects.symm.trans refuses
  exact ⟨named, conflicts, position⟩

/-- **When a member contradicts its head.** Let a text have a member whose head was read, with a
token behind the names that is not a comma. The parse stops there with `E1003` if and only if that
token contradicts the head. The error is located at the first of several names behind `void`, and
otherwise at the token. Without a contradiction a semicolon ends a field, a parenthesis goes on
with a method that has the only name, `=` goes on with an initial value in the extended dialect, and
at every other token the parse stops with `E1001`. No parse reports `E1003` for another reason. -/
theorem member_conflicts (dialect : Dialect) (source : Source) (file : Option String) :
    let stop := (Scanner.start dialect source).stop
    let words := (lex dialect source).words
    let outcome := parse dialect source file
    (∀ (member : Entrance) (head : MemberHead dialect) (before ahead : List Token),
      MemberAt dialect stop words member head ahead → words = before ++ ahead →
      ((∃ place, outcome.StopsAt before.length "E1003" place) ↔
        head.Conflicts (frontOf stop ahead)) ∧
      (head.Conflicts (frontOf stop ahead) →
        outcome.StopsAt before.length "E1003" (head.blamed (frontOf stop ahead)).position) ∧
      (¬ head.Conflicts (frontOf stop ahead) → head.GoesOn source file member before ahead)) ∧
    ∀ diagnostic ∈ outcome.reports, diagnostic.code.text = "E1003" →
      ∃ (member : Entrance) (head : MemberHead dialect) (before ahead : List Token),
        MemberAt dialect stop words member head ahead ∧ words = before ++ ahead ∧
        before.length = outcome.cursor.consumed ∧ head.Conflicts (frontOf stop ahead) ∧
        diagnostic.position = some (head.blamed (frontOf stop ahead)).position := by
  intro stop words outcome
  have stops : stop.kind = .eot := Scanner.kind_stop _
  constructor
  · intro member head before ahead here split
    have contradicts (conflicts : head.Conflicts (frontOf stop ahead)) :
        outcome.StopsAt before.length "E1003" (head.blamed (frontOf stop ahead)).position := by
      obtain ⟨found, rejects, code, position⟩ := MemberHead.expand_conflicts here.named conflicts
      have stopped := (here.works stops).stopsAt file rejects split
      rwa [code, position] at stopped
    refine ⟨⟨?_, fun conflicts => ⟨_, contradicts conflicts⟩⟩, contradicts, here.goesOn split⟩
    rintro ⟨place, stopped⟩
    by_contra free
    exact (here.goesOn split free).not_stopsAt split stopped
  · intro diagnostic reported text
    have syntactic : diagnostic.code.IsE1 := by
      rw [ErrorCode.eq_invalidMember text]
      exact (ErrorCode.isE1_iff _).mpr rfl
    obtain ⟨symbol, pending, found, before, ahead, split, count, works, rejects, -, same, -,
      position⟩ := exists_reject_of_reported reported syntactic
    have code : found.code = .invalidMember := same.symm.trans (ErrorCode.eq_invalidMember text)
    -- only the end of a head has such errors, and it is in a construct, so a head was read
    obtain ⟨_, _, rfl, isEnd⟩ := symbol.exists_located rejects
    obtain ⟨isVoid, first, several, rfl⟩ := isEnd code
    obtain ⟨-, construct, inside⟩ := works.exists_innermost? rejects
    obtain ⟨member, head, made, isMember, tokens, ending⟩ := works.exists_memberHead stops inside
    rw [← ending] at rejects
    obtain ⟨named, conflicts, blamed⟩ := MemberHead.conflicts_of_rejects rejects code
    exact ⟨member, head, before, ahead, ⟨made, isMember, tokens, named⟩, split, count, conflicts,
      position.trans (congrArg some blamed)⟩

end Parses

/-- Of two names behind `void` the first is reported, with the semicolon behind the head. -/
theorem member_conflicts_names :
    let source := Source.ofString "class A \x7b void x, y; \x7d"
    let error := (SyntaxError.located .voidField ⟨.ident, "x", ⟨1, 16⟩⟩).within .memberDeclaration
    let stop := (Scanner.start .mini source).stop
    let words := (lex .mini source).words
    error.diagnostic ∈ (parse .mini source none).reports ∧
      error.diagnostic.code.text = "E1003" ∧
      ∃ (member : Entrance) (head : MemberHead .mini) (before ahead : List Token),
        MemberAt .mini stop words member head ahead ∧ words = before ++ ahead ∧
        before.length = (parse .mini source none).cursor.consumed ∧
        head.Conflicts (frontOf stop ahead) ∧
        error.diagnostic.position = some (head.blamed (frontOf stop ahead)).position ∧
        (parse .mini source none).StopsAt before.length "E1003"
          (head.blamed (frontOf stop ahead)).position := by
  intro source error stop words
  have reports : (parse .mini source none).reports = [error.diagnostic] := by decide +kernel
  have reported : error.diagnostic ∈ (parse .mini source none).reports := by
    rw [reports]
    exact List.mem_cons_self
  obtain ⟨heads, reasons⟩ := member_conflicts .mini source none
  obtain ⟨member, head, before, ahead, here, split, count, conflicts, position⟩ :=
    reasons _ reported rfl
  obtain ⟨-, stops, -⟩ := heads member head before ahead here split
  exact ⟨reported, rfl, member, head, before, ahead, here, split, count, conflicts, position,
    stops conflicts⟩

end MiniJ
