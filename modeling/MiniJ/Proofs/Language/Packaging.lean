import MiniJ.Proofs.Language.Exactness
import MiniJ.Proofs.Language.Inclusion
import MiniJ.Proofs.Scanning.Dialects

/-!
# Programs of the mini dialect behind a package clause

A text that the mini dialect accepts is accepted by the extended dialect, too, once a package clause
stands in front of it: where no name is reserved there and every `<` stands behind a literal, both
dialects make the same tokens of the text and the same program of the tokens (`parse_packaged`).

The extended dialect would take dots together that stand next to each other. No program of the mini
dialect has such dots, because each of its dots belongs to a name (`Language.dots_apart`).
-/

set_option autoImplicit false

namespace MiniJ

namespace Language

open Ebnf

/-! ## Dots -/

/-- No dot stands before another or at the end. -/
structure DotsNamed (tokens : List Token) : Prop where
  apart : tokens.IsChain fun token next => token.kind = .dot → next.kind ≠ .dot
  last : ∀ token ∈ tokens.getLast?, token.kind ≠ .dot

theorem dotsNamed_nil : DotsNamed [] :=
  ⟨.nil, by simp⟩

theorem dotsNamed_singleton {token : Token} (noDot : token.kind ≠ .dot) : DotsNamed [token] :=
  ⟨.singleton token, by simpa using noDot⟩

theorem DotsNamed.append {tokens others : List Token} (one : DotsNamed tokens)
    (other : DotsNamed others) : DotsNamed (tokens ++ others) := by
  constructor
  · apply List.isChain_append.mpr
    refine ⟨one.apart, other.apart, ?_⟩
    intro token ends next _ isDot
    exact absurd isDot (one.last token ends)
  · intro token ends
    rw [List.getLast?_append] at ends
    cases behind : others.getLast? with
    | some last =>
        rw [behind] at ends
        cases ends
        exact other.last token behind
    | none =>
        rw [behind] at ends
        exact one.last token ends

/-- Whether a part has dots only before names. -/
def namesDots : Part → Bool
  | .sequence (.terminal (.kind .dot)) (.sequence (.terminal (.kind .ident)) rest) => namesDots rest
  | .sequence first second => namesDots first && namesDots second
  | .terminal (.kind kind) => kind ≠ .dot
  | .terminal (.anyOf kinds) => .dot ∉ kinds
  | .choice one other => namesDots one && namesDots other
  | .many body | .notBefore _ body => namesDots body
  | .terminal .star | .nonterminal _ | .empty | .never => true

/-- In the mini dialect a dot is always part of a name. -/
theorem namesDots_rule (name : Phrase) : namesDots (rule .mini name) = true := by
  cases name <;> rfl

/-- What was taken has dots only before names. -/
def TakesNamedDots (ts us : List Token) : Prop :=
  ∃ taken, ts = taken ++ us ∧ DotsNamed taken

theorem TakesNamedDots.trans {ts us vs : List Token} (first : TakesNamedDots ts us)
    (second : TakesNamedDots us vs) : TakesNamedDots ts vs := by
  obtain ⟨one, rfl, named⟩ := first
  obtain ⟨other, rfl, named'⟩ := second
  exact ⟨one ++ other, (List.append_assoc ..).symm, named.append named'⟩

theorem takesNamedDots_singleton {token : Token} {us : List Token} (noDot : token.kind ≠ .dot) :
    TakesNamedDots (token :: us) us :=
  ⟨[token], rfl, dotsNamed_singleton noDot⟩

/-- What a part reads has dots only before names if the part does. A dot and the name behind it are
taken together. -/
theorem takesNamedDots_of_reads {part : Part} {ts us : List Token} (named : namesDots part = true)
    (reads : part.Reads Sign.Admits (fun _ => TakesNamedDots) ts us) : TakesNamedDots ts us := by
  fun_induction namesDots part generalizing ts us with
  -- The first case is a dot with its name, the only place where a dot may stand; `case3`, `case4`
  -- and `case8` are other terminals, and `case6` is a repetition.
  | case1 rest ih =>
      obtain ⟨vs, ⟨dot, isDot, rfl⟩, ws, ⟨ident, isIdent, rfl⟩, more⟩ := reads
      have notDot : ident.kind ≠ .dot := by
        rw [show ident.kind = .ident from isIdent]
        decide
      have pair : TakesNamedDots (dot :: ident :: ws) ws := by
        refine ⟨[dot, ident], rfl, ?_, by simpa using notDot⟩
        exact List.isChain_cons_cons.mpr ⟨fun _ => notDot, .singleton ident⟩
      exact pair.trans (ih named more)
  | case2 first second _ ihFirst ihSecond =>
      rw [Bool.and_eq_true] at named
      obtain ⟨vs, before, behind⟩ := reads
      exact (ihFirst named.1 before).trans (ihSecond named.2 behind)
  | case3 kind =>
      obtain ⟨letter, isKind, rfl⟩ := reads
      apply takesNamedDots_singleton
      rw [show letter.kind = kind from isKind]
      simpa using named
  | case4 kinds =>
      obtain ⟨letter, among, rfl⟩ := reads
      apply takesNamedDots_singleton
      intro isDot
      rw [Sign.Admits, isDot] at among
      simp [among] at named
  | case5 one other ihOne ihOther =>
      rw [Bool.and_eq_true] at named
      exact reads.elim (ihOne named.1) (ihOther named.2)
  | case6 body ih =>
      have row : Relation.ReflTransGen
          (body.Reads Sign.Admits fun _ => TakesNamedDots) ts us := reads
      induction row with
      | refl => exact ⟨[], rfl, dotsNamed_nil⟩
      | tail before last ihRow => exact (ihRow before).trans (ih named last)
  | case7 excluded body ih => exact ih named reads.1
  | case8 =>
      obtain ⟨letter, ⟨isOperator, -⟩, rfl⟩ := reads
      exact takesNamedDots_singleton (by rw [isOperator]; decide)
  | case9 name => exact reads
  | case10 =>
      cases reads
      exact ⟨[], rfl, dotsNamed_nil⟩
  | case11 => exact reads.elim

/-- **No two dots stand next to each other in a program of the mini dialect.** -/
theorem dots_apart {tokens : List Token} (program : IsProgram .mini tokens) :
    tokens.IsChain fun token next => token.kind = .dot → next.kind ≠ .dot := by
  have reads : (phrase .program).Reads Sign.Admits (fun _ => TakesNamedDots) tokens [] :=
    program.least fun name _ _ reads => takesNamedDots_of_reads (namesDots_rule name) reads
  obtain ⟨taken, same, named⟩ : TakesNamedDots tokens [] := reads
  rw [same, List.append_nil]
  exact named.apart

/-- No rule of the mini dialect tells tokens of one kind apart. -/
theorem isProgram_mini_congr {tokens others : List Token}
    (same : others.map Token.kind = tokens.map Token.kind) (program : IsProgram .mini tokens) :
    IsProgram .mini others := by
  rw [isProgram_mini_iff] at program ⊢
  rw [same]
  exact program

theorem ChevronsFollowLiterals.congr {tokens others : List Token}
    (same : others.map Token.kind = tokens.map Token.kind)
    (follow : ChevronsFollowLiterals tokens) : ChevronsFollowLiterals others := by
  have iff (tokens : List Token) : ChevronsFollowLiterals tokens ↔
      (tokens.map Token.kind).IsChain fun previous kind =>
        kind = .leftChevron → previous.isLiteral = true := by
    rw [List.isChain_map]
    exact Iff.rfl
  rw [iff] at follow ⊢
  rw [same]
  exact follow

end Language

/-! ## The package clause -/

namespace Scanner

/-- A faultless lexeme behind blanks is scanned silently. -/
theorem scan_of_lexeme {scanner : Scanner} {text : List Char} {kind : TokenKind} {length : Nat}
    (open_ : scanner.finished = false)
    (stands : scanner.cursor.rest.dropWhile Text.isBlank = text)
    (found : Front.of scanner.dialect text = .lexeme kind length none) :
    scanner.scan.token.kind = kind ∧ scanner.scan.faults = [] ∧
      scanner.scan.next.dialect = scanner.dialect ∧ scanner.scan.next.finished = false ∧
      scanner.scan.next.cursor.rest = text.drop length := by
  rw [← SourceCursor.advanceWhile_rest] at stands
  rw [← stands] at found ⊢
  rw [scan_of_open open_, scanFrom_of_lexeme found]
  exact ⟨rfl, rfl, rfl, rfl, SourceCursor.advanceBy_rest _ _⟩

end Scanner

/-- A source text behind a package clause. -/
def Source.packaged (source : Source) : Source :=
  ⟨"package p; ".toList ++ source.chars⟩

/-- The tokens of the package clause stand in front of those of the text. -/
theorem scans_packaged (source : Source) :
    let scanner := Scanner.start .extended source.packaged
    ∃ (package ident semicolon : Token) (behind : Scanner),
      package.kind = .keyword .package_ ∧ ident.kind = .ident ∧ semicolon.kind = .semicolon ∧
      scanner.words = package :: ident :: semicolon :: behind.words ∧
      scanner.scans.flatMap Scan.faults = behind.scans.flatMap Scan.faults ∧
      behind.dialect = .extended ∧ behind.finished = false ∧
      behind.cursor.rest = ' ' :: source.chars := by
  intro scanner
  -- the word
  obtain ⟨isPackage, silent₁, dialect₁, open₁, rest₁⟩ :=
    @Scanner.scan_of_lexeme scanner _ (.keyword .package_) 7 rfl rfl rfl
  have more₁ : scanner.scan.token.kind ≠ .eot := by rw [isPackage]; decide
  -- the name
  have stands₂ : scanner.scan.next.cursor.rest.dropWhile Text.isBlank =
      'p' :: ';' :: ' ' :: source.chars := by
    rw [rest₁]
    rfl
  obtain ⟨isIdent, silent₂, dialect₂, open₂, rest₂⟩ :=
    @Scanner.scan_of_lexeme scanner.scan.next _ .ident 1 open₁ stands₂ (by rw [dialect₁]; rfl)
  have more₂ : scanner.scan.next.scan.token.kind ≠ .eot := by rw [isIdent]; decide
  -- the sign behind it
  have stands₃ : scanner.scan.next.scan.next.cursor.rest.dropWhile Text.isBlank =
      ';' :: ' ' :: source.chars := by
    rw [rest₂]
    rfl
  obtain ⟨isSemicolon, silent₃, dialect₃, open₃, rest₃⟩ :=
    @Scanner.scan_of_lexeme scanner.scan.next.scan.next _ .semicolon 1 open₂ stands₃
      (by rw [dialect₂, dialect₁]; rfl)
  have more₃ : scanner.scan.next.scan.next.scan.token.kind ≠ .eot := by rw [isSemicolon]; decide
  refine ⟨_, _, _, scanner.scan.next.scan.next.scan.next, isPackage, isIdent, isSemicolon, ?_, ?_,
    dialect₃.trans (dialect₂.trans dialect₁), open₃, rest₃⟩
  · rw [Scanner.words_of_more more₁, Scanner.words_of_more more₂, Scanner.words_of_more more₃]
  · rw [Scanner.scans_of_more more₁, Scanner.scans_of_more more₂, Scanner.scans_of_more more₃]
    simp only [List.flatMap_cons, silent₁, silent₂, silent₃, List.nil_append]

/-- A parse that reports nothing accepts. -/
theorem accepted_of_reports_nil {dialect : Dialect} {source : Source} {file : Option String}
    (silent : (parse dialect source file).reports = []) :
    (parse dialect source file).verdict = .accepted := by
  obtain ⟨verdict, cursor, seen, here, ended, follows, settles⟩ :=
    parse_settles dialect source file
  rw [ended] at silent ⊢
  rcases settles.reports follows with ⟨accepted, -, -⟩ | ⟨error, -, -, last⟩
  · exact accepted
  · rw [Parse.reports, last] at silent
    exact absurd silent (by simp)

/-- **A silent text of the mini dialect is silent in the extended dialect behind a package clause**,
if none of its names is reserved there and every `<` stands just behind a literal. -/
theorem parse_packaged (source : Source) (file other : Option String)
    (silent : (parse .mini source file).reports = [])
    (plain : ∀ token ∈ (lex .mini source).tokens, token.kind = .ident → Unreserved token.text)
    (follow : Language.ChevronsFollowLiterals (lex .mini source).tokens) :
    (parse .extended source.packaged other).verdict = .accepted ∧
      (parse .extended source.packaged other).reports = [] := by
  obtain ⟨quiet, accepts⟩ := (parse_reports_nil_iff .mini source file).mp silent
  have program := (Language.accepts_words_iff .mini source).mp accepts
  rw [tokens_lex] at plain follow
  have behindLiterals : Language.ChevronsFollowLiterals (lex .mini source).words :=
    (List.isChain_append.mp follow).1
  obtain ⟨package, ident, semicolon, behind, isPackage, isIdent, isSemicolon, words, faults,
    extended, open_, rest⟩ := scans_packaged source
  -- the text itself is scanned alike
  have along : Scanner.Alongside (.start .mini source) behind := by
    refine ⟨rfl, extended, rfl, open_, ?_⟩
    rw [rest]
    exact List.dropWhile_cons_of_pos (by decide)
  obtain ⟨lexemes, silentAgain⟩ := Scanner.scans_extended along quiet
    (fun token member => plain token (List.mem_append_left _ member)) (Language.dots_apart program)
  have kinds : behind.words.map Token.kind = (lex .mini source).words.map Token.kind := by
    have same := congrArg (List.map Prod.fst) lexemes
    rw [List.map_map, List.map_map] at same
    exact same
  -- and so it is a program there, too
  have wrapped : Language.IsProgram .extended (lex .extended source.packaged).words := by
    rw [words_lex, words]
    exact Language.isProgram_extended isPackage isIdent isSemicolon (behindLiterals.congr kinds)
      (Language.isProgram_mini_congr kinds program)
  have reports : (parse .extended source.packaged other).reports = [] := by
    apply (parse_reports_nil_iff .extended source.packaged other).mpr
    refine ⟨?_, (Language.accepts_words_iff .extended source.packaged).mpr wrapped⟩
    exact faults.trans silentAgain
  exact ⟨accepted_of_reports_nil reports, reports⟩

/-- A class with a method that compares two numbers. -/
theorem parse_packaged_comparison :
    let source := Source.ofString "class A \x7b boolean f() \x7b return 1 < 2; \x7d \x7d"
    (parse .mini source none).reports = [] ∧
      (∀ token ∈ (lex .mini source).tokens, token.kind = .ident → Unreserved token.text) ∧
      Language.ChevronsFollowLiterals (lex .mini source).tokens ∧
      (parse .extended source.packaged none).verdict = .accepted ∧
      (parse .extended source.packaged none).reports = [] := by
  intro source
  have silent : (parse .mini source none).reports = [] := by decide +kernel
  have plain : ∀ token ∈ (lex .mini source).tokens, token.kind = .ident →
      Unreserved token.text := by
    have names : ∀ token ∈ (lex .mini source).tokens, token.kind = .ident →
        token.text = "A" ∨ token.text = "f" := by
      decide +kernel
    intro token member isIdent keyword only same
    have name := names token member isIdent
    rw [same] at name
    cases keyword <;> simp [Keyword.spelling] at name
  have follow : Language.ChevronsFollowLiterals (lex .mini source).tokens := by
    rw [Language.ChevronsFollowLiterals]
    decide +kernel
  exact ⟨silent, plain, follow, parse_packaged source none none silent plain follow⟩

end MiniJ
