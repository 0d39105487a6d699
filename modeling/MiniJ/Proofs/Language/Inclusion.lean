import Mathlib.Data.List.Chain
import MiniJ.Proofs.Language.Meaning

/-!
# Programs of the mini dialect in the extended one

What a phrase takes from a token list in the mini dialect it takes in the extended one
(`Language.derives_extended`), with one condition: in the extended dialect a `<` behind a name opens
type arguments, so every `<` must stand behind a literal. A reference and a constructed type end
with a token that is no literal, and so no `<` follows where the extended rules forbid one.

The proof goes rule by rule. Most rules of the mini dialect are those of the extended one with some
parts left out, and `Language.Widens` is closed under putting these parts back.
-/

set_option autoImplicit false

namespace MiniJ

namespace Language

open Ebnf

/-- Every `<` behind another token stands just behind a literal. -/
def ChevronsFollowLiterals (tokens : List Token) : Prop :=
  tokens.IsChain fun previous token =>
    token.kind = .leftChevron → previous.kind.isLiteral = true

variable {ts us vs : List Token}

theorem ChevronsFollowLiterals.suffix (follow : ChevronsFollowLiterals ts) (left : us <:+ ts) :
    ChevronsFollowLiterals us :=
  List.IsChain.suffix follow left

/-! ## Parts that end with no literal -/

/-- What was taken ends with a token that is no literal. -/
def EndsPlain (ts us : List Token) : Prop :=
  ∃ front last, ts = front ++ last :: us ∧ last.kind.isLiteral = false

theorem endsPlain_cons {last : Token} (plain : last.kind.isLiteral = false) :
    EndsPlain (last :: us) us :=
  ⟨[], last, rfl, plain⟩

/-- What is taken in front does not matter. -/
theorem EndsPlain.prepend (left : us <:+ ts) (ends : EndsPlain us vs) : EndsPlain ts vs := by
  obtain ⟨before, rfl⟩ := left
  obtain ⟨front, last, rfl, plain⟩ := ends
  exact ⟨before ++ front, last, (List.append_assoc ..).symm, plain⟩

/-- No `<` follows what ends with no literal. -/
theorem EndsPlain.notBefore (ends : EndsPlain ts us) (follow : ChevronsFollowLiterals ts) :
    ∀ token ∈ us.head?, ¬ (Sign.kind .leftChevron).Admits token := by
  obtain ⟨front, last, rfl, plain⟩ := ends
  intro token next chevron
  cases us with
  | nil => cases next
  | cons first us =>
      cases next
      have pair : ChevronsFollowLiterals (last :: token :: us) :=
        follow.suffix (List.suffix_append front _)
      rw [ChevronsFollowLiterals, List.isChain_cons_cons] at pair
      rw [pair.1 chevron] at plain
      cases plain

theorem EndsPlain.left (ends : EndsPlain ts us) : us <:+ ts := by
  obtain ⟨front, last, rfl, -⟩ := ends
  exact ⟨front ++ [last], by simp⟩

/-- What ends with a token of a kind that is no literal's. -/
theorem endsPlain_tok {kind : TokenKind} (plain : kind.isLiteral = false)
    (derives : Derives .mini (tok kind) ts us) : EndsPlain ts us := by
  obtain ⟨last, isKind, rfl⟩ := derives.reads
  have same : last.kind = kind := isKind
  exact endsPlain_cons (by rw [same]; exact plain)

theorem endsPlain_dotted (derives : Derives .mini dotted ts us) : EndsPlain ts us := by
  obtain ⟨vs, ⟨dot, -, rfl⟩, ws, ident, rfl⟩ := derives.reads
  exact (endsPlain_tok rfl (.of_reads ident)).prepend (List.suffix_cons dot _)

/-- Names behind dots keep a last token that is no literal. -/
theorem EndsPlain.dotted (ends : EndsPlain ts us) (more : Derives .mini (many dotted) us vs) :
    EndsPlain ts vs := by
  cases derives_many.mp more with
  | refl => exact ends
  | tail before last =>
      have between := (derives_many.mpr before).suffix.trans ends.left
      exact (endsPlain_dotted last).prepend between

theorem endsPlain_name (derives : Derives .mini name ts us) : EndsPlain ts us := by
  obtain ⟨first, rest, rfl, isHead, more⟩ := name_reads derives
  refine EndsPlain.dotted (endsPlain_cons ?_) more
  rcases List.mem_cons.mp isHead with ident | this
  · rw [ident]
    rfl
  · rw [List.mem_singleton.mp this]
    rfl

/-- The last token of a nominal type is no literal. -/
theorem endsPlain_nominal (derives : Derives .mini (phrase .nominal) ts us) :
    EndsPlain ts us := by
  rcases derives.rule.reads with ⟨first, isPrimitive, rfl⟩ | ⟨vs, ident, ws, more, rfl⟩ | none
  · obtain ⟨type, -, same⟩ := List.mem_map.mp isPrimitive
    exact endsPlain_cons (by rw [← same]; rfl)
  · exact (endsPlain_tok rfl (.of_reads ident)).dotted (.of_reads more)
  · exact none.elim

theorem endsPlain_index (derives : Derives .mini index ts us) : EndsPlain ts us := by
  obtain ⟨vs, ⟨bracket, -, rfl⟩, ws, inside, xs, closing, rfl⟩ := derives.reads
  have left : ws <:+ bracket :: vs := (Derives.suffix inside).trans (List.suffix_cons bracket vs)
  exact (endsPlain_tok rfl (.of_reads closing)).prepend left

theorem endsPlain_arguments (derives : Derives .mini (phrase .arguments) ts us) :
    EndsPlain ts us := by
  obtain ⟨vs, ⟨parenthesis, -, rfl⟩, ws, inside, xs, closing, rfl⟩ := derives.rule.reads
  have left : ws <:+ parenthesis :: vs :=
    (Derives.suffix (.of_reads inside)).trans (List.suffix_cons parenthesis vs)
  exact (endsPlain_tok rfl (.of_reads closing)).prepend left

/-- The last token of a reference is no literal. -/
theorem endsPlain_reference (derives : Derives .mini (phrase .reference) ts us) :
    EndsPlain ts us := by
  rcases derives.rule.reads with target | call | none
  · rcases Derives.rule target |>.reads with bare | ⟨vs, before, ws, further, rfl⟩ | none
    · exact endsPlain_name (.of_reads bare)
    · exact (endsPlain_index (.of_reads further)).prepend (Derives.suffix (.of_reads before))
    · exact none.elim
  · obtain ⟨vs, before, ws, arguments, rfl⟩ := Derives.rule call |>.reads
    exact (endsPlain_arguments arguments).prepend (Derives.suffix (.of_reads before))
  · exact none.elim

/-! ## Wider parts -/

/-- What a phrase takes in the mini dialect, and in the extended one if every `<` stands behind a
literal. The whole program is no phrase of both. -/
def Carried (name : Phrase) (ts us : List Token) : Prop :=
  Derives .mini (phrase name) ts us ∧
    (name ≠ .program → ChevronsFollowLiterals ts → Derives .extended (phrase name) ts us)

/-- What a part reads as carried phrases, a wider part takes in the extended dialect. -/
def Widens (part wider : Part) : Prop :=
  ∀ ts us, part.Reads Sign.Admits Carried ts us → ChevronsFollowLiterals ts →
    Derives .extended wider ts us

/-- Whether a part speaks of no whole programs. -/
def isPartial : Part → Bool
  | .nonterminal name => name ≠ .program
  | .terminal _ | .empty | .never => true
  | .sequence first second => isPartial first && isPartial second
  | .choice one other => isPartial one && isPartial other
  | .many body | .notBefore _ body => isPartial body

theorem derives_of_carried {part : Part} (reads : part.Reads Sign.Admits Carried ts us) :
    Derives .mini part ts us :=
  .of_reads (reads.mono fun _ _ _ carried => carried.1)

namespace Widens

variable {part wider other wide first second : Part}

theorem sequence (before : Widens first wider) (behind : Widens second wide) :
    Widens (.sequence first second) (.sequence wider wide) := by
  intro ts us reads follow
  obtain ⟨vs, one, two⟩ := reads
  have left : vs <:+ ts := (derives_of_carried one).suffix
  exact .sequence (before _ _ one follow) (behind _ _ two (follow.suffix left))

theorem choice (one : Widens part wider) (two : Widens other wide) :
    Widens (.choice part other) (.choice wider wide) := by
  intro ts us reads follow
  rcases reads with this | that
  · exact .one (one _ _ this follow)
  · exact .other (two _ _ that follow)

theorem many (body : Widens part wider) : Widens (.many part) (.many wider) := by
  intro ts us reads follow
  have row : Relation.ReflTransGen (part.Reads Sign.Admits Carried) ts us := reads
  induction row using Relation.ReflTransGen.head_induction_on with
  | refl => exact .stop
  | head once rest ih =>
      have left := (derives_of_carried once).suffix
      exact .again (body _ _ once follow) (ih rest (follow.suffix left))

/-- A part that speaks of no whole programs is as wide as itself. -/
theorem same (isIn : isPartial part = true) : Widens part part := by
  induction part with
  | terminal sign =>
      intro ts us reads _
      obtain ⟨letter, admitted, rfl⟩ := reads
      exact .terminal admitted
  | nonterminal name =>
      intro ts us carried follow
      exact carried.2 (by simpa [isPartial] using isIn) follow
  | empty =>
      intro ts us same _
      cases same
      exact .empty
  | never =>
      intro ts us none _
      exact none.elim
  | sequence first second ihFirst ihSecond =>
      rw [isPartial, Bool.and_eq_true] at isIn
      exact sequence (ihFirst isIn.1) (ihSecond isIn.2)
  | choice one other ihOne ihOther =>
      rw [isPartial, Bool.and_eq_true] at isIn
      exact choice (ihOne isIn.1) (ihOther isIn.2)
  | many body ih => exact many (ih isIn)
  | notBefore excluded body ih =>
      intro ts us reads follow
      exact .notBefore (ih isIn _ _ reads.1 follow) reads.2

/-- A part that is left out in the mini dialect may be missing in the extended one. -/
theorem skipped (missing : ∀ ts, Derives .extended wider ts ts) : Widens .empty wider := by
  intro ts us same _
  cases same
  exact missing ts

theorem left_out : Widens .empty (opt wider) :=
  skipped fun _ => .other .empty

theorem never : Widens .never wider := by
  intro ts us none _
  exact none.elim

theorem one (body : Widens part wider) : Widens part (.choice wider wide) :=
  fun _ _ reads follow => .one (body _ _ reads follow)

theorem kinds {few many : List TokenKind} (among : ∀ kind ∈ few, kind ∈ many) :
    Widens (.terminal (.anyOf few)) (.terminal (.anyOf many)) := by
  intro ts us reads _
  obtain ⟨letter, admitted, rfl⟩ := reads
  exact .terminal (among _ admitted)

theorem kind {kind : TokenKind} {many : List TokenKind} (among : kind ∈ many) :
    Widens (tok kind) (.terminal (.anyOf many)) := by
  intro ts us reads _
  obtain ⟨letter, isKind, rfl⟩ := reads
  have same : letter.kind = kind := isKind
  exact .terminal (by rw [Sign.Admits, same]; exact among)

/-! ## Rules with further parts -/

theorem classDeclaration :
    Widens (rule .mini .classDeclaration) (rule .extended .classDeclaration) := by
  have unmarked : Widens .empty markers :=
    skipped fun _ => .sequence (.other .empty) (.sequence .stop .empty)
  exact sequence unmarked (sequence (same rfl) (sequence (same rfl) (sequence left_out (same rfl))))

theorem method : Widens (Language.method .mini) (Language.method .extended) :=
  sequence (same rfl) (sequence (same rfl) (sequence left_out (same rfl)))

theorem fields : Widens (Language.fields .mini) (Language.fields .extended) :=
  sequence (same rfl) (sequence left_out (same rfl))

theorem member : Widens (rule .mini .member) (rule .extended .member) :=
  sequence (same rfl) (sequence
    (choice (sequence (same rfl) (sequence method (same rfl)))
      (choice (sequence (same rfl) (sequence method (same rfl)))
        (choice (sequence (same rfl) (sequence fields (same rfl))) never)))
    (same rfl))

theorem parameter : Widens (Language.parameter .mini) (Language.parameter .extended) :=
  sequence (same rfl) (sequence left_out (same rfl))

theorem parameters : Widens (rule .mini .parameters) (rule .extended .parameters) := by
  have list : Widens (commaList (Language.parameter .mini))
      (commaList (Language.parameter .extended)) :=
    sequence parameter (sequence (many (sequence (same rfl) (sequence parameter (same rfl))))
      (same rfl))
  exact sequence (same rfl) (sequence (choice list (same rfl)) (same rfl))

theorem nominal : Widens (rule .mini .nominal) (rule .extended .nominal) :=
  choice (same rfl)
    (choice (sequence (same rfl) (sequence (many (one (same rfl))) (same rfl))) never)

theorem statement : Widens (rule .mini .statement) (rule .extended .statement) :=
  choice (same rfl) (choice (same rfl) (choice (same rfl) (choice (same rfl) (choice (same rfl)
    (choice (same rfl) (choice (same rfl) (choice never never)))))))

theorem simple : Widens (rule .mini .simple) (rule .extended .simple) := by
  have ending : Widens (declarationEnd .mini) (declarationEnd .extended) :=
    sequence (one (same rfl)) (same rfl)
  exact choice (sequence (same rfl) (sequence (same rfl) (sequence ending (same rfl)))) (same rfl)

/-! ## Rules of another shape -/

theorem type : Widens (rule .mini .type) (rule .extended .type) := by
  intro ts us reads follow
  rcases reads with boolean | ⟨vs, element, ws, pairs, rfl⟩ |
    ⟨vs, ident, ws, more, xs, pairs, rfl⟩ | none
  · have truth : Derives .extended primitive ts us := kind (by decide) _ _ boolean follow
    exact .sequence (.nonterminal (.one truth)) (.sequence .stop .empty)
  · have left := (derives_of_carried element).suffix
    have name : Derives .extended primitive ts vs := kinds (by decide) _ _ element follow
    exact .sequence (.nonterminal (.one name))
      (.sequence (many (same rfl) _ _ pairs (follow.suffix left)) .empty)
  · have first := (derives_of_carried ident).suffix
    have row : Derives .mini (.many dotted) vs ws := derives_of_carried more
    have second := row.suffix.trans first
    have suffixes : Derives .extended (.many (nominalSuffix .extended)) vs ws :=
      many (one (same rfl)) _ _ more (follow.suffix first)
    exact .sequence (.nonterminal (.alternative 1 rfl
        (.sequence (same rfl _ _ ident follow) (.sequence suffixes .empty))))
      (.sequence (many (same rfl) _ _ pairs (follow.suffix second)) .empty)
  · exact none.elim

theorem declared : Widens (rule .mini .declared) (rule .extended .declared) := by
  intro ts us reads follow
  rcases reads with boolean | ⟨vs, element, ws, pairs, rfl⟩ | ⟨vs, before, ws, pairs, rfl⟩ | none
  · have truth : Derives .extended primitive ts us := kind (by decide) _ _ boolean follow
    exact .one (.sequence truth (.sequence .stop .empty))
  · have left := (derives_of_carried element).suffix
    have name : Derives .extended primitive ts vs := kinds (by decide) _ _ element follow
    exact .one (.sequence name
      (.sequence (many (same rfl) _ _ pairs (follow.suffix left)) .empty))
  · have left := (derives_of_carried before).suffix
    exact (declared_of_name (same rfl _ _ before follow)
      (many (same rfl) _ _ pairs (follow.suffix left))).rule
  · exact none.elim

theorem target : Widens (rule .mini .target) (rule .extended .target) := by
  intro ts us reads follow
  rcases reads with bare | ⟨vs, before, ws, further, rfl⟩ | none
  · exact (target_of_name (same rfl _ _ bare follow)).rule
  · have left := (derives_of_carried before).suffix
    have named := target_of_name (same rfl _ _ before follow)
    exact .alternative 2 rfl (.sequence (reference_of_target named)
      (.sequence (same rfl _ _ further (follow.suffix left)) .empty))
  · exact none.elim

theorem call : Widens (rule .mini .call) (rule .extended .call) := by
  intro ts us reads follow
  obtain ⟨vs, before, ws, arguments, rfl⟩ := reads
  have left := (derives_of_carried before).suffix
  exact (call_of_name (same rfl _ _ before follow)
    (arguments.2 (by decide) (follow.suffix left))).rule

theorem operand : Widens (rule .mini .operand) (rule .extended .operand) := by
  intro ts us reads follow
  rcases reads with literal | condition | ⟨vs, new, ws, nominal, xs, parentheses, ys, sizes, rfl⟩ |
    reference | none
  · exact .alternative 0 rfl (same rfl _ _ literal follow)
  · exact .alternative 1 rfl (same rfl _ _ condition follow)
  · have first := (derives_of_carried new).suffix
    have second := nominal.1.suffix.trans first
    have opening : Derives .extended (word .new_) ts vs := same rfl _ _ new follow
    have constructed := nominal.2 (by decide) (follow.suffix first)
    rcases parentheses with ⟨bs, left, cs, right, rfl⟩ | rfl
    · -- empty parentheses are arguments
      have within := (derives_of_carried left).suffix.trans second
      have third := (derives_of_carried right).suffix.trans within
      have arguments : Derives .extended (phrase .arguments) ws cs :=
        .nonterminal (.sequence (same rfl _ _ left (follow.suffix second))
          (.sequence (.other .empty)
            (.sequence (same rfl _ _ right (follow.suffix within)) .empty)))
      exact .alternative 4 rfl (.sequence opening (.sequence constructed (.sequence arguments
        (.sequence (many (same rfl) _ _ sizes (follow.suffix third)) .empty))))
    · have row : Relation.ReflTransGen (index.Reads Sign.Admits Carried) ws ys := sizes
      cases row.cases_head with
      | inl bare =>
          -- nothing follows the type, and so no type arguments may
          obtain rfl := bare
          have free := (endsPlain_nominal nominal.1).notBefore (follow.suffix first)
          exact .alternative 3 rfl (.notBefore
            (.sequence opening (.sequence constructed .empty)) free)
      | inr sized =>
          obtain ⟨xs, size, further⟩ := sized
          have third := (derives_of_carried size).suffix.trans second
          exact .alternative 5 rfl (.sequence opening (.sequence constructed
            (.sequence (same rfl _ _ size (follow.suffix second))
              (.sequence (many (same rfl) _ _ further (follow.suffix third)) .empty))))
  · have free := (endsPlain_reference reference.1).notBefore follow
    exact .alternative 6 rfl (.notBefore (reference.2 (by decide) follow) free)
  · exact none.elim

/-- **Every rule of the mini dialect is a narrower rule of the extended one**, apart from the one
for whole programs. -/
theorem rule (name : Phrase) (isPart : name ≠ .program) :
    Widens (Language.rule .mini name) (Language.rule .extended name) := by
  cases name with
  | program => exact absurd rfl isPart
  | classDeclaration => exact classDeclaration
  | member => exact member
  | parameters => exact parameters
  | nominal => exact nominal
  | type => exact type
  | statement => exact statement
  | simple => exact simple
  | declared => exact declared
  | target => exact target
  | call => exact call
  | operand => exact operand
  | block | forLoop | update | reference | arguments | initializer | expression | tail =>
      exact same rfl

end Widens

/-- **What a phrase takes in the mini dialect it takes in the extended one**, if every `<` stands
behind a literal. -/
theorem derives_extended {name : Phrase} (isPart : name ≠ .program)
    (follow : ChevronsFollowLiterals ts) (derives : Derives .mini (phrase name) ts us) :
    Derives .extended (phrase name) ts us := by
  have carried : Carried name ts us := by
    apply derives.least
    intro name ts us reads
    exact ⟨.nonterminal (derives_of_carried reads),
      fun isPart follow => .nonterminal (Widens.rule name isPart ts us reads follow)⟩
  exact carried.2 isPart follow

/-- **A program of the mini dialect is one of the extended dialect behind a package clause**, if
every `<` stands behind a literal. -/
theorem isProgram_extended {package ident semicolon : Token}
    (isPackage : package.kind = .keyword .package_) (isIdent : ident.kind = .ident)
    (isSemicolon : semicolon.kind = .semicolon) (follow : ChevronsFollowLiterals ts)
    (program : IsProgram .mini ts) :
    IsProgram .extended (package :: ident :: semicolon :: ts) := by
  have classes : Derives .extended (many (phrase .classDeclaration)) ts [] := by
    have row := derives_many.mp program.rule
    clear program
    induction row using Relation.ReflTransGen.head_induction_on with
    | refl => exact .stop
    | head once _ ih =>
        exact .again (derives_extended (by decide) follow once) (ih (follow.suffix once.suffix))
  exact .nonterminal (.sequence (.terminal isPackage) (.sequence (.terminal isIdent)
    (.sequence .stop (.sequence (.terminal isSemicolon) (.sequence .stop
      (.sequence classes .empty))))))

end Language

end MiniJ
