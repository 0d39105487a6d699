import Mathlib.Logic.Relation

/-!
# Grammars in extended Backus–Naur form

An expression of the form says what may stand at one place of a word, and a grammar gives one
expression to each nonterminal. `Ebnf.Derives` is the meaning: an expression takes a word to what is
left of it behind the expression. What is left is kept because `Ebnf.notBefore` looks at it.

`Ebnf.Reads` is the same for one level, with the nonterminals read as relations that are given. The
derivations are the least such relations that the rules keep (`Ebnf.Derives.least`), which is how
properties of all words of a grammar are proved: rule by rule.
-/

set_option autoImplicit false

namespace MiniJ

/-- An expression over terminals and nonterminals. -/
inductive Ebnf (T N : Type) where
  /-- One letter that a terminal admits. -/
  | terminal (sign : T)
  | nonterminal (name : N)
  /-- Nothing. -/
  | empty
  /-- No word at all. -/
  | never
  | sequence (first second : Ebnf T N)
  | choice (one other : Ebnf T N)
  /-- Any number of times, perhaps not at all. -/
  | many (body : Ebnf T N)
  /-- A part that must not be followed by a letter that the terminal admits. -/
  | notBefore (excluded : T) (body : Ebnf T N)
  deriving DecidableEq

namespace Ebnf

variable {T N α β : Type}

/-- Parts in a row. -/
def seq : List (Ebnf T N) → Ebnf T N
  | [] => empty
  | part :: parts => sequence part (seq parts)

/-- One of several alternatives. -/
def oneOf : List (Ebnf T N) → Ebnf T N
  | [] => never
  | part :: parts => choice part (oneOf parts)

/-- A part that may be missing. -/
def opt (body : Ebnf T N) : Ebnf T N :=
  choice body empty

/-- The terminals that occur in an expression. -/
def terminals : Ebnf T N → List T
  | terminal sign => [sign]
  | nonterminal _ | empty | never => []
  | sequence first second => first.terminals ++ second.terminals
  | choice one other => one.terminals ++ other.terminals
  | many body => body.terminals
  | notBefore excluded body => excluded :: body.terminals

/-- The terminals before which some part of an expression must not stand. -/
def excluded : Ebnf T N → List T
  | terminal _ | nonterminal _ | empty | never => []
  | sequence first second => first.excluded ++ second.excluded
  | choice one other => one.excluded ++ other.excluded
  | many body => body.excluded
  | notBefore sign body => sign :: body.excluded

/-- Whether an expression takes a word to what is left of it, when `admits` says which letters a
terminal stands for and `rules` what a nonterminal stands for. -/
inductive Derives (admits : T → α → Prop) (rules : N → Ebnf T N) :
    Ebnf T N → List α → List α → Prop
  | terminal {sign : T} {letter : α} {us : List α} :
      admits sign letter → Derives admits rules (terminal sign) (letter :: us) us
  | nonterminal {name : N} {ts us : List α} :
      Derives admits rules (rules name) ts us → Derives admits rules (nonterminal name) ts us
  | empty {ts : List α} : Derives admits rules empty ts ts
  | sequence {first second : Ebnf T N} {ts us vs : List α} :
      Derives admits rules first ts us → Derives admits rules second us vs →
      Derives admits rules (sequence first second) ts vs
  | one {one other : Ebnf T N} {ts us : List α} :
      Derives admits rules one ts us → Derives admits rules (choice one other) ts us
  | other {one other : Ebnf T N} {ts us : List α} :
      Derives admits rules other ts us → Derives admits rules (choice one other) ts us
  | stop {body : Ebnf T N} {ts : List α} : Derives admits rules (many body) ts ts
  | again {body : Ebnf T N} {ts us vs : List α} :
      Derives admits rules body ts us → Derives admits rules (many body) us vs →
      Derives admits rules (many body) ts vs
  | notBefore {excluded : T} {body : Ebnf T N} {ts us : List α} :
      Derives admits rules body ts us → (∀ letter ∈ us.head?, ¬ admits excluded letter) →
      Derives admits rules (notBefore excluded body) ts us

/-- Whether an expression takes a word to what is left of it, when each nonterminal is read as a
relation. -/
def Reads (admits : T → α → Prop) (meaning : N → List α → List α → Prop) :
    Ebnf T N → List α → List α → Prop
  | terminal sign, ts, us => ∃ letter, admits sign letter ∧ ts = letter :: us
  | nonterminal name, ts, us => meaning name ts us
  | empty, ts, us => ts = us
  | never, _, _ => False
  | sequence first second, ts, us =>
    ∃ vs, Reads admits meaning first ts vs ∧ Reads admits meaning second vs us
  | choice one other, ts, us =>
    Reads admits meaning one ts us ∨ Reads admits meaning other ts us
  | many body, ts, us => Relation.ReflTransGen (Reads admits meaning body) ts us
  | notBefore excluded body, ts, us =>
    Reads admits meaning body ts us ∧ ∀ letter ∈ us.head?, ¬ admits excluded letter

variable {admits : T → α → Prop} {rules : N → Ebnf T N}
  {meaning : N → List α → List α → Prop} {expression : Ebnf T N} {ts us vs : List α}

/-- **Derivations are least.** Relations that the rules keep hold of all that is derived. -/
theorem Derives.least
    (keeps : ∀ name ts us, (rules name).Reads admits meaning ts us → meaning name ts us)
    (derives : Derives admits rules expression ts us) :
    expression.Reads admits meaning ts us := by
  induction derives with
  | terminal admitted => exact ⟨_, admitted, rfl⟩
  | nonterminal _ ih => exact keeps _ _ _ ih
  | empty => exact rfl
  | sequence _ _ first second => exact ⟨_, first, second⟩
  | one _ ih => exact .inl ih
  | other _ ih => exact .inr ih
  | stop => exact .refl
  | again _ _ once more => exact .head once more
  | notBefore _ free ih => exact ⟨ih, free⟩

/-- What a nonterminal takes, its rule takes. -/
theorem Derives.rule {name : N} (derives : Derives admits rules (.nonterminal name) ts us) :
    Derives admits rules (rules name) ts us := by
  cases derives with
  | nonterminal body => exact body

/-- What is left of a word is its end. -/
theorem Derives.suffix (derives : Derives admits rules expression ts us) : us <:+ ts := by
  induction derives with
  | terminal _ => exact List.suffix_cons _ _
  | empty | stop => exact List.suffix_refl _
  | sequence _ _ first second => exact second.trans first
  | again _ _ once more => exact more.trans once
  | nonterminal _ ih | one _ ih | other _ ih | notBefore _ _ ih => exact ih

/-- Wider relations for the nonterminals read all that narrower ones do. -/
theorem Reads.mono {wider : N → List α → List α → Prop}
    (included : ∀ name ts us, meaning name ts us → wider name ts us)
    (reads : expression.Reads admits meaning ts us) : expression.Reads admits wider ts us := by
  induction expression generalizing ts us with
  | terminal _ | empty | never => exact reads
  | nonterminal name => exact included name ts us reads
  | sequence first second ihFirst ihSecond =>
      obtain ⟨vs, before, behind⟩ := reads
      exact ⟨vs, ihFirst before, ihSecond behind⟩
  | choice one other ihOne ihOther => exact reads.imp ihOne ihOther
  | many body ih =>
      have row : Relation.ReflTransGen (body.Reads admits meaning) ts us := reads
      exact row.lift id fun _ _ => ih
  | notBefore excluded body ih => exact ⟨ih reads.1, reads.2⟩

/-- An alternative is found by its number. -/
theorem Derives.alternative {parts : List (Ebnf T N)} {part : Ebnf T N} (n : Nat)
    (there : parts[n]? = some part) (derives : Derives admits rules part ts us) :
    Derives admits rules (oneOf parts) ts us := by
  induction parts generalizing n with
  | nil => cases there
  | cons first others ih =>
      cases n with
      | zero =>
          cases there
          exact .one derives
      | succ n => exact .other (ih n there)

/-- One of several alternatives was taken. -/
theorem Derives.exists_alternative {parts : List (Ebnf T N)}
    (derives : Derives admits rules (oneOf parts) ts us) :
    ∃ part ∈ parts, Derives admits rules part ts us := by
  induction parts with
  | nil => cases derives
  | cons first others ih =>
      cases derives with
      | one taken => exact ⟨first, List.mem_cons_self, taken⟩
      | other later =>
          obtain ⟨part, among, taken⟩ := ih later
          exact ⟨part, List.mem_cons_of_mem _ among, taken⟩

/-- A reading with derivations for the nonterminals is a derivation. -/
theorem Derives.of_reads
    (reads : expression.Reads admits (fun name => Derives admits rules (.nonterminal name)) ts us) :
    Derives admits rules expression ts us := by
  induction expression generalizing ts us with
  | terminal sign =>
      obtain ⟨letter, admitted, rfl⟩ := reads
      exact .terminal admitted
  | nonterminal name => exact reads
  | empty =>
      cases reads
      exact .empty
  | never => exact reads.elim
  | sequence first second ihFirst ihSecond =>
      obtain ⟨vs, before, behind⟩ := reads
      exact .sequence (ihFirst before) (ihSecond behind)
  | choice one other ihOne ihOther =>
      rcases reads with first | second
      · exact .one (ihOne first)
      · exact .other (ihOther second)
  | many body ih =>
      induction reads using Relation.ReflTransGen.head_induction_on with
      | refl => exact .stop
      | head once _ more => exact .again (ih once) more
  | notBefore excluded body ih => exact .notBefore (ih reads.1) reads.2

/-- What a derivation reads, with derivations for the nonterminals. -/
theorem Derives.reads (derives : Derives admits rules expression ts us) :
    expression.Reads admits (fun name => Derives admits rules (.nonterminal name)) ts us :=
  derives.least fun _ _ _ reads => .nonterminal (.of_reads reads)

/-- Any number of parts are so many derivations in a row. -/
theorem derives_many {body : Ebnf T N} :
    Derives admits rules (many body) ts us ↔
      Relation.ReflTransGen (Derives admits rules body) ts us := by
  constructor
  · intro more
    have row : Relation.ReflTransGen
        (body.Reads admits fun name => Derives admits rules (.nonterminal name)) ts us :=
      more.reads
    exact row.lift id fun _ _ => .of_reads
  · intro row
    induction row using Relation.ReflTransGen.head_induction_on with
    | refl => exact .stop
    | head once _ more => exact .again once more

/-- One more part goes behind any number of them. -/
theorem Derives.snoc {body : Ebnf T N} (more : Derives admits rules (many body) ts us)
    (once : Derives admits rules body us vs) : Derives admits rules (many body) ts vs :=
  derives_many.mpr ((derives_many.mp more).tail once)

/-- One more part goes in front of any number of them, whatever comes behind. -/
theorem Derives.cons {body rest : Ebnf T N} (once : Derives admits rules body ts us)
    (more : Derives admits rules (Ebnf.sequence (many body) rest) us vs) :
    Derives admits rules (Ebnf.sequence (many body) rest) ts vs := by
  cases more with
  | sequence others behind => exact .sequence (.again once others) behind

theorem Derives.many_mono {body wider : Ebnf T N}
    (included : ∀ ts us, Derives admits rules body ts us → Derives admits rules wider ts us)
    (more : Derives admits rules (many body) ts us) : Derives admits rules (many wider) ts us :=
  derives_many.mpr ((derives_many.mp more).lift id included)

/-! ## More letters behind a word -/

/-- Letters that are left behind a word do not matter to what it is, so they may be cut off. -/
theorem Derives.cut {us' ws : List α} (derives : Derives admits rules expression ts us)
    (shape : us = us' ++ ws) :
    ∃ ts', ts = ts' ++ ws ∧ Derives admits rules expression ts' us' := by
  induction derives generalizing us' with
  | @terminal sign letter us admitted =>
      subst shape
      exact ⟨letter :: us', rfl, .terminal admitted⟩
  | nonterminal _ ih =>
      obtain ⟨ts', rfl, body⟩ := ih shape
      exact ⟨ts', rfl, .nonterminal body⟩
  | empty => exact ⟨us', shape, .empty⟩
  | sequence _ _ first second =>
      obtain ⟨vs', rfl, behind⟩ := second shape
      obtain ⟨ts', rfl, before⟩ := first rfl
      exact ⟨ts', rfl, .sequence before behind⟩
  | one _ ih =>
      obtain ⟨ts', rfl, body⟩ := ih shape
      exact ⟨ts', rfl, .one body⟩
  | other _ ih =>
      obtain ⟨ts', rfl, body⟩ := ih shape
      exact ⟨ts', rfl, .other body⟩
  | stop => exact ⟨us', shape, .stop⟩
  | again _ _ once more =>
      obtain ⟨vs', rfl, behind⟩ := more shape
      obtain ⟨ts', rfl, before⟩ := once rfl
      exact ⟨ts', rfl, .again before behind⟩
  | notBefore _ free ih =>
      obtain ⟨ts', rfl, body⟩ := ih shape
      subst shape
      refine ⟨ts', rfl, .notBefore body fun letter front => free letter ?_⟩
      rw [List.head?_append, front]
      rfl

/-- Letters may be put behind a word, unless it is over and some part must not stand before the
first of them. -/
theorem Derives.append (signs : List T) {ws : List α}
    (derives : Derives admits rules expression ts us)
    (known : ∀ name, ∀ sign ∈ (rules name).excluded, sign ∈ signs)
    (own : ∀ sign ∈ expression.excluded, sign ∈ signs)
    (apart : us = [] → ∀ sign ∈ signs, ∀ letter ∈ ws.head?, ¬ admits sign letter) :
    Derives admits rules expression (ts ++ ws) (us ++ ws) := by
  induction derives with
  | terminal admitted => exact .terminal admitted
  | nonterminal _ ih => exact .nonterminal (ih (known _) apart)
  | empty => exact .empty
  | @sequence one other ts us vs _ behind first second =>
      have before := first (fun sign member => own sign (List.mem_append_left _ member))
        fun isOver => apart (List.suffix_nil.mp (isOver ▸ behind.suffix))
      exact .sequence before (second (fun sign member => own sign (List.mem_append_right _ member))
        apart)
  | one _ ih => exact .one (ih (fun sign member => own sign (List.mem_append_left _ member)) apart)
  | other _ ih =>
      exact .other (ih (fun sign member => own sign (List.mem_append_right _ member)) apart)
  | stop => exact .stop
  | again _ behind once more =>
      have before := once own fun isOver => apart (List.suffix_nil.mp (isOver ▸ behind.suffix))
      exact .again before (more own apart)
  | @notBefore sign body ts us _ free ih =>
      have inner := ih (fun other member => own other (List.mem_cons_of_mem _ member)) apart
      refine .notBefore inner fun letter front => ?_
      cases us with
      -- With nothing left, the letter that is looked at is the first one appended.
      | nil => exact apart rfl sign (own sign List.mem_cons_self) letter front
      | cons first others => exact free letter front

/-- A word of two parts in a row is a word of the one and a word of the other. -/
theorem Derives.exists_words {first second : Ebnf T N}
    (derives : Derives admits rules (Ebnf.sequence first second) ts []) :
    ∃ one other, ts = one ++ other ∧ Derives admits rules first one [] ∧
      Derives admits rules second other [] := by
  cases derives with
  | sequence before behind =>
      obtain ⟨word, split, own⟩ := before.cut (List.nil_append _).symm
      exact ⟨word, _, split, own, behind⟩

/-! ## Letters of one rule only -/

/-- That something begins at every marked letter that is read. -/
def Begins (marked : α → Prop) (something : List α → Prop) (ts us : List α) : Prop :=
  ∀ before letter rest, ts = before ++ letter :: rest → us <:+ rest → marked letter →
    something (letter :: rest)

section Begins

variable {marked : α → Prop} {something : List α → Prop}

theorem Begins.refl (ts : List α) : Begins marked something ts ts := by
  intro before letter rest split left
  have longer := left.length_le
  simp only [split, List.length_append, List.length_cons] at longer
  omega

/-- A letter is read at first or later. -/
theorem Begins.trans (first : Begins marked something ts vs) (later : Begins marked something vs us)
    (left : vs <:+ ts) : Begins marked something ts us := by
  intro before letter rest split last isMarked
  have there : letter :: rest <:+ ts := ⟨before, split.symm⟩
  rcases List.suffix_or_suffix_of_suffix left there with inside | ⟨middle, whole⟩
  · rcases List.suffix_cons_iff.mp inside with rfl | inside
    · exact later [] letter rest rfl last isMarked
    · exact first before letter rest split inside isMarked
  · exact later middle letter rest whole.symm last isMarked

/-- **At every marked letter that is read the one phrase begins whose rule has such letters**, and
has them in front. The induction is on the expression that is read. -/
theorem Reads.begins {own : N}
    (reads : expression.Reads admits
      (fun name ts us => Derives admits rules (nonterminal name) ts us ∧
        Begins marked (fun ts => ∃ us, Derives admits rules (nonterminal own) ts us) ts us) ts us)
    (plain : ∀ sign ∈ expression.terminals, ∀ letter, admits sign letter → ¬ marked letter) :
    us <:+ ts ∧
      Begins marked (fun ts => ∃ us, Derives admits rules (nonterminal own) ts us) ts us := by
  induction expression generalizing ts us with
  | terminal sign =>
      obtain ⟨first, admitted, rfl⟩ := reads
      refine ⟨List.suffix_cons _ _, ?_⟩
      intro before letter rest split left isMarked
      cases before with
      | nil =>
          cases split
          exact absurd isMarked (plain sign (List.mem_singleton_self _) _ admitted)
      | cons other before =>
          obtain rfl : us = before ++ letter :: rest := (List.cons.inj split).2
          -- A mark behind the one letter taken would lie in what is left.
          have longer := left.length_le
          simp only [List.length_append, List.length_cons] at longer
          omega
  | nonterminal name => exact ⟨reads.1.suffix, reads.2⟩
  | empty =>
      cases reads
      exact ⟨List.suffix_refl _, .refl _⟩
  | never => exact reads.elim
  | sequence first second ihFirst ihSecond =>
      obtain ⟨vs, before, behind⟩ := reads
      obtain ⟨left, one⟩ :=
        ihFirst before fun sign member => plain sign (List.mem_append_left _ member)
      obtain ⟨last, other⟩ :=
        ihSecond behind fun sign member => plain sign (List.mem_append_right _ member)
      exact ⟨last.trans left, one.trans other left⟩
  | choice one other ihOne ihOther =>
      rcases reads with first | second
      · exact ihOne first fun sign member => plain sign (List.mem_append_left _ member)
      · exact ihOther second fun sign member => plain sign (List.mem_append_right _ member)
  | many body ih =>
      induction reads using Relation.ReflTransGen.head_induction_on with
      | refl => exact ⟨List.suffix_refl _, .refl _⟩
      | head once _ more =>
          obtain ⟨left, one⟩ := ih once plain
          exact ⟨more.1.trans left, one.trans more.2 left⟩
  | notBefore excluded body ih =>
      exact ih reads.1 fun sign member => plain sign (List.mem_cons_of_mem _ member)

/-- The same for derivations. -/
theorem Derives.begins {own : N} {sign : T} {body : Ebnf T N}
    (shape : rules own = Ebnf.sequence (Ebnf.terminal sign) body)
    (inside : ∀ sign ∈ body.terminals, ∀ letter, admits sign letter → ¬ marked letter)
    (others : ∀ name, name ≠ own → ∀ sign ∈ (rules name).terminals, ∀ letter,
      admits sign letter → ¬ marked letter)
    (plain : ∀ sign ∈ expression.terminals, ∀ letter, admits sign letter → ¬ marked letter)
    (derives : Derives admits rules expression ts us) :
    Begins marked (fun ts => ∃ us, Derives admits rules (Ebnf.nonterminal own) ts us) ts us := by
  refine (Reads.begins (derives.least ?_) plain).2
  intro name ts us reads
  have rule : Derives admits rules (Ebnf.nonterminal name) ts us :=
    .nonterminal (.of_reads (reads.mono fun _ _ _ both => both.1))
  refine ⟨rule, ?_⟩
  by_cases isOwn : name = own
  · subst isOwn
    rw [shape] at reads
    obtain ⟨_, ⟨first, -, rfl⟩, reads⟩ := reads
    intro before letter rest split left isMarked
    cases before with
    | nil =>
        -- in front the phrase itself begins
        cases split
        exact ⟨us, rule⟩
    | cons other before =>
        exact (reads.begins inside).2 before letter rest (List.cons.inj split).2 left isMarked
  · exact (reads.begins (others name isOwn)).2

end Begins

/-! ## Words over another alphabet -/

section Map

variable {admits' : T → β → Prop} {f : α → β}

/-- Letters may be replaced where the terminals do not tell the difference. -/
theorem Derives.map
    (agree : ∀ name, ∀ sign ∈ (rules name).terminals, ∀ letter,
      admits sign letter ↔ admits' sign (f letter))
    (same : ∀ sign ∈ expression.terminals, ∀ letter, admits sign letter ↔ admits' sign (f letter))
    (derives : Derives admits rules expression ts us) :
    Derives admits' rules expression (ts.map f) (us.map f) := by
  induction derives with
  | terminal admitted => exact .terminal ((same _ (List.mem_singleton_self _) _).mp admitted)
  | nonterminal _ ih => exact .nonterminal (ih (agree _))
  | empty => exact .empty
  | sequence _ _ first second =>
      exact .sequence (first fun sign member => same sign (List.mem_append_left _ member))
        (second fun sign member => same sign (List.mem_append_right _ member))
  | one _ ih => exact .one (ih fun sign member => same sign (List.mem_append_left _ member))
  | other _ ih => exact .other (ih fun sign member => same sign (List.mem_append_right _ member))
  | stop => exact .stop
  | again _ _ once more => exact .again (once same) (more same)
  | @notBefore excluded body ts us _ free ih =>
      refine .notBefore (ih fun sign member => same sign (List.mem_cons_of_mem _ member)) ?_
      intro letter front
      rw [List.head?_map, Option.mem_def, Option.map_eq_some_iff] at front
      obtain ⟨original, here, rfl⟩ := front
      rw [← same excluded List.mem_cons_self]
      exact free original here

/-- Replaced letters may be put back. -/
theorem Derives.of_map
    (agree : ∀ name, ∀ sign ∈ (rules name).terminals, ∀ letter,
      admits sign letter ↔ admits' sign (f letter))
    {ts' us' : List β}
    (same : ∀ sign ∈ expression.terminals, ∀ letter, admits sign letter ↔ admits' sign (f letter))
    (derives : Derives admits' rules expression ts' us') (shape : ts' = ts.map f) :
    ∃ us, us' = us.map f ∧ Derives admits rules expression ts us := by
  induction derives generalizing ts with
  | @terminal sign letter us admitted =>
      obtain ⟨original, us, rfl, rfl, rfl⟩ := List.map_eq_cons_iff.mp shape.symm
      exact ⟨us, rfl, .terminal ((same _ (List.mem_singleton_self _) _).mpr admitted)⟩
  | nonterminal _ ih =>
      obtain ⟨us, left, body⟩ := ih (agree _) shape
      exact ⟨us, left, .nonterminal body⟩
  | empty => exact ⟨ts, shape, .empty⟩
  | sequence _ _ ihFirst ihSecond =>
      obtain ⟨us, left, first⟩ :=
        ihFirst (fun sign member => same sign (List.mem_append_left _ member)) shape
      obtain ⟨vs, left', second⟩ :=
        ihSecond (fun sign member => same sign (List.mem_append_right _ member)) left
      exact ⟨vs, left', .sequence first second⟩
  | one _ ih =>
      obtain ⟨us, left, body⟩ :=
        ih (fun sign member => same sign (List.mem_append_left _ member)) shape
      exact ⟨us, left, .one body⟩
  | other _ ih =>
      obtain ⟨us, left, body⟩ :=
        ih (fun sign member => same sign (List.mem_append_right _ member)) shape
      exact ⟨us, left, .other body⟩
  | stop => exact ⟨ts, shape, .stop⟩
  | again _ _ ihOnce ihMore =>
      obtain ⟨us, left, once⟩ := ihOnce same shape
      obtain ⟨vs, left', more⟩ := ihMore same left
      exact ⟨vs, left', .again once more⟩
  | @notBefore excluded body ts' us' _ free ih =>
      obtain ⟨us, rfl, inner⟩ :=
        ih (fun sign member => same sign (List.mem_cons_of_mem _ member)) shape
      refine ⟨us, rfl, .notBefore inner ?_⟩
      intro letter front
      rw [same excluded List.mem_cons_self]
      apply free (f letter)
      rw [List.head?_map, Option.mem_def, Option.map_eq_some_iff]
      exact ⟨letter, front, rfl⟩

end Map

end Ebnf

end MiniJ
