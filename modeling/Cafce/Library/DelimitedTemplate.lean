import Mathlib.Data.List.Find
import Cafce.Library.WeightedText

/-! Texts with named references between an opening and a closing delimiter.
A text has one decomposition into literals and references, and its meaning in an
environment is read off that decomposition.
-/

namespace DelimitedTemplate

open WeightedText

variable {α : Type*}

/-- Delimiters whose occurrences cannot overlap themselves. -/
structure Delimiters (α : Type*) where
  opening : List α
  closing : List α
  opening_ne_nil : opening ≠ []
  closing_ne_nil : closing ≠ []
  opening_unbordered : Unbordered opening
  closing_unbordered : Unbordered closing

/-- A first literal, references each with the literal after it, and the text after a last
opening delimiter that is never closed.
-/
structure Pieces (α : Type*) where
  head : List α
  refs : List (List α × List α)
  tail : Option (List α)
deriving DecidableEq

/-- Referenced names, in text order. -/
def Pieces.names (pieces : Pieces α) : List (List α) :=
  pieces.refs.map Prod.fst

/-- The text that the pieces spell. -/
def Pieces.render (delimiters : Delimiters α) (pieces : Pieces α) : List α :=
  pieces.head
    ++ pieces.refs.flatMap (fun ref =>
        delimiters.opening ++ ref.1 ++ delimiters.closing ++ ref.2)
    ++ pieces.tail.elim [] (delimiters.opening ++ ·)

/-- Pieces that cannot be read in another way: no literal opens a reference, no name and
no unclosed tail closes one.
-/
structure Pieces.WellFormed (delimiters : Delimiters α) (pieces : Pieces α) : Prop where
  head_free : ¬ delimiters.opening <:+: pieces.head
  names_free : ∀ ref ∈ pieces.refs, ¬ delimiters.closing <:+: ref.1
  literals_free : ∀ ref ∈ pieces.refs, ¬ delimiters.opening <:+: ref.2
  tail_free : ∀ text ∈ pieces.tail, ¬ delimiters.closing <:+: text

/-- Well-formed pieces. -/
structure Template (delimiters : Delimiters α) extends Pieces α where
  wellFormed : toPieces.WellFormed delimiters

/-- A template is determined by its pieces. -/
theorem Template.ext_pieces {delimiters : Delimiters α} {left right : Template delimiters}
    (same : left.toPieces = right.toPieces)
    : left = right := by
  cases left
  cases right
  cases same
  rfl

/-- Pieces with one more reference in front. -/
def Pieces.prepend (literal name : List α) (rest : Pieces α) : Pieces α :=
  { head := literal, refs := (name, rest.head) :: rest.refs, tail := rest.tail }

@[simp] theorem Pieces.names_prepend (literal name : List α) (rest : Pieces α)
    : (rest.prepend literal name).names = name :: rest.names := rfl

theorem Pieces.render_prepend (delimiters : Delimiters α) (literal name : List α)
    (rest : Pieces α)
    : (rest.prepend literal name).render delimiters
      = literal ++ delimiters.opening
        ++ (name ++ delimiters.closing ++ rest.render delimiters) := by
  simp [prepend, render]

theorem Pieces.WellFormed.prepend {delimiters : Delimiters α} {literal name : List α}
    {rest : Pieces α} (wellFormed : rest.WellFormed delimiters)
    (literalFree : ¬ delimiters.opening <:+: literal)
    (nameFree : ¬ delimiters.closing <:+: name)
    : (rest.prepend literal name).WellFormed delimiters where
  head_free := literalFree
  names_free := List.forall_mem_cons.mpr ⟨nameFree, wellFormed.names_free⟩
  literals_free := List.forall_mem_cons.mpr ⟨wellFormed.head_free, wellFormed.literals_free⟩
  tail_free := wellFormed.tail_free

/-- Why a template has no value. -/
inductive Failure (α : Type*)
  | undefined (name : List α)
  | unterminated
deriving DecidableEq

/-- The pieces with every reference replaced by its value, and values never read again. -/
def Pieces.substitute (value : List α → List α) (pieces : Pieces α) : List α :=
  pieces.head ++ pieces.refs.flatMap (fun ref => value ref.1 ++ ref.2)

/-- The value of the pieces: the first undefined name is reported before an unclosed tail. -/
def Pieces.eval (env : List α → Option (List α)) (pieces : Pieces α)
    : Except (Failure α) (List α) :=
  match pieces.names.find? (fun name => (env name).isNone) with
  | some name => .error (.undefined name)
  | none =>
      match pieces.tail with
      | some _ => .error .unterminated
      | none => .ok (pieces.substitute fun name => (env name).getD [])

/-- A leading reference is looked up first and its value inserted verbatim. -/
theorem Pieces.eval_prepend (env : List α → Option (List α)) (literal name : List α)
    (rest : Pieces α)
    : (rest.prepend literal name).eval env
      = match env name with
        | none => .error (.undefined name)
        | some value => (rest.eval env).map fun text => literal ++ value ++ text := by
  simp only [eval, names_prepend, List.find?_cons]
  cases found : env name with
  | none => simp
  | some value =>
      simp only [Option.isNone_some]
      cases rest.names.find? (fun name => (env name).isNone) with
      | some _ => rfl
      | none =>
          simp only [prepend]
          cases rest.tail with
          | some _ => rfl
          | none => simp [Except.map, substitute, found]

/-- Only the values of referenced names matter. -/
theorem Pieces.eval_congr {left right : List α → Option (List α)} {pieces : Pieces α}
    (agree : ∀ name ∈ pieces.names, left name = right name)
    : pieces.eval left = pieces.eval right := by
  have missing : pieces.names.find? (fun name => (left name).isNone)
      = pieces.names.find? (fun name => (right name).isNone) := by
    apply List.find?_congr
    intro name member
    rw [agree name member]
  have inserted : pieces.refs.flatMap (fun ref => (left ref.1).getD [] ++ ref.2)
      = pieces.refs.flatMap (fun ref => (right ref.1).getD [] ++ ref.2) := by
    apply List.flatMap_congr
    intro ref member
    rw [agree ref.1 (List.mem_map_of_mem member)]
  simp only [eval, missing, substitute, inserted]

/-- A value exists exactly when every name is defined and no tail is left unclosed. -/
theorem Pieces.eval_eq_ok_iff {env : List α → Option (List α)} {pieces : Pieces α}
    {text : List α}
    : pieces.eval env = .ok text
      ↔ (∀ name ∈ pieces.names, (env name).isSome)
        ∧ pieces.tail = none
        ∧ text = pieces.substitute fun name => (env name).getD [] := by
  rw [eval]
  cases missing : pieces.names.find? (fun name => (env name).isNone) with
  | some name =>
      have undefined := List.find?_some missing
      have member := List.mem_of_find?_eq_some missing
      simp only [reduceCtorEq, false_iff, not_and]
      intro defined
      have value := defined name member
      simp_all
  | none =>
      have defined : ∀ name ∈ pieces.names, (env name).isSome := by
        intro name member
        have present := List.find?_eq_none.mp missing name member
        simpa [Option.isSome_iff_ne_none] using present
      cases pieces.tail with
      | some _ => simp
      | none =>
          simp only [Except.ok.injEq, true_and]
          exact ⟨fun same => ⟨defined, same.symm⟩, fun value => value.2.symm⟩

/-- A pair occurs in one of two joined texts, or across the seam. -/
theorem pair_infix_append_iff {first second : α} {left right : List α}
    : [first, second] <:+: left ++ right
      ↔ [first, second] <:+: left
        ∨ [first, second] <:+: right
        ∨ ([first] <:+ left ∧ [second] <+: right) := by
  rw [List.infix_append_iff_ne_nil]
  refine or_congr_right (or_congr_right ⟨?_, ?_⟩)
  · intro seam
    obtain ⟨before, behind, nonempty, nonempty', same, ending, beginning⟩ := seam
    cases before with
    | nil => exact absurd rfl nonempty
    | cons symbol before =>
        obtain ⟨rfl, later⟩ := List.cons.inj same
        rcases List.append_eq_singleton_iff.mp later.symm with ⟨rfl, rfl⟩ | ⟨rfl, rfl⟩
        · exact ⟨ending, beginning⟩
        · exact absurd rfl nonempty'
  · intro seam
    exact ⟨[first], [second], List.cons_ne_nil _ _, List.cons_ne_nil _ _, rfl, seam⟩

/-- A value that completes no pair of symbols with the texts around it. -/
structure Inert (first second : α) (value : List α) : Prop where
  nonempty : value ≠ []
  lacks_first : first ∉ value
  head_ne : value.head? ≠ some second

theorem Inert.not_second_prefix {first second : α} {value : List α}
    (inert : Inert first second value) (rest : List α)
    : ¬ [second] <+: value ++ rest := by
  cases value with
  | nil => exact absurd rfl inert.nonempty
  | cons head value =>
      intro leading
      obtain ⟨same, _⟩ := List.cons_prefix_cons.mp leading
      exact inert.head_ne (congrArg some same.symm)

/-- Inert values before literals without the pair leave a text without it, which does not
begin with its second symbol either, by induction on the references.
-/
theorem substituted_free {first second : α} {value : List α → List α}
    {refs : List (List α × List α)}
    (inert : ∀ ref ∈ refs, Inert first second (value ref.1))
    (literals : ∀ ref ∈ refs, ¬ [first, second] <:+: ref.2)
    : ¬ [first, second] <:+: refs.flatMap (fun ref => value ref.1 ++ ref.2)
      ∧ ¬ [second] <+: refs.flatMap (fun ref => value ref.1 ++ ref.2) := by
  induction refs with
  | nil => simp
  | cons ref refs ih =>
      obtain ⟨inserted, inert⟩ := List.forall_mem_cons.mp inert
      obtain ⟨literal, literals⟩ := List.forall_mem_cons.mp literals
      obtain ⟨free, unled⟩ := ih inert literals
      rw [List.flatMap_cons, List.append_assoc]
      refine ⟨?_, inserted.not_second_prefix _⟩
      rw [pair_infix_append_iff, pair_infix_append_iff]
      intro occurs
      rcases occurs with inside | (inside | inside | ⟨_, leading⟩) | ⟨ending, _⟩
      · exact inserted.lacks_first (inside.subset List.mem_cons_self)
      · exact literal inside
      · exact free inside
      · exact unled leading
      · exact inserted.lacks_first (ending.subset List.mem_cons_self)

/-- Inert values open no reference: neither inside a value or a literal nor across a seam. -/
theorem Pieces.WellFormed.substitute_free {delimiters : Delimiters α} {first second : α}
    {pieces : Pieces α} {value : List α → List α} (wellFormed : pieces.WellFormed delimiters)
    (opening : delimiters.opening = [first, second])
    (inert : ∀ name ∈ pieces.names, Inert first second (value name))
    : ¬ delimiters.opening <:+: pieces.substitute value := by
  have literals := wellFormed.literals_free
  have head := wellFormed.head_free
  rw [opening] at literals head ⊢
  obtain ⟨free, unled⟩ := substituted_free
    (fun ref member => inert ref.1 (List.mem_map_of_mem member)) literals
  rw [Pieces.substitute, pair_infix_append_iff]
  intro occurs
  rcases occurs with inside | inside | ⟨_, leading⟩
  · exact head inside
  · exact free inside
  · exact unled leading

variable [DecidableEq α]

/-- Splits a text at its first reference, then the text after that reference. -/
def parse (delimiters : Delimiters α) (text : List α) : Pieces α :=
  match _found : breakOn delimiters.opening text with
  | none => { head := text, refs := [], tail := none }
  | some (literal, after) =>
      match _closed : breakOn delimiters.closing after with
      | none => { head := literal, refs := [], tail := some after }
      | some (name, rest) => (parse delimiters rest).prepend literal name
termination_by text.length
decreasing_by
  obtain ⟨rfl, _⟩ := breakOn_eq_some delimiters.opening_ne_nil _found
  obtain ⟨rfl, _⟩ := breakOn_eq_some delimiters.closing_ne_nil _closed
  have nonempty := List.length_pos_of_ne_nil delimiters.opening_ne_nil
  simp only [List.length_append]
  omega

theorem parse_of_absent {delimiters : Delimiters α} {text : List α}
    (absent : breakOn delimiters.opening text = none)
    : parse delimiters text = { head := text, refs := [], tail := none } := by
  rw [parse]
  split <;> simp_all

theorem parse_of_unclosed {delimiters : Delimiters α} {text literal after : List α}
    (opened : breakOn delimiters.opening text = some (literal, after))
    (unclosed : breakOn delimiters.closing after = none)
    : parse delimiters text = { head := literal, refs := [], tail := some after } := by
  rw [parse]
  split
  · simp_all
  · split <;> simp_all

theorem parse_of_closed {delimiters : Delimiters α} {text literal after name rest : List α}
    (opened : breakOn delimiters.opening text = some (literal, after))
    (closed : breakOn delimiters.closing after = some (name, rest))
    : parse delimiters text = (parse delimiters rest).prepend literal name := by
  rw [parse]
  split
  · simp_all
  · split <;> simp_all

theorem parse_wellFormed (delimiters : Delimiters α) (text : List α)
    : (parse delimiters text).WellFormed delimiters := by
  fun_induction parse delimiters text with
  | case1 text absent =>
      exact {
        head_free := (breakOn_eq_none_iff delimiters.opening_ne_nil).mp absent
        names_free := by simp
        literals_free := by simp
        tail_free := by simp
      }
  | case2 text literal after opened unclosed =>
      exact {
        head_free := (breakOn_eq_some delimiters.opening_ne_nil opened).2
        names_free := by simp
        literals_free := by simp
        tail_free := by
          simpa using (breakOn_eq_none_iff delimiters.closing_ne_nil).mp unclosed
      }
  | case3 text literal after opened name rest closed ih =>
      exact ih.prepend (breakOn_eq_some delimiters.opening_ne_nil opened).2
        (breakOn_eq_some delimiters.closing_ne_nil closed).2

theorem render_parse (delimiters : Delimiters α) (text : List α)
    : (parse delimiters text).render delimiters = text := by
  fun_induction parse delimiters text with
  | case1 text absent => simp [Pieces.render]
  | case2 text literal after opened unclosed =>
      obtain ⟨rfl, _⟩ := breakOn_eq_some delimiters.opening_ne_nil opened
      simp [Pieces.render]
  | case3 text literal after opened name rest closed ih =>
      obtain ⟨rfl, _⟩ := breakOn_eq_some delimiters.opening_ne_nil opened
      obtain ⟨rfl, _⟩ := breakOn_eq_some delimiters.closing_ne_nil closed
      rw [Pieces.render_prepend, ih]

/-- Parsing reads well-formed pieces back from their rendering.
Witness: induction on the references; each delimiter is found where it was placed.
-/
theorem parse_render {delimiters : Delimiters α} {pieces : Pieces α}
    (wellFormed : pieces.WellFormed delimiters)
    : parse delimiters (pieces.render delimiters) = pieces := by
  rcases pieces with ⟨head, refs, tail⟩
  induction refs generalizing head with
  | nil =>
      cases tail with
      | none =>
          have absent : breakOn delimiters.opening head = none :=
            (breakOn_eq_none_iff delimiters.opening_ne_nil).mpr wellFormed.head_free
          simpa [Pieces.render] using parse_of_absent absent
      | some text =>
          have opened := breakOn_append text delimiters.opening_ne_nil
            delimiters.opening_unbordered wellFormed.head_free
          have unclosed : breakOn delimiters.closing text = none :=
            (breakOn_eq_none_iff delimiters.closing_ne_nil).mpr
              (wellFormed.tail_free text rfl)
          simpa [Pieces.render] using parse_of_unclosed opened unclosed
  | cons ref refs ih =>
      obtain ⟨name, literal⟩ := ref
      have rest : Pieces.WellFormed delimiters ⟨literal, refs, tail⟩ := {
        head_free := wellFormed.literals_free _ List.mem_cons_self
        names_free := (List.forall_mem_cons.mp wellFormed.names_free).2
        literals_free := (List.forall_mem_cons.mp wellFormed.literals_free).2
        tail_free := wellFormed.tail_free
      }
      have opened := breakOn_append
        (name ++ delimiters.closing ++ Pieces.render delimiters ⟨literal, refs, tail⟩)
        delimiters.opening_ne_nil delimiters.opening_unbordered wellFormed.head_free
      have closed := breakOn_append
        (Pieces.render delimiters ⟨literal, refs, tail⟩)
        delimiters.closing_ne_nil delimiters.closing_unbordered
        (wellFormed.names_free _ List.mem_cons_self)
      have step := parse_of_closed opened closed
      rw [ih literal rest, ← Pieces.render_prepend] at step
      exact step

-----------------------------------------------------------------------------------------
-- Texts in two parts
-----------------------------------------------------------------------------------------

section Append

variable {β : Type*}

/-- Closed pieces followed by other pieces: the literals that meet become one. -/
def Pieces.join (right : Pieces β) : List β → List (List β × List β) → Pieces β
  | head, [] => { right with head := head ++ right.head }
  | head, (name, literal) :: refs => (join right literal refs).prepend head name

/-- The literal after the last reference. -/
def lastLiteral : List β → List (List β × List β) → List β
  | head, [] => head
  | _, (_, literal) :: refs => lastLiteral literal refs

theorem Pieces.render_join (delimiters : Delimiters β) (right : Pieces β) (head : List β)
    (refs : List (List β × List β))
    : (right.join head refs).render delimiters
      = Pieces.render delimiters ⟨head, refs, none⟩ ++ right.render delimiters := by
  induction refs generalizing head with
  | nil => simp [join, render]
  | cons ref refs ih =>
      obtain ⟨name, literal⟩ := ref
      have closed : (⟨head, (name, literal) :: refs, none⟩ : Pieces β)
          = Pieces.prepend head name ⟨literal, refs, none⟩ := rfl
      rw [join, closed, render_prepend, render_prepend, ih]
      simp only [List.append_assoc]

/-- The text ends with its last literal. -/
theorem lastLiteral_suffix (delimiters : Delimiters β) (head : List β)
    (refs : List (List β × List β))
    : lastLiteral head refs <:+ Pieces.render delimiters ⟨head, refs, none⟩ := by
  induction refs generalizing head with
  | nil => simp [lastLiteral, Pieces.render]
  | cons ref refs ih =>
      obtain ⟨name, literal⟩ := ref
      have closed : (⟨head, (name, literal) :: refs, none⟩ : Pieces β)
          = Pieces.prepend head name ⟨literal, refs, none⟩ := rfl
      rw [lastLiteral, closed, Pieces.render_prepend, ← List.append_assoc]
      exact (ih literal).trans (List.suffix_append _ _)

theorem Pieces.WellFormed.lastLiteral_free {delimiters : Delimiters β} {head : List β}
    {refs : List (List β × List β)} {tail : Option (List β)}
    (wellFormed : Pieces.WellFormed delimiters ⟨head, refs, tail⟩)
    : ¬ delimiters.opening <:+: lastLiteral head refs := by
  induction refs generalizing head with
  | nil => exact wellFormed.head_free
  | cons ref refs ih =>
      obtain ⟨_, namesFree⟩ := List.forall_mem_cons.mp wellFormed.names_free
      obtain ⟨literalFree, literalsFree⟩ := List.forall_mem_cons.mp wellFormed.literals_free
      exact ih ⟨literalFree, namesFree, literalsFree, wellFormed.tail_free⟩

/-- Pieces that meet without opening a reference stay well-formed. -/
theorem Pieces.WellFormed.join {delimiters : Delimiters β} {right : Pieces β}
    {head : List β} {refs : List (List β × List β)}
    (left : Pieces.WellFormed delimiters ⟨head, refs, none⟩)
    (wellFormed : right.WellFormed delimiters)
    (meets : ¬ delimiters.opening <:+: lastLiteral head refs ++ right.head)
    : (right.join head refs).WellFormed delimiters := by
  induction refs generalizing head with
  | nil =>
      exact {
        head_free := meets
        names_free := wellFormed.names_free
        literals_free := wellFormed.literals_free
        tail_free := wellFormed.tail_free
      }
  | cons ref refs ih =>
      obtain ⟨name, literal⟩ := ref
      obtain ⟨nameFree, namesFree⟩ := List.forall_mem_cons.mp left.names_free
      obtain ⟨literalFree, literalsFree⟩ := List.forall_mem_cons.mp left.literals_free
      have rest : Pieces.WellFormed delimiters ⟨literal, refs, none⟩ :=
        ⟨literalFree, namesFree, literalsFree, by simp⟩
      exact (ih rest meets).prepend left.head_free nameFree

/-- The value of joined pieces is the values of both, the left one first. -/
theorem Pieces.eval_join (env : List β → Option (List β)) (right : Pieces β) (head : List β)
    (refs : List (List β × List β))
    : (right.join head refs).eval env
      = (Pieces.eval env ⟨head, refs, none⟩ >>= fun before =>
          (right.eval env).map (before ++ ·)) := by
  induction refs generalizing head with
  | nil =>
      have plain : Pieces.eval env ⟨head, [], none⟩ = .ok head := by
        simp [eval, names, substitute]
      rw [plain, join]
      change _ = (right.eval env).map (head ++ ·)
      simp only [eval, names, substitute]
      split
      · rfl
      · split <;> simp [Except.map]
  | cons ref refs ih =>
      obtain ⟨name, literal⟩ := ref
      have closed : (⟨head, (name, literal) :: refs, none⟩ : Pieces β)
          = Pieces.prepend head name ⟨literal, refs, none⟩ := rfl
      rw [join, closed, eval_prepend, eval_prepend, ih]
      cases env name with
      | none => rfl
      | some value =>
          cases Pieces.eval env ⟨literal, refs, none⟩ with
          | error failure => rfl
          | ok before =>
              cases right.eval env with
              | error failure => rfl
              | ok after =>
                  change Except.ok (head ++ value ++ (before ++ after))
                    = Except.ok (head ++ value ++ before ++ after)
                  rw [List.append_assoc (head ++ value)]

end Append

/-- A closed text followed by another is read in two parts, when their seam does not make up
an opening pair. Witness: the joined pieces spell both texts.
-/
theorem parse_append {delimiters : Delimiters α} {first second : α} {left right : List α}
    (opening : delimiters.opening = [first, second])
    (closed : (parse delimiters left).tail = none)
    (seam : ¬ ([first] <:+ left ∧ [second] <+: right))
    : parse delimiters (left ++ right)
      = (parse delimiters right).join (parse delimiters left).head
          (parse delimiters left).refs := by
  have leftWellFormed := parse_wellFormed delimiters left
  have rightWellFormed := parse_wellFormed delimiters right
  have leftText := render_parse delimiters left
  have rightText := render_parse delimiters right
  generalize parse delimiters left = leftPieces at closed leftWellFormed leftText ⊢
  generalize parse delimiters right = rightPieces at rightWellFormed rightText ⊢
  obtain ⟨head, refs, tail⟩ := leftPieces
  obtain rfl : tail = none := closed
  have literals : ¬ delimiters.opening <:+: lastLiteral head refs :=
    leftWellFormed.lastLiteral_free
  have meets : ¬ delimiters.opening <:+: lastLiteral head refs ++ rightPieces.head := by
    have free := rightWellFormed.head_free
    rw [opening] at literals free ⊢
    rw [pair_infix_append_iff]
    intro occurs
    rcases occurs with inside | inside | ⟨ending, leading⟩
    · exact literals inside
    · exact free inside
    · apply seam
      rw [← leftText, ← rightText]
      refine ⟨ending.trans (lastLiteral_suffix delimiters head refs), leading.trans ?_⟩
      rw [Pieces.render, List.append_assoc]
      exact List.prefix_append _ _
  have joined := parse_render (leftWellFormed.join rightWellFormed meets)
  rw [Pieces.render_join, leftText, rightText] at joined
  exact joined

/-- The template of a text. -/
def template (delimiters : Delimiters α) (text : List α) : Template delimiters :=
  { parse delimiters text with wellFormed := parse_wellFormed delimiters text }

/-- Every text is the rendering of exactly one template. -/
theorem existsUnique_template (delimiters : Delimiters α) (text : List α)
    : ∃! found : Template delimiters, found.render delimiters = text := by
  refine ⟨template delimiters text, render_parse delimiters text, ?_⟩
  rintro other rfl
  exact Template.ext_pieces (parse_render other.wellFormed).symm

end DelimitedTemplate
