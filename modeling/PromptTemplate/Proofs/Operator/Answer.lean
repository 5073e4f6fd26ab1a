import PromptTemplate.Proofs.Evaluation.Fault
import PromptTemplate.Proofs.Number.Numeral
import PromptTemplate.Proofs.Number.Range
import PromptTemplate.Proofs.Operator.Builtin
import PromptTemplate.Proofs.Template.Desugaring

namespace PromptTemplate

namespace Text

def IsFiniteNumeral (t : Text) : Prop :=
  ∃ x : Decimal, x.Spelled t ∧ x.magnitude < Binary64.overflow

theorem isFiniteNumeral_iff (t : Text) :
    t.IsFiniteNumeral ↔ ∃ x, Decimal.read? digit? t.strip = some x ∧ x.toBinary64.isFinite := by
  simp only [IsFiniteNumeral, Decimal.read?_eq_some_iff, Decimal.isFinite_toBinary64_iff]

theorem isBlank_of_isSeparator {c : Char} (h : isSeparator c) : isBlank c := by
  simp only [isSeparator, Bool.and_eq_true, decide_eq_true_eq] at h
  simp [isBlank]
  omega

theorem not_separator_of_core {x : Decimal} {t : Text} (h : x.Core t) :
    ∀ c ∈ t, ¬isSeparator c := by
  intro c hc hsep
  have hblank := Decimal.blankless_core h c hc
  rw [isBlank_of_isSeparator hsep] at hblank
  cases hblank

def IsSeparatedNumeral (t : Text) : Prop :=
  ∃ (x : Decimal) (front core back : Text), Blank front ∧ x.Core core ∧ Blank back ∧
    t = front ++ core ++ back ∧ ∃ c ∈ front ++ back, isSeparator c

theorem isMisread_iff (t : Text) : t.isMisread ↔ t.IsSeparatedNumeral := by
  rw [isMisread, Bool.and_eq_true, Option.isSome_iff_exists, List.any_eq_true]
  constructor
  · rintro ⟨⟨x, hx⟩, c, hc, hsep⟩
    obtain ⟨front, core, back, hfront, hcore, hback, rfl⟩ := Decimal.read?_eq_some_iff.mp hx
    refine ⟨x, front, core, back, hfront, hcore, hback, rfl, c, ?_, hsep⟩
    have hcore' : c ∉ core := fun hmem => not_separator_of_core hcore c hmem hsep
    simpa [hcore'] using hc
  · rintro ⟨x, front, core, back, hfront, hcore, hback, rfl, c, hc, hsep⟩
    refine ⟨⟨x, Decimal.read?_eq_some_iff.mpr ⟨front, core, back, hfront, hcore, hback, rfl⟩⟩,
      c, ?_, hsep⟩
    rcases List.mem_append.mp hc with hc | hc <;> simp [hc]

end Text

def ComparisonError.IsInvalidOperand (e : ComparisonError) : Prop :=
  e.kind = "InvalidComparisonOperand".toList

theorem readNumber_of_separated {t : Text} (h : t.IsSeparatedNumeral) :
    readNumber t = .error (.fault ⟨t⟩) :=
  (readNumber_fault_iff t ⟨t⟩).mpr ⟨(Text.isMisread_iff t).mpr h, rfl⟩

theorem readNumber_of_not_separated {t : Text} (h : ¬t.IsSeparatedNumeral) :
    t.IsFiniteNumeral ∧ (∃ x, readNumber t = .ok x) ∨
      ¬t.IsFiniteNumeral ∧ ∃ e, readNumber t = .error (.undecided e) ∧ e.IsInvalidOperand := by
  rw [← Text.isMisread_iff, Text.isMisread] at h
  rw [Text.isFiniteNumeral_iff]
  unfold readNumber
  cases hread : Decimal.read? Text.digit? t.strip with
  | none => exact .inr ⟨by simp, _, rfl, rfl⟩
  | some d =>
      have hsep : ¬t.any Text.isSeparator := by simpa [hread] using h
      by_cases hfinite : d.toBinary64.isFinite
      · exact .inl ⟨⟨d, rfl, hfinite⟩, d.toBinary64, by simp [hsep, hfinite]⟩
      · exact .inr ⟨by simp [hfinite], .notFinite t, by simp [hsep, hfinite], rfl⟩

def Tag.numericOps : List Text :=
  ["gt", "gte", "lt", "lte"].map String.toList

structure Operator.Fits (o : Operator) (c : Comparison) : Prop where
  literal : c.literal.isSome ↔ o.kind ≠ .truthiness
  count : o.arity = if c.literal.isSome || c.other.isSome then 2 else 1
  number : o.kind = .number ↔ c.op ∈ Tag.numericOps

namespace Comparison

theorem Ending.fits {c : Comparison} {operand : Text} (h : c.Ending operand) :
    ∃ o, OperatorTable.builtin.get? c.op = some o ∧ o.Fits c := by
  have hliterals : ∀ op ∈ Tag.literalOps, (OperatorTable.builtin.get? op).any fun o =>
      o.kind ≠ .truthiness ∧ o.arity = 2 ∧ (o.kind = .number ↔ op ∈ Tag.numericOps) := by
    decide
  have hkeys : ∀ op ∈ Tag.keyOps, (OperatorTable.builtin.get? op).any fun o =>
      o.kind = .truthiness ∧ o.arity = 2 ∧ op ∉ Tag.numericOps := by
    decide
  have halone : ∀ op ∈ Tag.unaryOps, (OperatorTable.builtin.get? op).any fun o =>
      o.kind = .truthiness ∧ o.arity = 1 ∧ op ∉ Tag.numericOps := by
    decide
  cases h with
  | literal hop =>
      obtain ⟨o, ho, hfits⟩ := (Option.any_eq_true _ _).mp (hliterals _ hop)
      obtain ⟨hkind, harity, hnumber⟩ := of_decide_eq_true hfits
      exact ⟨o, ho, by simp [hkind], by simp [harity], hnumber⟩
  | key hop =>
      obtain ⟨o, ho, hfits⟩ := (Option.any_eq_true _ _).mp (hkeys _ hop)
      obtain ⟨hkind, harity, hnumber⟩ := of_decide_eq_true hfits
      exact ⟨o, ho, by simp [hkind], by simp [harity], by simp [hkind, hnumber]⟩
  | alone hop =>
      obtain ⟨o, ho, hfits⟩ := (Option.any_eq_true _ _).mp (halone _ hop)
      obtain ⟨hkind, harity, hnumber⟩ := of_decide_eq_true hfits
      exact ⟨o, ho, by simp [hkind], by simp [harity], by simp [hkind, hnumber]⟩

variable {c : Comparison} {o : Operator}

theorem operands_of_fits (h : o.Fits c) (hop : c.op ∉ Tag.numericOps) (left : Resolved)
    {right : Option Resolved} (hright : right.isSome = c.other.isSome) :
    ∃ os, c.operands o left right = .ok os ∧ os.length = o.arity := by
  have hkind := mt h.number.mp hop
  unfold operands
  cases hliteral : c.literal with
  | none =>
      have htruthiness : o.kind = .truthiness := by simpa [hliteral] using h.literal
      rw [htruthiness, h.count, hliteral, ← hright]
      refine ⟨_, rfl, ?_⟩
      cases right <;> rfl
  | some literal =>
      have htruthiness : o.kind ≠ .truthiness := h.literal.mp (by simp [hliteral])
      rw [h.count, hliteral]
      cases hk : o.kind with
      | text => exact ⟨_, rfl, rfl⟩
      | sequence => exact ⟨_, rfl, rfl⟩
      | number => exact absurd hk hkind
      | truthiness => exact absurd hk htruthiness

theorem evaluate_of_fits {table : OperatorTable} (hget : table.get? c.op = some o) (h : o.Fits c)
    (hop : c.op ∉ Tag.numericOps) (left : Resolved) {right : Option Resolved}
    (hright : right.isSome = c.other.isSome) :
    ∃ b, c.evaluate table left right = .ok b := by
  obtain ⟨os, hoperands, hlength⟩ := operands_of_fits h hop left hright
  refine ⟨o.compare os, ?_⟩
  simp [evaluate, hget, hoperands, hlength, bind, Except.bind, pure, Except.pure]

theorem evaluate_of_numeric {table : OperatorTable} (hget : table.get? c.op = some o)
    (h : o.Fits c) (hop : c.op ∈ Tag.numericOps) (left : Resolved) (right : Option Resolved) :
    ∃ literal, c.literal = some literal ∧ c.evaluate table left right = do
      let x ← readNumber left.comparisonText
      let y ← readNumber literal
      return o.compare [.number x, .number y] := by
  have hkind := h.number.mpr hop
  obtain ⟨literal, hliteral⟩ : ∃ literal, c.literal = some literal :=
    Option.isSome_iff_exists.mp (h.literal.mpr (by simp [hkind]))
  have hcount : o.arity = 2 := by simp [h.count, hliteral]
  refine ⟨literal, hliteral, ?_⟩
  simp [evaluate, hget, operands, hkind, hliteral, hcount, bind_assoc]

/-- A number that a condition compares is misread. The literal is not looked at unless the left one
is a finite number. -/
def Misreads (c : Comparison) (left : Text) : Prop :=
  c.op ∈ Tag.numericOps ∧ ∃ literal, c.literal = some literal ∧
    (left.IsSeparatedNumeral ∨ left.IsFiniteNumeral ∧ literal.IsSeparatedNumeral)

def LacksNumber (c : Comparison) (left : Text) : Prop :=
  c.op ∈ Tag.numericOps ∧ ∃ literal, c.literal = some literal ∧
    ¬(left.IsFiniteNumeral ∧ literal.IsFiniteNumeral)

theorem evaluate_cases {table : OperatorTable} (hget : table.get? c.op = some o) (h : o.Fits c)
    (left : Resolved) {right : Option Resolved} (hright : right.isSome = c.other.isSome) :
    c.Misreads left.comparisonText ∧ (∃ f, c.evaluate table left right = .error (.fault f)) ∨
      ¬c.Misreads left.comparisonText ∧ c.LacksNumber left.comparisonText ∧
        (∃ e, c.evaluate table left right = .error (.undecided e) ∧ e.IsInvalidOperand) ∨
      ¬c.Misreads left.comparisonText ∧ ¬c.LacksNumber left.comparisonText ∧
        ∃ b, c.evaluate table left right = .ok b := by
  by_cases hop : c.op ∈ Tag.numericOps
  -- the left text is read first, and the literal only if that gave a number
  · obtain ⟨literal, hliteral, heval⟩ := evaluate_of_numeric hget h hop left right
    rw [heval]
    simp only [Misreads, LacksNumber, hop, hliteral, true_and, Option.some.injEq, exists_eq_left']
    by_cases hleft : left.comparisonText.IsSeparatedNumeral
    · rw [readNumber_of_separated hleft]
      exact .inl ⟨.inl hleft, _, rfl⟩
    rcases readNumber_of_not_separated hleft with ⟨hnumber, x, hx⟩ | ⟨hnumber, e, he, hkind⟩
    · rw [hx]
      by_cases hmisread : literal.IsSeparatedNumeral
      · rw [readNumber_of_separated hmisread]
        exact .inl ⟨.inr ⟨hnumber, hmisread⟩, _, rfl⟩
      have hread : ¬(left.comparisonText.IsSeparatedNumeral ∨
          left.comparisonText.IsFiniteNumeral ∧ literal.IsSeparatedNumeral) :=
        not_or.mpr ⟨hleft, mt And.right hmisread⟩
      rcases readNumber_of_not_separated hmisread with ⟨hnumber', y, hy⟩ | ⟨hnumber', e, he, hkind⟩
      · rw [hy]
        exact .inr (.inr ⟨hread, not_not.mpr ⟨hnumber, hnumber'⟩, _, rfl⟩)
      · rw [he]
        exact .inr (.inl ⟨hread, mt And.right hnumber', e, rfl, hkind⟩)
    · rw [he]
      have hread := not_or.mpr ⟨hleft, mt (And.left : _ ∧ literal.IsSeparatedNumeral → _) hnumber⟩
      exact .inr (.inl ⟨hread, mt And.left hnumber, e, rfl, hkind⟩)
  · obtain ⟨b, hb⟩ := evaluate_of_fits hget h hop left hright
    simp only [Misreads, LacksNumber, hop, false_and, not_false_iff]
    exact .inr (.inr ⟨trivial, trivial, b, hb⟩)

end Comparison

namespace Token

/-- A condition that stands in a template always has a built-in operator that takes what it has. It
is decided unless a number that it compares is misread, which ends the evaluation, or is no finite
number, which is told. -/
theorem condition_decided (template : Text) {o : Opening} {span : Span} {c : Comparison}
    (h : .tag (.opening o) span ∈ tokenize template) (hc : o.comparison = some c) (s : Scope) :
    let left := (s.resolve o.key).comparisonText
    let answer := c.evaluate .builtin (s.resolve o.key) (c.other.map s.resolve)
    (∃ op, OperatorTable.builtin.get? c.op = some op ∧ op.Fits c) ∧
    ((∃ f, answer = .error (.fault f)) ↔ c.Misreads left) ∧
    ((∃ e, answer = .error (.undecided e)) ↔ ¬c.Misreads left ∧ c.LacksNumber left) ∧
    (∀ e, answer = .error (.undecided e) → e.IsInvalidOperand) ∧
    ((∃ b, answer = .ok b) ↔ ¬c.Misreads left ∧ ¬c.LacksNumber left) := by
  intro left answer
  obtain ⟨operand, hending⟩ := (Opening.readable_of_token h).comparison c hc
  obtain ⟨op, hget, hfits⟩ := hending.fits
  have hright : (c.other.map s.resolve).isSome = c.other.isSome := Option.isSome_map
  refine ⟨⟨op, hget, hfits⟩, ?_⟩
  rcases Comparison.evaluate_cases hget hfits (s.resolve o.key) hright with
    ⟨hmis, f, hanswer⟩ | ⟨hmis, hlacks, e, hanswer, hkind⟩ | ⟨hmis, hlacks, b, hanswer⟩
  · simp [left, answer, hanswer, hmis]
  · simp [left, answer, hanswer, hmis, hlacks, hkind]
  · simp [left, answer, hanswer, hmis, hlacks]

theorem condition_decided_of_overflow :
    let c : Comparison := ⟨"gt".toList, some ['5'], none⟩
    let s : Scope := ⟨[(['n'], .text "1e309".toList)], [], .comma⟩
    .tag (.opening ⟨.ifBlock, ['n'], false, some c⟩) ⟨0, 18⟩ ∈
        tokenize "\x7b\x7b#if (gt n \"5\")\x7d\x7d".toList ∧
      ∃ e, c.evaluate .builtin (s.resolve ['n']) none = .error (.undecided e) ∧
        e.IsInvalidOperand := by
  intro c s
  have hmem : .tag (.opening ⟨.ifBlock, ['n'], false, some c⟩) ⟨0, 18⟩ ∈
      tokenize "\x7b\x7b#if (gt n \"5\")\x7d\x7d".toList := by
    decide +kernel
  obtain ⟨-, -, hundecided, hkind, -⟩ := condition_decided _ hmem rfl s
  have hleft : (s.resolve ['n']).comparisonText = "1e309".toList := by decide +kernel
  have hnumber : ¬Text.IsFiniteNumeral "1e309".toList := by
    rw [Text.isFiniteNumeral_iff]
    rintro ⟨x, hx, hfinite⟩
    have hread : Decimal.read? Text.digit? (Text.strip "1e309".toList) =
        some ⟨false, 1, 309⟩ := by
      decide +kernel
    rw [hread] at hx
    cases hx
    exact absurd hfinite (by decide +kernel)
  have hmisreads : ¬c.Misreads "1e309".toList := by
    rintro ⟨-, literal, -, hseparated | ⟨hfinite, -⟩⟩
    · have hmisread : Text.isMisread "1e309".toList = false := by decide +kernel
      rw [(Text.isMisread_iff _).mpr hseparated] at hmisread
      cases hmisread
    · exact hnumber hfinite
  have hlacks : c.LacksNumber "1e309".toList := ⟨by decide, ['5'], rfl, mt And.left hnumber⟩
  rw [hleft] at hundecided
  obtain ⟨e, he⟩ := hundecided.mpr ⟨hmisreads, hlacks⟩
  exact ⟨hmem, e, he, hkind e he⟩

theorem separator_unanswered :
    let c : Comparison := ⟨"gt".toList, some ['5'], none⟩
    let s : Scope := ⟨[(['n'], .text ['\x1c', '2'])], [], .comma⟩
    let answer := c.evaluate .builtin (s.resolve ['n']) none
    .tag (.opening ⟨.ifBlock, ['n'], false, some c⟩) ⟨0, 18⟩ ∈
        tokenize "\x7b\x7b#if (gt n \"5\")\x7d\x7d".toList ∧
      (¬∃ e, answer = .error (.undecided e)) ∧ ¬∃ b, answer = .ok b := by
  intro c s answer
  have hanswer : answer = .error (.fault ⟨['\x1c', '2']⟩) := by decide +kernel
  refine ⟨by decide +kernel, ?_, ?_⟩
  · simp [hanswer]
  · simp [hanswer]

end Token

end PromptTemplate
