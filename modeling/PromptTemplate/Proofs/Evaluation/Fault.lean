import PromptTemplate.Proofs.Evaluation.Uncached

namespace PromptTemplate

/-- A numeral with an information separator among the blanks around it. -/
def Text.isMisread (t : Text) : Bool :=
  (Decimal.read? Text.digit? t.strip).isSome && t.any Text.isSeparator

theorem readNumber_fault_iff (t : Text) (f : NumeralFault) :
    readNumber t = .error (.fault f) ↔ t.isMisread ∧ f = ⟨t⟩ := by
  unfold readNumber Text.isMisread
  cases hread : Decimal.read? Text.digit? t.strip with
  | none => simp
  | some d =>
      by_cases hsep : t.any Text.isSeparator
      · simp [hsep, eq_comm]
      · by_cases hfinite : d.toBinary64.isFinite <;> simp [hsep, hfinite]

def Body.openings : Body → List Opening
  | .nil => []
  | .text _ _ _ rest => openings rest
  | .variable _ _ _ rest => openings rest
  | .block _ o _ consequent _ _ alternate rest =>
      o :: (openings consequent ++ openings alternate ++ openings rest)

namespace Setting

/-- The numeral on which a condition fails: the left one, or the literal if the left one can be
read. -/
def fault? (s : Setting) (o : Opening) : Option NumeralFault := do
  let c ← o.comparison
  let op ← s.operators.get? c.op
  let literal ← c.literal
  let left := (s.scope.resolve o.key).comparisonText
  if op.kind = .number then
    if left.isMisread then some ⟨left⟩
    else if (readNumber left).isOk && literal.isMisread then some ⟨literal⟩
    else none
  else none

def reached (s : Setting) : Body → List Opening
  | .nil => []
  | .text _ _ _ rest => reached s rest
  | .variable _ _ _ rest => reached s rest
  | .block _ o _ consequent _ hasAlternate alternate rest =>
      let inner :=
        match s.verdict o with
        | .error _ => []
        | .ok outcome =>
            if outcome.shows o then reached s consequent
            else if hasAlternate then reached s alternate
            else []
      o :: (inner ++ reached s rest)

def faultOf {α : Type} : Except NumeralFault α → Option NumeralFault
  | .ok _ => none
  | .error f => some f

theorem faultOf_eq_some_iff {α : Type} (x : Except NumeralFault α) (f : NumeralFault) :
    faultOf x = some f ↔ x = .error f := by
  cases x <;> simp [faultOf]

theorem faultOf_eq_none_iff {α : Type} (x : Except NumeralFault α) :
    faultOf x = none ↔ ∃ a, x = .ok a := by
  cases x <;> simp [faultOf]

theorem operands_fault_iff (c : Comparison) (op : Operator) (left : Resolved)
    (right : Option Resolved) (f : NumeralFault) :
    c.operands op left right = .error (.fault f) ↔
      op.kind = .number ∧ ∃ literal, c.literal = some literal ∧
        (readNumber left.comparisonText = .error (.fault f) ∨
          (readNumber left.comparisonText).isOk ∧ readNumber literal = .error (.fault f)) := by
  unfold Comparison.operands
  cases c.literal with
  | none => cases op.kind <;> simp
  | some literal =>
      cases op.kind with
      | text => simp
      | truthiness => simp
      | sequence => simp
      | number =>
          simp only [true_and, Option.some.injEq, exists_eq_left']
          cases readNumber left.comparisonText with
          | error e => simp [bind, Except.bind, Except.isOk, Except.toBool]
          | ok x =>
              cases readNumber literal <;>
                simp [bind, Except.bind, pure, Except.pure, Except.isOk, Except.toBool]

theorem evaluate_fault_iff (c : Comparison) (table : OperatorTable) (left : Resolved)
    (right : Option Resolved) (f : NumeralFault) :
    c.evaluate table left right = .error (.fault f) ↔
      ∃ op, table.get? c.op = some op ∧ c.operands op left right = .error (.fault f) := by
  unfold Comparison.evaluate
  cases table.get? c.op with
  | none => simp
  | some op =>
      cases ho : c.operands op left right with
      | error e => simp [ho, bind, Except.bind]
      | ok operands =>
          by_cases hlen : operands.length = op.arity <;>
            simp [ho, hlen, bind, Except.bind, pure, Except.pure]

theorem verdict_fault_iff (s : Setting) (o : Opening) (f : NumeralFault) :
    s.verdict o = .error f ↔
      ∃ c, o.comparison = some c ∧
        c.evaluate s.operators (s.scope.resolve o.key) (c.other.map s.scope.resolve) =
          .error (.fault f) := by
  unfold verdict
  cases o.comparison with
  | none => simp
  | some c =>
      simp only [Option.some.injEq, exists_eq_left']
      cases c.evaluate s.operators (s.scope.resolve o.key) (c.other.map s.scope.resolve) with
      | ok b => simp
      | error e => cases e <;> simp

theorem fault?_eq_some_iff (s : Setting) (o : Opening) (f : NumeralFault) :
    s.fault? o = some f ↔
      ∃ c op literal, o.comparison = some c ∧ s.operators.get? c.op = some op ∧
        c.literal = some literal ∧ op.kind = .number ∧
        (readNumber (s.scope.resolve o.key).comparisonText = .error (.fault f) ∨
          (readNumber (s.scope.resolve o.key).comparisonText).isOk ∧
            readNumber literal = .error (.fault f)) := by
  have hread (left : Text) (h : (readNumber left).isOk) : left.isMisread = false := by
    cases hmis : left.isMisread with
    | false => rfl
    | true =>
        rw [(readNumber_fault_iff left ⟨left⟩).mpr ⟨hmis, rfl⟩] at h
        simp [Except.isOk, Except.toBool] at h
  simp only [fault?, Option.bind_eq_bind, Option.bind_eq_some_iff, readNumber_fault_iff]
  constructor
  · rintro ⟨c, hc, op, hop, literal, hl, h⟩
    refine ⟨c, op, literal, hc, hop, hl, ?_⟩
    split at h
    · split at h
      · simp_all
      · split at h
        · simp_all
        · simp at h
    · simp at h
  · rintro ⟨c, op, literal, hc, hop, hl, hk, ⟨hmis, rfl⟩ | ⟨hok, hmis, rfl⟩⟩
    · exact ⟨c, hc, op, hop, literal, hl, by simp [hk, hmis]⟩
    · exact ⟨c, hc, op, hop, literal, hl, by simp [hk, hread _ hok, hok, hmis]⟩

theorem faultOf_verdict (s : Setting) (o : Opening) : faultOf (s.verdict o) = s.fault? o := by
  ext f
  rw [faultOf_eq_some_iff, verdict_fault_iff, fault?_eq_some_iff]
  simp only [evaluate_fault_iff, operands_fault_iff]
  constructor
  · rintro ⟨c, hc, op, hop, hk, literal, hl, h⟩
    exact ⟨c, op, literal, hc, hop, hl, hk, h⟩
  · rintro ⟨c, op, literal, hc, hop, hl, hk, h⟩
    exact ⟨c, hc, op, hop, hk, literal, hl, h⟩

theorem faultOf_bind {α β : Type} (x : Except NumeralFault α) (k : α → Except NumeralFault β) :
    faultOf (x >>= k) =
      match x with
      | .ok a => faultOf (k a)
      | .error f => some f := by
  cases x <;> rfl

theorem faultOf_annotated (s : Setting) (b : Body) (visible : Bool) :
    faultOf (s.annotated visible b) = b.openings.findSome? s.fault? := by
  induction b generalizing visible with
  | nil => rfl
  | text id content span rest ih =>
      rw [Body.openings, ← ih visible, annotated]
      cases s.annotated visible rest <;> rfl
  | «variable» id key span rest ih =>
      rw [Body.openings, ← ih visible, annotated]
      cases s.annotated visible rest <;> rfl
  | block id o span consequent elseSpan hasAlternate alternate rest ihc iha ih =>
      rw [Body.openings, List.findSome?_cons, ← faultOf_verdict, List.findSome?_append,
        List.findSome?_append, annotated, faultOf_bind]
      cases s.verdict o with
      | error f => rfl
      | ok outcome =>
          rw [← ihc (visible && outcome.shows o),
            ← iha (visible && (!outcome.shows o && hasAlternate)), ← ih visible]
          simp only [faultOf]
          cases s.annotated (visible && outcome.shows o) consequent with
          | error f => rfl
          | ok c =>
              cases s.annotated (visible && (!outcome.shows o && hasAlternate)) alternate with
              | error f => rfl
              | ok d => cases s.annotated visible rest <;> rfl

theorem faultOf_rendered (s : Setting) (b : Body) :
    faultOf (s.rendered b) = (s.reached b).findSome? s.fault? := by
  induction b with
  | nil => rfl
  | text id content span rest ih =>
      rw [reached, ← ih, rendered]
      cases s.rendered rest <;> rfl
  | «variable» id key span rest ih =>
      rw [reached, ← ih, rendered]
      cases s.rendered rest <;> rfl
  | block id o span consequent elseSpan hasAlternate alternate rest ihc iha ih =>
      rw [reached, List.findSome?_cons, ← faultOf_verdict, List.findSome?_append, rendered,
        faultOf_bind, ← ih]
      cases s.verdict o with
      | error f => rfl
      | ok outcome =>
          by_cases hfirst : outcome.shows o
          · simp only [hfirst, if_true, faultOf]
            rw [← ihc]
            cases s.rendered consequent with
            | error f => rfl
            | ok inner => cases s.rendered rest <;> rfl
          · by_cases helse : hasAlternate
            · simp only [hfirst, helse, Bool.false_eq_true, if_true, if_false, faultOf]
              rw [← iha]
              cases s.rendered alternate with
              | error f => rfl
              | ok inner => cases s.rendered rest <;> rfl
            · simp only [hfirst, helse, Bool.false_eq_true, if_false, faultOf]
              cases s.rendered rest <;> rfl

end Setting

end PromptTemplate
