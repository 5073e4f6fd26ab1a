import PromptTemplate.Operator

namespace PromptTemplate

namespace OperatorTable

theorem get?_builtin (name : Text) :
    builtin.get? name = Assoc.get? name (Operator.builtin.map fun o => (o.name, o)) :=
  Assoc.get?_ofList (by decide) name

theorem mem_of_get?_builtin {name : Text} {o : Operator} (h : builtin.get? name = some o) :
    o ∈ Operator.builtin ∧ o.name = name := by
  rw [get?_builtin] at h
  obtain ⟨o', hmem, heq⟩ := List.mem_map.mp (Assoc.mem_of_get?_eq_some h)
  cases heq
  exact ⟨hmem, rfl⟩

theorem contains_of_sequence {o : Operator} (h : o ∈ Operator.builtin)
    (hkind : o.kind = .sequence) : o.compare = Operator.binary Operand.contains := by
  simp only [Operator.builtin, List.mem_cons, List.not_mem_nil, or_false] at h
  rcases h with rfl | rfl | rfl | rfl | rfl | rfl | rfl | rfl | rfl | rfl
  all_goals first
    | rfl
    | cases hkind

end OperatorTable

def Value.items : Value → List Value
  | .list items => items
  | .tuple items => items
  | _ => []

theorem Operand.contains_value (v : Value) (t : Text) :
    contains (.value v) (.text t) = v.items.any fun item => item.scalarText = t := by
  cases v <;> rfl

structure Sight where
  text : Text
  truthy : Bool
  items : List Value

def Resolved.sight (r : Resolved) : Sight :=
  ⟨r.comparisonText, r.truthy, r.raw.items⟩

namespace Comparison

variable {left left' : Resolved} {right right' : Option Resolved}

theorem operands_of_sight (c : Comparison) {o : Operator} (hkind : o.kind ≠ .sequence)
    (hleft : left.sight = left'.sight)
    (hright : right.map Resolved.sight = right'.map Resolved.sight) :
    c.operands o left right = c.operands o left' right' := by
  have htext : left.comparisonText = left'.comparisonText := congrArg Sight.text hleft
  have htruthy : left.truthy = left'.truthy := congrArg Sight.truthy hleft
  have hsecond : right.toList.map (fun r => Operand.truth r.truthy) =
      right'.toList.map fun r => Operand.truth r.truthy := by
    cases right with
    | none =>
        cases right' with
        | none => rfl
        | some r' => cases hright
    | some r =>
        cases right' with
        | none => cases hright
        | some r' =>
            have htruthy' : r.truthy = r'.truthy := congrArg Sight.truthy (Option.some.inj hright)
            simp [htruthy']
  unfold operands
  rw [htext, htruthy, hsecond]
  cases hk : o.kind with
  | sequence => exact absurd hk hkind
  | text => cases c.literal <;> rfl
  | number => cases c.literal <;> rfl
  | truthiness => cases c.literal <;> rfl

theorem evaluate_of_sight (c : Comparison) (hleft : left.sight = left'.sight)
    (hright : right.map Resolved.sight = right'.map Resolved.sight) :
    c.evaluate .builtin left right = c.evaluate .builtin left' right' := by
  unfold evaluate
  cases hop : OperatorTable.builtin.get? c.op with
  | none => rfl
  | some o =>
      by_cases hkind : o.kind = .sequence
      · obtain ⟨hmem, -⟩ := OperatorTable.mem_of_get?_builtin hop
        have hcompare := OperatorTable.contains_of_sequence hmem hkind
        have hitems : left.raw.items = left'.raw.items := congrArg Sight.items hleft
        cases hliteral : c.literal with
        | none => simp only [operands, hkind, hliteral]
        | some literal =>
            have hanswer : o.compare [.value left.raw, .text literal] =
                o.compare [.value left'.raw, .text literal] := by
              simp only [hcompare, Operator.binary, Operand.contains_value, hitems]
            simp only [operands, hkind, hliteral, bind, Except.bind, hanswer]
            rfl
      · simp only [operands_of_sight c hkind hleft hright]

end Comparison

end PromptTemplate
