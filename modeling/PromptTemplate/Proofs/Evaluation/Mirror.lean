import PromptTemplate.Proofs.Evaluation.Fault
import PromptTemplate.Proofs.Tree.Nodes

namespace PromptTemplate

def Node.span : Node → Span
  | .root s _ => s
  | .text _ _ s => s
  | .variable _ _ s => s
  | .block _ _ s _ _ _ => s

def Annotated.Item.span : Annotated.Item → Span
  | .text _ _ s _ => s
  | .variable _ _ _ s _ => s
  | .block _ _ s _ _ _ _ _ _ _ => s

namespace Setting

variable {s : Setting}

theorem walk_of_annotated {b : Body} {visible : Bool} {a : Annotated}
    (h : s.annotated visible b = .ok a) :
    a.walk.map (fun item => (item.id, item.span)) =
      b.nodes.map fun node => (node.id, node.span) := by
  replace h := annotates_of_annotated h
  induction h with
  | nil => rfl
  | @text v i content span rest a _ ih => exact congrArg ((i, span) :: ·) ih
  | @«variable» v i key span rest a _ ih => exact congrArg ((i, span) :: ·) ih
  | block _ _ _ _ ihc iha ih =>
      simp only [Annotated.walk, Body.nodes, List.map_cons, List.map_append, ihc, iha, ih]
      rfl

theorem walk_of_annotateTree {t : Tree} {p : Preview} (h : (s.annotateTree t).1 = .ok p) :
    p = t.preview p.children ∧ p.children.walk.map (fun item => (item.id, item.span)) =
      t.body.nodes.map fun node => (node.id, node.span) := by
  obtain ⟨hpreview, hannotated⟩ := (annotateTree_ok_iff t p).mp h
  exact ⟨hpreview, walk_of_annotated hannotated⟩

theorem annotateTree_isOk_iff (s : Setting) (t : Tree) :
    (∃ p, (s.annotateTree t).1 = .ok p) ↔ ∀ o ∈ t.body.openings, s.fault? o = none := by
  rw [← List.findSome?_eq_none_iff, ← faultOf_annotated s t.body true, faultOf_eq_none_iff]
  constructor
  · rintro ⟨p, hp⟩
    exact ⟨p.children, ((annotateTree_ok_iff t p).mp hp).2⟩
  · rintro ⟨a, ha⟩
    exact ⟨t.preview a, (annotateTree_ok_iff t _).mpr ⟨rfl, ha⟩⟩

def unset (operators : OperatorTable) (format : SequenceFormat) : Setting :=
  ⟨⟨[], [], format⟩, operators⟩

theorem fault?_unset (operators : OperatorTable) (format : SequenceFormat) (o : Opening) :
    (unset operators format).fault? o = none := by
  cases hfault : (unset operators format).fault? o with
  | none => rfl
  | some f =>
      obtain ⟨c, op, literal, -, -, -, -, h⟩ := (fault?_eq_some_iff _ o f).mp hfault
      have hleft : readNumber ((unset operators format).scope.resolve o.key).comparisonText =
          .error (.undecided (.notANumber [])) := rfl
      rw [hleft] at h
      simp [Except.isOk, Except.toBool] at h

theorem annotateTree_unset (t : Tree) (operators : OperatorTable) (format : SequenceFormat) :
    ∃ p, ((unset operators format).annotateTree t).1 = .ok p :=
  (annotateTree_isOk_iff _ t).mpr fun o _ => fault?_unset operators format o

end Setting

end PromptTemplate
