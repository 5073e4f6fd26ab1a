import Mathlib.Data.Set.Defs
import PromptTemplate.Proofs.Evaluation.Independence
import PromptTemplate.Proofs.Operator.Builtin

namespace PromptTemplate

namespace Value

def isVacant : Value → Bool
  | .none => true
  | v => v.isEmpty

theorem truthy_of_isEmpty {v : Value} (h : v.isEmpty) : v.truthy = false := by
  cases v with
  | text t => simpa [truthy, isEmpty] using h
  | list items => simpa [truthy, isEmpty] using h
  | tuple items => simpa [truthy, isEmpty] using h
  | _ => cases h

theorem items_of_isEmpty {v : Value} (h : v.isEmpty) : v.items = [] := by
  cases v with
  | text t => rfl
  | list items => exact List.isEmpty_iff.mp h
  | tuple items => exact List.isEmpty_iff.mp h
  | _ => cases h

theorem isVacant_iff (v : Value) : v.isVacant ↔ v = .none ∨ v.isEmpty := by
  cases v <;> simp [isVacant, isEmpty]

end Value

namespace Scope

variable {s s' : Scope} {key : Text}

structure VacantAt (s : Scope) (key : Text) : Prop where
  value : ((s.context.get? key).getD .none).isVacant
  default : (s.definition? key).bind (·.default) = none

theorem VacantAt.resolve (h : s.VacantAt key) :
    s.resolve key = ⟨key, .none, placeholder key, placeholder key, .unresolved⟩ ∨
      ∃ v : Value, v.isEmpty ∧ s.resolve key = ⟨key, v, [], [], .explicit⟩ := by
  have hvalue := s.value?_eq key
  rcases (Value.isVacant_iff _).mp h.value with hnone | hempty
  · left
    rw [hnone, h.default] at hvalue
    rw [Scope.resolve, hvalue]
    rfl
  · right
    refine ⟨(s.context.get? key).getD .none, hempty, ?_⟩
    have hexplicit : s.value? key = some ((s.context.get? key).getD .none, .explicit) := by
      rw [hvalue]
      split
      · rename_i hnone
        rw [hnone] at hempty
        cases hempty
      · rfl
    have hbare : isBare ((s.context.get? key).getD .none) .explicit := by
      simpa [isBare] using hempty
    rw [Scope.resolve, hexplicit]
    simp only [hbare, if_true]

theorem VacantAt.sight (h : s.VacantAt key) : (s.resolve key).sight = ⟨[], false, []⟩ := by
  rcases h.resolve with hnone | ⟨v, hempty, hexplicit⟩
  · rw [hnone]
    rfl
  · rw [hexplicit]
    simp [Resolved.sight, Resolved.comparisonText, Resolved.truthy,
      Value.truthy_of_isEmpty hempty, Value.items_of_isEmpty hempty]

theorem VacantAt.display (h : s.VacantAt key) :
    (s.resolve key).display = placeholder key ∨ (s.resolve key).display = [] := by
  rcases h.resolve with hnone | ⟨v, -, hexplicit⟩
  · exact .inl (by rw [hnone])
  · exact .inr (by rw [hexplicit])

end Scope

inductive Annotated.AlikeBut (K : Set Text) : Annotated → Annotated → Prop
  | nil : AlikeBut K .nil .nil
  | text {i : Nat} {content : Text} {span : Span} {v : Bool} {a a' : Annotated} :
      AlikeBut K a a' → AlikeBut K (.text i content span v a) (.text i content span v a')
  | variable {i : Nat} {label : Text} {r r' : Resolved} {span : Span} {v : Bool}
      {a a' : Annotated} :
      r.key = r'.key → (r.key ∉ K → r = r') → AlikeBut K a a' →
      AlikeBut K (.variable i label r span v a) (.variable i label r' span v a')
  | block {i : Nat} {o : Opening} {span : Span} {outcome : Outcome}
      {resolved v first hasAlternate second : Bool} {e : Option Span}
      {c c' d d' a a' : Annotated} :
      AlikeBut K c c' → AlikeBut K d d' → AlikeBut K a a' →
      AlikeBut K (.block i o span outcome resolved v first c e hasAlternate second d a)
        (.block i o span outcome resolved v first c' e hasAlternate second d' a')

namespace Setting

inductive Alongside {α β : Type} (R : α → β → Prop) :
    Except NumeralFault α → Except NumeralFault β → Prop
  | ok {a : α} {b : β} : R a b → Alongside R (.ok a) (.ok b)
  | error {f : NumeralFault} : Alongside R (.error f) (.error f)

theorem alongside_of_faultOf {α β : Type} {R : α → β → Prop} {x : Except NumeralFault α}
    {y : Except NumeralFault β} (h : faultOf x = faultOf y)
    (hR : ∀ a b, x = .ok a → y = .ok b → R a b) : Alongside R x y := by
  cases x with
  | ok a =>
      cases y with
      | ok b => exact .ok (hR a b rfl rfl)
      | error f => cases h
  | error f =>
      cases y with
      | ok b => cases h
      | error f' =>
          obtain rfl : f = f' := Option.some.inj h
          exact .error

structure VacantBut (K : Set Text) (s s' : Setting) : Prop where
  operators : s.operators = .builtin ∧ s'.operators = .builtin
  label : s.label = s'.label
  outside : ∀ key ∉ K, s.scope.resolve key = s'.scope.resolve key
  inside : ∀ key ∈ K, s.scope.VacantAt key ∧ s'.scope.VacantAt key

namespace VacantBut

variable {K : Set Text} {s s' : Setting} (h : VacantBut K s s')
include h

theorem sight (key : Text) : (s.scope.resolve key).sight = (s'.scope.resolve key).sight := by
  by_cases hkey : key ∈ K
  · obtain ⟨hs, hs'⟩ := h.inside key hkey
    rw [hs.sight, hs'.sight]
  · rw [h.outside key hkey]

theorem verdict : s.verdict = s'.verdict := by
  funext o
  unfold Setting.verdict
  cases o.comparison with
  | none =>
      have htruthy : (s.scope.resolve o.key).truthy = (s'.scope.resolve o.key).truthy :=
        congrArg Sight.truthy (h.sight o.key)
      simp only [htruthy]
  | some c =>
      have hright : (c.other.map s.scope.resolve).map Resolved.sight =
          (c.other.map s'.scope.resolve).map Resolved.sight := by
        cases c.other with
        | none => rfl
        | some key => exact congrArg some (h.sight key)
      obtain ⟨hs, hs'⟩ := h.operators
      simp only [hs, hs', c.evaluate_of_sight (h.sight o.key) hright]

theorem fault? : s.fault? = s'.fault? := by
  funext o
  rw [← faultOf_verdict, ← faultOf_verdict, h.verdict]

theorem shown (b : Body) : s.shown b = s'.shown b := by
  induction b with
  | nil => rfl
  | text id content span rest ih => rw [Setting.shown, Setting.shown, ih]
  | «variable» id key span rest ih => rw [Setting.shown, Setting.shown, ih]
  | block id o span consequent elseSpan hasAlternate alternate rest ihc iha ih =>
      rw [Setting.shown, Setting.shown, h.verdict, ihc, iha, ih]

theorem words {node : Node} (hnode : ∀ i key span, node = .variable i key span → key ∉ K) :
    s.words node = s'.words node := by
  cases node with
  | root span children => rfl
  | text i content span => rfl
  | block i o span consequent elseSpan alternate => rfl
  | «variable» i key span =>
      have hkey : key ∉ K := hnode i key span rfl
      rw [Setting.words, Setting.words, h.outside key hkey]

-- by induction on how the first one came about; the second came about the same way
theorem alike {v : Bool} {b : Body} {a a' : Annotated} (ha : s.Annotates v b a)
    (ha' : s'.Annotates v b a') : a.AlikeBut K a' := by
  induction ha generalizing a' with
  | nil =>
      cases ha'
      exact .nil
  | text _ ih =>
      cases ha' with
      | text hrest => exact .text (ih hrest)
  | @«variable» v i key span rest a _ ih =>
      cases ha' with
      | «variable» hrest =>
          rw [h.label]
          refine .variable ?_ ?_ (ih hrest)
          · rw [Scope.resolve_key, Scope.resolve_key]
          · intro hkey
            rw [Scope.resolve_key] at hkey
            exact h.outside key hkey
  | block hverdict _ _ _ ihc iha ih =>
      cases ha' with
      | block hverdict' hc ha hrest =>
          rw [h.verdict, hverdict'] at hverdict
          cases hverdict
          exact .block (ihc hc) (iha ha) (ih hrest)

theorem annotateTree (t : Tree) :
    Alongside (fun p p' => p.source = p'.source ∧ p.children.AlikeBut K p'.children)
      (s.annotateTree t).1 (s'.annotateTree t).1 := by
  apply alongside_of_faultOf
  · rw [annotateTree_eq_annotated, annotateTree_eq_annotated]
    have hmove (x : Except NumeralFault Annotated) :
        faultOf (x.map t.preview) = faultOf x := by
      cases x <;> rfl
    rw [hmove, hmove, faultOf_annotated, faultOf_annotated, h.fault?]
  · intro p p' hp hp'
    obtain ⟨hpreview, hannotated⟩ := (annotateTree_ok_iff t p).mp hp
    obtain ⟨hpreview', hannotated'⟩ := (annotateTree_ok_iff t p').mp hp'
    have hsource : p.source = p'.source := by rw [hpreview, hpreview']; rfl
    exact ⟨hsource,
      h.alike (annotates_of_annotated hannotated) (annotates_of_annotated hannotated')⟩

theorem renderTree (t : Tree) :
    Alongside (fun text text' => text = (s.shown t.body).flatMap s.words ∧
        text' = (s.shown t.body).flatMap s'.words)
      (s.renderTree t).1 (s'.renderTree t).1 := by
  rw [renderTree_eq_rendered, renderTree_eq_rendered]
  apply alongside_of_faultOf
  · rw [faultOf_rendered, faultOf_rendered, reached_eq_openings, reached_eq_openings, h.shown,
      h.fault?]
  · intro text text' htext htext'
    have hwords' := words_of_rendered htext'
    rw [← h.shown] at hwords'
    exact ⟨words_of_rendered htext, hwords'⟩

end VacantBut

structure Vacates (K : Set Text) (context context' : Assoc Value) : Prop where
  inside : ∀ key ∈ K, ((context'.get? key).getD .none).isVacant
  outside : ∀ key ∉ K, context'.get? key = context.get? key

theorem vacantBut_of_vacates {K : Set Text} {context c c' : Assoc Value} {index : Index}
    (hc : Vacates K context c) (hc' : Vacates K context c')
    (hindex : ∀ key ∈ K, (index.get? key).bind (·.default) = none) (format : SequenceFormat) :
    VacantBut K ⟨⟨c, index, format⟩, .builtin⟩ ⟨⟨c', index, format⟩, .builtin⟩ := by
  refine ⟨⟨rfl, rfl⟩, rfl, ?_, ?_⟩
  · intro key hkey
    have hagree : Scope.AgreeAt ⟨c, index, format⟩ ⟨c', index, format⟩ key := by
      refine ⟨?_, rfl⟩
      rw [hc.outside key hkey, hc'.outside key hkey]
    exact hagree.resolve rfl
  · intro key hkey
    exact ⟨⟨hc.inside key hkey, hindex key hkey⟩, ⟨hc'.inside key hkey, hindex key hkey⟩⟩

/-- Whether keys without a default have no value or an empty one, and which, makes no difference to
any condition. Both annotations have the same blocks with the same outcomes, errors and branches,
and both texts come from the same nodes, each of which adds the same to both unless it is a variable
of one of these keys. -/
theorem vacant_values_alike {K : Set Text} {context c c' : Assoc Value} {index : Index}
    (hc : Vacates K context c) (hc' : Vacates K context c')
    (hindex : ∀ key ∈ K, (index.get? key).bind (·.default) = none) (format : SequenceFormat)
    (t : Tree) :
    let s : Setting := ⟨⟨c, index, format⟩, .builtin⟩
    let s' : Setting := ⟨⟨c', index, format⟩, .builtin⟩
    s.verdict = s'.verdict ∧
    Alongside (fun p p' => p.source = p'.source ∧ p.children.AlikeBut K p'.children)
      (s.annotateTree t).1 (s'.annotateTree t).1 ∧
    Alongside (fun text text' => text = (s.shown t.body).flatMap s.words ∧
        text' = (s.shown t.body).flatMap s'.words)
      (s.renderTree t).1 (s'.renderTree t).1 ∧
    (∀ node : Node, (∀ i key span, node = .variable i key span → key ∉ K) →
      s.words node = s'.words node) ∧
    ∀ key ∈ K, (s.scope.resolve key).display = placeholder key ∨
      (s.scope.resolve key).display = [] := by
  intro s s'
  have h : VacantBut K s s' := vacantBut_of_vacates hc hc' hindex format
  refine ⟨h.verdict, h.annotateTree t, h.renderTree t, fun node => h.words, ?_⟩
  intro key hkey
  exact (h.inside key hkey).1.display

theorem vacant_values_alike_of_empty_list :
    let K : Set Text := {['a'], ['d']}
    let context : Assoc Value := [(['a'], .text ['x']), (['b'], .text ['y'])]
    let c : Assoc Value := [(['b'], .text ['y']), (['d'], .text [])]
    let c' : Assoc Value := [(['d'], .none), (['a'], .list []), (['b'], .text ['y'])]
    let t : Tree := ⟨("\x7b\x7b#if (ne a 'z')\x7d\x7d\x7b\x7ba\x7d\x7d\x7b\x7b/if\x7d\x7d" ++
        "\x7b\x7b#unless (contains d 'z')\x7d\x7d\x7b\x7bb\x7d\x7d\x7b\x7b/unless\x7d\x7d").toList,
      .block 1 ⟨.ifBlock, ['a'], false, some ⟨"ne".toList, some ['z'], none⟩⟩ ⟨0, 30⟩
        (.variable 2 ['a'] ⟨18, 23⟩ .nil) none false .nil
        (.block 3 ⟨.unlessBlock, ['d'], true, some ⟨"contains".toList, some ['z'], none⟩⟩ ⟨30, 74⟩
          (.variable 4 ['b'] ⟨58, 63⟩ .nil) none false .nil .nil)⟩
    let s : Setting := ⟨⟨c, [(['b'], .plain ['b'] ['B'])], .comma⟩, .builtin⟩
    let s' : Setting := ⟨⟨c', [(['b'], .plain ['b'] ['B'])], .comma⟩, .builtin⟩
    Vacates K context c ∧ Vacates K context c' ∧ Tree.parse 1 t.source = .ok t ∧
    s.verdict = s'.verdict ∧ s.words (.variable 4 ['b'] ⟨58, 63⟩) = ['y'] ∧
    s'.words (.variable 4 ['b'] ⟨58, 63⟩) = ['y'] ∧
    (s.renderTree t).1 = .ok "\x7b\x7ba\x7d\x7dy".toList ∧ (s'.renderTree t).1 = .ok ['y'] := by
  intro K context c c' t s s'
  have hc : Vacates K context c := by
    refine ⟨?_, ?_⟩
    · rintro key (rfl | rfl)
      · rfl
      · rfl
    · intro key hkey
      have hne : ['a'] ≠ key ∧ ['d'] ≠ key :=
        ⟨fun heq => hkey (.inl heq.symm), fun heq => hkey (.inr heq.symm)⟩
      simp [c, context, Assoc.get?, hne]
  have hc' : Vacates K context c' := by
    refine ⟨?_, ?_⟩
    · rintro key (rfl | rfl)
      · rfl
      · rfl
    · intro key hkey
      have hne : ['a'] ≠ key ∧ ['d'] ≠ key :=
        ⟨fun heq => hkey (.inl heq.symm), fun heq => hkey (.inr heq.symm)⟩
      simp [c', context, Assoc.get?, hne]
  have hindex : ∀ key ∈ K,
      (Assoc.get? key [(['b'], Definition.plain ['b'] ['B'])]).bind (·.default) = none := by
    rintro key (rfl | rfl)
    · rfl
    · rfl
  have hparse : Tree.parse 1 t.source = .ok t := by decide +kernel
  obtain ⟨hverdict, -, -, hwords, -⟩ := vacant_values_alike hc hc' hindex .comma t
  have hb : s.words (.variable 4 ['b'] ⟨58, 63⟩) = ['y'] := rfl
  have hb' : s.words (.variable 4 ['b'] ⟨58, 63⟩) = s'.words (.variable 4 ['b'] ⟨58, 63⟩) := by
    apply hwords
    rintro i key span ⟨rfl, rfl, rfl⟩ (heq | heq)
    · cases heq
    · cases heq
  exact ⟨hc, hc', hparse, hverdict, hb, hb' ▸ hb, rfl, rfl⟩

end Setting

end PromptTemplate
