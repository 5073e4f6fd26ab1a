import Mathlib.Tactic.SplitIfs
import PromptTemplate.Engine
import PromptTemplate.Proofs.Evaluation.Fault

namespace PromptTemplate

namespace Setting

variable {s : Setting}

theorem rendered_of_annotated {b : Body} {visible : Bool} {a : Annotated}
    (h : s.annotated visible b = .ok a) : s.rendered b = .ok a.visibleText := by
  replace h := annotates_of_annotated h
  induction h with
  | nil => rfl
  | text _ ih =>
      simp only [rendered, ih]
      rfl
  | «variable» _ ih =>
      simp only [rendered, ih]
      rfl
  | @block v i o span elseSpan hasAlternate consequent alternate rest outcome c d a hverdict _ _ _
      ihc iha ih =>
      simp only [rendered, hverdict, ihc, iha, ih]
      by_cases hfirst : outcome.shows o
      · simp [hfirst, Annotated.visibleText, bind, Except.bind, pure, Except.pure]
      · by_cases helse : hasAlternate <;>
          simp [hfirst, helse, Annotated.visibleText, bind, Except.bind, pure, Except.pure]

theorem renderTree_of_annotateTree {t : Tree} {p : Preview} (h : (s.annotateTree t).1 = .ok p) :
    (s.renderTree t).1 = .ok p.children.visibleText := by
  rw [annotateTree_ok_iff] at h
  rw [renderTree_ok_iff]
  exact rendered_of_annotated h.2

end Setting

namespace Engine

variable (e : Engine) (template : Text) (context : Assoc Value) (index : Index)

def Refuses (x : TemplateError) : Prop :=
  (e.annotate template context index).1 = .error (.template x) ∧
    (e.render template context index).1 =
      if e.settings.fallback then .ok template else .error (.template x)

def Agrees : Prop :=
  ∃ p, (e.annotate template context index).1 = .ok p ∧
    (e.render template context index).1 = .ok p.children.visibleText

variable {e template}

theorem refuses_of_parse {x : TemplateError} (h : e.parse template = .error x) :
    e.Refuses template context index x := by
  constructor
  · simp [annotate, h]
  · by_cases hf : e.settings.fallback <;> simp [render, h, hf]

theorem annotate_of_parse {t : Tree} (h : e.parse template = .ok t) :
    (e.annotate template context index).1 =
      ((e.setting context index).annotateTree t).1.mapError .fault := by
  simp [annotate, h]

theorem render_of_parse {t : Tree} (h : e.parse template = .ok t) :
    (e.render template context index).1 =
      ((e.setting context index).renderTree t).1.mapError .fault := by
  simp [render, h]

theorem mapError_eq_ok_iff {α : Type} (x : Except NumeralFault α) (a : α) :
    x.mapError EngineError.fault = .ok a ↔ x = .ok a := by
  cases x <;> simp [Except.mapError]

theorem mapError_eq_fault_iff {α : Type} (x : Except NumeralFault α) (f : NumeralFault) :
    x.mapError EngineError.fault = .error (.fault f) ↔ x = .error f := by
  cases x <;> simp [Except.mapError]

theorem annotate_fault_iff {t : Tree} (h : e.parse template = .ok t) (f : NumeralFault) :
    (e.annotate template context index).1 = .error (.fault f) ↔
      t.body.openings.findSome? (e.setting context index).fault? = some f := by
  rw [annotate_of_parse context index h, mapError_eq_fault_iff, Setting.annotateTree_error_iff,
    ← Setting.faultOf_eq_some_iff, Setting.faultOf_annotated]

theorem render_fault_iff {t : Tree} (h : e.parse template = .ok t) (f : NumeralFault) :
    (e.render template context index).1 = .error (.fault f) ↔
      ((e.setting context index).reached t.body).findSome? (e.setting context index).fault? =
        some f := by
  rw [render_of_parse context index h, mapError_eq_fault_iff, Setting.renderTree_error_iff,
    ← Setting.faultOf_eq_some_iff, Setting.faultOf_rendered]

theorem agrees_iff {t : Tree} (h : e.parse template = .ok t) :
    e.Agrees template context index ↔
      ∀ o ∈ t.body.openings, (e.setting context index).fault? o = none := by
  unfold Agrees
  rw [annotate_of_parse context index h, render_of_parse context index h,
    ← List.findSome?_eq_none_iff, ← Setting.faultOf_annotated _ _ true,
    Setting.faultOf_eq_none_iff]
  simp only [mapError_eq_ok_iff]
  constructor
  · rintro ⟨p, hp, -⟩
    exact ⟨p.children, ((Setting.annotateTree_ok_iff t p).mp hp).2⟩
  · rintro ⟨a, ha⟩
    have hp : ((e.setting context index).annotateTree t).1 = .ok (t.preview a) :=
      (Setting.annotateTree_ok_iff t _).mpr ⟨rfl, ha⟩
    exact ⟨_, hp, Setting.renderTree_of_annotateTree hp⟩

theorem preview_agrees_with_render (e : Engine) (template : Text) (context : Assoc Value)
    (index : Index) :
    if e.settings.maxBytes < template.byteSize then
      e.Refuses template context index (.tooLarge template.byteSize e.settings.maxBytes)
    else
      match Tree.parse e.settings.maxDepth template with
      | .error x => e.Refuses template context index (.malformed x)
      | .ok t =>
          (e.Agrees template context index ↔
            ∀ o ∈ t.body.openings, (e.setting context index).fault? o = none) ∧
          (∀ f, (e.annotate template context index).1 = .error (.fault f) ↔
            t.body.openings.findSome? (e.setting context index).fault? = some f) ∧
          ∀ f, (e.render template context index).1 = .error (.fault f) ↔
            ((e.setting context index).reached t.body).findSome?
              (e.setting context index).fault? = some f := by
  split_ifs with hsize
  · exact refuses_of_parse context index (by simp [parse, hsize])
  · cases hparse : Tree.parse e.settings.maxDepth template with
    | error x => exact refuses_of_parse context index (by simp [parse, hsize, hparse])
    | ok t =>
        have h : e.parse template = .ok t := by simp [parse, hsize, hparse]
        exact ⟨agrees_iff context index h, annotate_fault_iff context index h,
          render_fault_iff context index h⟩

theorem preview_stops_at_separator :
    (default.parse
      "\x7b\x7b#if (gt n \"5\")\x7d\x7dt\x7b\x7belse\x7d\x7df\x7b\x7b/if\x7d\x7d".toList).isOk ∧
    ¬ default.Agrees
      "\x7b\x7b#if (gt n \"5\")\x7d\x7dt\x7b\x7belse\x7d\x7df\x7b\x7b/if\x7d\x7d".toList
      [("n".toList, .text ['\x1c', '2'])] [] := by
  refine ⟨by decide +kernel, ?_⟩
  rintro ⟨p, hp, -⟩
  have h : (default.annotate
      "\x7b\x7b#if (gt n \"5\")\x7d\x7dt\x7b\x7belse\x7d\x7df\x7b\x7b/if\x7d\x7d".toList
      [("n".toList, .text ['\x1c', '2'])] []).1.isOk = false := by decide +kernel
  rw [hp] at h
  cases h

end Engine

end PromptTemplate
