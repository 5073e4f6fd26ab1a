import PromptTemplate.Proofs.Evaluation.Agreement
import PromptTemplate.Proofs.Evaluation.Shown

namespace PromptTemplate

namespace Resolved

def unsourced (r : Resolved) : Resolved :=
  { r with state := if r.isResolved then .explicit else .unresolved }

theorem isResolved_unsourced (r : Resolved) : r.unsourced.isResolved = r.isResolved := by
  cases h : r.isResolved <;> simp [unsourced, h] <;> rfl

theorem truthy_unsourced (r : Resolved) : r.unsourced.truthy = r.truthy :=
  rfl

theorem display_unsourced (r : Resolved) : r.unsourced.display = r.display :=
  rfl

theorem comparisonText_unsourced (r : Resolved) :
    r.unsourced.comparisonText = r.comparisonText := by
  unfold comparisonText
  rw [isResolved_unsourced]
  rfl

end Resolved

namespace Comparison

open Resolved (unsourced)

theorem operands_unsourced (c : Comparison) (op : Operator) (left : Resolved)
    (right : Option Resolved) :
    c.operands op left.unsourced (right.map unsourced) = c.operands op left right := by
  have htruth : (right.map unsourced).toList.map (fun r => Operand.truth r.truthy) =
      right.toList.map fun r => .truth r.truthy := by
    cases right <;> rfl
  unfold operands
  rw [htruth, Resolved.comparisonText_unsourced]
  rfl

theorem evaluate_unsourced (c : Comparison) (table : OperatorTable) (left : Resolved)
    (right : Option Resolved) :
    c.evaluate table left.unsourced (right.map unsourced) = c.evaluate table left right := by
  unfold evaluate
  simp only [operands_unsourced]

end Comparison

def Annotated.unsourced : Annotated → Annotated
  | .nil => .nil
  | .text i content span v rest => .text i content span v (unsourced rest)
  | .variable i label r span v rest => .variable i label r.unsourced span v (unsourced rest)
  | .block i o span outcome resolved v first c e h second d rest =>
      .block i o span outcome resolved v first (unsourced c) e h second (unsourced d)
        (unsourced rest)

def Preview.unsourced (p : Preview) : Preview :=
  { p with root := { p.root with children := p.children.unsourced } }

namespace Setting

structure SameOn (s s' : Setting) (keys : List Text) : Prop where
  operators : s.operators = s'.operators
  resolve : ∀ key ∈ keys, (s.scope.resolve key).unsourced = (s'.scope.resolve key).unsourced

variable {s s' : Setting}

theorem SameOn.mono {keys keys' : List Text} (h : s.SameOn s' keys) (hsub : keys' ⊆ keys) :
    s.SameOn s' keys' :=
  ⟨h.operators, fun key hkey => h.resolve key (hsub hkey)⟩

theorem SameOn.display {keys : List Text} (h : s.SameOn s' keys) {key : Text} (hkey : key ∈ keys) :
    (s.scope.resolve key).display = (s'.scope.resolve key).display := by
  rw [← Resolved.display_unsourced, h.resolve key hkey, Resolved.display_unsourced]

theorem SameOn.verdict {o : Opening} (h : s.SameOn s' o.keys) : s.verdict o = s'.verdict o := by
  have hleft := h.resolve o.key List.mem_cons_self
  have htruthy : (s.scope.resolve o.key).truthy = (s'.scope.resolve o.key).truthy := by
    rw [← Resolved.truthy_unsourced, hleft, Resolved.truthy_unsourced]
  unfold Setting.verdict
  cases hcomparison : o.comparison with
  | none => simp only [htruthy]
  | some c =>
      have hright : (c.other.map s.scope.resolve).map Resolved.unsourced =
          (c.other.map s'.scope.resolve).map Resolved.unsourced := by
        cases hother : c.other with
        | none => rfl
        | some key =>
            exact congrArg some (h.resolve key (by simp [Opening.keys, hcomparison, hother]))
      simp only
      rw [← c.evaluate_unsourced, hleft, hright, c.evaluate_unsourced, h.operators]

-- by induction on the body; that the keys come out alike is carried into the branch that is shown
theorem SameOn.shown {b : Body} (h : s.SameOn s' ((s.shown b).flatMap Node.keys)) :
    s'.shown b = s.shown b ∧ s'.rendered b = s.rendered b := by
  induction b with
  | nil => exact ⟨rfl, rfl⟩
  | text id content span rest ih =>
      obtain ⟨hshown, hrendered⟩ := ih h
      exact ⟨by rw [Setting.shown, Setting.shown, hshown], by rw [rendered, rendered, hrendered]⟩
  | «variable» id key span rest ih =>
      obtain ⟨hshown, hrendered⟩ := ih (h.mono (List.subset_cons_self _ _))
      have hdisplay : (s.scope.resolve key).display = (s'.scope.resolve key).display :=
        h.display List.mem_cons_self
      exact ⟨by rw [Setting.shown, Setting.shown, hshown],
        by rw [rendered, rendered, hrendered, hdisplay]⟩
  | block id o span consequent elseSpan hasAlternate alternate rest ihc iha ih =>
      rw [Setting.shown, List.flatMap_cons, List.flatMap_append] at h
      have hverdict : s.verdict o = s'.verdict o :=
        SameOn.verdict (h.mono (List.subset_append_left _ _))
      have hinside := h.mono (List.subset_append_right _ _)
      have hbranch := hinside.mono (List.subset_append_left _ _)
      obtain ⟨hshown, hrendered⟩ := ih (hinside.mono (List.subset_append_right _ _))
      rw [Setting.shown, Setting.shown, rendered, rendered, ← hverdict, hshown, hrendered]
      cases houtcome : s.verdict o with
      | error f => exact ⟨rfl, rfl⟩
      | ok outcome =>
          rw [houtcome] at hbranch
          by_cases hfirst : outcome.shows o
          · simp only [hfirst, if_true] at hbranch ⊢
            obtain ⟨hc, hcText⟩ := ihc hbranch
            exact ⟨by rw [hc], by simp [hfirst, hcText, bind, Except.bind]⟩
          · by_cases helse : hasAlternate
            · simp only [hfirst, helse, Bool.false_eq_true, if_false, if_true] at hbranch ⊢
              obtain ⟨ha, haText⟩ := iha hbranch
              exact ⟨by rw [ha], by simp [hfirst, haText, bind, Except.bind]⟩
            · simp [hfirst, helse, bind, Except.bind]

theorem map_bind_congr {ε α β γ δ : Type} {x x' : Except ε α} {k k' : α → Except ε β}
    {f : α → γ} {g : β → δ} (h : x.map f = x'.map f)
    (hk : ∀ a a', f a = f a' → (k a).map g = (k' a').map g) :
    (x >>= k).map g = (x' >>= k').map g := by
  cases x with
  | error e =>
      cases x' with
      | error e' =>
          cases h
          rfl
      | ok a' => cases h
  | ok a =>
      cases x' with
      | error e' => cases h
      | ok a' => exact hk a a' (Except.ok.inj h)

theorem SameOn.annotated {b : Body} (h : s.SameOn s' (b.nodes.flatMap Node.keys))
    (hlabel : s.label = s'.label) (visible : Bool) :
    (s.annotated visible b).map Annotated.unsourced =
      (s'.annotated visible b).map Annotated.unsourced := by
  induction b generalizing visible with
  | nil => rfl
  | text id content span rest ih =>
      refine map_bind_congr (ih h visible) fun a a' ha => ?_
      simp only [pure, Except.pure, Except.map, Annotated.unsourced, ha]
  | «variable» id key span rest ih =>
      have hhere := h.resolve key List.mem_cons_self
      refine map_bind_congr (ih (h.mono (List.subset_cons_self _ _)) visible) fun a a' ha => ?_
      simp only [pure, Except.pure, Except.map, Annotated.unsourced, hhere, hlabel, ha]
  | block id o span consequent elseSpan hasAlternate alternate rest ihc iha ih =>
      simp only [Body.nodes, List.flatMap_cons, List.flatMap_append] at h
      have hverdict : s.verdict o = s'.verdict o :=
        SameOn.verdict (h.mono (List.subset_append_left _ _))
      have hbelow := h.mono (List.subset_append_right _ _)
      have hbranches := hbelow.mono (List.subset_append_left _ _)
      rw [Setting.annotated, Setting.annotated, ← hverdict]
      refine map_bind_congr (f := fun outcome => outcome) rfl fun outcome outcome' hsame => ?_
      obtain rfl : outcome = outcome' := hsame
      refine map_bind_congr (ihc (hbranches.mono (List.subset_append_left _ _)) _)
        fun c c' hc => ?_
      refine map_bind_congr (iha (hbranches.mono (List.subset_append_right _ _)) _)
        fun d d' hd => ?_
      refine map_bind_congr (ih (hbelow.mono (List.subset_append_right _ _)) visible)
        fun a a' ha => ?_
      simp only [pure, Except.pure, Except.map, Annotated.unsourced, hc, hd, ha]

theorem shown_subset (s : Setting) (b : Body) : s.shown b ⊆ b.nodes := by
  induction b with
  | nil => exact List.Subset.refl _
  | text id content span rest ih => exact List.cons_subset_cons _ ih
  | «variable» id key span rest ih => exact List.cons_subset_cons _ ih
  | block id o span consequent elseSpan hasAlternate alternate rest ihc iha ih =>
      refine List.cons_subset_cons _ (List.append_subset.mpr ⟨?_, ?_⟩)
      · intro node hnode
        refine List.mem_append_left _ (List.mem_append.mpr ?_)
        split at hnode
        · cases hnode
        · split at hnode
          · exact .inl (ihc hnode)
          · split at hnode
            · exact .inr (iha hnode)
            · cases hnode
      · exact List.subset_append_of_subset_right _ ih

abbrev SameIn (s s' : Setting) (t : Tree) : Prop :=
  s.SameOn s' (t.body.nodes.flatMap Node.keys)

variable {t : Tree}

theorem SameOn.renderTree (h : s.SameIn s' t) : (s.renderTree t).1 = (s'.renderTree t).1 := by
  have hkeys : (s.shown t.body).flatMap Node.keys ⊆ t.body.nodes.flatMap Node.keys := by
    intro key hkey
    obtain ⟨node, hnode, hkey⟩ := List.mem_flatMap.mp hkey
    exact List.mem_flatMap.mpr ⟨node, s.shown_subset t.body hnode, hkey⟩
  rw [renderTree_eq_rendered, renderTree_eq_rendered, (SameOn.shown (h.mono hkeys)).2]

theorem SameOn.annotateTree (h : s.SameIn s' t) (hlabel : s.label = s'.label) :
    (s.annotateTree t).1.map Preview.unsourced = (s'.annotateTree t).1.map Preview.unsourced := by
  have hmove (x : Except NumeralFault Annotated) :
      (x.map t.preview).map Preview.unsourced = (x.map Annotated.unsourced).map t.preview := by
    cases x <;> rfl
  rw [annotateTree_eq_annotated, annotateTree_eq_annotated, hmove, hmove,
    SameOn.annotated h hlabel true]

end Setting

namespace Engine

variable {e : Engine} {template : Text} {context context' : Assoc Value} {index index' : Index}

theorem render_congr (h : ∀ t, e.parse template = .ok t →
    (e.setting context index).SameIn (e.setting context' index') t) :
    (e.render template context index).1 = (e.render template context' index').1 := by
  cases hparse : e.parse template with
  | error x =>
      rw [(refuses_of_parse context index hparse).2, (refuses_of_parse context' index' hparse).2]
  | ok t =>
      rw [render_of_parse context index hparse, render_of_parse context' index' hparse,
        (h t hparse).renderTree]

theorem annotate_congr (hlabel : (e.setting context index).label = (e.setting context' index').label)
    (h : ∀ t, e.parse template = .ok t →
      (e.setting context index).SameIn (e.setting context' index') t) :
    (e.annotate template context index).1.map Preview.unsourced =
      (e.annotate template context' index').1.map Preview.unsourced := by
  cases hparse : e.parse template with
  | error x =>
      rw [(refuses_of_parse context index hparse).1, (refuses_of_parse context' index' hparse).1]
  | ok t =>
      have hmove (x : Except NumeralFault Preview) :
          (x.mapError EngineError.fault).map Preview.unsourced =
            (x.map Preview.unsourced).mapError .fault := by
        cases x <;> rfl
      rw [annotate_of_parse context index hparse, annotate_of_parse context' index' hparse, hmove,
        hmove, (h t hparse).annotateTree hlabel]

end Engine

end PromptTemplate
