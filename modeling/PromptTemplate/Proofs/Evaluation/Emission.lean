import PromptTemplate.Proofs.Evaluation.Uncached
import PromptTemplate.Proofs.Tree.Flatten

namespace PromptTemplate

inductive Piece where
  | fixed (content : Text)
  | value (t : Text)
  | hole (key : Text)
  deriving DecidableEq, Repr

namespace Piece

def text : Piece → Text
  | .fixed content => content
  | .value t => Escape.text t
  | .hole key => placeholder key

def joined (ps : List Piece) : Text :=
  ps.flatMap text

theorem joined_cons (p : Piece) (ps : List Piece) : joined (p :: ps) = p.text ++ joined ps :=
  List.flatMap_cons

theorem joined_append (ps qs : List Piece) : joined (ps ++ qs) = joined ps ++ joined qs :=
  List.flatMap_append

def Origin (ts : List (Text ⊕ Tag)) : Piece → Prop
  | .fixed content => .inl content ∈ ts
  | .value _ => True
  | .hole key => .inr (.variable key) ∈ ts

theorem Origin.mono {ts us : List (Text ⊕ Tag)} (hsub : ts ⊆ us) {p : Piece} (h : p.Origin ts) :
    p.Origin us := by
  cases p with
  | fixed content => exact hsub h
  | value t => trivial
  | hole key => exact hsub h

end Piece

namespace Scope

structure Textual (s : Scope) : Prop where
  context : ∀ e ∈ s.context, ∃ t, e.2 = .text t
  index : ∀ e ∈ s.index, ∀ p, e.2.default = some p → ∃ t, p = .text t

def piece (s : Scope) (key : Text) : Piece :=
  match (s.resolve key).state with
  | .unresolved => .hole key
  | _ => .value (s.resolve key).text

variable {s : Scope}

theorem Textual.value (h : s.Textual) {key : Text} {v : Value} {state : DisplayState}
    (hv : s.value? key = some (v, state)) : (∃ t, v = .text t) ∧ state ≠ .unresolved := by
  unfold value? at hv
  split at hv
  · rename_i w hw
    cases hv
    obtain ⟨hw, -⟩ := Option.filter_eq_some_iff.mp hw
    exact ⟨h.context _ (Assoc.mem_of_get?_eq_some hw), by decide⟩
  · obtain ⟨p, hp, heq⟩ := Option.map_eq_some_iff.mp hv
    obtain ⟨d, hd, hp⟩ := Option.bind_eq_some_iff.mp hp
    cases heq
    obtain ⟨t, rfl⟩ := h.index _ (Assoc.mem_of_get?_eq_some hd) p hp
    exact ⟨⟨t, rfl⟩, by decide⟩

theorem toText_text (definition : Option Definition) (format : SequenceFormat) (t : Text) :
    Value.toText definition format (.text t) = t :=
  rfl

theorem display_text {key t : Text} (h : s.value? key = some (.text t, .explicit)) :
    (s.resolve key).display = Escape.text t := by
  rw [resolve, h]
  cases t with
  | nil => rfl
  | cons c t => rfl

theorem piece_text (h : s.Textual) (key : Text) : (s.piece key).text = (s.resolve key).display := by
  unfold piece resolve
  cases hv : s.value? key with
  | none => rfl
  | some r =>
      obtain ⟨v, state⟩ := r
      obtain ⟨⟨t, rfl⟩, hstate⟩ := h.value hv
      by_cases hbare : isBare (.text t) state
      · simp only [hbare, if_true]
        cases state with
        | explicit => rfl
        | default => rfl
        | unresolved => exact absurd rfl hstate
      · simp only [hbare, Bool.false_eq_true, if_false, Value.escape, toText_text]
        cases state with
        | explicit => rfl
        | default => rfl
        | unresolved => exact absurd rfl hstate

end Scope

namespace Setting

def emitted (s : Setting) : Body → Except NumeralFault (List Piece)
  | .nil => .ok []
  | .text _ content _ rest => do
      let ps ← emitted s rest
      return .fixed content :: ps
  | .variable _ key _ rest => do
      let ps ← emitted s rest
      return s.scope.piece key :: ps
  | .block _ o _ consequent _ hasAlternate alternate rest => do
      let outcome ← s.verdict o
      let inner ←
        if outcome.shows o then emitted s consequent
        else if hasAlternate then emitted s alternate
        else .ok []
      let ps ← emitted s rest
      return inner ++ ps

variable {s : Setting}

theorem rendered_eq_emitted (h : s.scope.Textual) (b : Body) :
    s.rendered b = (s.emitted b).map Piece.joined := by
  induction b with
  | nil => rfl
  | text id content span rest ih =>
      rw [rendered, emitted, ih]
      cases s.emitted rest <;> rfl
  | «variable» id key span rest ih =>
      rw [rendered, emitted, ih, ← Scope.piece_text h]
      cases s.emitted rest <;> rfl
  | block id o span consequent elseSpan hasAlternate alternate rest ihc iha ih =>
      have hrest (inner : List Piece) :
          (do let t ← s.rendered rest; pure (Piece.joined inner ++ t)) =
            (do let ps ← s.emitted rest; pure (inner ++ ps)).map Piece.joined := by
        rw [ih]
        cases s.emitted rest with
        | error f => rfl
        | ok ps => exact congrArg Except.ok (Piece.joined_append inner ps).symm
      rw [rendered, emitted]
      cases s.verdict o with
      | error f => rfl
      | ok outcome =>
          by_cases hfirst : outcome.shows o
          · simp only [bind, Except.bind, hfirst, if_true, ihc]
            cases s.emitted consequent with
            | error f => rfl
            | ok inner => exact hrest inner
          · by_cases helse : hasAlternate
            · simp only [bind, Except.bind, hfirst, helse, Bool.false_eq_true, if_true, if_false,
                iha]
              cases s.emitted alternate with
              | error f => rfl
              | ok inner => exact hrest inner
            · simp only [bind, Except.bind, hfirst, helse, Bool.false_eq_true, if_false]
              exact hrest []

theorem emitted_block_ok {id : Nat} {o : Opening} {span : Span} {elseSpan : Option Span}
    {consequent alternate rest : Body} {ps : List Piece}
    (h : s.emitted (.block id o span consequent elseSpan hasAlternate alternate rest) = .ok ps) :
    ∃ outcome inner qs, s.verdict o = .ok outcome ∧
      (if outcome.shows o then s.emitted consequent
        else if hasAlternate then s.emitted alternate else .ok []) = .ok inner ∧
      s.emitted rest = .ok qs ∧ ps = inner ++ qs := by
  obtain ⟨outcome, hverdict, h⟩ := bind_eq_ok_iff.mp h
  refine ⟨outcome, ?_⟩
  have hrest {inner : List Piece} (h : (do let qs ← s.emitted rest; pure (inner ++ qs)) = .ok ps) :
      ∃ qs, s.emitted rest = .ok qs ∧ ps = inner ++ qs := by
    obtain ⟨qs, hqs, h⟩ := bind_eq_ok_iff.mp h
    cases h
    exact ⟨qs, hqs, rfl⟩
  by_cases hfirst : outcome.shows o
  · simp only [hfirst, if_true] at h ⊢
    obtain ⟨inner, hinner, h⟩ := bind_eq_ok_iff.mp h
    obtain ⟨qs, hqs, hps⟩ := hrest h
    exact ⟨inner, qs, hverdict, hinner, hqs, hps⟩
  · by_cases helse : hasAlternate
    · simp only [hfirst, helse, Bool.false_eq_true, if_true, if_false] at h ⊢
      obtain ⟨inner, hinner, h⟩ := bind_eq_ok_iff.mp h
      obtain ⟨qs, hqs, hps⟩ := hrest h
      exact ⟨inner, qs, hverdict, hinner, hqs, hps⟩
    · simp only [hfirst, helse, Bool.false_eq_true, if_false] at h ⊢
      obtain ⟨qs, hqs, hps⟩ := hrest h
      exact ⟨[], qs, hverdict, rfl, hqs, hps⟩

theorem origin_of_emitted {b : Body} {ps : List Piece} (h : s.emitted b = .ok ps) :
    ∀ p ∈ ps, p.Origin b.flatten := by
  induction b generalizing ps with
  | nil =>
      cases h
      simp
  | text id content span rest ih =>
      obtain ⟨qs, hrest, h⟩ := bind_eq_ok_iff.mp h
      cases h
      refine List.forall_mem_cons.mpr ⟨List.mem_cons_self, fun p hp => ?_⟩
      exact (ih hrest p hp).mono (List.subset_cons_self ..)
  | «variable» id key span rest ih =>
      obtain ⟨qs, hrest, h⟩ := bind_eq_ok_iff.mp h
      cases h
      refine List.forall_mem_cons.mpr ⟨?_, fun p hp => ?_⟩
      · unfold Scope.piece
        split
        · exact List.mem_cons_self
        · trivial
      · exact (ih hrest p hp).mono (List.subset_cons_self ..)
  | block id o span consequent elseSpan hasAlternate alternate rest ihc iha ih =>
      obtain ⟨outcome, inner, qs, -, hinner, hrest, rfl⟩ := emitted_block_ok h
      refine List.forall_mem_append.mpr ⟨?_, fun p hp => ?_⟩
      · intro p hp
        split at hinner
        · exact (ihc hinner p hp).mono fun x hx => by simp [Body.flatten, hx]
        · split at hinner
          · rename_i helse
            exact (iha hinner p hp).mono fun x hx => by simp [Body.flatten, helse, hx]
          · cases hinner
            simp at hp
      · exact (ih hrest p hp).mono fun x hx => by simp [Body.flatten, hx]

end Setting

end PromptTemplate
