import PromptTemplate.Engine

namespace PromptTemplate

theorem bind_eq_ok_iff {ε α β : Type} {x : Except ε α} {k : α → Except ε β} {b : β} :
    x >>= k = .ok b ↔ ∃ a, x = .ok a ∧ k a = .ok b := by
  cases x with
  | error e => simp [bind, Except.bind]
  | ok a => simp [bind, Except.bind]

def Progress.Faithful (s : Setting) (p : Progress) : Prop :=
  ∀ key r, p.resolved.get? key = some r → r = s.scope.resolve key

theorem Progress.empty_faithful (s : Setting) : Progress.empty.Faithful s := by
  intro key r h
  simp [Progress.empty, Assoc.get?] at h

namespace Setting

def verdict (s : Setting) (o : Opening) : Except NumeralFault Outcome :=
  match o.comparison with
  | none => .ok ⟨(s.scope.resolve o.key).truthy, none⟩
  | some c =>
      match c.evaluate s.operators (s.scope.resolve o.key) (c.other.map s.scope.resolve) with
      | .ok b => .ok ⟨b, none⟩
      | .error (.undecided e) => .ok ⟨false, some e⟩
      | .error (.fault f) => .error f

def rendered (s : Setting) : Body → Except NumeralFault Text
  | .nil => .ok []
  | .text _ content _ rest => do
      let t ← rendered s rest
      return content ++ t
  | .variable _ key _ rest => do
      let t ← rendered s rest
      return (s.scope.resolve key).display ++ t
  | .block _ o _ consequent _ hasAlternate alternate rest => do
      let outcome ← s.verdict o
      let inner ←
        if outcome.shows o then rendered s consequent
        else if hasAlternate then rendered s alternate
        else .ok []
      let t ← rendered s rest
      return inner ++ t

def annotated (s : Setting) (visible : Bool) : Body → Except NumeralFault Annotated
  | .nil => .ok .nil
  | .text id content span rest => do
      let a ← annotated s visible rest
      return .text id content span visible a
  | .variable id key span rest => do
      let a ← annotated s visible rest
      return .variable id (s.label key) (s.scope.resolve key) span visible a
  | .block id o span consequent elseSpan hasAlternate alternate rest => do
      let outcome ← s.verdict o
      let first := outcome.shows o
      let second := !first && hasAlternate
      let c ← annotated s (visible && first) consequent
      let d ← annotated s (visible && second) alternate
      let a ← annotated s visible rest
      return .block id o span outcome first visible first c elseSpan hasAlternate second d a

inductive Annotates (s : Setting) : Bool → Body → Annotated → Prop
  | nil {v : Bool} : Annotates s v .nil .nil
  | text {v : Bool} {i : Nat} {content : Text} {span : Span} {rest : Body} {a : Annotated} :
      Annotates s v rest a →
      Annotates s v (.text i content span rest) (.text i content span v a)
  | variable {v : Bool} {i : Nat} {key : Text} {span : Span} {rest : Body} {a : Annotated} :
      Annotates s v rest a →
      Annotates s v (.variable i key span rest)
        (.variable i (s.label key) (s.scope.resolve key) span v a)
  | block {v : Bool} {i : Nat} {o : Opening} {span : Span} {elseSpan : Option Span}
      {hasAlternate : Bool} {consequent alternate rest : Body} {outcome : Outcome}
      {c d a : Annotated} :
      s.verdict o = .ok outcome → Annotates s (v && outcome.shows o) consequent c →
      Annotates s (v && (!outcome.shows o && hasAlternate)) alternate d →
      Annotates s v rest a →
      Annotates s v (.block i o span consequent elseSpan hasAlternate alternate rest)
        (.block i o span outcome (outcome.shows o) v (outcome.shows o) c elseSpan hasAlternate
          (!outcome.shows o && hasAlternate) d a)

/-- A run with a memory ends as evaluation without one, and leaves the memory faithful. -/
inductive Follows (s : Setting) {α : Type} :
    Except NumeralFault α → Except Halt (α × Progress) → Prop
  | ok {a : α} {p : Progress} : p.Faithful s → Follows s (.ok a) (.ok (a, p))
  | error {f : NumeralFault} {p : Progress} : Follows s (.error f) (.error ⟨f, p⟩)

variable {s : Setting} {α β : Type}

theorem Follows.bind {x : Except NumeralFault α} {m : Except Halt (α × Progress)}
    {f : α → Except NumeralFault β} {k : α × Progress → Except Halt (β × Progress)}
    (h : Follows s x m) (hk : ∀ a p, p.Faithful s → Follows s (f a) (k (a, p))) :
    Follows s (x >>= f) (m >>= k) := by
  cases h with
  | ok hp => exact hk _ _ hp
  | error => exact .error

theorem Follows.ok_iff {x : Except NumeralFault α} {m : Except Halt (α × Progress)}
    (h : Follows s x m) (a : α) : x = .ok a ↔ ∃ p, m = .ok (a, p) := by
  cases h with
  | ok hp => simp
  | error => simp

theorem Follows.error_iff {x : Except NumeralFault α} {m : Except Halt (α × Progress)}
    (h : Follows s x m) (f : NumeralFault) : x = .error f ↔ ∃ p, m = .error ⟨f, p⟩ := by
  cases h with
  | ok hp => simp
  | error => simp

theorem Follows.result {x : Except NumeralFault α} {m : Except Halt (α × Progress)}
    (h : Follows s x m) : (m.map Prod.fst).mapError Halt.fault = x := by
  cases h with
  | ok hp => rfl
  | error => rfl

theorem resolve_eq {p : Progress} (hp : p.Faithful s) (key : Text) :
    ∃ q, s.resolve key p = (s.scope.resolve key, q) ∧ q.Faithful s := by
  unfold resolve
  cases h : p.resolved.get? key with
  | some r => exact ⟨p, by rw [hp key r h], hp⟩
  | none =>
      refine ⟨_, rfl, ?_⟩
      intro k r hk
      rw [Assoc.get?_append] at hk
      cases hr : p.resolved.get? k with
      | some r' =>
          rw [hr, Option.some_or, Option.some.injEq] at hk
          exact hk ▸ hp k r' hr
      | none =>
          rw [hr, Option.none_or] at hk
          by_cases hkey : key = k
          · subst hkey
            simpa [Assoc.get?, eq_comm] using hk
          · simp [Assoc.get?, hkey] at hk

theorem resolve?_eq {p : Progress} (hp : p.Faithful s) (key : Option Text) :
    ∃ q, s.resolve? key p = (key.map s.scope.resolve, q) ∧ q.Faithful s := by
  cases key with
  | none => exact ⟨p, rfl, hp⟩
  | some key =>
      obtain ⟨q, hq, hf⟩ := resolve_eq hp key
      exact ⟨q, by simp [resolve?, hq], hf⟩

theorem condition_follows {p : Progress} (hp : p.Faithful s) (o : Opening) :
    Follows s (s.verdict o) (s.condition o p) := by
  obtain ⟨q, hq, hqf⟩ := resolve_eq hp o.key
  unfold condition verdict
  rw [hq]
  cases o.comparison with
  | none => exact .ok hqf
  | some c =>
      obtain ⟨q', hq', hqf'⟩ := resolve?_eq hqf c.other
      simp only [hq']
      cases c.evaluate s.operators (s.scope.resolve o.key) (c.other.map s.scope.resolve) with
      | ok b => exact .ok hqf'
      | error e =>
          cases e with
          | undecided e => exact .ok hqf'
          | fault f => exact .error

theorem render_follows (b : Body) {p : Progress} (hp : p.Faithful s) :
    Follows s (s.rendered b) (s.render b p) := by
  induction b generalizing p with
  | nil => exact .ok hp
  | text id content span rest ih =>
      exact (ih hp).bind fun t q hq => .ok hq
  | «variable» id key span rest ih =>
      obtain ⟨q, hq, hqf⟩ := resolve_eq hp key
      simp only [rendered, render, hq]
      exact (ih hqf).bind fun t q hq => .ok hq
  | block id o span consequent elseSpan hasAlternate alternate rest ihc iha ih =>
      refine (condition_follows hp o).bind fun outcome q hq => ?_
      -- only the branch that is shown is run, so the memory differs from that of a preview
      by_cases hfirst : outcome.shows o
      · simp only [hfirst, if_true]
        exact (ihc hq).bind fun inner q hq => (ih hq).bind fun t q hq => .ok hq
      · by_cases helse : hasAlternate
        · simp only [hfirst, helse, Bool.false_eq_true, if_true, if_false]
          exact (iha hq).bind fun inner q hq => (ih hq).bind fun t q hq => .ok hq
        · simp only [hfirst, helse, Bool.false_eq_true, if_false]
          exact (ih hq).bind fun t q hq => .ok hq

theorem annotate_follows (b : Body) {p : Progress} (hp : p.Faithful s) (visible : Bool) :
    Follows s (s.annotated visible b) (s.annotate visible b p) := by
  induction b generalizing p visible with
  | nil => exact .ok hp
  | text id content span rest ih =>
      exact (ih hp visible).bind fun a q hq => .ok hq
  | «variable» id key span rest ih =>
      obtain ⟨q, hq, hqf⟩ := resolve_eq hp key
      simp only [annotated, annotate, hq]
      exact (ih hqf visible).bind fun a q hq => .ok hq
  | block id o span consequent elseSpan hasAlternate alternate rest ihc iha ih =>
      refine (condition_follows hp o).bind fun outcome q hq => ?_
      refine (ihc hq _).bind fun c q hq => ?_
      refine (iha hq _).bind fun d q hq => ?_
      exact (ih hq visible).bind fun a q hq => .ok hq

theorem annotates_of_annotated {b : Body} {visible : Bool} {a : Annotated}
    (h : s.annotated visible b = .ok a) : s.Annotates visible b a := by
  induction b generalizing visible a with
  | nil =>
      cases h
      exact .nil
  | text id content span rest ih =>
      obtain ⟨a', hrest, h⟩ := bind_eq_ok_iff.mp h
      cases h
      exact .text (ih hrest)
  | «variable» id key span rest ih =>
      obtain ⟨a', hrest, h⟩ := bind_eq_ok_iff.mp h
      cases h
      exact .variable (ih hrest)
  | block id o span consequent elseSpan hasAlternate alternate rest ihc iha ih =>
      obtain ⟨outcome, hverdict, h⟩ := bind_eq_ok_iff.mp h
      obtain ⟨c, hc, h⟩ := bind_eq_ok_iff.mp h
      obtain ⟨d, hd, h⟩ := bind_eq_ok_iff.mp h
      obtain ⟨a', hrest, h⟩ := bind_eq_ok_iff.mp h
      cases h
      exact .block hverdict (ihc hc) (iha hd) (ih hrest)

theorem renderTree_ok_iff (t : Tree) (text : Text) :
    (s.renderTree t).1 = .ok text ↔ s.rendered t.body = .ok text := by
  rw [(render_follows t.body (Progress.empty_faithful s)).ok_iff]
  unfold renderTree
  cases h : s.render t.body .empty with
  | ok r => simp [Prod.ext_iff]
  | error halt => simp

theorem renderTree_error_iff (t : Tree) (f : NumeralFault) :
    (s.renderTree t).1 = .error f ↔ s.rendered t.body = .error f := by
  rw [(render_follows t.body (Progress.empty_faithful s)).error_iff]
  unfold renderTree
  cases h : s.render t.body .empty with
  | ok r => simp
  | error halt => cases halt; simp

theorem annotateTree_ok_iff (t : Tree) (p : Preview) :
    (s.annotateTree t).1 = .ok p ↔
      p = t.preview p.children ∧ s.annotated true t.body = .ok p.children := by
  rw [(annotate_follows t.body (Progress.empty_faithful s) true).ok_iff]
  unfold annotateTree
  cases h : s.annotate true t.body .empty with
  | ok r =>
      have hroot : t.preview r.1 = p ↔ p = t.preview p.children ∧ r.1 = p.children := by
        constructor
        · rintro rfl
          exact ⟨rfl, rfl⟩
        · rintro ⟨hp, hr⟩
          rw [hr, ← hp]
      simp [Prod.ext_iff, hroot]
  | error halt => simp

theorem annotateTree_error_iff (t : Tree) (f : NumeralFault) :
    (s.annotateTree t).1 = .error f ↔ s.annotated true t.body = .error f := by
  rw [(annotate_follows t.body (Progress.empty_faithful s) true).error_iff]
  unfold annotateTree
  cases h : s.annotate true t.body .empty with
  | ok r => simp
  | error halt => cases halt; simp

theorem renderTree_eq_rendered (s : Setting) (t : Tree) :
    (s.renderTree t).1 = s.rendered t.body := by
  cases h : (s.renderTree t).1 with
  | ok text => exact ((renderTree_ok_iff t text).mp h).symm
  | error f => exact ((renderTree_error_iff t f).mp h).symm

theorem annotateTree_eq_annotated (s : Setting) (t : Tree) :
    (s.annotateTree t).1 = (s.annotated true t.body).map t.preview := by
  cases h : (s.annotateTree t).1 with
  | ok p =>
      obtain ⟨hpreview, hannotated⟩ := (annotateTree_ok_iff t p).mp h
      rw [hannotated]
      exact congrArg Except.ok hpreview
  | error f =>
      rw [(annotateTree_error_iff t f).mp h]
      rfl

theorem evaluated_without_memory (t : Tree) {p : Progress} (hp : p.Faithful s) :
    ((s.render t.body p).map Prod.fst).mapError Halt.fault = s.rendered t.body ∧
    (∀ visible, ((s.annotate visible t.body p).map Prod.fst).mapError Halt.fault =
      s.annotated visible t.body) ∧
    (s.renderTree t).1 = s.rendered t.body ∧
    (s.annotateTree t).1 = (s.annotated true t.body).map t.preview := by
  refine ⟨(render_follows t.body hp).result, ?_, renderTree_eq_rendered s t,
    annotateTree_eq_annotated s t⟩
  intro visible
  exact (annotate_follows t.body hp visible).result

theorem evaluated_without_memory_of_known_key :
    let t : Tree := ⟨("\x7b\x7b#if (and a c)\x7d\x7d\x7b\x7bc\x7d\x7d\x7b\x7belse\x7d\x7d" ++
        "\x7b\x7ba\x7d\x7d\x7b\x7b/if\x7d\x7d\x7b\x7bb\x7d\x7d").toList,
      .block 1 ⟨.ifBlock, ['a'], false, some ⟨"and".toList, none, some ['c']⟩⟩ ⟨0, 42⟩
        (.variable 2 ['c'] ⟨17, 22⟩ .nil) (some ⟨22, 30⟩) true (.variable 3 ['a'] ⟨30, 35⟩ .nil)
        (.variable 4 ['b'] ⟨42, 47⟩ .nil)⟩
    let s : Setting := ⟨⟨[(['a'], .text ['x'])], [], .comma⟩, .builtin⟩
    let p : Progress := ⟨[(['c'], s.scope.resolve ['c']), (['a'], s.scope.resolve ['a'])], [], []⟩
    (Tree.parse 1 t.source).toOption = some t ∧ p.Faithful s ∧
      ((s.render t.body p).map Prod.fst).mapError Halt.fault =
        .ok "x\x7b\x7bb\x7d\x7d".toList := by
  intro t s p
  have hparse : (Tree.parse 1 t.source).toOption = some t := by decide +kernel
  have hp : p.Faithful s := by
    intro key r h
    simp only [p, Assoc.get?] at h
    split at h
    · rename_i hkey
      rw [← hkey, Option.some.inj h]
    · split at h
      · rename_i hkey
        rw [← hkey, Option.some.inj h]
      · cases h
  exact ⟨hparse, hp, (evaluated_without_memory t hp).1.trans rfl⟩

end Setting

end PromptTemplate
