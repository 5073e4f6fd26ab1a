import PromptTemplate.Proofs.Evaluation.Mirror

namespace PromptTemplate

def Opening.keys (o : Opening) : List Text :=
  o.key :: (o.comparison.bind (·.other)).toList

def Node.keys : Node → List Text
  | .variable _ key _ => [key]
  | .block _ o _ _ _ _ => o.keys
  | _ => []

theorem Scope.resolve_key (s : Scope) (key : Text) : (s.resolve key).key = key := by
  unfold resolve
  cases s.value? key with
  | none => rfl
  | some found => by_cases hbare : isBare found.1 found.2 <;> simp [hbare]

def Node.opening? : Node → Option Opening
  | .block _ o _ _ _ _ => some o
  | _ => none

def Annotated.Item.opening? : Annotated.Item → Option Opening
  | .block _ o _ _ _ _ _ _ _ _ => some o
  | _ => none

def Annotated.Item.asVisible : Annotated.Item → Annotated.Item
  | .text i content span _ => .text i content span true
  | .variable i label r span _ => .variable i label r span true
  | .block i o span outcome resolved _ first e h second =>
      .block i o span outcome resolved true first e h second

def Annotated.visible (a : Annotated) : List Annotated.Item :=
  a.walk.filter Annotated.Item.visible

theorem Annotated.filter_branches (c d rest : Annotated) :
    (c.walk ++ d.walk ++ rest.walk).filter Annotated.Item.visible =
      c.visible ++ d.visible ++ rest.visible := by
  simp only [List.filter_append, visible]

namespace Setting

open Annotated

variable {s : Setting} {b : Body} {a : Annotated}

def shown (s : Setting) : Body → List Node
  | .nil => []
  | .text i content span rest => .text i content span :: shown s rest
  | .variable i key span rest => .variable i key span :: shown s rest
  | .block i o span consequent elseSpan hasAlternate alternate rest =>
      let inner :=
        match s.verdict o with
        | .error _ => []
        | .ok outcome =>
            if outcome.shows o then shown s consequent
            else if hasAlternate then shown s alternate
            else []
      .block i o span consequent.ids elseSpan (if hasAlternate then some alternate.ids else none) ::
        (inner ++ shown s rest)

def item? (s : Setting) : Node → Option Item
  | .root .. => none
  | .text i content span => some (.text i content span true)
  | .variable i key span => some (.variable i (s.label key) (s.scope.resolve key) span true)
  | .block i o span _ elseSpan alternate =>
      match s.verdict o with
      | .error _ => none
      | .ok outcome =>
          let first := outcome.shows o
          let second := !first && alternate.isSome
          some (.block i o span outcome first true first elseSpan alternate.isSome second)

theorem item?_block_eq_some_iff {i : Nat} {o : Opening} {span : Span} {first : List Nat}
    {e : Option Span} {second : Option (List Nat)} {item : Item} :
    s.item? (.block i o span first e second) = some item ↔
      ∃ outcome, s.verdict o = .ok outcome ∧
        item = .block i o span outcome (outcome.shows o) true (outcome.shows o) e second.isSome
          (!outcome.shows o && second.isSome) := by
  cases hverdict : s.verdict o with
  | error f => simp [item?, hverdict]
  | ok outcome => simp [item?, hverdict, eq_comm]

theorem keys_of_item? {node : Node} {item : Item} (h : s.item? node = some item) :
    item.keys = node.keys := by
  cases node with
  | root span children => cases h
  | text i content span =>
      cases h
      rfl
  | «variable» i key span =>
      cases h
      simp only [Item.keys, Node.keys, Scope.resolve_key]
  | block i o span consequent elseSpan alternate =>
      obtain ⟨outcome, -, rfl⟩ := item?_block_eq_some_iff.mp h
      rfl

theorem flatMap_of_item? {α : Type} {f : Item → List α} {g : Node → List α}
    (hfg : ∀ node item, s.item? node = some item → f item = g node) {nodes : List Node}
    {items : List Item} (h : nodes.map s.item? = items.map some) :
    items.flatMap f = nodes.flatMap g := by
  induction nodes generalizing items with
  | nil =>
      obtain rfl : items = [] := List.map_eq_nil_iff.mp h.symm
      rfl
  | cons node nodes ih =>
      cases items with
      | nil => cases h
      | cons item items =>
          obtain ⟨hhere, hrest⟩ := List.cons.inj h
          rw [List.flatMap_cons, List.flatMap_cons, hfg node item hhere, ih hrest]

theorem keys_of_opening? {item : Item} {o : Opening} (h : item.opening? = some o) :
    item.keys = o.keys := by
  cases item with
  | block i o' span outcome resolved visible first e hasAlternate second =>
      cases h
      rfl
  | text i content span visible => cases h
  | «variable» i label r span visible => cases h

theorem openings_of_annotated {visible : Bool} (h : s.annotated visible b = .ok a) :
    a.walk.filterMap Item.opening? = b.openings := by
  replace h := annotates_of_annotated h
  induction h with
  | nil => rfl
  | text _ ih => exact ih
  | «variable» _ ih => exact ih
  | block _ _ _ _ ihc iha ih =>
      rw [Body.openings, ← ihc, ← iha, ← ih, ← List.filterMap_append, ← List.filterMap_append]
      rfl

theorem nodes_of_annotated {visible : Bool} (h : s.annotated visible b = .ok a) :
    b.nodes.map s.item? = (a.walk.map Item.asVisible).map some := by
  replace h := annotates_of_annotated h
  induction h with
  | nil => rfl
  | text _ ih => exact congrArg (_ :: ·) ih
  | «variable» _ ih => exact congrArg (_ :: ·) ih
  | block hverdict _ _ _ ihc iha ih =>
      simp only [Body.nodes, walk, item?, hverdict, Body.isSome_second, List.map_cons,
        List.map_append, ihc, iha, ih, Item.asVisible]

theorem Annotates.visible_of_hidden {visible : Bool} (h : s.Annotates visible b a)
    (hhidden : visible = false) : a.visible = [] := by
  induction h with
  | nil => rfl
  | @text v i content span rest a _ ih =>
      subst hhidden
      exact ih rfl
  | @«variable» v i key span rest a _ ih =>
      subst hhidden
      exact ih rfl
  | @block v i o span elseSpan hasAlternate consequent alternate rest outcome c d a _ _ _ _ ihc iha
      ih =>
      subst hhidden
      have hrow := filter_branches c d a
      rw [ihc (Bool.false_and _), iha (Bool.false_and _), ih rfl] at hrow
      exact hrow

theorem Annotates.shown_eq {visible : Bool} (h : s.Annotates visible b a) (hv : visible = true) :
    (s.shown b).map s.item? = a.visible.map some := by
  induction h with
  | nil => rfl
  | @text v i content span rest a _ ih =>
      subst hv
      exact congrArg (_ :: ·) (ih rfl)
  | @«variable» v i key span rest a _ ih =>
      subst hv
      exact congrArg (_ :: ·) (ih rfl)
  | @block v i o span elseSpan hasAlternate consequent alternate rest outcome c d a hverdict hc hd _
      ihc iha ih =>
      subst hv
      simp only [shown, hverdict, Body.isSome_second, List.map_cons, List.map_append, ih, item?]
      refine congrArg (_ :: ·) ?_
      rw [filter_branches, List.map_append, List.map_append]
      refine congrArg (· ++ a.visible.map some) ?_
      -- of the two branches only one can be visible, and the other adds nothing
      cases hfirst : outcome.shows o with
      | true => simp [ihc, hd.visible_of_hidden, hfirst]
      | false =>
          cases helse : hasAlternate with
          | true => simp [iha, hc.visible_of_hidden, hfirst, helse]
          | false => simp [hc.visible_of_hidden, hd.visible_of_hidden, hfirst, helse]

theorem shown_of_annotated (h : s.annotated true b = .ok a) :
    (s.shown b).map s.item? = a.visible.map some :=
  (annotates_of_annotated h).shown_eq rfl

theorem reached_eq_openings (s : Setting) (b : Body) :
    s.reached b = (s.shown b).filterMap Node.opening? := by
  induction b with
  | nil => rfl
  | text id content span rest ih => exact ih
  | «variable» id key span rest ih => exact ih
  | block id o span consequent elseSpan hasAlternate alternate rest ihc iha ih =>
      rw [reached, shown, ih]
      refine congrArg (o :: ·) ?_
      rw [List.filterMap_append]
      refine congrArg (· ++ _) ?_
      cases s.verdict o with
      | error f => rfl
      | ok outcome =>
          by_cases hfirst : outcome.shows o
          · simp only [hfirst, if_true, ihc]
          · by_cases helse : hasAlternate
            · simp only [hfirst, helse, Bool.false_eq_true, if_true, if_false, iha]
            · simp only [hfirst, helse, Bool.false_eq_true, if_false, List.filterMap_nil]

def words (s : Setting) : Node → Text
  | .text _ content _ => content
  | .variable _ key _ => (s.scope.resolve key).display
  | _ => []

theorem words_of_rendered {text : Text} (h : s.rendered b = .ok text) :
    text = (s.shown b).flatMap s.words := by
  induction b generalizing text with
  | nil =>
      cases h
      rfl
  | text id content span rest ih =>
      obtain ⟨t, hrest, h⟩ := bind_eq_ok_iff.mp h
      cases h
      rw [ih hrest]
      rfl
  | «variable» id key span rest ih =>
      obtain ⟨t, hrest, h⟩ := bind_eq_ok_iff.mp h
      cases h
      rw [ih hrest]
      rfl
  | block id o span consequent elseSpan hasAlternate alternate rest ihc iha ih =>
      obtain ⟨outcome, hverdict, h⟩ := bind_eq_ok_iff.mp h
      simp only [shown, hverdict, List.flatMap_cons, List.flatMap_append]
      by_cases hfirst : outcome.shows o
      · simp only [hfirst, if_true] at h ⊢
        obtain ⟨inner, hinner, h⟩ := bind_eq_ok_iff.mp h
        obtain ⟨t, hrest, h⟩ := bind_eq_ok_iff.mp h
        cases h
        rw [ihc hinner, ih hrest]
        rfl
      · by_cases helse : hasAlternate
        · simp only [hfirst, helse, Bool.false_eq_true, if_true, if_false] at h ⊢
          obtain ⟨inner, hinner, h⟩ := bind_eq_ok_iff.mp h
          obtain ⟨t, hrest, h⟩ := bind_eq_ok_iff.mp h
          cases h
          rw [iha hinner, ih hrest]
          rfl
        · simp only [hfirst, helse, Bool.false_eq_true, if_false] at h ⊢
          obtain ⟨inner, hinner, h⟩ := bind_eq_ok_iff.mp h
          obtain ⟨t, hrest, h⟩ := bind_eq_ok_iff.mp h
          cases hinner
          cases h
          rw [ih hrest]
          rfl

end Setting

end PromptTemplate
