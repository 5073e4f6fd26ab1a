import Mathlib.Data.List.Induction
import PromptTemplate.Proofs.Evaluation.Shown

namespace PromptTemplate

namespace Text

theorem distinct_concat (ts : List Text) (t : Text) :
    distinct (ts ++ [t]) = if t ∈ distinct ts then distinct ts else distinct ts ++ [t] := by
  simp [distinct, List.foldl_append]

theorem mem_distinct_iff {ts : List Text} {t : Text} : t ∈ distinct ts ↔ t ∈ ts := by
  induction ts using List.reverseRecOn with
  | nil => rfl
  | append_singleton ts u ih =>
      rw [distinct_concat]
      by_cases hthere : u ∈ distinct ts
      · rw [if_pos hthere, ih, List.mem_append, List.mem_singleton]
        constructor
        · exact .inl
        · rintro (h | rfl)
          · exact h
          · exact ih.mp hthere
      · simp [hthere, ih]

theorem distinct_nodup (ts : List Text) : (distinct ts).Nodup := by
  induction ts using List.reverseRecOn with
  | nil => exact List.nodup_nil
  | append_singleton ts t ih =>
      rw [distinct_concat]
      by_cases hthere : t ∈ distinct ts
      · rwa [if_pos hthere]
      · rw [if_neg hthere]
        refine List.nodup_append.mpr ⟨ih, List.pairwise_singleton _ t, ?_⟩
        intro a ha b hb hab
        rw [List.mem_singleton.mp hb] at hab
        exact hthere (hab ▸ ha)

end Text

theorem Assoc.get?_map {α : Type} (f : Text → α) (keys : List Text) (key : Text) :
    get? key (keys.map fun k => (k, f k)) = if key ∈ keys then some (f key) else none := by
  induction keys with
  | nil => rfl
  | cons k keys ih =>
      by_cases h : k = key
      · simp [get?, h]
      · simp [get?, h, ih, Ne.symm h]

def Annotated.Item.events : Annotated.Item → List Event
  | .block _ o _ outcome _ _ _ _ _ _ => (outcome.error.map fun e => .undecided o.key e).toList
  | _ => []

def Progress.after (s : Setting) (keys : List Text) (undecided : List (Text × ComparisonError)) :
    Progress :=
  ⟨(Text.distinct keys).map fun key => (key, s.scope.resolve key),
    (Text.distinct keys).flatMap s.scope.coercions, undecided⟩

namespace Setting

open Annotated

variable {s : Setting}

theorem resolve_after (key : Text) (keys : List Text) (es : List (Text × ComparisonError)) :
    s.resolve key (.after s keys es) = (s.scope.resolve key, .after s (keys ++ [key]) es) := by
  unfold resolve Progress.after
  rw [Assoc.get?_map, Text.distinct_concat]
  by_cases hthere : key ∈ Text.distinct keys
  · simp [hthere]
  · simp [hthere]

theorem resolve?_after (key : Option Text) (keys : List Text)
    (es : List (Text × ComparisonError)) :
    s.resolve? key (.after s keys es) =
      (key.map s.scope.resolve, .after s (keys ++ key.toList) es) := by
  cases key with
  | none => simp [resolve?]
  | some key => simp [resolve?, resolve_after]

def undecided? (s : Setting) (o : Opening) : Option (Text × ComparisonError) :=
  match s.verdict o with
  | .ok outcome => outcome.error.map fun e => (o.key, e)
  | .error _ => none

theorem condition_after (o : Opening) (keys : List Text) (es : List (Text × ComparisonError)) :
    s.condition o (.after s keys es) =
      match s.verdict o with
      | .ok outcome => .ok (outcome, .after s (keys ++ o.keys) (es ++ (s.undecided? o).toList))
      | .error f => .error ⟨f, .after s (keys ++ o.keys) es⟩ := by
  unfold condition undecided? verdict
  rw [resolve_after]
  cases hcomparison : o.comparison with
  | none => simp [Opening.keys, hcomparison]
  | some c =>
      have hkeys : keys ++ [o.key] ++ c.other.toList = keys ++ o.keys := by
        simp [Opening.keys, hcomparison]
      simp only [resolve?_after, hkeys]
      cases c.evaluate s.operators (s.scope.resolve o.key) (c.other.map s.scope.resolve) with
      | ok b => simp
      | error e =>
          cases e with
          | undecided e => rfl
          | fault f => rfl

def reports (s : Setting) (node : Node) : List (Text × ComparisonError) :=
  (node.opening?.bind s.undecided?).toList

def visit (s : Setting) (p : Progress) : Node → Except Halt Progress
  | .variable _ key _ => .ok (s.resolve key p).2
  | .block _ o _ _ _ _ => (s.condition o p).map Prod.snd
  | _ => .ok p

theorem visit_after (node : Node) (keys : List Text) (es : List (Text × ComparisonError)) :
    let found := Progress.after s (keys ++ node.keys) (es ++ s.reports node)
    s.visit (.after s keys es) node =
      match node.opening?.bind s.fault? with
      | none => .ok found
      | some f => .error ⟨f, found⟩ := by
  cases node with
  | root span children => simp [visit, Node.keys, Node.opening?, reports]
  | text i content span => simp [visit, Node.keys, Node.opening?, reports]
  | «variable» i key span => simp [visit, Node.keys, Node.opening?, reports, resolve_after]
  | block i o span consequent elseSpan alternate =>
      have hfault := faultOf_verdict s o
      simp only [visit, condition_after, Node.keys, Node.opening?, reports, Option.bind_some,
        ← hfault]
      unfold undecided?
      cases s.verdict o with
      | ok outcome => rfl
      | error f => simp [faultOf, Except.map]

def upToFault (s : Setting) : List Node → List Node
  | [] => []
  | node :: nodes =>
      if (node.opening?.bind s.fault?).isSome then [node] else node :: upToFault s nodes

def endOf : Except Halt Progress → Progress
  | .ok p => p
  | .error halt => halt.progress

-- by induction on the nodes, one step for each; a fault cuts both sides
theorem endOf_visits (nodes : List Node) (keys : List Text) (es : List (Text × ComparisonError)) :
    endOf (nodes.foldlM s.visit (.after s keys es)) =
      .after s (keys ++ (s.upToFault nodes).flatMap Node.keys)
        (es ++ (s.upToFault nodes).flatMap s.reports) := by
  induction nodes generalizing keys es with
  | nil => simp [endOf, upToFault, pure, Except.pure]
  | cons node nodes ih =>
      rw [List.foldlM_cons, visit_after, upToFault]
      cases hfault : node.opening?.bind s.fault? with
      | some f => simp [endOf, bind, Except.bind]
      | none =>
          refine (ih (keys ++ node.keys) (es ++ s.reports node)).trans ?_
          simp

section

variable {α β : Type} {m : Except Halt (α × Progress)}
  {k : α × Progress → Except Halt (β × Progress)}

theorem map_bind_eq {g : Progress → Except Halt Progress}
    (h : ∀ a p, m = .ok (a, p) → (k (a, p)).map Prod.snd = g p) :
    (m >>= k).map Prod.snd = m.map Prod.snd >>= g := by
  cases m with
  | error halt => rfl
  | ok r => exact h r.1 r.2 rfl

theorem map_bind_return (h : ∀ a p, (k (a, p)).map Prod.snd = .ok p) :
    (m >>= k).map Prod.snd = m.map Prod.snd := by
  cases m with
  | error halt => rfl
  | ok r => exact h r.1 r.2

end

theorem Follows.faithful {α : Type} {x : Except NumeralFault α} {a : α} {p : Progress}
    (h : Follows s x (.ok (a, p))) : x = .ok a ∧ p.Faithful s := by
  cases h with
  | ok hp => exact ⟨rfl, hp⟩

theorem annotate_visits (b : Body) (visible : Bool) (p : Progress) :
    (s.annotate visible b p).map Prod.snd = b.nodes.foldlM s.visit p := by
  induction b generalizing visible p with
  | nil => rfl
  | text id content span rest ih => exact (map_bind_return fun a q => rfl).trans (ih visible p)
  | «variable» id key span rest ih =>
      exact (map_bind_return fun a q => rfl).trans (ih visible (s.resolve key p).2)
  | block id o span consequent elseSpan hasAlternate alternate rest ihc iha ih =>
      rw [Body.nodes, List.foldlM_cons]
      refine map_bind_eq fun outcome q _ => ?_
      rw [List.append_assoc, List.foldlM_append, ← ihc (visible && outcome.shows o)]
      refine map_bind_eq fun c q _ => ?_
      rw [List.foldlM_append, ← iha (visible && (!outcome.shows o && hasAlternate))]
      refine map_bind_eq fun d q _ => ?_
      exact (map_bind_return fun a q => rfl).trans (ih visible q)

theorem render_visits (b : Body) {p : Progress} (hp : p.Faithful s) :
    (s.render b p).map Prod.snd = (s.shown b).foldlM s.visit p := by
  induction b generalizing p with
  | nil => rfl
  | text id content span rest ih => exact (map_bind_return fun t q => rfl).trans (ih hp)
  | «variable» id key span rest ih =>
      obtain ⟨q, hq, hqf⟩ := resolve_eq hp key
      have hvisit : s.visit p (.variable id key span) = .ok q := by
        simp only [visit, hq]
      rw [render, shown, List.foldlM_cons, hvisit, hq]
      exact (map_bind_return fun t q => rfl).trans (ih hqf)
  | block id o span consequent elseSpan hasAlternate alternate rest ihc iha ih =>
      rw [render, shown, List.foldlM_cons]
      refine map_bind_eq fun outcome q hq => ?_
      obtain ⟨hverdict, hqf⟩ := (hq ▸ condition_follows hp o).faithful
      simp only [hverdict]
      by_cases hfirst : outcome.shows o
      · simp only [hfirst, if_true]
        rw [List.foldlM_append, ← ihc hqf]
        refine map_bind_eq fun inner q' hq' => ?_
        obtain ⟨-, hqf'⟩ := (hq' ▸ render_follows consequent hqf).faithful
        exact (map_bind_return fun t q => rfl).trans (ih hqf')
      · by_cases helse : hasAlternate
        · simp only [hfirst, helse, Bool.false_eq_true, if_true, if_false]
          rw [List.foldlM_append, ← iha hqf]
          refine map_bind_eq fun inner q' hq' => ?_
          obtain ⟨-, hqf'⟩ := (hq' ▸ render_follows alternate hqf).faithful
          exact (map_bind_return fun t q => rfl).trans (ih hqf')
        · simp only [hfirst, helse, Bool.false_eq_true, if_false]
          exact (map_bind_return (m := s.render rest q) fun t q => rfl).trans (ih hqf)

def events (s : Setting) (node : Node) : List Event :=
  (s.reports node).map fun (key, e) => .undecided key e

def journalOf (s : Setting) (nodes : List Node) : Journal :=
  ⟨(Text.distinct (nodes.flatMap Node.keys)).flatMap s.scope.coercions, nodes.flatMap s.events⟩

theorem journal_visits (nodes : List Node) :
    (endOf (nodes.foldlM s.visit .empty)).journal = s.journalOf (s.upToFault nodes) := by
  have hempty : Progress.empty = .after s [] [] := rfl
  rw [hempty, endOf_visits]
  simp only [Progress.journal, Progress.after, journalOf, List.nil_append, List.map_flatMap]
  rfl

theorem journal_of_annotateTree (s : Setting) (t : Tree) :
    (s.annotateTree t).2 = s.journalOf (s.upToFault t.body.nodes) := by
  rw [← journal_visits, ← annotate_visits t.body true]
  unfold annotateTree
  cases s.annotate true t.body .empty with
  | ok r => rfl
  | error halt => rfl

theorem journal_of_renderTree (s : Setting) (t : Tree) :
    (s.renderTree t).2 = s.journalOf (s.upToFault (s.shown t.body)) := by
  rw [← journal_visits, ← render_visits t.body (Progress.empty_faithful s)]
  unfold renderTree
  cases s.render t.body .empty with
  | ok r => rfl
  | error halt => rfl

theorem fault?_of_item? {node : Node} {item : Item} (h : s.item? node = some item) :
    node.opening?.bind s.fault? = none := by
  cases node with
  | root span children => rfl
  | text i content span => rfl
  | «variable» i key span => rfl
  | block i o span consequent elseSpan alternate =>
      obtain ⟨outcome, hverdict, -⟩ := item?_block_eq_some_iff.mp h
      rw [Node.opening?, Option.bind_some, ← faultOf_verdict, hverdict]
      rfl

theorem events_of_item? {node : Node} {item : Item} (h : s.item? node = some item) :
    item.events = s.events node := by
  cases node with
  | root span children => cases h
  | text i content span =>
      cases h
      rfl
  | «variable» i key span =>
      cases h
      rfl
  | block i o span consequent elseSpan alternate =>
      obtain ⟨outcome, hverdict, rfl⟩ := item?_block_eq_some_iff.mp h
      simp only [events, reports, Node.opening?, Option.bind_some, undecided?, hverdict,
        Item.events]
      cases outcome.error with
      | none => rfl
      | some e => rfl

theorem upToFault_of_items {nodes : List Node} {items : List Item}
    (h : nodes.map s.item? = items.map some) : s.upToFault nodes = nodes := by
  induction nodes generalizing items with
  | nil => rfl
  | cons node nodes ih =>
      cases items with
      | nil => cases h
      | cons item items =>
          obtain ⟨hhere, hrest⟩ := List.cons.inj h
          rw [upToFault, fault?_of_item? hhere, ih hrest]
          rfl

theorem journalOf_items {nodes : List Node} {items : List Item}
    (h : nodes.map s.item? = items.map some) :
    s.journalOf (s.upToFault nodes) =
      ⟨(Text.distinct (items.flatMap Item.keys)).flatMap s.scope.coercions,
        items.flatMap Item.events⟩ := by
  rw [upToFault_of_items h, journalOf, flatMap_of_item? (fun _ _ => keys_of_item?) h,
    flatMap_of_item? (fun _ _ => events_of_item?) h]

theorem keys_asVisible (item : Item) : item.asVisible.keys = item.keys := by
  cases item <;> rfl

theorem events_asVisible (item : Item) : item.asVisible.events = item.events := by
  cases item <;> rfl

/-- Annotating and rendering report what comes of the nodes they go through, all or only those that
are shown, up to the first whose condition misreads a numeral. If the annotated tree is had, then
these are its nodes and its visible nodes: each key is reported on once, where it first comes, and
each block is reported whose condition could not be decided. -/
theorem journals_follow_nodes (s : Setting) (t : Tree) :
    (s.annotateTree t).2 = s.journalOf (s.upToFault t.body.nodes) ∧
    (s.renderTree t).2 = s.journalOf (s.upToFault (s.shown t.body)) ∧
    ((∃ p, (s.annotateTree t).1 = .ok p) ↔ ∀ o ∈ t.body.openings, s.fault? o = none) ∧
    ∀ p, (s.annotateTree t).1 = .ok p →
      let visible := p.children.walk.filter Item.visible
      let shownKeys := Text.distinct (visible.flatMap Item.keys)
      (s.annotateTree t).2 =
        ⟨p.children.keys.flatMap s.scope.coercions, p.children.walk.flatMap Item.events⟩ ∧
      (s.renderTree t).2 = ⟨shownKeys.flatMap s.scope.coercions, visible.flatMap Item.events⟩ ∧
      p.children.keys.Nodup ∧ shownKeys.Nodup ∧ shownKeys ⊆ p.children.keys := by
  refine ⟨s.journal_of_annotateTree t, s.journal_of_renderTree t, s.annotateTree_isOk_iff t, ?_⟩
  intro p hp visible shownKeys
  obtain ⟨-, hannotated⟩ := (annotateTree_ok_iff t p).mp hp
  have hall := journalOf_items (nodes_of_annotated hannotated)
  simp only [List.flatMap_map, keys_asVisible, events_asVisible] at hall
  have hshown := journalOf_items (shown_of_annotated hannotated)
  have hsub : shownKeys ⊆ p.children.keys := by
    intro key hkey
    obtain ⟨item, hitem, hkey⟩ := List.mem_flatMap.mp (Text.mem_distinct_iff.mp hkey)
    obtain ⟨hwalk, -⟩ := List.mem_filter.mp hitem
    exact Text.mem_distinct_iff.mpr (List.mem_flatMap.mpr ⟨item, hwalk, hkey⟩)
  exact ⟨(s.journal_of_annotateTree t).trans hall, (s.journal_of_renderTree t).trans hshown,
    Text.distinct_nodup _, Text.distinct_nodup _, hsub⟩

theorem journals_follow_nodes_of_else :
    let t : Tree := ⟨("\x7b\x7bx\x7d\x7d\x7b\x7b#if (gt y \"5\")\x7d\x7d\x7b\x7bz\x7d\x7d" ++
        "\x7b\x7belse\x7d\x7d\x7b\x7bx\x7d\x7d\x7b\x7b/if\x7d\x7d").toList,
      .variable 1 ['x'] ⟨0, 5⟩
        (.block 2 ⟨.ifBlock, ['y'], false, some ⟨['g', 't'], some ['5'], none⟩⟩ ⟨5, 48⟩
          (.variable 3 ['z'] ⟨23, 28⟩ .nil) (some ⟨28, 36⟩) true (.variable 4 ['x'] ⟨36, 41⟩ .nil)
          .nil)⟩
    let s : Setting := ⟨⟨[(['x'], .dict []), (['y'], .text ['?']), (['z'], .dict [])],
      [(['z'], .plain ['z'] ['Z'])], .comma⟩, .builtin⟩
    Tree.parse 1 t.source = .ok t ∧ (∃ p, (s.annotateTree t).1 = .ok p) ∧
    (s.annotateTree t).2 =
      ⟨[.unsupported "dict".toList none, .unsupported "dict".toList (some ['z'])],
        [.undecided ['y'] (.notANumber ['?'])]⟩ ∧
    (s.renderTree t).2 =
      ⟨[.unsupported "dict".toList none], [.undecided ['y'] (.notANumber ['?'])]⟩ := by
  intro t s
  have hparse : Tree.parse 1 t.source = .ok t := by decide +kernel
  obtain ⟨-, -, -, hjournals⟩ := journals_follow_nodes s t
  obtain ⟨hannotate, hrender, -⟩ := hjournals _ rfl
  exact ⟨hparse, ⟨_, rfl⟩, hannotate, hrender⟩

theorem hidden_block_silences_annotation :
    let t : Tree := ⟨("\x7b\x7b#if a\x7d\x7d\x7b\x7b#if (gt n \"5\")\x7d\x7dt" ++
        "\x7b\x7b/if\x7d\x7d\x7b\x7b/if\x7d\x7d\x7b\x7bx\x7d\x7d").toList,
      .block 1 ⟨.ifBlock, ['a'], false, none⟩ ⟨0, 42⟩
        (.block 2 ⟨.ifBlock, ['n'], false, some ⟨['g', 't'], some ['5'], none⟩⟩ ⟨9, 35⟩
          (.text 3 ['t'] ⟨27, 28⟩ .nil) none false .nil .nil)
        none false .nil (.variable 4 ['x'] ⟨42, 47⟩ .nil)⟩
    let s : Setting :=
      ⟨⟨[(['n'], .text ['\x1c', '2']), (['x'], .dict [])], [], .comma⟩, .builtin⟩
    Tree.parse 2 t.source = .ok t ∧
    (s.renderTree t).2.coercions = [.unsupported "dict".toList none] ∧
    (s.annotateTree t).2.coercions = [] := by
  intro t s
  have hparse : Tree.parse 2 t.source = .ok t := by decide +kernel
  have hrender : (s.renderTree t).2.coercions = [.unsupported "dict".toList none] := by
    decide +kernel
  have hannotate : (s.annotateTree t).2.coercions = [] := by decide +kernel
  exact ⟨hparse, hrender, hannotate⟩

end Setting

end PromptTemplate
