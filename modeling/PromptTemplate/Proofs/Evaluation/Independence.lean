import Mathlib.Data.List.Basic
import PromptTemplate.Proofs.Evaluation.Source

namespace PromptTemplate

structure Scope.AgreeAt (s s' : Scope) (key : Text) : Prop where
  value : (s.context.get? key).getD .none = (s'.context.get? key).getD .none
  definition : s.definition? key = s'.definition? key

namespace Scope

variable {s s' : Scope} {key : Text}

theorem value?_eq (s : Scope) (key : Text) :
    s.value? key =
      match (s.context.get? key).getD .none with
      | .none => ((s.definition? key).bind (·.default)).map fun p => (p.toValue, .default)
      | v => some (v, .explicit) := by
  unfold value?
  cases s.context.get? key with
  | none => rfl
  | some v => cases v <;> rfl

theorem AgreeAt.value? (h : s.AgreeAt s' key) : s.value? key = s'.value? key := by
  rw [value?_eq, value?_eq, h.value, h.definition]

theorem AgreeAt.resolve (h : s.AgreeAt s' key) (hformat : s.format = s'.format) :
    s.resolve key = s'.resolve key := by
  unfold Scope.resolve
  rw [h.value?, h.definition, hformat]

end Scope

namespace Setting

open Annotated

def supplied (s : Setting) (context : Assoc Value) (index : Index) : Setting :=
  ⟨⟨context, index, s.scope.format⟩, s.operators⟩

structure AgreeOn (s s' : Setting) (keys : List Text) : Prop where
  operators : s.operators = s'.operators
  format : s.scope.format = s'.scope.format
  scope : ∀ key ∈ keys, s.scope.AgreeAt s'.scope key

variable {s s' : Setting}

theorem AgreeOn.mono {keys keys' : List Text} (h : s.AgreeOn s' keys) (hsub : keys' ⊆ keys) :
    s.AgreeOn s' keys' :=
  ⟨h.operators, h.format, fun key hkey => h.scope key (hsub hkey)⟩

theorem AgreeOn.resolve {keys : List Text} (h : s.AgreeOn s' keys) {key : Text}
    (hkey : key ∈ keys) : s.scope.resolve key = s'.scope.resolve key :=
  (h.scope key hkey).resolve h.format

theorem AgreeOn.same {keys : List Text} (h : s.AgreeOn s' keys) : s.SameOn s' keys :=
  ⟨h.operators, fun _ hkey => congrArg Resolved.unsourced (h.resolve hkey)⟩

theorem AgreeOn.verdict {o : Opening} (h : s.AgreeOn s' o.keys) :
    s.verdict o = s'.verdict o :=
  h.same.verdict

theorem AgreeOn.item? {node : Node} (h : s.AgreeOn s' node.keys) :
    s.item? node = s'.item? node := by
  cases node with
  | root span children => rfl
  | text i content span => rfl
  | «variable» i key span =>
      have hkey : key ∈ Node.keys (.variable i key span) := List.mem_singleton_self key
      have hlabel : s.label key = s'.label key := by
        unfold label
        rw [(h.scope key hkey).definition]
      simp only [Setting.item?, hlabel, h.resolve hkey]
  | block i o span consequent elseSpan alternate =>
      have hverdict : s.verdict o = s'.verdict o := AgreeOn.verdict h
      simp only [Setting.item?, hverdict]

theorem shown_of_agree {b : Body} (h : s.AgreeOn s' ((s.shown b).flatMap Node.keys)) :
    s'.shown b = s.shown b ∧ s'.rendered b = s.rendered b :=
  h.same.shown

theorem keys_of_visible {t : Tree} {p : Preview} (hp : (s.annotateTree t).1 = .ok p) :
    p.children.visible.flatMap Item.keys = (s.shown t.body).flatMap Node.keys := by
  obtain ⟨-, hannotated⟩ := (annotateTree_ok_iff t p).mp hp
  exact flatMap_of_item? (fun _ _ => keys_of_item?) (shown_of_annotated hannotated)

theorem mem_keys_of_visible {t : Tree} {p : Preview} (hp : (s.annotateTree t).1 = .ok p)
    {item : Item} (hitem : item ∈ p.children.walk) (hvisible : item.visible) {key : Text}
    (hkey : key ∈ item.keys) : key ∈ (s.shown t.body).flatMap Node.keys := by
  rw [← keys_of_visible hp]
  exact List.mem_flatMap.mpr ⟨item, List.mem_filter.mpr ⟨hitem, hvisible⟩, hkey⟩

theorem AgreeOn.visible_eq {t : Tree} {p q : Preview}
    (h : s.AgreeOn s' ((s.shown t.body).flatMap Node.keys))
    (hp : (s.annotateTree t).1 = .ok p) (hq : (s'.annotateTree t).1 = .ok q) :
    q.children.visible = p.children.visible := by
  obtain ⟨-, hpAnnotated⟩ := (annotateTree_ok_iff t p).mp hp
  obtain ⟨-, hqAnnotated⟩ := (annotateTree_ok_iff t q).mp hq
  have hitem : ∀ node ∈ s.shown t.body, s'.item? node = s.item? node := by
    intro node hnode
    have hkeys : node.keys ⊆ (s.shown t.body).flatMap Node.keys :=
      fun key hkey => List.mem_flatMap.mpr ⟨node, hnode, hkey⟩
    exact (AgreeOn.item? (h.mono hkeys)).symm
  apply (List.map_inj_right fun _ _ => Option.some.inj).mp
  calc q.children.visible.map some
      = (s'.shown t.body).map s'.item? := (shown_of_annotated hqAnnotated).symm
    _ = (s.shown t.body).map s'.item? := by rw [(shown_of_agree h).1]
    _ = (s.shown t.body).map s.item? := List.map_congr_left hitem
    _ = p.children.visible.map some := shown_of_annotated hpAnnotated

theorem annotateTree_isOk_of_hidden {t : Tree} {p : Preview} (hp : (s.annotateTree t).1 = .ok p)
    (h : s.AgreeOn s' ((s.shown t.body).flatMap Node.keys)) :
    (∃ q, (s'.annotateTree t).1 = .ok q) ↔
      ∀ item ∈ p.children.walk, item.visible = false → ∀ o ∈ item.opening?, s'.fault? o = none := by
  obtain ⟨-, hannotated⟩ := (annotateTree_ok_iff t p).mp hp
  rw [annotateTree_isOk_iff, ← openings_of_annotated hannotated]
  constructor
  · intro hnone item hitem _ o ho
    exact hnone o (List.mem_filterMap.mpr ⟨item, hitem, ho⟩)
  · intro hhidden o ho
    obtain ⟨item, hitem, hopening⟩ := List.mem_filterMap.mp ho
    cases hvisible : item.visible with
    | false => exact hhidden item hitem hvisible o hopening
    | true =>
        have hkeys : o.keys ⊆ (s.shown t.body).flatMap Node.keys := by
          intro key hkey
          rw [← keys_of_opening? hopening] at hkey
          exact mem_keys_of_visible hp hitem hvisible hkey
        have hopenings : o ∈ t.body.openings := by
          rw [← openings_of_annotated hannotated]
          exact ho
        rw [← faultOf_verdict, ← AgreeOn.verdict (h.mono hkeys), faultOf_verdict]
        exact (annotateTree_isOk_iff s t).mp ⟨p, hp⟩ o hopenings

/-- If two choices of values and definitions do the same for the keys of the nodes that are visible
with the first, then both render to the same text, and every annotation with the second has the same
visible nodes with the same values. There is one unless a condition in a hidden branch misreads a
numeral. -/
theorem hidden_keys_leave_text (s : Setting) (t : Tree) (context : Assoc Value) (index : Index)
    {p : Preview} (hp : (s.annotateTree t).1 = .ok p)
    (hagree : ∀ item ∈ p.children.walk, item.visible → ∀ key ∈ item.keys,
      s.scope.AgreeAt (s.supplied context index).scope key) :
    ((s.supplied context index).renderTree t).1 = (s.renderTree t).1 ∧
    (s.renderTree t).1 = .ok p.children.visibleText ∧
    (∀ q, ((s.supplied context index).annotateTree t).1 = .ok q →
      q.children.walk.filter Item.visible = p.children.walk.filter Item.visible) ∧
    ((∃ q, ((s.supplied context index).annotateTree t).1 = .ok q) ↔
      ∀ item ∈ p.children.walk, item.visible = false →
        ∀ o ∈ item.opening?, (s.supplied context index).fault? o = none) := by
  have hshown : s.AgreeOn (s.supplied context index) ((s.shown t.body).flatMap Node.keys) := by
    refine ⟨rfl, rfl, fun key hkey => ?_⟩
    rw [← keys_of_visible hp] at hkey
    obtain ⟨item, hitem, hkey⟩ := List.mem_flatMap.mp hkey
    obtain ⟨hwalk, hvisible⟩ := List.mem_filter.mp hitem
    exact hagree item hwalk hvisible key hkey
  refine ⟨?_, renderTree_of_annotateTree hp, fun q hq => hshown.visible_eq hp hq,
    annotateTree_isOk_of_hidden hp hshown⟩
  rw [renderTree_of_annotateTree hp, renderTree_ok_iff, (shown_of_agree hshown).2,
    ← renderTree_ok_iff]
  exact renderTree_of_annotateTree hp

theorem hidden_keys_leave_text_of_else :
    let t : Tree := ⟨("\x7b\x7b#if a\x7d\x7d\x7b\x7bb\x7d\x7d\x7b\x7belse\x7d\x7d" ++
        "\x7b\x7bc\x7d\x7d\x7b\x7b/if\x7d\x7d").toList,
      .block 1 ⟨.ifBlock, ['a'], false, none⟩ ⟨0, 34⟩
        (.variable 2 ['b'] ⟨9, 14⟩ .nil) (some ⟨14, 22⟩) true
        (.variable 3 ['c'] ⟨22, 27⟩ .nil) .nil⟩
    let s : Setting := ⟨⟨[(['a'], .int 1), (['b'], .text ['x'])], [], .comma⟩, .builtin⟩
    let s' := s.supplied [(['c'], .list []), (['b'], .text ['x']), (['a'], .int 1)]
      [(['c'], .plain ['c'] ['C'])]
    Tree.parse 1 t.source = .ok t ∧
    (∃ p, (s.annotateTree t).1 = .ok p ∧ ∀ item ∈ p.children.walk, item.visible →
      ∀ key ∈ item.keys, s.scope.AgreeAt s'.scope key) ∧
    (s'.renderTree t).1 = (s.renderTree t).1 := by
  intro t s s'
  have hparse : Tree.parse 1 t.source = .ok t := by decide +kernel
  have hagree : ∀ p, (s.annotateTree t).1 = .ok p → ∀ item ∈ p.children.walk, item.visible →
      ∀ key ∈ item.keys, s.scope.AgreeAt s'.scope key := by
    intro p hp item hitem hvisible key hkey
    have hmem : key ∈ [['a'], ['b']] := mem_keys_of_visible hp hitem hvisible hkey
    rcases List.mem_pair.mp hmem with rfl | rfl
    · exact ⟨rfl, rfl⟩
    · exact ⟨rfl, rfl⟩
  obtain ⟨p, hp⟩ : ∃ p, (s.annotateTree t).1 = .ok p := ⟨_, rfl⟩
  exact ⟨hparse, ⟨p, hp, hagree p hp⟩, (hidden_keys_leave_text s t _ _ hp (hagree p hp)).1⟩

theorem hidden_key_stops_annotation :
    let t : Tree := ⟨("\x7b\x7b#if a\x7d\x7d\x7b\x7b#if (gt n \"5\")\x7d\x7dx" ++
        "\x7b\x7b/if\x7d\x7d\x7b\x7b/if\x7d\x7d").toList,
      .block 1 ⟨.ifBlock, ['a'], false, none⟩ ⟨0, 42⟩
        (.block 2 ⟨.ifBlock, ['n'], false, some ⟨['g', 't'], some ['5'], none⟩⟩ ⟨9, 35⟩
          (.text 3 ['x'] ⟨27, 28⟩ .nil) none false .nil .nil)
        none false .nil .nil⟩
    let s : Setting := ⟨⟨[(['n'], .text ['1'])], [], .comma⟩, .builtin⟩
    let s' := s.supplied [(['n'], .text ['\x1c', '2'])] []
    Tree.parse 2 t.source = .ok t ∧
    (∃ p, (s.annotateTree t).1 = .ok p ∧ ∀ item ∈ p.children.walk, item.visible →
      ∀ key ∈ item.keys, s.scope.AgreeAt s'.scope key) ∧
    ¬ ∃ q, (s'.annotateTree t).1 = .ok q := by
  intro t s s'
  have hparse : Tree.parse 2 t.source = .ok t := by decide +kernel
  obtain ⟨p, hp⟩ : ∃ p, (s.annotateTree t).1 = .ok p := ⟨_, rfl⟩
  refine ⟨hparse, ⟨p, hp, ?_⟩, ?_⟩
  · intro item hitem hvisible key hkey
    have hmem : key ∈ [['a']] := mem_keys_of_visible hp hitem hvisible hkey
    rw [List.mem_singleton.mp hmem]
    exact ⟨rfl, rfl⟩
  · rw [annotateTree_isOk_iff]
    intro hnone
    have hfault :
        s'.fault? ⟨.ifBlock, ['n'], false, some ⟨['g', 't'], some ['5'], none⟩⟩ ≠ none := by
      decide +kernel
    exact hfault (hnone _ (by decide))

end Setting

end PromptTemplate
