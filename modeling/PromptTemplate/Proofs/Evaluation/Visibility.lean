import PromptTemplate.Preview
import PromptTemplate.Proofs.Tree.Layout

namespace PromptTemplate

namespace Annotated

def Item.shown : Item → Text
  | .text _ content _ _ => content
  | .variable _ _ r _ _ => r.display
  | .block .. => []

def collected (items : List Item) : Text :=
  (items.filter Item.visible).flatMap Item.shown

theorem collected_cons (item : Item) (items : List Item) :
    collected (item :: items) = (if item.visible then item.shown else []) ++ collected items := by
  cases h : item.visible <;> simp [collected, h]

theorem collected_append (items others : List Item) :
    collected (items ++ others) = collected items ++ collected others := by
  simp [collected]

def placed (around : List Bool) : Annotated → List (List Bool × Item)
  | .nil => []
  | .text i c s v rest => (around, .text i c s v) :: placed around rest
  | .variable i l r s v rest => (around, .variable i l r s v) :: placed around rest
  | .block i o s out b v f c e h g d rest =>
      (around, .block i o s out b v f e h g) ::
        (placed (f :: around) c ++ placed (g :: around) d ++ placed around rest)

theorem walk_of_placed (a : Annotated) (around : List Bool) :
    (a.placed around).map Prod.snd = a.walk := by
  induction a generalizing around with
  | nil => rfl
  | text i c s v rest ih => simp [placed, walk, ih]
  | «variable» i l r s v rest ih => simp [placed, walk, ih]
  | block i o s out b v f c e h g d rest ihc ihd ih => simp [placed, walk, ihc, ihd, ih]

inductive Lit : Bool → Annotated → Prop
  | nil {v : Bool} : Lit v .nil
  | text {v : Bool} {i : Nat} {content : Text} {span : Span} {rest : Annotated} :
      Lit v rest → Lit v (.text i content span v rest)
  | variable {v : Bool} {i : Nat} {label : Text} {r : Resolved} {span : Span} {rest : Annotated} :
      Lit v rest → Lit v (.variable i label r span v rest)
  | block {v : Bool} {i : Nat} {o : Opening} {span : Span} {outcome : Outcome}
      {c rest : Annotated} :
      Lit (v && outcome.shows o) c → Lit v rest →
      Lit v (.block i o span outcome (outcome.shows o) v (outcome.shows o) c none false false .nil
        rest)
  | blockElse {v : Bool} {i : Nat} {o : Opening} {span e : Span} {outcome : Outcome}
      {c d rest : Annotated} :
      Lit (v && outcome.shows o) c → Lit (v && !outcome.shows o) d → Lit v rest →
      Lit v (.block i o span outcome (outcome.shows o) v (outcome.shows o) c (some e) true
        (!outcome.shows o) d rest)

namespace Lit

variable {v : Bool} {a : Annotated}

theorem visible_iff (h : Lit v a) {around : List Bool} (hv : v = around.all id) {flags : List Bool}
    {item : Item} (hitem : (flags, item) ∈ a.placed around) : item.visible = flags.all id := by
  induction h generalizing around with
  | nil => simp [placed] at hitem
  | text _ ih =>
      rcases List.mem_cons.mp hitem with hhere | hrest
      · cases hhere
        exact hv
      · exact ih hv hrest
  | «variable» _ ih =>
      rcases List.mem_cons.mp hitem with hhere | hrest
      · cases hhere
        exact hv
      · exact ih hv hrest
  | block _ _ ihc ih =>
      simp only [placed, List.mem_cons, List.mem_append, List.not_mem_nil, or_false] at hitem
      rcases hitem with hhere | hc | hrest
      · cases hhere
        exact hv
      · exact ihc (by simp [hv, Bool.and_comm]) hc
      · exact ih hv hrest
  | blockElse _ _ _ ihc ihd ih =>
      simp only [placed, List.mem_cons, List.mem_append] at hitem
      rcases hitem with hhere | (hc | hd) | hrest
      · cases hhere
        exact hv
      · exact ihc (by simp [hv, Bool.and_comm]) hc
      · exact ihd (by simp [hv, Bool.and_comm]) hd
      · exact ih hv hrest

theorem block_flags (h : Lit v a) {i : Nat} {o : Opening} {span : Span} {outcome : Outcome}
    {resolved visible first hasAlternate second : Bool} {e : Option Span}
    (hitem : Item.block i o span outcome resolved visible first e hasAlternate second ∈ a.walk) :
    first = (outcome.value != o.inverted) ∧ resolved = first ∧ hasAlternate = e.isSome ∧
      second = (e.isSome && !first) := by
  induction h with
  | nil => simp [walk] at hitem
  | text _ ih => exact ih (by simpa [walk] using hitem)
  | «variable» _ ih => exact ih (by simpa [walk] using hitem)
  | block _ _ ihc ih =>
      simp only [walk, List.mem_cons, List.mem_append, List.not_mem_nil, or_false] at hitem
      rcases hitem with hhere | hc | hrest
      · cases hhere
        exact ⟨rfl, rfl, rfl, rfl⟩
      · exact ihc hc
      · exact ih hrest
  | blockElse _ _ _ ihc ihd ih =>
      simp only [walk, List.mem_cons, List.mem_append] at hitem
      rcases hitem with hhere | (hc | hd) | hrest
      · cases hhere
        exact ⟨rfl, rfl, rfl, rfl⟩
      · exact ihc hc
      · exact ihd hd
      · exact ih hrest

theorem collected_walk (h : Lit v a) : collected a.walk = if v then a.visibleText else [] := by
  induction h with
  | nil => simp [walk, visibleText, collected]
  | @text v i content span rest _ ih =>
      rw [walk, collected_cons, ih]
      cases v <;> rfl
  | @«variable» v i label r span rest _ ih =>
      rw [walk, collected_cons, ih]
      cases v <;> rfl
  | @block v i o span outcome c rest _ _ ihc ih =>
      rw [walk, collected_cons, collected_append, collected_append, ihc, ih]
      cases v <;> cases hfirst : outcome.shows o <;>
        simp [visibleText, Item.visible, Item.shown, walk, collected]
  | @blockElse v i o span e outcome c d rest _ _ _ ihc ihd ih =>
      rw [walk, collected_cons, collected_append, collected_append, ihc, ihd, ih]
      cases v <;> cases hfirst : outcome.shows o <;> simp [visibleText, Item.visible, Item.shown]

end Lit

end Annotated

namespace Exported

def children : Value → List Value
  | .dict entries =>
      match Assoc.get? "children".toList entries with
      | some (.list row) => row
      | _ => []
  | _ => []

def childrenAt (name : Text) (node : Assoc Value) : List Value :=
  children ((node.get? name).getD .none)

theorem sizeOf_children (v : Value) : sizeOf (children v) ≤ sizeOf v := by
  have hpos : 1 ≤ sizeOf v := by
    cases v <;> simp +arith
  unfold children
  split
  · rename_i entries
    split
    · rename_i row hrow
      have hmem := List.sizeOf_lt_of_mem (Assoc.mem_of_get?_eq_some hrow)
      simp only [Prod.mk.sizeOf_spec, Value.list.sizeOf_spec, Value.dict.sizeOf_spec] at hmem ⊢
      omega
    · exact hpos
  · exact hpos

theorem sizeOf_childrenAt (name : Text) (node : Assoc Value) :
    sizeOf (childrenAt name node) ≤ sizeOf node := by
  refine Nat.le_trans (sizeOf_children _) ?_
  cases h : node.get? name with
  | none => cases node <;> simp +arith
  | some v =>
      have hmem := List.sizeOf_lt_of_mem (Assoc.mem_of_get?_eq_some h)
      simp only [Prod.mk.sizeOf_spec] at hmem
      simp only [Option.getD_some]
      omega

def preorder : List Value → List (Assoc Value)
  | [] => []
  | .dict node :: rest =>
      node :: (preorder (childrenAt "consequent".toList node) ++
        preorder (childrenAt "alternate".toList node) ++ preorder rest)
  | _ :: rest => preorder rest
termination_by row => sizeOf row
decreasing_by
  all_goals simp only [List.cons.sizeOf_spec, Value.dict.sizeOf_spec]
  · have := sizeOf_childrenAt "consequent".toList node
    omega
  · have := sizeOf_childrenAt "alternate".toList node
    omega
  · omega
  · omega

theorem preorder_nil : preorder [] = [] := by
  rw [preorder]

theorem preorder_dict {node : Assoc Value} {c d : List Value}
    (hc : childrenAt "consequent".toList node = c) (hd : childrenAt "alternate".toList node = d)
    (rest : List Value) :
    preorder (.dict node :: rest) = node :: (preorder c ++ preorder d ++ preorder rest) := by
  rw [preorder, hc, hd]

def textAt (name : Text) (node : Assoc Value) : Text :=
  match node.get? name with
  | some (.text t) => t
  | _ => []

def flag? (name : Text) (node : Assoc Value) : Option Bool :=
  match node.get? name with
  | some (.bool b) => some b
  | _ => none

def shown (node : Assoc Value) : Text :=
  if textAt "type".toList node = "text".toList then textAt "text".toList node
  else if textAt "type".toList node = "variable".toList then
    textAt "displayed_value".toList node
  else []

def taken? (name : Text) (node : Assoc Value) : Option Bool :=
  match node.get? name with
  | some (.dict entries) => flag? "taken".toList entries
  | _ => none

def Decided (node : Assoc Value) : Prop :=
  ∃ value inverted first, first = (value != inverted) ∧
    flag? "condition_value".toList node = some value ∧
    flag? "inverted".toList node = some inverted ∧
    flag? "resolved_condition".toList node = some first ∧
    taken? "consequent".toList node = some first ∧
    (node.get? "alternate".toList = some .none ∨ taken? "alternate".toList node = some !first)

def number? (node : Assoc Value) : Option Int :=
  match node.get? "node_id".toList with
  | some (.int i) => some i
  | _ => none

def told (node : Assoc Value) : Option Int × Option Bool × Text :=
  (number? node, flag? "visible".toList node, shown node)

end Exported

namespace Annotated

open Exported

variable {v : Bool} {a : Annotated}

theorem preorder_text (i : Nat) (content : Text) (span : Span) (v : Bool) (rest : Annotated) :
    ∃ node, preorder (toValues (.text i content span v rest)) = node :: preorder rest.toValues ∧
      textAt "type".toList node = "text".toList ∧
      told node = (some (i : Int), some v, content) := by
  rw [toValues, preorder_dict (c := []) (d := []) rfl rfl, preorder_nil]
  exact ⟨_, rfl, rfl, rfl⟩

theorem preorder_variable (i : Nat) (label : Text) (r : Resolved) (span : Span) (v : Bool)
    (rest : Annotated) :
    ∃ node, preorder (toValues (.variable i label r span v rest)) =
        node :: preorder rest.toValues ∧
      textAt "type".toList node = "variable".toList ∧
      told node = (some (i : Int), some v, r.display) := by
  rw [toValues, preorder_dict (c := []) (d := []) rfl rfl, preorder_nil]
  exact ⟨_, rfl, rfl, rfl⟩

theorem preorder_block (i : Nat) (o : Opening) (span : Span) (outcome : Outcome) (v : Bool)
    (c rest : Annotated) :
    ∃ node,
      preorder (toValues (.block i o span outcome (outcome.shows o) v (outcome.shows o) c
        none false false .nil rest)) = node :: (preorder c.toValues ++ preorder rest.toValues) ∧
      Decided node ∧ told node = (some (i : Int), some v, []) := by
  rw [toValues, preorder_dict (c := c.toValues) (d := []) rfl rfl, preorder_nil, List.append_nil]
  exact ⟨_, rfl, ⟨_, _, _, rfl, rfl, rfl, rfl, rfl, .inl rfl⟩, rfl⟩

theorem preorder_blockElse (i : Nat) (o : Opening) (span e : Span) (outcome : Outcome) (v : Bool)
    (c d rest : Annotated) :
    ∃ node, preorder (toValues
        (.block i o span outcome (outcome.shows o) v (outcome.shows o) c (some e) true
          (!outcome.shows o) d rest)) =
          node :: (preorder c.toValues ++ preorder d.toValues ++ preorder rest.toValues) ∧
      Decided node ∧ told node = (some (i : Int), some v, []) := by
  rw [toValues, preorder_dict (c := c.toValues) (d := d.toValues) rfl rfl]
  exact ⟨_, rfl, ⟨_, _, _, rfl, rfl, rfl, rfl, rfl, .inr rfl⟩, rfl⟩

namespace Lit

theorem exported (h : Lit v a) : (preorder a.toValues).map told =
    a.walk.map fun item => (some (item.id : Int), some item.visible, item.shown) := by
  induction h with
  | nil => simp [toValues, preorder_nil, walk]
  | @text v i content span rest _ ih =>
      obtain ⟨node, hnode, -, htold⟩ := preorder_text i content span v rest
      rw [hnode, walk, List.map_cons, List.map_cons, htold, ih]
      rfl
  | @«variable» v i label r span rest _ ih =>
      obtain ⟨node, hnode, -, htold⟩ := preorder_variable i label r span v rest
      rw [hnode, walk, List.map_cons, List.map_cons, htold, ih]
      rfl
  | @block v i o span outcome c rest _ _ ihc ih =>
      obtain ⟨node, hnode, -, htold⟩ := preorder_block i o span outcome v c rest
      simp only [hnode, walk, List.append_nil, List.map_cons, List.map_append, htold, ihc, ih]
      rfl
  | @blockElse v i o span e outcome c d rest _ _ _ ihc ihd ih =>
      obtain ⟨node, hnode, -, htold⟩ := preorder_blockElse i o span e outcome v c d rest
      simp only [hnode, walk, List.map_cons, List.map_append, htold, ihc, ihd, ih]
      rfl

theorem decided (h : Lit v a) {node : Assoc Value} (hnode : node ∈ preorder a.toValues)
    (hblock : textAt "type".toList node = "block".toList) : Decided node := by
  induction h with
  | nil => simp [toValues, preorder_nil] at hnode
  | @text v i content span rest _ ih =>
      obtain ⟨here, hrow, hkind, -⟩ := preorder_text i content span v rest
      rw [hrow] at hnode
      rcases List.mem_cons.mp hnode with rfl | hrest
      · exact absurd (hkind.symm.trans hblock) (by decide)
      · exact ih hrest
  | @«variable» v i label r span rest _ ih =>
      obtain ⟨here, hrow, hkind, -⟩ := preorder_variable i label r span v rest
      rw [hrow] at hnode
      rcases List.mem_cons.mp hnode with rfl | hrest
      · exact absurd (hkind.symm.trans hblock) (by decide)
      · exact ih hrest
  | @block v i o span outcome c rest _ _ ihc ih =>
      obtain ⟨here, hrow, hdecided, -⟩ := preorder_block i o span outcome v c rest
      simp only [hrow, List.mem_cons, List.mem_append] at hnode
      rcases hnode with rfl | hc | hrest
      · exact hdecided
      · exact ihc hc
      · exact ih hrest
  | @blockElse v i o span e outcome c d rest _ _ _ ihc ihd ih =>
      obtain ⟨here, hrow, hdecided, -⟩ := preorder_blockElse i o span e outcome v c d rest
      simp only [hrow, List.mem_cons, List.mem_append] at hnode
      rcases hnode with rfl | (hc | hd) | hrest
      · exact hdecided
      · exact ihc hc
      · exact ihd hd
      · exact ih hrest

theorem exported_collected (h : Lit v a) :
    ((preorder a.toValues).filter (flag? "visible".toList · = some true)).flatMap Exported.shown =
      collected a.walk := by
  have hsame := congrArg (fun row => (row.filter (·.2.1 = some true)).flatMap (·.2.2)) h.exported
  simp only [List.filter_map, List.flatMap_map, Function.comp_def, told, Option.some.injEq,
    Bool.decide_eq_true] at hsame
  exact hsame

end Lit

end Annotated

namespace Setting

variable {s : Setting} {n : Nat} {ts : List Token} {b : Body}

theorem Annotates.lit (hb : Body.Built n ts b) {visible : Bool} {a : Annotated}
    (h : s.Annotates visible b a) : Annotated.Lit visible a := by
  induction hb generalizing visible a with
  | nil =>
      cases h
      exact .nil
  | text _ ih =>
      cases h with
      | text hrest => exact .text (ih hrest)
  | «variable» _ ih =>
      cases h with
      | «variable» hrest => exact .variable (ih hrest)
  | block _ _ ihc ih =>
      cases h with
      | block _ hc hd hrest =>
          cases hd
          simp only [Bool.and_false]
          exact .block (ihc hc) (ih hrest)
  | blockElse _ _ _ ihc ihd ih =>
      cases h with
      | block _ hc hd hrest =>
          simp only [Bool.and_true] at hd ⊢
          exact .blockElse (ihc hc) (ihd hd) (ih hrest)

end Setting

namespace Tree

open Annotated

variable {limit : Int} {source : Text} {t : Tree}

/-- In an annotated tree a node is visible just in case all branches around it are shown. Of the
branches of a block the first is shown where the condition comes out as the block asks, and else the
second, if there is one. The visible nodes, put together, are the text of the shown branches. The
tree written as data lists the same nodes with the same flags, so it gives this text as well. -/
theorem visible_text_of_flags (h : parse limit source = .ok t) (s : Setting) :
    ((∃ p, (s.annotateTree t).1 = .ok p) ↔ ∀ o ∈ t.body.openings, s.fault? o = none) ∧
    ∀ p, (s.annotateTree t).1 = .ok p →
      (p.children.placed []).map Prod.snd = p.children.walk ∧
      (∀ flags item, (flags, item) ∈ p.children.placed [] → item.visible = flags.all id) ∧
      (∀ i o span outcome resolved visible first e hasAlternate second,
        Item.block i o span outcome resolved visible first e hasAlternate second ∈
            p.children.walk →
          first = (outcome.value != o.inverted) ∧ resolved = first ∧ hasAlternate = e.isSome ∧
            second = (e.isSome && !first)) ∧
      collected p.children.walk = p.children.visibleText ∧
      let nodes := Exported.preorder (Exported.children p.toValue)
      nodes.map Exported.number? = p.children.walk.map (fun item => some (item.id : Int)) ∧
      (∀ node ∈ nodes, Exported.textAt "type".toList node = "block".toList →
        Exported.Decided node) ∧
      (nodes.filter (Exported.flag? "visible".toList · = some true)).flatMap Exported.shown =
        p.children.visibleText := by
  obtain ⟨-, hbuilt⟩ := built_of_parse h
  refine ⟨s.annotateTree_isOk_iff t, fun p hp => ?_⟩
  obtain ⟨-, hannotated⟩ := (Setting.annotateTree_ok_iff t p).mp hp
  have hlit : Lit true p.children :=
    (Setting.annotates_of_annotated hannotated).lit hbuilt
  have hcollected : collected p.children.walk = p.children.visibleText := hlit.collected_walk
  refine ⟨p.children.walk_of_placed [], fun flags item => hlit.visible_iff rfl,
    fun i o span outcome resolved visible first e hasAlternate second => hlit.block_flags,
    hcollected, ?_, ?_, ?_⟩
  · have hnumbers := congrArg (List.map Prod.fst) hlit.exported
    simp only [List.map_map] at hnumbers
    exact hnumbers
  · exact fun node => hlit.decided
  · exact hlit.exported_collected.trans hcollected

theorem visible_text_of_flags_nested :
    let source :=
      ("\x7b\x7b#unless a\x7d\x7dx\x7b\x7b#if b\x7d\x7dy\x7b\x7b/if\x7d\x7d\x7b\x7belse\x7d\x7d" ++
        "\x7b\x7b#unless c\x7d\x7dz\x7b\x7b/unless\x7d\x7d\x7b\x7b/unless\x7d\x7d").toList
    ∃ t p, parse 2 source = .ok t ∧
      ((Setting.unset .builtin .comma).annotateTree t).1 = .ok p ∧
      (p.children.placed []).map (fun x => (x.1, x.2.visible)) =
        [([], true), ([true], true), ([true], true), ([false, true], false), ([false], false),
          ([true, false], false)] ∧
      collected p.children.walk = ['x'] := by
  intro source
  have hparse : parse 2 source = .ok ⟨source,
      .block 1 ⟨.unlessBlock, ['a'], true, none⟩ ⟨0, 75⟩
        (.text 2 ['x'] ⟨13, 14⟩
          (.block 3 ⟨.ifBlock, ['b'], false, none⟩ ⟨14, 31⟩ (.text 4 ['y'] ⟨23, 24⟩ .nil)
            none false .nil .nil))
        (some ⟨31, 39⟩) true
        (.block 5 ⟨.unlessBlock, ['c'], true, none⟩ ⟨39, 64⟩ (.text 6 ['z'] ⟨52, 53⟩ .nil)
          none false .nil .nil)
        .nil⟩ := by
    decide +kernel
  obtain ⟨-, hflags⟩ := visible_text_of_flags hparse (Setting.unset .builtin .comma)
  obtain ⟨-, -, -, hcollected, -⟩ := hflags _ rfl
  exact ⟨_, _, hparse, rfl, rfl, hcollected⟩

end Tree

end PromptTemplate
