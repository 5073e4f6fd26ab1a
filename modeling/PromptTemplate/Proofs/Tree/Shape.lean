import PromptTemplate.Proofs.Evaluation.Mirror
import PromptTemplate.Proofs.Tree.Slots

namespace PromptTemplate

namespace Tree

variable {t : Tree} {ts : List Token}

theorem walk_ids (h : Body.Built 1 ts t.body) {s : Setting} {p : Preview}
    (hp : (s.annotateTree t).1 = .ok p) :
    p.children.walk.map Annotated.Item.id = List.range' 1 (t.nodes.length - 1) := by
  have hwalk := congrArg (List.map Prod.fst) (Setting.walk_of_annotateTree hp).2
  rw [← ids_body_nodes h]
  simpa [Function.comp_def] using hwalk

/-- Before the last token the empty slots are those of the root and of the open blocks. In the end
each slot holds the node of its number, each but the root is named once, by a node before it, and
following the numbers from the root gives the tokens back, spans aside, and the nodes in their
order. The tree that is read off the slots has these nodes, and its annotation is walked in this
order too. It cannot be had only if a condition misreads a numeral, and so without values it always
can. -/
theorem nodes_form_tree {limit : Int} {ts : List Token} {source : Text}
    {slots : Array (Option Node)} (h : Arena.parse limit ts source = .ok slots) :
    (∀ before after, ts = before ++ after → ∃ a, Arena.run limit .start before = .ok a ∧
      ∀ i, a.slots[i]? = some none ↔ i = Node.rootId ∨ i ∈ a.frames.map Frame.id) ∧
    ∃ nodes : List Node, slots = (nodes.map some).toArray ∧
      (∀ i < nodes.length, ∃ node, nodes[i]? = some node ∧ node.id = i) ∧
      (∀ i, (nodes.flatMap Node.children).count i = if 0 < i ∧ i < nodes.length then 1 else 0) ∧
      (∀ node ∈ nodes, ∀ i ∈ node.children, node.id < i) ∧
      (∃ children, nodes[Node.rootId]? = some (.root ⟨0, source.length⟩ children) ∧
        ∀ out order, Node.Reads nodes children out order ↔
          out = ts.map Token.bare ∧ order = List.range' 1 (nodes.length - 1)) ∧
      ∃ t : Tree, t.source = source ∧ Body.ofTokens limit ts source = .ok t.body ∧
        t.nodes = nodes ∧
        (∀ (s : Setting) p, (s.annotateTree t).1 = .ok p →
          p.children.walk.map Annotated.Item.id = List.range' 1 (nodes.length - 1)) ∧
        (∀ s : Setting, (∃ p, (s.annotateTree t).1 = .ok p) ↔
          ∀ o ∈ t.body.openings, s.fault? o = none) ∧
        ∀ operators format, ∃ p, ((Setting.unset operators format).annotateTree t).1 = .ok p := by
  rw [Arena.parse_eq] at h
  cases hparse : Draft.parse limit ts with
  | error e => simp [hparse, Except.map] at h
  | ok b =>
      obtain rfl : ((Tree.mk source b).nodes.map some).toArray = slots := by
        simpa [hparse, Except.map] using h
      let t : Tree := ⟨source, b⟩
      have hbuilt : Body.Built 1 ts t.body := Draft.built_of_parse hparse
      refine ⟨?_, t.nodes, rfl, ?_, count_children hbuilt,
        fun node hnode i hi => lt_child hbuilt hnode hi, ⟨_, rfl, fun out order => ⟨?_, ?_⟩⟩,
        t, rfl, (Body.ofTokens_eq_parse limit ts source).trans hparse, rfl,
        fun s p hp => walk_ids hbuilt hp, fun s => Setting.annotateTree_isOk_iff s t,
        Setting.annotateTree_unset t⟩
      · rintro before after rfl
        obtain ⟨d, hrun⟩ := Draft.exists_run_of_parse hparse
        have hsound : d.Sound := Draft.run_sound Draft.sound_start hrun
        refine ⟨d.arena, ?_, Draft.empty_slots hsound⟩
        have harena : Arena.run limit .start before = (Draft.run limit .start before).map _ :=
          Draft.run_arena Draft.sound_start before
        rwa [hrun] at harena
      · intro i hi
        refine ⟨t.nodes[i], List.getElem?_eq_getElem hi, ?_⟩
        have hid := congrArg (·[i]?) (ids_nodes hbuilt)
        simpa [hi] using hid
      · intro hreads
        exact hreads.unique (reads hbuilt)
      · rintro ⟨rfl, rfl⟩
        exact reads hbuilt

theorem nodes_form_tree_of_else :
    let source :=
      "\x7b\x7b#if a\x7d\x7dx\x7b\x7belse\x7d\x7d\x7b\x7bb\x7d\x7d\x7b\x7b/if\x7d\x7d".toList
    let tokens : List Token :=
      [.tag (.opening ⟨.ifBlock, ['a'], false, none⟩) ⟨0, 9⟩, .text ['x'] ⟨9, 10⟩,
        .tag .otherwise ⟨10, 18⟩, .tag (.variable ['b']) ⟨18, 23⟩,
        .tag (.closing .ifBlock) ⟨23, 30⟩]
    let nodes : List Node :=
      [.root ⟨0, 30⟩ [1],
        .block 1 ⟨.ifBlock, ['a'], false, none⟩ ⟨0, 30⟩ [2] (some ⟨10, 18⟩) (some [3]),
        .text 2 ['x'] ⟨9, 10⟩, .variable 3 ['b'] ⟨18, 23⟩]
    Token.tokenize source = tokens ∧
      Arena.parse 1 tokens source = .ok (nodes.map some).toArray ∧
      (nodes.flatMap Node.children).count 3 = 1 ∧
      Node.Reads nodes [1] (tokens.map Token.bare) [1, 2, 3] := by
  intro source tokens nodes
  have htokens : Token.tokenize source = tokens := by decide +kernel
  have hparse : Arena.parse 1 tokens source = .ok (nodes.map some).toArray := rfl
  obtain ⟨-, found, hslots, -, hcount, -, ⟨children, hroot, hreads⟩, -⟩ := nodes_form_tree hparse
  have hsame : nodes.map some = found.map some := congrArg Array.toList hslots
  obtain rfl : nodes = found := (List.map_inj_right fun _ _ => Option.some.inj).mp hsame
  cases hroot
  exact ⟨htokens, hparse, hcount 3, (hreads _ _).mpr ⟨rfl, rfl⟩⟩

end Tree

end PromptTemplate
