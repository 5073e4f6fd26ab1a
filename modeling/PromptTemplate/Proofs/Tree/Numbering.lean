import PromptTemplate.Proofs.Tree.Construction
import PromptTemplate.Proofs.Tree.Flatten
import PromptTemplate.Proofs.Tree.Nodes

namespace PromptTemplate

namespace Node

def branches : Node → List (List Nat)
  | .root _ children => [children]
  | .text .. => []
  | .variable .. => []
  | .block _ _ _ consequent _ alternate => consequent :: alternate.toList

def children (n : Node) : List Nat :=
  n.branches.flatten

inductive Reads (nodes : List Node) : List Nat → List (Text ⊕ Tag) → List Nat → Prop
  | nil : Reads nodes [] [] []
  | text {i : Nat} {content : Text} {s : Span} {is order : List Nat} {ts : List (Text ⊕ Tag)} :
      nodes[i]? = some (.text i content s) → Reads nodes is ts order →
      Reads nodes (i :: is) (.inl content :: ts) (i :: order)
  | variable {i : Nat} {key : Text} {s : Span} {is order : List Nat} {ts : List (Text ⊕ Tag)} :
      nodes[i]? = some (.variable i key s) → Reads nodes is ts order →
      Reads nodes (i :: is) (.inr (.variable key) :: ts) (i :: order)
  | block {i : Nat} {o : Opening} {s : Span} {e : Option Span} {is first order₁ order : List Nat}
      {ts₁ ts : List (Text ⊕ Tag)} :
      nodes[i]? = some (.block i o s first e none) → Reads nodes first ts₁ order₁ →
      Reads nodes is ts order →
      Reads nodes (i :: is) (.inr (.opening o) :: ts₁ ++ .inr (.closing o.helper) :: ts)
        (i :: order₁ ++ order)
  | blockElse {i : Nat} {o : Opening} {s : Span} {e : Option Span}
      {is first second order₁ order₂ order : List Nat} {ts₁ ts₂ ts : List (Text ⊕ Tag)} :
      nodes[i]? = some (.block i o s first e (some second)) → Reads nodes first ts₁ order₁ →
      Reads nodes second ts₂ order₂ → Reads nodes is ts order →
      Reads nodes (i :: is)
        (.inr (.opening o) :: ts₁ ++ .inr .otherwise :: ts₂ ++ .inr (.closing o.helper) :: ts)
        (i :: order₁ ++ order₂ ++ order)

variable {nodes : List Node} {is order order' : List Nat} {ts ts' : List (Text ⊕ Tag)}

theorem Reads.unique (h : Reads nodes is ts order) (h' : Reads nodes is ts' order') :
    ts = ts' ∧ order = order' := by
  induction h generalizing ts' order' with
  | nil =>
      cases h'
      exact ⟨rfl, rfl⟩
  | text hnode _ ih => cases h' <;> grind
  | «variable» hnode _ ih => cases h' <;> grind
  | block hnode _ _ ihinner ih => cases h' <;> grind
  | blockElse hnode _ _ _ ihinner ihother ih => cases h' <;> grind

theorem getElem?_of_numbered (h : nodes.map Node.id = List.range nodes.length) {n : Node}
    (hn : n ∈ nodes) : nodes[n.id]? = some n := by
  obtain ⟨i, hi, rfl⟩ := List.getElem_of_mem hn
  have hid : nodes[i].id = i := by
    have := congrArg (·[i]?) h
    simpa [hi] using this
  rw [hid, List.getElem?_eq_getElem hi]

end Node

namespace Body.Built

variable {n : Nat} {ts : List Token} {b : Body}

theorem ids (h : Built n ts b) : b.nodes.map Node.id = List.range' n b.size := by
  induction h with
  | nil => rfl
  | text _ ih => simp [nodes, size, ih, List.range'_succ, Node.id]
  | «variable» _ ih => simp [nodes, size, ih, List.range'_succ, Node.id]
  | block _ _ ihc ih =>
      simp only [nodes, size, List.map_cons, List.map_append, ihc, ih, List.range'_succ, Node.id,
        List.append_nil, Nat.add_zero]
      rw [List.range'_append_1]
  | blockElse _ _ _ ihc iha ih =>
      simp only [nodes, size, List.map_cons, List.map_append, ihc, iha, ih, List.range'_succ,
        Node.id]
      rw [List.range'_append_1, Nat.add_assoc, List.range'_append_1]

-- a number is either that of a sibling or stands in the children list of one node
theorem count_children (h : Built n ts b) (i : Nat) :
    b.ids.count i + (b.nodes.flatMap Node.children).count i = (b.nodes.map Node.id).count i := by
  induction h with
  | nil => rfl
  | text _ ih =>
      simp only [Body.ids, nodes, List.flatMap_cons, List.map_cons, Node.children, Node.branches,
        Node.id, List.flatten_nil, List.nil_append, List.count_cons]
      omega
  | «variable» _ ih =>
      simp only [Body.ids, nodes, List.flatMap_cons, List.map_cons, Node.children, Node.branches,
        Node.id, List.flatten_nil, List.nil_append, List.count_cons]
      omega
  | block _ _ ihc ih =>
      simp [Body.ids, nodes, Node.children, Node.branches, Node.id, List.count_cons,
        List.count_append]
      omega
  | blockElse _ _ _ ihc iha ih =>
      simp [Body.ids, nodes, Node.children, Node.branches, Node.id, List.count_cons,
        List.count_append]
      omega

theorem le_of_mem_ids (h : Built n ts b) {i : Nat} (hi : i ∈ b.ids) : n ≤ i := by
  have hcount := h.count_children i
  have hmem : i ∈ b.nodes.map Node.id := by
    rw [← List.count_pos_iff] at hi ⊢
    omega
  rw [h.ids, List.mem_range'_1] at hmem
  exact hmem.1

theorem lt_child (h : Built n ts b) {node : Node} (hnode : node ∈ b.nodes) {i : Nat}
    (hi : i ∈ node.children) : node.id < i := by
  induction h with
  | nil => simp [nodes] at hnode
  | text _ ih =>
      rcases List.mem_cons.mp hnode with rfl | hnode
      · simp [Node.children, Node.branches] at hi
      · exact ih hnode
  | «variable» _ ih =>
      rcases List.mem_cons.mp hnode with rfl | hnode
      · simp [Node.children, Node.branches] at hi
      · exact ih hnode
  | block hc _ ihc ih =>
      simp only [nodes, List.mem_cons, List.mem_append, List.not_mem_nil, or_false] at hnode
      rcases hnode with rfl | hnode | hnode
      · simp [Node.children, Node.branches] at hi
        exact hc.le_of_mem_ids hi
      · exact ihc hnode
      · exact ih hnode
  | blockElse hc ha _ ihc iha ih =>
      simp only [nodes, List.mem_cons, List.mem_append] at hnode
      rcases hnode with rfl | (hnode | hnode) | hnode
      · simp [Node.children, Node.branches] at hi
        rcases hi with hi | hi
        · exact hc.le_of_mem_ids hi
        · have hle := ha.le_of_mem_ids hi
          simp only [Node.id]
          omega
      · exact ihc hnode
      · exact iha hnode
      · exact ih hnode

theorem reads {nodes : List Node} (h : Built n ts b)
    (hnodes : ∀ node ∈ b.nodes, nodes[node.id]? = some node) :
    Node.Reads nodes b.ids (ts.map Token.bare) (b.nodes.map Node.id) := by
  induction h with
  | nil => exact .nil
  | text _ ih =>
      simp only [Body.nodes, List.forall_mem_cons] at hnodes
      exact .text hnodes.1 (ih hnodes.2)
  | «variable» _ ih =>
      simp only [Body.nodes, List.forall_mem_cons] at hnodes
      exact .variable hnodes.1 (ih hnodes.2)
  | block _ _ ihc ih =>
      simp only [Body.nodes, List.forall_mem_cons, List.forall_mem_append] at hnodes
      obtain ⟨hblock, ⟨hc, -⟩, hrest⟩ := hnodes
      simpa [Body.ids, Body.nodes, Node.id, Token.bare] using
        Node.Reads.block hblock (ihc hc) (ih hrest)
  | blockElse _ _ _ ihc iha ih =>
      simp only [Body.nodes, List.forall_mem_cons, List.forall_mem_append] at hnodes
      obtain ⟨hblock, ⟨hc, ha⟩, hrest⟩ := hnodes
      simpa [Body.ids, Body.nodes, Node.id, Token.bare] using
        Node.Reads.blockElse hblock (ihc hc) (iha ha) (ih hrest)

end Body.Built

namespace Tree

variable {t : Tree} {ts : List Token}

theorem ids_nodes (h : Body.Built 1 ts t.body) :
    t.nodes.map Node.id = List.range t.nodes.length := by
  have hlength : t.body.nodes.length = t.body.size := by
    simpa using congrArg List.length h.ids
  simp [nodes, Node.id, Node.rootId, h.ids, hlength, List.range_eq_range', List.range'_succ]

theorem getElem?_nodes (h : Body.Built 1 ts t.body) {node : Node} (hnode : node ∈ t.nodes) :
    t.nodes[node.id]? = some node :=
  Node.getElem?_of_numbered (ids_nodes h) hnode

theorem ids_body_nodes (h : Body.Built 1 ts t.body) :
    t.body.nodes.map Node.id = List.range' 1 (t.nodes.length - 1) := by
  have hids := congrArg List.tail (ids_nodes h)
  simpa [nodes, List.range_eq_range', List.tail_range'] using hids

theorem count_children (h : Body.Built 1 ts t.body) (i : Nat) :
    (t.nodes.flatMap Node.children).count i = if 0 < i ∧ i < t.nodes.length then 1 else 0 := by
  have hcount := h.count_children i
  have hroot : t.nodes.flatMap Node.children =
      t.body.ids ++ t.body.nodes.flatMap Node.children := by
    simp [nodes, Node.children, Node.branches]
  have hrange : i ∈ List.range' 1 (t.nodes.length - 1) ↔ 0 < i ∧ i < t.nodes.length := by
    rw [List.mem_range'_1]
    omega
  rw [hroot, List.count_append, hcount, ids_body_nodes h, List.Nodup.count (List.nodup_range' 1)]
  simp only [hrange]

theorem lt_child (h : Body.Built 1 ts t.body) {node : Node} (hnode : node ∈ t.nodes) {i : Nat}
    (hi : i ∈ node.children) : node.id < i := by
  rcases List.mem_cons.mp hnode with rfl | hnode
  · have hone := count_children h i
    have hmem : i ∈ t.nodes.flatMap Node.children :=
      List.mem_flatMap.mpr ⟨_, List.mem_cons_self, hi⟩
    rw [← List.count_pos_iff, hone] at hmem
    simp only [Node.id, Node.rootId]
    split at hmem
    · omega
    · omega
  · exact h.lt_child hnode hi

theorem reads (h : Body.Built 1 ts t.body) :
    Node.Reads t.nodes t.body.ids (ts.map Token.bare) (List.range' 1 (t.nodes.length - 1)) := by
  rw [← ids_body_nodes h]
  exact h.reads fun node hnode => getElem?_nodes h (List.mem_cons_of_mem _ hnode)

end Tree

end PromptTemplate
