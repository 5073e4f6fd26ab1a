import PromptTemplate.Proofs.Evaluation.Mirror
import PromptTemplate.Proofs.Token.Tiling
import PromptTemplate.Proofs.Tree.Slots

namespace PromptTemplate

theorem Span.Tile.le {a z : Nat} {ss : List Span} (h : Tile a ss z) : a ≤ z := by
  induction ss generalizing a with
  | nil => exact Nat.le_of_eq h
  | cons s ss ih =>
      obtain ⟨-, hlt, hrest⟩ := h
      exact Nat.le_trans (Nat.le_of_lt hlt) (ih hrest)

namespace Tree

def Tile (t : Tree) (a : Nat) (is : List Nat) (z : Nat) : Prop :=
  ∃ ss, is.map (fun i => t.nodes[i]?.map Node.span) = ss.map some ∧ Span.Tile a ss z

def Placed (t : Tree) : Node → Prop
  | .root s children => s = ⟨0, t.source.length⟩ ∧ t.Tile 0 children t.source.length
  | .text _ content s => s.slice t.source = content
  | .variable _ key s => s.Holds t.source (.variable key)
  | .block _ o s consequent none none =>
      ∃ i j, (⟨s.start, i⟩ : Span).Holds t.source (.opening o) ∧ t.Tile i consequent j ∧
        (⟨j, s.stop⟩ : Span).Holds t.source (.closing o.helper)
  | .block _ o s consequent (some e) (some alternate) =>
      ∃ i j, (⟨s.start, i⟩ : Span).Holds t.source (.opening o) ∧ t.Tile i consequent e.start ∧
        e.Holds t.source .otherwise ∧ t.Tile e.stop alternate j ∧
        (⟨j, s.stop⟩ : Span).Holds t.source (.closing o.helper)
  | .block .. => False

variable {t : Tree}

theorem tile_nil (a : Nat) : t.Tile a [] a :=
  ⟨[], rfl, rfl⟩

theorem Tile.cons {a i z : Nat} {is : List Nat} {node : Node} (hnode : t.nodes[i]? = some node)
    (hstart : node.span.start = a) (hlt : a < node.span.stop) (h : t.Tile node.span.stop is z) :
    t.Tile a (i :: is) z := by
  obtain ⟨ss, hspans, htile⟩ := h
  exact ⟨node.span :: ss, by simp [hnode, hspans], hstart, hlt, htile⟩

end Tree

theorem Body.Built.placed {t : Tree} {n a z : Nat} {ts : List Token} {b : Body} (h : Built n ts b)
    (htile : Span.Tile a (ts.map Token.span) z) (hplace : ∀ token ∈ ts, token.InPlace t.source)
    (hnodes : ∀ node ∈ b.nodes, t.nodes[node.id]? = some node) :
    t.Tile a b.ids z ∧ ∀ node ∈ b.nodes, t.Placed node := by
  induction h generalizing a z with
  | nil =>
      obtain rfl : a = z := htile
      exact ⟨t.tile_nil a, by simp [nodes]⟩
  | text _ ih =>
      obtain ⟨hstart, hlt, htile⟩ := htile
      simp only [nodes, List.forall_mem_cons] at hplace hnodes ⊢
      obtain ⟨hrest, hplaced⟩ := ih htile hplace.2 hnodes.2
      exact ⟨.cons hnodes.1 hstart hlt hrest, hplace.1, hplaced⟩
  | «variable» _ ih =>
      obtain ⟨hstart, hlt, htile⟩ := htile
      simp only [nodes, List.forall_mem_cons] at hplace hnodes ⊢
      obtain ⟨hrest, hplaced⟩ := ih htile hplace.2 hnodes.2
      exact ⟨.cons hnodes.1 hstart hlt hrest, hplace.1, hplaced⟩
  | @block n o s e inner ts c r _ _ ihc ih =>
      simp only [List.cons_append, List.map_cons, List.map_append] at htile
      obtain ⟨hstart, hlt, htile⟩ := htile
      obtain ⟨m, hinner, rfl, hclose, hrest⟩ := Span.tile_append.mp htile
      simp only [nodes, List.cons_append, List.forall_mem_cons,
        List.forall_mem_append] at hplace hnodes ⊢
      obtain ⟨hopen, hinnerPlace, hclosing, hrestPlace⟩ := hplace
      obtain ⟨hblock, ⟨hcNodes, -⟩, hrNodes⟩ := hnodes
      obtain ⟨hc, hcPlaced⟩ := ihc hinner hinnerPlace hcNodes
      obtain ⟨hr, hrPlaced⟩ := ih hrest hrestPlace hrNodes
      have hwide : a < e.stop := by
        have := hinner.le
        simp only [Token.span] at *
        omega
      exact ⟨.cons hblock hstart hwide hr, ⟨_, _, hopen, hc, hclosing⟩, ⟨hcPlaced, by simp⟩,
        hrPlaced⟩
  | @blockElse n o s e f inner other ts c d r _ _ _ ihc ihd ih =>
      simp only [List.cons_append, List.append_assoc, List.map_cons, List.map_append] at htile
      obtain ⟨hstart, hlt, htile⟩ := htile
      obtain ⟨_, hinner, rfl, helse, htile⟩ := Span.tile_append.mp htile
      obtain ⟨_, hother, rfl, hclose, hrest⟩ := Span.tile_append.mp htile
      simp only [nodes, List.cons_append, List.append_assoc, List.forall_mem_cons,
        List.forall_mem_append] at hplace hnodes ⊢
      obtain ⟨hopen, hinnerPlace, hotherwise, hotherPlace, hclosing, hrestPlace⟩ := hplace
      obtain ⟨hblock, hcNodes, hdNodes, hrNodes⟩ := hnodes
      obtain ⟨hc, hcPlaced⟩ := ihc hinner hinnerPlace hcNodes
      obtain ⟨hd, hdPlaced⟩ := ihd hother hotherPlace hdNodes
      obtain ⟨hr, hrPlaced⟩ := ih hrest hrestPlace hrNodes
      have hwide : a < f.stop := by
        have hle₁ := hinner.le
        have hle₂ := hother.le
        simp only [Token.span] at *
        omega
      exact ⟨.cons hblock hstart hwide hr, ⟨_, _, hopen, hc, hotherwise, hd, hclosing⟩, hcPlaced,
        hdPlaced, hrPlaced⟩

namespace Tree

variable {limit : Int} {source : Text} {t : Tree}

theorem placed_of_parse (h : parse limit source = .ok t) : ∀ node ∈ t.nodes, t.Placed node := by
  obtain ⟨rfl, hbuilt⟩ := built_of_parse h
  obtain ⟨htile, hplaced⟩ := hbuilt.placed (Token.tokenize_tile t.source)
    (fun token htoken => Token.inPlace_of_mem_tokenize htoken)
    (fun node hnode => getElem?_nodes hbuilt (List.mem_cons_of_mem _ hnode))
  exact List.forall_mem_cons.mpr ⟨⟨rfl, htile⟩, hplaced⟩

/-- Spans nest as the nodes do. The root spans the template; each branch of a block fills the room
between the tags around it, an `else` tag being there just in case there is a second branch; texts
and variables stand at their spans. Annotated nodes keep number and span. -/
theorem spans_nest (h : parse limit source = .ok t) :
    t.source = source ∧
    (∀ node ∈ t.nodes, t.Placed node) ∧
    (∀ (s : Setting) p, (s.annotateTree t).1 = .ok p →
      p.source = source ∧
        (p.root.id, p.root.span) :: p.children.walk.map (fun item => (item.id, item.span)) =
          t.nodes.map fun node => (node.id, node.span)) ∧
    (∀ s : Setting,
      (∃ p, (s.annotateTree t).1 = .ok p) ↔ ∀ o ∈ t.body.openings, s.fault? o = none) ∧
    ∀ operators format, ∃ p, ((Setting.unset operators format).annotateTree t).1 = .ok p := by
  obtain ⟨rfl, -⟩ := built_of_parse h
  refine ⟨rfl, placed_of_parse h, fun s p hp => ?_,
    fun s => Setting.annotateTree_isOk_iff s t, Setting.annotateTree_unset t⟩
  obtain ⟨hpreview, hwalk⟩ := Setting.walk_of_annotateTree hp
  rw [hwalk, hpreview]
  exact ⟨rfl, rfl⟩

theorem spans_nest_of_else :
    let source :=
      "\x7b\x7b#if a\x7d\x7dx\x7b\x7belse\x7d\x7d\x7b\x7bb\x7d\x7d\x7b\x7b/if\x7d\x7d".toList
    ∃ t, parse 1 source = .ok t ∧
      t.nodes.map Node.span = [⟨0, 30⟩, ⟨0, 30⟩, ⟨9, 10⟩, ⟨18, 23⟩] ∧
      ∀ node ∈ t.nodes, t.Placed node := by
  intro source
  have hparse : parse 1 source = .ok ⟨source,
      .block 1 ⟨.ifBlock, ['a'], false, none⟩ ⟨0, 30⟩
        (.text 2 ['x'] ⟨9, 10⟩ .nil) (some ⟨10, 18⟩) true
        (.variable 3 ['b'] ⟨18, 23⟩ .nil) .nil⟩ := by
    decide +kernel
  exact ⟨_, hparse, rfl, (spans_nest hparse).2.1⟩

end Tree

end PromptTemplate
