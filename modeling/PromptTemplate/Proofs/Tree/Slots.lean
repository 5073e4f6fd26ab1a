import PromptTemplate.Proofs.Tree.Arena

namespace PromptTemplate

namespace Body

variable {ts : List Token} {b : Body}

-- by induction on how the siblings were built: each node stands in the slot of its number, and
-- fuel for all the nodes is enough for those below each
theorem Built.read_ids {n : Nat} {slots : Array (Option Node)} (h : Built n ts b)
    (hslots : ∀ node ∈ b.nodes, slots[node.id]? = some (some node)) {fuel : Nat}
    (hfuel : b.size ≤ fuel) : read slots fuel b.ids = b := by
  induction h generalizing fuel with
  | nil => cases fuel <;> rfl
  | text _ ih =>
      obtain ⟨hhere, hrest⟩ := List.forall_mem_cons.mp hslots
      cases fuel with
      | zero => simp [size] at hfuel
      | succ fuel =>
          have hrest := ih hrest (Nat.le_of_succ_le_succ hfuel)
          simp only [Node.id] at hhere
          simp [Body.ids, read, hhere, hrest]
  | «variable» _ ih =>
      obtain ⟨hhere, hrest⟩ := List.forall_mem_cons.mp hslots
      cases fuel with
      | zero => simp [size] at hfuel
      | succ fuel =>
          have hrest := ih hrest (Nat.le_of_succ_le_succ hfuel)
          simp only [Node.id] at hhere
          simp [Body.ids, read, hhere, hrest]
  | @block n o s e inner ts c r _ _ ihc ih =>
      simp only [nodes, List.forall_mem_cons, List.forall_mem_append] at hslots
      obtain ⟨hhere, ⟨hc, -⟩, hrest⟩ := hslots
      cases fuel with
      | zero => simp [size] at hfuel
      | succ fuel =>
          simp only [size] at hfuel
          have hcsize : c.size ≤ fuel := by omega
          have hrsize : r.size ≤ fuel := by omega
          have hnil : read slots fuel [] = .nil := by cases fuel <;> rfl
          simp only [Node.id] at hhere
          simp [Body.ids, read, hhere, ihc hc hcsize, ih hrest hrsize, hnil]
  | @blockElse n o s e f inner other ts c a r _ _ _ ihc iha ih =>
      simp only [nodes, List.forall_mem_cons, List.forall_mem_append] at hslots
      obtain ⟨hhere, ⟨hc, ha⟩, hrest⟩ := hslots
      cases fuel with
      | zero => simp [size] at hfuel
      | succ fuel =>
          simp only [size] at hfuel
          have hcsize : c.size ≤ fuel := by omega
          have hasize : a.size ≤ fuel := by omega
          have hrsize : r.size ≤ fuel := by omega
          simp only [Node.id] at hhere
          simp [Body.ids, read, hhere, ihc hc hcsize, iha ha hasize, ih hrest hrsize]

theorem Built.ofSlots (h : Built 1 ts b) (source : Text) :
    ofSlots ((Tree.mk source b).nodes.map some).toArray = b := by
  have hlength : b.nodes.length = b.size := by simpa using congrArg List.length h.ids
  have hslots : ∀ node ∈ b.nodes,
      ((Tree.mk source b).nodes.map some).toArray[node.id]? = some (some node) := by
    intro node hnode
    have hplace := Tree.getElem?_nodes (t := ⟨source, b⟩) h (List.mem_cons_of_mem _ hnode)
    simp [hplace]
  have hsize : b.size ≤ b.nodes.length + 1 := by omega
  have hread := h.read_ids hslots hsize
  simpa [Body.ofSlots, Tree.nodes, Node.rootId] using hread

theorem ofTokens_eq_parse (limit : Int) (ts : List Token) (source : Text) :
    ofTokens limit ts source = Draft.parse limit ts := by
  rw [ofTokens, Arena.parse_eq]
  cases hparse : Draft.parse limit ts with
  | error e => rfl
  | ok b =>
      exact congrArg Except.ok ((Draft.built_of_parse hparse).ofSlots source)

end Body

namespace Tree

variable {limit : Int} {source : Text} {t : Tree}

theorem parse_eq_ok_iff : parse limit source = .ok t ↔
    ∃ b, Draft.parse limit (Token.tokenize source) = .ok b ∧ t = ⟨source, b⟩ := by
  rw [parse, Body.ofTokens_eq_parse]
  cases Draft.parse limit (Token.tokenize source) with
  | error e => simp [Except.map]
  | ok b => simp [Except.map, eq_comm]

theorem built_of_parse (h : parse limit source = .ok t) :
    t.source = source ∧ Body.Built 1 (Token.tokenize source) t.body := by
  obtain ⟨b, hb, rfl⟩ := parse_eq_ok_iff.mp h
  exact ⟨rfl, Draft.built_of_parse hb⟩

end Tree

end PromptTemplate
