import PromptTemplate.Proofs.Tree.Opened

namespace PromptTemplate

inductive Body.Built : Nat → List Token → Body → Prop
  | nil {n : Nat} : Built n [] .nil
  | text {n : Nat} {content : Text} {s : Span} {ts : List Token} {rest : Body} :
      Built (n + 1) ts rest → Built n (.text content s :: ts) (.text n content s rest)
  | variable {n : Nat} {key : Text} {s : Span} {ts : List Token} {rest : Body} :
      Built (n + 1) ts rest → Built n (.tag (.variable key) s :: ts) (.variable n key s rest)
  | block {n : Nat} {o : Opening} {s e : Span} {inner ts : List Token} {consequent rest : Body} :
      Built (n + 1) inner consequent → Built (n + 1 + consequent.size) ts rest →
      Built n (.tag (.opening o) s :: inner ++ .tag (.closing o.helper) e :: ts)
        (.block n o ⟨s.start, e.stop⟩ consequent none false .nil rest)
  | blockElse {n : Nat} {o : Opening} {s e f : Span} {inner other ts : List Token}
      {consequent alternate rest : Body} :
      Built (n + 1) inner consequent → Built (n + 1 + consequent.size) other alternate →
      Built (n + 1 + consequent.size + alternate.size) ts rest →
      Built n (.tag (.opening o) s :: inner ++ .tag .otherwise e :: other ++
          .tag (.closing o.helper) f :: ts)
        (.block n o ⟨s.start, f.stop⟩ consequent (some e) true alternate rest)

namespace Body

theorem reverse_onto (a b : Body) : (onto a b).reverse = onto b a := by
  unfold reverse
  induction a generalizing b with
  | nil => rfl
  | text id content span rest ih => exact ih (.text id content span b)
  | «variable» id key span rest ih => exact ih (.variable id key span b)
  | block id o span consequent elseSpan hasAlternate alternate rest _ _ ih =>
      exact ih (.block id o span consequent elseSpan hasAlternate alternate b)

end Body

namespace Draft

def put (d : Draft) (piece : Body → Body) (count : Nat) : Draft :=
  { d.add piece with next := d.next + count }

def extend (d : Draft) (b : Body) : Draft :=
  d.put (Body.onto b) b.size

def inside (d : Draft) (l : Layer) (count : Nat) : Draft :=
  { d with next := d.next + count, layers := l :: d.layers }

variable {d : Draft} {m : Nat}

theorem layers_put_length (d : Draft) (piece : Body → Body) (count : Nat) :
    (d.put piece count).layers.length = d.layers.length := by
  unfold put add
  cases d.layers <;> rfl

theorem extend_inside (l : Layer) (b : Body) (count : Nat) :
    (d.inside l count).extend b = d.inside (l.add (Body.onto b)) (count + b.size) := by
  simp [extend, put, inside, add, Nat.add_assoc]

theorem extend_nil (d : Draft) : d.extend .nil = d := by
  obtain ⟨next, top, layers⟩ := d
  unfold extend put add
  cases layers with
  | nil => rfl
  | cons l ls =>
      obtain ⟨id, o, s, c, e, hasAlternate, a⟩ := l
      cases hasAlternate <;> rfl

theorem run_opening (h : d.layers.length < m) (o : Opening) (s : Span) (ts : List Token) :
    run m d (.tag (.opening o) s :: ts) =
      run m (d.inside ⟨d.next, o, s, .nil, none, false, .nil⟩ 1) ts := by
  have hlimit : ¬ (m : Int) ≤ d.layers.length := by omega
  simp [run, step, hlimit, inside]

theorem run_otherwise {l : Layer} (h : l.hasAlternate = false) (count : Nat) (e : Span)
    (ts : List Token) :
    run m (d.inside l count) (.tag .otherwise e :: ts) =
      run m (d.inside { l with elseSpan := some e, hasAlternate := true } count) ts := by
  simp [run, step, inside, h]

theorem run_closing (l : Layer) (count : Nat) (e : Span) (ts : List Token) :
    run m (d.inside l count) (.tag (.closing l.opening.helper) e :: ts) =
      run m (d.put (l.close e.stop) count) ts := by
  have hstep : step m (d.inside l count) (.tag (.closing l.opening.helper) e) =
      .ok (d.put (l.close e.stop) count) := by
    simp only [step, inside, put, if_true]
    unfold add
    cases d.layers <;> rfl
  simp [run, hstep]

theorem close_onto (n : Nat) (o : Opening) (s : Span) (c a : Body) (e : Option Span) (h : Bool)
    (stop : Nat) :
    (⟨n, o, s, c.onto .nil, e, h, a.onto .nil⟩ : Layer).close stop =
      .block n o ⟨s.start, stop⟩ c e h a := by
  funext rest
  simp [Layer.close, Body.reverse_onto, Body.onto]

def Extends (m k : Nat) (ts rest : List Token) : Prop :=
  ∀ d : Draft, d.layers.length + k ≤ m →
    ∃ b, Body.Built d.next ts b ∧ run m d (ts ++ rest) = run m (d.extend b) rest

theorem Extends.behind {k : Nat} {ts rest : List Token} (h : Extends m k ts rest)
    (hk : d.layers.length + k ≤ m) (piece : Body → Body) (count : Nat)
    (honto : ∀ b x, (piece b).onto x = b.onto (piece x))
    (hsize : ∀ b, (piece b).size = count + b.size) :
    ∃ b, Body.Built (d.next + count) ts b ∧
      run m (d.put piece count) (ts ++ rest) = run m (d.extend (piece b)) rest := by
  obtain ⟨b, hbuilt, hrun⟩ := h (d.put piece count) (by rwa [layers_put_length])
  have hwhole : (d.put piece count).extend b = d.extend (piece b) := by
    unfold extend put add
    rw [hsize, ← Nat.add_assoc, funext (honto b)]
    cases d.layers with
    | nil => rfl
    | cons l ls => by_cases helse : l.hasAlternate <;> simp [Layer.add, helse]
  exact ⟨b, hbuilt, hwhole ▸ hrun⟩

theorem Extends.behind_block {k : Nat} {ts rest : List Token} (h : Extends m k ts rest)
    (hk : d.layers.length + k ≤ m) (o : Opening) (s f : Span) (e : Option Span) (h' : Bool)
    (c a : Body) :
    ∃ b, Body.Built (d.next + 1 + c.size + a.size) ts b ∧
      run m (d.inside ⟨d.next, o, s, c.onto .nil, e, h', a.onto .nil⟩ (1 + c.size + a.size))
          (.tag (.closing o.helper) f :: (ts ++ rest)) =
        run m (d.extend (.block d.next o ⟨s.start, f.stop⟩ c e h' a b)) rest := by
  rw [run_closing, close_onto]
  have hsize (b : Body) : (Body.block d.next o ⟨s.start, f.stop⟩ c e h' a b).size =
      1 + c.size + a.size + b.size := by
    simp only [Body.size]
    omega
  simpa [Nat.add_assoc] using
    h.behind hk (.block d.next o ⟨s.start, f.stop⟩ c e h' a) _ (fun _ _ => rfl) hsize

-- by induction on the sentence, for any blocks that are open before it and any tokens behind it
theorem extends_of_sentence {k : Nat} {ts : List Token} (h : Sentence k ts) (rest : List Token) :
    Extends m k ts rest := by
  induction h generalizing rest with
  | nil =>
      intro d _
      exact ⟨.nil, .nil, by rw [extend_nil, List.nil_append]⟩
  | @text k content s ts _ ih =>
      intro d hk
      obtain ⟨b, hbuilt, hrun⟩ := (ih rest).behind hk (.text d.next content s) 1
        (fun _ _ => rfl) (fun b => Nat.add_comm b.size 1)
      exact ⟨_, .text hbuilt, hrun⟩
  | @«variable» k key s ts _ ih =>
      intro d hk
      obtain ⟨b, hbuilt, hrun⟩ := (ih rest).behind hk (.variable d.next key s) 1
        (fun _ _ => rfl) (fun b => Nat.add_comm b.size 1)
      exact ⟨_, .variable hbuilt, hrun⟩
  | @block k o s e inner ts _ _ ihinner ih =>
      intro d hk
      obtain ⟨c, hc, hinner⟩ := ihinner (.tag (.closing o.helper) e :: (ts ++ rest))
        (d.inside ⟨d.next, o, s, .nil, none, false, .nil⟩ 1)
        (by simp only [inside, List.length_cons]; omega)
      obtain ⟨b, hb, hclosed⟩ := (ih rest).behind_block hk o s e none false c .nil
      rw [extend_inside] at hinner
      refine ⟨_, .block hc hb, ?_⟩
      simp only [List.cons_append, List.append_assoc]
      rw [run_opening (by omega), hinner]
      exact hclosed
  | @blockElse k o s e f inner other ts _ _ _ ihinner ihother ih =>
      intro d hk
      obtain ⟨c, hc, hinner⟩ := ihinner
        (.tag .otherwise e :: (other ++ .tag (.closing o.helper) f :: (ts ++ rest)))
        (d.inside ⟨d.next, o, s, .nil, none, false, .nil⟩ 1)
        (by simp only [inside, List.length_cons]; omega)
      obtain ⟨a, ha, hother⟩ := ihother (.tag (.closing o.helper) f :: (ts ++ rest))
        (d.inside ⟨d.next, o, s, c.onto .nil, some e, true, .nil⟩ (1 + c.size))
        (by simp only [inside, List.length_cons]; omega)
      obtain ⟨b, hb, hclosed⟩ := (ih rest).behind_block hk o s f (some e) true c a
      rw [extend_inside] at hinner hother
      refine ⟨_, .blockElse hc (by simpa [inside, Nat.add_assoc] using ha) hb, ?_⟩
      simp only [List.cons_append, List.append_assoc]
      rw [run_opening (by omega), hinner, run_otherwise rfl]
      exact hother.trans hclosed

variable {ts : List Token} {b : Body}

theorem sentence_of_parse {m : Nat} (h : parse m ts = .ok b) : Sentence m ts := by
  cases hrun : OpenBlock.run m [] ts with
  | error e => simp [parse_eq_error hrun] at h
  | ok bs =>
      cases bs with
      | nil => exact OpenBlock.sentence_iff_run.mpr hrun
      | cons o os => simp [parse_eq_unclosed (OpenBlock.run_eq_ok_iff.mp hrun)] at h

theorem exists_built {m : Nat} (h : Sentence m ts) :
    ∃ b, Body.Built 1 ts b ∧ parse m ts = .ok b := by
  have hextends : Extends m m ts [] := extends_of_sentence h []
  obtain ⟨b, hbuilt, hrun⟩ := hextends .start (by simp [start])
  refine ⟨b, hbuilt, ?_⟩
  rw [List.append_nil] at hrun
  unfold parse
  rw [hrun]
  simp [run, finish, extend, put, add, start, Body.reverse_onto, Body.onto]

theorem built_of_parse {limit : Int} (h : parse limit ts = .ok b) : Body.Built 1 ts b := by
  have hwide : parse limit.toNat ts = .ok b := parse_mono (Int.self_le_toNat limit) h
  obtain ⟨c, hbuilt, hc⟩ := exists_built (sentence_of_parse hwide)
  rw [hwide] at hc
  cases hc
  exact hbuilt

end Draft

end PromptTemplate
