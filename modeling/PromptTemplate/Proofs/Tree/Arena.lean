import PromptTemplate.Proofs.Tree.Numbering

namespace PromptTemplate

namespace Body

-- what is gathered sibling by sibling comes in order again where siblings are put in front
theorem gathered_onto {α : Type} (f : Body → List α) (hnil : f .nil = [])
    (htext : ∀ i c s r, f (.text i c s r) = f (.text i c s .nil) ++ f r)
    (hvariable : ∀ i k s r, f (.variable i k s r) = f (.variable i k s .nil) ++ f r)
    (hblock : ∀ i o s c e h a r, f (.block i o s c e h a r) = f (.block i o s c e h a .nil) ++ f r)
    (a b : Body) : f (onto a b) = f a.reverse ++ f b := by
  unfold reverse
  induction a generalizing b with
  | nil => simp [onto, hnil]
  | text id content span rest ih =>
      simp only [onto, ih (.text ..), htext id content span b, List.append_assoc]
  | «variable» id key span rest ih =>
      simp only [onto, ih (.variable ..), hvariable id key span b, List.append_assoc]
  | block id o span c e h a rest _ _ ih =>
      simp only [onto, ih (.block ..), hblock id o span c e h a b, List.append_assoc]

theorem ids_onto (a b : Body) : (onto a b).ids = a.reverse.ids ++ b.ids :=
  gathered_onto ids rfl (fun _ _ _ _ => rfl) (fun _ _ _ _ => rfl) (fun _ _ _ _ _ _ _ _ => rfl) a b

theorem nodes_onto (a b : Body) : (onto a b).nodes = a.reverse.nodes ++ b.nodes :=
  gathered_onto nodes rfl (fun _ _ _ _ => rfl) (fun _ _ _ _ => rfl)
    (fun _ _ _ _ _ _ _ _ => by simp [nodes]) a b

end Body

namespace Layer

def frame (l : Layer) (child : Option Nat) : Frame where
  id := l.id
  opening := l.opening
  span := l.span
  consequent := (l.consequent.reverse.ids ++ if l.hasAlternate then [] else child.toList).toArray
  alternate :=
    if l.hasAlternate then some (l.alternate.reverse.ids ++ child.toList).toArray else none
  elseSpan := l.elseSpan

def slots (l : Layer) : List (Option Node) :=
  none :: (l.consequent.reverse.nodes ++ l.alternate.reverse.nodes).map some

theorem name_frame (l : Layer) (id : Nat) : (l.frame none).name id = l.frame (some id) := by
  unfold frame Frame.name
  cases l.hasAlternate <;> simp

theorem isSome_alternate (l : Layer) (child : Option Nat) :
    (l.frame child).alternate.isSome = l.hasAlternate := by
  cases helse : l.hasAlternate <;> simp [frame, helse]

theorem frame_otherwise {l : Layer} (helse : l.hasAlternate = false) (hempty : l.alternate = .nil)
    (span : Span) : frame { l with elseSpan := some span, hasAlternate := true } none =
      { l.frame none with alternate := some #[], elseSpan := some span } := by
  simp [frame, helse, hempty, Body.reverse, Body.onto, Body.ids]

theorem empty_slot (l : Layer) (i : Nat) : l.slots[i]? = some none ↔ i = 0 := by
  unfold slots
  cases i with
  | zero => exact iff_of_true rfl rfl
  | succ i =>
      rw [List.getElem?_cons_succ, List.getElem?_map]
      simp

end Layer

namespace Draft

def frames (child : Option Nat) : List Layer → List Frame
  | [] => []
  | l :: ls => l.frame child :: frames (some l.id) ls

def outermost (child : Option Nat) : List Layer → Option Nat
  | [] => child
  | l :: ls => outermost (some l.id) ls

def slots (top : Body) : List Layer → List (Option Node)
  | [] => none :: top.reverse.nodes.map some
  | l :: ls => slots top ls ++ l.slots

/-- The draft as it stands in the slots, with a child named in the innermost open block. -/
def naming (child : Option Nat) (d : Draft) : Arena where
  slots := (slots d.top d.layers).toArray
  top := (d.top.reverse.ids ++ (outermost child d.layers).toList).toArray
  frames := frames child d.layers

def arena (d : Draft) : Arena :=
  d.naming none

/-- The slot of each open block is the one with its number, and there is no alternate branch before
an `else`. -/
def Stacked (top : Body) : List Layer → Prop
  | [] => True
  | l :: ls => l.id = (slots top ls).length ∧ (l.hasAlternate = false → l.alternate = .nil) ∧
      Stacked top ls

structure Sound (d : Draft) : Prop where
  next : d.next = (slots d.top d.layers).length
  stacked : Stacked d.top d.layers

variable {d : Draft} {limit : Int}

theorem sound_start : start.Sound :=
  ⟨rfl, trivial⟩

theorem name_arena (d : Draft) (id : Nat) : d.arena.name id = d.naming (some id) := by
  obtain ⟨next, top, layers⟩ := d
  cases layers with
  | nil => simp [arena, naming, Arena.name, frames, outermost]
  | cons l ls => simp [arena, naming, Arena.name, frames, outermost, l.name_frame]

structure Brings (piece : Body → Body) (id : Nat) (new : List Node) : Prop where
  ids : ∀ b, (piece b).reverse.ids = b.reverse.ids ++ [id]
  nodes : ∀ b, (piece b).reverse.nodes = b.reverse.nodes ++ new

variable {piece : Body → Body} {id : Nat} {new : List Node}

theorem add_next (d : Draft) (piece : Body → Body) : (d.add piece).next = d.next := by
  obtain ⟨next, top, layers⟩ := d
  cases layers <;> rfl

theorem slots_add (hd : Stacked d.top d.layers) (h : Brings piece id new) :
    slots (d.add piece).top (d.add piece).layers = slots d.top d.layers ++ new.map some := by
  obtain ⟨next, top, layers⟩ := d
  cases layers with
  | nil => simp [add, slots, h.nodes]
  | cons l ls =>
      obtain ⟨-, hsettled, -⟩ := hd
      cases helse : l.hasAlternate with
      | true => simp [add, slots, Layer.add, Layer.slots, helse, h.nodes]
      | false =>
          have hnone : Body.nil.reverse.nodes = [] := rfl
          simp [add, slots, Layer.add, Layer.slots, helse, hsettled helse, h.nodes, hnone]

theorem stacked_add (hd : Stacked d.top d.layers) (piece : Body → Body) :
    Stacked (d.add piece).top (d.add piece).layers := by
  obtain ⟨next, top, layers⟩ := d
  cases layers with
  | nil => trivial
  | cons l ls =>
      obtain ⟨hid, hsettled, hls⟩ := hd
      cases helse : l.hasAlternate with
      | true => simpa [add, Stacked, Layer.add, helse] using And.intro hid hls
      | false => simpa [add, Stacked, Layer.add, helse] using ⟨hid, hsettled helse, hls⟩

theorem arena_add (hd : Stacked d.top d.layers) (h : Brings piece id new) :
    (d.add piece).arena =
      { d.naming (some id) with slots := (slots d.top d.layers ++ new.map some).toArray } := by
  rw [arena, naming, slots_add hd h]
  obtain ⟨next, top, layers⟩ := d
  cases layers with
  | nil => simp [naming, add, frames, outermost, h.ids]
  | cons l ls =>
      have hframe : (l.add piece).frame none = l.frame (some id) := by
        cases helse : l.hasAlternate <;> simp [Layer.add, Layer.frame, helse, h.ids]
      have hid : (l.add piece).id = l.id := by
        cases helse : l.hasAlternate <;> simp [Layer.add, helse]
      simp [naming, add, frames, outermost, hframe, hid]

theorem brings_text (n : Nat) (content : Text) (s : Span) :
    Brings (.text n content s) n [.text n content s] :=
  ⟨fun b => Body.ids_onto b (.text n content s .nil),
    fun b => Body.nodes_onto b (.text n content s .nil)⟩

theorem brings_variable (n : Nat) (key : Text) (s : Span) :
    Brings (.variable n key s) n [.variable n key s] :=
  ⟨fun b => Body.ids_onto b (.variable n key s .nil),
    fun b => Body.nodes_onto b (.variable n key s .nil)⟩

theorem brings_close (l : Layer) (stop : Nat) :
    Brings (l.close stop) l.id
      ((l.frame none).close stop :: (l.consequent.reverse.nodes ++ l.alternate.reverse.nodes)) := by
  refine ⟨fun b => Body.ids_onto b (l.close stop .nil), fun b => ?_⟩
  refine (Body.nodes_onto b (l.close stop .nil)).trans ?_
  cases helse : l.hasAlternate <;>
    simp [Layer.close, Layer.frame, Frame.close, Body.nodes, helse]

theorem Sound.add (hd : d.Sound) (h : Brings piece id new) :
    Sound { d.add piece with next := d.next + new.length } :=
  ⟨by simp [slots_add hd.stacked h, hd.next], stacked_add hd.stacked piece⟩

theorem step_sound {d' : Draft} {t : Token} (hd : d.Sound) (h : step limit d t = .ok d') :
    d'.Sound := by
  cases t with
  | text content s =>
      cases h
      exact hd.add (brings_text d.next content s)
  | tag tag s =>
      cases tag with
      | «variable» key =>
          cases h
          exact hd.add (brings_variable d.next key s)
      | opening o =>
          simp only [step] at h
          split_ifs at h
          cases h
          have hempty : Body.nil.reverse.nodes = [] := rfl
          exact ⟨by simp [slots, Layer.slots, hempty, hd.next], hd.next, fun _ => rfl, hd.stacked⟩
      | otherwise =>
          obtain ⟨next, top, layers⟩ := d
          cases layers with
          | nil => simp [step] at h
          | cons l ls =>
              obtain ⟨hnext, hid, -, hls⟩ := hd
              simp only [step] at h
              split_ifs at h
              cases h
              exact ⟨hnext, hid, by simp, hls⟩
      | closing helper =>
          obtain ⟨next, top, layers⟩ := d
          cases layers with
          | nil => simp [step] at h
          | cons l ls =>
              obtain ⟨hnext, -, -, hls⟩ := hd
              simp only [step] at h
              split_ifs at h
              cases h
              have hbrings := brings_close l s.stop
              refine ⟨?_, stacked_add hls _⟩
              rw [slots_add hls hbrings]
              simpa [slots, Layer.slots, add_next] using hnext

theorem ids_frames (child : Option Nat) (ls : List Layer) :
    (frames child ls).map Frame.id = ls.map Layer.id := by
  induction ls generalizing child with
  | nil => rfl
  | cons l ls ih => simp [frames, Layer.frame, ih]

theorem frames_length (child : Option Nat) (ls : List Layer) :
    (frames child ls).length = ls.length := by
  simpa using congrArg List.length (ids_frames child ls)

theorem Sound.size (hd : d.Sound) : d.arena.slots.size = d.next := by
  rw [hd.next]
  rfl

theorem add_arena (hd : d.Sound) (slot : Option Node) :
    d.arena.add slot =
      { d.naming (some d.next) with slots := (slots d.top d.layers ++ [slot]).toArray } := by
  rw [Arena.add, hd.size, name_arena]
  simp [arena, naming]

-- the reserved slot is the last one before those of the nodes within the block
theorem set_reserved {top : Body} {l : Layer} {ls : List Layer}
    (hid : l.id = (slots top ls).length) (node : Node) :
    (slots top (l :: ls)).toArray.setIfInBounds l.id (some node) =
      (slots top ls ++ (node :: (l.consequent.reverse.nodes ++ l.alternate.reverse.nodes)).map
        some).toArray := by
  simp only [slots, Layer.slots, List.setIfInBounds_toArray, hid, List.map_cons]
  rw [List.set_append_right _ _ (Nat.le_refl _), Nat.sub_self, List.set_cons_zero]

/-- What a token does to a draft it does to the slots. -/
theorem step_arena (hd : d.Sound) (t : Token) :
    Arena.step limit d.arena t = (step limit d t).map arena := by
  have hsize := hd.size
  cases t with
  | text content s =>
      rw [Arena.step, hsize, add_arena hd]
      exact congrArg Except.ok (arena_add hd.stacked (brings_text d.next content s)).symm
  | tag tag s =>
      cases tag with
      | «variable» key =>
          rw [Arena.step, hsize, add_arena hd]
          exact congrArg Except.ok (arena_add hd.stacked (brings_variable d.next key s)).symm
      | opening o =>
          have hlength : d.arena.frames.length = d.layers.length := frames_length none d.layers
          by_cases hlimit : limit ≤ d.layers.length
          · simp [Arena.step, step, hlength, hlimit, Except.map]
          · simp only [Arena.step, step, hlength, hlimit, if_false, hsize, add_arena hd]
            rfl
      | otherwise =>
          obtain ⟨next, top, layers⟩ := d
          cases layers with
          | nil => rfl
          | cons l ls =>
              obtain ⟨-, -, hsettled, -⟩ := hd
              cases helse : l.hasAlternate with
              | true =>
                  simp only [Arena.step, step, arena, naming, frames, l.isSome_alternate, helse,
                    if_true]
                  rfl
              | false =>
                  have hframe := Layer.frame_otherwise helse (hsettled helse) s
                  simp [Arena.step, step, arena, naming, frames, outermost, slots,
                    l.isSome_alternate, helse, Except.map, hframe]
                  rfl
      | closing helper =>
          obtain ⟨next, top, layers⟩ := d
          cases layers with
          | nil => rfl
          | cons l ls =>
              obtain ⟨-, hid, -, hls⟩ := hd
              by_cases hhelper : l.opening.helper = helper
              · have hset := set_reserved hid ((l.frame none).close s.stop)
                have hadd := arena_add (d := ⟨next, top, ls⟩) hls (brings_close l s.stop)
                have hopened : (l.frame none).opening.helper = helper := hhelper
                simp only [Arena.step, step, hhelper, if_true, Except.map, hadd]
                simp only [arena, naming, frames, hopened, if_true, outermost]
                exact congrArg (fun a => Except.ok (Arena.mk a _ _)) hset
              · have hopened : (l.frame none).opening.helper ≠ helper := hhelper
                simp only [Arena.step, step, hhelper, if_false, arena, naming, frames, hopened]
                rfl

-- by induction on the tokens, for every draft whose open blocks have the slots of their numbers
theorem run_arena (hd : d.Sound) (ts : List Token) :
    Arena.run limit d.arena ts = (run limit d ts).map arena := by
  induction ts generalizing d with
  | nil => rfl
  | cons t ts ih =>
      rw [Arena.run, run, step_arena hd]
      cases hstep : step limit d t with
      | ok d' => exact ih (step_sound hd hstep)
      | error e => rfl

theorem run_sound {d' : Draft} {ts : List Token} (hd : d.Sound) (h : run limit d ts = .ok d') :
    d'.Sound := by
  induction ts generalizing d with
  | nil =>
      cases h
      exact hd
  | cons t ts ih =>
      simp only [run] at h
      split at h
      · rename_i d₁ hstep
        exact ih (step_sound hd hstep) h
      · simp at h

theorem run_of_append {d' : Draft} {before after : List Token}
    (h : run limit d (before ++ after) = .ok d') : ∃ d₁, run limit d before = .ok d₁ := by
  induction before generalizing d with
  | nil => exact ⟨d, rfl⟩
  | cons t ts ih =>
      simp only [List.cons_append, run] at h ⊢
      split at h
      · exact ih h
      · simp at h

theorem exists_run_of_parse {before after : List Token} {b : Body}
    (h : parse limit (before ++ after) = .ok b) : ∃ d, run limit .start before = .ok d := by
  unfold parse at h
  split at h
  · rename_i d hrun
    exact run_of_append hrun
  · simp at h

/-- The slots that are empty while tokens come are those of the root and of the open blocks. -/
theorem empty_slots (hd : d.Sound) (i : Nat) :
    d.arena.slots[i]? = some none ↔ i = Node.rootId ∨ i ∈ d.arena.frames.map Frame.id := by
  obtain ⟨next, top, layers⟩ := d
  obtain ⟨-, hstacked⟩ := hd
  simp only [arena, naming, ids_frames, List.getElem?_toArray]
  change Stacked top layers at hstacked
  -- block by block from the outside: a block adds its own empty slot behind all those before it
  induction layers with
  | nil => cases i <;> simp [slots, Node.rootId]
  | cons l ls ih =>
      obtain ⟨hid, -, hls⟩ := hstacked
      rw [slots, List.getElem?_append, List.map_cons, List.mem_cons]
      split_ifs with hi
      · have hne : i ≠ l.id := by omega
        simp [ih hls, hne]
      · have hold : ¬ (i = Node.rootId ∨ i ∈ ls.map Layer.id) := by
          intro h
          have hin := (ih hls).mpr h
          simp [List.getElem?_eq_none (Nat.le_of_not_lt hi)] at hin
        have hnew : l.slots[i - (slots top ls).length]? = some none ↔ i = l.id := by
          rw [l.empty_slot]
          omega
        simp [hnew, (not_or.mp hold).1, (not_or.mp hold).2]

end Draft

theorem Arena.parse_eq (limit : Int) (ts : List Token) (source : Text) :
    parse limit ts source =
      (Draft.parse limit ts).map fun b => ((Tree.mk source b).nodes.map some).toArray := by
  have hrun : run limit .start ts = (Draft.run limit .start ts).map Draft.arena :=
    Draft.run_arena Draft.sound_start ts
  unfold parse Draft.parse
  rw [hrun]
  cases Draft.run limit .start ts with
  | error e => rfl
  | ok d =>
      obtain ⟨next, top, layers⟩ := d
      cases layers with
      | nil =>
          simp [Except.map, Arena.finish, Draft.finish, Draft.arena, Draft.naming, Draft.frames,
            Draft.slots, Draft.outermost, Tree.nodes, Tree.span, Node.rootId]
      | cons l ls => rfl

end PromptTemplate
