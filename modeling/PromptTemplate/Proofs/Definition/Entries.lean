import Mathlib.Data.List.Forall2
import PromptTemplate.Proofs.Definition.Choice
import PromptTemplate.PromptFile

namespace PromptTemplate

theorem Assoc.firsts_append_cons {α : Type} {m : Assoc α} {e : Text × α}
    (h : (get? e.1 m).isSome) (n : Assoc α) : firsts (m ++ e :: n) = firsts (m ++ n) := by
  have hthere : (get? e.1 (firsts m)).isSome := by rwa [get?_firsts]
  unfold firsts at hthere ⊢
  rw [List.foldl_append, List.foldl_append, List.foldl_cons, if_pos hthere]

theorem Assoc.firsts_concat {α : Type} {m : Assoc α} {e : Text × α}
    (h : (get? e.1 m).isSome = false) : firsts (m ++ [e]) = firsts m ++ [e] := by
  have hnot : (get? e.1 (firsts m)).isSome = false := by rwa [get?_firsts]
  unfold firsts at hnot ⊢
  rw [List.foldl_append, List.foldl_cons, List.foldl_nil, hnot]
  rfl

namespace Definition

def AcceptedAt (raw : List Value) (i : Nat) (d : Definition) : Prop :=
  ∃ v, raw[i]? = some v ∧ ofValue v = .ok d

def KeptAt (raw : List Value) (i : Nat) (d : Definition) : Prop :=
  AcceptedAt raw i d ∧ ∀ j < i, ∀ d', AcceptedAt raw j d' → d'.key ≠ d.key

inductive FlawAt (raw : List Value) (i : Nat) : EntryFlaw → Prop
  | notAMapping {v : Value} : raw[i]? = some v → v.textEntries? = none → FlawAt raw i .notAMapping
  | rejected {v : Value} {issues : List Issue} : raw[i]? = some v → v.textEntries? ≠ none →
      ofValue v = .error issues → FlawAt raw i (.rejected issues)
  | duplicate {first : Nat} {d d' : Definition} : AcceptedAt raw i d → first < i →
      KeptAt raw first d' → d'.key = d.key → FlawAt raw i (.duplicate d.key first)

def hasKey (key : Text) (v : Value) : Bool :=
  (ofValue v).toOption.any fun d => d.key = key

def verdict (before : List Value) (v : Value) : Except EntryFlaw Definition :=
  match ofValue v with
  | .error issues => .error (if v.textEntries? = none then .notAMapping else .rejected issues)
  | .ok d =>
      match before.findIdx? (hasKey d.key) with
      | some first => .error (.duplicate d.key first)
      | none => .ok d

variable {raw before r : List Value} {v : Value} {d : Definition} {key : Text} {flaw : EntryFlaw}

theorem entries_of_ok (h : ofValue v = .ok d) :
    ∃ entries, v.textEntries? = some entries ∧ ofEntries entries = .ok d := by
  unfold ofValue at h
  split at h
  · exact ⟨_, ‹_›, h⟩
  · cases h

theorem hasKey_iff : hasKey key v ↔ ∃ d, ofValue v = .ok d ∧ d.key = key := by
  unfold hasKey
  cases ofValue v <;> simp [Except.toOption]

theorem hasKey_of_ok (h : ofValue v = .ok d) : hasKey key v = decide (d.key = key) := by
  simp [hasKey, h, Except.toOption]

theorem hasKey_of_error {issues : List Issue} (h : ofValue v = .error issues) :
    hasKey key v = false := by
  simp [hasKey, h, Except.toOption]

theorem verdict_of_error {issues : List Issue} (h : ofValue v = .error issues) :
    verdict before v =
      .error (if v.textEntries? = none then .notAMapping else .rejected issues) := by
  simp only [verdict, h]

theorem verdict_of_seen {first : Nat} (h : ofValue v = .ok d)
    (hfirst : before.findIdx? (hasKey d.key) = some first) :
    verdict before v = .error (.duplicate d.key first) := by
  simp only [verdict, h, hfirst]

theorem verdict_of_new (h : ofValue v = .ok d) (hnew : before.findIdx? (hasKey d.key) = none) :
    verdict before v = .ok d := by
  simp only [verdict, h, hnew]

theorem verdict_eq_ok_iff : verdict before v = .ok d ↔
    ofValue v = .ok d ∧ before.findIdx? (hasKey d.key) = none := by
  refine ⟨fun h => ?_, fun ⟨hd, hnew⟩ => verdict_of_new hd hnew⟩
  cases hd : ofValue v with
  | error issues =>
      rw [verdict_of_error hd] at h
      cases h
  | ok d' =>
      cases hfirst : before.findIdx? (hasKey d'.key) with
      | some first =>
          rw [verdict_of_seen hd hfirst] at h
          cases h
      | none =>
          rw [verdict_of_new hd hfirst] at h
          cases h
          exact ⟨rfl, hfirst⟩

theorem refused_cases (h : verdict before v = .error flaw) :
    (∃ issues, ofValue v = .error issues ∧
      flaw = if v.textEntries? = none then .notAMapping else .rejected issues) ∨
    ∃ d first, ofValue v = .ok d ∧ before.findIdx? (hasKey d.key) = some first ∧
      flaw = .duplicate d.key first := by
  cases hd : ofValue v with
  | error issues =>
      rw [verdict_of_error hd] at h
      cases h
      exact .inl ⟨issues, rfl, rfl⟩
  | ok d =>
      cases hfirst : before.findIdx? (hasKey d.key) with
      | none =>
          rw [verdict_of_new hd hfirst] at h
          cases h
      | some first =>
          rw [verdict_of_seen hd hfirst] at h
          cases h
          exact .inr ⟨d, first, rfl, hfirst, rfl⟩

def Recalls (before : List Value) (seen : Assoc Nat) : Prop :=
  ∀ key, seen.get? key = before.findIdx? (hasKey key)

theorem recalls_nil : Recalls [] [] :=
  fun _ => rfl

theorem findIdx?_concat (before : List Value) (v : Value) :
    (before ++ [v]).findIdx? (hasKey key) =
      (before.findIdx? (hasKey key)).or (if hasKey key v then some before.length else none) := by
  rw [List.findIdx?_append, List.findIdx?_singleton]
  cases hasKey key v <;> simp

theorem Recalls.kept {seen : Assoc Nat} (h : Recalls before seen)
    (hv : verdict before v = .ok d) : Recalls (before ++ [v]) (seen.put d.key before.length) := by
  obtain ⟨hd, hnew⟩ := verdict_eq_ok_iff.mp hv
  intro key
  rw [findIdx?_concat, hasKey_of_ok hd]
  by_cases hkey : d.key = key
  · subst hkey
    simp [Assoc.get?_put_self, hnew]
  · simp [Assoc.get?_put_of_ne (Ne.symm hkey), h key, hkey]

theorem Recalls.refused {seen : Assoc Nat} (h : Recalls before seen)
    (hv : verdict before v = .error flaw) : Recalls (before ++ [v]) seen := by
  intro key
  rw [findIdx?_concat, h key]
  obtain ⟨issues, hd, -⟩ | ⟨d, first, hd, hfirst, -⟩ := refused_cases hv
  · simp [hasKey_of_error hd]
  · rw [hasKey_of_ok hd]
    by_cases hkey : d.key = key
    · subst hkey
      simp [hfirst]
    · simp [hkey]

theorem ofEntriesFrom_cons {seen : Assoc Nat} (h : Recalls before seen) (i : Nat) (v : Value)
    (r : List Value) :
    ofEntriesFrom i seen (v :: r) =
      match verdict before v with
      | .ok d =>
          let (ds, es) := ofEntriesFrom (i + 1) (seen.put d.key i) r
          (d :: ds, es)
      | .error flaw =>
          let (ds, es) := ofEntriesFrom (i + 1) seen r
          (ds, .entry i flaw :: es) := by
  cases hentries : v.textEntries? with
  | none => simp [ofEntriesFrom, verdict, ofValue, hentries, Checked.fail]
  | some entries =>
      cases hd : ofEntries entries with
      | error issues => simp [ofEntriesFrom, verdict, ofValue, hentries, hd]
      | ok d =>
          cases hfirst : before.findIdx? (hasKey d.key) <;>
            simp [ofEntriesFrom, verdict, ofValue, hentries, hd, h d.key, hfirst]

def refusal? : Except EntryFlaw Definition → Option EntryFlaw
  | .ok _ => none
  | .error flaw => some flaw

def kept? (raw : List Value) (i : Nat) : Option Definition :=
  raw[i]?.bind fun v => (verdict (raw.take i) v).toOption

def flaw? (raw : List Value) (i : Nat) : Option EntryFlaw :=
  raw[i]?.bind fun v => refusal? (verdict (raw.take i) v)

theorem kept?_append (before : List Value) (v : Value) (r : List Value) :
    kept? (before ++ v :: r) before.length = (verdict before v).toOption := by
  simp [kept?]

theorem flaw?_append (before : List Value) (v : Value) (r : List Value) :
    flaw? (before ++ v :: r) before.length = refusal? (verdict before v) := by
  simp [flaw?]

theorem ofEntriesFrom_eq {seen : Assoc Nat} (h : Recalls before seen) (r : List Value) :
    ofEntriesFrom before.length seen r =
      ((List.range' before.length r.length).filterMap (kept? (before ++ r)),
        (List.range' before.length r.length).filterMap fun i =>
          (flaw? (before ++ r) i).map (.entry i)) := by
  induction r generalizing before seen with
  | nil => rfl
  | cons v r ih =>
      have hmore : before ++ v :: r = before ++ [v] ++ r := by simp
      rw [ofEntriesFrom_cons h, List.length_cons, List.range'_succ, List.filterMap_cons,
        List.filterMap_cons, kept?_append, flaw?_append, hmore]
      cases hv : verdict before v with
      | ok d =>
          have hrest := ih (h.kept hv)
          rw [List.length_append] at hrest
          simp only [List.length_singleton] at hrest
          simp [hrest, refusal?, Except.toOption]
      | error flaw =>
          have hrest := ih (h.refused hv)
          rw [List.length_append] at hrest
          simp only [List.length_singleton] at hrest
          simp [hrest, refusal?, Except.toOption]

theorem ofVariables_eq (raw : List Value) :
    ofVariables (some (.list raw)) =
      ((List.range raw.length).filterMap (kept? raw),
        (List.range raw.length).filterMap fun i => (flaw? raw i).map (.entry i)) := by
  rw [List.range_eq_range']
  exact ofEntriesFrom_eq recalls_nil raw

theorem findIdx?_take_eq_none_iff {i : Nat} :
    (raw.take i).findIdx? (hasKey key) = none ↔
      ∀ j < i, ∀ d, AcceptedAt raw j d → d.key ≠ key := by
  simp only [List.findIdx?_eq_none_iff, AcceptedAt]
  constructor
  · rintro hnone j hj d ⟨v, hv, hd⟩ rfl
    have hmem : v ∈ raw.take i := by
      apply List.mem_of_getElem? (i := j)
      rw [List.getElem?_take, if_pos hj, hv]
    have hnot := hnone v hmem
    simp [hasKey_of_ok hd] at hnot
  · intro hnone v hmem
    obtain ⟨j, hj⟩ := List.mem_iff_getElem?.mp hmem
    rw [List.getElem?_take] at hj
    split at hj
    · rename_i hlt
      rw [Bool.eq_false_iff]
      intro hkey
      obtain ⟨d, hd, heq⟩ := hasKey_iff.mp hkey
      exact hnone j hlt d ⟨v, hj, hd⟩ heq
    · cases hj

theorem toOption_eq_some_iff {ε : Type} {x : Except ε Definition} :
    x.toOption = some d ↔ x = .ok d := by
  cases x <;> simp [Except.toOption]

theorem kept?_eq_some_iff {i : Nat} : kept? raw i = some d ↔ KeptAt raw i d := by
  unfold kept? KeptAt
  rw [← findIdx?_take_eq_none_iff]
  constructor
  · intro h
    obtain ⟨v, hv, hverdict⟩ := Option.bind_eq_some_iff.mp h
    obtain ⟨hd, hnew⟩ := verdict_eq_ok_iff.mp (toOption_eq_some_iff.mp hverdict)
    exact ⟨⟨v, hv, hd⟩, hnew⟩
  · rintro ⟨⟨v, hv, hd⟩, hnew⟩
    rw [hv, Option.bind_some, verdict_of_new hd hnew]
    rfl

theorem keptAt_of_findIdx? {i first : Nat}
    (h : (raw.take i).findIdx? (hasKey key) = some first) :
    first < i ∧ ∃ d, KeptAt raw first d ∧ d.key = key := by
  obtain ⟨hlength, hhere, hbefore⟩ := List.findIdx?_eq_some_iff_getElem.mp h
  have hbounds : first < i ∧ first < raw.length := by
    rw [List.length_take] at hlength
    omega
  rw [List.getElem_take] at hhere
  obtain ⟨d, hd, rfl⟩ := hasKey_iff.mp hhere
  refine ⟨hbounds.1, d, ⟨⟨_, List.getElem?_eq_getElem hbounds.2, hd⟩, ?_⟩, rfl⟩
  rintro j hj d' ⟨v, hv, hd'⟩ hkey
  obtain ⟨hlt, rfl⟩ := List.getElem?_eq_some_iff.mp hv
  have hnot := hbefore j hj
  rw [List.getElem_take] at hnot
  exact hnot (hasKey_iff.mpr ⟨d', hd', hkey⟩)

theorem refusal?_eq_some_iff {x : Except EntryFlaw Definition} :
    refusal? x = some flaw ↔ x = .error flaw := by
  cases x <;> simp [refusal?]

theorem flawAt_of_flaw? {i : Nat} (h : flaw? raw i = some flaw) : FlawAt raw i flaw := by
  obtain ⟨v, hv, hverdict⟩ := Option.bind_eq_some_iff.mp h
  obtain ⟨issues, hd, rfl⟩ | ⟨d, first, hd, hfirst, rfl⟩ :=
    refused_cases (refusal?_eq_some_iff.mp hverdict)
  · split
    · exact .notAMapping hv ‹_›
    · exact .rejected hv ‹_› hd
  · obtain ⟨hlt, d', hkept, hkey⟩ := keptAt_of_findIdx? hfirst
    exact .duplicate ⟨v, hv, hd⟩ hlt hkept hkey

theorem isSome_flaw? {i : Nat} (h : i < raw.length) :
    (flaw? raw i).isSome = !(kept? raw i).isSome := by
  unfold flaw? kept?
  rw [List.getElem?_eq_getElem h]
  cases hverdict : verdict (raw.take i) raw[i] <;> simp [hverdict, refusal?, Except.toOption]

def accepted (raw : List Value) : List Definition :=
  raw.filterMap fun v => (ofValue v).toOption

theorem accepted_append (a b : List Value) : accepted (a ++ b) = accepted a ++ accepted b :=
  List.filterMap_append

theorem accepted_cons_of_ok (h : ofValue v = .ok d) (r : List Value) :
    accepted (v :: r) = d :: accepted r := by
  simp [accepted, h, Except.toOption]

theorem accepted_cons_of_error {issues : List Issue} (h : ofValue v = .error issues)
    (r : List Value) : accepted (v :: r) = accepted r := by
  simp [accepted, h, Except.toOption]

theorem isSome_get?_accepted (raw : List Value) (key : Text) :
    (Assoc.get? key ((accepted raw).map fun d => (d.key, d))).isSome =
      (raw.findIdx? (hasKey key)).isSome := by
  rw [get?_keyed, Bool.eq_iff_iff, List.find?_isSome, List.findIdx?_isSome, List.any_eq_true]
  simp only [accepted, List.mem_filterMap, toOption_eq_some_iff, hasKey_iff, decide_eq_true_eq]
  constructor
  · rintro ⟨d, ⟨v, hv, hd⟩, hkey⟩
    exact ⟨v, hv, d, hd, hkey⟩
  · rintro ⟨v, hv, d, hd, hkey⟩
    exact ⟨d, ⟨v, hv, hd⟩, hkey⟩

theorem index_of_refused (h : verdict before v = .error flaw) (r : List Value) :
    Index.ofDefinitions (accepted (before ++ v :: r)) =
      Index.ofDefinitions (accepted (before ++ r)) := by
  obtain ⟨issues, hd, -⟩ | ⟨d, first, hd, hfirst, -⟩ := refused_cases h
  · rw [accepted_append, accepted_cons_of_error hd, ← accepted_append]
  · have hthere := isSome_get?_accepted before d.key
    rw [hfirst] at hthere
    simp only [Index.ofDefinitions, accepted_append, accepted_cons_of_ok hd, List.map_append,
      List.map_cons]
    exact Assoc.firsts_append_cons (e := (d.key, d)) hthere _

theorem index_of_kept (h : verdict before v = .ok d) :
    Index.ofDefinitions (accepted (before ++ [v])) =
      Index.ofDefinitions (accepted before) ++ [(d.key, d)] := by
  obtain ⟨hd, hnew⟩ := verdict_eq_ok_iff.mp h
  have hnot := isSome_get?_accepted before d.key
  rw [hnew] at hnot
  simp only [Index.ofDefinitions, accepted_append, accepted_cons_of_ok hd, List.map_append,
    List.map_cons]
  exact Assoc.firsts_concat (e := (d.key, d)) hnot

theorem index_ofEntriesFrom {seen : Assoc Nat} (h : Recalls before seen) (r : List Value) :
    Index.ofDefinitions (accepted (before ++ r)) = Index.ofDefinitions (accepted before) ++
      (ofEntriesFrom before.length seen r).1.map fun d => (d.key, d) := by
  induction r generalizing before seen with
  | nil => simp [ofEntriesFrom]
  | cons v r ih =>
      have hmore : before ++ v :: r = before ++ [v] ++ r := by simp
      rw [ofEntriesFrom_cons h]
      cases hv : verdict before v with
      | ok d =>
          have hrest := ih (h.kept hv)
          rw [index_of_kept hv] at hrest
          simpa using hrest
      | error flaw =>
          have hrest := ih (h.refused hv)
          have hsame := index_of_refused hv []
          rw [List.append_nil] at hsame
          rw [hsame] at hrest
          simpa using hrest

theorem index_ofVariables (raw : List Value) :
    Index.ofDefinitions (accepted raw) =
      (ofVariables (some (.list raw))).1.map fun d => (d.key, d) :=
  index_ofEntriesFrom recalls_nil raw

theorem ofVariables_of_refused (h : verdict before v = .error flaw) (r : List Value) :
    (ofVariables (some (.list (before ++ r)))).1 =
      (ofVariables (some (.list (before ++ v :: r)))).1 := by
  have hindex := index_of_refused h r
  rw [index_ofVariables, index_ofVariables] at hindex
  have hvalues := congrArg (List.map Prod.snd) hindex
  simpa [Function.comp_def] using hvalues.symm

theorem forall₂_filter_filterMap {α β : Type} (f : α → Option β) (xs : List α) :
    List.Forall₂ (fun a b => f a = some b) (xs.filter fun a => (f a).isSome) (xs.filterMap f) := by
  induction xs with
  | nil => exact .nil
  | cons a xs ih => cases ha : f a <;> simp [ha, ih]

theorem ofEntriesFrom_of_distinct {ds : List Definition}
    (h : List.Forall₂ (fun v d => ofValue v = .ok d) raw ds) (hkeys : (ds.map (·.key)).Nodup)
    (i : Nat) {seen : Assoc Nat} (hseen : ∀ d ∈ ds, seen.get? d.key = none) :
    ofEntriesFrom i seen raw = (ds, []) := by
  induction h generalizing i seen with
  | nil => rfl
  | @cons v d raw ds hd _ ih =>
      obtain ⟨hnew, hseen⟩ := List.forall_mem_cons.mp hseen
      obtain ⟨hkey, hkeys⟩ := List.nodup_cons.mp hkeys
      have hseen' : ∀ d' ∈ ds, (seen.put d.key i).get? d'.key = none := by
        intro d' hd'
        have hne : d'.key ≠ d.key := by
          intro heq
          exact hkey (List.mem_map.mpr ⟨d', hd', heq⟩)
        rw [Assoc.get?_put_of_ne hne, hseen d' hd']
      obtain ⟨entries, hentries, hread⟩ := entries_of_ok hd
      simp only [ofEntriesFrom, hentries, hread, hnew, ih hkeys (i + 1) hseen']

theorem KeptAt.lt_length {i : Nat} (h : KeptAt raw i d) : i < raw.length := by
  obtain ⟨⟨v, hv, -⟩, -⟩ := h
  exact (List.getElem?_eq_some_iff.mp hv).1

theorem KeptAt.key_ne {i j : Nat} {d' : Definition} (hij : i < j) (h : KeptAt raw i d)
    (h' : KeptAt raw j d') : d.key ≠ d'.key :=
  h'.2 i hij d h.1

theorem nodup_kept (raw : List Value) :
    ((ofVariables (some (.list raw))).1.map (·.key)).Nodup := by
  rw [ofVariables_eq, List.Nodup, List.pairwise_map]
  refine List.pairwise_lt_range.filterMap _ ?_
  intro i j hij d hd d' hd'
  exact (kept?_eq_some_iff.mp hd).key_ne hij (kept?_eq_some_iff.mp hd')

theorem values_of_kept {kept : List Nat} {ds : List Definition}
    (h : List.Forall₂ (KeptAt raw) kept ds) :
    List.Forall₂ (fun v d => ofValue v = .ok d) (kept.filterMap fun i => raw[i]?) ds := by
  induction h with
  | nil => exact .nil
  | cons hd _ ih =>
      obtain ⟨⟨v, hv, hread⟩, -⟩ := hd
      rw [List.filterMap_cons_some hv]
      exact .cons hread ih

def keptPlaces (raw : List Value) : List Nat :=
  (List.range raw.length).filter fun i => (kept? raw i).isSome

def refusedPlaces (raw : List Value) : List Nat :=
  (List.range raw.length).filter fun i => !(kept? raw i).isSome

theorem mem_keptPlaces_iff {i : Nat} : i ∈ keptPlaces raw ↔ ∃ d, KeptAt raw i d := by
  simp only [keptPlaces, List.mem_filter, List.mem_range, Option.isSome_iff_exists,
    kept?_eq_some_iff, and_iff_right_iff_imp]
  rintro ⟨d, hd⟩
  exact hd.lt_length

theorem mem_refusedPlaces_iff {i : Nat} :
    i ∈ refusedPlaces raw ↔ i < raw.length ∧ ¬ ∃ d, KeptAt raw i d := by
  simp only [refusedPlaces, List.mem_filter, List.mem_range, Bool.not_eq_true',
    ← Bool.not_eq_true, Option.isSome_iff_exists, kept?_eq_some_iff]

theorem kept_at_places (raw : List Value) :
    List.Forall₂ (KeptAt raw) (keptPlaces raw) (ofVariables (some (.list raw))).1 := by
  rw [ofVariables_eq]
  exact (forall₂_filter_filterMap (kept? raw) _).imp fun _ _ => kept?_eq_some_iff.mp

def Reported (raw : List Value) (i : Nat) (e : VariablesError) : Prop :=
  ∃ flaw details, FlawAt raw i flaw ∧ e = .entry i flaw ∧
    e.message = VariablesError.entryName i ++ ':' :: ' ' :: details ∧
    ∀ key first, flaw = .duplicate key first →
      VariablesError.entryName first ++ [')'] <:+ details

theorem reported_of_flawAt {i : Nat} (h : FlawAt raw i flaw) : Reported raw i (.entry i flaw) := by
  refine ⟨flaw, _, h, rfl, rfl, ?_⟩
  rintro key first rfl
  exact ⟨"duplicate key '".toList ++ key ++ "' (first at ".toList, by simp⟩

theorem reported_at_places (raw : List Value) :
    List.Forall₂ (Reported raw) (refusedPlaces raw) (ofVariables (some (.list raw))).2 := by
  have hplaces : refusedPlaces raw = (List.range raw.length).filter fun i =>
      ((flaw? raw i).map (VariablesError.entry i)).isSome := by
    refine List.filter_congr fun i hi => ?_
    rw [Option.isSome_map, isSome_flaw? (List.mem_range.mp hi)]
  rw [hplaces, ofVariables_eq]
  refine (forall₂_filter_filterMap _ _).imp fun i e he => ?_
  obtain ⟨flaw, hflaw, rfl⟩ := Option.map_eq_some_iff.mp he
  exact reported_of_flawAt (flawAt_of_flaw? hflaw)

theorem length_places (raw : List Value) :
    (keptPlaces raw).length + (refusedPlaces raw).length = raw.length := by
  have hsplit := List.length_eq_length_filter_add (l := List.range raw.length)
    fun i => (kept? raw i).isSome
  rw [List.length_range] at hsplit
  exact hsplit.symm

theorem ofVariables_kept (raw : List Value) :
    ofVariables (some (.list ((keptPlaces raw).filterMap fun i => raw[i]?))) =
      ((ofVariables (some (.list raw))).1, []) :=
  ofEntriesFrom_of_distinct (values_of_kept (kept_at_places raw)) (nodup_kept raw) 0 fun _ _ => rfl

theorem error_of_not_kept (h : ¬ ∃ d, KeptAt (before ++ v :: r) before.length d) :
    ∃ flaw, verdict before v = .error flaw := by
  cases hverdict : verdict before v with
  | error flaw => exact ⟨flaw, rfl⟩
  | ok d =>
      have hkept := kept?_append before v r
      rw [hverdict] at hkept
      exact absurd ⟨d, kept?_eq_some_iff.mp hkept⟩ h

/-- Every entry is kept or reported, in the order of the entries. Kept are those that are accepted
and whose key no entry before them that is accepted has. The others leave no trace in what is kept,
and those that are kept are read alike by themselves. -/
theorem entries_accounted (raw : List Value) :
    let ds := (ofVariables (some (.list raw))).1
    let es := (ofVariables (some (.list raw))).2
    ds.length + es.length = raw.length ∧
    (∃ kept : List Nat, kept.Pairwise (· < ·) ∧ (∀ i, i ∈ kept ↔ ∃ d, KeptAt raw i d) ∧
      List.Forall₂ (KeptAt raw) kept ds ∧
      ofVariables (some (.list (kept.filterMap fun i => raw[i]?))) = (ds, [])) ∧
    (∃ refused : List Nat, refused.Pairwise (· < ·) ∧
      (∀ i, i ∈ refused ↔ i < raw.length ∧ ¬ ∃ d, KeptAt raw i d) ∧
      List.Forall₂ (Reported raw) refused es) ∧
    (ds.map (·.key)).Nodup ∧
    ∀ before v after, raw = before ++ v :: after → (¬ ∃ d, KeptAt raw before.length d) →
      (ofVariables (some (.list (before ++ after)))).1 = ds := by
  intro ds es
  have hkept : List.Forall₂ (KeptAt raw) (keptPlaces raw) ds := kept_at_places raw
  have hrefused : List.Forall₂ (Reported raw) (refusedPlaces raw) es := reported_at_places raw
  refine ⟨?_, ⟨keptPlaces raw, List.pairwise_lt_range.filter _, fun _ => mem_keptPlaces_iff, hkept,
    ofVariables_kept raw⟩, ⟨refusedPlaces raw, List.pairwise_lt_range.filter _,
    fun _ => mem_refusedPlaces_iff, hrefused⟩, nodup_kept raw, ?_⟩
  · rw [← hkept.length_eq, ← hrefused.length_eq, length_places]
  · rintro before v after rfl hnot
    obtain ⟨flaw, hflaw⟩ := error_of_not_kept hnot
    exact ofVariables_of_refused hflaw after

theorem entries_accounted_of_unlabeled :
    let unlabeled : Value := .dict [("key".toList, .text ['a'])]
    let entry (label : Text) : Value :=
      .dict [("key".toList, .text ['a']), ("label".toList, .text label)]
    let raw : List Value := [.int 5, unlabeled, entry ['A'], entry ['B']]
    (¬ ∃ d, KeptAt raw 1 d) ∧
    ofVariables (some (.list raw)) = ([plain ['a'] ['A']],
      [.entry 0 .notAMapping, .entry 1 (.rejected [⟨.missing, [.name "label".toList]⟩]),
        .entry 3 (.duplicate ['a'] 2)]) ∧
    (ofVariables (some (.list [.int 5, entry ['A'], entry ['B']]))).1 = [plain ['a'] ['A']] := by
  intro unlabeled entry raw
  have hnot : ¬ ∃ d, KeptAt raw 1 d := by
    rintro ⟨d, ⟨v, hv, hd⟩, -⟩
    cases hv
    have herror : ofValue unlabeled = .error [⟨.missing, [.name "label".toList]⟩] := by
      decide +kernel
    rw [herror] at hd
    cases hd
  have hraw : ofVariables (some (.list raw)) = ([plain ['a'] ['A']],
      [.entry 0 .notAMapping, .entry 1 (.rejected [⟨.missing, [.name "label".toList]⟩]),
        .entry 3 (.duplicate ['a'] 2)]) := by
    decide +kernel
  obtain ⟨-, -, -, -, hrest⟩ := entries_accounted raw
  have hwithout := hrest [.int 5] unlabeled [entry ['A'], entry ['B']] rfl hnot
  exact ⟨hnot, hraw, hwithout.trans (congrArg Prod.fst hraw)⟩

end Definition

end PromptTemplate
