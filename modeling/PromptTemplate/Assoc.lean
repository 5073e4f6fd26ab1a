import PromptTemplate.Text.Basic

namespace PromptTemplate

abbrev Assoc (α : Type) := List (Text × α)

namespace Assoc

variable {α : Type}

def get? (key : Text) : Assoc α → Option α
  | [] => none
  | (k, v) :: r => if k = key then some v else get? key r

def keys (m : Assoc α) : List Text :=
  m.map (·.1)

def put (key : Text) (value : α) : Assoc α → Assoc α
  | [] => [(key, value)]
  | (k, v) :: r => if k = key then (key, value) :: r else (k, v) :: put key value r

def erase (key : Text) (m : Assoc α) : Assoc α :=
  m.filter fun e => e.1 ≠ key

def merge (m n : Assoc α) : Assoc α :=
  n.foldl (fun acc e => put e.1 e.2 acc) m

def ofList (entries : List (Text × α)) : Assoc α :=
  merge [] entries

def firsts (entries : List (Text × α)) : Assoc α :=
  entries.foldl (fun acc e => if (get? e.1 acc).isSome then acc else acc ++ [e]) []

theorem get?_put_self (key : Text) (value : α) (m : Assoc α) :
    get? key (put key value m) = some value := by
  induction m with
  | nil => simp [put, get?]
  | cons e r ih =>
      obtain ⟨k, v⟩ := e
      by_cases h : k = key
      · simp [put, get?, h]
      · simp [put, get?, h, ih]

theorem get?_put_of_ne {key k : Text} (h : k ≠ key) (value : α) (m : Assoc α) :
    get? k (put key value m) = get? k m := by
  induction m with
  | nil => simp [put, get?, Ne.symm h]
  | cons e r ih =>
      obtain ⟨k', v⟩ := e
      by_cases hk : k' = key
      · subst hk; simp [put, get?, Ne.symm h]
      · by_cases hk' : k' = k
        · simp [put, get?, hk']
          simp [← hk', hk, get?]
        · simp [put, get?, hk, hk', ih]

theorem get?_append (key : Text) (m n : Assoc α) :
    get? key (m ++ n) = (get? key m).or (get? key n) := by
  induction m with
  | nil => rfl
  | cons e r ih =>
      obtain ⟨k, v⟩ := e
      by_cases h : k = key
      · simp [get?, h]
      · simp [get?, h, ih]

theorem mem_of_get?_eq_some {key : Text} {value : α} {m : Assoc α} (h : get? key m = some value) :
    (key, value) ∈ m := by
  induction m with
  | nil => simp [get?] at h
  | cons e r ih =>
      obtain ⟨k, v⟩ := e
      by_cases hk : k = key
      · simp only [get?, hk, if_true, Option.some.injEq] at h
        simp [hk, h]
      · simp only [get?, hk, if_false] at h
        exact List.mem_cons_of_mem _ (ih h)

theorem get?_eq_none_iff {key : Text} {m : Assoc α} : get? key m = none ↔ key ∉ m.keys := by
  induction m with
  | nil => simp [get?, keys]
  | cons e r ih =>
      obtain ⟨k, v⟩ := e
      by_cases h : k = key
      · simp [get?, keys, h]
      · have hne : key ≠ k := Ne.symm h
        simpa [get?, keys, h, hne] using ih

theorem get?_merge {m n : Assoc α} (h : n.keys.Nodup) (key : Text) :
    get? key (merge m n) = (get? key n).or (get? key m) := by
  induction n generalizing m with
  | nil => rfl
  | cons e n ih =>
      obtain ⟨k, v⟩ := e
      obtain ⟨hk, hn⟩ := List.nodup_cons.mp h
      have hstep : merge m ((k, v) :: n) = merge (put k v m) n := rfl
      rw [hstep, ih hn]
      by_cases hkey : k = key
      · subst hkey
        have hnone : get? k n = none := get?_eq_none_iff.mpr hk
        simp [get?, hnone, get?_put_self]
      · simp [get?, hkey, get?_put_of_ne (Ne.symm hkey)]

theorem get?_ofList {entries : List (Text × α)} (h : (keys entries).Nodup) (key : Text) :
    get? key (ofList entries) = get? key entries := by
  rw [ofList, get?_merge h]
  simp [get?]

theorem get?_firsts (entries : List (Text × α)) (key : Text) :
    get? key (firsts entries) = get? key entries := by
  have hfold (rest acc : List (Text × α)) : get? key (rest.foldl (fun acc e =>
      if (get? e.1 acc).isSome then acc else acc ++ [e]) acc) =
        (get? key acc).or (get? key rest) := by
    induction rest generalizing acc with
    | nil => simp [get?]
    | cons e rest ih =>
        obtain ⟨k, v⟩ := e
        rw [List.foldl_cons, ih]
        by_cases hkey : k = key
        · subst hkey
          cases hthere : get? k acc <;> simp [hthere, get?_append, get?]
        · by_cases hthere : (get? k acc).isSome <;> simp [hthere, get?_append, get?, hkey]
  exact hfold entries []

theorem subset_of_firsts (entries : List (Text × α)) : firsts entries ⊆ entries := by
  have hfold (rest acc : List (Text × α)) : rest.foldl (fun acc e =>
      if (get? e.1 acc).isSome then acc else acc ++ [e]) acc ⊆ acc ++ rest := by
    induction rest generalizing acc with
    | nil => simp
    | cons e rest ih =>
        refine List.Subset.trans (ih _) ?_
        by_cases hthere : (get? e.1 acc).isSome <;> simp [hthere]
  exact hfold entries []

end Assoc

end PromptTemplate
