import PromptTemplate.Proofs.Settings.Precedence

namespace PromptTemplate

theorem Environment.applyAll_unset {env : Environment} {os : List Override}
    (h : ∀ o ∈ os, env.get? o.name = none) (table : Assoc Value) :
    env.applyAll os table = (table, []) := by
  induction os with
  | nil => rfl
  | cons o os ih =>
      obtain ⟨ho, hos⟩ := List.forall_mem_cons.mp h
      simp [applyAll, apply, ho, ih hos]

namespace Settings

open Toml (Bare Entries)

variable {s : Settings} {env : Environment}

theorem ofTable?_toTable (hbytes : 0 < s.maxBytes) (hdepth : 0 < s.maxDepth) :
    ofTable? s.toTable = .ok s :=
  (ofTable?_eq_checked _).trans (InEffect.checked_of_gives hbytes hdepth ⟨rfl, rfl, rfl, rfl⟩)

theorem keys_toTable (s : Settings) : s.toTable.keys = keys :=
  rfl

theorem unknownKeys_toTable (s : Settings) : unknownKeys s.toTable = [] := by
  have hknown : (keys.filter fun k => !keys.contains k) = [] := by decide
  rw [unknownKeys, keys_toTable, hknown]
  exact List.mergeSort_nil

theorem load_toTable (hbytes : 0 < s.maxBytes) (hdepth : 0 < s.maxDepth)
    (henv : ∀ o ∈ Environment.overrides, env.get? o.name = none) :
    load env s.toTable = (.ok s, []) := by
  rw [load, Environment.applyAll_unset henv]
  simp [ofTable?_toTable hbytes hdepth, unknownKeys_toTable]

theorem plain_name (f : SequenceFormat) : Toml.Plain f.name := by
  cases f <;> decide

theorem entries_line {key w t : Text} {v : Value} {m : Assoc Value} (hkey : Bare key)
    (hv : Toml.Written v w) (h : Entries m t) : Entries ((key, v) :: m) (line key w ++ t) := by
  have hline : line key w ++ t = key ++ " = ".toList ++ w ++ '\n' :: t := by simp [line]
  rw [hline]
  exact .cons hkey hv h

theorem read?_toToml (s : Settings) :
    Toml.read? s.toToml = some [("engine".toList, .dict s.toTable)] := by
  have hbare : ∀ key ∈ keys, Bare key := by decide
  have hentries := entries_line (hbare maxBytesKey (by simp [keys])) (.int s.maxBytes)
    (entries_line (hbare maxDepthKey (by simp [keys])) (.int s.maxDepth)
      (entries_line (hbare formatKey (by simp [keys])) (.text (plain_name s.format))
        (entries_line (hbare fallbackKey (by simp [keys])) (.bool s.fallback) .nil)))
  have hkeys : s.toTable.keys.Nodup := by
    rw [keys_toTable]
    decide
  have hname : Bare "engine".toList := by decide
  have hread := Toml.read?_table hname hentries hkeys
  rw [List.append_nil] at hread
  rw [toToml, List.append_assoc, List.append_assoc, List.append_assoc]
  exact hread

theorem loaded_as_written (hbytes : 0 < s.maxBytes) (hdepth : 0 < s.maxDepth)
    (henv : ∀ o ∈ Environment.overrides, env.get? o.name = none) (path : Text) :
    Toml.read? s.toToml = some [("engine".toList, .dict s.toTable)] ∧
    ofSource env (some (.present path (Text.toUtf8 s.toToml))) none = (.ok s, []) ∧
    ofSource env none (some s.toTable) = (.ok s, []) ∧
    ofTable? s.toTable = .ok s := by
  have hread := read?_toToml s
  have hfile : Supplies (some (.present path (Text.toUtf8 s.toToml))) none s.toTable :=
    .engine (Text.ofUtf8_toUtf8 _) hread rfl
  have hload := load_toTable hbytes hdepth henv
  rw [ofSource_of_supplies hfile, ofSource_of_supplies (.given _)]
  exact ⟨hread, hload, hload, ofTable?_toTable hbytes hdepth⟩

theorem loaded_as_written_of_large :
    let s : Settings :=
      ⟨1208925819614629174706176, 1000000000000000000000000000007, .bullet, false⟩
    let env : Environment := [("HOME".toList, "/root".toList)]
    let path : Text := "conf/engine.toml".toList
    s.toToml =
"[engine]
max_template_bytes = 1208925819614629174706176
max_nesting_depth = 1000000000000000000000000000007
default_format = \"bullet\"
fallback_on_error = false
".toList ∧
    ofSource env (some (.present path (Text.toUtf8 s.toToml))) none = (.ok s, []) ∧
    ofTable? s.toTable = .ok s := by
  intro s env path
  have henv : ∀ o ∈ Environment.overrides, env.get? o.name = none := by
    simp only [Environment.overrides, List.forall_mem_cons]
    exact ⟨rfl, rfl, rfl, rfl, List.forall_mem_nil _⟩
  obtain ⟨-, hfile, -, htable⟩ :=
    loaded_as_written (s := s) (by decide) (by decide) henv path
  exact ⟨by decide +kernel, hfile, htable⟩

end Settings

end PromptTemplate
