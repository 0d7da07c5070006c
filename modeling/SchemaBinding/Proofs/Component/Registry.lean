import SchemaBinding.Proofs.Component.Registration
import SchemaBinding.Proofs.Outcome
import Mathlib.Data.Finset.Card

namespace SchemaBinding

namespace SymbolTable

abbrev Registration := String × Symbol

def Registration.key (call : Registration) : SymbolKind × String :=
  (call.2.kind, call.1)

/-- What a registration leaves. A failure leaves the table as it was. -/
def afterCall (table : SymbolTable) (call : Registration) : SymbolTable :=
  match table.register call.1 call.2 with
  | .ok next => next
  | .error _ => table

def afterCalls (table : SymbolTable) (calls : List Registration) : SymbolTable :=
  calls.foldl afterCall table

/-- The registrations whose kind and name were not registered before. -/
def firsts : List Registration → List Registration
  | [] => []
  | call :: rest => call :: (firsts rest).filter fun other => other.key ≠ call.key

theorem get?_isSome_iff {table : SymbolTable} {call : Registration} :
    (table.entries.get? call.key).isSome = true ↔ call.key ∈ table.entries.keys := by
  rw [← not_iff_not, Bool.not_eq_true, Option.isSome_eq_false_iff, Option.isNone_iff_eq_none,
    Table.get?_eq_none_iff]

theorem register_new {table : SymbolTable} {call : Registration}
    (h : call.key ∉ table.entries.keys) :
    table.register call.1 call.2 =
      .ok { table with entries := table.entries ++ [(call.key, call.2.id.index)] } := by
  have hnone := Table.get?_eq_none_iff.mpr h
  rw [Registration.key] at hnone
  rw [register, hnone, ← Table.put_of_notMem h]
  rfl

theorem register_repeated {table : SymbolTable} {call : Registration}
    (h : call.key ∈ table.entries.keys) :
    table.register call.1 call.2 =
      if table.permissive then .ok table
      else .error (.duplicate call.2.kind call.1 table.document) := by
  obtain ⟨index, hindex⟩ := Option.isSome_iff_exists.mp (get?_isSome_iff.mpr h)
  rw [Registration.key] at hindex
  rw [register, hindex]

theorem afterCall_new {table : SymbolTable} {call : Registration}
    (h : call.key ∉ table.entries.keys) :
    table.afterCall call =
      { table with entries := table.entries ++ [(call.key, call.2.id.index)] } := by
  rw [afterCall, register_new h]

theorem afterCall_repeated {table : SymbolTable} {call : Registration}
    (h : call.key ∈ table.entries.keys) : table.afterCall call = table := by
  rw [afterCall, register_repeated h]
  cases table.permissive <;> rfl

def Registration.entry (call : Registration) : (SymbolKind × String) × Nat :=
  (call.key, call.2.id.index)

section

variable (calls : List Registration) {keys : List (SymbolKind × String)}
  {key : SymbolKind × String}

theorem filter_without_known (h : key ∈ keys) :
    ((calls.filter fun call => call.key ≠ key).filter fun call => call.key ∉ keys) =
      calls.filter fun call => call.key ∉ keys := by
  rw [List.filter_filter]
  apply List.filter_congr
  intro call _
  have hne : call.key ∉ keys → call.key ≠ key := fun hnew heq => hnew (heq ▸ h)
  simpa using hne

theorem filter_without_last :
    ((calls.filter fun call => call.key ≠ key).filter fun call => call.key ∉ keys) =
      calls.filter fun call => call.key ∉ keys ++ [key] := by
  rw [List.filter_filter]
  apply List.filter_congr
  intro call _
  simp

end

/-- The table takes over those first registrations whose kinds and names it lacks. -/
theorem afterCalls_eq (table : SymbolTable) (calls : List Registration) :
    table.afterCalls calls = { table with
      entries := table.entries ++
        ((firsts calls).filter fun call => call.key ∉ table.entries.keys).map
          Registration.entry } := by
  induction calls generalizing table with
  | nil => simp [afterCalls, firsts]
  | cons call rest ih =>
      rw [afterCalls, List.foldl_cons, firsts]
      change (table.afterCall call).afterCalls rest = _
      rw [ih]
      -- The rest is cleared of the key of the call, which the table has either way.
      by_cases hcall : call.key ∈ table.entries.keys
      case pos =>
          rw [afterCall_repeated hcall, List.filter_cons_of_neg (by simpa using hcall),
            filter_without_known _ hcall]
      case neg =>
          have hkeys : Table.keys (table.entries ++ [(call.key, call.2.id.index)]) =
              table.entries.keys ++ [call.key] := by
            simp [Table.keys]
          rw [afterCall_new hcall, List.filter_cons_of_pos (by simpa using hcall),
            filter_without_last]
          simp only [hkeys, List.map_cons, List.append_assoc, List.singleton_append]
          rfl

/-- Registers one after another, as long as none fails. -/
def registerAll (table : SymbolTable) (calls : List Registration) : Except Error SymbolTable :=
  calls.foldlM (fun table call => table.register call.1 call.2) table

theorem afterCalls_of_registerAll {table next : SymbolTable} {calls : List Registration}
    (h : table.registerAll calls = .ok next) : table.afterCalls calls = next := by
  induction calls generalizing table with
  | nil =>
      cases h
      rfl
  | cons call rest ih =>
      obtain ⟨between, hcall, hrest⟩ := bind_eq_ok_iff.mp h
      have hregister : table.register call.1 call.2 = .ok between := hcall
      have hafter : table.afterCall call = between := by rw [afterCall, hregister]
      rw [← hafter] at hrest
      exact ih hrest

/-! First registrations. -/

theorem mem_keys_firsts {calls : List Registration} {key : SymbolKind × String} :
    key ∈ (firsts calls).map Registration.key ↔ key ∈ calls.map Registration.key := by
  induction calls with
  | nil => rfl
  | cons call rest ih =>
      rw [firsts, List.map_cons, List.map_cons, List.mem_cons, List.mem_cons, ← ih]
      constructor
      · rintro (heq | hmem)
        · exact .inl heq
        · obtain ⟨other, hother, rfl⟩ := List.mem_map.mp hmem
          exact .inr (List.mem_map_of_mem (List.mem_of_mem_filter hother))
      · rintro (heq | hmem)
        · exact .inl heq
        · by_cases heq : key = call.key
          · exact .inl heq
          · obtain ⟨other, hother, rfl⟩ := List.mem_map.mp hmem
            have hkept : other ∈ (firsts rest).filter fun other => other.key ≠ call.key :=
              List.mem_filter.mpr ⟨hother, decide_eq_true heq⟩
            exact .inr (List.mem_map_of_mem hkept)

theorem nodup_keys_firsts (calls : List Registration) :
    ((firsts calls).map Registration.key).Nodup := by
  induction calls with
  | nil => exact List.nodup_nil
  | cons call rest ih =>
      rw [firsts, List.map_cons, List.nodup_cons]
      constructor
      · intro hmem
        obtain ⟨other, hother, heq⟩ := List.mem_map.mp hmem
        exact of_decide_eq_true (List.mem_filter.mp hother).2 heq
      · exact ih.sublist (List.filter_sublist.map Registration.key)

theorem find?_firsts (calls : List Registration) (key : SymbolKind × String) :
    (firsts calls).find? (fun call => call.key = key) =
      calls.find? fun call => call.key = key := by
  induction calls with
  | nil => rfl
  | cons call rest ih =>
      rw [firsts]
      by_cases hcall : call.key = key
      · rw [List.find?_cons_of_pos (by simpa using hcall),
          List.find?_cons_of_pos (by simpa using hcall)]
      · rw [List.find?_cons_of_neg (by simpa using hcall),
          List.find?_cons_of_neg (by simpa using hcall), ← ih, List.find?_filter]
        congr 1
        funext other
        have hother : other.key = key → other.key ≠ call.key := fun heq hsame =>
          hcall (hsame.symm.trans heq)
        simpa using hother

/-- A table holds the first of some registrations of each kind and name. -/
structure Keeps (calls : List Registration) (table : SymbolTable) : Prop where
  get? : ∀ kind name, (table.get? kind name).map (Symbol.mk kind) =
    (calls.find? fun call => call.key = (kind, name)).map Prod.snd
  size : table.size = (calls.map Registration.key).toFinset.card
  elements : table.elements.map (fun entry => ((entry.1, ⟨.element, entry.2⟩) : Registration)) =
    (firsts calls).filter fun call => call.2.kind = .element
  types : table.types.map (fun entry => ((entry.1, ⟨.type, entry.2⟩) : Registration)) =
    (firsts calls).filter fun call => call.2.kind = .type

theorem get?_map_entry (calls : List Registration) (key : SymbolKind × String) :
    Table.get? (calls.map Registration.entry) key =
      (calls.find? fun call => call.key = key).map fun call => call.2.id.index := by
  induction calls with
  | nil => rfl
  | cons call rest ih =>
      rw [List.map_cons, Registration.entry, Table.get?]
      by_cases hcall : call.key = key
      · rw [if_pos hcall, List.find?_cons_of_pos (by simpa using hcall)]
        rfl
      · rw [if_neg hcall, List.find?_cons_of_neg (by simpa using hcall), ih]

theorem filterMap_entry (calls : List Registration) (kind : SymbolKind) :
    ((calls.map Registration.entry).filterMap fun entry =>
        if entry.1.1 = kind then some (entry.1.2, (⟨entry.2⟩ : Id kind)) else none).map
      (fun entry => ((entry.1, ⟨kind, entry.2⟩) : Registration)) =
      calls.filter fun call => call.2.kind = kind := by
  induction calls with
  | nil => rfl
  | cons call rest ih =>
      obtain ⟨name, found, id⟩ := call
      rw [List.map_cons, List.filterMap_cons, List.filter_cons]
      by_cases hkind : found = kind
      · subst hkind
        simp [Registration.entry, Registration.key, ← ih, -List.filterMap_map]
      · simp [Registration.entry, Registration.key, hkind, ← ih, -List.filterMap_map]

section

variable (document : String) (permissive : Bool) (calls : List Registration)

def built : SymbolTable :=
  afterCalls { document := document, permissive := permissive } calls

theorem built_eq : built document permissive calls = {
    document := document
    permissive := permissive
    entries := (firsts calls).map Registration.entry } := by
  rw [built, afterCalls_eq]
  simp [Table.keys]

theorem keys_built : (built document permissive calls).entries.keys =
    (firsts calls).map Registration.key := by
  rw [built_eq, Table.keys, List.map_map]
  rfl

theorem get?_built (kind : SymbolKind) (name : String) :
    ((built document permissive calls).get? kind name).map (Symbol.mk kind) =
      (calls.find? fun call => call.key = (kind, name)).map Prod.snd := by
  rw [built_eq, get?, get?_map_entry, find?_firsts, Option.map_map, Option.map_map]
  apply Option.map_congr
  intro call hcall
  have hkey : call.key = (kind, name) := by simpa using List.find?_some hcall
  obtain ⟨other, found, id⟩ := call
  obtain ⟨rfl, rfl⟩ := Prod.mk.inj hkey
  rfl

theorem size_built : (built document permissive calls).size =
    (calls.map Registration.key).toFinset.card := by
  have hkeys : ((firsts calls).map Registration.key).toFinset =
      (calls.map Registration.key).toFinset := by
    ext key
    rw [List.mem_toFinset, List.mem_toFinset, mem_keys_firsts]
  rw [← hkeys, List.toFinset_card_of_nodup (nodup_keys_firsts calls), built_eq, size,
    List.length_map, List.length_map]

theorem symbols_built (kind : SymbolKind) :
    ((built document permissive calls).symbols kind).map
        (fun entry => ((entry.1, ⟨kind, entry.2⟩) : Registration)) =
      (firsts calls).filter fun call => call.2.kind = kind := by
  rw [built_eq, symbols, filterMap_entry]

theorem built_append (call : Registration) :
    built document permissive (calls ++ [call]) =
      (built document permissive calls).afterCall call := by
  rw [built, afterCalls, List.foldl_append]
  rfl

theorem register_built (call : Registration) :
    (built document permissive calls).register call.1 call.2 =
      if call.key ∈ calls.map Registration.key then
        if permissive then .ok (built document permissive calls)
        else .error (.duplicate call.2.kind call.1 document)
      else .ok (built document permissive (calls ++ [call])) := by
  have hkeys : call.key ∈ (built document permissive calls).entries.keys ↔
      call.key ∈ calls.map Registration.key := by
    rw [keys_built, mem_keys_firsts]
  have hpermissive : (built document permissive calls).permissive = permissive := by
    rw [built_eq]
  have hdocument : (built document permissive calls).document = document := by
    rw [built_eq]
  by_cases hcall : call.key ∈ calls.map Registration.key
  · rw [if_pos hcall, register_repeated (hkeys.mpr hcall), hpermissive, hdocument]
  · have hnew := fun hmem => hcall (hkeys.mp hmem)
    rw [if_neg hcall, register_new hnew, built_append, afterCall_new hnew]

theorem built_repeated {call : Registration} (h : call.key ∈ calls.map Registration.key) :
    built document permissive (calls ++ [call]) = built document permissive calls := by
  have hkeys : call.key ∈ (built document permissive calls).entries.keys := by
    rw [keys_built]
    exact mem_keys_firsts.mpr h
  rw [built_append]
  exact afterCall_repeated hkeys

theorem keeps_built : (built document permissive calls).Keeps calls where
  get? := get?_built document permissive calls
  size := size_built document permissive calls
  elements := symbols_built document permissive calls .element
  types := symbols_built document permissive calls .type

end

end SymbolTable

end SchemaBinding
