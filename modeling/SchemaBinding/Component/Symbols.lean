import SchemaBinding.Component.Basic

namespace SchemaBinding

structure Symbol where
  kind : SymbolKind
  id : Id kind
  deriving DecidableEq, Repr

structure SymbolTable where
  /-- The document that declares the symbols, as messages name it. -/
  document : String
  /-- Whether a repeated definition is passed over instead of being an error. -/
  permissive : Bool
  entries : Table (SymbolKind × String) Nat := []
  deriving DecidableEq, Repr

namespace SymbolTable

def get? (table : SymbolTable) (kind : SymbolKind) (name : String) : Option (Id kind) :=
  (table.entries.get? (kind, name)).map Id.mk

def register (table : SymbolTable) (name : String) (symbol : Symbol) :
    Except Error SymbolTable :=
  match table.entries.get? (symbol.kind, name) with
  | none =>
      .ok { table with entries := table.entries.put (symbol.kind, name) symbol.id.index }
  | some _ =>
      if table.permissive then .ok table
      else .error (.duplicate symbol.kind name table.document)

/-- The symbols of a kind with their names, in order of registration. -/
def symbols (table : SymbolTable) (kind : SymbolKind) : List (String × Id kind) :=
  table.entries.filterMap fun entry =>
    if entry.1.1 = kind then some (entry.1.2, ⟨entry.2⟩) else none

def elements (table : SymbolTable) : List (String × ElementId) :=
  table.symbols .element

def types (table : SymbolTable) : List (String × TypeId) :=
  table.symbols .type

def size (table : SymbolTable) : Nat :=
  table.entries.length

def isEmpty (table : SymbolTable) : Bool :=
  table.size == 0

theorem get?_register_self {table next : SymbolTable} {name : String} {symbol : Symbol}
    (hnew : table.get? symbol.kind name = none)
    (h : table.register name symbol = .ok next) :
    next.get? symbol.kind name = some symbol.id := by
  have hnone : table.entries.get? (symbol.kind, name) = none := by
    simpa [get?] using hnew
  rw [register, hnone] at h
  cases h
  simp [get?, Table.get?_put_self]

theorem get?_register_of_some {table next : SymbolTable} {name other : String}
    {symbol : Symbol} {kind : SymbolKind} {id : Id kind}
    (hget : table.get? kind other = some id) (h : table.register name symbol = .ok next) :
    next.get? kind other = some id := by
  rw [register] at h
  cases hentry : table.entries.get? (symbol.kind, name) with
  | some _ =>
      rw [hentry] at h
      by_cases hp : table.permissive = true <;> simp [hp] at h
      rw [← h]
      exact hget
  | none =>
      rw [hentry] at h
      cases h
      have hne : (kind, other) ≠ (symbol.kind, name) := by
        intro heq
        rw [← heq] at hentry
        simp [get?, hentry] at hget
      simpa [get?, Table.get?_put_other table.entries _ hne] using hget

end SymbolTable

end SchemaBinding
