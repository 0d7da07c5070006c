import SchemaBinding.Component.Schema

namespace SchemaBinding

theorem Table.get?_eq_some_iff {α β : Type} [DecidableEq α] {table : Table α β}
    (hnodup : table.keys.Nodup) {key : α} {value : β} :
    table.get? key = some value ↔ (key, value) ∈ table := by
  induction table with
  | nil => simp [get?]
  | cons entry rest ih =>
      obtain ⟨other, found⟩ := entry
      obtain ⟨hnew, hrest⟩ := List.nodup_cons.mp hnodup
      rw [get?, List.mem_cons, Prod.mk.injEq]
      split
      case isTrue heq =>
          subst heq
          have hnone : (other, value) ∉ rest := fun hmem =>
            hnew (List.mem_map.mpr ⟨(other, value), hmem, rfl⟩)
          simp [hnone, eq_comm]
      case isFalse hne =>
          rw [ih hrest]
          simp [Ne.symm hne]

namespace SymbolTable

/-- No kind and name are registered twice. -/
def Distinct (table : SymbolTable) : Prop :=
  table.entries.keys.Nodup

theorem mem_symbols_iff {table : SymbolTable} {kind : SymbolKind} {name : String}
    {id : Id kind} :
    (name, id) ∈ table.symbols kind ↔ ((kind, name), id.index) ∈ table.entries := by
  rw [symbols, List.mem_filterMap]
  constructor
  · rintro ⟨⟨⟨other, found⟩, index⟩, hentry, h⟩
    split at h
    case isTrue heq =>
        cases heq
        cases h
        exact hentry
    case isFalse => cases h
  · intro hentry
    exact ⟨_, hentry, if_pos rfl⟩

theorem Distinct.get?_eq_some_iff {table : SymbolTable} (h : table.Distinct)
    {kind : SymbolKind} {name : String} {id : Id kind} :
    table.get? kind name = some id ↔ (name, id) ∈ table.symbols kind := by
  rw [mem_symbols_iff, ← Table.get?_eq_some_iff h, get?, Option.map_eq_some_iff]
  constructor
  · rintro ⟨index, hindex, rfl⟩
    exact hindex
  · intro hindex
    exact ⟨id.index, hindex, rfl⟩

theorem Distinct.register {table next : SymbolTable} (h : table.Distinct) {name : String}
    {symbol : Symbol} (hnext : table.register name symbol = .ok next) : next.Distinct := by
  unfold SymbolTable.register at hnext
  split at hnext
  case h_1 =>
      cases hnext
      exact Table.nodup_keys_put h _ _
  case h_2 =>
      split at hnext
      · cases hnext
        exact h
      · cases hnext

end SymbolTable

namespace Reading

variable {α β : Type} {Good : α → Prop}

def Gives (Good : α → Prop) (work : Reading α) : Prop :=
  ∀ origin model value after, work origin model = .ok (value, after) → Good value

theorem gives_pure {value : α} (h : Good value) : Gives Good (pure value) := by
  intro origin model found after heq
  cases heq
  exact h

theorem gives_lift {result : Except Error α} (h : ∀ value, result = .ok value → Good value) :
    Gives Good (liftM result) := by
  intro origin model found after heq
  cases result with
  | error error => cases heq
  | ok found =>
      cases heq
      exact h found rfl

theorem Gives.bind {Fine : β → Prop} {work : Reading α} {next : α → Reading β}
    (hwork : Gives Good work) (hnext : ∀ value, Good value → Gives Fine (next value)) :
    Gives Fine (work >>= next) := by
  intro origin model found after heq
  simp only [Bind.bind, ReaderT.bind, StateT.bind, Except.bind] at heq
  cases hresult : work origin model with
  | error error =>
      rw [hresult] at heq
      cases heq
  | ok result =>
      rw [hresult] at heq
      exact hnext result.1 (hwork origin model _ _ hresult) origin _ _ _ heq

theorem gives_next {Fine : β → Prop} {work : Reading α} {next : α → Reading β}
    (hnext : ∀ value, Gives Fine (next value)) : Gives Fine (work >>= next) := by
  have hwork : Gives (fun _ => True) work := fun _ _ _ _ _ => trivial
  exact hwork.bind fun value _ => hnext value

theorem gives_foldlM {step : α → β → Reading α} (hstep : ∀ value item, Good value →
    Gives Good (step value item)) {start : α} (hstart : Good start) (items : List β) :
    Gives Good (items.foldlM step start) := by
  induction items generalizing start with
  | nil => exact gives_pure hstart
  | cons item rest ih =>
      rw [List.foldlM_cons]
      exact (hstep start item hstart).bind fun next hnext => ih hnext

end Reading

namespace Schema

open Reading

def HasDistinct (schema : Schema) : Prop :=
  schema.symbols.Distinct

theorem gives_declared {schema : Schema} (h : schema.HasDistinct) (child : Child)
    (kind : SymbolKind) (component : String → Reading (Id kind)) :
    Gives HasDistinct (schema.declared child kind component) := by
  refine gives_next fun name => gives_next fun id => ?_
  have htable : Gives SymbolTable.Distinct (liftM (schema.symbols.register name ⟨kind, id⟩)) :=
    gives_lift fun _ => h.register
  exact htable.bind fun _ hdistinct => gives_pure hdistinct

theorem gives_add {schema : Schema} (h : schema.HasDistinct) (child : Child) :
    Gives HasDistinct (schema.add child) := by
  unfold add
  split
  · exact gives_next fun _ => gives_pure h
  · exact gives_pure h
  · exact gives_declared h child .element _
  · exact gives_declared h child .attribute _
  · exact gives_declared h child .type _
  · exact gives_declared h child .type _
  · exact gives_declared h child .attributeGroup _
  · exact gives_declared h child .group _
  · exact gives_pure h

theorem hasDistinct_of_read {document : Xml.Document} {id : DocumentId} {label : String}
    {permissive : Bool} {model next : Model} {schema : Schema}
    (h : read document id label permissive model = .ok (schema, next)) : schema.HasDistinct := by
  cases hroot : document.root.isSchema "schema" with
  | false =>
      simp only [read, hroot] at h
      cases h
  | true =>
      simp only [read, hroot] at h
      have hstart : HasDistinct ⟨targetSpaceOf document.root,
          { document := label, permissive := permissive }, []⟩ := List.nodup_nil
      exact gives_foldlM (fun _ child hgood => gives_add hgood child) hstart
        (schemaParts document.root.children) _ _ _ _ h

end Schema

end SchemaBinding
