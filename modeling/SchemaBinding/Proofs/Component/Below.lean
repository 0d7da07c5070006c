import SchemaBinding.Proofs.Component.Stems

namespace SchemaBinding

/-- The names around what a definition holds. A declaration stands in no other one, and names what
it holds itself. -/
def SymbolKind.around (kind : SymbolKind) (name : String) : List String :=
  match kind with
  | .element => []
  | .attribute => []
  | _ => [name]

def Declaration.around (path : List String) : Declaration → List String
  | .named name _ => path ++ [name]
  | .reference _ => path

def Component.around (path : List String) : {kind : SymbolKind} → Component kind → List String
  | .element, element => (ElementDecl.declaration element).around path
  | .attribute, declared => (AttributeDecl.declaration declared).around path
  | _, _ => path

/-- What is found below a definition of a name, within the declarations on a path. -/
inductive Model.Below (model : Model) {kind : SymbolKind} (name : String) (top : Id kind) :
    List String → Symbol → Prop
  | top : Model.Below model name top (kind.around name) ⟨kind, top⟩
  | inside {path : List String} {other : SymbolKind} {id : Id other} {component : Component other}
      {symbol : Symbol} : Model.Below model name top path ⟨other, id⟩ →
        model.component? id = some component → symbol ∈ component.mentions.symbols →
          Model.Below model name top (component.around path) symbol

/-- What owns what stands within the declarations on a path. -/
def scopeOf (path : List String) : Option String :=
  if path = [] then none else some (Text.joinWith "_" path)

theorem joinWith_concat (between : String) {names : List String} (h : names ≠ []) (name : String) :
    Text.joinWith between (names ++ [name]) = Text.joinWith between names ++ between ++ name := by
  fun_induction Text.joinWith between names with
  | case1 => exact absurd rfl h
  | case2 first => rfl
  | case3 first second rest ih =>
      have hrest := ih (List.cons_ne_nil second rest)
      rw [List.cons_append] at hrest
      simp only [List.cons_append, Text.joinWith, hrest, String.append_assoc]

theorem scopeOf_concat (path : List String) (name : String) :
    scopeOf (path ++ [name]) = some (ownerIn (scopeOf path) name) := by
  rw [scopeOf, if_neg (List.append_ne_nil_of_right_ne_nil path (List.cons_ne_nil name []))]
  by_cases hpath : path = []
  · rw [hpath]
    rfl
  · rw [scopeOf, if_neg hpath, joinWith_concat "_" hpath]
    rfl

theorem scopeOf_ne_none {path : List String} (h : path ≠ []) :
    scopeOf path = some (Text.joinWith "_" path) :=
  if_neg h

theorem Declaration.exists_around (declaration : Declaration) (name : String)
    (rest : List String) : ∃ more, declaration.around (name :: rest) = name :: more := by
  cases declaration <;> exact ⟨_, rfl⟩

theorem Component.exists_around {kind : SymbolKind} (component : Component kind) (name : String)
    (rest : List String) : ∃ more, component.around (name :: rest) = name :: more := by
  cases kind with
  | element => exact Declaration.exists_around _ name rest
  | «attribute» => exact Declaration.exists_around _ name rest
  | type => exact ⟨rest, rfl⟩
  | attributeGroup => exact ⟨rest, rfl⟩
  | group => exact ⟨rest, rfl⟩

namespace Model

/-- A component has the owner that the names around it make, and belongs to a namespace. What is
inside a named type or a group is owned by that name. -/
def Stands (model : Model) (space : Option String) (path : List String) : Symbol → Prop
  | ⟨.type, id⟩ => path ≠ [] ∧ ∃ type, model.type? id = some type ∧ type.space = space ∧
      (type.owner <|> type.name) = scopeOf path
  | ⟨.attributeGroup, id⟩ => ∃ group, model.attributeGroup? id = some group ∧
      group.space = space ∧ path = [group.name]
  | ⟨.group, id⟩ => ∃ group, model.group? id = some group ∧ group.space = space ∧
      path = [group.name]
  | symbol => model.Owns space (scopeOf path) symbol

variable {model : Model} {space : Option String} {path : List String}

theorem stands_of_owns {symbol : Symbol} (hpath : path ≠ [])
    (h : model.Owns space (scopeOf path) symbol) : model.Stands space path symbol := by
  obtain ⟨kind, id⟩ := symbol
  cases kind with
  | type =>
      obtain ⟨type, htype, howner, hspace⟩ := h
      refine ⟨hpath, type, htype, hspace, ?_⟩
      rw [howner, scopeOf_ne_none hpath]
      rfl
  | element => exact h
  | «attribute» => exact h
  | attributeGroup =>
      rw [scopeOf_ne_none hpath] at h
      cases h.1
  | group =>
      rw [scopeOf_ne_none hpath] at h
      cases h.1

theorem stands_of_top {kind : SymbolKind} {top : Id kind} {name : String}
    (howns : model.Owns space none ⟨kind, top⟩) (htitles : model.Titles (some name) ⟨kind, top⟩) :
    model.Stands space (kind.around name) ⟨kind, top⟩ := by
  cases kind with
  | type =>
      obtain ⟨type, htype, howner, hspace⟩ := howns
      obtain ⟨found, hfound, hname⟩ := htitles
      cases htype.symm.trans hfound
      refine ⟨List.cons_ne_nil _ _, type, htype, hspace, ?_⟩
      rw [howner, hname]
      rfl
  | element => exact howns
  | «attribute» => exact howns
  | attributeGroup =>
      obtain ⟨_, group, hgroup, hspace⟩ := howns
      obtain ⟨found, hfound, hname⟩ := htitles
      cases hgroup.symm.trans hfound
      cases hname
      exact ⟨group, hgroup, hspace, rfl⟩
  | group =>
      obtain ⟨_, group, hgroup, hspace⟩ := howns
      obtain ⟨found, hfound, hname⟩ := htitles
      cases hgroup.symm.trans hfound
      cases hname
      exact ⟨group, hgroup, hspace, rfl⟩

theorem stands_inline {declaration : Declaration}
    (howned : declaration.OwnedIn model space (scopeOf path)) {symbol : Symbol}
    (hsymbol : symbol ∈ declaration.mentions.symbols) :
    model.Stands space (declaration.around path) symbol := by
  cases declaration with
  | reference name => cases hsymbol
  | named name type =>
      cases type with
      | none => cases hsymbol
      | some type =>
          cases type with
          | named other => cases hsymbol
          | inline id =>
              cases List.mem_singleton.mp hsymbol
              obtain ⟨type, htype, howner, hspace⟩ := howned name id rfl
              apply stands_of_owns (List.append_ne_nil_of_right_ne_nil path (List.cons_ne_nil _ _))
              rw [scopeOf_concat]
              exact ⟨type, htype, howner, hspace⟩

def Sprung (model : Model) : Prop :=
  ∀ (kind : SymbolKind) (id : Id kind) (component : Component kind),
    model.component? id = some component → ∃ origin, component.Stems origin model

theorem stands_inside (hsprung : model.Sprung) {kind : SymbolKind} {id : Id kind}
    {component : Component kind} (hstands : model.Stands space path ⟨kind, id⟩)
    (hcomponent : model.component? id = some component) {symbol : Symbol}
    (hsymbol : symbol ∈ component.mentions.symbols) :
    model.Stands space (component.around path) symbol := by
  obtain ⟨origin, hstems⟩ := hsprung kind id component hcomponent
  cases kind with
  | type =>
      obtain ⟨hpath, type, htype, hspace, howner⟩ := hstands
      cases htype.symm.trans hcomponent
      obtain ⟨_, horigin, hsound⟩ := hstems
      have howns := hsound.owned symbol hsymbol
      rw [howner, ← horigin, hspace] at howns
      exact stands_of_owns hpath howns
  | element =>
      obtain ⟨element, helement, howned⟩ := hstands
      cases helement.symm.trans hcomponent
      have hinline := List.mem_append.mp hsymbol
      exact stands_inline howned (hinline.resolve_right List.not_mem_nil)
  | «attribute» =>
      obtain ⟨declared, hdeclared, howned⟩ := hstands
      cases hdeclared.symm.trans hcomponent
      have hinline := List.mem_append.mp hsymbol
      exact stands_inline howned (hinline.resolve_right List.not_mem_nil)
  | attributeGroup =>
      obtain ⟨group, hgroup, hspace, rfl⟩ := hstands
      cases hgroup.symm.trans hcomponent
      obtain ⟨horigin, hsound⟩ := hstems
      have howns := hsound.owned symbol hsymbol
      rw [← horigin, hspace] at howns
      exact stands_of_owns (List.cons_ne_nil _ _) howns
  | group =>
      obtain ⟨group, hgroup, hspace, rfl⟩ := hstands
      cases hgroup.symm.trans hcomponent
      obtain ⟨horigin, hsound⟩ := hstems
      have howns := hsound.owned symbol hsymbol
      rw [← horigin, hspace] at howns
      exact stands_of_owns (List.cons_ne_nil _ _) howns

theorem stands_of_below (hsprung : model.Sprung) {kind : SymbolKind} {top : Id kind}
    {name : String} (htop : model.Stands space (kind.around name) ⟨kind, top⟩) {symbol : Symbol}
    (h : model.Below name top path symbol) : model.Stands space path symbol := by
  induction h with
  | top => exact htop
  | inside _ hcomponent hsymbol ih => exact stands_inside hsprung ih hcomponent hsymbol

/-- What is inside a declaration that stands in no other has its name alone around it. -/
theorem around_nil {declaration : Declaration} {name : String}
    (hname : ∀ other type, declaration = .named other type → some name = some other)
    {symbol : Symbol} (hsymbol : symbol ∈ declaration.mentions.symbols) :
    declaration.around [] = [name] := by
  cases declaration with
  | reference target => cases hsymbol
  | named other type =>
      cases hname other type rfl
      rfl

theorem cases_of_below {kind : SymbolKind} {top : Id kind} {name : String}
    (htitles : model.Titles (some name) ⟨kind, top⟩) {symbol : Symbol}
    (h : model.Below name top path symbol) :
    (kind.around name = [] ∧ path = [] ∧ symbol = ⟨kind, top⟩) ∨ ∃ rest, path = name :: rest := by
  induction h with
  | top =>
      cases kind with
      | element => exact .inl ⟨rfl, rfl, rfl⟩
      | «attribute» => exact .inl ⟨rfl, rfl, rfl⟩
      | type => exact .inr ⟨[], rfl⟩
      | attributeGroup => exact .inr ⟨[], rfl⟩
      | group => exact .inr ⟨[], rfl⟩
  | @inside path other id component symbol hbelow hcomponent hsymbol ih =>
      right
      rcases ih with ⟨hnil, rfl, heq⟩ | ⟨rest, rfl⟩
      · cases heq
        refine ⟨[], ?_⟩
        cases kind with
        | element =>
            obtain ⟨element, helement, hname⟩ := htitles
            cases helement.symm.trans hcomponent
            have hinline := List.mem_append.mp hsymbol
            exact around_nil hname (hinline.resolve_right List.not_mem_nil)
        | «attribute» =>
            obtain ⟨declared, hdeclared, hname⟩ := htitles
            cases hdeclared.symm.trans hcomponent
            have hinline := List.mem_append.mp hsymbol
            exact around_nil hname (hinline.resolve_right List.not_mem_nil)
        | type => cases hnil
        | attributeGroup => cases hnil
        | group => cases hnil
      · exact component.exists_around name rest

/-! Models that come from documents. -/

/-- Models into which documents are read one after another. -/
inductive OfDocuments : Model → Prop
  | empty : OfDocuments {}
  | read {model next : Model} {document : Xml.Document} {id : DocumentId} {label : String}
      {permissive : Bool} {schema : Schema} : OfDocuments model →
        Schema.read document id label permissive model = .ok (schema, next) → OfDocuments next

theorem Sprung.gained {origin : Origin} {after : Model} (h : model.Sprung)
    (hgained : Reading.Gained origin model after) : after.Sprung := by
  intro kind id component hcomponent
  by_cases hold : id.index < model.size kind
  · rw [hgained.1.component? id hold] at hcomponent
    obtain ⟨source, hstems⟩ := h kind id component hcomponent
    exact ⟨source, hstems.mono hgained.1⟩
  · exact ⟨origin, hgained.2 id component (Nat.le_of_not_lt hold) hcomponent⟩

theorem OfDocuments.sprung (h : model.OfDocuments) : model.Sprung := by
  induction h with
  | empty =>
      intro kind id component hcomponent
      have hlt := Model.index_lt_of_component? hcomponent
      cases kind <;> exact absurd hlt (Nat.not_lt_zero _)
  | read _ hread ih => exact ih.gained (Schema.makes_read hread).1

end Model

end SchemaBinding
