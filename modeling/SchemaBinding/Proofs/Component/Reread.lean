import SchemaBinding.Proofs.Component.Extent

namespace SchemaBinding

open Reading

inductive EntryMatches (pairing : Pairing) :
    (SymbolKind × String) × Nat → (SymbolKind × String) × Nat → Prop
  | mk {kind : SymbolKind} (name : String) {a b : Id kind} : pairing.id a b →
      EntryMatches pairing ((kind, name), a.index) ((kind, name), b.index)

structure SymbolTable.Matches (terms : Terms) (pairing : Pairing) (table other : SymbolTable) :
    Prop where
  document : table.document = other.document
  permissive : terms.Permits table.permissive other.permissive
  entries : List.Forall₂ (EntryMatches pairing) table.entries other.entries

structure Schema.Matches (terms : Terms) (pairing : Pairing) (schema other : Schema) : Prop where
  targetSpace : schema.targetSpace = other.targetSpace
  symbols : schema.symbols.Matches terms pairing other.symbols
  directives : schema.directives = other.directives

section

variable {pairing : Pairing} {entries others : Table (SymbolKind × String) Nat}
  (h : List.Forall₂ (EntryMatches pairing) entries others)

include h

theorem Table.get?_entries (kind : SymbolKind) (name : String) :
    Option.Rel (fun index index' => pairing.id (⟨index⟩ : Id kind) ⟨index'⟩)
      (entries.get? (kind, name)) (others.get? (kind, name)) := by
  induction h with
  | nil => exact .none
  | cons hentry _ ih =>
      cases hentry with
      | @mk other key a b hpaired =>
          rw [get?, get?]
          split
          case isTrue heq =>
              obtain ⟨rfl, rfl⟩ := Prod.mk.inj heq
              exact .some hpaired
          case isFalse => exact ih

theorem Table.put_entries {kind : SymbolKind} (name : String) {a b : Id kind}
    (hpaired : pairing.id a b) :
    List.Forall₂ (EntryMatches pairing) (entries.put (kind, name) a.index)
      (others.put (kind, name) b.index) := by
  induction h with
  | nil => exact .cons (.mk name hpaired) .nil
  | cons hentry hrest ih =>
      cases hentry with
      | @mk other key first second hold =>
          rw [put, put]
          split
          case isTrue heq =>
              obtain ⟨rfl, rfl⟩ := Prod.mk.inj heq
              exact .cons (.mk key hpaired) hrest
          case isFalse => exact .cons (.mk key hold) ih

end

theorem SymbolTable.Matches.get?_rel {terms : Terms} {pairing : Pairing}
    {table other : SymbolTable} (h : table.Matches terms pairing other) (kind : SymbolKind)
    (name : String) : Option.Rel pairing.id (table.get? kind name) (other.get? kind name) := by
  have hget := Table.get?_entries h.entries kind name
  simp only [SymbolTable.get?]
  generalize table.entries.get? (kind, name) = found at hget
  generalize other.entries.get? (kind, name) = found' at hget
  cases hget with
  | none => exact .none
  | some hpaired => exact .some hpaired

namespace Schema

variable {base : Base} {since : SymbolKind → Nat}

theorem inStep_register {table other : SymbolTable}
    (h : base.Holds since fun pairing => table.Matches base.terms pairing other) (name : String)
    {kind : SymbolKind} {a b : Id kind} (hid : base.Holds since fun pairing => pairing.id a b) :
    InStep base since (SymbolTable.Matches base.terms) (liftM (table.register name ⟨kind, a⟩))
      (liftM (other.register name ⟨kind, b⟩)) := by
  have hget := Table.get?_entries h.here.entries kind name
  simp only [SymbolTable.register]
  generalize table.entries.get? (kind, name) = found at hget ⊢
  generalize other.entries.get? (kind, name) = found' at hget ⊢
  cases hget with
  | none =>
      apply inStep_pure
      intro pairing hwithin
      obtain ⟨hdocument, hpermits, hentries⟩ := h pairing hwithin
      exact ⟨hdocument, hpermits, Table.put_entries hentries name (hid pairing hwithin)⟩
  | some _ =>
      rcases h.here.permissive with heq | ⟨heased, hstrict⟩
      · rw [heq, h.here.document]
        cases other.permissive with
        | true => exact inStep_pure h
        | false => exact inStep_fail _
      · rw [hstrict]
        intro _ _ _ _ _ _ _
        exact .eased heased

theorem lift_enter (schema : Schema) (directive? : Option Directive)
    (named : Option (String × Symbol)) :
    (liftM (schema.enter directive? named) : Reading Schema) = do
      let symbols ← liftM (schema.symbols.enter named)
      return ⟨schema.targetSpace, symbols, schema.directives ++ directive?.toList⟩ := by
  unfold enter
  cases schema.symbols.enter named <;> rfl

theorem inStep_enter {schema other : Schema}
    (h : base.Holds since fun pairing => schema.Matches base.terms pairing other)
    (directive? : Option Directive) {named named' : Option (String × Symbol)}
    (hnamed : base.Holds since fun pairing => Option.Rel (NamedMatches pairing) named named') :
    InStep base since (Schema.Matches base.terms) (liftM (schema.enter directive? named))
      (liftM (other.enter directive? named')) := by
  have hsymbols : base.Holds since fun pairing =>
      schema.symbols.Matches base.terms pairing other.symbols := h.imp fun _ => Matches.symbols
  have hentered : InStep base since (SymbolTable.Matches base.terms)
      (liftM (schema.symbols.enter named)) (liftM (other.symbols.enter named')) := by
    have hshape := hnamed.here
    cases hshape with
    | none => exact inStep_pure hsymbols
    | @some entry entry' hentry =>
        obtain ⟨name, symbol⟩ := entry
        obtain ⟨name', symbol'⟩ := entry'
        obtain ⟨hname, hsymbol⟩ := hentry
        cases hname
        cases hsymbol with
        | @mk kind a b _ =>
            have hid : base.Holds since fun pairing => pairing.id a b := by
              intro pairing hwithin
              cases hnamed pairing hwithin with
              | some hentry =>
                  cases hentry.2 with
                  | mk hpaired => exact hpaired
            exact inStep_register hsymbols name hid
  rw [lift_enter, lift_enter]
  apply hentered.bind
  intro later symbols symbols' hlater hmatches
  apply inStep_pure
  intro pairing hwithin
  have hschema := (h.mono hlater) pairing hwithin
  exact ⟨hschema.targetSpace, hmatches pairing hwithin, by rw [hschema.directives]⟩

theorem inStep_add {schema other : Schema}
    (h : base.Holds since fun pairing => schema.Matches base.terms pairing other)
    {child child' : Child} (hchild : child.InStep base child') :
    InStep base since (Schema.Matches base.terms) (schema.add child) (other.add child') := by
  rw [add_eq, add_eq, hchild.directive?_eq]
  apply (inStep_declared hchild).bind
  intro later named named' hlater hnamed
  exact inStep_enter (h.mono hlater) _ hnamed

theorem add_annotation (schema : Schema) {child : Child} (htag : child.tag = "annotation") :
    schema.add child = pure schema := by
  rw [add, htag]
  rfl

theorem foldlM_add_parts (root : Xml.Element) (schema : Schema) :
    (root.parts.map Child.of).foldlM add schema =
      (schemaParts root.children).foldlM add schema := by
  rw [← filter_schemaParts]
  exact foldlM_counts _ (fun schema _ => add_annotation schema) schema

theorem ends_read (base : Base) {document other : Xml.Document}
    (hroot : document.root.Akin base.terms other.root)
    {id id' : DocumentId} (hids : base.documents id id') (label : String)
    {permissive permissive' : Bool} (hpermits : base.terms.Permits permissive permissive')
    {first second : Model} (habreast : base.Abreast first second) :
    Ends base.terms (StepsTo base (Schema.Matches base.terms) first second)
      (read document id label permissive first) (read other id' label permissive' second) := by
  have hspace : targetSpaceOf document.root = targetSpaceOf other.root := by
    rw [targetSpaceOf, hroot.resembles.plain "targetNamespace" (by decide), targetSpaceOf]
  have hchildren : List.Forall₂ (Child.InStep base) (document.root.parts.map Child.of)
      (other.root.parts.map Child.of) := by
    rw [List.forall₂_map_left_iff, List.forall₂_map_right_iff]
    exact hroot.parts.imp (inStep_of base)
  have hstart : base.Holds first.size fun pairing =>
      Schema.Matches base.terms pairing (blank document.root label permissive)
        (blank other.root label permissive') :=
    fun _ _ => ⟨hspace, ⟨rfl, hpermits, .nil⟩, rfl⟩
  have hfold : InStep base first.size (Schema.Matches base.terms)
      ((schemaParts document.root.children).foldlM add (blank document.root label permissive))
      ((schemaParts other.root.children).foldlM add (blank other.root label permissive')) := by
    rw [← foldlM_add_parts, ← foldlM_add_parts]
    exact inStep_foldlM hchildren (fun _ _ _ _ _ hchild hschema => inStep_add hschema hchild) hstart
  have hschema := hroot.resembles.isSchema_eq "schema"
  cases hother : other.root.isSchema "schema" with
  | false =>
      simp only [read, hschema, hother, hroot.resembles.name]
      exact .error (.malformed _ _ _)
  | true =>
      simp only [read, hschema, hother]
      exact hfold ⟨id, document, targetSpaceOf document.root, permissive⟩
        ⟨id', other, targetSpaceOf other.root, permissive'⟩ ⟨hids, hspace, hpermits⟩ first second
        habreast fun _ => Nat.le_refl _

end Schema

/-! Readings under the same numbers. -/

def Pairing.same (documented : Prop) : Pairing where
  id := Eq
  document := Eq
  documented := documented

/-- Models whose components match one by one: they have the same numbers, refer to the same numbers
and agree in all but places, and in the documentation only where that counts. -/
def Model.Same (documented : Prop) (model other : Model) : Prop :=
  ∀ kind, List.Forall₂ (Component.Matches (.same documented)) (model.components kind).toList
    (other.components kind).toList

theorem Model.Same.empty (documented : Prop) : Model.Same documented {} {} := by
  intro kind
  cases kind <;> exact .nil

theorem Model.Same.size_eq {documented : Prop} {model other : Model}
    (h : model.Same documented other) (kind : SymbolKind) : model.size kind = other.size kind := by
  simpa using (h kind).length_eq

theorem Model.Same.push {documented : Prop} {model other : Model} (h : model.Same documented other)
    {kind : SymbolKind} {component counterpart : Component kind}
    (hmatches : component.Matches (.same documented) counterpart) :
    (model.push component).Same documented (other.push counterpart) := by
  intro shelf
  by_cases heq : shelf = kind
  · subst heq
    rw [components_push_self, components_push_self, Array.toList_push, Array.toList_push]
    exact List.rel_append (h shelf) (.cons hmatches .nil)
  · rw [components_push_other _ _ heq, components_push_other _ _ heq]
    exact h shelf

def Base.level (documented : Prop) (first second : Model) : Base where
  first := first
  second := second
  documents := Eq
  terms := { documented := documented }

section

variable {documented : Prop} {first second : Model} (hsame : first.Same documented second)

include hsame

theorem Base.level_within (limit : SymbolKind → Nat) :
    ((Base.level documented first second).upTo limit).Within (.same documented) where
  id {kind a b} hpaired := by
    have hsize := hsame.size_eq kind
    have hoffset : b.index + first.size kind = a.index + second.size kind := hpaired.2.2
    exact Id.eq_of_index (by omega)
  document heq := heq
  documented h := h

theorem Base.Abreast.same {model other : Model}
    (h : (Base.level documented first second).Abreast model other) :
    model.Same documented other := by
  induction h with
  | start => exact hsame
  | add _ hmatches ih => exact ih.push (hmatches _ (Base.level_within hsame _))

end

theorem Schema.Matches.eq {terms : Terms} {documented : Prop} {schema other : Schema}
    (h : schema.Matches terms (.same documented) other) (hterms : ¬ terms.eased) :
    schema = other := by
  obtain ⟨targetSpace, ⟨document, permissive, entries⟩, directives⟩ := schema
  obtain ⟨targetSpace', ⟨document', permissive', entries'⟩, directives'⟩ := other
  obtain ⟨rfl, ⟨rfl, hpermits, hentries⟩, rfl⟩ := h
  have hequal : entries = entries' := by
    rw [← List.forall₂_eq_eq_eq]
    apply hentries.imp
    rintro _ _ ⟨name, rfl⟩
    rfl
  rcases hpermits with rfl | ⟨heased, _⟩
  · rw [hequal]
  · exact absurd heased hterms

theorem Schema.concurs_read {documented : Prop} {document other : Xml.Document}
    (hroot : document.root.Akin { documented := documented } other.root) (id : DocumentId)
    (label : String) (permissive : Bool) {first second : Model}
    (hsame : first.Same documented second) :
    Concurs Error.Resembles
      (fun result result' => result.1 = result'.1 ∧ result.2.Same documented result'.2)
      (read document id label permissive first) (read other id label permissive second) := by
  have hends := ends_read (.level documented first second) hroot (rfl : id = id) label
    (.inl rfl : Terms.Permits _ permissive permissive) .start
  apply (hends.imp _).concurs not_false
  rintro result result' ⟨habreast, _, _, hschema⟩
  exact ⟨(hschema _ (Base.level_within hsame _)).eq not_false, habreast.same hsame⟩

end SchemaBinding
