import SchemaBinding.Proofs.Resolution.PairedRules
import SchemaBinding.Proofs.Resolution.Query
import SchemaBinding.Proofs.SchemaSet.Range

namespace SchemaBinding

/-- A value with a property, or a failure with another one. -/
inductive Lands {α : Type} (fails : Error → Prop) (good : α → Prop) : Except Error α → Prop
  | ok {value : α} : good value → Lands fails good (.ok value)
  | error {error : Error} : fails error → Lands fails good (.error error)

theorem Lands.imp {α : Type} {fails loose : Error → Prop} {good fine : α → Prop}
    {result : Except Error α} (h : Lands fails good result)
    (hloose : ∀ error, fails error → loose error) (hfine : ∀ value, good value → fine value) :
    Lands loose fine result := by
  cases h with
  | ok hgood => exact .ok (hfine _ hgood)
  | error hfails => exact .error (hloose _ hfails)

/-- The failures that quote a document of the set or name components of it, and no others. -/
inductive SchemaSet.Shows (set : SchemaSet) : Error → Prop
  | unresolved (kind : SymbolKind) (name : String) {span : Span} : set.Loaded span.document →
      Shows set (.unresolved kind name (set.fragment span))
  | malformed (flaw : Flaw) {span : Span} : set.Loaded span.document →
      Shows set (.malformed flaw (set.fragment span))
  | cyclic {kind : SymbolKind} {ids : List (Id kind)} :
      set.Knows (ids.map (Symbol.mk kind)) → Shows set (.cyclic kind (ids.map (set.label kind)))

def TypeTarget.symbols : TypeTarget → List Symbol
  | .builtin _ => []
  | .simple id => [⟨.type, id⟩]
  | .complex id => [⟨.type, id⟩]

def SchemaSet.Target.symbols {kind : SymbolKind} (target : SchemaSet.Target kind) : List Symbol :=
  ⟨kind, target.id⟩ :: (Mentions.all TypeRef.mentions target.type.toList).symbols

def Member.symbols (member : Member) : List Symbol :=
  match member.source with
  | .declaredAttribute id => [⟨.attribute, id⟩]
  | .declaredElement id _ => [⟨.element, id⟩]

def Content.symbols (content : Content) : List Symbol :=
  content.base.toList.flatMap (fun id => [⟨.type, id⟩]) ++ content.members.flatMap Member.symbols

section

variable {pairing : Pairing}

theorem TypeTarget.Matches.symbols {target other : TypeTarget} (h : target.Matches pairing other) :
    List.Forall₂ (Symbol.Matches pairing) target.symbols other.symbols := by
  cases h with
  | builtin type => exact .nil
  | simple hpaired => exact .cons (.mk hpaired) .nil
  | complex hpaired => exact .cons (.mk hpaired) .nil

theorem SchemaSet.Target.Matches.symbols {kind : SymbolKind} {target other : SchemaSet.Target kind}
    (h : target.Matches pairing other) :
    List.Forall₂ (Symbol.Matches pairing) target.symbols other.symbols :=
  .cons (.mk h.id)
    (Mentions.matches_all (toList_rel h.type) fun _ _ => TypeRef.Matches.mentions).symbols

theorem Member.Matches.symbols {member other : Member} (h : member.Matches pairing other) :
    List.Forall₂ (Symbol.Matches pairing) member.symbols other.symbols := by
  obtain ⟨name, source⟩ := member
  obtain ⟨name', source'⟩ := other
  obtain ⟨_, hsource⟩ := h
  cases hsource with
  | declaredAttribute hpaired => exact .cons (.mk hpaired) .nil
  | declaredElement context hpaired => exact .cons (.mk hpaired) .nil

theorem Content.Matches.symbols {content other : Content} (h : content.Matches pairing other) :
    List.Forall₂ (Symbol.Matches pairing) content.symbols other.symbols :=
  List.rel_append
    (List.rel_flatMap (toList_rel h.base) fun _ _ hpaired => .cons (.mk hpaired) .nil)
    (List.rel_flatMap h.members fun _ _ => Member.Matches.symbols)

theorem symbols_of_ids {kind : SymbolKind} {ids others : List (Id kind)}
    (h : List.Forall₂ pairing.id ids others) :
    List.Forall₂ (Symbol.Matches pairing) (ids.map (Symbol.mk kind))
      (others.map (Symbol.mk kind)) := by
  rw [List.forall₂_map_left_iff, List.forall₂_map_right_iff]
  exact h.imp fun _ _ => .mk

end

namespace Query

def symbols : Query → List Symbol
  | elementTarget id => [⟨.element, id⟩]
  | elementType id => [⟨.element, id⟩]
  | elementName id => [⟨.element, id⟩]
  | attributeTarget id => [⟨.attribute, id⟩]
  | attributeType id => [⟨.attribute, id⟩]
  | attributeName id => [⟨.attribute, id⟩]
  | scalarOf target => target.symbols
  | content id => [⟨.type, id⟩]
  | attributeGroup id => [⟨.attributeGroup, id⟩]
  | group id => [⟨.group, id⟩]

/-- The components that an answer leads to. -/
def found : (query : Query) → query.Answer → List Symbol
  | elementTarget _, target => SchemaSet.Target.symbols target
  | elementType _, target => TypeTarget.symbols target
  | elementName _, _ => []
  | attributeTarget _, target => SchemaSet.Target.symbols target
  | attributeType _, target => TypeTarget.symbols target
  | attributeName _, _ => []
  | scalarOf _, _ => []
  | content _, answer => Content.symbols answer
  | attributeGroup _, ids => List.map (Symbol.mk .attribute) ids
  | group _, members => List.flatMap Member.symbols members

end Query

namespace SchemaSet.LaidOut

variable {permissive : Bool} {set : SchemaSet} {layout : Layout}
  (h : set.LaidOut permissive layout)

include h

theorem id_same {kind : SymbolKind} {id : Id kind} (hknown : set.Knows [⟨kind, id⟩]) :
    (Linkage.same set layout).pairing.id id id :=
  h.same_iff.mpr ⟨rfl, hknown _ List.mem_cons_self⟩

/-- What fails as the set itself does shows what is there. -/
theorem shows_of_failure {error failure : Error}
    (hfailure : Failure (Linkage.same set layout).pairing set set error failure) :
    set.Shows error := by
  cases hfailure with
  | unresolved kind name hspan => exact .unresolved kind name hspan.2
  | malformed flaw hspan => exact .malformed flaw hspan.2
  | cyclic hids => exact .cyclic (h.knows_of_matches (symbols_of_ids hids))

theorem lands_of_parallel {α : Type} {related : α → α → Prop} {good : α → Prop}
    {result other : Except Error α} (hresult : h.paired_same.Parallel related result other)
    (hgood : ∀ value value', related value value' → good value) :
    Lands set.Shows good result := by
  cases hresult with
  | ok hvalue => exact .ok (hgood _ _ hvalue)
  | error hfailure => exact .error (h.shows_of_failure hfailure)

theorem typeTarget_same {target : TypeTarget} (hknown : set.Knows target.symbols) :
    target.Matches (Linkage.same set layout).pairing target := by
  cases target with
  | builtin type => exact .builtin type
  | simple id => exact .simple (h.id_same hknown)
  | complex id => exact .complex (h.id_same hknown)

theorem member_same {member : Member} (hknown : set.Knows member.symbols) :
    member.Matches (Linkage.same set layout).pairing member := by
  obtain ⟨name, source⟩ := member
  cases source with
  | declaredAttribute id => exact ⟨rfl, .declaredAttribute (h.id_same hknown)⟩
  | declaredElement id context => exact ⟨rfl, .declaredElement context (h.id_same hknown)⟩

theorem lands_resolveTypeRef {reference : TypeRef} {span : Span}
    (hknown : set.Knows reference.mentions.symbols) (hspan : set.Loaded span.document) :
    Lands set.Shows (fun target => set.Knows target.symbols)
      (set.resolveTypeRef reference span) := by
  have hsame : reference.Matches (Linkage.same set layout).pairing reference := by
    cases reference with
    | named name => exact .named name
    | inline id => exact .inline (h.id_same hknown)
  have hdocument : span.Matches (Linkage.same set layout).pairing span := ⟨rfl, hspan⟩
  exact h.lands_of_parallel (h.paired_same.resolveTypeRef hsame hdocument) fun _ _ hmatches =>
    h.knows_of_matches hmatches.symbols

theorem lands_meaning (query : Query) (hknown : set.Knows query.symbols) :
    Lands set.Shows (fun value => set.Knows (query.found value)) (query.meaning set) := by
  have hanswers := h.paired_same.answers
  have hnothing : set.Knows [] := fun _ hnone => nomatch hnone
  cases query with
  | elementTarget id =>
      exact h.lands_of_parallel (hanswers.elementTarget id id (h.id_same hknown))
        fun _ _ hmatches => h.knows_of_matches hmatches.symbols
  | elementType id =>
      exact h.lands_of_parallel (hanswers.elementType id id (h.id_same hknown))
        fun _ _ hmatches => h.knows_of_matches hmatches.symbols
  | elementName id =>
      exact h.lands_of_parallel (hanswers.elementName id id (h.id_same hknown))
        fun _ _ _ => hnothing
  | attributeTarget id =>
      exact h.lands_of_parallel (hanswers.attributeTarget id id (h.id_same hknown))
        fun _ _ hmatches => h.knows_of_matches hmatches.symbols
  | attributeType id =>
      exact h.lands_of_parallel (hanswers.attributeType id id (h.id_same hknown))
        fun _ _ hmatches => h.knows_of_matches hmatches.symbols
  | attributeName id =>
      exact h.lands_of_parallel (hanswers.attributeName id id (h.id_same hknown))
        fun _ _ _ => hnothing
  | scalarOf target =>
      exact h.lands_of_parallel
        (h.paired_same.scalarAt hanswers.scalar (h.typeTarget_same hknown)) fun _ _ _ => hnothing
  | content id =>
      exact h.lands_of_parallel (hanswers.content id id (h.id_same hknown))
        fun _ _ hmatches => h.knows_of_matches hmatches.symbols
  | attributeGroup id =>
      exact h.lands_of_parallel (hanswers.attributes id id (h.id_same hknown))
        fun _ _ hids => h.knows_of_matches (symbols_of_ids hids)
  | group id =>
      exact h.lands_of_parallel (hanswers.members id id (h.id_same hknown))
        fun _ _ hmembers => h.knows_of_matches
          (List.rel_flatMap hmembers fun _ _ => Member.Matches.symbols)

end SchemaSet.LaidOut

end SchemaBinding
